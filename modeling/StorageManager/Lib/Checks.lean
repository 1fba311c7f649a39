import Mathlib.Data.List.Forall2
import Mathlib.Data.List.Nodup
import Mathlib.Logic.Basic

/-!
# Sequences of checks

A validator is a sequence of refusals. It succeeds exactly when none of them fires.
-/

namespace StorageManager.Lib.Checks

set_option autoImplicit false

variable {ε α β : Type}

/-- Stop with an error when the bad case holds. -/
def refuse (bad : Prop) [Decidable bad] (e : ε) : Except ε Unit :=
  if bad then .error e else .ok ()

@[simp] theorem refuse_eq_ok_iff {bad : Prop} [Decidable bad] {e : ε} :
    refuse bad e = .ok () ↔ ¬bad := by
  unfold refuse
  split <;> simp_all

@[simp] theorem refuse_eq_error_iff {bad : Prop} [Decidable bad] {e e' : ε} :
    refuse bad e = .error e' ↔ bad ∧ e = e' := by
  unfold refuse
  split <;> simp_all

theorem bind_eq_ok_iff {x : Except ε α} {f : α → Except ε β} {b : β} :
    (x >>= f) = .ok b ↔ ∃ a, x = .ok a ∧ f a = .ok b := by
  cases x <;> simp [bind, Except.bind]

theorem exists_bind_ok_iff {x : Except ε α} {f : α → Except ε β} :
    (∃ b, (x >>= f) = .ok b) ↔ ∃ a, x = .ok a ∧ ∃ b, f a = .ok b := by
  cases x <;> simp [bind, Except.bind]

theorem exists_bind_some_iff {x : Option α} {f : α → Option β} :
    (∃ b, (x >>= f) = some b) ↔ ∃ a, x = some a ∧ ∃ b, f a = some b := by
  cases x <;> simp

/-- A check followed by more checks. -/
theorem check_eq_ok_iff {x : Except ε Unit} {f : Unit → Except ε β} {b : β} :
    (x >>= f) = .ok b ↔ x = .ok () ∧ f () = .ok b := by
  cases x <;> simp [bind, Except.bind]

/-- The result of a check says nothing more. -/
theorem exists_check_iff {x : Except ε Unit} {p : Unit → Prop} :
    (∃ u, x = .ok u ∧ p u) ↔ x = .ok () ∧ p () :=
  ⟨fun ⟨(), hx, hp⟩ => ⟨hx, hp⟩, fun ⟨hx, hp⟩ => ⟨(), hx, hp⟩⟩

@[simp] theorem mapError_eq_ok_iff {ε' : Type} {x : Except ε α} {f : ε → ε'} {a : α} :
    x.mapError f = .ok a ↔ x = .ok a := by
  cases x <;> simp [Except.mapError]

@[simp] theorem guard_eq_some_iff {p : Prop} [Decidable p] {u : Unit} :
    (guard p : Option Unit) = some u ↔ p := by
  by_cases hp : p <;> simp [guard, hp]

@[simp] theorem toOption_eq_some_iff {x : Except ε α} {a : α} :
    x.toOption = some a ↔ x = .ok a := by
  cases x <;> simp [Except.toOption]

/-- `Option::ok_or`. -/
def okOr (x : Option α) (e : ε) : Except ε α := x.elim (.error e) .ok

@[simp] theorem okOr_eq_ok_iff {x : Option α} {e : ε} {a : α} :
    okOr x e = .ok a ↔ x = some a := by
  cases x <;> simp [okOr]

/-- The one element that fits. -/
def unique (fits : α → Bool) (as : List α) (e : ε) : Except ε α :=
  match as.filter fits with
  | [a] => .ok a
  | _ => .error e

@[simp] theorem unique_eq_ok_iff {fits : α → Bool} {as : List α} {e : ε} {a : α} :
    unique fits as e = .ok a ↔ as.filter fits = [a] := by
  unfold unique
  split <;> simp_all

/-- The same check for every element of a list, in order. -/
def checkAll (check : α → Except ε Unit) : List α → Except ε Unit
  | [] => .ok ()
  | a :: as => do
    check a
    checkAll check as

@[simp] theorem checkAll_eq_ok_iff {check : α → Except ε Unit} {as : List α} :
    checkAll check as = .ok () ↔ ∀ a ∈ as, check a = .ok () := by
  induction as with
  | nil => simp [checkAll]
  | cons a as ih => rw [checkAll, check_eq_ok_iff, ih, List.forall_mem_cons]

/-- The results of a fallible function over a list, up to its first error. -/
def collect (f : α → Except ε β) : List α → Except ε (List β)
  | [] => .ok []
  | a :: as => do
    let b ← f a
    let bs ← collect f as
    pure (b :: bs)

theorem collect_eq_ok_iff {f : α → Except ε β} {as : List α} {bs : List β} :
    collect f as = .ok bs ↔ List.Forall₂ (fun a b => f a = .ok b) as bs := by
  induction as generalizing bs with
  | nil => cases bs <;> simp [collect]
  | cons a as ih =>
    rw [collect, bind_eq_ok_iff]
    cases bs with
    | nil => simp [bind_eq_ok_iff, pure, Except.pure]
    | cons b bs => simp [bind_eq_ok_iff, pure, Except.pure, ih]

section Single

variable {as : List α} {fits : α → Bool} {a b : α}

theorem mem_of_filter_eq_singleton (h : as.filter fits = [a]) : a ∈ as ∧ fits a = true :=
  List.mem_filter.mp (h ▸ List.mem_singleton_self a)

theorem eq_of_filter_eq_singleton (h : as.filter fits = [a]) (hb : b ∈ as)
    (hfits : fits b = true) : b = a :=
  List.mem_singleton.mp (h ▸ List.mem_filter.mpr ⟨hb, hfits⟩)

/-- The one element of a list without repetitions that fits. -/
theorem filter_eq_singleton_iff (h : as.Nodup) : as.filter fits = [a] ↔
    (a ∈ as ∧ fits a = true) ∧ ∀ b ∈ as, fits b = true → b = a := by
  constructor
  · intro hone
    exact ⟨mem_of_filter_eq_singleton hone, fun b hb hfits => eq_of_filter_eq_singleton hone hb hfits⟩
  · intro ⟨⟨ha, hfits⟩, honly⟩
    rw [← List.perm_singleton,
      List.perm_ext_iff_of_nodup (h.filter fits) (List.nodup_singleton a)]
    intro b
    rw [List.mem_filter, List.mem_singleton]
    constructor
    · intro hb
      exact honly b hb.1 hb.2
    · intro heq
      rw [heq]
      exact ⟨ha, hfits⟩

/-- Where no key stands twice, it picks its element. -/
theorem filter_eq_singleton_of_nodup {key : α → β} [DecidableEq β] (h : (as.map key).Nodup)
    (ha : a ∈ as) : as.filter (key · = key a) = [a] := by
  rw [filter_eq_singleton_iff (List.Nodup.of_map key h)]
  refine ⟨⟨ha, decide_eq_true rfl⟩, fun b hb hkey => ?_⟩
  exact List.inj_on_of_nodup_map h hb ha (of_decide_eq_true hkey)

end Single

/-- The results of a function over a list, if it has one everywhere. -/
def gather (f : α → Option β) : List α → Option (List β)
  | [] => some []
  | a :: as => do
    let b ← f a
    let bs ← gather f as
    some (b :: bs)

theorem gather_eq_some_iff {f : α → Option β} {as : List α} {bs : List β} :
    gather f as = some bs ↔ List.Forall₂ (fun a b => f a = some b) as bs := by
  induction as generalizing bs with
  | nil => cases bs <;> simp [gather]
  | cons a as ih =>
    cases bs with
    | nil => simp [gather, Option.bind_eq_some_iff]
    | cons b bs => simp [gather, Option.bind_eq_some_iff, ih]

section Membership

variable {R : α → β → Prop} {as : List α} {bs : List β}

theorem exists_right_of_forall₂ (h : List.Forall₂ R as bs) {a : α} (ha : a ∈ as) :
    ∃ b ∈ bs, R a b := by
  induction h with
  | nil => cases ha
  | cons hhead _ ih =>
    rcases List.mem_cons.mp ha with rfl | ha
    · exact ⟨_, List.mem_cons_self, hhead⟩
    · obtain ⟨b, hb, hab⟩ := ih ha
      exact ⟨b, List.mem_cons_of_mem _ hb, hab⟩

theorem exists_left_of_forall₂ (h : List.Forall₂ R as bs) {b : β} (hb : b ∈ bs) :
    ∃ a ∈ as, R a b :=
  exists_right_of_forall₂ (R := flip R) h.flip hb

theorem exists_forall₂ (h : ∀ a ∈ as, ∃ b, R a b) : ∃ bs, List.Forall₂ R as bs := by
  induction as with
  | nil => exact ⟨[], .nil⟩
  | cons a as ih =>
    obtain ⟨⟨b, hb⟩, hrest⟩ := List.forall_mem_cons.mp h
    obtain ⟨bs, hbs⟩ := ih hrest
    exact ⟨b :: bs, .cons hb hbs⟩

end Membership

section Pointwise

variable {p : α → Prop} {g : α → β}

theorem forall₂_map_iff {as : List α} {bs : List β} :
    List.Forall₂ (fun a b => p a ∧ b = g a) as bs ↔ (∀ a ∈ as, p a) ∧ bs = as.map g := by
  induction as generalizing bs with
  | nil => cases bs <;> simp
  | cons a as ih =>
    cases bs with
    | nil => simp
    | cons b bs =>
      rw [List.forall₂_cons, ih, List.forall_mem_cons, List.map_cons, List.cons.injEq]
      constructor
      · rintro ⟨⟨ha, rfl⟩, has, rfl⟩
        exact ⟨⟨ha, has⟩, rfl, rfl⟩
      · rintro ⟨⟨ha, has⟩, rfl, rfl⟩
        exact ⟨⟨ha, rfl⟩, has, rfl⟩

theorem collect_eq_ok_map_iff {f : α → Except ε β} (h : ∀ a b, f a = .ok b ↔ p a ∧ b = g a)
    {as : List α} {bs : List β} :
    collect f as = .ok bs ↔ (∀ a ∈ as, p a) ∧ bs = as.map g := by
  rw [collect_eq_ok_iff, ← forall₂_map_iff]
  simp only [h]

theorem gather_eq_some_map_iff {f : α → Option β} (h : ∀ a b, f a = some b ↔ p a ∧ b = g a)
    {as : List α} {bs : List β} :
    gather f as = some bs ↔ (∀ a ∈ as, p a) ∧ bs = as.map g := by
  rw [gather_eq_some_iff, ← forall₂_map_iff]
  simp only [h]

end Pointwise

end StorageManager.Lib.Checks
