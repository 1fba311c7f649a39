import Mathlib.Data.List.Induction
import StorageManager.Lib.Journaled
import StorageManager.Lib.Looking

/-!
# Journals that end in recovery

Some programs persist the recovery step after every failure, also when persisting a step failed
and a restart may find either record. This keeps the law when the recovery record ranks above
all others. A ledger adds an account: what the log must hold before a record can be found.
-/

namespace StorageManager.Lib.Recovering

open Effects RecordFile WriteAhead Journaled Looking

set_option autoImplicit false

/-- A journal whose recovery step outranks every record, and the account of its records. A
recovery record needs no account. -/
structure Ledger (ρ : Type) (E : Env) extends Journal ρ E where
  recover : Transition
  account : List (Entry (interface ρ E)) → ρ → Prop
  account_append : ∀ {log ext r}, account log r → account (log ++ ext) r
  recover_rank : ∀ {r r'}, step recover r = .ok r' → ∀ v, rank v ≤ rank (some r')
  recover_account : ∀ {r r' log}, step recover r = .ok r' → account log r'

variable {ρ : Type} {E : Env} {μ ε α β : Type} (L : Ledger ρ E)

/-- The law of the journal, and every record a restart can find is accounted for. -/
structure Kept (s : St (interface ρ E)) : Prop where
  law : Lawful L.toJournal s
  accounted : ∀ r, some r ∈ s.world.possible → L.account s.log r

variable {L} {r r' : ρ} {a : L.Act} {s t : St (interface ρ E)}

theorem Kept.init : Kept L ⟨.holding none, []⟩ := by
  refine ⟨.init none, fun r hr => ?_⟩
  rw [File.holding_possible, List.mem_singleton] at hr
  cases hr

theorem Kept.restart {f : File ρ} (h : Kept L s) (hf : s.world.Restart f) :
    Kept L ⟨f, s.log⟩ := by
  refine ⟨h.law.restart hf, fun r hr => ?_⟩
  obtain ⟨v, hv, rfl⟩ := hf
  rw [File.holding_possible, List.mem_singleton] at hr
  exact h.accounted r (hr ▸ hv)

/-- A longer log accounts for the records that could be found before. -/
theorem Kept.grown {P : Entry (interface ρ E) → Prop} (h : Kept L s) (hl : Lawful L.toJournal t)
    (hg : Grew P s t) (hw : t.world = s.world) : Kept L t := by
  refine ⟨hl, fun r hr => ?_⟩
  obtain ⟨ext, hext, -⟩ := hg
  rw [hw] at hr
  rw [hext]
  exact L.account_append (h.accounted r hr)

theorem Kept.silent (h : Kept L s) (hst : Silent L.toDiscipline s t) : Kept L t :=
  h.grown (h.law.silent hst) hst.1 hst.2

/-- The file holds a record that is accounted for. -/
theorem Kept.settled (h : Kept L s) (ht : Filed s (.holding (some r)) t)
    (hrank : L.rank s.world.visible ≤ L.rank (some r)) (haccount : L.account s.log r) :
    Kept L t := by
  refine ⟨h.law.settled ht hrank, fun v hv => ?_⟩
  rw [ht.world, File.holding_possible, List.mem_singleton] at hv
  obtain ⟨ext, hext, -⟩ := ht.log
  cases hv
  rw [hext]
  exact L.account_append haccount

/-- Nothing happened, or such a record is visible. -/
theorem Kept.unsettled {f : File ρ} (h : Kept L s) (ht : Filed s f t)
    (hf : Unsettled r s.world f) (hrank : L.rank s.world.visible ≤ L.rank (some r))
    (haccount : L.account s.log r) : Kept L t := by
  refine ⟨h.law.unsettled ht hf hrank, fun v hv => ?_⟩
  obtain ⟨ext, hext, -⟩ := ht.log
  rw [hext]
  refine L.account_append ?_
  rw [ht.world] at hv
  rcases hf with rfl | rfl
  · exact h.accounted v hv
  · rw [File.replace_possible, List.mem_cons] at hv
    rcases hv with hv | hv
    · cases hv
      exact haccount
    · exact h.accounted v hv

/-- The first record, or an attempt to make it. -/
theorem Kept.created {f : File ρ} (h : Kept L s) (ht : Filed s f t)
    (hf : f = s.world ∨ s.world.visible = none ∧ f = s.world.replace r)
    (hrank : L.rank none ≤ L.rank (some r)) (haccount : L.account s.log r) : Kept L t := by
  rcases hf with rfl | ⟨hnone, rfl⟩
  · exact h.silent ⟨.of_filed ht, ht.world⟩
  · exact h.unsettled ht (.inr rfl) (hnone ▸ hrank) haccount

/-- Making the first record. -/
theorem creates_holds {m : μ} {p : FileProc ρ E μ ε Unit} (h : Kept L s) (hp : Creates r p)
    (hrank : L.rank none ≤ L.rank (some r)) (haccount : ∀ log, L.account log r) :
    p.Holds m s (fun _ _ t => Kept L t) (fun _ _ t => Kept L t) (Kept L) := by
  refine (hp m s s.world s (Filed.refl s)).mono ?_ ?_ ?_
  · rintro _ _ t ⟨-, hnone, ht⟩
    exact h.settled ht (hnone ▸ hrank) (haccount _)
  · rintro _ _ t ⟨-, f, hf, ht⟩
    exact h.created ht hf hrank (haccount _)
  · rintro t ⟨f, hf, ht⟩
    exact h.created ht hf hrank (haccount _)

/-- A step of the record in memory, whatever the file holds: the record it makes ranks above
what is visible and is accounted for. -/
theorem step_holds (h : Kept L s) (t : L.Transition)
    (hstep : ∀ r', L.step t r = .ok r' →
      L.rank s.world.visible ≤ L.rank (some r') ∧ L.account s.log r') :
    (persistStep (L.step t) L.persist).Holds r s
      (fun _ r' s' => L.step t r = .ok r' ∧ s'.world = .holding (some r') ∧ Kept L s' ∧
        Quiet L.toDiscipline s s')
      (fun _ _ s' => Kept L s') (Kept L) := by
  have pending : ∀ f' s', Pending (L.step t) r s.world f' → Filed s f' s' → Kept L s' := by
    rintro f' s' (rfl | ⟨next, hnext, rfl⟩) hf
    · exact h.silent ⟨.of_filed hf, hf.world⟩
    · exact h.unsettled hf (.inr rfl) (hstep next hnext).1 (hstep next hnext).2
  refine (persistStep_holds L.persist_rewrites (Filed.refl s)).mono ?_ ?_ ?_
  · rintro _ r' s' ⟨hr', hf⟩
    exact ⟨hr', hf.world, h.settled hf (hstep r' hr').1 (hstep r' hr').2, .of_filed hf⟩
  · rintro e r' s' ⟨-, f', hp, hf⟩
    exact pending f' s' hp hf
  · rintro s' ⟨f', hp, hf⟩
    exact pending f' s' hp hf

/-- The recovery step needs nothing. -/
theorem persistRecovery_holds (h : Kept L s) (failed : ε → L.Error → ε) (runtime : ε)
    {ok : α → ρ → St (interface ρ E) → Prop} :
    (persistRecovery (persistStep (L.step L.recover) L.persist) failed runtime :
      FileProc ρ E ρ ε α).Holds r s ok (fun _ _ s' => Kept L s') (Kept L) := by
  unfold persistRecovery
  have hrecover := step_holds (r := r) h L.recover fun r' hr' =>
    ⟨L.recover_rank hr' _, L.recover_account hr'⟩
  refine Proc.holds_bind.mpr (Proc.holds_attempt.mpr (hrecover.mono ?_ ?_ fun _ h => h))
  · rintro _ r' s' ⟨-, -, hkept, -⟩
    exact hkept
  · exact fun _ _ _ hkept => hkept

/-- An operation in the middle of a program, whose failure is recorded. -/
theorem orRecovery_then {p : FileProc ρ E ρ ε α} {k : α → FileProc ρ E ρ ε β}
    {failed : ε → L.Error → ε} {mid : α → ρ → St (interface ρ E) → Prop}
    {ok : β → ρ → St (interface ρ E) → Prop}
    (h : p.Holds r s mid (fun _ _ s' => Kept L s') (Kept L))
    (hk : ∀ a r' s', mid a r' s' → (k a).Holds r' s' ok (fun _ _ s' => Kept L s') (Kept L)) :
    (orRecovery (persistStep (L.step L.recover) L.persist) failed p >>= k).Holds r s ok
      (fun _ _ s' => Kept L s') (Kept L) := by
  unfold orRecovery
  refine Proc.Holds.bind (Proc.holds_bind.mpr (Proc.holds_attempt.mpr
    (h.mono ?_ ?_ fun _ h => h))) hk
  · exact fun a r' s' hmid => hmid
  · exact fun e r' s' hkept => persistRecovery_holds hkept failed e

/-- A step on the way, whose failure is the caller's. -/
theorem step_then (h : Kept L s) (t : L.Transition) {journal : L.Error → ε}
    {k : Unit → FileProc ρ E ρ ε α} {ok : α → ρ → St (interface ρ E) → Prop}
    (hstep : ∀ r', L.step t r = .ok r' →
      L.rank s.world.visible ≤ L.rank (some r') ∧ L.account s.log r')
    (hk : ∀ r' s', L.step t r = .ok r' → s'.world = .holding (some r') → Kept L s' →
      Quiet L.toDiscipline s s' →
      (k ()).Holds r' s' ok (fun _ _ s' => Kept L s') (Kept L)) :
    ((persistStep (L.step t) L.persist).mapError journal >>= k).Holds r s ok
      (fun _ _ s' => Kept L s') (Kept L) := by
  refine Proc.holds_bind.mpr (Proc.holds_mapError.mpr ((step_holds h t hstep).mono ?_
    (fun _ _ _ h => h) fun _ h => h))
  rintro _ r' s' ⟨hr', hw, hkept, hquiet⟩
  exact hk r' s' hr' hw hkept hquiet

/-- A step on the way, whose failure is recorded. -/
theorem step_orRecovery_then (h : Kept L s) (t : L.Transition) {journal : L.Error → ε}
    {failed : ε → L.Error → ε} {k : Unit → FileProc ρ E ρ ε α}
    {ok : α → ρ → St (interface ρ E) → Prop}
    (hstep : ∀ r', L.step t r = .ok r' →
      L.rank s.world.visible ≤ L.rank (some r') ∧ L.account s.log r')
    (hk : ∀ r' s', L.step t r = .ok r' → s'.world = .holding (some r') → Kept L s' →
      Quiet L.toDiscipline s s' →
      (k ()).Holds r' s' ok (fun _ _ s' => Kept L s') (Kept L)) :
    (orRecovery (persistStep (L.step L.recover) L.persist) failed
      ((persistStep (L.step t) L.persist).mapError journal) >>= k).Holds r s ok
      (fun _ _ s' => Kept L s') (Kept L) := by
  refine orRecovery_then (Proc.holds_mapError.mpr ((step_holds h t hstep).mono
    (fun _ _ _ h => h) (fun _ _ _ h => h) fun _ h => h)) ?_
  rintro _ r' s' ⟨hr', hw, hkept, hquiet⟩
  exact hk r' s' hr' hw hkept hquiet

/-- A check on the way, whose failure is the caller's. -/
theorem check_then {x : Except ε α} {k : α → FileProc ρ E μ ε β} {m : μ}
    {ok : β → μ → St (interface ρ E) → Prop} (h : Kept L s)
    (hk : ∀ a, x = .ok a → (k a).Holds m s ok (fun _ _ s' => Kept L s') (Kept L)) :
    (Proc.lift x >>= k).Holds m s ok (fun _ _ s' => Kept L s') (Kept L) :=
  Proc.holds_bind.mpr (Proc.holds_lift.mpr ⟨hk, fun _ _ => h⟩)

/-- A check on the way, whose failure is recorded. -/
theorem check_orRecovery_then {x : Except ε α} {k : α → FileProc ρ E ρ ε β}
    {failed : ε → L.Error → ε} {ok : β → ρ → St (interface ρ E) → Prop} (h : Kept L s)
    (hk : ∀ a, x = .ok a → (k a).Holds r s ok (fun _ _ s' => Kept L s') (Kept L)) :
    (orRecovery (persistStep (L.step L.recover) L.persist) failed (Proc.lift x) >>= k).Holds r s ok
      (fun _ _ s' => Kept L s') (Kept L) := by
  have hcheck : (Proc.lift x : FileProc ρ E ρ ε α).Holds r s
      (fun a r' s' => x = .ok a ∧ r' = r ∧ s' = s) (fun _ _ s' => Kept L s') (Kept L) :=
    Proc.holds_lift.mpr ⟨fun a ha => ⟨ha, rfl, rfl⟩, fun _ _ => h⟩
  refine orRecovery_then hcheck ?_
  rintro a r' s' ⟨ha, rfl, rfl⟩
  exact hk a ha

/-- A part that only looks, whose failure is the caller's. -/
theorem looks_then {p : FileProc ρ E ρ ε α} {k : α → FileProc ρ E ρ ε β}
    {P : File ρ → α → List (Entry (interface ρ E)) → Prop}
    {ok : β → ρ → St (interface ρ E) → Prop} (h : Kept L s) (hp : Looks L.toDiscipline p P)
    (hk : ∀ a seen s', P s.world a seen → Saw L.toDiscipline seen s s' →
      (k a).Holds r s' ok (fun _ _ s' => Kept L s') (Kept L)) :
    (p >>= k).Holds r s ok (fun _ _ s' => Kept L s') (Kept L) := by
  refine Proc.holds_bind.mpr ((hp r s).mono ?_ ?_ fun _ ht => h.silent ht)
  · rintro a r' s' ⟨rfl, seen, hseen, hst⟩
    exact hk a seen s' hseen hst
  · exact fun _ _ _ ht => h.silent ht.2

/-- A part that only looks, whose failure is recorded. -/
theorem looks_orRecovery_then {p : FileProc ρ E ρ ε α} {k : α → FileProc ρ E ρ ε β}
    {P : File ρ → α → List (Entry (interface ρ E)) → Prop} {failed : ε → L.Error → ε}
    {ok : β → ρ → St (interface ρ E) → Prop} (h : Kept L s) (hp : Looks L.toDiscipline p P)
    (hk : ∀ a seen s', P s.world a seen → Saw L.toDiscipline seen s s' →
      (k a).Holds r s' ok (fun _ _ s' => Kept L s') (Kept L)) :
    (orRecovery (persistStep (L.step L.recover) L.persist) failed p >>= k).Holds r s ok
      (fun _ _ s' => Kept L s') (Kept L) := by
  refine orRecovery_then ((hp r s).mono (fun _ _ _ ht => ht) ?_ fun _ ht => h.silent ht) ?_
  · exact fun _ _ _ ht => h.silent ht.2
  · rintro a r' s' ⟨rfl, seen, hseen, hst⟩
    exact hk a seen s' hseen hst

/-- An action that is ready, performed. -/
theorem ask_holds {op : E.Op} (h : Kept L s) (hready : Ready L.toJournal a r s)
    (hop : L.act op = some a) {m : μ} :
    (ask op : FileProc ρ E μ ε (E.Ans op)).Holds m s
      (fun answer m' t => m' = m ∧ Kept L t ∧ t = s.call (.inr op) answer) (fun _ _ _ => False)
      (Kept L) := by
  refine holds_ask.mpr ⟨h, fun answer => ⟨rfl, ?_, rfl⟩⟩
  have hlaw : Lawful L.toJournal (s.call (.inr op) answer) :=
    h.law.act hready.world hop hready.fresh hready.need hready.allowed answer
  exact h.grown (P := fun _ => True) hlaw ((Grew.refl s).call trivial) rfl

/-- When every action meets a log without one there is at most one. The induction takes entries
off the end of the log. -/
theorem acts_length_le_one {D : Discipline ρ E} : ∀ {log : List (Entry (interface ρ E))},
    (∀ pre e post a, log = pre ++ e :: post → D.actOf e = some a → D.acts pre = []) →
    (D.acts log).length ≤ 1 := by
  intro log
  induction log using List.reverseRecOn with
  | nil => exact fun _ => Nat.zero_le 1
  | append_singleton log e ih =>
    intro h
    rw [Discipline.acts, List.filterMap_append]
    cases he : D.actOf e with
    | none =>
      rw [List.filterMap_cons_none he, List.filterMap_nil, List.append_nil]
      refine ih fun pre e' post a hlog ha => ?_
      refine h pre e' (post ++ [e]) a ?_ ha
      rw [hlog, List.append_assoc, List.cons_append]
    | some a =>
      have hnone : D.acts log = [] := h log e [] a rfl he
      rw [show log.filterMap D.actOf = [] from hnone, List.filterMap_cons_some he]
      exact Nat.le_refl 1

end StorageManager.Lib.Recovering
