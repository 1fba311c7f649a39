import Mathlib.Algebra.BigOperators.Group.List.Basic
import Mathlib.Algebra.GroupWithZero.Nat

/-!
# Pairings of two lists

Which elements of one list go with which of another, counted from both sides. Where no side
has more than its share, the pairing is one to one.
-/

namespace StorageManager.Lib.Pairing

set_option autoImplicit false

variable {α β : Type} {R : α → β → Bool} {as : List α} {bs : List β}

theorem countP_eq_sum (p : α → Bool) (as : List α) :
    as.countP p = (as.map fun a => if p a then 1 else 0).sum := by
  induction as with
  | nil => rfl
  | cons a as ih => rw [List.countP_cons, ih, List.map_cons, List.sum_cons, Nat.add_comm]

/-- The pairs, counted from the one side and from the other. -/
theorem sum_countP_comm (R : α → β → Bool) (as : List α) (bs : List β) :
    (as.map fun a => bs.countP (R a)).sum = (bs.map fun b => as.countP (R · b)).sum := by
  induction as with
  | nil => simp
  | cons a as ih =>
    calc ((a :: as).map fun a => bs.countP (R a)).sum
        = bs.countP (R a) + (bs.map fun b => as.countP (R · b)).sum := by
          rw [List.map_cons, List.sum_cons, ih]
      _ = (bs.map fun b => (if R a b then 1 else 0) + as.countP (R · b)).sum := by
          rw [countP_eq_sum, ← List.sum_map_add]
      _ = (bs.map fun b => (a :: as).countP (R · b)).sum := by
          simp only [List.countP_cons, Nat.add_comm]

/-- Where each takes at least one and there is no more than one for each, each takes one. -/
theorem eq_one_of_sum_le {ns : List Nat} (hpos : ∀ n ∈ ns, 1 ≤ n) (hsum : ns.sum ≤ ns.length) :
    ∀ n ∈ ns, n = 1 := by
  induction ns with
  | nil => exact nofun
  | cons n ns ih =>
    have hn : 1 ≤ n := hpos n List.mem_cons_self
    have hrest : ∀ m ∈ ns, 1 ≤ m := fun m hm => hpos m (.tail _ hm)
    have hle : ns.length ≤ ns.sum := List.length_le_sum_of_one_le ns hrest
    rw [List.sum_cons, List.length_cons] at hsum
    intro m hm
    rcases List.mem_cons.mp hm with rfl | hm
    · omega
    · exact ih hrest (by omega) m hm

theorem sum_le_length {ns : List Nat} (h : ∀ n ∈ ns, n ≤ 1) : ns.sum ≤ ns.length := by
  induction ns with
  | nil => exact Nat.le_refl 0
  | cons n ns ih =>
    have hn : n ≤ 1 := h n List.mem_cons_self
    have hrest := ih fun m hm => h m (.tail _ hm)
    rw [List.sum_cons, List.length_cons]
    omega

/-- Where each takes at most one and there is one for each, each takes one. -/
theorem eq_one_of_length_le {ns : List Nat} (h : ∀ n ∈ ns, n ≤ 1) (hsum : ns.length ≤ ns.sum) :
    ∀ n ∈ ns, n = 1 := by
  induction ns with
  | nil => exact nofun
  | cons n ns ih =>
    have hn : n ≤ 1 := h n List.mem_cons_self
    have hrest : ∀ m ∈ ns, m ≤ 1 := fun m hm => h m (.tail _ hm)
    have hle : ns.sum ≤ ns.length := sum_le_length hrest
    rw [List.sum_cons, List.length_cons] at hsum
    intro m hm
    rcases List.mem_cons.mp hm with rfl | hm
    · omega
    · exact ih hrest (by omega) m hm

/-- Everything of the second list is covered, nothing of the first goes with two, and the first is
not the longer one: the pairing is one to one. -/
theorem one_to_one (hcovered : ∀ b ∈ bs, ∃ a ∈ as, R a b = true)
    (hsingle : ∀ a ∈ as, bs.countP (R a) ≤ 1) (hfewer : as.length ≤ bs.length) :
    (∀ a ∈ as, bs.countP (R a) = 1) ∧ ∀ b ∈ bs, as.countP (R · b) = 1 := by
  have hpos : ∀ n ∈ bs.map fun b => as.countP (R · b), 1 ≤ n := by
    intro n hn
    obtain ⟨b, hb, rfl⟩ := List.mem_map.mp hn
    obtain ⟨a, ha, hR⟩ := hcovered b hb
    exact List.countP_pos_iff.mpr ⟨a, ha, hR⟩
  have hle : ∀ n ∈ as.map fun a => bs.countP (R a), n ≤ 1 := by
    intro n hn
    obtain ⟨a, ha, rfl⟩ := List.mem_map.mp hn
    exact hsingle a ha
  have hcomm := sum_countP_comm R as bs
  have hbelow := List.length_le_sum_of_one_le _ hpos
  have habove := sum_le_length hle
  rw [List.length_map] at hbelow habove
  constructor
  · intro a ha
    refine eq_one_of_length_le hle ?_ _ (List.mem_map_of_mem ha)
    rw [List.length_map]
    omega
  · intro b hb
    refine eq_one_of_sum_le hpos ?_ _ (List.mem_map_of_mem hb)
    rw [List.length_map]
    omega

theorem length_eq (ha : ∀ a ∈ as, bs.countP (R a) = 1) (hb : ∀ b ∈ bs, as.countP (R · b) = 1) :
    as.length = bs.length := by
  have hcomm := sum_countP_comm R as bs
  rw [List.map_congr_left ha, List.map_congr_left hb] at hcomm
  simpa using hcomm

theorem pairwise_of_countP_le_one {p : α → Bool} (h : as.countP p ≤ 1) :
    as.Pairwise fun a b => ¬(p a = true ∧ p b = true) := by
  induction as with
  | nil => exact .nil
  | cons a as ih =>
    rw [List.countP_cons] at h
    refine .cons ?_ (ih (by omega))
    rintro b hb ⟨ha, hpb⟩
    have hpos : 0 < as.countP p := List.countP_pos_iff.mpr ⟨b, hb, hpb⟩
    rw [if_pos ha] at h
    omega

end StorageManager.Lib.Pairing
