import Mathlib.Data.List.Pairwise
import Mathlib.Data.List.Sort
import Mathlib.Data.Prod.Lex
import Mathlib.Data.String.Basic

/-!
# Ranges on a line

Named ranges, each from its start to before its end. Once they are sorted and no two
neighbours overlap, the run of free places behind one of them ends where the next
begins, or at the end of the line.
-/

namespace StorageManager.Lib.Ranges

set_option autoImplicit false

structure Range where
  start : Nat
  stop : Nat
  name : String
  deriving DecidableEq

/-- The order of the tuples of a start, an end and a name. -/
def Range.le (a b : Range) : Prop :=
  a.start < b.start ∨ (a.start = b.start ∧ (a.stop < b.stop ∨ (a.stop = b.stop ∧ a.name ≤ b.name)))

instance : DecidableRel Range.le := fun _ _ => inferInstanceAs (Decidable (_ ∨ _))

def sorted (ranges : List Range) : List Range := ranges.insertionSort Range.le

/-- Some range of the list begins before the one in front of it ends. -/
def overlaps : List Range → Bool
  | a :: b :: rest => a.stop > b.start || overlaps (b :: rest)
  | _ => false

/-- The first range with this name, and where the range behind it begins. -/
def behind (limit : Nat) (name : String) : List Range → Option (Range × Nat)
  | [] => none
  | a :: rest =>
    if a.name = name then some (a, rest.head?.elim limit (·.start)) else behind limit name rest

variable {limit : Nat} {name : String} {ranges : List Range} {a : Range} {next : Nat}

theorem mem_sorted {r : Range} : r ∈ sorted ranges ↔ r ∈ ranges :=
  (List.perm_insertionSort Range.le ranges).mem_iff

/-- Each range ends before the next begins. -/
def Apart (ranges : List Range) : Prop := ranges.Pairwise fun a b => a.stop ≤ b.start

/-- Ranges that hold something and do not overlap their neighbours overlap nothing. -/
theorem apart_of_not_overlaps (hsizes : ∀ r ∈ ranges, r.start < r.stop)
    (h : overlaps ranges = false) : Apart ranges := by
  induction ranges with
  | nil => exact List.Pairwise.nil
  | cons a rest ih =>
    cases rest with
    | nil => exact List.pairwise_singleton _ _
    | cons b rest =>
      obtain ⟨hab, hrest⟩ := Bool.or_eq_false_iff.mp h
      have hab : a.stop ≤ b.start := by simpa using hab
      have hapart : Apart (b :: rest) := ih (fun r hr => hsizes r (List.mem_cons_of_mem _ hr)) hrest
      refine List.Pairwise.cons (fun c hc => ?_) hapart
      rcases List.mem_cons.mp hc with rfl | hc
      · exact hab
      · have hb := hsizes b (by simp)
        have hbc := (List.pairwise_cons.mp hapart).1 c hc
        omega

theorem overlaps_of_apart (h : Apart ranges) : overlaps ranges = false := by
  induction ranges with
  | nil => rfl
  | cons a rest ih =>
    obtain ⟨ha, hrest⟩ := List.pairwise_cons.mp h
    cases rest with
    | nil => rfl
    | cons b rest =>
      have hab := ha b List.mem_cons_self
      simp [overlaps, ih hrest, hab]

/-- Two ranges that have no place in common. -/
def Disjoint (a b : Range) : Prop := a.stop ≤ b.start ∨ b.stop ≤ a.start

theorem Disjoint.symm {a b : Range} (h : Disjoint a b) : Disjoint b a := Or.symm h

theorem Range.le_total (a b : Range) : a.le b ∨ b.le a := by
  rcases Nat.lt_trichotomy a.start b.start with h | h | h
  · exact .inl (.inl h)
  · rcases Nat.lt_trichotomy a.stop b.stop with h' | h' | h'
    · exact .inl (.inr ⟨h, .inl h'⟩)
    · rcases String.le_total a.name b.name with hname | hname
      · exact .inl (.inr ⟨h, .inr ⟨h', hname⟩⟩)
      · exact .inr (.inr ⟨h.symm, .inr ⟨h'.symm, hname⟩⟩)
    · exact .inr (.inr ⟨h.symm, .inl h'⟩)
  · exact .inr (.inl h)

theorem Range.le_trans {a b c : Range} (hab : a.le b) (hbc : b.le c) : a.le c := by
  rcases hab with h | ⟨h, hab⟩
  · exact .inl (by rcases hbc with hbc | ⟨hbc, -⟩ <;> omega)
  rcases hbc with hbc | ⟨h', hbc⟩
  · exact .inl (by omega)
  refine .inr ⟨h.trans h', ?_⟩
  rcases hab with hab | ⟨hab, hname⟩
  · exact .inl (by rcases hbc with hbc | ⟨hbc, -⟩ <;> omega)
  rcases hbc with hbc | ⟨hbc, hname'⟩
  · exact .inl (by omega)
  · exact .inr ⟨hab.trans hbc, String.le_trans hname hname'⟩

instance : Std.Total Range.le := ⟨Range.le_total⟩

instance : IsTrans Range Range.le := ⟨fun _ _ _ => Range.le_trans⟩

/-- Sorting brings every overlap to a pair of neighbours. -/
theorem overlaps_sorted_iff (hsizes : ∀ r ∈ ranges, r.start < r.stop) :
    overlaps (sorted ranges) = false ↔ ranges.Pairwise Disjoint := by
  have hperm : (sorted ranges).Perm ranges := List.perm_insertionSort Range.le ranges
  have hsizes' : ∀ r ∈ sorted ranges, r.start < r.stop := fun r hr => hsizes r (mem_sorted.mp hr)
  rw [← hperm.pairwise_iff (fun h => Disjoint.symm h)]
  constructor
  · intro h
    exact (apart_of_not_overlaps hsizes' h).imp fun hab => .inl hab
  · intro h
    apply overlaps_of_apart
    have hsorted : (sorted ranges).Pairwise Range.le := List.pairwise_insertionSort Range.le ranges
    refine (hsorted.and h).imp_of_mem fun {a b} _ hb hab => ?_
    obtain ⟨hle, hdisjoint | hdisjoint⟩ := hab
    · exact hdisjoint
    · -- the later of the two in the order cannot end before the earlier begins
      have hsize := hsizes' b hb
      unfold Range.le at hle
      omega

/-- Where a range stands that was found by its name. -/
theorem behind_eq_some (h : behind limit name ranges = some (a, next)) :
    ∃ before after, ranges = before ++ a :: after ∧ a.name = name ∧
      next = after.head?.elim limit (·.start) := by
  induction ranges with
  | nil => cases h
  | cons b rest ih =>
    unfold behind at h
    by_cases hb : b.name = name
    · rw [if_pos hb] at h
      cases h
      exact ⟨[], rest, rfl, hb, rfl⟩
    · rw [if_neg hb] at h
      obtain ⟨before, after, rfl, hname, hnext⟩ := ih h
      exact ⟨b :: before, after, rfl, hname, hnext⟩

theorem behind_isSome {r : Range} (hr : r ∈ ranges) (hname : r.name = name) :
    ∃ a next, behind limit name ranges = some (a, next) := by
  induction ranges with
  | nil => cases hr
  | cons b rest ih =>
    unfold behind
    by_cases hb : b.name = name
    · exact ⟨b, _, if_pos hb⟩
    · rw [if_neg hb]
      rcases List.mem_cons.mp hr with rfl | hr
      · exact absurd hname hb
      · exact ih hr

/-- What begins behind a range begins where its free run ends, or later. -/
theorem next_le_start (hapart : Apart ranges) (hsizes : ∀ r ∈ ranges, r.start < r.stop)
    (h : behind limit name ranges = some (a, next)) {b : Range} (hb : b ∈ ranges)
    (hbehind : a.stop ≤ b.start) : next ≤ b.start := by
  obtain ⟨before, after, rfl, -, hnext⟩ := behind_eq_some h
  obtain ⟨-, htail, hcross⟩ := List.pairwise_append.mp hapart
  rcases List.mem_append.mp hb with hb | hb
  · have hba := hcross b hb a List.mem_cons_self
    have ha := hsizes a (by simp)
    have hbsize := hsizes b (by simp [hb])
    omega
  · cases after with
    | nil =>
      rcases List.mem_cons.mp hb with rfl | hb
      · have ha := hsizes b (by simp)
        omega
      · cases hb
    | cons c rest =>
      obtain rfl : next = c.start := hnext
      rcases List.mem_cons.mp hb with rfl | hb
      · have ha := hsizes b (by simp)
        omega
      · rcases List.mem_cons.mp hb with rfl | hb
        · exact le_rfl
        · have hc := hsizes c (by simp)
          have hcb := (List.pairwise_cons.mp (List.pairwise_cons.mp htail).2).1 b hb
          omega

/-- What is disjoint from a range stands before it or behind the free run after it. -/
theorem before_or_behind (hsizes : ∀ r ∈ ranges, r.start < r.stop)
    (hpairs : ranges.Pairwise Disjoint) (h : behind limit name (sorted ranges) = some (a, next))
    {b : Range} (hb : b ∈ ranges) (hdisjoint : Disjoint a b) :
    b.stop ≤ a.start ∨ next ≤ b.start := by
  have hsizes' : ∀ r ∈ sorted ranges, r.start < r.stop := fun r hr => hsizes r (mem_sorted.mp hr)
  have hapart : Apart (sorted ranges) :=
    apart_of_not_overlaps hsizes' ((overlaps_sorted_iff hsizes).mpr hpairs)
  rcases hdisjoint with hbehind | hbefore
  · exact .inr (next_le_start hapart hsizes' h (mem_sorted.mpr hb) hbehind)
  · exact .inl hbefore

/-- The free run behind a range begins at its end and ends at a range or at the limit. -/
theorem next_cases (hapart : Apart ranges) (hlimit : ∀ r ∈ ranges, r.stop ≤ limit)
    (h : behind limit name ranges = some (a, next)) :
    a ∈ ranges ∧ a.name = name ∧ a.stop ≤ next ∧
      (next = limit ∨ ∃ b ∈ ranges, b.start = next ∧ a.stop ≤ b.start) := by
  obtain ⟨before, after, rfl, hname, hnext⟩ := behind_eq_some h
  refine ⟨by simp, hname, ?_⟩
  cases after with
  | nil =>
    obtain rfl : next = limit := hnext
    exact ⟨hlimit a (by simp), .inl rfl⟩
  | cons c rest =>
    obtain rfl : next = c.start := hnext
    have hac := (List.pairwise_cons.mp (List.pairwise_append.mp hapart).2.1).1 c
      List.mem_cons_self
    exact ⟨hac, .inr ⟨c, by simp, rfl, hac⟩⟩

/-- Of ranges that overlap nowhere, none but the range itself reaches into the free run behind
it. -/
theorem clear_of_run (hsizes : ∀ r ∈ ranges, r.start < r.stop) (hpairs : ranges.Pairwise Disjoint)
    (h : behind limit name (sorted ranges) = some (a, next)) {b : Range} (hb : b ∈ ranges) :
    b = a ∨ b.stop ≤ a.start ∨ next ≤ b.start := by
  by_cases hba : b = a
  · exact .inl hba
  · obtain ⟨before, after, hsplit, -⟩ := behind_eq_some h
    have ha : a ∈ ranges := mem_sorted.mp (hsplit ▸ by simp)
    have : Std.Symm Disjoint := ⟨fun _ _ => Disjoint.symm⟩
    exact .inr (before_or_behind hsizes hpairs h hb (hpairs.forall ha hb (Ne.symm hba)))

/-- The free runs behind two different ranges of the same layout share nothing. -/
theorem runs_apart {ranges' : List Range} {limit' next' : Nat} {name' : String} {b : Range}
    (hsame : ∀ r, r ∈ ranges ↔ r ∈ ranges') (hsizes : ∀ r ∈ ranges, r.start < r.stop)
    (hpairs : ranges.Pairwise Disjoint) (hpairs' : ranges'.Pairwise Disjoint)
    (h : behind limit name (sorted ranges) = some (a, next))
    (h' : behind limit' name' (sorted ranges') = some (b, next')) (hne : b ≠ a) :
    next ≤ b.start ∨ next' ≤ a.start := by
  have hmem : a ∈ ranges := by
    obtain ⟨before, after, hsplit, -⟩ := behind_eq_some h
    exact mem_sorted.mp (hsplit ▸ by simp)
  have hmem' : b ∈ ranges' := by
    obtain ⟨before, after, hsplit, -⟩ := behind_eq_some h'
    exact mem_sorted.mp (hsplit ▸ by simp)
  have hsizes' : ∀ r ∈ ranges', r.start < r.stop := fun r hr => hsizes r ((hsame r).mpr hr)
  rcases clear_of_run hsizes hpairs h ((hsame b).mpr hmem') with heq | hbefore | hbehind
  · exact absurd heq hne
  · rcases clear_of_run hsizes' hpairs' h' ((hsame a).mp hmem) with heq | hbehind | hbehind
    · exact absurd heq.symm hne
    · -- each would stand before the other
      have ha := hsizes a hmem
      have hb := hsizes' b hmem'
      omega
    · exact .inr hbehind
  · exact .inl hbehind

/-- The run behind a range of some that overlap nowhere: the range is one of them, and the run
ends no later than the limit. -/
theorem run_bounds (hsizes : ∀ r ∈ ranges, r.start < r.stop) (hlimit : ∀ r ∈ ranges, r.stop ≤ limit)
    (hpairs : ranges.Pairwise Disjoint)
    (h : behind limit name (sorted ranges) = some (a, next)) :
    a ∈ ranges ∧ a.name = name ∧ a.stop ≤ next ∧ next ≤ limit ∧
      (next = limit ∨ ∃ b ∈ ranges, b.start = next ∧ a.stop ≤ b.start) := by
  have hapart : Apart (sorted ranges) := apart_of_not_overlaps
    (fun r hr => hsizes r (mem_sorted.mp hr)) ((overlaps_sorted_iff hsizes).mpr hpairs)
  obtain ⟨ha, hname, hstop, hends⟩ := next_cases hapart (fun r hr => hlimit r (mem_sorted.mp hr)) h
  refine ⟨mem_sorted.mp ha, hname, hstop, ?_⟩
  rcases hends with rfl | ⟨b, hb, rfl, hbehind⟩
  · exact ⟨le_rfl, .inl rfl⟩
  · have hb := mem_sorted.mp hb
    have hsize := hsizes b hb
    have hfits := hlimit b hb
    exact ⟨by omega, .inr ⟨b, hb, rfl, hbehind⟩⟩

/-- Among fewer ranges the free run behind the same range is no shorter. -/
theorem behind_mono {fewer : List Range} {a' : Range} {next' : Nat} (hapart : Apart ranges)
    (hsizes : ∀ r ∈ ranges, r.start < r.stop) (hlimit : ∀ r ∈ ranges, r.stop ≤ limit)
    (hapart' : Apart fewer) (hfewer : ∀ r ∈ fewer, r ∈ ranges)
    (h : behind limit name ranges = some (a, next))
    (h' : behind limit name fewer = some (a', next')) (hsame : a' = a) : next ≤ next' := by
  subst hsame
  obtain ⟨ha, -, hstop, hends⟩ := next_cases hapart hlimit h
  obtain ⟨-, -, -, hends'⟩ := next_cases hapart' (fun r hr => hlimit r (hfewer r hr)) h'
  rcases hends' with rfl | ⟨b, hb, rfl, hbehind⟩
  · rcases hends with rfl | ⟨c, hc, rfl, -⟩
    · exact le_rfl
    · have hsize := hsizes c hc
      have hfits := hlimit c hc
      omega
  · exact next_le_start hapart hsizes h (hfewer b hb) hbehind

end StorageManager.Lib.Ranges
