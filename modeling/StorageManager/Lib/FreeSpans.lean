import Mathlib.Data.List.Pairwise
import Mathlib.Data.List.Sort

/-!
# Free spans between occupied ones

Occupied spans in the order of their starts are merged where they touch, and one sweep over
them leaves the spans that are free up to a limit. Of several spans with one start any order
will do.
-/

namespace StorageManager.Lib.FreeSpans

set_option autoImplicit false

/-- The places from the start to before the stop. -/
structure Span where
  start : Nat
  stop : Nat
  deriving DecidableEq

def Span.Holds (s : Span) (p : Nat) : Prop := s.start ≤ p ∧ p < s.stop

/-- Some span of the list holds the place. -/
def Covered (spans : List Span) (p : Nat) : Prop := ∃ s ∈ spans, s.Holds p

/-- In the order of their starts, and each holds something. -/
structure Ordered (spans : List Span) : Prop where
  starts : spans.Pairwise fun a b => a.start ≤ b.start
  sizes : ∀ s ∈ spans, s.start < s.stop

def Span.le (a b : Span) : Prop := a.start ≤ b.start

instance : DecidableRel Span.le := fun a b => inferInstanceAs (Decidable (a.start ≤ b.start))

instance : Std.Total Span.le := ⟨fun a b => Nat.le_total a.start b.start⟩

instance : IsTrans Span Span.le := ⟨fun _ _ _ => Nat.le_trans⟩

/-- The spans in the order of their starts. -/
def sorted (spans : List Span) : List Span := spans.insertionSort Span.le

/-- The span joined with the ones that begin before it ends, then the rest. -/
def mergeFrom (current : Span) : List Span → List Span
  | [] => [current]
  | s :: rest =>
    if s.start ≤ current.stop then mergeFrom ⟨current.start, max current.stop s.stop⟩ rest
    else current :: mergeFrom s rest

def merge : List Span → List Span
  | [] => []
  | s :: rest => mergeFrom s rest

/-- The free spans before each of the spans, from a cursor on. -/
def gaps (cursor : Nat) : List Span → List Span
  | [] => []
  | s :: rest =>
    (if cursor < s.start then [⟨cursor, s.start⟩] else []) ++ gaps (max cursor s.stop) rest

/-- How far the spans reach. -/
def reach (cursor : Nat) : List Span → Nat
  | [] => cursor
  | s :: rest => reach (max cursor s.stop) rest

def tail (limit cursor : Nat) (spans : List Span) : List Span :=
  if reach cursor spans < limit then [⟨reach cursor spans, limit⟩] else []

/-- What a sweep leaves free up to a limit. -/
def free (limit cursor : Nat) (spans : List Span) : List Span :=
  gaps cursor spans ++ tail limit cursor spans

variable {spans rest : List Span} {s : Span} {limit cursor p : Nat}

theorem mem_sorted : s ∈ sorted spans ↔ s ∈ spans :=
  (List.perm_insertionSort Span.le spans).mem_iff

theorem covered_sorted : Covered (sorted spans) p ↔ Covered spans p := by
  simp only [Covered, mem_sorted]

theorem ordered_sorted (h : ∀ s ∈ spans, s.start < s.stop) : Ordered (sorted spans) :=
  ⟨List.pairwise_insertionSort Span.le spans, fun s hs => h s (mem_sorted.mp hs)⟩

section Merge

theorem Ordered.tail (h : Ordered (s :: rest)) : Ordered rest :=
  ⟨(List.pairwise_cons.mp h.starts).2, fun a ha => h.sizes a (List.mem_cons_of_mem _ ha)⟩

theorem Ordered.start_le (h : Ordered (s :: rest)) {a : Span} (ha : a ∈ rest) :
    s.start ≤ a.start :=
  (List.pairwise_cons.mp h.starts).1 a ha

theorem covered_cons : Covered (s :: rest) p ↔ s.Holds p ∨ Covered rest p := by
  simp [Covered]

theorem covered_nil : ¬Covered [] p := by
  simp [Covered]

/-- Joining the first span with the one after it, where they touch, keeps the order. -/
theorem Ordered.join {current : Span} (h : Ordered (current :: s :: rest)) :
    Ordered (⟨current.start, max current.stop s.stop⟩ :: rest) := by
  have hs := h.tail
  refine ⟨List.pairwise_cons.mpr ⟨fun a ha => ?_, (List.pairwise_cons.mp hs.starts).2⟩, ?_⟩
  · exact h.start_le (List.mem_cons_of_mem _ ha)
  · intro a ha
    rcases List.mem_cons.mp ha with rfl | ha
    · have hsize := h.sizes current List.mem_cons_self
      exact hsize.trans_le (Nat.le_max_left _ _)
    · exact hs.sizes a (List.mem_cons_of_mem _ ha)

/-- Merging changes no place. -/
theorem covered_mergeFrom {current : Span} (h : Ordered (current :: rest)) :
    Covered (mergeFrom current rest) p ↔ Covered (current :: rest) p := by
  induction rest generalizing current with
  | nil => rfl
  | cons s rest ih =>
    unfold mergeFrom
    by_cases htouch : s.start ≤ current.stop
    · rw [if_pos htouch, ih h.join, covered_cons, covered_cons, covered_cons]
      have hstart := h.start_le List.mem_cons_self
      have hjoined : (⟨current.start, max current.stop s.stop⟩ : Span).Holds p ↔
          current.Holds p ∨ s.Holds p := by
        simp only [Span.Holds]
        omega
      rw [hjoined, or_assoc]
    · rw [if_neg htouch, covered_cons, ih h.tail, @covered_cons (s :: rest)]

/-- Merged spans stand in order with free places between them. -/
theorem mergeFrom_apart {current : Span} (h : Ordered (current :: rest)) :
    (mergeFrom current rest).Pairwise (fun a b => a.stop < b.start) ∧
      ∀ s ∈ mergeFrom current rest, current.start ≤ s.start ∧ s.start < s.stop := by
  induction rest generalizing current with
  | nil =>
    refine ⟨List.pairwise_singleton _ _, fun s hs => ?_⟩
    obtain rfl := List.mem_singleton.mp hs
    exact ⟨le_rfl, h.sizes s List.mem_cons_self⟩
  | cons s rest ih =>
    unfold mergeFrom
    by_cases htouch : s.start ≤ current.stop
    · rw [if_pos htouch]
      exact ih h.join
    · rw [if_neg htouch]
      obtain ⟨hpairs, hstarts⟩ := ih h.tail
      refine ⟨List.pairwise_cons.mpr ⟨fun a ha => ?_, hpairs⟩, fun a ha => ?_⟩
      · have hstart := (hstarts a ha).1
        omega
      · rcases List.mem_cons.mp ha with rfl | ha
        · exact ⟨le_rfl, h.sizes a List.mem_cons_self⟩
        · have hfirst := h.start_le List.mem_cons_self
          have hstart := (hstarts a ha).1
          exact ⟨by omega, (hstarts a ha).2⟩

theorem mergeFrom_stop_le {current : Span} (hcurrent : current.stop ≤ limit)
    (hrest : ∀ s ∈ rest, s.stop ≤ limit) : ∀ s ∈ mergeFrom current rest, s.stop ≤ limit := by
  induction rest generalizing current with
  | nil =>
    intro s hs
    obtain rfl := List.mem_singleton.mp hs
    exact hcurrent
  | cons s rest ih =>
    obtain ⟨hs, hrest⟩ := List.forall_mem_cons.mp hrest
    unfold mergeFrom
    by_cases htouch : s.start ≤ current.stop
    · rw [if_pos htouch]
      exact ih (Nat.max_le.mpr ⟨hcurrent, hs⟩) hrest
    · rw [if_neg htouch]
      exact List.forall_mem_cons.mpr ⟨hcurrent, ih hs hrest⟩

theorem ordered_mergeFrom {current : Span} (h : Ordered (current :: rest)) :
    Ordered (mergeFrom current rest) := by
  obtain ⟨hpairs, hsizes⟩ := mergeFrom_apart h
  refine ⟨hpairs.imp_of_mem fun {a b} ha _ hab => ?_, fun s hs => (hsizes s hs).2⟩
  have hsize := (hsizes a ha).2
  omega

theorem covered_merge (h : Ordered spans) : Covered (merge spans) p ↔ Covered spans p := by
  cases spans with
  | nil => rfl
  | cons s rest => exact covered_mergeFrom h

theorem ordered_merge (h : Ordered spans) : Ordered (merge spans) := by
  cases spans with
  | nil => exact h
  | cons s rest => exact ordered_mergeFrom h

theorem merge_apart (h : Ordered spans) :
    (merge spans).Pairwise fun a b => a.stop < b.start := by
  cases spans with
  | nil => exact List.Pairwise.nil
  | cons s rest => exact (mergeFrom_apart h).1

theorem merge_stop_le (h : ∀ s ∈ spans, s.stop ≤ limit) : ∀ s ∈ merge spans, s.stop ≤ limit := by
  cases spans with
  | nil => exact h
  | cons s rest =>
    obtain ⟨hs, hrest⟩ := List.forall_mem_cons.mp h
    exact mergeFrom_stop_le hs hrest

end Merge

section Sweep

theorem free_nil : free limit cursor [] = if cursor < limit then [⟨cursor, limit⟩] else [] := rfl

theorem free_cons : free limit cursor (s :: rest) =
    (if cursor < s.start then [⟨cursor, s.start⟩] else []) ++
      free limit (max cursor s.stop) rest := by
  rw [free, gaps, List.append_assoc]
  rfl

/-- A sweep leaves exactly the places that no span holds. -/
theorem covered_free_iff (h : Ordered spans) (hlimit : ∀ s ∈ spans, s.stop ≤ limit) :
    Covered (free limit cursor spans) p ↔ cursor ≤ p ∧ p < limit ∧ ¬Covered spans p := by
  induction spans generalizing cursor with
  | nil =>
    rw [free_nil]
    by_cases hcursor : cursor < limit
    · simp [if_pos hcursor, Covered, Span.Holds]
    · rw [if_neg hcursor]
      exact iff_of_false covered_nil fun hp => hcursor (hp.1.trans_lt hp.2.1)
  | cons s rest ih =>
    obtain ⟨hs, hrest⟩ := List.forall_mem_cons.mp hlimit
    have hsize := h.sizes s List.mem_cons_self
    have hlater : p < s.start → ¬Covered rest p := by
      rintro hp ⟨a, ha, hstart, -⟩
      have hle := h.start_le ha
      omega
    have htail := @ih (max cursor s.stop) h.tail hrest
    rw [free_cons, covered_cons, not_or]
    by_cases hgap : cursor < s.start
    · rw [if_pos hgap, List.singleton_append, covered_cons, htail]
      simp only [Span.Holds, not_and, Nat.not_lt]
      constructor
      · rintro (⟨hcursor, hp⟩ | ⟨hcursor, hp, hfree⟩)
        · exact ⟨hcursor, by omega, by omega, hlater hp⟩
        · exact ⟨by omega, hp, by omega, hfree⟩
      · rintro ⟨hcursor, hp, hout, hfree⟩
        by_cases hbefore : p < s.start
        · exact .inl ⟨hcursor, hbefore⟩
        · have hafter := hout (by omega)
          exact .inr ⟨by omega, hp, hfree⟩
    · rw [if_neg hgap, List.nil_append, htail]
      simp only [Span.Holds, not_and, Nat.not_lt]
      constructor
      · rintro ⟨hcursor, hp, hfree⟩
        exact ⟨by omega, hp, by omega, hfree⟩
      · rintro ⟨hcursor, hp, hout, hfree⟩
        have hafter := hout (by omega)
        exact ⟨by omega, hp, hfree⟩

/-- The free spans hold something, stand between the cursor and the limit, and are in order
with occupied places between them. -/
theorem free_apart (h : Ordered spans) (hlimit : ∀ s ∈ spans, s.stop ≤ limit) :
    (free limit cursor spans).Pairwise (fun a b => a.stop < b.start) ∧
      ∀ s ∈ free limit cursor spans, cursor ≤ s.start ∧ s.start < s.stop ∧ s.stop ≤ limit := by
  induction spans generalizing cursor with
  | nil =>
    rw [free_nil]
    by_cases hcursor : cursor < limit
    · rw [if_pos hcursor]
      refine ⟨List.pairwise_singleton _ _, fun a ha => ?_⟩
      obtain rfl := List.mem_singleton.mp ha
      exact ⟨le_rfl, hcursor, le_rfl⟩
    · rw [if_neg hcursor]
      exact ⟨List.Pairwise.nil, fun a ha => by cases ha⟩
  | cons s rest ih =>
    obtain ⟨hs, hrest⟩ := List.forall_mem_cons.mp hlimit
    have hsize := h.sizes s List.mem_cons_self
    obtain ⟨hpairs, hbounds⟩ := @ih (max cursor s.stop) h.tail hrest
    rw [free_cons]
    by_cases hgap : cursor < s.start
    · rw [if_pos hgap, List.singleton_append]
      refine ⟨List.pairwise_cons.mpr ⟨fun a ha => ?_, hpairs⟩, fun a ha => ?_⟩
      · have hstart := (hbounds a ha).1
        dsimp only
        omega
      · rcases List.mem_cons.mp ha with rfl | ha
        · exact ⟨le_rfl, hgap, by dsimp only; omega⟩
        · obtain ⟨hstart, hstop⟩ := hbounds a ha
          exact ⟨by omega, hstop⟩
    · rw [if_neg hgap, List.nil_append]
      refine ⟨hpairs, fun a ha => ?_⟩
      obtain ⟨hstart, hstop⟩ := hbounds a ha
      exact ⟨by omega, hstop⟩

/-- A free span cannot be made longer on either side without meeting an occupied place. -/
theorem free_maximal (h : Ordered spans) (hlimit : ∀ s ∈ spans, s.stop ≤ limit)
    (hs : s ∈ free limit cursor spans) {a b : Nat} (ha : a ≤ s.start) (hb : s.stop ≤ b)
    (hcursor : cursor ≤ a) (hend : b ≤ limit)
    (hfree : ∀ p, a ≤ p → p < b → ¬Covered spans p) : a = s.start ∧ b = s.stop := by
  obtain ⟨hpairs, hbounds⟩ := @free_apart _ _ cursor h hlimit
  obtain ⟨-, hsize, -⟩ := hbounds s hs
  -- a free place next to the span lies in another span, which would touch it
  have apart : ∀ t ∈ free limit cursor spans, t ≠ s → t.stop < s.start ∨ s.stop < t.start := by
    intro t ht hne
    have hsymm : Std.Symm fun x y : Span => x.stop < y.start ∨ y.stop < x.start :=
      ⟨fun _ _ h => Or.symm h⟩
    have heither : (free limit cursor spans).Pairwise
        fun x y => x.stop < y.start ∨ y.stop < x.start := hpairs.imp Or.inl
    exact heither.forall ht hs hne
  have outside : ∀ p, a ≤ p → p < b → s.Holds p ∨ (p + 1 < s.start ∨ s.stop < p) := by
    intro p hp hp'
    obtain ⟨t, ht, hstart, hstop⟩ :=
      (covered_free_iff h hlimit).mpr ⟨hcursor.trans hp, hp'.trans_le hend, hfree p hp hp'⟩
    by_cases heq : t = s
    · exact .inl (heq ▸ ⟨hstart, hstop⟩)
    · rcases apart t ht heq with hbefore | hbehind
      · exact .inr (.inl (by omega))
      · exact .inr (.inr (by omega))
  constructor
  · by_contra hne
    have hbefore := outside (s.start - 1) (by omega) (by omega)
    simp only [Span.Holds] at hbefore
    omega
  · by_contra hne
    have hbehind := outside s.stop (by omega) (by omega)
    simp only [Span.Holds] at hbehind
    omega

end Sweep

end StorageManager.Lib.FreeSpans
