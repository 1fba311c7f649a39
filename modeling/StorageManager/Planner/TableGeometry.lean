import StorageManager.Planner.PartitionCandidate

/-!
# What the planner measures on a partition table

The free sectors behind a record, in a GPT and in a DOS table: which facts about all the
records the planner has checked when it reports them.
-/

namespace StorageManager.Planner.Extend

open Core (PartitionRecord PartitionTable isExtendedType)
open Lib.Checks
open Lib.Ranges
open Lib.Word64

set_option autoImplicit false

def recordRange (r : PartitionRecord) : Range :=
  ⟨r.startSector, r.startSector + r.sizeSectors, r.node⟩

/-- The record holds something, within the bounds. -/
def RecordFits (first limit : Nat) (r : PartitionRecord) : Prop :=
  r.startSector + r.sizeSectors < Lib.Word64.limit ∧ 0 < r.sizeSectors ∧ first ≤ r.startSector ∧
    r.startSector + r.sizeSectors ≤ limit

theorem RecordFits.size {first limit : Nat} {r : PartitionRecord} (h : RecordFits first limit r) :
    (recordRange r).start < (recordRange r).stop := by
  obtain ⟨-, hsize, -⟩ := h
  simp only [recordRange]
  omega

/-- The run behind the named range holds so many sectors. -/
def FreeBehind (limit : Nat) (name : String) (ranges : List Range) (sectors : Nat) : Prop :=
  ∃ found next, behind limit name ranges = some (found, next) ∧ found.stop ≤ next ∧
    next - found.stop = sectors

variable {table : PartitionTable} {target : PartitionRecord} {limit sectors : Nat}
  {ranges : List Range}

theorem adjacentFromRanges_eq_ok_iff :
    adjacentFromRanges ranges target limit = .ok sectors ↔
      FreeBehind limit target.node ranges sectors := by
  simp [adjacentFromRanges, FreeBehind, bind_eq_ok_iff]

theorem gptRange_eq_ok_iff {first : Nat} (r : PartitionRecord) (range : Range) :
    gptRange first limit r = .ok range ↔ RecordFits first limit r ∧ range = recordRange r := by
  simp only [gptRange, bind_eq_ok_iff, exists_check_iff, ensure_eq_ok_iff, okOr_eq_ok_iff,
    checkedAdd_eq_some_iff, RecordFits, recordRange]
  constructor
  · rintro ⟨stop, ⟨hfits, rfl⟩, hbounds, hresult⟩
    exact ⟨⟨hfits, hbounds⟩, (Except.ok.inj hresult).symm⟩
  · rintro ⟨⟨hfits, hbounds⟩, rfl⟩
    exact ⟨_, ⟨hfits, rfl⟩, hbounds, rfl⟩

/-- The free sectors of a GPT: the records fit its usable bounds and do not overlap. -/
theorem adjacentFreeGpt_eq_ok_iff :
    adjacentFreeGpt table target = .ok sectors ↔ ∃ first last, table.firstLba = some first ∧
      table.lastLba = some last ∧ last + 1 < Lib.Word64.limit ∧
      (∀ r ∈ table.partitions, RecordFits first (last + 1) r) ∧
      (table.partitions.map recordRange).Pairwise Disjoint ∧
      FreeBehind (last + 1) target.node (sorted (table.partitions.map recordRange)) sectors := by
  simp only [adjacentFreeGpt, bind_eq_ok_iff, exists_check_iff, ensure_eq_ok_iff, okOr_eq_ok_iff,
    checkedAdd_eq_some_iff, collect_eq_ok_map_iff gptRange_eq_ok_iff,
    adjacentFromRanges_eq_ok_iff]
  have hsizes : ∀ {first limit : Nat}, (∀ r ∈ table.partitions, RecordFits first limit r) →
      ∀ range ∈ table.partitions.map recordRange, range.start < range.stop := by
    intro first limit hfits range hrange
    obtain ⟨r, hr, rfl⟩ := List.mem_map.mp hrange
    exact (hfits r hr).size
  constructor
  · rintro ⟨first, hfirst, last, hlast, _, ⟨hlimit, rfl⟩, _, ⟨hfits, rfl⟩, hapart, hfree⟩
    rw [Bool.not_eq_true, overlaps_sorted_iff (hsizes hfits)] at hapart
    exact ⟨first, last, hfirst, hlast, hlimit, hfits, hapart, hfree⟩
  · rintro ⟨first, last, hfirst, hlast, hlimit, hfits, hapart, hfree⟩
    rw [← overlaps_sorted_iff (hsizes hfits), ← Bool.not_eq_true] at hapart
    exact ⟨first, hfirst, last, hlast, _, ⟨hlimit, rfl⟩, _, ⟨hfits, rfl⟩, hapart, hfree⟩

section Dos

/-- The type of a DOS record. -/
def kindOf (r : PartitionRecord) : Option Nat := r.partitionType.bind Core.parseDosType

def isContainer (r : PartitionRecord) : Bool := (kindOf r).any isExtendedType

/-- The containers of logical partitions. -/
def containers (table : PartitionTable) : List Range :=
  (table.partitions.filter isContainer).map recordRange

/-- The record stands inside a container of its table. -/
def isLogical (table : PartitionTable) (r : PartitionRecord) : Bool :=
  insideExtended (containers table) r (r.startSector + r.sizeSectors)

/-- The primary partitions and the containers themselves. -/
def primaries (table : PartitionTable) : List Range :=
  (table.partitions.filter (!isLogical table ·)).map recordRange

theorem dosType_eq_ok_iff {r : PartitionRecord} {kind : Nat} :
    dosType r = .ok kind ↔ kindOf r = some kind := by
  simp [dosType, kindOf, bind_eq_ok_iff, parseDosType, Option.bind_eq_some_iff]

theorem filterMap_map_ite {α β : Type} (p : α → Bool) (g : α → β) (as : List α) :
    (as.map fun a => if p a = true then some (g a) else none).filterMap id =
      (as.filter p).map g := by
  induction as with
  | nil => rfl
  | cons a as ih =>
    rw [List.map_cons, List.filter_cons, List.filterMap_cons]
    split <;> simp_all

theorem extendedRange_eq_ok_iff (r : PartitionRecord) (found : Option Range) :
    extendedRange r = .ok found ↔ ((∃ kind, kindOf r = some kind) ∧
      (isContainer r → r.startSector + r.sizeSectors < Lib.Word64.limit)) ∧
      found = if isContainer r then some (recordRange r) else none := by
  unfold extendedRange isContainer
  rw [bind_eq_ok_iff]
  simp only [dosType_eq_ok_iff]
  constructor
  · rintro ⟨kind, hkind, h⟩
    rw [hkind, Option.any_some]
    by_cases hext : isExtendedType kind
    · rw [if_pos hext] at h ⊢
      simp only [bind_eq_ok_iff, okOr_eq_ok_iff, checkedAdd_eq_some_iff] at h
      obtain ⟨stop, ⟨hfits, rfl⟩, hresult⟩ := h
      exact ⟨⟨⟨kind, rfl⟩, fun _ => hfits⟩, (Except.ok.inj hresult).symm⟩
    · rw [if_neg hext] at h ⊢
      exact ⟨⟨⟨kind, rfl⟩, fun h => absurd h hext⟩, (Except.ok.inj h).symm⟩
  · rintro ⟨⟨⟨kind, hkind⟩, hfits⟩, rfl⟩
    refine ⟨kind, hkind, ?_⟩
    rw [hkind, Option.any_some] at hfits ⊢
    by_cases hext : isExtendedType kind
    · rw [if_pos hext, if_pos hext]
      simp only [bind_eq_ok_iff, okOr_eq_ok_iff, checkedAdd_eq_some_iff]
      exact ⟨_, ⟨hfits hext, rfl⟩, rfl⟩
    · rw [if_neg hext, if_neg hext]
      rfl

theorem primaryRange_eq_ok_iff {extended : List Range} (r : PartitionRecord)
    (found : Option Range) :
    primaryRange extended limit r = .ok found ↔
      (RecordFits 1 limit r ∧ ∃ kind, kindOf r = some kind ∧ kind ≠ 0x00 ∧ kind ≠ 0xee) ∧
      found = if !insideExtended extended r (r.startSector + r.sizeSectors) then
        some (recordRange r) else none := by
  simp only [primaryRange, bind_eq_ok_iff, exists_check_iff, ensure_eq_ok_iff, okOr_eq_ok_iff,
    checkedAdd_eq_some_iff, dosType_eq_ok_iff, RecordFits]
  constructor
  · rintro ⟨_, ⟨hfits, rfl⟩, hbounds, kind, hkind, hknown, h⟩
    refine ⟨⟨⟨hfits, hbounds⟩, kind, hkind, hknown⟩, ?_⟩
    by_cases hinside : insideExtended extended r (r.startSector + r.sizeSectors)
    · rw [if_pos hinside] at h
      rw [hinside]
      exact (Except.ok.inj h).symm
    · rw [if_neg hinside] at h
      rw [Bool.not_eq_true] at hinside
      rw [hinside]
      exact (Except.ok.inj h).symm
  · rintro ⟨⟨⟨hfits, hbounds⟩, kind, hkind, hknown⟩, rfl⟩
    refine ⟨_, ⟨hfits, rfl⟩, hbounds, kind, hkind, hknown, ?_⟩
    cases insideExtended extended r (r.startSector + r.sizeSectors) <;> rfl

/-- What the planner knows of a DOS table behind whose record it measured free sectors. -/
structure DosSpace (table : PartitionTable) (target : PartitionRecord) (limit : Nat)
    (sectors : Nat) : Prop where
  fits : ∀ r ∈ table.partitions, RecordFits 1 limit r
  known : ∀ r ∈ table.partitions, ∃ kind, kindOf r = some kind ∧ kind ≠ 0x00 ∧ kind ≠ 0xee
  single : (containers table).length ≤ 1
  plain : isContainer target = false
  outside : isLogical table target = false
  apart : (primaries table).Pairwise Disjoint
  free : FreeBehind limit target.node (sorted (primaries table)) sectors

theorem adjacentFreeDos_ok {diskSectors : Nat} (htarget : target ∈ table.partitions)
    (h : adjacentFreeDos table target diskSectors = .ok sectors) :
    DosSpace table target (dosLimit diskSectors) sectors := by
  simp only [adjacentFreeDos, bind_eq_ok_iff, exists_check_iff, ensure_eq_ok_iff,
    collect_eq_ok_map_iff extendedRange_eq_ok_iff, collect_eq_ok_map_iff primaryRange_eq_ok_iff,
    adjacentFromRanges_eq_ok_iff, dosType_eq_ok_iff] at h
  obtain ⟨_, ⟨-, rfl⟩, hsingle, kind, hkind, hplain, hinside, _, ⟨hrecords, rfl⟩, hapart,
    hfree⟩ := h
  rw [filterMap_map_ite] at hsingle hinside hapart hfree
  rw [filterMap_map_ite] at hapart hfree
  have hfits : ∀ r ∈ table.partitions, RecordFits 1 (dosLimit diskSectors) r :=
    fun r hr => (hrecords r hr).1
  have hsizes : ∀ range ∈ primaries table, range.start < range.stop := by
    intro range hrange
    obtain ⟨r, hr, rfl⟩ := List.mem_map.mp hrange
    exact (hfits r (List.mem_filter.mp hr).1).size
  rw [Bool.not_eq_true] at hapart
  refine ⟨hfits, fun r hr => (hrecords r hr).2, hsingle, ?_, ?_,
    (overlaps_sorted_iff hsizes).mp hapart, hfree⟩
  · rw [isContainer, hkind, Option.any_some]
    exact eq_false_of_ne_true hplain
  · -- the planner refuses a target inside the container, whatever its name
    have hsum : checkedAdd target.startSector target.sizeSectors =
        some (target.startSector + target.sizeSectors) :=
      checkedAdd_eq_some_iff.mpr ⟨(hfits target htarget).1, rfl⟩
    rw [hsum] at hinside
    unfold isLogical insideExtended
    cases hhead : (containers table).head? with
    | none => rfl
    | some e =>
      rw [containers] at hhead
      rw [hhead] at hinside
      simp only [Option.any_some, Bool.and_eq_true, decide_eq_true_eq, not_and] at hinside
      rw [Option.any_some]
      simp only [Bool.and_eq_false_iff, decide_eq_false_iff_not]
      by_cases hstart : e.start ≤ target.startSector
      · exact .inr (hinside hstart)
      · exact .inl (.inr hstart)

end Dos

end StorageManager.Planner.Extend
