import StorageManager.Core.HostSnapshot
import StorageManager.Lib.Checks
import StorageManager.Lib.FreeSpans
import StorageManager.Lib.Word64

/-!
# The free ranges of a partition table

The ranges between the records of a table and behind the last of them, within the part of
the disk the table may use.
-/

namespace StorageManager.Planner.Provisioning

open Core (BlockDevice PartitionRecord PartitionTable)
open Lib.Checks
open Lib.FreeSpans
open Lib.Word64

set_option autoImplicit false

structure PartitionFreeRange where
  startSector : Nat
  sectorCount : Nat
  isTail : Bool
  deriving DecidableEq

structure PartitionFreeSpace where
  ranges : List PartitionFreeRange
  sectorSizeBytes : Nat
  deriving DecidableEq

/-- The first sector a table may use, and where its part of the disk ends. -/
def usableWindow (table : PartitionTable) (diskSectors : Nat) : Option (Nat × Nat) := do
  let label ← table.label
  if label = "gpt" then
    let first ← table.firstLba
    let last ← table.lastLba
    let limit ← checkedAdd last 1
    some (first, min limit diskSectors)
  else if label = "dos" then some (1, diskSectors)
  else none

/-- The sectors of a record, where they are in the window. -/
def interval (first limit : Nat) (record : PartitionRecord) : Option Span := do
  guard (record.sizeSectors ≠ 0)
  let stop ← checkedAdd record.startSector record.sizeSectors
  guard (first ≤ record.startSector ∧ stop ≤ limit)
  some ⟨record.startSector, stop⟩

def freeRange (isTail : Bool) (s : Span) : PartitionFreeRange := ⟨s.start, s.stop - s.start, isTail⟩

def freeRanges (limit cursor : Nat) (merged : List Span) (hasPartitions : Bool) :
    List PartitionFreeRange :=
  (gaps cursor merged).map (freeRange false) ++
    (tail limit cursor merged).map (freeRange hasPartitions)

/-- What stands before the first partition of a DOS table may be a boot loader, so it is not
offered. -/
def partitionFreeRanges (disk : BlockDevice) (table : PartitionTable) :
    Option PartitionFreeSpace := do
  let sector ← table.sectorSizeBytes
  guard (512 ≤ sector ∧ isPowerOfTwo sector ∧ disk.sizeBytes % sector = 0)
  let (first, limit) ← usableWindow table (disk.sizeBytes / sector)
  guard (first < limit)
  let intervals ← gather (interval first limit) table.partitions
  let merged := merge (sorted intervals)
  if table.label = some "dos" then
    match merged with
    | [] => some ⟨[], sector⟩
    | occupied :: rest => some ⟨freeRanges limit occupied.stop rest true, sector⟩
  else some ⟨freeRanges limit first merged (!merged.isEmpty), sector⟩

section Laws

def recordSpan (r : PartitionRecord) : Span := ⟨r.startSector, r.startSector + r.sizeSectors⟩

def PartitionFreeRange.span (r : PartitionFreeRange) : Span :=
  ⟨r.startSector, r.startSector + r.sectorCount⟩

/-- The sectors that the records of a table take. -/
def Taken (table : PartitionTable) (p : Nat) : Prop :=
  ∃ record ∈ table.partitions, (recordSpan record).Holds p

/-- The free ranges of a table: in order, each holds something, none meets a record, and with
the records they are all of the window. A DOS table leaves out what stands before its
first partition. -/
structure Lawful (table : PartitionTable) (first limit : Nat) (ranges : List PartitionFreeRange) :
    Prop where
  sizes : ∀ r ∈ ranges, 0 < r.sectorCount
  order : ranges.Pairwise fun a b => a.span.stop < b.span.start
  inside : ∀ r ∈ ranges, first ≤ r.span.start ∧ r.span.stop ≤ limit
  apart : ∀ r ∈ ranges, ∀ record ∈ table.partitions,
    r.span.stop ≤ (recordSpan record).start ∨ (recordSpan record).stop ≤ r.span.start
  covering : ∀ p, first ≤ p → p < limit →
    (table.label = some "dos" → ∃ record ∈ table.partitions, record.startSector ≤ p) →
    Taken table p ∨ ∃ r ∈ ranges, r.span.Holds p
  maximal : ∀ r ∈ ranges, ∀ a b, first ≤ a → a ≤ r.span.start → r.span.stop ≤ b → b ≤ limit →
    (∀ p, a ≤ p → p < b → ¬Taken table p) → a = r.span.start ∧ b = r.span.stop
  behindFirst : table.label = some "dos" → ∀ r ∈ ranges, ∃ record ∈ table.partitions,
    (recordSpan record).stop ≤ r.span.start
  lastTail : ∀ r ∈ ranges.dropLast, r.isTail = false

variable {disk : BlockDevice} {table : PartitionTable} {first limit cursor : Nat}
  {spans : List Span}

theorem interval_eq_some_iff (r : PartitionRecord) (s : Span) :
    interval first limit r = some s ↔ (r.startSector + r.sizeSectors < Lib.Word64.limit ∧
      0 < r.sizeSectors ∧ first ≤ r.startSector ∧ r.startSector + r.sizeSectors ≤ limit) ∧
      s = recordSpan r := by
  simp only [interval, Option.bind_eq_bind, Option.bind_eq_some_iff, guard_eq_some_iff,
    exists_const, checkedAdd_eq_some_iff, recordSpan]
  constructor
  · rintro ⟨hsize, _, ⟨hfits, rfl⟩, hwindow, hs⟩
    exact ⟨⟨hfits, by omega, hwindow⟩, (Option.some.inj hs).symm⟩
  · rintro ⟨⟨hfits, hsize, hwindow⟩, rfl⟩
    exact ⟨by omega, _, ⟨hfits, rfl⟩, hwindow, rfl⟩

theorem span_freeRange {isTail : Bool} {s : Span} (h : s.start < s.stop) :
    (freeRange isTail s).span = s := by
  have hstop : s.start + (s.stop - s.start) = s.stop := by omega
  simp only [freeRange, PartitionFreeRange.span, hstop]

/-- The ranges are the free spans of the sweep, in their order. -/
theorem freeRanges_span {hasPartitions : Bool} (h : Ordered spans)
    (hlimit : ∀ s ∈ spans, s.stop ≤ limit) :
    (freeRanges limit cursor spans hasPartitions).map (·.span) = free limit cursor spans := by
  obtain ⟨-, hbounds⟩ := @free_apart _ _ cursor h hlimit
  have hsame : ∀ (isTail : Bool) (ss : List Span), (∀ s ∈ ss, s ∈ free limit cursor spans) →
      (ss.map (freeRange isTail)).map (·.span) = ss := by
    intro isTail ss hss
    rw [List.map_map]
    refine (List.map_congr_left fun s hs => ?_).trans (List.map_id ss)
    exact span_freeRange (hbounds s (hss s hs)).2.1
  rw [freeRanges, List.map_append, hsame, hsame]
  · rfl
  · exact fun s hs => List.mem_append_right _ hs
  · exact fun s hs => List.mem_append_left _ hs

theorem freeRanges_lastTail {hasPartitions : Bool} :
    ∀ r ∈ (freeRanges limit cursor spans hasPartitions).dropLast, r.isTail = false := by
  have hgaps : ∀ r ∈ (gaps cursor spans).map (freeRange false), r.isTail = false := by
    intro r hr
    obtain ⟨s, -, rfl⟩ := List.mem_map.mp hr
    rfl
  intro r hr
  unfold freeRanges tail at hr
  by_cases hreach : reach cursor spans < limit
  · rw [if_pos hreach, List.map_singleton, List.dropLast_concat] at hr
    exact hgaps r hr
  · rw [if_neg hreach, List.map_nil, List.append_nil] at hr
    exact hgaps r (List.dropLast_subset _ hr)

/-- A sweep from a cursor on obeys the laws, when before the cursor nothing is free. -/
theorem lawful_freeRanges {hasPartitions : Bool} (h : Ordered spans)
    (hlimit : ∀ s ∈ spans, s.stop ≤ limit) (hcursor : first ≤ cursor)
    (hsame : ∀ p, cursor ≤ p → (Covered spans p ↔ Taken table p))
    (hsizes : ∀ record ∈ table.partitions, 0 < record.sizeSectors)
    (hbefore : cursor = first ∨ (0 < cursor ∧ Taken table (cursor - 1)))
    (hcovering : ∀ p, first ≤ p → p < cursor →
      (table.label = some "dos" → ∃ record ∈ table.partitions, record.startSector ≤ p) →
      Taken table p)
    (hbehind : table.label = some "dos" → ∃ record ∈ table.partitions,
      (recordSpan record).stop ≤ cursor) :
    Lawful table first limit (freeRanges limit cursor spans hasPartitions) := by
  have hspans := @freeRanges_span _ cursor _ hasPartitions h hlimit
  have hmem : ∀ r ∈ freeRanges limit cursor spans hasPartitions,
      r.span ∈ free limit cursor spans := by
    intro r hr
    rw [← hspans]
    exact List.mem_map_of_mem hr
  obtain ⟨hpairs, hbounds⟩ := @free_apart _ _ cursor h hlimit
  have hfree : ∀ p, Covered (free limit cursor spans) p ↔
      cursor ≤ p ∧ p < limit ∧ ¬Taken table p := by
    intro p
    rw [covered_free_iff h hlimit]
    exact and_congr_right fun hp => and_congr_right fun _ => not_congr (hsame p hp)
  refine ⟨?_, ?_, ?_, ?_, ?_, ?_, ?_, freeRanges_lastTail⟩
  · intro r hr
    have hsize := (hbounds r.span (hmem r hr)).2.1
    simp only [PartitionFreeRange.span] at hsize
    omega
  · rw [← hspans, List.pairwise_map] at hpairs
    exact hpairs
  · intro r hr
    obtain ⟨hstart, -, hstop⟩ := hbounds r.span (hmem r hr)
    exact ⟨by omega, hstop⟩
  · intro r hr record hrecord
    by_contra hmeet
    -- ranges that meet have the later of the two starts in common
    obtain ⟨-, hsize, -⟩ := hbounds r.span (hmem r hr)
    have hrecordSize := hsizes record hrecord
    have hholds : r.span.Holds (max r.span.start (recordSpan record).start) := by
      simp only [Span.Holds, recordSpan] at hmeet ⊢
      omega
    have htaken : (recordSpan record).Holds (max r.span.start (recordSpan record).start) := by
      simp only [Span.Holds, recordSpan] at hmeet ⊢
      omega
    exact ((hfree _).mp ⟨r.span, hmem r hr, hholds⟩).2.2 ⟨record, hrecord, htaken⟩
  · intro p hfirst hp hdos
    by_cases htaken : Taken table p
    · exact .inl htaken
    · by_cases hp' : p < cursor
      · exact .inl (hcovering p hfirst hp' hdos)
      · obtain ⟨s, hs, hholds⟩ := (hfree p).mpr ⟨by omega, hp, htaken⟩
        rw [← hspans] at hs
        obtain ⟨r, hr, rfl⟩ := List.mem_map.mp hs
        exact .inr ⟨r, hr, hholds⟩
  · intro r hr a b hfirst ha hb hend hnone
    obtain ⟨hstart, hsize, -⟩ := hbounds r.span (hmem r hr)
    have hcursor' : cursor ≤ a := by
      rcases hbefore with rfl | ⟨hpos, htaken⟩
      · exact hfirst
      · by_contra hlt
        exact hnone (cursor - 1) (by omega) (by omega) htaken
    refine free_maximal h hlimit (hmem r hr) ha hb hcursor' hend fun p hp hp' hcovered => ?_
    exact hnone p hp hp' ((hsame p (by omega)).mp hcovered)
  · intro hdos r hr
    obtain ⟨record, hrecord, hstop⟩ := hbehind hdos
    have hstart := (hbounds r.span (hmem r hr)).1
    exact ⟨record, hrecord, by omega⟩

theorem lawful_empty (hempty : table.partitions = []) (hdos : table.label = some "dos") :
    Lawful table first limit [] := by
  refine ⟨by simp, List.Pairwise.nil, by simp, by simp, ?_, by simp, by simp, by simp⟩
  intro p _ _ h
  obtain ⟨record, hrecord, -⟩ := h hdos
  rw [hempty] at hrecord
  cases hrecord

theorem usableWindow_le {diskSectors first stop : Nat}
    (h : usableWindow table diskSectors = some (first, stop)) : stop ≤ diskSectors := by
  unfold usableWindow at h
  obtain ⟨label, -, h⟩ := Option.bind_eq_some_iff.mp h
  split at h
  · obtain ⟨_, -, h⟩ := Option.bind_eq_some_iff.mp h
    obtain ⟨_, -, h⟩ := Option.bind_eq_some_iff.mp h
    obtain ⟨_, -, h⟩ := Option.bind_eq_some_iff.mp h
    cases h
    exact Nat.min_le_right _ _
  · split at h
    · cases h
      exact le_rfl
    · cases h

theorem usableWindow_gpt {diskSectors first stop : Nat} (hlabel : table.label = some "gpt")
    (h : usableWindow table diskSectors = some (first, stop)) :
    table.firstLba = some first ∧
      ∃ last, table.lastLba = some last ∧ stop = min (last + 1) diskSectors := by
  unfold usableWindow at h
  obtain ⟨label, hsome, h⟩ := Option.bind_eq_some_iff.mp h
  obtain rfl : label = "gpt" := Option.some.inj (hsome.symm.trans hlabel)
  rw [if_pos rfl] at h
  obtain ⟨_, hfirst, h⟩ := Option.bind_eq_some_iff.mp h
  obtain ⟨last, hlast, h⟩ := Option.bind_eq_some_iff.mp h
  obtain ⟨_, hend, h⟩ := Option.bind_eq_some_iff.mp h
  obtain ⟨-, rfl⟩ := checkedAdd_eq_some_iff.mp hend
  cases h
  exact ⟨hfirst, last, hlast, rfl⟩

/-- A valid sector size is what every free range of a table comes with. -/
theorem partitionFreeRanges_sector {space : PartitionFreeSpace}
    (h : partitionFreeRanges disk table = some space) :
    table.sectorSizeBytes = some space.sectorSizeBytes ∧
      512 ≤ space.sectorSizeBytes ∧ isPowerOfTwo space.sectorSizeBytes := by
  unfold partitionFreeRanges at h
  obtain ⟨sector, hsector, h⟩ := Option.bind_eq_some_iff.mp h
  obtain ⟨_, hvalid, h⟩ := Option.bind_eq_some_iff.mp h
  obtain ⟨_, -, h⟩ := Option.bind_eq_some_iff.mp h
  obtain ⟨_, -, h⟩ := Option.bind_eq_some_iff.mp h
  obtain ⟨_, -, h⟩ := Option.bind_eq_some_iff.mp h
  rw [guard_eq_some_iff] at hvalid
  by_cases hdos : table.label = some "dos"
  · rw [if_pos hdos] at h
    split at h
    · cases h
      exact ⟨hsector, hvalid.1, hvalid.2.1⟩
    · cases h
      exact ⟨hsector, hvalid.1, hvalid.2.1⟩
  · rw [if_neg hdos] at h
    cases h
    exact ⟨hsector, hvalid.1, hvalid.2.1⟩

/-- The free ranges of every accepted table are lawful in the table's window. -/
theorem partitionFreeRanges_lawful {space : PartitionFreeSpace}
    (h : partitionFreeRanges disk table = some space) :
    ∃ first limit, usableWindow table (disk.sizeBytes / space.sectorSizeBytes) =
      some (first, limit) ∧ Lawful table first limit space.ranges := by
  unfold partitionFreeRanges at h
  obtain ⟨sector, hsector, h⟩ := Option.bind_eq_some_iff.mp h
  obtain ⟨_, hvalid, h⟩ := Option.bind_eq_some_iff.mp h
  obtain ⟨⟨first, limit⟩, hwindow, h⟩ := Option.bind_eq_some_iff.mp h
  obtain ⟨_, hroom, h⟩ := Option.bind_eq_some_iff.mp h
  obtain ⟨intervals, hintervals, h⟩ := Option.bind_eq_some_iff.mp h
  rw [gather_eq_some_map_iff interval_eq_some_iff] at hintervals
  obtain ⟨hrecords, rfl⟩ := hintervals
  have hsizes : ∀ record ∈ table.partitions, 0 < record.sizeSectors :=
    fun record hrecord => (hrecords record hrecord).2.1
  have hspans : ∀ s ∈ table.partitions.map recordSpan, s.start < s.stop := by
    intro s hs
    obtain ⟨record, hrecord, rfl⟩ := List.mem_map.mp hs
    have hsize := hsizes record hrecord
    simp only [recordSpan]
    omega
  have hordered := ordered_merge (ordered_sorted hspans)
  have hlimit : ∀ s ∈ merge (sorted (table.partitions.map recordSpan)), s.stop ≤ limit := by
    refine merge_stop_le fun s hs => ?_
    obtain ⟨record, hrecord, rfl⟩ := List.mem_map.mp (mem_sorted.mp hs)
    exact (hrecords record hrecord).2.2.2
  have htaken : ∀ p, Covered (merge (sorted (table.partitions.map recordSpan))) p ↔
      Taken table p := by
    intro p
    rw [covered_merge (ordered_sorted hspans), covered_sorted]
    simp [Covered, Taken]
  have hapart := merge_apart (ordered_sorted hspans)
  refine ⟨first, limit, ?_⟩
  by_cases hdos : table.label = some "dos"
  · rw [if_pos hdos] at h
    cases hmerged : merge (sorted (table.partitions.map recordSpan)) with
    | nil =>
      rw [hmerged] at h htaken
      cases h
      refine ⟨hwindow, lawful_empty ?_ hdos⟩
      refine List.eq_nil_iff_forall_not_mem.mpr fun record hrecord => ?_
      have hsize := hspans _ (List.mem_map_of_mem hrecord)
      exact covered_nil ((htaken record.startSector).mpr ⟨record, hrecord, le_rfl, hsize⟩)
    | cons occupied rest =>
      rw [hmerged] at h hordered hlimit htaken hapart
      cases h
      have hsize := hordered.sizes occupied List.mem_cons_self
      have holds : ∀ p, occupied.Holds p → Taken table p :=
        fun p hp => (htaken p).mp (covered_cons.mpr (.inl hp))
      have hstarts : ∀ record ∈ table.partitions, occupied.start ≤ record.startSector := by
        intro record hrecord
        have hsize' := hspans _ (List.mem_map_of_mem hrecord)
        obtain ⟨a, ha, hstart, -⟩ :=
          (htaken record.startSector).mpr ⟨record, hrecord, le_rfl, hsize'⟩
        rcases List.mem_cons.mp ha with rfl | ha
        · exact hstart
        · exact (hordered.start_le ha).trans hstart
      obtain ⟨lowest, hlowest, hlow⟩ := holds occupied.start ⟨le_rfl, hsize⟩
      have hfirst := (hrecords lowest hlowest).2.2.1
      obtain ⟨hlowStart, hlowStop⟩ := hlow
      simp only [recordSpan] at hlowStart hlowStop
      refine ⟨hwindow, lawful_freeRanges hordered.tail
        (fun s hs => hlimit s (List.mem_cons_of_mem _ hs)) (by omega) ?_ hsizes
        (.inr ⟨by omega, holds _ ⟨by omega, by omega⟩⟩) ?_ fun _ => ⟨lowest, hlowest, ?_⟩⟩
      · intro p hp
        rw [← htaken, covered_cons, or_iff_right]
        rintro ⟨-, hstop⟩
        omega
      · intro p _ hp hbehind
        obtain ⟨record, hrecord, hstart⟩ := hbehind hdos
        exact holds p ⟨(hstarts record hrecord).trans hstart, hp⟩
      · -- the merged span ends at a free place, so no record goes on behind it
        by_contra hlong
        simp only [recordSpan, Nat.not_le] at hlong
        have hholds : (recordSpan lowest).Holds occupied.stop := ⟨by simp only [recordSpan]; omega, hlong⟩
        obtain ⟨a, ha, hstart, hstop⟩ := (htaken occupied.stop).mpr ⟨lowest, hlowest, hholds⟩
        rcases List.mem_cons.mp ha with rfl | ha
        · omega
        · have hbehind := (List.pairwise_cons.mp hapart).1 a ha
          omega
  · rw [if_neg hdos] at h
    cases h
    exact ⟨hwindow, lawful_freeRanges hordered hlimit le_rfl (fun p _ => htaken p) hsizes (.inl rfl)
      (fun p hfirst hp => absurd hp (by omega)) fun h => absurd h hdos⟩

end Laws

section Samples

def sampleDisk : BlockDevice where
  name := "sda"
  kernelName := some "sda"
  path := some "/dev/sda"
  kind := .disk
  sizeBytes := 65536 * 512
  start512Sector := none
  logicalSectorBytes := some 512
  filesystem := none
  mountpoints := []
  parentKernelName := none
  model := none
  serial := none
  uuid := none
  partitionUuid := none
  partitionTable := some "gpt"
  children := []

/-- Two partitions that touch and one behind a gap, in no order. -/
def sampleTable : PartitionTable where
  device := "/dev/sda"
  label := some "gpt"
  id := none
  unit := some "sectors"
  firstLba := some 34
  lastLba := some 65502
  sectorSizeBytes := some 512
  partitions :=
    [⟨"/dev/sda3", 16384, 2048, none, none, none, none, none⟩,
      ⟨"/dev/sda1", 2048, 2048, none, none, none, none, none⟩,
      ⟨"/dev/sda2", 4096, 4096, none, none, none, none, none⟩]

def sampleSpace : PartitionFreeSpace :=
  ⟨[⟨34, 2014, false⟩, ⟨8192, 8192, false⟩, ⟨18432, 47071, true⟩], 512⟩

theorem partitionFreeRanges_lawful_between :
    ∃ first limit, usableWindow sampleTable (sampleDisk.sizeBytes / 512) = some (first, limit) ∧
      Lawful sampleTable first limit sampleSpace.ranges :=
  partitionFreeRanges_lawful
    (by decide +kernel : partitionFreeRanges sampleDisk sampleTable = some sampleSpace)

end Samples

end StorageManager.Planner.Provisioning
