import Mathlib.Data.List.Pairwise
import StorageManager.Discovery.AdjacentCapacity
import StorageManager.Planner.TableGeometry

/-!
# What the advisory analysis asks of a disk

The analysis reports a capacity behind a partition exactly when the device tree and the
partition table of its disk agree. Stated for both kinds of tables, against the measure of
the planner.
-/

namespace StorageManager.Planner.Extend

open Core (BlockDevice HostSnapshot PartitionRecord PartitionTable isExtendedType asciiLower
  eqIgnoreAsciiCase)
open Discovery
open Lib.Checks
open Lib.Ranges
open Lib.Word64

set_option autoImplicit false

variable {s : HostSnapshot} {d disk : BlockDevice} {table : PartitionTable} {sector : Nat}

theorem sector_pos (common : sector = 512 ∨ sector = 4096) : 0 < sector := by
  omega

/-- The disk that lists the partition, with one table that describes all of it. -/
structure Listed (s : HostSnapshot) (d disk : BlockDevice) (table : PartitionTable)
    (sector : Nat) : Prop where
  parent : collectParents s.storage.blockDevices d = [disk]
  isDisk : disk.kind = .disk ∨ disk.kind = .loop
  tabled : ∃ path, disk.path = some path ∧ s.partitionTables.filter (·.device = path) = [table]
  sectorSize : table.sectorSizeBytes = some sector
  common : sector = 512 ∨ sector = 4096
  logical : disk.logicalSectorBytes = some sector
  whole : disk.sizeBytes ≠ 0 ∧ disk.sizeBytes % sector = 0
  unit : table.unit = some "sectors"
  label : table.label = disk.partitionTable

theorem collected_iff {component : String} :
    collected s component = true ↔ Collected s component := collected_eq_true_iff

theorem adjacentCapacity_eq_some_iff {c : Nat} :
    adjacentCapacity s d = some c ↔ (Collected s "lsblk" ∧ Collected s "partition_tables") ∧
      ∃ disk table sector path, Listed s d disk table sector ∧ d.path = some path ∧
        (if table.label = some "dos" then adjacentCapacityDosPrimary disk table d sector
          else adjacentCapacityTable disk table path sector) = some c := by
  unfold adjacentCapacity
  simp only [collected_iff, Option.bind_eq_bind, Option.ite_none_left_eq_some, not_not,
    Option.bind_eq_some_iff, one_eq_some_iff]
  refine and_congr_right fun _ => ?_
  constructor
  · rintro ⟨disk, hparent, hkind, diskPath, hdiskPath, path, hpath, table, htable, sector, hsector,
      hagree, h⟩
    simp only [not_or, not_and, ne_eq, not_not] at hagree
    obtain ⟨hcommon, hlogical, hsize, hwhole, hunit, hlabel⟩ := hagree
    exact ⟨disk, table, sector, path, ⟨hparent, hkind, ⟨diskPath, hdiskPath, htable⟩, hsector,
      by tauto, hlogical, ⟨hsize, hwhole⟩, hunit, hlabel⟩, hpath, h⟩
  · rintro ⟨disk, table, sector, path, hlisted, hpath, h⟩
    obtain ⟨diskPath, hdiskPath, htable⟩ := hlisted.tabled
    refine ⟨disk, hlisted.parent, hlisted.isDisk, diskPath, hdiskPath, path, hpath, table, htable,
      sector, hlisted.sectorSize, ?_, h⟩
    simp only [not_or, not_and, ne_eq, not_not]
    have hcommon := hlisted.common
    exact ⟨by tauto, hlisted.logical, hlisted.whole.1, hlisted.whole.2, hlisted.unit,
      hlisted.label⟩

theorem capacityBehind_eq_some_iff {limit c : Nat} {name : String} {ranges : List Range} :
    capacityBehind limit sector name ranges = some c ↔
      ∃ sectors, FreeBehind limit name ranges sectors ∧ checkedMul sectors sector = some c := by
  simp only [capacityBehind, FreeBehind, Option.bind_eq_bind, Option.bind_eq_some_iff,
    checkedSub_eq_some_iff, Prod.exists]
  constructor
  · rintro ⟨found, next, hbehind, sectors, ⟨hstop, rfl⟩, hc⟩
    exact ⟨_, ⟨found, next, hbehind, hstop, rfl⟩, hc⟩
  · rintro ⟨_, ⟨found, next, hbehind, hstop, rfl⟩, hc⟩
    exact ⟨found, next, hbehind, _, ⟨hstop, rfl⟩, hc⟩

section Gpt

/-- The one child of a record's path is that partition, with the same identity. -/
def GptSibling (disk : BlockDevice) (sector : Nat) (r : PartitionRecord) : Prop :=
  ∃ child : BlockDevice, disk.children.filter (·.path = some r.node) = [child] ∧
    child.kind = .partition ∧ child.parentKernelName = disk.kernelName ∧
    child.logicalSectorBytes = some sector ∧
    child.start512Sector.bind (checkedMul · 512) = some (r.startSector * sector) ∧
    checkedMul r.sizeSectors sector = some child.sizeBytes ∧
    ∃ a b, r.uuid = some a ∧ child.partitionUuid = some b ∧ a ≠ "" ∧ eqIgnoreAsciiCase a b

/-- Every record of a GPT has its own device under the disk, and the usable bounds leave
room for both copies of the table. -/
structure GptSiblings (disk : BlockDevice) (table : PartitionTable) (sector : Nat) : Prop where
  bounds : ∃ first last, table.firstLba = some first ∧ table.lastLba = some last ∧ 2 ≤ first ∧
    last + 1 < disk.sizeBytes / sector
  named : disk.kernelName.isSome
  count : disk.children.length = table.partitions.length
  distinct : (table.partitions.map (·.node)).Nodup
  siblings : ∀ r ∈ table.partitions, GptSibling disk sector r
  identities : (table.partitions.map fun r => r.uuid.map asciiLower).Nodup

theorem siblingUuid_gpt {record child : Option String} {uuid : Option (List Char)} :
    siblingUuid (some "gpt") record child = some uuid ↔ ∃ a b, record = some a ∧ child = some b ∧
      (a ≠ "" ∧ eqIgnoreAsciiCase a b) ∧ uuid = some (asciiLower a) := by
  simp only [siblingUuid, ↓reduceIte, Option.bind_eq_bind, Option.bind_eq_some_iff,
    Option.ite_none_right_eq_some, Option.some.injEq, exists_and_left]
  grind

theorem siblingRange_eq_some_iff {parentName : String} {first stop : Nat}
    (hlabel : table.label = some "gpt") (hname : disk.kernelName = some parentName)
    (r : PartitionRecord) (found : Range × Option (List Char)) :
    siblingRange disk table parentName sector first stop r = some found ↔
      (GptSibling disk sector r ∧ RecordFits first stop r) ∧
      found = (recordRange r, r.uuid.map asciiLower) := by
  unfold siblingRange
  simp only [hlabel, siblingUuid_gpt, Option.bind_eq_bind, Option.ite_none_left_eq_some,
    Option.bind_eq_some_iff, one_eq_some_iff, checkedMul_eq_some_iff, checkedAdd_eq_some_iff,
    Option.some.injEq, GptSibling, RecordFits, recordRange]
  constructor
  · rintro ⟨child, hchild, _, ⟨-, rfl⟩, _, ⟨hsizeFits, rfl⟩, _, ⟨hfits, rfl⟩, childStart, hstart, _,
      ⟨hstartFits, rfl⟩, hagree, uuid, ⟨a, b, ha, hb, hsame, rfl⟩, rfl⟩
    simp only [not_or, ne_eq, not_not, Nat.not_lt] at hagree
    obtain ⟨hkind, hparent, hlogical, hstartEq, hsize, hpos, hfirst, hstop⟩ := hagree
    refine ⟨⟨⟨child, hchild, hkind, by rw [hparent, hname], hlogical, ?_, ⟨hsizeFits, hsize.symm⟩,
      a, b, ha, hb, hsame.1, hsame.2⟩, hfits, by omega, hfirst, hstop⟩, by rw [ha]; rfl⟩
    exact ⟨childStart, hstart, hstartFits, hstartEq⟩
  · rintro ⟨⟨⟨child, hchild, hkind, hparent, hlogical, ⟨childStart, hstart, hstartFits, hstartEq⟩,
      ⟨hsizeFits, hsize⟩, a, b, ha, hb, hne, hsame⟩, hfits, hpos, hfirst, hstop⟩, rfl⟩
    refine ⟨child, hchild, _, ⟨hstartEq ▸ hstartFits, rfl⟩, _, ⟨hsizeFits, rfl⟩, _, ⟨hfits, rfl⟩,
      childStart, hstart, _, ⟨hstartFits, rfl⟩, ?_, _, ⟨a, b, ha, hb, ⟨hne, hsame⟩, rfl⟩, ?_⟩
    · simp only [not_or, ne_eq, not_not, Nat.not_lt]
      exact ⟨hkind, by rw [hparent, hname], hlogical, hstartEq, hsize.symm, by omega, hfirst, hstop⟩
    · rw [ha]
      rfl

theorem usableBounds_gpt (hlabel : table.label = some "gpt") {diskSectors first limit : Nat} :
    usableBounds table diskSectors = some (first, limit) ↔ table.firstLba = some first ∧
      ∃ last, table.lastLba = some last ∧ last + 1 < Lib.Word64.limit ∧ limit = last + 1 ∧
        2 ≤ first ∧ first < limit ∧ limit < diskSectors := by
  simp only [usableBounds, hlabel, Option.bind_eq_bind, Option.bind_some, ↓reduceIte,
    Option.bind_eq_some_iff, checkedAdd_eq_some_iff, Option.ite_none_left_eq_some,
    Option.some.injEq, Prod.mk.injEq, not_or, Nat.not_lt, Nat.not_le]
  constructor
  · rintro ⟨first', hfirst, last, hlast, _, ⟨hfits, rfl⟩, ⟨htwo, hlt, hdisk⟩, rfl, rfl⟩
    exact ⟨hfirst, last, hlast, hfits, rfl, htwo, hlt, hdisk⟩
  · rintro ⟨hfirst, last, hlast, hfits, rfl, htwo, hlt, hdisk⟩
    exact ⟨first, hfirst, last, hlast, _, ⟨hfits, rfl⟩, ⟨htwo, hlt, hdisk⟩, rfl, rfl⟩

theorem filterMap_snd_map {records : List PartitionRecord}
    (h : ∀ r ∈ records, r.uuid.isSome) :
    ((records.map fun r => (recordRange r, r.uuid.map asciiLower)).filterMap (·.2)).map some =
      records.map fun r => r.uuid.map asciiLower := by
  induction records with
  | nil => rfl
  | cons r records ih =>
    obtain ⟨hr, hrest⟩ := List.forall_mem_cons.mp h
    obtain ⟨uuid, huuid⟩ := Option.isSome_iff_exists.mp hr
    simpa [huuid, List.filterMap_map] using ih hrest

/-- A GPT's capacity is what the planner measures, once every sibling agrees. -/
theorem adjacentCapacityTable_eq_some_iff (hlabel : table.label = some "gpt") {c : Nat}
    {target : PartitionRecord} :
    adjacentCapacityTable disk table target.node sector = some c ↔ GptSiblings disk table sector ∧
      ∃ sectors, adjacentFreeGpt table target = .ok sectors ∧
        checkedMul sectors sector = some c := by
  simp only [adjacentCapacityTable, Option.bind_eq_bind, Option.bind_eq_some_iff, Prod.exists,
    usableBounds_gpt hlabel, Option.ite_none_left_eq_some, capacityBehind_eq_some_iff,
    adjacentFreeGpt_eq_ok_iff]
  constructor
  · rintro ⟨first, limit, ⟨hfirst, last, hlast, hfits, rfl, htwo, -, hdisk⟩, hcount, parentName,
      hname, hdistinct, siblings, hsiblings, huuids, hoverlaps, sectors, hfree, hc⟩
    rw [gather_eq_some_map_iff (siblingRange_eq_some_iff hlabel hname)] at hsiblings
    obtain ⟨hrecords, rfl⟩ := hsiblings
    simp only [not_or, ne_eq, not_not] at hcount hdistinct huuids
    have hsome : ∀ r ∈ table.partitions, r.uuid.isSome := by
      intro r hr
      obtain ⟨⟨child, -, -, -, -, -, -, a, b, ha, -⟩, -⟩ := hrecords r hr
      rw [ha]
      rfl
    have hsizes : ∀ range ∈ table.partitions.map recordRange, range.start < range.stop := by
      intro range hrange
      obtain ⟨r, hr, rfl⟩ := List.mem_map.mp hrange
      exact (hrecords r hr).2.size
    rw [List.map_map] at hoverlaps hfree
    rw [Bool.not_eq_true] at hoverlaps
    refine ⟨⟨⟨first, last, hfirst, hlast, htwo, hdisk⟩, by rw [hname]; rfl, hcount.1, hdistinct,
      fun r hr => (hrecords r hr).1, ?_⟩, sectors, ⟨first, last, hfirst, hlast, hfits,
      fun r hr => (hrecords r hr).2, (overlaps_sorted_iff hsizes).mp hoverlaps, hfree⟩, hc⟩
    rw [← filterMap_snd_map hsome]
    exact huuids.map (Option.some_injective _)
  · rintro ⟨hsiblings, sectors, ⟨first, last, hfirst, hlast, hfits, hrecords, hapart, hfree⟩, hc⟩
    obtain ⟨first', last', hfirst', hlast', htwo, hdisk⟩ := hsiblings.bounds
    obtain rfl : first = first' := Option.some.inj (hfirst.symm.trans hfirst')
    obtain rfl : last = last' := Option.some.inj (hlast.symm.trans hlast')
    obtain ⟨parentName, hname⟩ := Option.isSome_iff_exists.mp hsiblings.named
    have hsizes : ∀ range ∈ table.partitions.map recordRange, range.start < range.stop := by
      intro range hrange
      obtain ⟨r, hr, rfl⟩ := List.mem_map.mp hrange
      exact (hrecords r hr).size
    -- the measured record is one of the table, so the bounds hold something
    obtain ⟨found, next, hbehind, hends⟩ := hfree
    obtain ⟨before, after, hsplit, -⟩ := behind_eq_some hbehind
    have hmem : found ∈ table.partitions.map recordRange :=
      mem_sorted.mp (hsplit ▸ by simp)
    obtain ⟨r, hr, rfl⟩ := List.mem_map.mp hmem
    obtain ⟨-, hpos, hstart, hstop⟩ := hrecords r hr
    refine ⟨first, last + 1, ⟨hfirst, last, hlast, hfits, rfl, htwo, by omega, hdisk⟩, ?_,
      parentName, hname, not_not.mpr hsiblings.distinct,
      table.partitions.map fun r => (recordRange r, r.uuid.map asciiLower), ?_, ?_, ?_, sectors, ?_,
      hc⟩
    · simp only [not_or, ne_eq, not_not, hsiblings.count, true_and]
      simpa using List.ne_nil_of_mem hr
    · rw [gather_eq_some_map_iff (siblingRange_eq_some_iff hlabel hname)]
      exact ⟨fun r hr => ⟨hsiblings.siblings r hr, hrecords r hr⟩, rfl⟩
    · have hsome : ∀ r ∈ table.partitions, r.uuid.isSome := by
        intro r hr
        obtain ⟨child, -, -, -, -, -, -, a, b, ha, -⟩ := hsiblings.siblings r hr
        rw [ha]
        rfl
      have hidentities := hsiblings.identities
      rw [← filterMap_snd_map hsome] at hidentities
      exact not_not.mpr hidentities.of_map
    · rw [List.map_map, Bool.not_eq_true]
      exact (overlaps_sorted_iff hsizes).mpr hapart
    · rw [List.map_map]
      exact ⟨_, next, hbehind, hends⟩

end Gpt

section Dos

/-- A child of a DOS disk is the partition of this record. A container's device is not
compared in size. -/
def DosSibling (table : PartitionTable) (sector : Nat) (child : BlockDevice)
    (r : PartitionRecord) : Prop :=
  child.path = some r.node ∧ table.partitions.filter (·.node = r.node) = [r] ∧
    child.logicalSectorBytes = some sector ∧
    child.start512Sector.bind (checkedMul · 512) = some (r.startSector * sector) ∧
    (isContainer r = false → checkedMul r.sizeSectors sector = some child.sizeBytes)

/-- The partitions the disk lists. -/
def listedPartitions (disk : BlockDevice) : List BlockDevice :=
  disk.children.filter (·.kind = .partition)

/-- Every listed partition of a DOS disk has its own record, and logical partitions do not
overlap each other. -/
structure DosSiblings (disk : BlockDevice) (table : PartitionTable) (sector : Nat)
    (path : String) : Prop where
  named : disk.kernelName.isSome
  siblings : ∀ child ∈ listedPartitions disk, ∃ r, DosSibling table sector child r
  apart : (listedPartitions disk).Pairwise fun a b => ∀ r q, DosSibling table sector a r →
    DosSibling table sector b q → r.node ≠ q.node ∧
      (isLogical table r → isLogical table q → Disjoint (recordRange r) (recordRange q))
  present : ∃ child ∈ listedPartitions disk, child.path = some path

variable {target : PartitionRecord} {limit sectors : Nat}

theorem DosSibling.mem {child : BlockDevice} {r : PartitionRecord}
    (h : DosSibling table sector child r) : r ∈ table.partitions :=
  (List.mem_filter.mp (h.2.1 ▸ List.mem_singleton_self r)).1

theorem DosSibling.unique {child : BlockDevice} {r q : PartitionRecord}
    (h : DosSibling table sector child r) (hq : q ∈ table.partitions) (hnode : q.node = r.node) :
    q = r :=
  List.mem_singleton.mp (h.2.1 ▸ List.mem_filter.mpr ⟨hq, by simpa using hnode⟩)

theorem extendedRanges_eq (h : ∀ r ∈ table.partitions, RecordFits 1 limit r) :
    extendedRanges table = containers table := by
  unfold extendedRanges containers
  generalize table.partitions = records at h
  induction records with
  | nil => rfl
  | cons r records ih =>
    obtain ⟨hr, hrest⟩ := List.forall_mem_cons.mp h
    have hsum : checkedAdd r.startSector r.sizeSectors = some (r.startSector + r.sizeSectors) :=
      checkedAdd_eq_some_iff.mpr ⟨hr.1, rfl⟩
    rw [List.filterMap_cons, List.filter_cons, ih hrest]
    cases hkind : kindOf r with
    | none =>
      rw [kindOf] at hkind
      simp [isContainer, kindOf, hkind]
    | some kind =>
      have hcontainer : isContainer r = isExtendedType kind := by rw [isContainer, hkind]; rfl
      rw [kindOf] at hkind
      rw [hcontainer, hkind]
      cases hext : isExtendedType kind <;> simp [hsum, hext, recordRange]

/-- With at most one container, the two ways to look for it agree. -/
theorem any_eq_head_any {α : Type} {as : List α} (p : α → Bool) (h : as.length ≤ 1) :
    as.any p = as.head?.any p := by
  match as, h with
  | [], _ => rfl
  | [a], _ => simp

theorem dosChildRange_eq_some_iff (space : DosSpace table target limit sectors)
    (child : BlockDevice) (found : Range × Bool) :
    dosChildRange table sector limit (extendedRanges table) child = some found ↔
      ∃ r, DosSibling table sector child r ∧ found = (recordRange r, isLogical table r) := by
  unfold dosChildRange
  rw [extendedRanges_eq space.fits]
  simp only [Option.bind_eq_bind, Option.bind_eq_some_iff, one_eq_some_iff,
    Option.ite_none_left_eq_some, checkedMul_eq_some_iff, checkedAdd_eq_some_iff,
    any_eq_head_any _ space.single]
  constructor
  · rintro ⟨path, hpath, r, hrecord, kind, hkind, -, _, ⟨-, rfl⟩, _, ⟨-, rfl⟩, hlogical,
      childStart, hstart, _, ⟨hstartFits, rfl⟩, hagree, h⟩
    have hr := List.mem_filter.mp (hrecord ▸ List.mem_singleton_self r)
    obtain rfl : r.node = path := by simpa using hr.2
    rw [not_not] at hlogical
    simp only [not_or, ne_eq, not_not] at hagree
    have hcontainer : isContainer r = isExtendedType kind := by
      rw [isContainer, kindOf, Option.bind_eq_some_iff.mpr hkind]
      rfl
    refine ⟨r, ⟨hpath, hrecord, hlogical, Option.bind_eq_some_iff.mpr ⟨childStart, hstart,
      checkedMul_eq_some_iff.mpr ⟨hstartFits, hagree.1⟩⟩, ?_⟩, ?_⟩
    · intro hplain
      rw [if_neg (by rw [← hcontainer, hplain]; decide)] at h
      simp only [Option.bind_eq_some_iff, checkedMul_eq_some_iff, Option.ite_none_left_eq_some,
        ne_eq, not_not] at h
      obtain ⟨_, ⟨hfits, rfl⟩, hsize, -⟩ := h
      exact checkedMul_eq_some_iff.mpr ⟨hfits, hsize.symm⟩
    · have hfound : some (recordRange r, isLogical table r) = some found := by
        by_cases hext : isExtendedType kind
        · rw [if_pos hext] at h
          exact h
        · rw [if_neg hext] at h
          simp only [Option.bind_eq_some_iff, Option.ite_none_left_eq_some] at h
          obtain ⟨_, -, -, h⟩ := h
          exact h
      exact (Option.some.inj hfound).symm
  · rintro ⟨r, hsibling, rfl⟩
    have hmem := hsibling.mem
    obtain ⟨hpath, hrecord, hlogical, hstart, hsize⟩ := hsibling
    obtain ⟨childStart, hchildStart, hstart⟩ := Option.bind_eq_some_iff.mp hstart
    rw [checkedMul_eq_some_iff] at hstart
    obtain ⟨hfits, hpos, hfirst, hstop⟩ := space.fits r hmem
    obtain ⟨kind, hkind, hzero, hprotective⟩ := space.known r hmem
    have hcontainer : isContainer r = isExtendedType kind := by rw [isContainer, hkind]; rfl
    refine ⟨r.node, hpath, r, hrecord, kind, Option.bind_eq_some_iff.mp hkind, by
      simp only [not_or]; exact ⟨hzero, hprotective, by omega⟩, _, ⟨by omega, rfl⟩, _, ⟨hfits, rfl⟩,
      not_not.mpr hlogical, childStart, hchildStart, _, ⟨hstart.1, rfl⟩, by
      simp only [not_or, ne_eq, not_not]; exact ⟨hstart.2, by omega, by omega⟩, ?_⟩
    by_cases hext : isExtendedType kind
    · rw [if_pos hext]
      rfl
    · rw [if_neg hext]
      have hsize := hsize (by rw [hcontainer]; exact eq_false_of_ne_true hext)
      simp only [Option.bind_eq_some_iff, Option.ite_none_left_eq_some]
      exact ⟨_, hsize, by simp, rfl⟩

/-- The records of the listed partitions, in their order. -/
theorem exists_records {children : List BlockDevice} {found : List (Range × Bool)}
    (h : List.Forall₂ (fun child f => ∃ r, DosSibling table sector child r ∧
      f = (recordRange r, isLogical table r)) children found) :
    ∃ records, List.Forall₂ (DosSibling table sector) children records ∧
      found = records.map fun r => (recordRange r, isLogical table r) := by
  induction h with
  | nil => exact ⟨[], .nil, rfl⟩
  | cons hhead _ ih =>
    obtain ⟨r, hr, rfl⟩ := hhead
    obtain ⟨records, hrecords, rfl⟩ := ih
    exact ⟨r :: records, .cons hr hrecords, rfl⟩

theorem DosSibling.record_eq {child : BlockDevice} {r q : PartitionRecord}
    (hr : DosSibling table sector child r) (hq : DosSibling table sector child q) : q = r :=
  hr.unique hq.mem (Option.some.inj (hq.1.symm.trans hr.1))

/-- A relation of neighbours and later ones holds of the records as it does of the devices. -/
theorem pairwise_records_iff {children : List BlockDevice} {records : List PartitionRecord}
    {related : PartitionRecord → PartitionRecord → Prop}
    (h : List.Forall₂ (DosSibling table sector) children records) :
    records.Pairwise related ↔ children.Pairwise fun a b => ∀ r q,
      DosSibling table sector a r → DosSibling table sector b q → related r q := by
  induction h with
  | nil => simp
  | @cons child r children records hhead htail ih =>
    rw [List.pairwise_cons, List.pairwise_cons, ih]
    refine and_congr_left fun _ => ⟨fun hall b hb r' q hr' hq => ?_, fun hall q hq => ?_⟩
    · obtain rfl := hhead.record_eq hr'
      obtain ⟨q', hq', hsibling⟩ := exists_right_of_forall₂ htail hb
      obtain rfl := hsibling.record_eq hq
      exact hall q hq'
    · obtain ⟨b, hb, hsibling⟩ := exists_left_of_forall₂ htail hq
      exact hall b hb r q hhead hsibling

/-- What holds of any two records that differ, by their order, holds of them either way. -/
theorem primaries_disjoint (space : DosSpace table target limit sectors) {r q : PartitionRecord}
    (hr : r ∈ table.partitions) (hq : q ∈ table.partitions) (hne : r ≠ q)
    (hr' : isLogical table r = false) (hq' : isLogical table q = false) :
    Disjoint (recordRange r) (recordRange q) := by
  have hpairs := space.apart
  rw [primaries, List.pairwise_map] at hpairs
  have : Std.Symm fun a b => Disjoint (recordRange a) (recordRange b) := ⟨fun _ _ h => Or.symm h⟩
  exact hpairs.forall (List.mem_filter.mpr ⟨hr, by simp [hr']⟩)
    (List.mem_filter.mpr ⟨hq, by simp [hq']⟩) hne

/-- Records with their own names overlap no more than the table's records of their kind. -/
theorem records_apart_iff {records : List PartitionRecord}
    (space : DosSpace table target limit sectors)
    (hmem : ∀ r ∈ records, r ∈ table.partitions ∧
      table.partitions.filter (·.node = r.node) = [r]) :
    (records.Pairwise fun r q => r.node ≠ q.node ∧
        (isLogical table r → isLogical table q → Disjoint (recordRange r) (recordRange q))) ↔
      ((records.filter (!isLogical table ·)).map recordRange).Pairwise Disjoint ∧
      ((records.filter (isLogical table ·)).map recordRange).Pairwise Disjoint := by
  rw [List.pairwise_map, List.pairwise_map, List.pairwise_filter, List.pairwise_filter,
    ← List.pairwise_and_iff]
  refine ⟨fun h => h.imp_of_mem ?_, fun h => h.imp_of_mem ?_⟩
  · intro r q hr hq hpair
    refine ⟨fun hr' hq' => ?_, hpair.2⟩
    have hne : r ≠ q := fun heq => hpair.1 (by rw [heq])
    exact primaries_disjoint space (hmem r hr).1 (hmem q hq).1 hne (by simpa using hr')
      (by simpa using hq')
  · intro r q hr hq hpair
    refine ⟨fun hnode => ?_, hpair.2⟩
    -- one name is one record, and a record is not apart from itself
    have heq : q = r := List.mem_singleton.mp
      ((hmem r hr).2 ▸ List.mem_filter.mpr ⟨(hmem q hq).1, by simpa using hnode.symm⟩)
    subst heq
    have hsize := (space.fits q (hmem q hq).1).size
    by_cases hlogical : isLogical table q
    · have hself := hpair.2 hlogical hlogical
      rcases hself with h | h <;> omega
    · have hself := hpair.1 (by simpa using hlogical) (by simpa using hlogical)
      rcases hself with h | h <;> omega

theorem gather_dosChildRange_iff (space : DosSpace table target limit sectors)
    {children : List BlockDevice} {found : List (Range × Bool)} :
    gather (dosChildRange table sector limit (extendedRanges table)) children = some found ↔
      ∃ records, List.Forall₂ (DosSibling table sector) children records ∧
        found = records.map fun r => (recordRange r, isLogical table r) := by
  rw [gather_eq_some_iff]
  simp only [dosChildRange_eq_some_iff space]
  constructor
  · exact exists_records
  · rintro ⟨records, hrecords, rfl⟩
    induction hrecords with
    | nil => exact .nil
    | @cons _ r _ _ hhead _ ih => exact .cons ⟨r, hhead, rfl⟩ ih

/-- Behind the target, the ranges of some of the table's records leave at least the space
that the ranges of all of them leave. -/
theorem DosSpace.behind_some {ranges : List Range}
    (space : DosSpace table target limit sectors)
    (htarget : table.partitions.filter (·.node = target.node) = [target])
    (hranges : ∀ range ∈ ranges, range ∈ primaries table) (hapart : ranges.Pairwise Disjoint)
    (hmem : recordRange target ∈ ranges) :
    ∃ next, behind limit target.node (sorted ranges) = some (recordRange target, next) ∧
      (recordRange target).stop ≤ next ∧ next ≤ limit ∧
      sectors ≤ next - (recordRange target).stop := by
  have hsizes : ∀ range ∈ primaries table, range.start < range.stop := by
    intro range hrange
    obtain ⟨r, hr, rfl⟩ := List.mem_map.mp hrange
    exact (space.fits r (List.mem_filter.mp hr).1).size
  have hlimit : ∀ range ∈ primaries table, range.stop ≤ limit := by
    intro range hrange
    obtain ⟨r, hr, rfl⟩ := List.mem_map.mp hrange
    exact (space.fits r (List.mem_filter.mp hr).1).2.2.2
  have hnamed : ∀ range ∈ primaries table, range.name = target.node →
      range = recordRange target := by
    intro range hrange hname
    obtain ⟨r, hr, rfl⟩ := List.mem_map.mp hrange
    have heq : r = target := List.mem_singleton.mp
      (htarget ▸ List.mem_filter.mpr
        ⟨(List.mem_filter.mp hr).1, by simpa [recordRange] using hname⟩)
    rw [heq]
  have hsorted : ∀ {rs : List Range}, (∀ r ∈ rs, r ∈ primaries table) →
      rs.Pairwise Lib.Ranges.Disjoint →
      (∀ r ∈ sorted rs, r ∈ primaries table) ∧ Apart (sorted rs) := by
    intro rs hrs hpairs
    have hmem' : ∀ r ∈ sorted rs, r ∈ primaries table := fun r hr => hrs r (mem_sorted.mp hr)
    refine ⟨hmem', apart_of_not_overlaps (fun r hr => hsizes r (hmem' r hr)) ?_⟩
    exact (overlaps_sorted_iff fun r hr => hsizes r (hrs r hr)).mpr hpairs
  obtain ⟨hfewer, hfewerApart⟩ := hsorted hranges hapart
  obtain ⟨hall, hallApart⟩ := hsorted (fun r hr => hr) space.apart
  obtain ⟨a, next, hbehind⟩ := @behind_isSome limit _ _ _ (mem_sorted.mpr hmem) rfl
  obtain ⟨ha, hname, hstop, hends⟩ := next_cases hfewerApart
    (fun r hr => hlimit r (hfewer r hr)) hbehind
  obtain rfl : a = recordRange target := hnamed a (hfewer a ha) hname
  obtain ⟨a', next', hbehind', -, hsectors⟩ := space.free
  obtain ⟨ha', hname', -⟩ := next_cases hallApart (fun r hr => hlimit r (hall r hr)) hbehind'
  obtain rfl : a' = recordRange target := hnamed a' (hall a' ha') hname'
  have hmono : next' ≤ next := behind_mono hallApart (fun r hr => hsizes r (hall r hr))
    (fun r hr => hlimit r (hall r hr)) hfewerApart
    (fun r hr => mem_sorted.mpr (hfewer r hr)) hbehind' hbehind rfl
  refine ⟨next, hbehind, hstop, ?_, by omega⟩
  rcases hends with rfl | ⟨b, hb, rfl, -⟩
  · exact le_rfl
  · have hsize := hsizes b (hfewer b hb)
    have hfits := hlimit b (hfewer b hb)
    omega

/-- What the siblings are to each other, said of their records. -/
theorem dosSiblings_iff (space : DosSpace table target limit sectors) {path : String} :
    DosSiblings disk table sector path ↔ disk.kernelName.isSome ∧ ∃ records,
      List.Forall₂ (DosSibling table sector) (listedPartitions disk) records ∧
      (((records.filter (!isLogical table ·)).map recordRange).Pairwise Disjoint ∧
        ((records.filter (isLogical table ·)).map recordRange).Pairwise Disjoint) ∧
      ∃ r ∈ records, r.node = path := by
  have hmem : ∀ {records : List PartitionRecord},
      List.Forall₂ (DosSibling table sector) (listedPartitions disk) records →
      ∀ r ∈ records, r ∈ table.partitions ∧ table.partitions.filter (·.node = r.node) = [r] := by
    intro records hrecords r hr
    obtain ⟨child, -, hsibling⟩ := exists_left_of_forall₂ hrecords hr
    exact ⟨hsibling.mem, hsibling.2.1⟩
  constructor
  · rintro ⟨hnamed, hsiblings, hapart, child, hchild, hpath⟩
    obtain ⟨records, hrecords⟩ := exists_forall₂ hsiblings
    rw [← pairwise_records_iff hrecords] at hapart
    obtain ⟨r, hr, hsibling⟩ := exists_right_of_forall₂ hrecords hchild
    exact ⟨hnamed, records, hrecords, (records_apart_iff space (hmem hrecords)).mp hapart, r, hr,
      Option.some.inj (hsibling.1.symm.trans hpath)⟩
  · rintro ⟨hnamed, records, hrecords, hapart, r, hr, rfl⟩
    rw [← records_apart_iff space (hmem hrecords), pairwise_records_iff hrecords] at hapart
    obtain ⟨child, hchild, hsibling⟩ := exists_left_of_forall₂ hrecords hr
    refine ⟨hnamed, fun child hchild => ?_, hapart, child, hchild, hsibling.1⟩
    obtain ⟨q, -, hq⟩ := exists_right_of_forall₂ hrecords hchild
    exact ⟨q, hq⟩

theorem filter_map_snd {α β : Type} (f : α → β) (p : α → Bool) (as : List α) :
    (((as.map fun a => (f a, p a)).filter (·.2)).map (·.1)) = (as.filter p).map f := by
  induction as with
  | nil => rfl
  | cons a as ih =>
    rw [List.map_cons, List.filter_cons, List.filter_cons]
    cases p a <;> simp [ih]

theorem filter_map_not_snd {α β : Type} (f : α → β) (p : α → Bool) (as : List α) :
    (((as.map fun a => (f a, p a)).filter (!·.2)).map (·.1)) = (as.filter (!p ·)).map f := by
  induction as with
  | nil => rfl
  | cons a as ih =>
    rw [List.map_cons, List.filter_cons, List.filter_cons]
    cases p a <;> simp [ih]

theorem adjacentCapacityDosPrimary_parent {c : Nat}
    (h : adjacentCapacityDosPrimary disk table d sector = some c) :
    d.parentKernelName = disk.kernelName := by
  obtain ⟨name, hname, h⟩ := Option.bind_eq_some_iff.mp h
  by_cases hparent : d.parentKernelName ≠ some name
  · rw [if_pos hparent] at h
    cases h
  · rw [hname, not_not.mp hparent]

/-- A DOS table's capacity is at least what the planner measures, once every partition the
disk lists agrees. -/
theorem adjacentCapacityDosPrimary_iff
    (space : DosSpace table target (dosLimit (disk.sizeBytes / sector)) sectors)
    (htarget : table.partitions.filter (·.node = target.node) = [target])
    (hpath : d.path = some target.node) (hsector : sector = 512 ∨ sector = 4096) {growth : Nat}
    (hgrowth : growth ≤ sectors * sector) :
    (∃ c, adjacentCapacityDosPrimary disk table d sector = some c ∧ growth ≤ c) ↔
      d.parentKernelName = disk.kernelName ∧
        DosSiblings disk table sector target.node := by
  have hmemTarget : target ∈ table.partitions := (mem_of_filter_eq_singleton htarget).1
  obtain ⟨-, hpos, hfirst, hstop⟩ := space.fits target hmemTarget
  obtain ⟨kind, hkind, -⟩ := space.known target hmemTarget
  have hplain : isExtendedType kind = false := by
    have h := space.plain
    rwa [isContainer, hkind, Option.any_some] at h
  rw [dosSiblings_iff space, adjacentCapacityDosPrimary]
  have hlimit : min (disk.sizeBytes / sector) (2 ^ 32) = dosLimit (disk.sizeBytes / sector) := rfl
  have hsingle : (extendedRanges table).length ≤ 1 := by
    rw [extendedRanges_eq space.fits]
    exact space.single
  simp only [hlimit, Option.bind_eq_bind, Option.bind_eq_some_iff, Option.ite_none_left_eq_some,
    one_eq_some_iff, hpath, Option.some.injEq, gather_dosChildRange_iff space]
  have hsizes : ∀ {records : List PartitionRecord}, (∀ r ∈ records, r ∈ table.partitions) →
      ∀ range ∈ records.map recordRange, range.start < range.stop := by
    intro records hrecords range hrange
    obtain ⟨r, hr, rfl⟩ := List.mem_map.mp hrange
    exact (space.fits r (hrecords r hr)).size
  have hmem : ∀ {records : List PartitionRecord} (p : PartitionRecord → Bool),
      List.Forall₂ (DosSibling table sector) (listedPartitions disk) records →
      ∀ r ∈ records.filter p, r ∈ table.partitions := by
    intro records p hrecords r hr
    obtain ⟨child, -, hsibling⟩ := exists_left_of_forall₂ hrecords (List.mem_filter.mp hr).1
    exact hsibling.mem
  constructor
  · rintro ⟨c, ⟨name, hname, hparent, -, -, _, ⟨records, hrecords, rfl⟩, hagree, _, rfl, -, -, -, -,
      -, hcapacity⟩, -⟩
    rw [filter_map_snd, filter_map_not_snd] at hagree
    rw [filter_map_not_snd] at hcapacity
    simp only [not_or, Bool.not_eq_true] at hagree
    rw [overlaps_sorted_iff (hsizes (hmem _ hrecords)),
      overlaps_sorted_iff (hsizes (hmem _ hrecords))] at hagree
    obtain ⟨_, ⟨found, next, hbehind, -⟩, -⟩ := capacityBehind_eq_some_iff.mp hcapacity
    obtain ⟨before, after, hsplit, hfound, -⟩ := behind_eq_some hbehind
    have hin : found ∈ (records.filter (!isLogical table ·)).map recordRange :=
      mem_sorted.mp (hsplit ▸ by simp)
    obtain ⟨r, hr, rfl⟩ := List.mem_map.mp hin
    exact ⟨by rw [hname, not_not.mp hparent], by rw [hname]; rfl, records, hrecords, hagree.2, r,
      (List.mem_filter.mp hr).1, hfound⟩
  · rintro ⟨hparent, hnamed, records, hrecords, hapart, r, hr, hnode⟩
    obtain ⟨name, hname⟩ := Option.isSome_iff_exists.mp hnamed
    have hrTable : r ∈ table.partitions := by
      obtain ⟨child, -, hsibling⟩ := exists_left_of_forall₂ hrecords hr
      exact hsibling.mem
    obtain rfl : r = target := eq_of_filter_eq_singleton htarget hrTable (by simpa using hnode)
    have hin : recordRange r ∈ (records.filter (!isLogical table ·)).map recordRange :=
      List.mem_map_of_mem (List.mem_filter.mpr ⟨hr, by simp [space.outside]⟩)
    have hranges : ∀ range ∈ (records.filter (!isLogical table ·)).map recordRange,
        range ∈ primaries table := by
      intro range hrange
      obtain ⟨q, hq, rfl⟩ := List.mem_map.mp hrange
      exact List.mem_map_of_mem
        (List.mem_filter.mpr ⟨hmem _ hrecords q hq, (List.mem_filter.mp hq).2⟩)
    obtain ⟨next, hbehind, hends, hfits, henough⟩ :=
      space.behind_some htarget hranges hapart.1 hin
    have hnext : next ≤ 2 ^ 32 := hfits.trans (Nat.min_le_right _ _)
    refine ⟨(next - (recordRange r).stop) * sector, ⟨name, hname, not_not.mpr (hparent.trans hname),
      by omega, by omega, _, ⟨records, hrecords, rfl⟩, ?_, _, rfl, r, htarget, kind,
      Option.bind_eq_some_iff.mp hkind, by rw [hplain]; decide, ?_⟩,
      hgrowth.trans (Nat.mul_le_mul_right sector henough)⟩
    · rw [filter_map_snd, filter_map_not_snd]
      simp only [not_or, Bool.not_eq_true]
      rw [overlaps_sorted_iff (hsizes (hmem _ hrecords)),
        overlaps_sorted_iff (hsizes (hmem _ hrecords))]
      refine ⟨?_, hapart⟩
      simpa using ⟨r, hr, space.outside⟩
    · rw [filter_map_not_snd, capacityBehind_eq_some_iff]
      refine ⟨_, ⟨_, next, hbehind, hends, rfl⟩, checkedMul_eq_some_iff.mpr ⟨?_, rfl⟩⟩
      -- both tables count sectors in 32 bits, and no sector is longer than 4096 bytes
      have hbytes : (next - (recordRange r).stop) * sector ≤ 2 ^ 32 * 4096 :=
        Nat.mul_le_mul (by omega) (by omega)
      exact hbytes.trans_lt (by decide)

end Dos

end StorageManager.Planner.Extend
