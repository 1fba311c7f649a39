import StorageManager.Planner.AdvisoryCapacity

/-!
# The advisory capacity and the records of the table

The bytes reported behind a partition stay inside its table and its disk. In a GPT no record
claims any of them. In a DOS table only the records of listed partitions are looked at, and
the others must stay out of the run behind the target.
-/

namespace StorageManager.Planner.Extend

open Core (BlockDevice HostSnapshot PartitionRecord PartitionTable isExtendedType)
open Discovery
open Lib.Checks
open Lib.Ranges
open Lib.Word64

set_option autoImplicit false

/-- The record covers the byte of its disk. -/
def Covers (sector : Nat) (r : PartitionRecord) (byte : Nat) : Prop :=
  r.startSector * sector ≤ byte ∧ byte < (r.startSector + r.sizeSectors) * sector

/-- The first byte behind the record. -/
def endByte (sector : Nat) (r : PartitionRecord) : Nat :=
  (r.startSector + r.sizeSectors) * sector

/-- No record of the table claims one of the bytes behind the target. -/
def Unclaimed (table : PartitionTable) (sector : Nat) (target : PartitionRecord)
    (bytes : Nat) : Prop :=
  ∀ r ∈ table.partitions, ∀ byte, endByte sector target ≤ byte →
    byte < endByte sector target + bytes → ¬Covers sector r byte

/-- A partition of the disk is named for the record. -/
def IsListed (disk : BlockDevice) (r : PartitionRecord) : Prop :=
  ∃ child ∈ listedPartitions disk, child.path = some r.node

/-- The record stands in a container other than itself. -/
def insideContainer (extended : List Range) (r : PartitionRecord) : Bool :=
  extended.any fun e =>
    r.node ≠ e.name && e.start ≤ r.startSector && r.startSector + r.sizeSectors ≤ e.stop

/-- Behind the target, a sector of a record without a device has a listed partition in front
of it. Only a DOS table can have such records. -/
def Fenced (disk : BlockDevice) (table : PartitionTable) (sector : Nat)
    (target : PartitionRecord) : Prop :=
  table.label = some "dos" → ∀ r ∈ table.partitions, ¬IsListed disk r → ∀ lba,
    r.startSector ≤ lba → lba < r.startSector + r.sizeSectors →
    target.startSector + target.sizeSectors ≤ lba → lba < dosLimit (disk.sizeBytes / sector) →
    ∃ q ∈ table.partitions, IsListed disk q ∧ insideContainer (extendedRanges table) q = false ∧
      target.startSector + target.sizeSectors ≤ q.startSector ∧ q.startSector ≤ lba

/-- The bytes behind the target stand between the usable bounds of the table. -/
def WithinTable (table : PartitionTable) (sector : Nat) (target : PartitionRecord)
    (bytes : Nat) : Prop :=
  (table.label = some "gpt" ∧ ∃ first last, table.firstLba = some first ∧
      table.lastLba = some last ∧ first * sector ≤ endByte sector target ∧
      endByte sector target + bytes ≤ (last + 1) * sector) ∨
    (table.label = some "dos" ∧ sector ≤ endByte sector target ∧
      endByte sector target + bytes ≤ 2 ^ 32 * sector)

/-- What is always so of a reported capacity: it was measured behind the one record of the
target's path, which its device agrees with, within the table and the disk. -/
structure Advised (s : HostSnapshot) (d : BlockDevice) (bytes : Nat) (disk : BlockDevice)
    (table : PartitionTable) (sector : Nat) (target : PartitionRecord) : Prop where
  listed : Listed s d disk table sector
  path : d.path = some target.node
  ofRecord : table.partitions.filter (·.node = target.node) = [target]
  device : ∀ child ∈ listedPartitions disk, child.path = d.path →
    ∃ start, child.start512Sector = some start ∧
      start * 512 + child.sizeBytes = endByte sector target
  inTable : WithinTable table sector target bytes
  inDisk : endByte sector target + bytes ≤ disk.sizeBytes

section Laws

variable {s : HostSnapshot} {d disk : BlockDevice} {table : PartitionTable} {sector : Nat}
  {target : PartitionRecord}

/-- In whole sectors, the bytes behind the target are covered sector by sector. -/
theorem uncovered_iff (hsector : 0 < sector) {sectors : Nat} {r : PartitionRecord} :
    (∀ byte, endByte sector target ≤ byte → byte < endByte sector target + sectors * sector →
      ¬Covers sector r byte) ↔ ∀ lba, target.startSector + target.sizeSectors ≤ lba →
        lba < target.startSector + target.sizeSectors + sectors →
        ¬(r.startSector ≤ lba ∧ lba < r.startSector + r.sizeSectors) := by
  have hend : endByte sector target + sectors * sector =
      (target.startSector + target.sizeSectors + sectors) * sector := by
    rw [endByte, ← Nat.add_mul]
  rw [hend]
  constructor
  · intro h lba hfrom hto hcovers
    refine h (lba * sector) (Nat.mul_le_mul_right sector hfrom)
      (Nat.mul_lt_mul_of_pos_right hto hsector) ⟨?_, ?_⟩
    · exact Nat.mul_le_mul_right sector hcovers.1
    · exact Nat.mul_lt_mul_of_pos_right hcovers.2 hsector
  · intro h byte hfrom hto hcovers
    refine h (byte / sector) ?_ ?_ ⟨?_, ?_⟩
    · exact (Nat.le_div_iff_mul_le hsector).mpr hfrom
    · exact (Nat.div_lt_iff_lt_mul hsector).mpr hto
    · exact (Nat.le_div_iff_mul_le hsector).mpr hcovers.1
    · exact (Nat.div_lt_iff_lt_mul hsector).mpr hcovers.2

theorem unclaimed_iff (hsector : 0 < sector) {sectors : Nat} :
    Unclaimed table sector target (sectors * sector) ↔ ∀ r ∈ table.partitions, ∀ lba,
      target.startSector + target.sizeSectors ≤ lba →
      lba < target.startSector + target.sizeSectors + sectors →
      ¬(r.startSector ≤ lba ∧ lba < r.startSector + r.sizeSectors) :=
  forall₂_congr fun _ _ => uncovered_iff hsector

section Gpt

theorem GptSibling.endByte_eq {child : BlockDevice} (h : GptSibling disk sector target)
    (hchild : child ∈ disk.children) (hpath : child.path = some target.node) :
    ∃ start, child.start512Sector = some start ∧
      start * 512 + child.sizeBytes = endByte sector target := by
  obtain ⟨sibling, hsibling, -, -, -, hstart, hsize, -⟩ := h
  obtain rfl := eq_of_filter_eq_singleton hsibling hchild (by simpa using hpath)
  obtain ⟨start, hstart, hbytes⟩ := Option.bind_eq_some_iff.mp hstart
  rw [checkedMul_eq_some_iff] at hbytes hsize
  exact ⟨start, hstart, by rw [hbytes.2, ← hsize.2, endByte, Nat.add_mul]⟩

/-- A GPT is looked at as a whole: every record has its device, so none is missed. -/
theorem gpt_advised {path : String} {bytes : Nat} (listed : Listed s d disk table sector)
    (hpath : d.path = some path) (hlabel : table.label = some "gpt")
    (h : adjacentCapacityTable disk table path sector = some bytes) :
    ∃ target, Advised s d bytes disk table sector target ∧ Unclaimed table sector target bytes := by
  obtain ⟨asked, rfl⟩ : ∃ r : PartitionRecord, r.node = path :=
    ⟨⟨path, 0, 0, none, none, none, none, none⟩, rfl⟩
  rw [adjacentCapacityTable_eq_some_iff hlabel] at h
  obtain ⟨hsiblings, sectors, hfree, hbytes⟩ := h
  rw [checkedMul_eq_some_iff] at hbytes
  obtain ⟨-, rfl⟩ := hbytes
  obtain ⟨first, last, hfirst, hlast, -, hfits, hapart, _, next, hbehind, hstop, rfl⟩ :=
    adjacentFreeGpt_eq_ok_iff.mp hfree
  have hsizes : ∀ range ∈ table.partitions.map recordRange, range.start < range.stop := by
    intro range hrange
    obtain ⟨r, hr, rfl⟩ := List.mem_map.mp hrange
    exact (hfits r hr).size
  have hlimit : ∀ range ∈ table.partitions.map recordRange, range.stop ≤ last + 1 := by
    intro range hrange
    obtain ⟨r, hr, rfl⟩ := List.mem_map.mp hrange
    exact (hfits r hr).2.2.2
  obtain ⟨hmem, hname, -, hnext, -⟩ := run_bounds hsizes hlimit hapart hbehind
  obtain ⟨target, htarget, rfl⟩ := List.mem_map.mp hmem
  obtain ⟨-, -, hbegin, -⟩ := hfits target htarget
  obtain ⟨first', last', hfirst', hlast', -, hdisk⟩ := hsiblings.bounds
  obtain rfl : first = first' := Option.some.inj (hfirst.symm.trans hfirst')
  obtain rfl : last = last' := Option.some.inj (hlast.symm.trans hlast')
  have hrun : endByte sector target + (next - (recordRange target).stop) * sector =
      next * sector := by
    rw [endByte, ← Nat.add_mul]
    congr 1
    simp only [recordRange] at hstop ⊢
    omega
  refine ⟨target, ⟨listed, hpath.trans (congrArg some hname.symm),
    filter_eq_singleton_of_nodup hsiblings.distinct htarget, ?_, .inl ⟨hlabel, first, last, hfirst,
    hlast, ?_, ?_⟩, ?_⟩, ?_⟩
  · intro child hchild hsame
    refine (hsiblings.siblings target htarget).endByte_eq (List.mem_filter.mp hchild).1 ?_
    rw [hsame, hpath, ← hname]
    rfl
  · exact Nat.mul_le_mul_right sector (by omega)
  · rw [hrun]
    exact Nat.mul_le_mul_right sector hnext
  · rw [hrun]
    exact (Nat.mul_le_mul_right sector (by omega)).trans (Nat.div_mul_le_self disk.sizeBytes sector)
  · have hpos := sector_pos listed.common
    rw [unclaimed_iff hpos]
    intro r hr lba hfrom hto hcovers
    rcases clear_of_run hsizes hapart hbehind (List.mem_map_of_mem hr) with heq | hclear
    · have hsame := congrArg Range.stop heq
      simp only [recordRange] at hsame
      omega
    · have hsize := (hfits target htarget).size
      simp only [recordRange] at hclear hto hstop hsize
      omega

end Gpt

section Dos

/-- What the analysis has compared of a listed partition and its record. -/
structure Recorded (table : PartitionTable) (sector limit : Nat) (child : BlockDevice)
    (r : PartitionRecord) : Prop where
  path : child.path = some r.node
  ofRecord : table.partitions.filter (·.node = r.node) = [r]
  fits : RecordFits 1 limit r
  start : ∃ start, child.start512Sector = some start ∧ start * 512 = r.startSector * sector
  size : isContainer r = false → child.sizeBytes = r.sizeSectors * sector

variable {limit : Nat} {extended : List Range} {child : BlockDevice} {r : PartitionRecord}

theorem Recorded.mem (h : Recorded table sector limit child r) : r ∈ table.partitions :=
  (mem_of_filter_eq_singleton h.ofRecord).1

theorem Recorded.unique (h : Recorded table sector limit child r) {q : PartitionRecord}
    (hq : q ∈ table.partitions) (hnode : q.node = r.node) : q = r :=
  eq_of_filter_eq_singleton h.ofRecord hq (by simpa using hnode)

theorem recorded_of_dosChildRange {found : Range × Bool}
    (h : dosChildRange table sector limit extended child = some found) :
    ∃ r, Recorded table sector limit child r ∧
      found = (recordRange r, insideContainer extended r) := by
  unfold dosChildRange at h
  simp only [Option.bind_eq_bind, Option.bind_eq_some_iff, one_eq_some_iff,
    Option.ite_none_left_eq_some, checkedMul_eq_some_iff, checkedAdd_eq_some_iff] at h
  obtain ⟨path, hpath, r, hrecord, kind, hkind, hheld, _, ⟨-, rfl⟩, _, ⟨hfits, rfl⟩, -, start,
    hstart, _, ⟨-, rfl⟩, hagree, h⟩ := h
  obtain rfl : r.node = path := by simpa using (mem_of_filter_eq_singleton hrecord).2
  simp only [not_or, ne_eq, not_not] at hheld hagree
  have hcontainer : isContainer r = isExtendedType kind := by
    rw [isContainer, kindOf, Option.bind_eq_some_iff.mpr hkind]
    rfl
  have hsized : (isContainer r = false → child.sizeBytes = r.sizeSectors * sector) ∧
      some (recordRange r, insideContainer extended r) = some found := by
    rw [hcontainer]
    by_cases hext : isExtendedType kind
    · rw [if_pos hext] at h
      exact ⟨fun hplain => absurd hext (by simp [hplain]), h⟩
    · rw [if_neg hext] at h
      simp only [Option.bind_eq_some_iff, checkedMul_eq_some_iff, Option.ite_none_left_eq_some,
        ne_eq, not_not] at h
      obtain ⟨_, ⟨-, rfl⟩, hsize, h⟩ := h
      exact ⟨fun _ => hsize, h⟩
  exact ⟨r, ⟨hpath, hrecord, ⟨hfits, by omega, by omega, by omega⟩, ⟨start, hstart, hagree.1⟩,
    hsized.1⟩, (Option.some.inj hsized.2).symm⟩

/-- What the analysis holds of a DOS disk when it reports a capacity behind the target: the
ranges of the listed partitions outside the container, none of which overlap. -/
structure DosAdvised (disk : BlockDevice) (table : PartitionTable) (sector : Nat)
    (target : PartitionRecord) (next : Nat) : Prop where
  single : (extendedRanges table).length ≤ 1
  recorded : ∀ child ∈ listedPartitions disk, ∃ r,
    Recorded table sector (dosLimit (disk.sizeBytes / sector)) child r
  run : ∃ ranges, (∀ range, range ∈ ranges ↔ ∃ child ∈ listedPartitions disk, ∃ r,
      Recorded table sector (dosLimit (disk.sizeBytes / sector)) child r ∧
      insideContainer (extendedRanges table) r = false ∧ range = recordRange r) ∧
    ranges.Pairwise Disjoint ∧
    behind (dosLimit (disk.sizeBytes / sector)) target.node (sorted ranges) =
      some (recordRange target, next)
  plain : isContainer target = false

theorem dosAdvised {path : String} {bytes : Nat} (hpath : d.path = some path)
    (h : adjacentCapacityDosPrimary disk table d sector = some bytes) :
    ∃ target next, target.node = path ∧ table.partitions.filter (·.node = path) = [target] ∧
      DosAdvised disk table sector target next ∧
      target.startSector + target.sizeSectors ≤ next ∧
      bytes = (next - (target.startSector + target.sizeSectors)) * sector := by
  have hdos : min (disk.sizeBytes / sector) (2 ^ 32) = dosLimit (disk.sizeBytes / sector) := rfl
  simp only [adjacentCapacityDosPrimary, hdos, Option.bind_eq_bind, Option.bind_eq_some_iff,
    Option.ite_none_left_eq_some, one_eq_some_iff, hpath, Option.some.injEq] at h
  obtain ⟨name, -, -, -, hsingle, found, hfound, hagree, _, rfl, target, htarget, kind, hkind,
    hplain, hcapacity⟩ := h
  rw [gather_eq_some_iff] at hfound
  obtain ⟨sectors, ⟨a, next, hbehind, hstop, rfl⟩, hbytes⟩ :=
    capacityBehind_eq_some_iff.mp hcapacity
  rw [checkedMul_eq_some_iff] at hbytes
  simp only [not_or, Bool.not_eq_true] at hagree
  -- every range of the list is the range of a listed partition's record
  have hranges : ∀ range, range ∈ (found.filter (!·.2)).map (·.1) ↔
      ∃ child ∈ listedPartitions disk, ∃ r,
        Recorded table sector (dosLimit (disk.sizeBytes / sector)) child r ∧
        insideContainer (extendedRanges table) r = false ∧ range = recordRange r := by
    intro range
    rw [List.mem_map]
    constructor
    · rintro ⟨f, hf, rfl⟩
      obtain ⟨hf, hinside⟩ := List.mem_filter.mp hf
      obtain ⟨child, hchild, hrange⟩ := exists_left_of_forall₂ hfound hf
      obtain ⟨r, hrecorded, rfl⟩ := recorded_of_dosChildRange hrange
      exact ⟨child, hchild, r, hrecorded, by simpa using hinside, rfl⟩
    · rintro ⟨child, hchild, r, hrecorded, hinside, rfl⟩
      obtain ⟨f, hf, hrange⟩ := exists_right_of_forall₂ hfound hchild
      obtain ⟨q, hq, rfl⟩ := recorded_of_dosChildRange hrange
      obtain rfl := hrecorded.unique hq.mem (Option.some.inj (hq.path.symm.trans hrecorded.path))
      exact ⟨_, List.mem_filter.mpr ⟨hf, by simp [hinside]⟩, rfl⟩
  have hsizes : ∀ range ∈ (found.filter (!·.2)).map (·.1), range.start < range.stop := by
    intro range hrange
    obtain ⟨child, -, r, hrecorded, -, rfl⟩ := (hranges range).mp hrange
    exact hrecorded.fits.size
  have hapart := (overlaps_sorted_iff hsizes).mp hagree.2.1
  obtain ⟨before, after, hsplit, hname, -⟩ := behind_eq_some hbehind
  obtain ⟨child, -, r, hrecorded, -, rfl⟩ := (hranges a).mp (mem_sorted.mp (hsplit ▸ by simp))
  obtain ⟨htargetMem, htargetNode⟩ := mem_of_filter_eq_singleton htarget
  obtain rfl : target = r := hrecorded.unique htargetMem (by
    have hnode : target.node = path := by simpa using htargetNode
    exact hnode.trans hname.symm)
  obtain rfl : target.node = path := hname
  refine ⟨target, next, rfl, htarget, ⟨by omega, fun child hchild => ?_, ⟨_, hranges, hapart,
    hbehind⟩, ?_⟩, hstop, hbytes.2.symm⟩
  · obtain ⟨f, -, hrange⟩ := exists_right_of_forall₂ hfound hchild
    obtain ⟨q, hq, -⟩ := recorded_of_dosChildRange hrange
    exact ⟨q, hq⟩
  · rw [isContainer, kindOf, Option.bind_eq_some_iff.mpr hkind]
    simpa using hplain

variable {next : Nat}

theorem DosAdvised.fits (h : DosAdvised disk table sector target next) :
    RecordFits 1 (dosLimit (disk.sizeBytes / sector)) target := by
  obtain ⟨ranges, hranges, -, hbehind⟩ := h.run
  obtain ⟨before, after, hsplit, -⟩ := behind_eq_some hbehind
  obtain ⟨child, -, r, hr, -, heq⟩ :=
    (hranges (recordRange target)).mp (mem_sorted.mp (hsplit ▸ by simp))
  have hstart := congrArg Range.start heq
  have hstop := congrArg Range.stop heq
  obtain ⟨hfits, hsize, hbegin, hend⟩ := hr.fits
  simp only [recordRange] at hstart hstop
  exact ⟨by omega, by omega, by omega, by omega⟩

/-- The run ends at the limit or at a listed partition outside the container. -/
theorem DosAdvised.ends (h : DosAdvised disk table sector target next) :
    next ≤ dosLimit (disk.sizeBytes / sector) ∧
      (next = dosLimit (disk.sizeBytes / sector) ∨ ∃ q ∈ table.partitions, IsListed disk q ∧
        insideContainer (extendedRanges table) q = false ∧ q.startSector = next ∧
        target.startSector + target.sizeSectors ≤ q.startSector) := by
  obtain ⟨ranges, hranges, hapart, hbehind⟩ := h.run
  have hfits : ∀ range ∈ ranges, range.start < range.stop ∧
      range.stop ≤ dosLimit (disk.sizeBytes / sector) := by
    intro range hrange
    obtain ⟨_, -, q, hq, -, rfl⟩ := (hranges range).mp hrange
    exact ⟨hq.fits.size, hq.fits.2.2.2⟩
  obtain ⟨-, -, -, hnext, hends⟩ := run_bounds (fun range hrange => (hfits range hrange).1)
    (fun range hrange => (hfits range hrange).2) hapart hbehind
  refine ⟨hnext, hends.imp_right ?_⟩
  rintro ⟨b, hb, hstart, hbehind⟩
  obtain ⟨child, hchild, q, hq, hinside, rfl⟩ := (hranges b).mp hb
  exact ⟨q, hq.mem, ⟨child, hchild, hq.path⟩, hinside, hstart, hbehind⟩

/-- A listed partition outside the container keeps out of the run behind the target. -/
theorem DosAdvised.clear (h : DosAdvised disk table sector target next)
    (hr : r ∈ table.partitions) (hlisted : IsListed disk r)
    (hinside : insideContainer (extendedRanges table) r = false) : 0 < r.sizeSectors ∧
      (next ≤ r.startSector ∨
        r.startSector + r.sizeSectors ≤ target.startSector + target.sizeSectors) := by
  obtain ⟨child, hchild, hpath⟩ := hlisted
  obtain ⟨q, hq⟩ := h.recorded child hchild
  obtain rfl := hq.unique hr (Option.some.inj (hpath.symm.trans hq.path))
  obtain ⟨ranges, hranges, hapart, hbehind⟩ := h.run
  have hsizes : ∀ range ∈ ranges, range.start < range.stop := by
    intro range hrange
    obtain ⟨_, -, r', hr', -, rfl⟩ := (hranges range).mp hrange
    exact hr'.fits.size
  have hmem := (hranges (recordRange r)).mpr ⟨child, hchild, r, hq, hinside, rfl⟩
  refine ⟨hq.fits.2.1, ?_⟩
  rcases clear_of_run hsizes hapart hbehind hmem with heq | hbefore | hafter
  · exact .inr (le_of_eq (congrArg Range.stop heq))
  · simp only [recordRange] at hbefore
    omega
  · exact .inl hafter

theorem mem_extendedRanges {e : Range} (h : e ∈ extendedRanges table) :
    ∃ x ∈ table.partitions, e = recordRange x := by
  obtain ⟨x, hx, he⟩ := List.mem_filterMap.mp h
  simp only [Option.bind_eq_bind, Option.bind_eq_some_iff, checkedAdd_eq_some_iff,
    Option.ite_none_right_eq_some, Option.some.injEq] at he
  obtain ⟨-, -, _, ⟨-, rfl⟩, -, rfl⟩ := he
  exact ⟨x, hx, rfl⟩

/-- The only container is not inside another one. -/
theorem not_inside_of_single (hsingle : (extendedRanges table).length ≤ 1) {x : PartitionRecord}
    (hx : recordRange x ∈ extendedRanges table) :
    insideContainer (extendedRanges table) x = false := by
  match hranges : extendedRanges table, hsingle with
  | [], _ => rfl
  | [e], _ =>
    rw [hranges, List.mem_singleton] at hx
    simp [insideContainer, ← hx, recordRange]

/-- Behind the target of a DOS disk the reported sectors are claimed by no record exactly when
the records without a device keep behind the next listed partition. -/
theorem DosAdvised.unclaimed_iff_fenced (h : DosAdvised disk table sector target next)
    (hlabel : table.label = some "dos") (hpos : 0 < sector)
    (hstop : target.startSector + target.sizeSectors ≤ next) :
    Unclaimed table sector target
      ((next - (target.startSector + target.sizeSectors)) * sector) ↔
        Fenced disk table sector target := by
  rw [unclaimed_iff hpos]
  constructor
  · intro hclear _ r hr _ lba hstart hend hfrom hto
    have hnext : next ≤ lba := by
      by_contra hbefore
      exact hclear r hr lba hfrom (by omega) ⟨hstart, hend⟩
    rcases h.ends.2 with heq | ⟨q, hq, hlisted, hinside, hqstart, hbehind⟩
    · omega
    · exact ⟨q, hq, hlisted, hinside, hbehind, by omega⟩
  · intro hfenced
    -- a fence in front of a sector of the run would stand in the run itself
    have hwithout : ∀ r ∈ table.partitions, ¬IsListed disk r → ∀ lba,
        target.startSector + target.sizeSectors ≤ lba → lba < next →
        ¬(r.startSector ≤ lba ∧ lba < r.startSector + r.sizeSectors) := by
      intro r hr hlisted lba hfrom hto hcovers
      have hlba : lba < dosLimit (disk.sizeBytes / sector) := hto.trans_le h.ends.1
      obtain ⟨q, hq, hqlisted, hinside, hbehind, hle⟩ :=
        hfenced hlabel r hr hlisted lba hcovers.1 hcovers.2 hfrom hlba
      have hclear := h.clear hq hqlisted hinside
      omega
    intro r hr lba hfrom hto hcovers
    have hto : lba < next := by omega
    by_cases hlisted : IsListed disk r
    · cases hinside : insideContainer (extendedRanges table) r
      · have hclear := h.clear hr hlisted hinside
        omega
      · -- the container claims the sector as well, and is in no container itself
        obtain ⟨e, he, hin⟩ := List.any_eq_true.mp hinside
        obtain ⟨x, hx, rfl⟩ := mem_extendedRanges he
        rw [Bool.and_eq_true, Bool.and_eq_true] at hin
        have hbegins : x.startSector ≤ r.startSector := of_decide_eq_true hin.1.2
        have hends : r.startSector + r.sizeSectors ≤ x.startSector + x.sizeSectors :=
          of_decide_eq_true hin.2
        by_cases hxlisted : IsListed disk x
        · have hclear := h.clear hx hxlisted (not_inside_of_single h.single he)
          omega
        · exact hwithout x hx hxlisted lba hfrom hto (by omega)
    · exact hwithout r hr hlisted lba hfrom hto hcovers

/-- A DOS capacity stays inside the disk and below the last sector a record can name. -/
theorem dos_advised {path : String} {bytes : Nat} (listed : Listed s d disk table sector)
    (hpath : d.path = some path) (hlabel : table.label = some "dos")
    (h : adjacentCapacityDosPrimary disk table d sector = some bytes) :
    ∃ target, Advised s d bytes disk table sector target ∧
      (Unclaimed table sector target bytes ↔ Fenced disk table sector target) := by
  have hpos := sector_pos listed.common
  obtain ⟨target, next, rfl, htarget, hadvised, hstop, rfl⟩ := dosAdvised hpath h
  have hends := hadvised.ends.1
  have hrun : endByte sector target + (next - (target.startSector + target.sizeSectors)) * sector =
      next * sector := by
    rw [endByte, ← Nat.add_mul]
    congr 1
    omega
  refine ⟨target, ⟨listed, hpath, htarget, ?_, .inr ⟨hlabel, ?_, ?_⟩, ?_⟩,
    hadvised.unclaimed_iff_fenced hlabel hpos hstop⟩
  · intro child hchild hsame
    obtain ⟨r, hr⟩ := hadvised.recorded child hchild
    obtain rfl := hr.unique (mem_of_filter_eq_singleton htarget).1
      (Option.some.inj (hpath.symm.trans (hsame.symm.trans hr.path)))
    obtain ⟨start, hstart, hbytes⟩ := hr.start
    exact ⟨start, hstart, by rw [hbytes, hr.size hadvised.plain, endByte, Nat.add_mul]⟩
  · obtain ⟨-, -, hbegin, -⟩ := hadvised.fits
    calc sector = 1 * sector := (Nat.one_mul sector).symm
      _ ≤ endByte sector target := Nat.mul_le_mul_right sector (by omega)
  · rw [hrun]
    exact Nat.mul_le_mul_right sector (hends.trans (Nat.min_le_right _ _))
  · rw [hrun]
    exact (Nat.mul_le_mul_right sector (hends.trans (Nat.min_le_left _ _))).trans
      (Nat.div_mul_le_self disk.sizeBytes sector)

end Dos

/-- The bytes reported behind a partition stay within its table and its disk, and no record
of the table claims one of them exactly when the records without a device are fenced off. -/
theorem adjacentCapacity_unclaimed_iff {bytes : Nat} (h : adjacentCapacity s d = some bytes) :
    ∃ disk table sector target, Advised s d bytes disk table sector target ∧
      (Unclaimed table sector target bytes ↔ Fenced disk table sector target) := by
  obtain ⟨-, disk, table, sector, path, listed, hpath, h⟩ := adjacentCapacity_eq_some_iff.mp h
  by_cases hlabel : table.label = some "dos"
  · rw [if_pos hlabel] at h
    obtain ⟨target, htarget⟩ := dos_advised listed hpath hlabel h
    exact ⟨disk, table, sector, target, htarget⟩
  · rw [if_neg hlabel] at h
    obtain ⟨target, hadvised, hclear⟩ :=
      gpt_advised listed hpath (adjacentCapacityTable_label h hlabel) h
    exact ⟨disk, table, sector, target, hadvised, fun _ hdos => absurd hdos hlabel,
      fun _ => hclear⟩

end Laws

section Samples

/-- A partition of 512-byte sectors on the disk `sda`. -/
def dosPartition (path : String) (start size : Nat) : BlockDevice where
  name := path
  kernelName := none
  path := some path
  kind := .partition
  sizeBytes := size * 512
  start512Sector := some start
  logicalSectorBytes := some 512
  filesystem := none
  mountpoints := []
  parentKernelName := some "sda"
  model := none
  serial := none
  uuid := none
  partitionUuid := none
  partitionTable := none
  children := []

def dosRecord (path : String) (start size : Nat) : PartitionRecord :=
  ⟨path, start, size, some "83", none, none, none, none⟩

/-- A disk of 4096 sectors whose table has two partitions, with the devices that are listed. -/
def dosSnapshot (children : List BlockDevice) : HostSnapshot where
  storage :=
    { blockDevices :=
        [{ name := "sda", kernelName := some "sda", path := some "/dev/sda", kind := .disk,
           sizeBytes := 4096 * 512, start512Sector := none, logicalSectorBytes := some 512,
           filesystem := none, mountpoints := [], parentKernelName := none, model := none,
           serial := none, uuid := none, partitionUuid := none, partitionTable := some "dos",
           children := children }] }
  partitionTables :=
    [{ device := "/dev/sda", label := some "dos", id := none, unit := some "sectors",
       firstLba := none, lastLba := none, sectorSizeBytes := some 512,
       partitions := [dosRecord "/dev/sda1" 64 64, dosRecord "/dev/sda2" 256 64] }]
  mounts := []
  fstab := []
  swaps := []
  collectors := ["lsblk", "partition_tables"].map fun component => ⟨component, .complete, none⟩

/-- With both partitions listed, the capacity of the first ends where the second begins. -/
theorem adjacentCapacity_unclaimed_between :
    ∃ disk table sector target, Advised
      (dosSnapshot [dosPartition "/dev/sda1" 64 64, dosPartition "/dev/sda2" 256 64])
      (dosPartition "/dev/sda1" 64 64) (128 * 512) disk table sector target ∧
      (Unclaimed table sector target (128 * 512) ↔ Fenced disk table sector target) :=
  adjacentCapacity_unclaimed_iff (by decide +kernel)

/-- With only the first partition listed, the capacity reaches to the end of the disk, over the
second record of the table. -/
theorem adjacentCapacity_over_record :
    adjacentCapacity (dosSnapshot [dosPartition "/dev/sda1" 64 64])
        (dosPartition "/dev/sda1" 64 64) = some (3968 * 512) ∧
      ∃ table ∈ (dosSnapshot [dosPartition "/dev/sda1" 64 64]).partitionTables,
        ¬Unclaimed table 512 (dosRecord "/dev/sda1" 64 64) (3968 * 512) := by
  refine ⟨by decide +kernel, _, List.mem_singleton_self _, fun hclear => ?_⟩
  exact hclear (dosRecord "/dev/sda2" 256 64) (by decide) (256 * 512) (by decide) (by decide)
    ⟨by decide, by decide⟩

end Samples

end StorageManager.Planner.Extend
