import StorageManager.Planner.AdvisoryCapacity

/-!
# Where a preview puts a grown partition

The grown range takes free sectors only, so it meets no other record of its table. A DOS
table is measured against the disk; a GPT is measured against itself.
-/

namespace StorageManager.Planner.Extend

open Core (BlockDevice HostCapabilities HostSnapshot Node PartitionRecord PartitionTable flatten)
open Discovery
open Lib.Checks
open Lib.Ranges
open Lib.Word64

set_option autoImplicit false

/-- The range of a record at another size. -/
def sizedRange (r : PartitionRecord) (sizeSectors : Nat) : Range :=
  ⟨r.startSector, r.startSector + sizeSectors, r.node⟩

section Tables

variable {disk : BlockDevice} {table : PartitionTable} {record other : PartitionRecord}
  {limit sectors newSize : Nat} {ranges : List Range}

/-- In a list of disjoint ranges, a range that grows into the free run behind it meets none of
the others. -/
theorem grown_disjoint_of_free (hsizes : ∀ r ∈ ranges, r.start < r.stop)
    (hpairs : ranges.Pairwise Lib.Ranges.Disjoint)
    (hrecord : ∀ r ∈ ranges, r.name = record.node → r = recordRange record)
    (hfree : FreeBehind limit record.node (sorted ranges) sectors)
    (hsize : newSize ≤ record.sizeSectors + sectors) {range : Range} (hrange : range ∈ ranges)
    (hdisjoint : Lib.Ranges.Disjoint (recordRange record) range) :
    Lib.Ranges.Disjoint (sizedRange record newSize) range := by
  obtain ⟨found, next, hbehind, hends, hsectors⟩ := hfree
  obtain ⟨before, after, hsplit, hname, -⟩ := behind_eq_some hbehind
  have hfound : found ∈ ranges := mem_sorted.mp (hsplit ▸ by simp)
  obtain rfl := hrecord found hfound hname
  simp only [recordRange] at hends hsectors
  rcases before_or_behind hsizes hpairs hbehind hrange hdisjoint with hbefore | hafter
  · exact .inr hbefore
  · refine .inl ?_
    simp only [sizedRange]
    omega

theorem eq_record (hrecord : table.partitions.filter (·.node = record.node) = [record])
    (hother : other ∈ table.partitions) (hnode : other.node = record.node) : other = record :=
  eq_of_filter_eq_singleton hrecord hother (by simpa using hnode)

theorem gpt_grown_disjoint (h : adjacentFreeGpt table record = .ok sectors)
    (hrecord : table.partitions.filter (·.node = record.node) = [record])
    (hsize : newSize ≤ record.sizeSectors + sectors) (hother : other ∈ table.partitions)
    (hne : other ≠ record) : Lib.Ranges.Disjoint (sizedRange record newSize) (recordRange other) := by
  obtain ⟨first, last, -, -, -, hfits, hpairs, hfree⟩ := adjacentFreeGpt_eq_ok_iff.mp h
  refine grown_disjoint_of_free ?_ hpairs ?_ hfree hsize (List.mem_map_of_mem hother) ?_
  · intro range hrange
    obtain ⟨r, hr, rfl⟩ := List.mem_map.mp hrange
    exact (hfits r hr).size
  · intro range hrange hname
    obtain ⟨r, hr, rfl⟩ := List.mem_map.mp hrange
    rw [eq_record hrecord hr hname]
  · rw [List.pairwise_map] at hpairs
    have : Std.Symm fun a b => Lib.Ranges.Disjoint (recordRange a) (recordRange b) :=
      ⟨fun _ _ h => Or.symm h⟩
    exact hpairs.forall (mem_of_filter_eq_singleton hrecord).1 hother hne.symm

/-- A logical partition lies in a container, and the container is no logical partition. -/
theorem exists_container (h : isLogical table other = true) :
    ∃ c ∈ table.partitions, isContainer c = true ∧ c.node ≠ other.node ∧
      c.startSector ≤ other.startSector ∧
      other.startSector + other.sizeSectors ≤ c.startSector + c.sizeSectors ∧
      (containers table).head? = some (recordRange c) := by
  unfold isLogical insideExtended at h
  cases hhead : (containers table).head? with
  | none =>
    rw [hhead] at h
    cases h
  | some e =>
  have he := h
  rw [hhead, Option.any_some] at he
  obtain ⟨c, hc, rfl⟩ := List.mem_map.mp (List.mem_of_mem_head? hhead)
  obtain ⟨hmem, hcontainer⟩ := List.mem_filter.mp hc
  simp only [Bool.and_eq_true, recordRange] at he
  obtain ⟨⟨hname, hstart⟩, hstop⟩ := he
  exact ⟨c, hmem, hcontainer, (of_decide_eq_true hname).symm, of_decide_eq_true hstart,
    of_decide_eq_true hstop, rfl⟩

theorem dos_grown_disjoint (space : DosSpace table record limit sectors)
    (hrecord : table.partitions.filter (·.node = record.node) = [record])
    (hsize : newSize ≤ record.sizeSectors + sectors) (hother : other ∈ table.partitions)
    (hne : other ≠ record) : Lib.Ranges.Disjoint (sizedRange record newSize) (recordRange other) := by
  have hmem : record ∈ table.partitions := (mem_of_filter_eq_singleton hrecord).1
  have primary : ∀ r ∈ table.partitions, r ≠ record → isLogical table r = false →
      Lib.Ranges.Disjoint (sizedRange record newSize) (recordRange r) := by
    intro r hr hner hplain
    refine grown_disjoint_of_free ?_ space.apart ?_ space.free hsize
      (List.mem_map_of_mem (List.mem_filter.mpr ⟨hr, by simp [hplain]⟩))
      (primaries_disjoint space hmem hr hner.symm space.outside hplain)
    · intro range hrange
      obtain ⟨q, hq, rfl⟩ := List.mem_map.mp hrange
      exact (space.fits q (List.mem_filter.mp hq).1).size
    · intro range hrange hname
      obtain ⟨q, hq, rfl⟩ := List.mem_map.mp hrange
      rw [eq_record hrecord (List.mem_filter.mp hq).1 hname]
  cases hlogical : isLogical table other with
  | false => exact primary other hother hne hlogical
  | true =>
    -- what the range does not meet is the container, and with it all that lies inside
    obtain ⟨c, hc, hcontainer, -, hstart, hstop, hhead⟩ := exists_container hlogical
    have hcne : c ≠ record := by
      rintro rfl
      rw [space.plain] at hcontainer
      cases hcontainer
    have hplain : isLogical table c = false := by
      unfold isLogical insideExtended
      rw [hhead]
      simp [recordRange]
    rcases primary c hc hcne hplain with h | h
    · refine .inl ?_
      simp only [recordRange] at h ⊢
      omega
    · refine .inr ?_
      simp only [recordRange] at h ⊢
      omega

/-- Growing by no more than the measured sectors meets no other record. -/
theorem grown_disjoint (h : adjacentFreeSectors disk table record = .ok sectors)
    (hrecord : table.partitions.filter (·.node = record.node) = [record])
    (hsize : newSize ≤ record.sizeSectors + sectors) (hother : other ∈ table.partitions)
    (hne : other ≠ record) : Lib.Ranges.Disjoint (sizedRange record newSize) (recordRange other) := by
  simp only [adjacentFreeSectors, bind_eq_ok_iff, okOr_eq_ok_iff] at h
  obtain ⟨sector, -, label, -, h⟩ := h
  by_cases hdos : label = "dos"
  · rw [if_pos hdos] at h
    exact dos_grown_disjoint (adjacentFreeDos_ok (mem_of_filter_eq_singleton hrecord).1 h) hrecord
      hsize hother hne
  · rw [if_neg hdos] at h
    by_cases hgpt : label = "gpt"
    · rw [if_pos hgpt] at h
      exact gpt_grown_disjoint h hrecord hsize hother hne
    · rw [if_neg hgpt] at h
      cases h

/-- What a DOS table has free ends on the disk. -/
theorem dos_free_on_disk {sector : Nat} (h : adjacentFreeSectors disk table record = .ok sectors)
    (hrecord : table.partitions.filter (·.node = record.node) = [record])
    (hdos : table.label = some "dos") (hsector : table.sectorSizeBytes = some sector) :
    record.startSector + record.sizeSectors + sectors ≤ disk.sizeBytes / sector := by
  rw [adjacentFreeSectors, hsector, hdos] at h
  have h : adjacentFreeDos table record (disk.sizeBytes / sector) = .ok sectors := h
  have hmem := (mem_of_filter_eq_singleton hrecord).1
  have space := adjacentFreeDos_ok hmem h
  have hranges : ∀ range ∈ primaries table, range ∈ primaries table := fun _ h => h
  obtain ⟨next, hbehind, hends, hlimit, -⟩ := space.behind_some hrecord hranges space.apart
    (List.mem_map_of_mem (List.mem_filter.mpr ⟨hmem, by simp [space.outside]⟩))
  obtain ⟨found, next', hbehind', -, hsectors⟩ := space.free
  rw [hbehind] at hbehind'
  cases hbehind'
  have hdisk : dosLimit (disk.sizeBytes / sector) ≤ disk.sizeBytes / sector := Nat.min_le_left _ _
  simp only [recordRange] at hends hsectors
  omega

end Tables

section Plans

variable {s : HostSnapshot} {capabilities : HostCapabilities} {request : ExtendRequest}

/-- The bytes a request needs behind the partition, where so many are free there: all of
them, those it names, or what a volume of so many extents lacks in its group and on the
device under its physical volume. -/
def neededBytes (s : HostSnapshot) (request : ExtendRequest) (freeBytes : Nat) : Nat :=
  if (resolveExtendRouteAdapter s request.target).profile = .lvm then
    (underlyingStack s request.target).elim 0 fun stack =>
      let slack := stack.usableBackingBytes - stack.pv.sizeBytes
      let wanted := match request.growth with
        | .byBytes bytes => bytes
        | .maxFree =>
          (stack.freeExtents + (slack + freeBytes) / stack.extent) * stack.extent
      (divCeil wanted stack.extent - stack.freeExtents) * stack.extent - slack
  else match request.growth with
    | .byBytes bytes => bytes
    | .maxFree => freeBytes

/-- A partition's change as a preview announces and plans it: the partition, the record and
the disk it was measured on, and its new size. -/
structure Grown (s : HostSnapshot) (request : ExtendRequest) (size : PartitionSizeChange)
    (steps : List PlanStep) (d disk : BlockDevice) (table : PartitionTable)
    (record : PartitionRecord) (sector freeSectors newSizeSectors : Nat) : Prop where
  partition : grownPartition s request = some d ∧ d.path = some size.device
  measured : Measured s d disk table record sector freeSectors
  announced : size.disk = disk.devicePath ∧ size.sectorSizeBytes = sector ∧
    size.currentPartitionSizeBytes = record.sizeSectors * sector ∧
    size.expectedPartitionSizeBytes = newSizeSectors * sector
  planned : ∃ first ∈ steps, first.operation =
    .extendPartition size.device record.startSector record.sizeSectors newSizeSectors sector
  positive : 0 < sector ∧ 0 < neededBytes s request (freeSectors * sector)
  grown : newSizeSectors =
    record.sizeSectors + divCeil (neededBytes s request (freeSectors * sector)) sector
  enough : divCeil (neededBytes s request (freeSectors * sector)) sector ≤ freeSectors

theorem PartitionPlan.grown {size : PartitionSizeChange} {steps : List PlanStep}
    (plan : PartitionPlan s capabilities request size steps) :
    ∃ freeSectors, Grown s request size steps plan.device plan.placed.disk plan.placed.table
      plan.placed.record plan.placed.sector freeSectors plan.newSizeSectors := by
  obtain ⟨freeSectors, hadjacent, hfits, henough, hasked⟩ := plan.growth.adjacent
  have hdirect := plan.direct
  have hsize := plan.growth.size
  have hname : size.device = plan.placed.devicePath := congrArg PartitionSizeChange.device hsize
  have hneeded : neededBytes s request (freeSectors * plan.placed.sector) =
      size.requestedGrowthBytes := by
    rw [neededBytes, hdirect, if_neg (by decide), hasked] <;> cases request.growth <;> rfl
  have hgrown := plan.growth.grown
  have hsector := plan.located.sectorFits.1
  refine ⟨freeSectors, plan.partition, plan.located.measured hadjacent hfits,
    ⟨?_, congrArg PartitionSizeChange.sectorSizeBytes hsize,
      congrArg PartitionSizeChange.currentPartitionSizeBytes hsize,
      congrArg PartitionSizeChange.expectedPartitionSizeBytes hsize⟩, ?_, ?_, ?_, ?_⟩
  · rw [BlockDevice.devicePath, plan.located.diskPath]
    exact congrArg PartitionSizeChange.disk hsize
  · have hmem : step 3 (.extendPartition plan.placed.devicePath plan.placed.record.startSector
        plan.placed.record.sizeSectors plan.newSizeSectors plan.placed.sector) .irreversible ∈
        partitionSteps plan.placed plan.label plan.newSizeSectors plan.fs.fsType
          plan.mountpoint := by
      simp [partitionSteps]
    rw [hname]
    exact ⟨_, (iff_of_eq (congrArg (_ ∈ ·) plan.steps_eq)).mpr hmem, rfl⟩
  · rw [hneeded]
    exact ⟨by omega, plan.growth.requested⟩
  · rw [hneeded]
    exact hgrown
  · rw [hneeded]
    omega

theorem exists_step_numbered {operations : List (Operation × Reversibility)}
    {operation : Operation × Reversibility} (h : operation ∈ operations) :
    ∃ first ∈ numbered operations, first.operation = operation.1 := by
  obtain ⟨i, hi, rfl⟩ := List.getElem_of_mem h
  exact ⟨_, List.mem_mapIdx.mpr ⟨i, hi, rfl⟩, rfl⟩

theorem UnderlyingPlan.grown {route : GrowthRouteAlternative} {sizeChange : SizeChange}
    {size : PartitionSizeChange} {steps : List PlanStep}
    (plan : UnderlyingPlan s request route sizeChange (some size) steps) :
    ∃ d disk table record sector freeSectors newSizeSectors, Grown s request size steps d disk table
      record sector freeSectors newSizeSectors := by
  obtain ⟨disk, table, record, label, partition, freeSectors, newSizeSectors, back, under⟩ :=
    plan.backedAt
  have hsize := under.size_eq
  have hname : size.device = partition := congrArg PartitionSizeChange.device hsize
  have hsector := plan.facts.sector
  have hsectorFits := back.sectorFits.1
  have hrequired := plan.facts.required
  have hneeded : neededBytes s request (freeSectors * plan.backing.sectorSizeBytes) =
      (divCeil route.requestedGrowthBytes plan.stack.extent - plan.stack.freeExtents) *
        plan.stack.extent - route.pvDeviceSlackBytes := by
    rw [neededBytes, if_pos plan.facts.facts.profile, plan.facts.found, Option.elim_some,
      plan.facts.slack, plan.facts.asked, ← back.bytes.2, plan.facts.slack] <;>
      cases request.growth <;> rfl
  have hpositive : 0 < neededBytes s request (freeSectors * plan.backing.sectorSizeBytes) := by
    rw [hneeded]
    refine Nat.pos_of_ne_zero fun hzero => ?_
    rw [sectorAligned, if_pos hzero] at hrequired
    have hneeds := under.needed
    rw [← Option.some.inj hrequired] at hneeds
    omega
  rw [← hneeded, sectorAligned, if_neg (by omega), checkedMul_eq_some_iff] at hrequired
  obtain ⟨-, hrequired⟩ := hrequired
  have hsectors : route.requiredPartitionGrowthBytes / route.sectorSizeBytes =
      divCeil (neededBytes s request (freeSectors * plan.backing.sectorSizeBytes))
        plan.backing.sectorSizeBytes := by
    rw [← hrequired, hsector, Nat.mul_div_cancel _ (by omega)]
  refine ⟨plan.stack.pvDevice.device, disk, table, record, plan.backing.sectorSizeBytes,
    freeSectors, newSizeSectors, ⟨plan.partition_grown, ?_⟩, back.measured, ⟨?_, ?_, ?_, ?_⟩, ?_,
    ⟨by omega, hpositive⟩, ?_, ?_⟩
  · rw [hname]
    exact back.path
  · rw [← back.diskPath, ← plan.facts.disk]
    exact congrArg PartitionSizeChange.disk hsize
  · rw [← hsector]
    exact congrArg PartitionSizeChange.sectorSizeBytes hsize
  · rw [← hsector]
    exact congrArg PartitionSizeChange.currentPartitionSizeBytes hsize
  · rw [← hsector]
    exact congrArg PartitionSizeChange.expectedPartitionSizeBytes hsize
  · rw [hname, ← hsector]
    have hmem : (Operation.extendPartition partition record.startSector record.sizeSectors
        newSizeSectors route.sectorSizeBytes, Reversibility.irreversible) ∈ plan.operations := by
      rw [under.operations_eq]
      simp
    have hsteps := plan.steps_eq
    obtain ⟨first, hfirst, hoperation⟩ := exists_step_numbered
      (List.mem_append_left _ (List.mem_append_right
        [(.revalidateSnapshot, .notApplicable), (.backupLvmMetadata plan.vgUuid, .reversible)]
        hmem))
    exact ⟨first, (iff_of_eq (congrArg (first ∈ ·) hsteps)).mpr hfirst, hoperation⟩
  · rw [under.grown, hsectors]
  · rw [← hsectors, hsector]
    refine Nat.div_le_of_le_mul ?_
    have hroom := plan.facts.room
    rw [← back.bytes.2, Nat.mul_comm] at hroom
    exact hroom

theorem Candidate.grown {sizeChange : Option SizeChange} {size : PartitionSizeChange}
    {filesystem : Option FilesystemSizeChange} {steps : List PlanStep}
    (h : Candidate s capabilities request sizeChange (some size) filesystem steps) :
    ∃ d disk table record sector freeSectors newSizeSectors, Grown s request size steps d disk table
      record sector freeSectors newSizeSectors := by
  cases h with
  | partition built =>
    obtain ⟨plan⟩ := tryBuildPartitionCandidate_ok built
    obtain ⟨freeSectors, grown⟩ := plan.grown
    exact ⟨_, _, _, _, _, freeSectors, _, grown⟩
  | underlying built =>
    obtain ⟨plan⟩ := buildLvmUnderlyingGrowthCandidate_some built
    exact plan.grown

variable {size : PartitionSizeChange} {steps : List PlanStep} {d disk : BlockDevice}
  {table : PartitionTable} {record : PartitionRecord} {sector freeSectors newSizeSectors : Nat}

/-- The grown range overlaps no other record. -/
theorem Grown.disjoint
    (h : Grown s request size steps d disk table record sector freeSectors newSizeSectors)
    {other : PartitionRecord} (hother : other ∈ table.partitions) (hne : other ≠ record) :
    Lib.Ranges.Disjoint (sizedRange record newSizeSectors) (recordRange other) := by
  have hgrown := h.grown
  have henough := h.enough
  exact grown_disjoint h.measured.adjacent h.measured.ofRecord (by omega) hother hne

/-- The grown range ends on the disk where the table is measured against the disk, or where
the bytes it needs are there. -/
theorem Grown.onDisk_iff
    (h : Grown s request size steps d disk table record sector freeSectors newSizeSectors) :
    record.startSector + newSizeSectors ≤ disk.sizeBytes / sector ↔ table.label = some "dos" ∨
      neededBytes s request (freeSectors * sector) ≤
        (disk.sizeBytes / sector - (record.startSector + record.sizeSectors)) * sector := by
  obtain ⟨hsector, hneeded⟩ := h.positive
  have hgrown := h.grown
  have henough := h.enough
  have hpositive := divCeil_pos hsector hneeded
  rw [← divCeil_le_iff hsector]
  constructor
  · intro hends
    exact .inr (by omega)
  · rintro (hdos | hneeds)
    · have hfree := dos_free_on_disk h.measured.adjacent h.measured.ofRecord hdos
        h.measured.sector_eq
      omega
    · omega

end Plans

section Samples

end Samples

end StorageManager.Planner.Extend
