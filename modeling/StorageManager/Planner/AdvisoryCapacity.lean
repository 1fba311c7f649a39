import StorageManager.Planner.AdvisoryGeometry
import StorageManager.Planner.PlanFacts

/-!
# The advisory capacity behind what a preview grows

A preview grows a partition by no more than the planner measured behind it. The analysis
measures the same partition from the device tree; here it is settled when it finds that
much room too.
-/

namespace StorageManager.Planner.Extend

open Core (BlockDevice HostCapabilities HostSnapshot Node PartitionRecord PartitionTable flatten)
open Discovery
open Lib.Checks
open Lib.Ranges
open Lib.Word64

set_option autoImplicit false

/-- The partition a request would grow: the one at the end of its route, or the one under
the physical volume of its volume group. -/
def grownPartition (s : HostSnapshot) (request : ExtendRequest) : Option BlockDevice :=
  let route := resolveExtendRouteAdapter s request.target
  if route.profile = .lvm then
    (underlyingStack s request.target).map (·.pvDevice.device)
  else do
    let resolvedDevice ← route.resolvedDevice
    let node ← one ((flatten s.storage.blockDevices).filter fun n =>
      n.device.kind = .partition && n.device.nodeAlias resolvedDevice)
    some node.device

/-- What the planner measured behind a partition. -/
structure Measured (s : HostSnapshot) (d disk : BlockDevice) (table : PartitionTable)
    (record : PartitionRecord) (sector adjacentSectors : Nat) : Prop where
  onDisk : ∃ parentName, d.parentKernelName = some parentName ∧ ∃ node : Node,
    (flatten s.storage.blockDevices).filter (fun n =>
      isDisk n.device.kind && n.device.kernelName == some parentName) = [node] ∧
    node.device = disk
  path : d.path = some record.node
  inTable : s.partitionTables.filter (·.device = disk.devicePath) = [table]
  sector_eq : table.sectorSizeBytes = some sector
  ofRecord : table.partitions.filter (·.node = record.node) = [record]
  adjacent : adjacentFreeSectors disk table record = .ok adjacentSectors
  fits : adjacentSectors * sector < limit

/-- A GPT has that many bytes free behind the path's record. -/
def Room (table : PartitionTable) (path : String) (sector growth : Nat) : Prop :=
  ∃ target ∈ table.partitions, target.node = path ∧ ∃ sectors,
    adjacentFreeGpt table target = .ok sectors ∧ sectors * sector < limit ∧
    growth ≤ sectors * sector

/-- The checks of the analysis hold of the disk that lists the partition: its table, its
sector size and its other partitions. A partition that names another disk as its own is
measured on the disk that lists it. -/
def Corroborated (s : HostSnapshot) (d : BlockDevice) (growth : Nat) : Prop :=
  (Collected s "lsblk" ∧ Collected s "partition_tables") ∧
    ∃ disk table sector path, Listed s d disk table sector ∧ d.path = some path ∧
      ((table.label = some "gpt" ∧ GptSiblings disk table sector ∧
          (d.parentKernelName = disk.kernelName ∨ Room table path sector growth)) ∨
        (table.label = some "dos" ∧ d.parentKernelName = disk.kernelName ∧
          DosSiblings disk table sector path))

section Measures

variable {s : HostSnapshot} {d disk disk' : BlockDevice} {table table' : PartitionTable}
  {record : PartitionRecord} {sector sector' adjacentSectors growth : Nat}

/-- The disk that lists the partition and is its parent by name is the disk it was
measured on. -/
theorem Measured.same (m : Measured s d disk table record sector adjacentSectors)
    (listed : Listed s d disk' table' sector') (hparent : d.parentKernelName = disk'.kernelName) :
    disk' = disk ∧ table' = table ∧ sector' = sector := by
  obtain ⟨parentName, hname, node, hnode, rfl⟩ := m.onDisk
  have hmem : disk' ∈ ((flatten s.storage.blockDevices).map (·.device)).filter (isParent d) := by
    rw [← collectParents_eq, listed.parent]
    exact List.mem_singleton_self disk'
  obtain ⟨node', hnode', hdevice⟩ := List.mem_map.mp (List.mem_filter.mp hmem).1
  have hdisk : node' = node := by
    refine eq_of_filter_eq_singleton hnode hnode' ?_
    have hkind := listed.isDisk
    rw [hdevice]
    simp only [isDisk, ← hparent, hname, BEq.rfl, Bool.and_true, Bool.or_eq_true,
      decide_eq_true_eq]
    exact hkind
  subst hdisk
  subst hdevice
  obtain ⟨path, hpath, htable⟩ := listed.tabled
  have hinTable := m.inTable
  rw [BlockDevice.devicePath, hpath, Option.getD_some, htable] at hinTable
  obtain rfl : table' = table := (List.cons.inj hinTable).1
  exact ⟨rfl, rfl, Option.some.inj (listed.sectorSize.symm.trans m.sector_eq)⟩

theorem adjacentCapacityTable_label {path : String} {c : Nat}
    (h : adjacentCapacityTable disk table path sector = some c)
    (hdos : table.label ≠ some "dos") : table.label = some "gpt" := by
  obtain ⟨⟨first, stop⟩, hbounds, -⟩ := Option.bind_eq_some_iff.mp h
  obtain ⟨label, hlabel, hbounds⟩ := Option.bind_eq_some_iff.mp hbounds
  by_cases hgpt : label = "gpt"
  · rw [hlabel, hgpt]
  · rw [if_neg hgpt] at hbounds
    by_cases h' : label = "dos"
    · exact absurd (by rw [hlabel, h']) hdos
    · rw [if_neg h'] at hbounds
      cases hbounds

/-- The run behind a record in a GPT is known by the record's node alone. -/
theorem adjacentFreeGpt_congr {r q : PartitionRecord} (h : r.node = q.node) :
    adjacentFreeGpt table r = adjacentFreeGpt table q := by
  unfold adjacentFreeGpt adjacentFromRanges
  rw [h]

theorem exists_mem_of_adjacentFreeGpt {sectors : Nat}
    (h : adjacentFreeGpt table record = .ok sectors) :
    ∃ r ∈ table.partitions, r.node = record.node := by
  obtain ⟨first, last, -, -, -, -, -, found, next, hbehind, -⟩ := adjacentFreeGpt_eq_ok_iff.mp h
  obtain ⟨before, after, hsplit, hname, -⟩ := behind_eq_some hbehind
  have hmem : found ∈ table.partitions.map recordRange := mem_sorted.mp (hsplit ▸ by simp)
  obtain ⟨r, hr, rfl⟩ := List.mem_map.mp hmem
  exact ⟨r, hr, hname⟩

theorem Measured.gpt_advised_iff (m : Measured s d disk table record sector adjacentSectors)
    (listed : Listed s d disk' table' sector') (hlabel : table'.label = some "gpt")
    (hgrowth : growth ≤ adjacentSectors * sector) :
    (∃ c, adjacentCapacityTable disk' table' record.node sector' = some c ∧ growth ≤ c) ↔
      GptSiblings disk' table' sector' ∧
        (d.parentKernelName = disk'.kernelName ∨ Room table' record.node sector' growth) := by
  simp only [adjacentCapacityTable_eq_some_iff hlabel, checkedMul_eq_some_iff]
  constructor
  · rintro ⟨_, ⟨hsiblings, sectors, hfree, hfits, rfl⟩, hroom⟩
    obtain ⟨r, hr, hnode⟩ := exists_mem_of_adjacentFreeGpt hfree
    exact ⟨hsiblings, .inr ⟨r, hr, hnode, sectors, (adjacentFreeGpt_congr hnode).trans hfree, hfits,
      hroom⟩⟩
  · rintro ⟨hsiblings, hparent | ⟨r, -, hnode, sectors, hfree, hfits, hroom⟩⟩
    · obtain ⟨rfl, rfl, rfl⟩ := m.same listed hparent
      have hfree : adjacentFreeGpt table' record = .ok adjacentSectors := by
        have h := m.adjacent
        rw [adjacentFreeSectors, m.sector_eq, hlabel] at h
        simpa only [okOr_eq_ok_iff, bind_eq_ok_iff, Option.some.injEq, exists_eq_left',
          String.reduceEq, ↓reduceIte] using h
      exact ⟨_, ⟨hsiblings, adjacentSectors, hfree, m.fits, rfl⟩, hgrowth⟩
    · exact ⟨_, ⟨hsiblings, sectors, (adjacentFreeGpt_congr hnode).symm.trans hfree, hfits, rfl⟩,
        hroom⟩

theorem Measured.dos_advised_iff (m : Measured s d disk table record sector adjacentSectors)
    (listed : Listed s d disk' table' sector') (hlabel : table'.label = some "dos")
    (hgrowth : growth ≤ adjacentSectors * sector) :
    (∃ c, adjacentCapacityDosPrimary disk' table' d sector' = some c ∧ growth ≤ c) ↔
      d.parentKernelName = disk'.kernelName ∧ DosSiblings disk' table' sector' record.node := by
  by_cases hparent : d.parentKernelName = disk'.kernelName
  · obtain ⟨rfl, rfl, rfl⟩ := m.same listed hparent
    have hfree : adjacentFreeDos table' record (disk'.sizeBytes / sector') =
        .ok adjacentSectors := by
      have h := m.adjacent
      rw [adjacentFreeSectors, m.sector_eq, hlabel] at h
      simpa only [okOr_eq_ok_iff, bind_eq_ok_iff, Option.some.injEq, exists_eq_left',
        ↓reduceIte] using h
    have hmem : record ∈ table'.partitions := (mem_of_filter_eq_singleton m.ofRecord).1
    exact adjacentCapacityDosPrimary_iff (adjacentFreeDos_ok hmem hfree) m.ofRecord m.path
      listed.common hgrowth
  · refine iff_of_false ?_ fun h => hparent h.1
    rintro ⟨c, h, -⟩
    exact hparent (adjacentCapacityDosPrimary_parent h)

/-- The analysis finds at least what the planner measured exactly when its own checks pass. -/
theorem Measured.advised_iff (m : Measured s d disk table record sector adjacentSectors)
    (hgrowth : growth ≤ adjacentSectors * sector) :
    (∃ c, adjacentCapacity s d = some c ∧ growth ≤ c) ↔ Corroborated s d growth := by
  simp only [adjacentCapacity_eq_some_iff, Corroborated]
  constructor
  · rintro ⟨c, ⟨hcollected, disk', table', sector', path, listed, hpath, h⟩, hroom⟩
    refine ⟨hcollected, disk', table', sector', path, listed, hpath, ?_⟩
    obtain rfl : record.node = path := Option.some.inj (m.path.symm.trans hpath)
    by_cases hdos : table'.label = some "dos"
    · rw [if_pos hdos] at h
      exact .inr ⟨hdos, (m.dos_advised_iff listed hdos hgrowth).mp ⟨c, h, hroom⟩⟩
    · rw [if_neg hdos] at h
      have hgpt := adjacentCapacityTable_label h hdos
      exact .inl ⟨hgpt, (m.gpt_advised_iff listed hgpt hgrowth).mp ⟨c, h, hroom⟩⟩
  · rintro ⟨hcollected, disk', table', sector', path, listed, hpath, ⟨hgpt, h⟩ | ⟨hdos, h⟩⟩
    · obtain rfl : record.node = path := Option.some.inj (m.path.symm.trans hpath)
      obtain ⟨c, hcapacity, hroom⟩ := (m.gpt_advised_iff listed hgpt hgrowth).mpr h
      refine ⟨c, ⟨hcollected, disk', table', sector', _, listed, hpath, ?_⟩, hroom⟩
      rw [if_neg (by rw [hgpt]; decide)]
      exact hcapacity
    · obtain rfl : record.node = path := Option.some.inj (m.path.symm.trans hpath)
      obtain ⟨c, hcapacity, hroom⟩ := (m.dos_advised_iff listed hdos hgrowth).mpr h
      refine ⟨c, ⟨hcollected, disk', table', sector', _, listed, hpath, ?_⟩, hroom⟩
      rw [if_pos hdos]
      exact hcapacity

end Measures

section Plans

variable {s : HostSnapshot} {capabilities : HostCapabilities} {request : ExtendRequest}

theorem PlacedAt.measured {device : BlockDevice} {placed : Placed} {adjacentSectors : Nat}
    (located : PlacedAt s device placed)
    (hadjacent : adjacentFreeSectors placed.disk placed.table placed.record = .ok adjacentSectors)
    (hfits : adjacentSectors * placed.sector < limit) :
    Measured s device placed.disk placed.table placed.record placed.sector adjacentSectors := by
  have hfound := (mem_of_filter_eq_singleton located.record).2
  have hrecord : placed.record.node = placed.devicePath := by simpa using hfound
  refine ⟨located.disk, ?_, ?_, located.sector, ?_, hadjacent, hfits⟩
  · rw [hrecord]
    exact located.devicePath
  · rw [BlockDevice.devicePath, located.diskPath]
    exact located.table
  · rw [hrecord]
    exact located.record

theorem BackedAt.measured {device disk : BlockDevice} {backing : Backing} {pvPath : String}
    {table : PartitionTable} {record : PartitionRecord} {adjacentSectors : Nat}
    (back : BackedAt s device backing disk pvPath table record adjacentSectors) :
    Measured s device disk table record backing.sectorSizeBytes adjacentSectors := by
  have hfound := (mem_of_filter_eq_singleton back.ofRecord).2
  have hrecord : record.node = pvPath := by simpa using hfound
  refine ⟨back.onDisk, ?_, ?_, back.sector, ?_, back.adjacent, back.bytes.1⟩
  · rw [hrecord]
    exact back.path
  · rw [← back.diskPath]
    exact back.inTable
  · rw [hrecord]
    exact back.ofRecord

theorem PartitionPlan.partition {size : PartitionSizeChange} {steps : List PlanStep}
    (plan : PartitionPlan s capabilities request size steps) :
    grownPartition s request = some plan.device ∧ plan.device.path = some size.device := by
  obtain ⟨resolvedDevice, hresolved, node, hnode, hdevice⟩ := plan.target.resolved
  have hdirect := plan.direct
  have hname : size.device = plan.placed.devicePath :=
    congrArg PartitionSizeChange.device plan.growth.size
  constructor
  · simp only [grownPartition, hdirect, reduceCtorEq, ↓reduceIte, hresolved, Option.bind_eq_bind,
      Option.bind_some, one_eq_some_iff.mpr hnode, hdevice]
  · rw [hname]
    exact plan.located.devicePath

/-- A partition under a physical volume is planned on the record it was measured on. -/
theorem UnderlyingPlan.backedAt {route : GrowthRouteAlternative} {sizeChange : SizeChange}
    {size : PartitionSizeChange} {steps : List PlanStep}
    (plan : UnderlyingPlan s request route sizeChange (some size) steps) :
    ∃ disk table record label partition adjacentSectors newSizeSectors,
      BackedAt s plan.stack.pvDevice.device plan.backing disk partition table record
        adjacentSectors ∧
      UnderlyingPartition s route size plan.operations table record label partition
        newSizeSectors := by
  obtain ⟨table, record, label, partition, newSizeSectors, under⟩ :=
    underlyingPartition_some plan.partition
  have hbacked := plan.facts.backed
  have hkind : plan.stack.pvDevice.device.kind = .partition := by
    by_contra hkind
    rw [underlyingBacking, if_neg hkind] at hbacked
    have hpartition := plan.facts.partition
    rw [under.ofRoute, ← Option.some.inj hbacked] at hpartition
    cases hpartition
  obtain ⟨disk, pvPath, table', record', adjacentSectors, back⟩ :=
    underlyingBacking_some hbacked hkind
  obtain ⟨rfl, rfl, rfl⟩ := back.same plan.facts under
  exact ⟨disk, table, record, label, partition, adjacentSectors, newSizeSectors, back, under⟩

theorem UnderlyingPlan.partition_grown {route : GrowthRouteAlternative} {sizeChange : SizeChange}
    {partitionSize : Option PartitionSizeChange} {steps : List PlanStep}
    (plan : UnderlyingPlan s request route sizeChange partitionSize steps) :
    grownPartition s request = some plan.stack.pvDevice.device := by
  simp only [grownPartition, plan.facts.facts.profile, ↓reduceIte, plan.facts.found,
    Option.map_some]

/-- What a preview announces for a partition is within what was measured behind it. -/
theorem Candidate.measured {sizeChange : Option SizeChange} {size : PartitionSizeChange}
    {filesystem : Option FilesystemSizeChange} {steps : List PlanStep}
    (h : Candidate s capabilities request sizeChange (some size) filesystem steps) :
    ∃ d disk table record sector adjacentSectors, grownPartition s request = some d ∧
      d.path = some size.device ∧ Measured s d disk table record sector adjacentSectors ∧
      size.roundedGrowthBytes ≤ adjacentSectors * sector := by
  cases h with
  | partition built =>
    obtain ⟨plan⟩ := tryBuildPartitionCandidate_ok built
    obtain ⟨hgrown, hpath⟩ := plan.partition
    obtain ⟨adjacentSectors, hadjacent, hfits, henough, -⟩ := plan.growth.adjacent
    refine ⟨plan.device, _, _, _, _, adjacentSectors, hgrown, hpath,
      plan.located.measured hadjacent hfits, ?_⟩
    have hsize : size.roundedGrowthBytes =
        divCeil size.requestedGrowthBytes plan.placed.sector * plan.placed.sector :=
      congrArg PartitionSizeChange.roundedGrowthBytes plan.growth.size
    have hnew := plan.growth.grown
    rw [hsize]
    exact Nat.mul_le_mul_right _ (by omega)
  | underlying built =>
    obtain ⟨plan⟩ := buildLvmUnderlyingGrowthCandidate_some built
    obtain ⟨disk, table, record, label, partition, adjacentSectors, newSizeSectors, back, under⟩ :=
      plan.backedAt
    refine ⟨_, disk, table, record, _, adjacentSectors, plan.partition_grown, ?_, back.measured, ?_⟩
    · have hname : size.device = partition := congrArg PartitionSizeChange.device under.size_eq
      rw [hname]
      exact back.path
    · have hsize := congrArg PartitionSizeChange.roundedGrowthBytes under.size_eq
      rw [hsize, back.bytes.2]
      exact plan.facts.room

/-- The analysis confirms the growth a preview announces exactly when its own checks pass. -/
theorem preview_growth_advised_iff [Fingerprint]
    (hstatus : (planExtend s capabilities request).status = .preview) {size : PartitionSizeChange}
    (hsize : (planExtend s capabilities request).partitionSizeChange = some size) :
    ∃ d, grownPartition s request = some d ∧ d.path = some size.device ∧
      ((∃ c, adjacentCapacity s d = some c ∧ size.roundedGrowthBytes ≤ c) ↔
        Corroborated s d size.roundedGrowthBytes) := by
  have built := planExtend_built hstatus
  rw [hsize] at built
  obtain ⟨d, disk, table, record, sector, adjacentSectors, hgrown, hdevice, measured, hwithin⟩ :=
    built.measured
  exact ⟨d, hgrown, hdevice, measured.advised_iff hwithin⟩

end Plans

section Samples

/-- A disk of 4096 sectors with one mounted partition, whose table ends at the given sector. -/
def sampleSnapshot (lastLba : Nat) : HostSnapshot where
  storage :=
    { blockDevices :=
        [{ name := "sda", kernelName := some "sda", path := some "/dev/sda", kind := .disk,
           sizeBytes := 4096 * 512, start512Sector := none, logicalSectorBytes := some 512,
           filesystem := none, mountpoints := [], parentKernelName := none, model := none,
           serial := none, uuid := none, partitionUuid := none, partitionTable := some "gpt",
           children :=
             [{ name := "sda1", kernelName := some "sda1", path := some "/dev/sda1",
                kind := .partition, sizeBytes := 1024 * 512, start512Sector := some 2048,
                logicalSectorBytes := some 512, filesystem := some ⟨"ext4", none⟩,
                mountpoints := ["/data"], parentKernelName := some "sda", model := none,
                serial := none, uuid := some "u1", partitionUuid := some "p1",
                partitionTable := none, children := [] }] }] }
  partitionTables :=
    [{ device := "/dev/sda", label := some "gpt", id := none, unit := some "sectors",
       firstLba := some 34, lastLba := some lastLba, sectorSizeBytes := some 512,
       partitions := [⟨"/dev/sda1", 2048, 1024, some "0FC63DAF-8483-4772-8E79-3D69D8477DE4",
         some "p1", none, none, none⟩] }]
  mounts := [⟨some "/dev/sda1", "/data", some "ext4", ["rw"]⟩]
  fstab := []
  swaps := []
  collectors := ["lsblk", "partition_tables", "mounts", "fstab", "swap"].map
    fun component => ⟨component, .complete, none⟩

def sampleCapabilities : HostCapabilities := ⟨[⟨"sfdisk", true⟩, ⟨"resize2fs", true⟩]⟩

def sampleGrowth (sectors : Nat) : PartitionSizeChange where
  device := "/dev/sda1"
  disk := "/dev/sda"
  currentPartitionSizeBytes := 1024 * 512
  requestedGrowthBytes := sectors * 512
  roundedGrowthBytes := sectors * 512
  expectedPartitionSizeBytes := (1024 + sectors) * 512
  sectorSizeBytes := 512
  remainingAdjacentFreeBytes := 0

theorem preview_growth_advised_on_whole_table :
    ∃ d, grownPartition (sampleSnapshot 4062) ⟨"/data", .maxFree⟩ = some d ∧
      d.path = some "/dev/sda1" ∧
      ((∃ c, adjacentCapacity (sampleSnapshot 4062) d = some c ∧ 991 * 512 ≤ c) ↔
        Corroborated (sampleSnapshot 4062) d (991 * 512)) :=
  @preview_growth_advised_iff (sampleSnapshot 4062) sampleCapabilities ⟨"/data", .maxFree⟩ _
    (by decide +kernel) (sampleGrowth 991) (by decide +kernel)

/-- The table ends behind the disk: the preview grows the partition over the disk's end, and
the analysis reports no capacity at all. -/
theorem preview_growth_not_advised :
    (planExtend (sampleSnapshot 8157) sampleCapabilities ⟨"/data", .maxFree⟩).status = .preview ∧
      (planExtend (sampleSnapshot 8157) sampleCapabilities
        ⟨"/data", .maxFree⟩).partitionSizeChange = some (sampleGrowth 5086) ∧
      (grownPartition (sampleSnapshot 8157) ⟨"/data", .maxFree⟩).map (·.path) =
        some (some "/dev/sda1") ∧
      (grownPartition (sampleSnapshot 8157) ⟨"/data", .maxFree⟩).bind
        (adjacentCapacity (sampleSnapshot 8157)) = none := by
  decide +kernel

end Samples

end StorageManager.Planner.Extend
