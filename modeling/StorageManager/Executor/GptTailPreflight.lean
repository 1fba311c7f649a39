import StorageManager.Discovery.Reconcile
import StorageManager.Planner.GptTailIntent
import StorageManager.Planner.SourceAgreement

/-!
# Before a partition is added to a GPT

A fresh snapshot is compared with what was frozen of the disk, its table and its tail: the
records with the partitions the kernel knows, and the frozen range with the free tail as it
is now.
-/

namespace StorageManager.Executor.GptTail

open StorageManager.Core
open Discovery (collected reconcileSnapshot)
open Lib.Checks
open Lib.Word64
open Planner.Extend (isDisk)
open Planner.Provisioning

set_option autoImplicit false

section Preflight

/-- What the check reads of the intent. -/
structure ProductionGptTailCreateActivationIntent where
  sourceId : String
  disk : String
  diskSizeBytes : Nat
  logicalSectorBytes : Nat
  diskModel : Option String
  diskSerial : Option String
  gptDiskId : String
  gptFirstLba : Nat
  gptLastLba : Nat
  gptSectorSizeBytes : Nat
  gptTableSha256 : String
  existingPartitionCount : Nat
  sourceStartSector : Nat
  sourceSectorCount : Nat
  sourceSizeBytes : Nat
  partitionStartSector : Nat
  partitionSectorCount : Nat
  partitionSizeBytes : Nat

inductive ProductionGptTailCreateRuntimePreflightError where
  | collectorIncomplete
  | diskIdentityChanged
  | gptTableChanged
  | gptPartitionRecordsInvalid
  | kernelTopologyMismatch
  | tailSourceChanged
  | allocationChanged
  deriving DecidableEq

def requiredCollectorsComplete (snapshot : HostSnapshot) : Bool :=
  ["lsblk", "partition_tables", "mounts", "fstab", "swap"].all (collected snapshot)

/-- The same scan as `validate_existing_gpt_records`. -/
def validatePartitionRecords (table : PartitionTable) (firstLba lastLba : Nat) : Bool :=
  validateExistingGptRecords table firstLba lastLba

/-- A text that is there and not empty. -/
def nonEmpty (text : Option String) : Option String := text.filter (· ≠ "")

/-- The child is what its record says. `lsblk` counts its start in sectors of 512 bytes,
whatever the sectors of the disk are. -/
def childMatches (diskKernel : String) (sector : Nat) (nodes : List Node) (child : BlockDevice)
    (path kernel : String) (record : PartitionRecord) : Bool :=
  child.kind = .partition && child.name ≠ "" && child.parentKernelName = some diskKernel &&
    child.logicalSectorBytes = some sector &&
    (child.start512Sector.bind (checkedMul · 512)).isSome &&
    child.start512Sector.bind (checkedMul · 512) = checkedMul record.startSector sector &&
    checkedMul record.sizeSectors sector = some child.sizeBytes &&
    (nodes.filter (·.device.path = some path)).length = 1 &&
    (nodes.filter (·.device.kernelName = some kernel)).length = 1 &&
    !record.uuid.any fun uuid => child.partitionUuid.all fun value => !eqIgnoreAsciiCase uuid value

def childRecorded (table : PartitionTable) (diskKernel : String) (sector : Nat) (nodes : List Node)
    (child : BlockDevice) : Bool :=
  match nonEmpty child.path, nonEmpty child.kernelName with
  | some path, some kernel => match table.partitions.filter (·.node = path) with
    | [record] => childMatches diskKernel sector nodes child path kernel record
    | _ => false
  | _, _ => false

/-- The diagnostic is about the disk or what is on it, or about nothing in particular. -/
def concernsDisk (disk : BlockDevice) (table : PartitionTable) (diagnostic : StorageDiagnostic) :
    Bool :=
  diagnostic.device.all fun device =>
    ((flatten [disk]).any fun node => node.device.path == some device ||
      node.device.name == device || node.device.kernelName == some device ||
      node.device.kernelName.any fun name => s!"/dev/{name}" == device) ||
    table.partitions.any (·.node = device)

def kernelTopologyMatches (disk : BlockDevice) (table : PartitionTable) (snapshot : HostSnapshot)
    (nodes : List Node) : Bool :=
  match nonEmpty disk.kernelName, table.sectorSizeBytes with
  | some diskKernel, some sector =>
    disk.children.length = table.partitions.length &&
      disk.children.all (childRecorded table diskKernel sector nodes) &&
      !(snapshot.diagnostics ++ reconcileSnapshot snapshot).any fun diagnostic =>
        diagnostic.severity = .error && concernsDisk disk table diagnostic
  | _, _ => false

variable [Fingerprint]

def validateFreshGptTail (activation : ProductionGptTailCreateActivationIntent)
    (snapshot : HostSnapshot) : Except ProductionGptTailCreateRuntimePreflightError Unit := do
  refuse (¬requiredCollectorsComplete snapshot) .collectorIncomplete
  let nodes := flatten snapshot.storage.blockDevices
  let disk ← unique (fun n => isDisk n.device.kind && n.device.path == some activation.disk) nodes
    .diskIdentityChanged
  refuse (disk.device.sizeBytes ≠ activation.diskSizeBytes ∨
      disk.device.logicalSectorBytes ≠ some activation.logicalSectorBytes ∨
      disk.device.model ≠ activation.diskModel ∨ disk.device.serial ≠ activation.diskSerial ∨
      disk.device.filesystem.isSome ∨ ¬disk.device.mountpoints.isEmpty ∨
      disk.device.parentKernelName.isSome ∨ disk.device.partitionTable ≠ some "gpt")
    .diskIdentityChanged
  let table ← unique (·.device = activation.disk) snapshot.partitionTables .gptTableChanged
  refuse (table.label ≠ some "gpt" ∨ table.id ≠ some activation.gptDiskId ∨
      table.unit ≠ some "sectors" ∨ table.firstLba ≠ some activation.gptFirstLba ∨
      table.lastLba ≠ some activation.gptLastLba ∨
      table.sectorSizeBytes ≠ some activation.gptSectorSizeBytes ∨
      table.partitions.length ≠ activation.existingPartitionCount ∨
      canonicalTableSha256 table ≠ activation.gptTableSha256)
    .gptTableChanged
  refuse (¬validatePartitionRecords table activation.gptFirstLba activation.gptLastLba)
    .gptPartitionRecordsInvalid
  refuse (¬kernelTopologyMatches disk.device table snapshot nodes) .kernelTopologyMismatch
  let source ← unique (·.id = activation.sourceId) (listProvisioningOpportunities snapshot)
    .tailSourceChanged
  refuse (source.kind ≠ .diskTail ∨ source.disk ≠ some activation.disk ∨
      source.sectorSizeBytes ≠ some activation.gptSectorSizeBytes ∨
      source.startSector ≠ some activation.sourceStartSector ∨
      source.sectorCount ≠ some activation.sourceSectorCount ∨
      source.availableBytes ≠ activation.sourceSizeBytes)
    .tailSourceChanged
  let sector := activation.logicalSectorBytes
  refuse (sector = 0 ∨ sector ≠ activation.gptSectorSizeBytes ∨
      createPartitionAlignmentBytes % sector ≠ 0) .allocationChanged
  let sourceEnd ← okOr
    (Lib.Word64.checkedAdd activation.sourceStartSector activation.sourceSectorCount)
    .allocationChanged
  let partitionEnd ← okOr
    (Lib.Word64.checkedAdd activation.partitionStartSector activation.partitionSectorCount)
    .allocationChanged
  refuse (activation.sourceSectorCount = 0 ∨
      checkedMul activation.sourceSectorCount sector ≠ some activation.sourceSizeBytes ∨
      activation.partitionStartSector ≠ activation.sourceStartSector ∨
      activation.partitionStartSector % (createPartitionAlignmentBytes / sector) ≠ 0 ∨
      activation.partitionSectorCount = 0 ∨
      activation.sourceSectorCount < activation.partitionSectorCount ∨
      checkedMul activation.partitionSectorCount sector ≠ some activation.partitionSizeBytes ∨
      sourceEnd < partitionEnd ∨ min (activation.gptLastLba + 1) (limit - 1) < sourceEnd)
    .allocationChanged

end Preflight

section Laws

variable {activation : ProductionGptTailCreateActivationIntent} {snapshot : HostSnapshot}

/-- The record and the kernel's partition are of the same bytes. -/
structure SameBytes (sector : Nat) (child : BlockDevice) (record : PartitionRecord) : Prop where
  kind : child.kind = .partition
  node : child.path = some record.node
  start : ∃ start, child.start512Sector = some start ∧ start * 512 = record.startSector * sector
  size : child.sizeBytes = record.sizeSectors * sector

/-- What an accepted child shows. -/
theorem childRecorded_ok {table : PartitionTable} {diskKernel : String} {sector : Nat}
    {nodes : List Node} {child : BlockDevice}
    (h : childRecorded table diskKernel sector nodes child) :
    ∃ record ∈ table.partitions, SameBytes sector child record ∧
      (∀ other ∈ table.partitions, child.path = some other.node → other = record) ∧
      (nodes.filter (·.device.path = child.path)).length = 1 := by
  unfold childRecorded at h
  cases hpath : nonEmpty child.path with
  | none =>
    rw [hpath] at h
    cases h
  | some path =>
    cases hkernel : nonEmpty child.kernelName with
    | none =>
      rw [hpath, hkernel] at h
      cases h
    | some kernel =>
      rw [hpath, hkernel] at h
      dsimp only at h
      split at h
      · rename_i record hrecord
        obtain ⟨hmem, hnode⟩ := mem_of_filter_eq_singleton hrecord
        obtain rfl : record.node = path := of_decide_eq_true hnode
        have hnamed : child.path = some record.node := (Option.filter_eq_some_iff.mp hpath).1
        simp only [childMatches, Bool.and_eq_true, decide_eq_true_eq] at h
        obtain ⟨⟨⟨⟨⟨⟨⟨⟨⟨hkind, -⟩, -⟩, -⟩, hsome⟩, hstart⟩, hsize⟩, honce⟩, -⟩, -⟩ := h
        obtain ⟨bytes, hbytes⟩ := Option.isSome_iff_exists.mp hsome
        obtain ⟨start, hstarts, hmul⟩ := Option.bind_eq_some_iff.mp hbytes
        rw [hbytes] at hstart
        obtain ⟨-, hstart⟩ := checkedMul_eq_some_iff.mp hstart.symm
        obtain ⟨-, hmul⟩ := checkedMul_eq_some_iff.mp hmul
        obtain ⟨-, hsize⟩ := checkedMul_eq_some_iff.mp hsize
        refine ⟨record, hmem, ⟨hkind, hnamed, ⟨start, hstarts, hmul.trans hstart.symm⟩, hsize.symm⟩,
          fun other hother hpath => ?_, ?_⟩
        · have hsame : record.node = other.node := Option.some.inj (hnamed.symm.trans hpath)
          exact eq_of_filter_eq_singleton hrecord hother (decide_eq_true hsame.symm)
        · rw [hnamed]
          exact honce
      · cases h

/-- Children that each stand once in the tree have paths of their own. -/
theorem paths_nodup {disk : Node} {nodes : List Node}
    (hsub : disk.device.children.Sublist (nodes.map (·.device)))
    (honce : ∀ child ∈ disk.device.children,
      (nodes.filter (·.device.path = child.path)).length = 1) :
    (disk.device.children.map (·.path)).Nodup := by
  refine List.nodup_iff_count_le_one.mpr fun path => ?_
  by_cases hmem : path ∈ disk.device.children.map (·.path)
  · obtain ⟨child, hchild, rfl⟩ := List.mem_map.mp hmem
    have hpaths : (disk.device.children.map (·.path)).Sublist (nodes.map (·.device.path)) := by
      have hmap := hsub.map (·.path)
      rwa [List.map_map] at hmap
    have hcount : (nodes.map (·.device.path)).count child.path = 1 := by
      rw [← honce child hchild, List.count, List.countP_map, List.countP_eq_length_filter]
      refine congrArg List.length (List.filter_congr fun n _ => ?_)
      rw [Bool.eq_iff_iff, Function.comp_apply, beq_iff_eq, decide_eq_true_eq]
    exact hcount ▸ hpaths.count_le child.path
  · rw [List.count_eq_zero_of_not_mem hmem]
    exact Nat.zero_le 1

/-- The partitions of the kernel and the records of the table are the same ones. -/
structure SamePartitions (sector : Nat) (disk : BlockDevice) (table : PartitionTable) : Prop where
  recorded : ∀ child ∈ disk.children, ∃ record ∈ table.partitions, SameBytes sector child record
  known : ∀ record ∈ table.partitions, ∃ child ∈ disk.children, SameBytes sector child record

theorem samePartitions_of_topology {disk : Node} {table : PartitionTable} {sector : Nat}
    (hdisk : disk ∈ flatten snapshot.storage.blockDevices)
    (hsector : table.sectorSizeBytes = some sector)
    (h : kernelTopologyMatches disk.device table snapshot (flatten snapshot.storage.blockDevices)) :
    SamePartitions sector disk.device table := by
  unfold kernelTopologyMatches at h
  cases hkernel : nonEmpty disk.device.kernelName with
  | none =>
    rw [hkernel] at h
    cases h
  | some diskKernel =>
    rw [hkernel, hsector] at h
    simp only [Bool.and_eq_true, decide_eq_true_eq, List.all_eq_true] at h
    obtain ⟨⟨hlength, hall⟩, -⟩ := h
    have hchild := fun child hmem => childRecorded_ok (hall child hmem)
    have hnodup := paths_nodup (children_sublist hdisk) fun child hmem => by
      obtain ⟨_, -, -, -, honce⟩ := hchild child hmem
      exact honce
    have hsubset : disk.device.children.map (·.path) ⊆ table.partitions.map (some ·.node) := by
      intro path hpath
      obtain ⟨child, hmem, rfl⟩ := List.mem_map.mp hpath
      obtain ⟨record, hrecord, same, -⟩ := hchild child hmem
      exact List.mem_map.mpr ⟨record, hrecord, same.node.symm⟩
    -- as many paths as records, and all of them different
    have hperm : (disk.device.children.map (·.path)).Perm (table.partitions.map (some ·.node)) := by
      refine (List.subperm_of_subset hnodup hsubset).perm_of_length_le ?_
      rw [List.length_map, List.length_map, hlength]
    refine ⟨fun child hmem => ?_, fun record hrecord => ?_⟩
    · obtain ⟨record, hrecord, same, -⟩ := hchild child hmem
      exact ⟨record, hrecord, same⟩
    · obtain ⟨child, hmem, hpath⟩ :=
        List.mem_map.mp (hperm.mem_iff.mpr (List.mem_map_of_mem hrecord))
      obtain ⟨record', -, same, honly, -⟩ := hchild child hmem
      exact ⟨child, hmem, honly record hrecord hpath ▸ same⟩

/-- A listed tail is a free range of the table of its disk. -/
theorem tail_of_listed {source : ProvisioningOpportunity} {path : String} {disk : Node}
    {table : PartitionTable} (hlisted : source ∈ listProvisioningOpportunities snapshot)
    (hkind : source.kind = .diskTail) (hnamed : source.disk = some path)
    (hdisk : (flatten snapshot.storage.blockDevices).filter (fun n =>
      isDisk n.device.kind && n.device.path == some path) = [disk])
    (htable : snapshot.partitionTables.filter (·.device = path) = [table]) :
    ∃ space range, partitionFreeRanges disk.device table = some space ∧ range ∈ space.ranges ∧
      source.startSector = some range.startSector ∧
      source.sectorCount = some range.sectorCount := by
  cases listed_of_mem hlisted with
  | group => cases hkind
  | blank => cases hkind
  | blocked => cases hkind
  | @range node path' table' space range _ known isDisk named _ ofTable free mem counted =>
    have fields := rangeOpportunity_fields counted
    obtain rfl : path' = path := Option.some.inj (fields.disk.symm.trans hnamed)
    obtain rfl : node = disk := by
      refine eq_of_filter_eq_singleton hdisk known ?_
      rw [isDisk, named, Bool.true_and, beq_self_eq_true]
    obtain rfl : table' = table := List.singleton_inj.mp (ofTable.symm.trans htable)
    exact ⟨space, range, free, mem, fields.sectors.1, fields.sectors.2⟩

/-- The frozen range lies in a free tail that the fresh snapshot lists. -/
def InListedTail (snapshot : HostSnapshot) (path : String) (start count : Nat) : Prop :=
  ∃ source ∈ listProvisioningOpportunities snapshot, source.kind = .diskTail ∧
    source.disk = some path ∧ ∃ first sectors, source.startSector = some first ∧
      source.sectorCount = some sectors ∧ first ≤ start ∧ start + count ≤ first + sectors

/-- What an accepted snapshot shows of the disk and of the range that is to be written. -/
structure FreshTail (activation : ProductionGptTailCreateActivationIntent)
    (snapshot : HostSnapshot) (disk : BlockDevice) (table : PartitionTable) : Prop where
  found : TableAt snapshot activation.disk disk table
  tail : InListedTail snapshot activation.disk activation.partitionStartSector
    activation.partitionSectorCount
  range : SafeRange disk table activation.gptSectorSizeBytes activation.partitionStartSector
    activation.partitionSectorCount
  apart : table.partitions.Pairwise RecordsApart
  partitions : SamePartitions activation.gptSectorSizeBytes disk table

variable [Fingerprint]

/-- Nothing that the table or the kernel knows of reaches into the range of an accepted
intent. -/
theorem validateFreshGptTail_safe (h : validateFreshGptTail activation snapshot = .ok ()) :
    ∃ disk table, FreshTail activation snapshot disk table := by
  simp only [validateFreshGptTail, bind_eq_ok_iff, exists_check_iff, refuse_eq_ok_iff,
    unique_eq_ok_iff, okOr_eq_ok_iff, Lib.Word64.checkedAdd_eq_some_iff, not_or, not_not, ne_eq, not_lt] at h
  obtain ⟨-, disk, hdisk, -, table, htable, ⟨hlabel, -, -, hfirst, hlast, hsector, -⟩, hrecords,
    htopology, source, hsource, ⟨hkind, hnamed, -, hstart, hcount, -⟩, ⟨-, hsame, hwhole⟩, _,
    ⟨-, rfl⟩, _, ⟨-, rfl⟩, -, -, hfront, haligned, hpositive, hwithin, -⟩ := h
  obtain ⟨hlisted, -⟩ := mem_of_filter_eq_singleton hsource
  obtain ⟨hknown, -⟩ := mem_of_filter_eq_singleton hdisk
  obtain ⟨space, range, hfree, hmem, hrangeStart, hrangeCount⟩ :=
    tail_of_listed hlisted hkind hnamed hdisk htable
  obtain ⟨hspace, hleast, -⟩ := partitionFreeRanges_sector hfree
  have hbegin : activation.partitionStartSector = range.startSector :=
    hfront.trans (Option.some.inj (hstart.symm.trans hrangeStart))
  rw [Option.some.inj (hcount.symm.trans hrangeCount)] at hwithin
  have hunit : space.sectorSizeBytes = activation.gptSectorSizeBytes :=
    Option.some.inj (hspace.symm.trans hsector)
  have valid : ValidTable table activation.gptSectorSizeBytes activation.gptFirstLba
      activation.gptLastLba :=
    ⟨hlabel, ⟨hfirst, hlast⟩, ⟨hsector, hunit ▸ hleast⟩, validateExistingGptRecords_iff.mp hrecords⟩
  rw [hsame] at hwhole haligned
  rw [hbegin] at haligned
  refine ⟨disk.device, table, ⟨⟨disk, hdisk, rfl⟩, htable⟩, ?_, ?_, valid.records.2.apart,
    samePartitions_of_topology hknown hsector htopology⟩
  · refine ⟨source, hlisted, hkind, hnamed, _, _, hrangeStart, hrangeCount, hbegin.ge, ?_⟩
    rw [hbegin]
    exact Nat.add_le_add_left hwithin _
  · rw [hbegin]
    exact safeRange_of_free valid hfree hunit hmem ⟨Nat.pos_of_ne_zero hpositive, hwithin⟩
      ⟨hwhole, haligned⟩

end Laws

section Samples

def loopTable : PartitionTable where
  device := "/dev/loop7"
  label := some "gpt"
  id := some "12345678"
  unit := some "sectors"
  firstLba := some 6
  lastLba := some 16378
  sectorSizeBytes := some 4096
  partitions := [⟨"/dev/loop7p1", 256, 256, some "0FC63DAF", some "AB", none, none, none⟩]

/-- A disk of 64 MiB in sectors of 4096 bytes, with one partition. -/
def loopSnapshot : HostSnapshot where
  storage :=
    { blockDevices :=
        [{ name := "loop7", kernelName := some "loop7", path := some "/dev/loop7", kind := .loop,
           sizeBytes := 16384 * 4096, start512Sector := none, logicalSectorBytes := some 4096,
           filesystem := none, mountpoints := [], parentKernelName := none, model := none,
           serial := none, uuid := none, partitionUuid := none, partitionTable := some "gpt",
           children :=
            [{ name := "loop7p1", kernelName := some "loop7p1", path := some "/dev/loop7p1",
               kind := .partition, sizeBytes := 256 * 4096, start512Sector := some 2048,
               logicalSectorBytes := some 4096, filesystem := none, mountpoints := [],
               parentKernelName := some "loop7", model := none, serial := none, uuid := none,
               partitionUuid := some "ab", partitionTable := none, children := [] }] }] }
  partitionTables := [loopTable]
  mounts := []
  fstab := []
  swaps := []
  collectors := ["lsblk", "partition_tables", "mounts", "fstab", "swap"].map (⟨·, .complete, none⟩)

/-- Four mebibytes at the beginning of the tail. -/
def loopActivation : ProductionGptTailCreateActivationIntent where
  sourceId := provisioningOpportunityId .diskTail "/dev/loop7 tail" (some "/dev/loop7") none
    (some 512) (some 15867)
  disk := "/dev/loop7"
  diskSizeBytes := 16384 * 4096
  logicalSectorBytes := 4096
  diskModel := none
  diskSerial := none
  gptDiskId := "12345678"
  gptFirstLba := 6
  gptLastLba := 16378
  gptSectorSizeBytes := 4096
  gptTableSha256 := canonicalTableSha256 loopTable
  existingPartitionCount := 1
  sourceStartSector := 512
  sourceSectorCount := 15867
  sourceSizeBytes := 15867 * 4096
  partitionStartSector := 512
  partitionSectorCount := 1024
  partitionSizeBytes := 1024 * 4096

theorem validateFreshGptTail_safe_loop :
    ∃ disk table, FreshTail loopActivation loopSnapshot disk table :=
  validateFreshGptTail_safe (by decide +kernel)

end Samples

end StorageManager.Executor.GptTail
