import StorageManager.Planner.Provisioning

/-!
# The source of a new volume

A selected opportunity is looked up again in the snapshot: which disk or volume group it
names, and how much of it there is to allocate.
-/

namespace StorageManager.Planner.Provisioning

open Core (BlockDevice HostSnapshot PartitionTable flatten)
open Extend (Blocker blocked ensure unique isDisk)
open Lib.Checks (okOr)
open Lib.Word64

set_option autoImplicit false

inductive CreatePartitionTablePolicy where
  | gpt
  | dos
  deriving DecidableEq

structure CreateSourceAdapter where
  sourceId : String
  kind : ProvisioningSpaceKind
  disk : Option String
  volumeGroup : Option String
  allocationUnitBytes : Nat
  availableBytes : Nat
  startSector : Option Nat
  sectorCount : Option Nat
  partitionTable : Option CreatePartitionTablePolicy
  deriving DecidableEq

section BlankDisk

def createPartitionAlignmentBytes : Nat := 1024 * 1024

def gptPartitionEntryCount : Nat := 128

def gptPartitionEntrySizeBytes : Nat := 128

def ceilDiv (value divisor : Nat) : Option Nat :=
  if divisor = 0 then none else some (divCeil value divisor)

def alignUp (value alignment : Nat) : Option Nat :=
  if alignment = 0 then none
  else if value % alignment = 0 then some value
  else checkedAdd value (alignment - value % alignment)

structure BlankDiskGeometry where
  sectorSizeBytes : Nat
  startSector : Nat
  availableBytes : Nat
  deriving DecidableEq

/-- The disk of a blank source, once nothing is known to use it. -/
def blankDisk (s : HostSnapshot) (diskPath : String) : Except Blocker BlockDevice := do
  let node ← unique ((flatten s.storage.blockDevices).filter (·.device.path = some diskPath))
    "blank-disk-not-resolved"
  let disk := node.device
  ensure (isDisk disk.kind ∧ disk.children.isEmpty ∧ disk.filesystem = none ∧
      disk.partitionTable = none ∧ disk.mountpoints.isEmpty) "blank-disk-state-changed"
    "selected source is no longer a plain unpartitioned, unmounted disk/loop device"
  ensure (∀ table ∈ s.partitionTables, table.device ≠ diskPath) "blank-disk-table-present"
    "authoritative discovery now reports a partition table on the selected blank disk"
  ensure (¬s.swaps.any fun swap => disk.nodeAlias swap.name) "blank-disk-active-swap"
    "selected blank disk is reported as active swap"
  ensure (¬s.diagnostics.any fun diagnostic => diagnostic.severity = .error &&
      diagnostic.device.all fun device => device = diskPath || disk.nodeAlias device)
    "diagnostic-error" "an error-level diagnostic affects the selected blank disk"
  pure disk

/-- The first usable sector of the table to be made, and where its usable part ends. -/
def policyWindow (policy : CreatePartitionTablePolicy) (sector diskSectors : Nat) :
    Except Blocker (Nat × Nat) :=
  match policy with
  | .gpt => do
    let entryBytes ← okOr (checkedMul gptPartitionEntryCount gptPartitionEntrySizeBytes)
      (blocked "size-overflow" "GPT entry-table size exceeds u64")
    let entrySectors ← okOr (ceilDiv entryBytes sector)
      (blocked "create-gpt-geometry-invalid" "could not derive GPT entry-table sectors")
    let first ← okOr (checkedAdd 2 entrySectors)
      (blocked "size-overflow" "GPT first usable sector exceeds u64")
    let trailing ← okOr (checkedAdd entrySectors 1)
      (blocked "size-overflow" "GPT trailing metadata exceeds u64")
    let stop ← okOr (checkedSub diskSectors trailing)
      (blocked "blank-disk-too-small" "disk is too small for GPT primary/backup metadata")
    pure (first, stop)
  | .dos => pure (1, min diskSectors (2 ^ 32))

def blankDiskGeometry (s : HostSnapshot) (source : ProvisioningOpportunity)
    (policy : CreatePartitionTablePolicy) : Except Blocker BlankDiskGeometry := do
  let collector ← unique (s.collectors.filter (·.component = "partition_tables"))
    "collector-incomplete"
  ensure (collector.state = .complete) "collector-incomplete"
    "authoritative partition-table discovery must complete before blank-disk planning"
  let diskPath ← okOr source.disk
    (blocked "blank-disk-identity-missing" "blank-disk source has no device path")
  let disk ← blankDisk s diskPath
  let sector ← okOr disk.logicalSectorBytes
    (blocked "create-sector-size-missing" "blank-disk logical sector size is unknown")
  ensure (512 ≤ sector ∧ isPowerOfTwo sector ∧ 0 < disk.sizeBytes ∧ disk.sizeBytes % sector = 0 ∧
      source.sectorSizeBytes = some sector ∧ source.availableBytes = disk.sizeBytes)
    "blank-disk-geometry-mismatch"
    "blank-disk source and current block-device geometry do not agree"
  let alignment ← okOr (ceilDiv createPartitionAlignmentBytes sector)
    (blocked "create-alignment-invalid" "could not derive partition alignment")
  let (first, stop) ← policyWindow policy sector (disk.sizeBytes / sector)
  let start ← okOr (alignUp first (max alignment 1))
    (blocked "size-overflow" "aligned partition start exceeds u64")
  ensure (start < stop) "blank-disk-too-small"
    "disk has no usable 1 MiB-aligned partition range after table metadata"
  let sectorCount ← okOr (checkedSub stop start)
    (blocked "size-overflow" "blank-disk usable sector range underflowed")
  let availableBytes ← okOr (checkedMul sectorCount sector)
    (blocked "size-overflow" "blank-disk usable capacity exceeds u64")
  ensure (0 < availableBytes) "blank-disk-too-small"
    "blank disk has no usable capacity after metadata and alignment"
  pure ⟨sector, start, availableBytes⟩

end BlankDisk

section Resolution

def resolveVolumeGroup (s : HostSnapshot) (source : ProvisioningOpportunity) :
    Except Blocker CreateSourceAdapter := do
  let name ← okOr source.volumeGroup (blocked "create-vg-missing"
    "the selected VG free-space source has no volume-group identity")
  let lvm ← okOr s.lvm
    (blocked "create-lvm-missing" "LVM inventory is unavailable for the selected source")
  let groups := lvm.volumeGroups.filter (·.name = name)
  let vg ← okOr groups.head?
    (blocked "create-vg-not-found" "the selected volume group no longer exists")
  ensure (groups.length ≤ 1) "create-vg-ambiguous"
    "the selected volume-group identity is ambiguous"
  let extent ← okOr vg.extentSizeBytes
    (blocked "create-extent-missing" "VG extent size is unavailable")
  ensure (512 ≤ extent ∧ isPowerOfTwo extent ∧ vg.freeBytes = source.availableBytes)
    "create-capacity-mismatch" "VG free-space identity or extent geometry changed"
  pure
    { sourceId := source.id
      kind := source.kind
      disk := none
      volumeGroup := some vg.name
      allocationUnitBytes := extent
      availableBytes := vg.freeBytes
      startSector := none
      sectorCount := none
      partitionTable := none }

/-- The sectors that a gap or a tail names. -/
def rangeOfSource (source : ProvisioningOpportunity) :
    Except Blocker (String × Nat × Nat × Nat) := do
  let diskPath ← okOr source.disk (blocked "create-disk-missing"
    "selected partition-table free space has no disk identity")
  let sector ← okOr source.sectorSizeBytes (blocked "create-sector-size-missing"
    "selected partition-table free space has no sector size")
  let startSector ← okOr source.startSector (blocked "create-geometry-invalid"
    "selected partition-table free-space geometry is incomplete")
  let sectorCount ← okOr source.sectorCount (blocked "create-geometry-invalid"
    "selected partition-table free-space geometry is incomplete")
  ensure (512 ≤ sector ∧ isPowerOfTwo sector ∧ 0 < sectorCount) "create-geometry-invalid"
    "selected partition-table free-space geometry is incomplete"
  pure (diskPath, sector, startSector, sectorCount)

def resolveRange (s : HostSnapshot) (source : ProvisioningOpportunity) :
    Except Blocker CreateSourceAdapter := do
  let (diskPath, sector, startSector, sectorCount) ← rangeOfSource source
  let disks := (flatten s.storage.blockDevices).filter fun n =>
    isDisk n.device.kind && n.device.path == some diskPath
  let disk ← okOr disks.head?
    (blocked "create-disk-not-found" "selected free-space disk no longer exists")
  ensure (disks.length ≤ 1) "create-disk-ambiguous"
    "selected free-space disk identity is ambiguous"
  let tables := s.partitionTables.filter (·.device = diskPath)
  let table ← okOr tables.head? (blocked "create-partition-table-not-found"
    "selected disk partition table no longer exists")
  ensure (tables.length ≤ 1) "create-partition-table-ambiguous"
    "selected disk partition-table identity is ambiguous"
  let freeSpace ← okOr (partitionFreeRanges disk.device table) (blocked "create-geometry-changed"
    "selected partition-table free-space geometry can no longer be proven")
  ensure (freeSpace.sectorSizeBytes = sector) "create-capacity-mismatch"
    "partition-table sector size changed for the selected source"
  ensure (⟨startSector, sectorCount, source.kind = .diskTail⟩ ∈ freeSpace.ranges)
    "create-geometry-changed" "selected partition-table free range changed since discovery"
  let availableBytes ← okOr (checkedMul sectorCount sector)
    (blocked "size-overflow" "free-space capacity exceeds u64")
  ensure (availableBytes = source.availableBytes) "create-capacity-mismatch"
    "selected partition-table free-space capacity changed"
  pure
    { sourceId := source.id
      kind := source.kind
      disk := some diskPath
      volumeGroup := none
      allocationUnitBytes := sector
      availableBytes
      startSector := some startSector
      sectorCount := some sectorCount
      partitionTable := none }

def resolveBlankDisk (s : HostSnapshot) (source : ProvisioningOpportunity)
    (partitionTable : Option CreatePartitionTablePolicy) : Except Blocker CreateSourceAdapter := do
  let policy ← okOr partitionTable (blocked "blank-disk-policy-required"
    "blank-disk creation requires an explicit GPT or DOS/MBR partition-table policy")
  let geometry ← blankDiskGeometry s source policy
  let disk ← okOr source.disk
    (blocked "blank-disk-identity-missing" "blank-disk source has no device path")
  pure
    { sourceId := source.id
      kind := source.kind
      disk := some disk
      volumeGroup := none
      allocationUnitBytes := geometry.sectorSizeBytes
      availableBytes := geometry.availableBytes
      startSector := some geometry.startSector
      sectorCount := some (geometry.availableBytes / geometry.sectorSizeBytes)
      partitionTable := some policy }

def resolveCreateSourceAdapter (s : HostSnapshot) (source : ProvisioningOpportunity)
    (partitionTable : Option CreatePartitionTablePolicy) : Except Blocker CreateSourceAdapter := do
  ensure (¬(source.kind ≠ .blankDisk ∧ partitionTable.isSome)) "create-partition-table-unexpected"
    ("partition-table policy is valid only when the selected Create source is a blank disk")
  match source.kind with
  | .blockedDisk => .error (blocked "create-source-unusable" (source.blockers.head?.getD
      ("selected disk is blocked from provisioning until partition-table evidence is " ++
        "repaired")))
  | .lvmFreeExtents => resolveVolumeGroup s source
  | .diskGap | .diskTail => resolveRange s source
  | .blankDisk => resolveBlankDisk s source partitionTable

end Resolution

end StorageManager.Planner.Provisioning
