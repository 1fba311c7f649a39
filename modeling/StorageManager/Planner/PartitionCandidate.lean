import StorageManager.Core.PartitionType
import StorageManager.Lib.Ranges
import StorageManager.Lib.Word64
import StorageManager.Planner.PlanPreview

/-!
# Growing a partition in place

The preview for a filesystem directly on a partition: the partition grows into the free
sectors behind it, then its filesystem follows.
-/

namespace StorageManager.Planner.Extend

open Core (BlockDevice HostCapabilities HostSnapshot NodeKind Node PartitionRecord PartitionTable
  flatten isExtendedType)
open Lib.Checks (okOr collect)
open Lib.Ranges
open Lib.Word64

set_option autoImplicit false

section Profile

inductive ExtendPlannerProfile where
  | directPartition
  | lvm
  | wholeBlockFilesystem
  | legacyFailClosed
  deriving DecidableEq

structure ExtendRouteAdapter where
  profile : ExtendPlannerProfile
  resolvedDevice : Option String
  mountpoint : Option String
  status : LayerRouteStatus
  issueCodes : List String
  deriving DecidableEq

/-- A layer that is a block device of its own. -/
def RouteLayerKind.isBlock : RouteLayerKind → Bool
  | .lvmPhysicalVolume | .lvmVolumeGroup | .filesystem | .mount => false
  | _ => true

def extendProfileFromRoute (route : LayerRoute) : ExtendPlannerProfile :=
  match (route.layers.reverse.map (·.kind)).find? RouteLayerKind.isBlock with
  | some .partition => .directPartition
  | some .lvmLogicalVolume => .lvm
  | some .disk | some .loopDevice => .wholeBlockFilesystem
  | _ => .legacyFailClosed

def resolveExtendRouteAdapter (s : HostSnapshot) (target : String) : ExtendRouteAdapter :=
  let route := analyzeLayerRoute s target
  { profile := extendProfileFromRoute route
    resolvedDevice := route.resolvedDevice
    mountpoint := route.mountpoint
    status := route.status
    issueCodes := route.issues.map (·.code) }

end Profile

section AdjacentSpace

def parseDosType (raw : String) : Except Blocker Nat :=
  okOr (Core.parseDosType raw) (blocked "invalid-partition-type" "DOS partition type is invalid")

/-- The sectors between the target and what follows it among the ranges. -/
def adjacentFromRanges (ranges : List Range) (target : PartitionRecord) (limit : Nat) :
    Except Blocker Nat := do
  let (found, next) ← okOr (behind limit target.node ranges)
    (blocked "target-not-primary" "target partition is not a supported boundary")
  okOr (checkedSub next found.stop)
    (blocked "overlapping-partitions" "next partition overlaps the target")

def gptRange (first limit : Nat) (record : PartitionRecord) : Except Blocker Range := do
  let stop ← okOr (checkedAdd record.startSector record.sizeSectors)
    (blocked "size-overflow" "partition range exceeds u64")
  ensure (0 < record.sizeSectors ∧ first ≤ record.startSector ∧ stop ≤ limit)
    "invalid-partition-range" "GPT partition lies outside the usable range"
  pure ⟨record.startSector, stop, record.node⟩

def adjacentFreeGpt (table : PartitionTable) (target : PartitionRecord) : Except Blocker Nat := do
  let first ← okOr table.firstLba
    (blocked "gpt-bounds-missing" "GPT first usable LBA is unknown")
  let last ← okOr table.lastLba (blocked "gpt-bounds-missing" "GPT last usable LBA is unknown")
  let limit ← okOr (checkedAdd last 1) (blocked "size-overflow" "GPT usable limit exceeds u64")
  let ranges ← collect (gptRange first limit) table.partitions
  let ranges := sorted ranges
  ensure (¬overlaps ranges) "overlapping-partitions" "GPT partition ranges overlap"
  adjacentFromRanges ranges target limit

def dosType (record : PartitionRecord) : Except Blocker Nat := do
  let raw ← okOr record.partitionType
    (blocked "partition-type-missing" "DOS partition type is unknown")
  parseDosType raw

/-- The range of a record when it is a container of logical partitions. -/
def extendedRange (record : PartitionRecord) : Except Blocker (Option Range) := do
  let kind ← dosType record
  if isExtendedType kind then
    let stop ← okOr (checkedAdd record.startSector record.sizeSectors)
      (blocked "size-overflow" "extended range exceeds u64")
    pure (some ⟨record.startSector, stop, record.node⟩)
  else pure none

/-- The record stands inside a container that is not itself. -/
def insideExtended (extended : List Range) (record : PartitionRecord) (stop : Nat) : Bool :=
  extended.head?.any fun e =>
    record.node ≠ e.name && e.start ≤ record.startSector && stop ≤ e.stop

/-- The range of a record that is no logical partition. -/
def primaryRange (extended : List Range) (limit : Nat) (record : PartitionRecord) :
    Except Blocker (Option Range) := do
  let stop ← okOr (checkedAdd record.startSector record.sizeSectors)
    (blocked "size-overflow" "partition range exceeds u64")
  ensure (0 < record.sizeSectors ∧ 1 ≤ record.startSector ∧ stop ≤ limit)
    "invalid-partition-range" "DOS partition lies outside the addressable range"
  let kind ← dosType record
  ensure (kind ≠ 0x00 ∧ kind ≠ 0xee) "unsupported-dos-layout"
    "empty/protective DOS partition types are not supported"
  if insideExtended extended record stop then pure none
  else pure (some ⟨record.startSector, stop, record.node⟩)

/-- The sectors a DOS table can address. -/
def dosLimit (diskSectors : Nat) : Nat := min diskSectors (2 ^ 32)

def adjacentFreeDos (table : PartitionTable) (target : PartitionRecord) (diskSectors : Nat) :
    Except Blocker Nat := do
  let limit := dosLimit diskSectors
  let extended ← collect extendedRange table.partitions
  let extended := extended.filterMap id
  ensure (extended.length ≤ 1) "unsupported-dos-layout"
    "multiple extended partition containers are not supported"
  let targetKind ← dosType target
  ensure (¬isExtendedType targetKind) "unsupported-dos-layout"
    "extended partition containers cannot be grown as filesystem targets"
  ensure (¬extended.head?.any fun e => e.start ≤ target.startSector &&
      (checkedAdd target.startSector target.sizeSectors).any (· ≤ e.stop))
    "unsupported-logical-partition"
    "logical partition growth inside an extended container is not supported"
  let primary ← collect (primaryRange extended limit) table.partitions
  let primary := sorted (primary.filterMap id)
  ensure (¬overlaps primary) "overlapping-partitions"
    "DOS primary/extended partition ranges overlap"
  adjacentFromRanges primary target limit

def adjacentFreeSectors (disk : BlockDevice) (table : PartitionTable) (target : PartitionRecord) :
    Except Blocker Nat := do
  let sector ← okOr table.sectorSizeBytes
    (blocked "sector-size-missing" "partition sector size is unknown")
  let label ← okOr table.label
    (blocked "partition-label-missing" "partition table label is unknown")
  if label = "dos" then adjacentFreeDos table target (disk.sizeBytes / sector)
  else if label = "gpt" then adjacentFreeGpt table target
  else .error (blocked "unsupported-partition-table"
    "direct partition preview supports only DOS/MBR and GPT")

end AdjacentSpace

section Role

/-- A GUID: hexadecimal digits, with hyphens in their four places. -/
def normalizeGptPartitionType (raw : String) : Option (List Char) :=
  let value := Core.trim raw.toList
  if String.utf8Len value = 36 ∧ value.zipIdx.all (fun (c, i) =>
      if i = 8 ∨ i = 13 ∨ i = 18 ∨ i = 23 then c = '-' else (Core.hexDigit c).isSome)
  then some (value.map Char.toLower) else none

/-- EFI System, BIOS Boot and Extended Boot Loader. -/
def protectedGptTypes : List (List Char) :=
  ["c12a7328-f81f-11d2-ba4b-00a0c93ec93b", "21686148-6449-6e6f-744e-656564454649",
    "bc13c2ff-59e6-4262-a352-b275fd6f7172"].map String.toList

def ensurePartitionRoleIsGrowable (table : PartitionTable) (record : PartitionRecord) :
    Except Blocker Unit := do
  let rawType ← okOr record.partitionType (blocked "partition-type-missing"
    "partition type is required before a partition can be considered for growth")
  if table.label = some "gpt" then
    let partitionType ← okOr (normalizeGptPartitionType rawType)
      (blocked "invalid-partition-type" "GPT partition type GUID is malformed")
    ensure (partitionType ∉ protectedGptTypes) "protected-partition-role"
      ("EFI System, BIOS Boot and Extended Boot Loader partitions require a dedicated " ++
        "proven route")
  else if table.label = some "dos" then
    let partitionType ← parseDosType rawType
    ensure (partitionType ≠ 0xea ∧ partitionType ≠ 0xef) "protected-partition-role"
      "MBR boot-loader and EFI System partitions require a dedicated proven route"
  else pure ()

end Role

section Candidate

def isDisk (kind : NodeKind) : Bool := kind = .disk || kind = .loop

/-- The disk or loop device with this kernel name. -/
def parentDisk (nodes : List Node) (parentName : String) : Except Blocker Node :=
  unique (nodes.filter fun n => isDisk n.device.kind && n.device.kernelName == some parentName)
    "parent-not-resolved"

def growTool (fsType : String) : String := if fsType = "xfs" then "xfs_growfs" else "resize2fs"

/-- The partition, its filesystem and its one mountpoint, once the snapshot can be trusted
and the partition is in plain use. -/
def partitionTarget (s : HostSnapshot) (capabilities : HostCapabilities)
    (route : ExtendRouteAdapter) : Except Blocker (BlockDevice × Core.Filesystem × String) := do
  let resolvedDevice ← okOr route.resolvedDevice (blocked "route-device-not-found"
    "direct-partition target did not resolve to one device")
  let node ← unique ((flatten s.storage.blockDevices).filter fun n =>
    n.device.kind = .partition && n.device.nodeAlias resolvedDevice) "ambiguous-device"
  let device := node.device
  collectorsComplete s ["lsblk", "partition_tables", "mounts", "fstab", "swap"]
    "all direct-partition preview collectors must complete"
  ensure (¬hasErrorDiagnostic s) "diagnostic-error"
    "the snapshot contains error-level diagnostics"
  ensure (device.children.isEmpty) "unsupported-layout"
    "stacked consumers above the partition are not supported"
  let fs ← okOr device.filesystem (blocked "filesystem-missing" "filesystem type is absent")
  ensure (fs.fsType = "ext4" ∨ fs.fsType = "xfs") "unsupported-filesystem"
    ("direct partition filesystem is unsupported; only ext4 and XFS previews are " ++
      "supported")
  let mountpoint ← okOr route.mountpoint (blocked "mount-not-unique"
    "direct-partition target is not uniquely mounted")
  let mount ← unique (s.mounts.filter (·.target = mountpoint)) "mount-not-unique"
  ensure (MountConfirmed device device.nodeAlias fs.fsType mount ∧
      (s.mounts.filter (·.target = mount.target)).length = 1) "mount-state-mismatch"
    "one matching read-write mount must be confirmed by lsblk and findmnt"
  ensure (¬s.swaps.any fun swap => device.nodeAlias swap.name) "active-swap"
    "the target is reported as active swap"
  Lib.Checks.checkAll (ensureTool capabilities "a required future operation tool is unavailable")
    ["sfdisk", growTool fs.fsType]
  pure (device, fs, mountpoint)

/-- The record of a partition in the table of its disk, with the sector size. -/
structure Placed where
  disk : BlockDevice
  diskPath : String
  devicePath : String
  table : PartitionTable
  sector : Nat
  record : PartitionRecord

def placePartition (s : HostSnapshot) (device : BlockDevice) : Except Blocker Placed := do
  let parentName ← okOr device.parentKernelName
    (blocked "parent-missing" "partition parent is unknown")
  let disk ← parentDisk (flatten s.storage.blockDevices) parentName
  let diskPath ← okOr disk.device.path (blocked "parent-not-resolved" "disk path is absent")
  let devicePath ← okOr device.path
    (blocked "device-path-missing" "partition path is absent")
  let table ← unique (s.partitionTables.filter (·.device = diskPath)) "partition-table-not-unique"
  let sector ← okOr table.sectorSizeBytes
    (blocked "sector-size-missing" "partition sector size is unknown")
  ensure (512 ≤ sector ∧ isPowerOfTwo sector ∧ device.logicalSectorBytes = some sector)
    "sector-size-mismatch"
    "partition-table and block-device logical sector sizes disagree"
  let record ← unique (table.partitions.filter (·.node = devicePath)) "partition-record-not-unique"
  ensurePartitionRoleIsGrowable table record
  let startBytes ← okOr (checkedMul record.startSector sector)
    (blocked "size-overflow" "partition start exceeds u64")
  ensure (device.start512Sector.bind (checkedMul · 512) = some startBytes)
    "partition-start-mismatch" "lsblk and partition table disagree on partition start"
  let currentSize ← okOr (checkedMul record.sizeSectors sector)
    (blocked "size-overflow" "partition size exceeds u64")
  ensure (currentSize = device.sizeBytes) "partition-size-mismatch"
    "lsblk and partition table disagree on target partition size"
  pure ⟨disk.device, diskPath, devicePath, table, sector, record⟩

/-- How far the partition grows: its new sectors and the change announced. -/
def growPartition (placed : Placed) (growth : Growth) :
    Except Blocker (Nat × PartitionSizeChange) := do
  let sector := placed.sector
  let record := placed.record
  let adjacentSectors ← adjacentFreeSectors placed.disk placed.table record
  let adjacentBytes ← okOr (checkedMul adjacentSectors sector)
    (blocked "size-overflow" "adjacent capacity exceeds u64")
  let requested := match growth with
    | .byBytes bytes => bytes
    | .maxFree => adjacentBytes
  ensure (0 < requested) "no-growth"
    "requested growth or verified adjacent capacity is zero"
  let growthSectors := divCeil requested sector
  ensure (growthSectors ≤ adjacentSectors) "insufficient-adjacent-capacity"
    "sector-rounded request exceeds verified adjacent free space"
  let rounded ← okOr (checkedMul growthSectors sector)
    (blocked "size-overflow" "growth exceeds u64")
  let newSizeSectors ← okOr (checkedAdd record.sizeSectors growthSectors)
    (blocked "size-overflow" "new partition size exceeds u64")
  let expectedSize ← okOr (checkedMul newSizeSectors sector)
    (blocked "size-overflow" "new partition size exceeds u64")
  pure (newSizeSectors,
    { device := placed.devicePath
      disk := placed.diskPath
      currentPartitionSizeBytes := record.sizeSectors * sector
      requestedGrowthBytes := requested
      roundedGrowthBytes := rounded
      expectedPartitionSizeBytes := expectedSize
      sectorSizeBytes := sector
      remainingAdjacentFreeBytes := adjacentBytes - rounded })

def partitionSteps (placed : Placed) (label : String) (newSizeSectors : Nat) (fsType : String)
    (mountpoint : String) : List PlanStep :=
  [step 1 .revalidateSnapshot .notApplicable,
    step 2 (.backupPartitionTableMetadata placed.diskPath label placed.table.id) .reversible,
    step 3 (.extendPartition placed.devicePath placed.record.startSector
      placed.record.sizeSectors newSizeSectors placed.sector) .irreversible,
    step 4 (.growFilesystem fsType (some mountpoint)) .irreversible,
    step 5 .rediscoverAndVerify .notApplicable]

def tryBuildPartitionCandidate (s : HostSnapshot) (capabilities : HostCapabilities)
    (request : ExtendRequest) : Except Blocker (Option (PartitionSizeChange × List PlanStep)) := do
  ensure (¬invalidTarget request.target) "invalid-target"
    "target must be a nonempty device path or exact mountpoint"
  let route := resolveExtendRouteAdapter s request.target
  if route.profile ≠ .directPartition then pure none
  else
    let (device, fs, mountpoint) ← partitionTarget s capabilities route
    let placed ← placePartition s device
    let (newSizeSectors, size) ← growPartition placed request.growth
    let label ← okOr placed.table.label
      (blocked "partition-label-missing" "partition table label is unknown")
    pure (some (size, partitionSteps placed label newSizeSectors fs.fsType mountpoint))

end Candidate

end StorageManager.Planner.Extend
