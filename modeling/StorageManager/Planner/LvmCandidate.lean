import StorageManager.Planner.PartitionCandidate

/-!
# Growing a logical volume

The preview for a filesystem on a logical volume: the volume takes free extents of its
group, or the group first gains extents from the device under its physical volume.
-/

namespace StorageManager.Planner.Extend

open Core (BlockDevice HostCapabilities HostSnapshot Node PartitionRecord PartitionTable flatten
  containsDevice supportedChain LvmInventory LvmPhysicalVolume LvmVolumeGroup LvmLogicalVolume)
open Lib.Checks (okOr)
open Lib.Word64

set_option autoImplicit false

def lvmCollectors : List String :=
  ["lsblk", "partition_tables", "mounts", "fstab", "swap", "lvm"]

/-- A name of the logical volume or of its device. -/
def namesVolume (device : BlockDevice) (lv : LvmLogicalVolume) (name : String) : Bool :=
  device.nodeAlias name || lv.lvAlias name

section UnderlyingGrowth

/-- The logical volume, its group and physical volume, and the extents of the group. -/
structure VolumeStack where
  lvm : LvmInventory
  device : Node
  lv : LvmLogicalVolume
  fs : Core.Filesystem
  mount : Core.MountEntry
  vg : LvmVolumeGroup
  extent : Nat
  freeExtents : Nat
  pv : LvmPhysicalVolume
  pvDevice : Node
  usableBackingBytes : Nat

/-- The mounted linear volume of a single-device group, with consistent extents. -/
def underlyingStack (s : HostSnapshot) (target : String) : Option VolumeStack := do
  let lvm ← s.lvm
  let nodes := flatten s.storage.blockDevices
  let route := resolveExtendRouteAdapter s target
  guard (route.profile = .lvm)
  let resolvedDevice ← route.resolvedDevice
  let device ← (unique (nodes.filter (·.device.nodeAlias resolvedDevice))
    "ambiguous-device").toOption
  let lv ← (unique (lvm.logicalVolumes.filter (·.lvDevice device.device)) "ambiguous-lv").toOption
  guard (device.device.kind = .lvm ∧ device.device.children.isEmpty ∧
    supportedChain s.storage.blockDevices device true ∧ lv.layout = some "linear" ∧
    lv.role = some "public" ∧ lv.attributes = some "-wi-ao----")
  let fs ← device.device.filesystem
  guard (fs.fsType = "ext4" ∨ fs.fsType = "xfs")
  let mountpoint ← route.mountpoint
  let mount ← (unique (s.mounts.filter (·.target = mountpoint)) "mount-not-unique").toOption
  guard (MountConfirmed device.device (namesVolume device.device lv) fs.fsType mount)
  let vg ← (unique (lvm.volumeGroups.filter (·.name = lv.vgName)) "ambiguous-vg").toOption
  guard (vg.attributes = some "wz--n-" ∧ vg.missingPvCount = some 0 ∧ vg.pvCount = 1)
  let extent ← vg.extentSizeBytes
  let freeExtents ← vg.freeExtentCount
  guard (512 ≤ extent ∧ isPowerOfTwo extent ∧
    checkedMul freeExtents extent = some vg.freeBytes ∧ vg.sizeBytes % extent = 0 ∧
    lv.sizeBytes % extent = 0)
  let pv ← (unique (lvm.physicalVolumes.filter (·.vgName = some vg.name)) "ambiguous-pv").toOption
  let pvDevice ← (unique (nodes.filter (·.device.nodeAlias pv.name)) "pv-not-resolved").toOption
  let peStartBytes ← pv.peStartBytes
  let usableBackingBytes ← checkedSub pvDevice.device.sizeBytes peStartBytes
  guard (pvDevice.device.kind.isPlain ∧ containsDevice pvDevice device ∧
    pvDevice.device.filesystem.map (·.fsType) = some "LVM2_member" ∧
    pvDevice.device.uuid = pv.uuid ∧ pv.sizeBytes ≤ usableBackingBytes ∧
    pv.sizeBytes % extent = 0 ∧ pv.freeBytes = vg.freeBytes)
  pure { lvm, device, lv, fs, mount, vg, extent, freeExtents, pv, pvDevice, usableBackingBytes }

/-- The disk under the physical volume, and the free bytes behind its partition. -/
structure Backing where
  diskPath : String
  partitionPath : Option String
  adjacentPartitionFreeBytes : Nat
  sectorSizeBytes : Nat

/-- The record of the physical volume's partition, where it agrees with its device. -/
def backingRecord (table : PartitionTable) (device : BlockDevice) (pvPath : String)
    (sector : Nat) : Option PartitionRecord := do
  guard (512 ≤ sector ∧ isPowerOfTwo sector ∧ device.logicalSectorBytes = some sector)
  let record ← (unique (table.partitions.filter (·.node = pvPath))
    "partition-record-not-unique").toOption
  let recordSizeBytes ← checkedMul record.sizeSectors sector
  let recordStartBytes ← checkedMul record.startSector sector
  guard (recordSizeBytes = device.sizeBytes ∧
    device.start512Sector.bind (checkedMul · 512) = some recordStartBytes)
  pure record

def underlyingBacking (s : HostSnapshot) (device : BlockDevice) : Option Backing :=
  if device.kind = .partition then do
    let parentName ← device.parentKernelName
    let disk ← (parentDisk (flatten s.storage.blockDevices) parentName).toOption
    let diskPath := disk.device.devicePath
    let pvPath ← device.path
    let table ← (unique (s.partitionTables.filter (·.device = diskPath))
      "partition-table-not-unique").toOption
    let sector ← table.sectorSizeBytes
    let record ← backingRecord table device pvPath sector
    let adjacentSectors ← (adjacentFreeSectors disk.device table record).toOption
    let adjacentBytes ← checkedMul adjacentSectors sector
    pure ⟨diskPath, some pvPath, adjacentBytes, sector⟩
  else some ⟨device.devicePath, none, 0, device.logicalSectorBytes.getD 512⟩

def underlyingSteps (stack : VolumeStack) (backing : Backing) (lvPath : String)
    (requiredPartitionGrowthBytes : Nat) : Option (List String) := do
  let partitionSteps ←
    if 0 < requiredPartitionGrowthBytes then do
      let partition ← backing.partitionPath
      pure ["create and verify partition-table metadata backup",
        s!"extend {partition} by {requiredPartitionGrowthBytes} bytes " ++
          "without moving its start sector",
        "notify/revalidate the kernel partition geometry"]
    else some []
  pure (["revalidate the complete storage snapshot and exact device identities",
    "create and verify LVM metadata backup"] ++ partitionSteps ++
    [s!"resize LVM PV {stack.pv.name} to consume the verified larger backing device",
      s!"extend logical volume {lvPath} by the requested extent-aligned capacity",
      s!"grow {stack.fs.fsType} filesystem mounted at {stack.mount.target}",
      "rediscover and verify every layer and the final filesystem size"])

/-- Whole sectors for the bytes a partition must gain. -/
def sectorAligned (bytes sector : Nat) : Option Nat :=
  if bytes = 0 then some 0 else checkedMul (divCeil bytes sector) sector

def analyzeLvmUnderlyingGrowth (s : HostSnapshot) (request : ExtendRequest) :
    Option GrowthRouteAlternative := do
  guard (¬invalidTarget request.target)
  (collectorsComplete s lvmCollectors "").toOption
  guard (¬hasErrorDiagnostic s)
  let stack ← underlyingStack s request.target
  let slack ← checkedSub stack.usableBackingBytes stack.pv.sizeBytes
  let backing ← underlyingBacking s stack.pvDevice.device
  let extent := stack.extent
  let underlyingBytes ← checkedAdd slack backing.adjacentPartitionFreeBytes
  let additionalExtents := underlyingBytes / extent
  guard (additionalExtents ≠ 0)
  let maxExtents ← checkedAdd stack.freeExtents additionalExtents
  let maxGrowthBytes ← checkedMul maxExtents extent
  guard (stack.vg.freeBytes < maxGrowthBytes)
  let requestedGrowthBytes := match request.growth with
    | .byBytes bytes => bytes
    | .maxFree => maxGrowthBytes
  guard (requestedGrowthBytes ≠ 0)
  let requestedExtents := divCeil requestedGrowthBytes extent
  guard (stack.freeExtents < requestedExtents ∧ requestedExtents ≤ maxExtents)
  let requiredNewExtents ← checkedSub requestedExtents stack.freeExtents
  let requiredPvGrowthBytes ← checkedMul requiredNewExtents extent
  let requiredPartitionGrowthBytes ←
    sectorAligned (requiredPvGrowthBytes - slack) backing.sectorSizeBytes
  guard (requiredPartitionGrowthBytes ≤ backing.adjacentPartitionFreeBytes)
  let lvPath := stack.lv.path.getD s!"/dev/{stack.lv.vgName}/{stack.lv.name}"
  let steps ← underlyingSteps stack backing lvPath requiredPartitionGrowthBytes
  pure
    { code := if 0 < requiredPartitionGrowthBytes then "grow-partition-pv-lv-filesystem"
        else "grow-pv-lv-filesystem"
      summary := if 0 < requiredPartitionGrowthBytes then
          ("verified raw capacity can be routed through partition -> PV -> VG -> LV -> " ++
            "filesystem")
        else ("the PV backing device is already larger than the PV; capacity can be routed " ++
          "through PV -> VG -> LV -> filesystem")
      target := request.target
      disk := backing.diskPath
      partition := backing.partitionPath
      physicalVolume := stack.pv.name
      volumeGroup := stack.vg.name
      logicalVolume := lvPath
      extentSizeBytes := extent
      sectorSizeBytes := backing.sectorSizeBytes
      existingVgFreeBytes := stack.vg.freeBytes
      pvDeviceSlackBytes := slack
      adjacentPartitionFreeBytes := backing.adjacentPartitionFreeBytes
      maxGrowthBytes
      requestedGrowthBytes
      requiredPartitionGrowthBytes
      steps }

/-- The steps with numbers in a row, each after the one before. -/
def numbered (operations : List (Operation × Reversibility)) : List PlanStep :=
  operations.mapIdx fun i (operation, reversibility) => step (i + 1) operation reversibility

/-- The partition's part of the route: its change, its backup and its extension. -/
def underlyingPartition (s : HostSnapshot) (route : GrowthRouteAlternative) :
    Option (Option PartitionSizeChange × List (Operation × Reversibility)) :=
  if 0 < route.requiredPartitionGrowthBytes then do
    let partition ← route.partition
    let table ← (unique (s.partitionTables.filter (·.device = route.disk))
      "partition-table-not-unique").toOption
    let label ← table.label
    let sector ← table.sectorSizeBytes
    guard (sector = route.sectorSizeBytes ∧ route.requiredPartitionGrowthBytes % sector = 0)
    let record ← (unique (table.partitions.filter (·.node = partition))
      "partition-record-not-unique").toOption
    (ensurePartitionRoleIsGrowable table record).toOption
    let growthSectors := route.requiredPartitionGrowthBytes / sector
    let newSizeSectors ← checkedAdd record.sizeSectors growthSectors
    let currentPartitionSizeBytes ← checkedMul record.sizeSectors sector
    let expectedPartitionSizeBytes ← checkedMul newSizeSectors sector
    let remainingAdjacentFreeBytes ←
      checkedSub route.adjacentPartitionFreeBytes route.requiredPartitionGrowthBytes
    pure (some
      { device := partition
        disk := route.disk
        currentPartitionSizeBytes
        requestedGrowthBytes := route.requiredPartitionGrowthBytes
        roundedGrowthBytes := route.requiredPartitionGrowthBytes
        expectedPartitionSizeBytes
        sectorSizeBytes := sector
        remainingAdjacentFreeBytes },
      [(.backupPartitionTableMetadata route.disk label table.id, .reversible),
        (.extendPartition partition record.startSector record.sizeSectors newSizeSectors sector,
          .irreversible)])
  else some (none, [])

def buildLvmUnderlyingGrowthCandidate (s : HostSnapshot) (request : ExtendRequest) :
    Option (GrowthRouteAlternative × SizeChange × Option PartitionSizeChange × List PlanStep) := do
  let route ← analyzeLvmUnderlyingGrowth s request
  let lvm ← s.lvm
  let pv ← (unique (lvm.physicalVolumes.filter (·.name = route.physicalVolume))
    "ambiguous-pv").toOption
  let vg ← (unique (lvm.volumeGroups.filter (·.name = route.volumeGroup)) "ambiguous-vg").toOption
  let lv ← (unique (lvm.logicalVolumes.filter (·.lvAlias route.logicalVolume))
    "ambiguous-lv").toOption
  let extent := route.extentSizeBytes
  guard (extent ≠ 0 ∧ route.existingVgFreeBytes % extent = 0)
  let existingFreeExtents := route.existingVgFreeBytes / extent
  let requestedExtents := divCeil route.requestedGrowthBytes extent
  let additionalPvExtents ← checkedSub requestedExtents existingFreeExtents
  guard (additionalPvExtents ≠ 0)
  let pvGrowthBytes ← checkedMul additionalPvExtents extent
  let expectedPvSizeBytes ← checkedAdd pv.sizeBytes pvGrowthBytes
  let roundedGrowthBytes ← checkedMul requestedExtents extent
  let expectedLvSizeBytes ← checkedAdd lv.sizeBytes roundedGrowthBytes
  let adapter := resolveExtendRouteAdapter s request.target
  let resolvedDevice ← adapter.resolvedDevice
  let lvDevice ← (unique ((flatten s.storage.blockDevices).filter
    (·.device.nodeAlias resolvedDevice)) "ambiguous-device").toOption
  let fs ← lvDevice.device.filesystem
  let mountpoint ← adapter.mountpoint
  let vgUuid ← vg.uuid
  let (partitionSizeChange, partitionOperations) ← underlyingPartition s route
  let pvUuid ← pv.uuid
  let lvUuid ← lv.uuid
  let size : SizeChange :=
    { device := route.logicalVolume
      currentLvSizeBytes := lv.sizeBytes
      requestedGrowthBytes := route.requestedGrowthBytes
      roundedGrowthBytes
      expectedLvSizeBytes
      extentSizeBytes := extent
      remainingVgFreeBytes := 0 }
  pure (route, size, partitionSizeChange, numbered
    ([(.revalidateSnapshot, .notApplicable), (.backupLvmMetadata vgUuid, .reversible)] ++
      partitionOperations ++
      [(.resizePhysicalVolume pvUuid expectedPvSizeBytes, .irreversible),
        (.extendLogicalVolume lvUuid requestedExtents expectedLvSizeBytes, .irreversible),
        (.growFilesystem fs.fsType (some mountpoint), .irreversible),
        (.rediscoverAndVerify, .notApplicable)]))

end UnderlyingGrowth

section FreeExtents

/-- The filesystem's mount is the one the device reports, or an ext4 is in no use. -/
def volumeMount (s : HostSnapshot) (device : BlockDevice) (lv : LvmLogicalVolume) (fsType : String) :
    Option String → Except Blocker Unit
  | some mountpoint => do
    let mount ← unique (s.mounts.filter (·.target = mountpoint)) "mount-not-unique"
    ensure (MountConfirmed device (namesVolume device lv) fsType mount ∧
        (s.mounts.filter (·.target = mount.target)).length = 1) "mount-state-mismatch"
      "one matching read-write mount must be confirmed by lsblk and findmnt"
  | none =>
    if fsType = "xfs" then
      .error (blocked "mount-required"
        "XFS target must be uniquely mounted read-write before growth")
    else ensure (device.mountpoints.isEmpty ∧
        ¬s.mounts.any fun mount => mount.source.any (namesVolume device lv)) "mount-state-mismatch"
      "offline ext4 growth requires the exact LV filesystem to be unmounted"

/-- The volume of the target, with the layout whose growth is proven. -/
def volumeTarget (s : HostSnapshot) (lvm : LvmInventory) (route : ExtendRouteAdapter) :
    Except Blocker (Node × LvmLogicalVolume) := do
  ensure (route.profile = .lvm) "route-profile-mismatch"
    "LVM builder received a non-LVM semantic route"
  let resolvedDevice ← okOr route.resolvedDevice (blocked "route-device-not-found"
    "LVM target did not resolve to one logical-volume device")
  let device ← unique ((flatten s.storage.blockDevices).filter
    (·.device.nodeAlias resolvedDevice)) "ambiguous-device"
  let lv ← unique (lvm.logicalVolumes.filter (·.lvDevice device.device)) "ambiguous-lv"
  ensure (device.device.kind = .lvm) "unsupported-layout" "target must be an LVM logical volume"
  ensure (device.device.children.isEmpty) "unsupported-layout"
    "stacked consumers above the LV are not supported"
  ensure (supportedChain s.storage.blockDevices device true) "unsupported-layout"
    "encrypted, RAID, multipath or unknown ancestor layers are not supported"
  ensure (lv.layout = some "linear" ∧ lv.role = some "public" ∧
      lv.attributes = some (expectedLvAttributes route.mountpoint)) "unsupported-lv"
    (if route.mountpoint.isSome then
      "mounted growth requires a public, linear, writable, active and open LV"
    else "offline growth requires a public, linear, writable, active and not-open LV")
  pure (device, lv)

/-- The group of the volume and its one physical volume, whose facts agree. -/
def volumeGroup (s : HostSnapshot) (lvm : LvmInventory) (device : Node) (lv : LvmLogicalVolume) :
    Except Blocker LvmVolumeGroup := do
  let vg ← unique (lvm.volumeGroups.filter (·.name = lv.vgName)) "ambiguous-vg"
  ensure (vg.attributes = some "wz--n-" ∧ vg.missingPvCount = some 0) "unsupported-vg"
    "VG must be local, writable, resizable, nonpartial and nonshared"
  ensure (vg.pvCount = 1) "multi-pv-not-supported" "M1A previews are limited to a single-PV VG"
  let pv ← unique (lvm.physicalVolumes.filter (·.vgName = some vg.name)) "ambiguous-pv"
  let pvDevice ← unique ((flatten s.storage.blockDevices).filter (·.device.nodeAlias pv.name))
    "pv-not-resolved"
  ensure (pvDevice.device.kind.isPlain ∧ containsDevice pvDevice device ∧
      pvDevice.device.filesystem.map (·.fsType) = some "LVM2_member") "pv-topology-mismatch"
    "the PV must be the verified ancestor of this LV"
  Lib.Checks.checkAll (fun id : Option String => ensure (id.any (· ≠ "")) "identity-missing"
      "PV, VG, LV and filesystem UUIDs are required")
    [pv.uuid, vg.uuid, lv.uuid, device.device.uuid]
  ensure (pvDevice.device.uuid = pv.uuid) "pv-uuid-mismatch"
    "lsblk and LVM disagree on the PV UUID"
  ensure (lv.sizeBytes = device.device.sizeBytes ∧ 0 < lv.sizeBytes ∧
      pv.sizeBytes ≤ pvDevice.device.sizeBytes ∧ vg.sizeBytes ≤ pv.sizeBytes ∧
      vg.freeBytes ≤ vg.sizeBytes ∧ pv.freeBytes = vg.freeBytes) "capacity-mismatch"
    "LVM and block-device capacities are inconsistent"
  pure vg

def volumeTools (capabilities : HostCapabilities) (fsType : String) (mountpoint : Option String) :
    Except Blocker Unit := do
  Lib.Checks.checkAll (ensureTool capabilities "a required future operation tool is unavailable")
    ["vgcfgbackup", "lvextend", growTool fsType]
  if fsType = "ext4" ∧ mountpoint = none then
    ensureTool capabilities
      "offline ext4 growth requires e2fsck for an explicit no-modify health gate" "e2fsck"
  else pure ()

/-- How far the volume grows into the free extents: the extents and the change announced. -/
def growVolume (device : BlockDevice) (lv : LvmLogicalVolume) (vg : LvmVolumeGroup)
    (growth : Growth) : Except Blocker (Nat × SizeChange) := do
  let extent ← okOr vg.extentSizeBytes (blocked "extent-missing" "VG extent size is unknown")
  let freeExtents ← okOr vg.freeExtentCount
    (blocked "extent-missing" "free extent count is unknown")
  ensure (512 ≤ extent ∧ isPowerOfTwo extent) "invalid-extent" "invalid VG extent size"
  ensure (checkedMul freeExtents extent = some vg.freeBytes ∧ vg.sizeBytes % extent = 0 ∧
      lv.sizeBytes % extent = 0) "extent-mismatch"
    "reported bytes and extent counts do not agree"
  let requested := match growth with
    | .byBytes bytes => bytes
    | .maxFree => vg.freeBytes
  ensure (0 < requested) "no-growth" "requested growth or existing VG free capacity is zero"
  let extents := divCeil requested extent
  ensure (extents ≤ freeExtents) "insufficient-capacity"
    ("extent-rounded request exceeds existing VG free space; partition/PV resize is not " ++
      "attempted")
  let rounded ← okOr (checkedMul extents extent) (blocked "size-overflow" "growth exceeds u64")
  let newSize ← okOr (checkedAdd lv.sizeBytes rounded)
    (blocked "size-overflow" "new LV size exceeds u64")
  pure (extents,
    { device := device.devicePath
      currentLvSizeBytes := lv.sizeBytes
      requestedGrowthBytes := requested
      roundedGrowthBytes := rounded
      expectedLvSizeBytes := newSize
      extentSizeBytes := extent
      remainingVgFreeBytes := vg.freeBytes - rounded })

def buildCandidate (s : HostSnapshot) (capabilities : HostCapabilities)
    (request : ExtendRequest) : Except Blocker (SizeChange × List PlanStep) := do
  collectorsComplete s lvmCollectors
    "all six collectors must complete for the initial preview profile"
  ensure (¬hasErrorDiagnostic s) "diagnostic-error"
    "the snapshot contains error-level diagnostics"
  ensure (¬invalidTarget request.target) "invalid-target"
    "target must be a nonempty device path or exact mountpoint"
  let lvm ← okOr s.lvm (blocked "lvm-missing" "LVM inventory is absent")
  let route := resolveExtendRouteAdapter s request.target
  let (device, lv) ← volumeTarget s lvm route
  let vg ← volumeGroup s lvm device lv
  let fs ← okOr device.device.filesystem
    (blocked "filesystem-missing" "filesystem type is absent")
  ensure (fs.fsType = "ext4" ∨ fs.fsType = "xfs") "unsupported-filesystem"
    "filesystem is unsupported; only ext4 and XFS previews are supported"
  volumeMount s device.device lv fs.fsType route.mountpoint
  ensure (¬s.swaps.any fun swap => namesVolume device.device lv swap.name) "active-swap"
    "the target is reported as active swap"
  volumeTools capabilities fs.fsType route.mountpoint
  let (extents, size) ← growVolume device.device lv vg request.growth
  pure (size,
    [step 1 .revalidateSnapshot .notApplicable,
      step 2 (.backupLvmMetadata (vg.uuid.getD "")) .reversible,
      step 3 (.extendLogicalVolume (lv.uuid.getD "") extents size.expectedLvSizeBytes)
        .irreversible,
      step 4 (.growFilesystem fs.fsType route.mountpoint) .irreversible,
      step 5 .rediscoverAndVerify .notApplicable])

end FreeExtents

end StorageManager.Planner.Extend
