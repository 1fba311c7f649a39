import StorageManager.Planner.RouteGraph

/-!
# Capturing an identity

A manifest records one target as one snapshot shows it: the devices from the root of its
tree, where the partitions among them lie, the LVM objects they carry, the filesystem and
its mounts. Its digest stands for all of it.
-/

namespace StorageManager.Planner

open Core
open Lib.Checks (okOr)
open Lib.Json (toJson)

set_option autoImplicit false

inductive IdentityGuardError where
  | unresolvedTarget
  | resolvedDeviceMissing
  deriving DecidableEq

section Partitions

/-- The tables that list a partition of this name, each with its first record of it. -/
def listings (s : HostSnapshot) (partition : String) : List (PartitionTable × PartitionRecord) :=
  s.partitionTables.filterMap fun table =>
    (table.partitions.find? (·.node = partition)).map (table, ·)

/-- What no table and what more than one table lists is told by the device itself. -/
def partitionIdentity (s : HostSnapshot) (device : BlockDevice) : PartitionGeometryIdentity :=
  match listings s device.devicePath with
  | [] =>
    { partition := device.devicePath
      disk := device.parentKernelName.map fun parent => s!"/dev/{parent}"
      tableLabel := device.partitionTable
      tableId := none
      sectorSizeBytes := device.logicalSectorBytes
      startSector := device.start512Sector
      sizeSectors := none
      recordUuid := device.partitionUuid }
  | [(table, record)] =>
    { partition := device.devicePath
      disk := some table.device
      tableLabel := table.label
      tableId := table.id
      sectorSizeBytes := table.sectorSizeBytes
      startSector := some record.startSector
      sizeSectors := some record.sizeSectors
      recordUuid := record.uuid.or device.partitionUuid }
  | _ =>
    { partition := device.devicePath
      disk := none
      tableLabel := none
      tableId := none
      sectorSizeBytes := none
      startSector := none
      sizeSectors := none
      recordUuid := device.partitionUuid }

end Partitions

section Lvm

def pvIdentity (pv : LvmPhysicalVolume) : LvmIdentity where
  kind := .physicalVolume
  name := pv.name
  uuid := pv.uuid
  sizeBytes := pv.sizeBytes
  freeBytes := some pv.freeBytes
  peStartBytes := pv.peStartBytes
  extentSizeBytes := none
  freeExtentCount := none
  pvCount := none
  lvCount := none
  attributes := none
  layout := none
  role := none

def lvIdentity (lv : LvmLogicalVolume) : LvmIdentity where
  kind := .logicalVolume
  name := lv.path.getD s!"/dev/{lv.vgName}/{lv.name}"
  uuid := lv.uuid
  sizeBytes := lv.sizeBytes
  freeBytes := none
  peStartBytes := none
  extentSizeBytes := none
  freeExtentCount := none
  pvCount := none
  lvCount := none
  attributes := lv.attributes
  layout := lv.layout
  role := lv.role

def vgIdentity (vg : LvmVolumeGroup) : LvmIdentity where
  kind := .volumeGroup
  name := vg.name
  uuid := vg.uuid
  sizeBytes := vg.sizeBytes
  freeBytes := some vg.freeBytes
  peStartBytes := none
  extentSizeBytes := vg.extentSizeBytes
  freeExtentCount := vg.freeExtentCount
  pvCount := some vg.pvCount
  lvCount := some vg.lvCount
  attributes := vg.attributes
  layout := none
  role := none

/-- The physical volumes on a device. -/
def volumesOn (lvm : LvmInventory) (device : BlockDevice) : List LvmPhysicalVolume :=
  if isLvmMember device then lvm.physicalVolumes.filter fun pv => device.nodeAlias pv.name else []

/-- The logical volumes a device is. -/
def volumesOf (lvm : LvmInventory) (device : BlockDevice) : List LvmLogicalVolume :=
  if device.kind = .lvm then lvm.logicalVolumes.filter (·.lvDevice device) else []

/-- The groups that the volumes of one device name. -/
def groupNames (lvm : LvmInventory) (device : BlockDevice) : List String :=
  (volumesOn lvm device).filterMap (·.vgName) ++ (volumesOf lvm device).map (·.vgName)

/-- The volumes along a path, then every record of each group they name. -/
def collectLvmIdentity (s : HostSnapshot) (path : List BlockDevice) : List LvmIdentity :=
  s.lvm.elim [] fun lvm =>
    (path.flatMap fun device => (volumesOn lvm device).map pvIdentity ++
      (volumesOf lvm device).map lvIdentity) ++
    (path.flatMap (groupNames lvm)).eraseDups.flatMap fun vgName =>
      (lvm.volumeGroups.filter (·.name = vgName)).map vgIdentity

/-- The name `Debug` prints for a kind. -/
def LvmIdentityKind.debugText : LvmIdentityKind → String
  | .physicalVolume => "PhysicalVolume"
  | .volumeGroup => "VolumeGroup"
  | .logicalVolume => "LogicalVolume"

def LvmIdentity.before (a b : LvmIdentity) : Bool :=
  decide (a.kind.debugText < b.kind.debugText) ||
    (a.kind.debugText == b.kind.debugText && decide (a.name ≤ b.name))

end Lvm

section Usage

/-- The evidence of a filesystem's size, where only one record tells of it. -/
def observedSize (s : HostSnapshot) (mountpoint : Option String) (path fsType : String) :
    Option Nat :=
  match s.filesystemPreflight.filter (fun evidence => evidence.device = path &&
    evidence.fsType = fsType && mountpoint.all (evidence.mountpoint = some ·)) with
  | [evidence] => evidence.sizeBytes
  | _ => none

def filesystemIdentity (s : HostSnapshot) (mountpoint : Option String) (device : BlockDevice) :
    Option FilesystemIdentity :=
  device.filesystem.bind fun filesystem =>
    if filesystem.fsType = "LVM2_member" ∨ filesystem.fsType = "swap" then none
    else some
      { device := device.devicePath
        fsType := filesystem.fsType
        fsVersion := filesystem.version
        uuid := device.uuid
        backingDeviceSizeBytes := device.sizeBytes
        observedFilesystemSizeBytes := observedSize s mountpoint device.devicePath
          filesystem.fsType }

def mountIdentity (mount : MountEntry) : MountIdentity where
  target := mount.target
  source := mount.source
  fsType := mount.fsType
  options := mount.options.mergeSort fun a b => decide (a ≤ b)

/-- By target, then by source, with no source first. -/
def MountIdentity.before (a b : MountIdentity) : Bool :=
  decide (a.target < b.target) || (a.target == b.target &&
    a.source.all fun source => b.source.any fun other => decide (source ≤ other))

def mountIdentities (s : HostSnapshot) (mountpoint : Option String) (device : BlockDevice) :
    List MountIdentity :=
  ((s.mounts.filter fun mount => mountpoint.any (mount.target = ·) ||
    mount.source.any (mountedFrom s device)).map mountIdentity).mergeSort
      MountIdentity.before

end Usage

def deviceIdentity (device : BlockDevice) : DeviceIdentity where
  kind := device.kind
  path := device.devicePath
  kernelName := device.kernelName
  parentKernelName := device.parentKernelName
  sizeBytes := device.sizeBytes
  start512Sector := device.start512Sector
  logicalSectorBytes := device.logicalSectorBytes
  uuid := device.uuid
  partitionUuid := device.partitionUuid
  model := device.model
  serial := device.serial
  filesystemType := device.filesystem.map (·.fsType)

/-- The first device of the graph that this path names, and the devices above it. -/
def pathTo (s : HostSnapshot) (resolvedDevice : String) : Option (Node × List BlockDevice) := do
  let node ← (flatten s.storage.blockDevices).find? (·.device.devicePath = resolvedDevice)
  let path ← findPath s.storage.blockDevices node
  some (node, path)

variable [Fingerprint]

def sealIdentity (manifest : TargetIdentityManifest) : TargetIdentityManifest :=
  { manifest with manifestDigest := fingerprint (toJson { manifest with manifestDigest := "" }) }

def captureTargetIdentity (s : HostSnapshot) (target : String) :
    Except IdentityGuardError TargetIdentityManifest := do
  let route := analyzeLayerRoute s target
  let resolvedDevice ← okOr route.resolvedDevice .unresolvedTarget
  let (node, path) ← okOr (pathTo s resolvedDevice) .resolvedDeviceMissing
  pure (sealIdentity
    { schemaVersion := 1
      target
      manifestDigest := ""
      resolvedDevice
      routeStatus := route.status
      routeIssueCodes := (route.issues.map (·.code)).mergeSort fun a b => decide (a ≤ b)
      devices := path.map deviceIdentity
      partitions := ((path.filter (·.kind = .partition)).map (partitionIdentity s)).mergeSort
        fun a b => decide (a.partition ≤ b.partition)
      lvm := (collectLvmIdentity s path).mergeSort LvmIdentity.before
      filesystem := filesystemIdentity s route.mountpoint node.device
      mounts := mountIdentities s route.mountpoint node.device })

end StorageManager.Planner
