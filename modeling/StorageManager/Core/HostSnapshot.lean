import Mathlib.Data.Nat.Notation

/-!
# The observed host

What one read-only discovery reports: block devices with their nested children,
partition tables, mounts, fstab, swaps, and the state of each collector.
-/

namespace StorageManager.Core

set_option autoImplicit false

inductive NodeKind where
  | disk
  | partition
  | lvm
  | crypt
  | raid
  | multipath
  | loop
  | rom
  | zram
  | unknown
  deriving DecidableEq

structure Filesystem where
  fsType : String
  version : Option String
  deriving DecidableEq

structure BlockDevice where
  name : String
  kernelName : Option String
  path : Option String
  kind : NodeKind
  sizeBytes : Nat
  start512Sector : Option Nat
  logicalSectorBytes : Option Nat
  filesystem : Option Filesystem
  mountpoints : List String
  parentKernelName : Option String
  model : Option String
  serial : Option String
  uuid : Option String
  partitionUuid : Option String
  partitionTable : Option String
  children : List BlockDevice

structure StorageGraph where
  blockDevices : List BlockDevice

structure ToolCapability where
  name : String
  available : Bool
  deriving DecidableEq

structure HostCapabilities where
  tools : List ToolCapability
  deriving DecidableEq

structure MountEntry where
  source : Option String
  target : String
  fsType : Option String
  options : List String
  deriving DecidableEq

structure FstabEntry where
  source : String
  target : String
  fsType : String
  options : List String
  dump : Nat
  pass : Nat
  deriving DecidableEq

structure SwapEntry where
  name : String
  kind : String
  sizeBytes : Nat
  usedBytes : Nat
  priority : Int
  deriving DecidableEq

structure PartitionRecord where
  node : String
  startSector : Nat
  sizeSectors : Nat
  partitionType : Option String
  uuid : Option String
  name : Option String
  attrs : Option String
  bootable : Option Bool
  deriving DecidableEq

structure PartitionTable where
  device : String
  label : Option String
  id : Option String
  unit : Option String
  firstLba : Option Nat
  lastLba : Option Nat
  sectorSizeBytes : Option Nat
  partitions : List PartitionRecord
  deriving DecidableEq

structure LvmPhysicalVolume where
  name : String
  uuid : Option String
  vgName : Option String
  sizeBytes : Nat
  freeBytes : Nat
  peStartBytes : Option Nat
  deriving DecidableEq

structure LvmVolumeGroup where
  name : String
  uuid : Option String
  sizeBytes : Nat
  freeBytes : Nat
  pvCount : Nat
  lvCount : Nat
  extentSizeBytes : Option Nat
  freeExtentCount : Option Nat
  missingPvCount : Option Nat
  attributes : Option String
  deriving DecidableEq

structure LvmLogicalVolume where
  name : String
  path : Option String
  uuid : Option String
  vgName : String
  sizeBytes : Nat
  attributes : Option String
  layout : Option String
  role : Option String
  deriving DecidableEq

structure LvmInventory where
  physicalVolumes : List LvmPhysicalVolume
  volumeGroups : List LvmVolumeGroup
  logicalVolumes : List LvmLogicalVolume
  deriving DecidableEq

inductive FilesystemProbeState where
  | verified
  | partiallyRead
  | unavailable
  | failed
  deriving DecidableEq

structure FilesystemPreflightEvidence where
  device : String
  mountpoint : Option String
  fsType : String
  fsVersion : Option String
  state : FilesystemProbeState
  filesystemState : Option String
  revision : Option String
  features : List String
  blockSizeBytes : Option Nat
  blockCount : Option Nat
  sizeBytes : Option Nat
  growCheckPassed : Option Bool
  detail : Option String
  deriving DecidableEq

inductive DiagnosticSeverity where
  | info
  | warning
  | error
  deriving DecidableEq

structure StorageDiagnostic where
  code : String
  severity : DiagnosticSeverity
  message : String
  device : Option String
  deriving DecidableEq

inductive CollectorState where
  | complete
  | unavailable
  | failed
  deriving DecidableEq

structure CollectorStatus where
  component : String
  state : CollectorState
  detail : Option String
  deriving DecidableEq

structure HostSnapshot where
  storage : StorageGraph
  partitionTables : List PartitionTable
  mounts : List MountEntry
  fstab : List FstabEntry
  swaps : List SwapEntry
  collectors : List CollectorStatus
  lvm : Option LvmInventory := none
  filesystemPreflight : List FilesystemPreflightEvidence := []
  diagnostics : List StorageDiagnostic := []

structure HibernationResumeEvidence where
  kernelResumeTargets : List String
  kernelResumeOffsets : List Nat
  sysfsResume : Option String
  sysfsResumeOffset : Option Nat
  deriving DecidableEq

def HibernationResumeEvidence.configured (e : HibernationResumeEvidence) : Bool :=
  !e.kernelResumeTargets.isEmpty || !e.kernelResumeOffsets.isEmpty || e.sysfsResume.isSome ||
    e.sysfsResumeOffset.isSome

structure FilesystemSpaceEvidence where
  path : String
  blockSizeBytes : Nat
  totalBytes : Nat
  availableBytes : Nat
  deriving DecidableEq

/-- What a look at a path without following links reports; the swap code reads whether
it exists. -/
structure PathOccupancyEvidence where
  path : String
  present : Bool
  deriving DecidableEq

end StorageManager.Core
