import StorageManager.Core.HostSnapshot
import StorageManager.Fingerprint

/-!
# Target identities

The manifest that identifies one growth target: the chain of its block devices, the
geometry of its partitions, its LVM objects, its filesystem and its mounts.
-/

namespace StorageManager.Planner

open Core
open Lib.Json (Value ToJson toJson)

set_option autoImplicit false

inductive LayerRouteStatus where
  | supportedProfile
  | adapterRequired
  | blocked
  deriving DecidableEq

structure DeviceIdentity where
  kind : NodeKind
  path : String
  kernelName : Option String
  parentKernelName : Option String
  sizeBytes : Nat
  start512Sector : Option Nat
  logicalSectorBytes : Option Nat
  uuid : Option String
  partitionUuid : Option String
  model : Option String
  serial : Option String
  filesystemType : Option String
  deriving DecidableEq

structure PartitionGeometryIdentity where
  partition : String
  disk : Option String
  tableLabel : Option String
  tableId : Option String
  sectorSizeBytes : Option Nat
  startSector : Option Nat
  sizeSectors : Option Nat
  recordUuid : Option String
  deriving DecidableEq

inductive LvmIdentityKind where
  | physicalVolume
  | volumeGroup
  | logicalVolume
  deriving DecidableEq

structure LvmIdentity where
  kind : LvmIdentityKind
  name : String
  uuid : Option String
  sizeBytes : Nat
  freeBytes : Option Nat
  peStartBytes : Option Nat
  extentSizeBytes : Option Nat
  freeExtentCount : Option Nat
  pvCount : Option Nat
  lvCount : Option Nat
  attributes : Option String
  layout : Option String
  role : Option String
  deriving DecidableEq

structure FilesystemIdentity where
  device : String
  fsType : String
  fsVersion : Option String
  uuid : Option String
  backingDeviceSizeBytes : Nat
  observedFilesystemSizeBytes : Option Nat
  deriving DecidableEq

structure MountIdentity where
  target : String
  source : Option String
  fsType : Option String
  options : List String
  deriving DecidableEq

structure TargetIdentityManifest where
  schemaVersion : Nat
  target : String
  manifestDigest : String
  resolvedDevice : String
  routeStatus : LayerRouteStatus
  routeIssueCodes : List String
  devices : List DeviceIdentity
  partitions : List PartitionGeometryIdentity
  lvm : List LvmIdentity
  filesystem : Option FilesystemIdentity
  mounts : List MountIdentity
  deriving DecidableEq

section Serialization

instance : ToJson LayerRouteStatus where
  toJson
    | .supportedProfile => .str "supported_profile"
    | .adapterRequired => .str "adapter_required"
    | .blocked => .str "blocked"

instance : ToJson NodeKind where
  toJson
    | .disk => .str "disk"
    | .partition => .str "partition"
    | .lvm => .str "lvm"
    | .crypt => .str "crypt"
    | .raid => .str "raid"
    | .multipath => .str "multipath"
    | .loop => .str "loop"
    | .rom => .str "rom"
    | .zram => .str "zram"
    | .unknown => .str "unknown"

instance : ToJson DeviceIdentity where
  toJson d := .obj [("kind", toJson d.kind), ("path", toJson d.path),
    ("kernel_name", toJson d.kernelName), ("parent_kernel_name", toJson d.parentKernelName),
    ("size_bytes", toJson d.sizeBytes), ("start_512_sector", toJson d.start512Sector),
    ("logical_sector_bytes", toJson d.logicalSectorBytes), ("uuid", toJson d.uuid),
    ("partition_uuid", toJson d.partitionUuid), ("model", toJson d.model),
    ("serial", toJson d.serial), ("filesystem_type", toJson d.filesystemType)]

instance : ToJson PartitionGeometryIdentity where
  toJson p := .obj [("partition", toJson p.partition), ("disk", toJson p.disk),
    ("table_label", toJson p.tableLabel), ("table_id", toJson p.tableId),
    ("sector_size_bytes", toJson p.sectorSizeBytes), ("start_sector", toJson p.startSector),
    ("size_sectors", toJson p.sizeSectors), ("record_uuid", toJson p.recordUuid)]

instance : ToJson LvmIdentityKind where
  toJson
    | .physicalVolume => .str "physical_volume"
    | .volumeGroup => .str "volume_group"
    | .logicalVolume => .str "logical_volume"

instance : ToJson LvmIdentity where
  toJson l := .obj [("kind", toJson l.kind), ("name", toJson l.name), ("uuid", toJson l.uuid),
    ("size_bytes", toJson l.sizeBytes), ("free_bytes", toJson l.freeBytes),
    ("pe_start_bytes", toJson l.peStartBytes), ("extent_size_bytes", toJson l.extentSizeBytes),
    ("free_extent_count", toJson l.freeExtentCount), ("pv_count", toJson l.pvCount),
    ("lv_count", toJson l.lvCount), ("attributes", toJson l.attributes),
    ("layout", toJson l.layout), ("role", toJson l.role)]

instance : ToJson FilesystemIdentity where
  toJson f := .obj [("device", toJson f.device), ("fs_type", toJson f.fsType),
    ("fs_version", toJson f.fsVersion), ("uuid", toJson f.uuid),
    ("backing_device_size_bytes", toJson f.backingDeviceSizeBytes),
    ("observed_filesystem_size_bytes", toJson f.observedFilesystemSizeBytes)]

instance : ToJson MountIdentity where
  toJson m := .obj [("target", toJson m.target), ("source", toJson m.source),
    ("fs_type", toJson m.fsType), ("options", toJson m.options)]

instance : ToJson TargetIdentityManifest where
  toJson m := .obj [("schema_version", toJson m.schemaVersion), ("target", toJson m.target),
    ("manifest_digest", toJson m.manifestDigest), ("resolved_device", toJson m.resolvedDevice),
    ("route_status", toJson m.routeStatus), ("route_issue_codes", toJson m.routeIssueCodes),
    ("devices", toJson m.devices), ("partitions", toJson m.partitions), ("lvm", toJson m.lvm),
    ("filesystem", toJson m.filesystem), ("mounts", toJson m.mounts)]

end Serialization

end StorageManager.Planner
