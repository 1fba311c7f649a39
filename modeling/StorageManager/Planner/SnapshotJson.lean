import StorageManager.Core.DeviceTree
import StorageManager.Planner.FilesystemDecision
import StorageManager.Planner.TargetIdentity

/-!
# The serialized snapshot

How a snapshot and the capabilities of its host are written out, as plans are bound to
the digest of both.
-/

namespace StorageManager.Planner

open Core
open Lib.Json (Value ToJson toJson)

set_option autoImplicit false

instance : ToJson ToolCapability where
  toJson t := .obj [("name", toJson t.name), ("available", toJson t.available)]

instance : ToJson HostCapabilities where
  toJson c := .obj [("tools", toJson c.tools)]

instance : ToJson Filesystem where
  toJson f := .obj [("fs_type", toJson f.fsType), ("version", toJson f.version)]

def deviceValue (_ : List Nat) (d : BlockDevice) (children : List Value) : Value :=
  .obj [("name", toJson d.name), ("kernel_name", toJson d.kernelName), ("path", toJson d.path),
    ("kind", toJson d.kind), ("size_bytes", toJson d.sizeBytes),
    ("start_512_sector", toJson d.start512Sector),
    ("logical_sector_bytes", toJson d.logicalSectorBytes), ("filesystem", toJson d.filesystem),
    ("mountpoints", toJson d.mountpoints), ("parent_kernel_name", toJson d.parentKernelName),
    ("model", toJson d.model), ("serial", toJson d.serial), ("uuid", toJson d.uuid),
    ("partition_uuid", toJson d.partitionUuid), ("partition_table", toJson d.partitionTable),
    ("children", .arr children)]

instance : ToJson BlockDevice := ⟨fun d => d.foldAt deviceValue []⟩

instance : ToJson StorageGraph where
  toJson g := .obj [("block_devices", toJson g.blockDevices)]

instance : ToJson MountEntry where
  toJson m := .obj [("source", toJson m.source), ("target", toJson m.target),
    ("fs_type", toJson m.fsType), ("options", toJson m.options)]

instance : ToJson FstabEntry where
  toJson e := .obj [("source", toJson e.source), ("target", toJson e.target),
    ("fs_type", toJson e.fsType), ("options", toJson e.options), ("dump", toJson e.dump),
    ("pass", toJson e.pass)]

instance : ToJson SwapEntry where
  toJson e := .obj [("name", toJson e.name), ("kind", toJson e.kind),
    ("size_bytes", toJson e.sizeBytes), ("used_bytes", toJson e.usedBytes),
    ("priority", toJson e.priority)]

instance : ToJson PartitionRecord where
  toJson r := .obj [("node", toJson r.node), ("start_sector", toJson r.startSector),
    ("size_sectors", toJson r.sizeSectors), ("partition_type", toJson r.partitionType),
    ("uuid", toJson r.uuid), ("name", toJson r.name), ("attrs", toJson r.attrs),
    ("bootable", toJson r.bootable)]

instance : ToJson PartitionTable where
  toJson t := .obj [("device", toJson t.device), ("label", toJson t.label), ("id", toJson t.id),
    ("unit", toJson t.unit), ("first_lba", toJson t.firstLba), ("last_lba", toJson t.lastLba),
    ("sector_size_bytes", toJson t.sectorSizeBytes), ("partitions", toJson t.partitions)]

instance : ToJson LvmPhysicalVolume where
  toJson p := .obj [("name", toJson p.name), ("uuid", toJson p.uuid),
    ("vg_name", toJson p.vgName), ("size_bytes", toJson p.sizeBytes),
    ("free_bytes", toJson p.freeBytes), ("pe_start_bytes", toJson p.peStartBytes)]

instance : ToJson LvmVolumeGroup where
  toJson v := .obj [("name", toJson v.name), ("uuid", toJson v.uuid),
    ("size_bytes", toJson v.sizeBytes), ("free_bytes", toJson v.freeBytes),
    ("pv_count", toJson v.pvCount), ("lv_count", toJson v.lvCount),
    ("extent_size_bytes", toJson v.extentSizeBytes),
    ("free_extent_count", toJson v.freeExtentCount),
    ("missing_pv_count", toJson v.missingPvCount), ("attributes", toJson v.attributes)]

instance : ToJson LvmLogicalVolume where
  toJson v := .obj [("name", toJson v.name), ("path", toJson v.path), ("uuid", toJson v.uuid),
    ("vg_name", toJson v.vgName), ("size_bytes", toJson v.sizeBytes),
    ("attributes", toJson v.attributes), ("layout", toJson v.layout), ("role", toJson v.role)]

instance : ToJson LvmInventory where
  toJson i := .obj [("physical_volumes", toJson i.physicalVolumes),
    ("volume_groups", toJson i.volumeGroups), ("logical_volumes", toJson i.logicalVolumes)]

instance : ToJson FilesystemPreflightEvidence where
  toJson e := .obj [("device", toJson e.device), ("mountpoint", toJson e.mountpoint),
    ("fs_type", toJson e.fsType), ("fs_version", toJson e.fsVersion), ("state", toJson e.state),
    ("filesystem_state", toJson e.filesystemState), ("revision", toJson e.revision),
    ("features", toJson e.features), ("block_size_bytes", toJson e.blockSizeBytes),
    ("block_count", toJson e.blockCount), ("size_bytes", toJson e.sizeBytes),
    ("grow_check_passed", toJson e.growCheckPassed), ("detail", toJson e.detail)]

instance : ToJson DiagnosticSeverity where
  toJson
    | .info => .str "info"
    | .warning => .str "warning"
    | .error => .str "error"

instance : ToJson StorageDiagnostic where
  toJson d := .obj [("code", toJson d.code), ("severity", toJson d.severity),
    ("message", toJson d.message), ("device", toJson d.device)]

instance : ToJson CollectorState where
  toJson
    | .complete => .str "complete"
    | .unavailable => .str "unavailable"
    | .failed => .str "failed"

instance : ToJson CollectorStatus where
  toJson s := .obj [("component", toJson s.component), ("state", toJson s.state),
    ("detail", toJson s.detail)]

instance : ToJson HostSnapshot where
  toJson s := .obj [("storage", toJson s.storage), ("partition_tables", toJson s.partitionTables),
    ("mounts", toJson s.mounts), ("fstab", toJson s.fstab), ("swaps", toJson s.swaps),
    ("lvm", toJson s.lvm), ("filesystem_preflight", toJson s.filesystemPreflight),
    ("diagnostics", toJson s.diagnostics), ("collectors", toJson s.collectors)]

end StorageManager.Planner
