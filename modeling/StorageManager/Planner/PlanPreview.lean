import StorageManager.Lib.Checks
import StorageManager.Planner.PlanStep
import StorageManager.Planner.RouteGraph
import StorageManager.Planner.SnapshotJson

/-!
# Plan previews

The request to extend one target and the preview that answers it: what would grow by how
much, in which steps, after which checks, or what stands in the way.
-/

namespace StorageManager.Planner.Extend

open Core
open Lib.Checks (refuse)
open Lib.Json (Value ToJson toJson)

set_option autoImplicit false

inductive Growth where
  | byBytes (bytes : Nat)
  | maxFree
  deriving DecidableEq

structure ExtendRequest where
  target : String
  growth : Growth
  deriving DecidableEq

inductive PlanStatus where
  | preview
  | blocked
  deriving DecidableEq

inductive PreflightState where
  | verified
  | required
  deriving DecidableEq

structure PreflightCheck where
  code : String
  state : PreflightState
  message : String
  deriving DecidableEq

structure Blocker where
  code : String
  message : String
  deriving DecidableEq

structure SizeChange where
  device : String
  currentLvSizeBytes : Nat
  requestedGrowthBytes : Nat
  roundedGrowthBytes : Nat
  expectedLvSizeBytes : Nat
  extentSizeBytes : Nat
  remainingVgFreeBytes : Nat
  deriving DecidableEq

structure PartitionSizeChange where
  device : String
  disk : String
  currentPartitionSizeBytes : Nat
  requestedGrowthBytes : Nat
  roundedGrowthBytes : Nat
  expectedPartitionSizeBytes : Nat
  sectorSizeBytes : Nat
  remainingAdjacentFreeBytes : Nat
  deriving DecidableEq

structure FilesystemSizeChange where
  device : String
  mountpoint : String
  fsType : String
  currentFilesystemSizeBytes : Nat
  backingDeviceSizeBytes : Nat
  requestedGrowthBytes : Nat
  roundedGrowthBytes : Nat
  expectedFilesystemSizeBytes : Nat
  filesystemBlockSizeBytes : Nat
  remainingBackingFreeBytes : Nat
  deriving DecidableEq

structure LayoutAlternative where
  code : String
  summary : String
  disk : String
  target : String
  requestedGrowthBytes : Nat
  diskTailFreeBytes : Nat
  swapBytes : Nat
  requiredPartitionGrowthBytes : Nat
  remainingRawTailBytes : Nat
  blockingDevices : List String
  steps : List String
  deriving DecidableEq

structure GrowthRouteAlternative where
  code : String
  summary : String
  target : String
  disk : String
  partition : Option String
  physicalVolume : String
  volumeGroup : String
  logicalVolume : String
  extentSizeBytes : Nat
  sectorSizeBytes : Nat
  existingVgFreeBytes : Nat
  pvDeviceSlackBytes : Nat
  adjacentPartitionFreeBytes : Nat
  maxGrowthBytes : Nat
  requestedGrowthBytes : Nat
  requiredPartitionGrowthBytes : Nat
  steps : List String
  deriving DecidableEq

structure PlanPreview where
  schemaVersion : Nat
  planId : String
  snapshotDigest : String
  dryRun : Bool
  executable : Bool
  status : PlanStatus
  request : ExtendRequest
  sizeChange : Option SizeChange
  partitionSizeChange : Option PartitionSizeChange
  filesystemSizeChange : Option FilesystemSizeChange
  layoutAlternatives : List LayoutAlternative
  growthRouteAlternatives : List GrowthRouteAlternative
  blockers : List Blocker
  preflightChecks : List PreflightCheck
  steps : List PlanStep
  notices : List String
  deriving DecidableEq

section Serialization

instance : ToJson Growth where
  toJson
    | .byBytes bytes => .obj [("by_bytes", toJson bytes)]
    | .maxFree => .str "max_free"

instance : ToJson ExtendRequest where
  toJson r := .obj [("target", toJson r.target), ("growth", toJson r.growth)]

instance : ToJson PlanStatus where
  toJson
    | .preview => .str "preview"
    | .blocked => .str "blocked"

instance : ToJson PreflightState where
  toJson
    | .verified => .str "verified"
    | .required => .str "required"

instance : ToJson PreflightCheck where
  toJson c := .obj [("code", toJson c.code), ("state", toJson c.state),
    ("message", toJson c.message)]

instance : ToJson Blocker where
  toJson b := .obj [("code", toJson b.code), ("message", toJson b.message)]

instance : ToJson SizeChange where
  toJson c := .obj [("device", toJson c.device),
    ("current_lv_size_bytes", toJson c.currentLvSizeBytes),
    ("requested_growth_bytes", toJson c.requestedGrowthBytes),
    ("rounded_growth_bytes", toJson c.roundedGrowthBytes),
    ("expected_lv_size_bytes", toJson c.expectedLvSizeBytes),
    ("extent_size_bytes", toJson c.extentSizeBytes),
    ("remaining_vg_free_bytes", toJson c.remainingVgFreeBytes)]

instance : ToJson PartitionSizeChange where
  toJson c := .obj [("device", toJson c.device), ("disk", toJson c.disk),
    ("current_partition_size_bytes", toJson c.currentPartitionSizeBytes),
    ("requested_growth_bytes", toJson c.requestedGrowthBytes),
    ("rounded_growth_bytes", toJson c.roundedGrowthBytes),
    ("expected_partition_size_bytes", toJson c.expectedPartitionSizeBytes),
    ("sector_size_bytes", toJson c.sectorSizeBytes),
    ("remaining_adjacent_free_bytes", toJson c.remainingAdjacentFreeBytes)]

instance : ToJson FilesystemSizeChange where
  toJson c := .obj [("device", toJson c.device), ("mountpoint", toJson c.mountpoint),
    ("fs_type", toJson c.fsType),
    ("current_filesystem_size_bytes", toJson c.currentFilesystemSizeBytes),
    ("backing_device_size_bytes", toJson c.backingDeviceSizeBytes),
    ("requested_growth_bytes", toJson c.requestedGrowthBytes),
    ("rounded_growth_bytes", toJson c.roundedGrowthBytes),
    ("expected_filesystem_size_bytes", toJson c.expectedFilesystemSizeBytes),
    ("filesystem_block_size_bytes", toJson c.filesystemBlockSizeBytes),
    ("remaining_backing_free_bytes", toJson c.remainingBackingFreeBytes)]

instance : ToJson LayoutAlternative where
  toJson a := .obj [("code", toJson a.code), ("summary", toJson a.summary),
    ("disk", toJson a.disk), ("target", toJson a.target),
    ("requested_growth_bytes", toJson a.requestedGrowthBytes),
    ("disk_tail_free_bytes", toJson a.diskTailFreeBytes), ("swap_bytes", toJson a.swapBytes),
    ("required_partition_growth_bytes", toJson a.requiredPartitionGrowthBytes),
    ("remaining_raw_tail_bytes", toJson a.remainingRawTailBytes),
    ("blocking_devices", toJson a.blockingDevices), ("steps", toJson a.steps)]

instance : ToJson GrowthRouteAlternative where
  toJson a := .obj [("code", toJson a.code), ("summary", toJson a.summary),
    ("target", toJson a.target), ("disk", toJson a.disk), ("partition", toJson a.partition),
    ("physical_volume", toJson a.physicalVolume), ("volume_group", toJson a.volumeGroup),
    ("logical_volume", toJson a.logicalVolume), ("extent_size_bytes", toJson a.extentSizeBytes),
    ("sector_size_bytes", toJson a.sectorSizeBytes),
    ("existing_vg_free_bytes", toJson a.existingVgFreeBytes),
    ("pv_device_slack_bytes", toJson a.pvDeviceSlackBytes),
    ("adjacent_partition_free_bytes", toJson a.adjacentPartitionFreeBytes),
    ("max_growth_bytes", toJson a.maxGrowthBytes),
    ("requested_growth_bytes", toJson a.requestedGrowthBytes),
    ("required_partition_growth_bytes", toJson a.requiredPartitionGrowthBytes),
    ("steps", toJson a.steps)]

/-- An operation is written with its own name among its fields. -/
instance : ToJson Operation where
  toJson
    | .revalidateSnapshot => .obj [("operation", .str "revalidate_snapshot")]
    | .backupLvmMetadata vgUuid =>
      .obj [("operation", .str "backup_lvm_metadata"), ("vg_uuid", toJson vgUuid)]
    | .backupPartitionTableMetadata disk tableLabel tableId =>
      .obj [("operation", .str "backup_partition_table_metadata"), ("disk", toJson disk),
        ("table_label", toJson tableLabel), ("table_id", toJson tableId)]
    | .extendPartition partition startSector oldSizeSectors newSizeSectors sectorSizeBytes =>
      .obj [("operation", .str "extend_partition"), ("partition", toJson partition),
        ("start_sector", toJson startSector), ("old_size_sectors", toJson oldSizeSectors),
        ("new_size_sectors", toJson newSizeSectors),
        ("sector_size_bytes", toJson sectorSizeBytes)]
    | .resizePhysicalVolume pvUuid expectedPvSizeBytes =>
      .obj [("operation", .str "resize_physical_volume"), ("pv_uuid", toJson pvUuid),
        ("expected_pv_size_bytes", toJson expectedPvSizeBytes)]
    | .extendLogicalVolume lvUuid additionalExtents expectedLvSizeBytes =>
      .obj [("operation", .str "extend_logical_volume"), ("lv_uuid", toJson lvUuid),
        ("additional_extents", toJson additionalExtents),
        ("expected_lv_size_bytes", toJson expectedLvSizeBytes)]
    | .growFilesystem fsType mountpoint =>
      .obj [("operation", .str "grow_filesystem"), ("fs_type", toJson fsType),
        ("mountpoint", toJson mountpoint)]
    | .rediscoverAndVerify => .obj [("operation", .str "rediscover_and_verify")]

instance : ToJson PlanStep where
  toJson s := .obj [("id", toJson s.id), ("depends_on", toJson s.dependsOn),
    ("operation", toJson s.operation), ("reversibility", toJson s.reversibility)]

instance : ToJson PlanPreview where
  toJson p := .obj [("schema_version", toJson p.schemaVersion), ("plan_id", toJson p.planId),
    ("snapshot_digest", toJson p.snapshotDigest), ("dry_run", toJson p.dryRun),
    ("executable", toJson p.executable), ("status", toJson p.status),
    ("request", toJson p.request), ("size_change", toJson p.sizeChange),
    ("partition_size_change", toJson p.partitionSizeChange),
    ("filesystem_size_change", toJson p.filesystemSizeChange),
    ("layout_alternatives", toJson p.layoutAlternatives),
    ("growth_route_alternatives", toJson p.growthRouteAlternatives),
    ("blockers", toJson p.blockers), ("preflight_checks", toJson p.preflightChecks),
    ("steps", toJson p.steps), ("notices", toJson p.notices)]

end Serialization

section Evidence

variable {α : Type}

def blocked (code message : String) : Blocker := ⟨code, message⟩

def ensure (condition : Prop) [Decidable condition] (code message : String) :
    Except Blocker Unit :=
  refuse (¬condition) (blocked code message)

@[simp] theorem ensure_eq_ok_iff {condition : Prop} [Decidable condition] {code message : String} :
    ensure condition code message = .ok () ↔ condition := by
  simp [ensure]

def unique (items : List α) (code : String) : Except Blocker α :=
  match items with
  | [] => .error (blocked code "required evidence is absent")
  | [item] => .ok item
  | _ => .error (blocked code "evidence is ambiguous or duplicated")

@[simp] theorem unique_eq_ok_iff {items : List α} {code : String} {a : α} :
    unique items code = .ok a ↔ items = [a] := by
  unfold unique
  split <;> simp_all

/-- Each of the collectors reports once, and completed. -/
def collectorsComplete (s : HostSnapshot) (components : List String) (message : String) :
    Except Blocker Unit :=
  Lib.Checks.checkAll (fun component => do
    let status ← unique (s.collectors.filter (·.component = component)) "collector-incomplete"
    ensure (status.state = .complete) "collector-incomplete" message) components

/-- The collector reports once, and completed. -/
def Collected (s : HostSnapshot) (component : String) : Prop :=
  ∃ status, s.collectors.filter (·.component = component) = [status] ∧ status.state = .complete

@[simp] theorem collectorsComplete_eq_ok_iff {s : HostSnapshot} {components : List String}
    {message : String} :
    collectorsComplete s components message = .ok () ↔ ∀ c ∈ components, Collected s c := by
  simp [collectorsComplete, Collected, Lib.Checks.bind_eq_ok_iff]

def hasErrorDiagnostic (s : HostSnapshot) : Bool := s.diagnostics.any (·.severity = .error)

/-- The tool is reported once, and available. -/
def ensureTool (capabilities : HostCapabilities) (message : String) (tool : String) :
    Except Blocker Unit := do
  let capability ← unique (capabilities.tools.filter (·.name = tool)) "tool-unavailable"
  ensure capability.available "tool-unavailable" message

/-- One matching read-write mount of the filesystem, the only one the device reports. -/
def MountConfirmed (device : BlockDevice) (named : String → Bool) (fsType : String)
    (mount : MountEntry) : Prop :=
  mount.source.any named ∧ mount.fsType = some fsType ∧ "rw" ∈ mount.options ∧
    (¬mount.options.any fun o => o = "ro" ∨ o = "bind" ∨ o = "rbind") ∧
    device.mountpoints = [mount.target]

instance (device : BlockDevice) (named : String → Bool) (fsType : String) (mount : MountEntry) :
    Decidable (MountConfirmed device named fsType mount) :=
  inferInstanceAs (Decidable (_ ∧ _))

def step (id : Nat) (operation : Operation) (reversibility : Reversibility) : PlanStep where
  id
  dependsOn := if id = 1 then [] else [id - 1]
  operation
  reversibility

end Evidence

end StorageManager.Planner.Extend
