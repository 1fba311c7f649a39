import StorageManager.Core.HostSnapshot
import StorageManager.Lib.Json

/-!
# Filesystem growth decisions

What the filesystem policy says about growing one target, and the check it may still want.
-/

namespace StorageManager.Planner

open Core
open Lib.Json (ToJson toJson)

set_option autoImplicit false

inductive FilesystemDecisionState where
  | readyOnlineGrow
  | readyOfflineGrow
  | readOnlyHealthCheckRequired
  | offlineHealthCheckRequired
  | mountRequired
  | blocked
  | adapterRequired
  deriving DecidableEq

inductive FilesystemCheckKind where
  | ext4OfflineE2fsckNoModify
  | xfsMountedScrubNoModify
  deriving DecidableEq

structure ReadOnlyFilesystemCheck where
  kind : FilesystemCheckKind
  tool : String
  args : List String
  requiresMounted : Bool
  requiresUnmounted : Bool
  runAutomaticallyOnRefresh : Bool
  rationale : String
  deriving DecidableEq

structure FilesystemGrowthDecision where
  target : String
  device : Option String
  mountpoint : Option String
  fsType : Option String
  state : FilesystemDecisionState
  metadataState : Option FilesystemProbeState
  readOnlyCheck : Option ReadOnlyFilesystemCheck
  reasons : List String
  requiredActions : List String
  deriving DecidableEq

def FilesystemGrowthDecision.executionReady (d : FilesystemGrowthDecision) : Bool :=
  d.state == .readyOnlineGrow || d.state == .readyOfflineGrow

section Serialization

instance : ToJson FilesystemDecisionState where
  toJson
    | .readyOnlineGrow => .str "ready_online_grow"
    | .readyOfflineGrow => .str "ready_offline_grow"
    | .readOnlyHealthCheckRequired => .str "read_only_health_check_required"
    | .offlineHealthCheckRequired => .str "offline_health_check_required"
    | .mountRequired => .str "mount_required"
    | .blocked => .str "blocked"
    | .adapterRequired => .str "adapter_required"

instance : ToJson FilesystemCheckKind where
  toJson
    | .ext4OfflineE2fsckNoModify => .str "ext4_offline_e2fsck_no_modify"
    | .xfsMountedScrubNoModify => .str "xfs_mounted_scrub_no_modify"

instance : ToJson FilesystemProbeState where
  toJson
    | .verified => .str "verified"
    | .partiallyRead => .str "partial"
    | .unavailable => .str "unavailable"
    | .failed => .str "failed"

instance : ToJson ReadOnlyFilesystemCheck where
  toJson c := .obj [("kind", toJson c.kind), ("tool", toJson c.tool), ("args", toJson c.args),
    ("requires_mounted", toJson c.requiresMounted),
    ("requires_unmounted", toJson c.requiresUnmounted),
    ("run_automatically_on_refresh", toJson c.runAutomaticallyOnRefresh),
    ("rationale", toJson c.rationale)]

instance : ToJson FilesystemGrowthDecision where
  toJson d := .obj [("target", toJson d.target), ("device", toJson d.device),
    ("mountpoint", toJson d.mountpoint), ("fs_type", toJson d.fsType), ("state", toJson d.state),
    ("metadata_state", toJson d.metadataState), ("read_only_check", toJson d.readOnlyCheck),
    ("reasons", toJson d.reasons), ("required_actions", toJson d.requiredActions)]

end Serialization

end StorageManager.Planner
