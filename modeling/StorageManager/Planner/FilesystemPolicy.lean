import StorageManager.Core.PartitionType
import StorageManager.Planner.FilesystemDecision
import StorageManager.Planner.RouteGraph

/-!
# The filesystem policy

Whether the filesystem of a target may grow: ext4 online when its metadata says it is
clean, XFS when the kernel's own dry run passed, and nothing else.
-/

namespace StorageManager.Planner

open Core

set_option autoImplicit false

/-- One character of a text as `Debug` prints it. -/
def debugChar (c : Char) : String :=
  if c = '"' then "\\\"" else if c = '\\' then "\\\\" else if c = '\n' then "\\n"
  else if c = '\r' then "\\r" else if c = '\t' then "\\t" else if c = '\x00' then "\\0"
  else if isControl c then "\\u\x7b" ++ String.ofList (Nat.toDigits 16 c.toNat) ++ "\x7d"
  else String.singleton c

/-- `format!("{:?}")` of an optional text. -/
def debugOption (text : Option String) : String :=
  text.elim "None" fun text => "Some(\"" ++ String.join (text.toList.map debugChar) ++ "\")"

def toolAvailable (capabilities : HostCapabilities) (name : String) : Bool :=
  match capabilities.tools.filter (·.name = name) with
  | [tool] => tool.available
  | _ => false

def mountIsNormalReadWrite (mount : MountEntry) : Bool :=
  mount.options.any (· = "rw") &&
    !mount.options.any fun option => option = "ro" || option = "bind" || option = "rbind"

/-- The one record of a filesystem, by its device or by its mountpoint. -/
def exactEvidence (s : HostSnapshot) (device : BlockDevice) (mountpoint : Option String)
    (fsType : String) : Option FilesystemPreflightEvidence :=
  match s.filesystemPreflight.filter (fun evidence => evidence.fsType = fsType &&
    (evidence.device = device.devicePath ||
      mountpoint.any (evidence.mountpoint = some ·))) with
  | [evidence] => some evidence
  | _ => none

def hasTargetErrorDiagnostic (s : HostSnapshot) (route : LayerRoute) : Bool :=
  let devices := route.layers.filterMap (·.device)
  s.diagnostics.any fun diagnostic =>
    diagnostic.severity = .error && diagnostic.device.all (devices.contains ·)

def ext4OfflineCheck (device : BlockDevice) : Option ReadOnlyFilesystemCheck :=
  device.path.map fun path =>
    { kind := .ext4OfflineE2fsckNoModify
      tool := "e2fsck"
      args := ["-f", "-n", path]
      requiresMounted := false
      requiresUnmounted := true
      runAutomaticallyOnRefresh := false
      rationale := "e2fsck results on a mounted filesystem are not accepted; run the " ++
        "no-modify check only while unmounted" }

/-- A text that is there and is not blank. -/
def observed (text : Option String) : Bool := text.any fun text => trim text.toList ≠ []

/-- A decision stays what it was, for one more reason. -/
def FilesystemGrowthDecision.refused (decision : FilesystemGrowthDecision) (reason : String) :
    FilesystemGrowthDecision :=
  { decision with reasons := decision.reasons ++ [reason] }

def FilesystemGrowthDecision.wanting (decision : FilesystemGrowthDecision) (action : String) :
    FilesystemGrowthDecision :=
  { decision with requiredActions := decision.requiredActions ++ [action] }

def decideMountedExt4 (device : BlockDevice) (evidence : FilesystemPreflightEvidence)
    (decision : FilesystemGrowthDecision) : FilesystemGrowthDecision :=
  let decision := { decision with metadataState := some evidence.state }
  if evidence.state ≠ .verified then
    (decision.wanting "resolve the ext4 metadata probe failure before planning execution").refused
      "tune2fs metadata evidence is unavailable, partial or failed"
  else if ¬(observed evidence.fsVersion || observed evidence.revision) ∨
      evidence.features = [] then
    (decision.wanting
      "collect complete ext4 version/revision and filesystem feature evidence").refused
      "ext4 metadata evidence is incomplete"
  else if evidence.filesystemState.any fun state =>
      eqIgnoreAsciiCase (String.ofList (trim state.toList)) "clean" then
    ({ decision with state := .readyOnlineGrow }.refused
      ("mounted ext4 is read-write, superblock metadata reports clean state, and online resize " ++
        "tooling is available")).wanting
      ("do not run e2fsck on the mounted filesystem as an execution gate; revalidate target " ++
        "identity immediately before resize")
  else
    ({ decision with state := .offlineHealthCheckRequired,
                     readOnlyCheck := ext4OfflineCheck device }.refused
      ("ext4 superblock state is " ++ debugOption evidence.filesystemState ++
        "; require an unmounted read-only e2fsck decision before mutation")).wanting
      ("unmount the target in an explicit maintenance step before the read-only e2fsck " ++
        "check")

def decideExt4 (s : HostSnapshot) (capabilities : HostCapabilities) (device : BlockDevice)
    (mount : Option MountEntry) (decision : FilesystemGrowthDecision) :
    FilesystemGrowthDecision :=
  if ¬toolAvailable capabilities "resize2fs" then
    decision.refused "resize2fs is unavailable or capability discovery is ambiguous"
  else match mount with
    | some mount =>
      if ¬mountIsNormalReadWrite mount then
        decision.refused "ext4 target is not mounted in a normal read-write mode"
      else match exactEvidence s device (some mount.target) "ext4" with
        | some evidence => decideMountedExt4 device evidence decision
        | none =>
          (decision.wanting ("collect one exact read-only tune2fs metadata record for the " ++
            "mounted ext4 target")).refused
            ("ext4 metadata evidence is missing or ambiguous; mounted e2fsck output is not " ++
              "accepted as a health decision")
    | none =>
      if ¬toolAvailable capabilities "e2fsck" then
        decision.refused
          "unmounted ext4 requires an offline read-only health check, but e2fsck is unavailable"
      else
        { decision with state := .offlineHealthCheckRequired,
                        readOnlyCheck := ext4OfflineCheck device }.refused
          "unmounted ext4 requires a read-only e2fsck decision before resize"

def decideXfs (s : HostSnapshot) (capabilities : HostCapabilities) (device : BlockDevice)
    (mount : Option MountEntry) (decision : FilesystemGrowthDecision) :
    FilesystemGrowthDecision :=
  if ¬toolAvailable capabilities "xfs_growfs" then
    decision.refused "xfs_growfs is unavailable or capability discovery is ambiguous"
  else match mount with
    | none =>
      ({ decision with state := .mountRequired }.refused
        "XFS must be mounted before it can be grown").wanting
        "mount the exact XFS target in a validated read-write state before growth"
    | some mount =>
      if ¬mountIsNormalReadWrite mount then
        decision.refused "XFS target is not mounted in a normal read-write mode"
      else match exactEvidence s device (some mount.target) "xfs" with
        | none =>
          (decision.wanting
            "collect one exact xfs_info/xfs_growfs -n evidence record for the target").refused
            "XFS dry-run growth evidence is missing or ambiguous"
        | some evidence =>
          let decision := { decision with metadataState := some evidence.state }
          if evidence.growCheckPassed ≠ some true then
            decision.refused "xfs_growfs -n did not positively validate the target growth path"
          else
            let decision := { decision with state := .readyOnlineGrow, readOnlyCheck := none }.refused
              ("exact mounted read-write XFS growth path passed xfs_growfs -n; online growth is " ++
                "ready")
            if ¬toolAvailable capabilities "xfs_scrub" then
              decision.refused ("xfs_scrub is unavailable; online metadata scrub is optional " ++
                "diagnostic evidence and is not required for XFS growth admission")
            else decision

/-- The one mount at the mountpoint of a route. -/
def activeMount (s : HostSnapshot) (route : LayerRoute) : Option MountEntry :=
  route.mountpoint.bind fun mountpoint =>
    match s.mounts.filter (·.target = mountpoint) with
    | [mount] => some mount
    | _ => none

def decideFilesystemGrowth (s : HostSnapshot) (capabilities : HostCapabilities)
    (target : String) : FilesystemGrowthDecision :=
  let route := analyzeLayerRoute s target
  let decision : FilesystemGrowthDecision :=
    { target
      device := route.resolvedDevice
      mountpoint := route.mountpoint
      fsType := none
      state := .blocked
      metadataState := none
      readOnlyCheck := none
      reasons := []
      requiredActions := [] }
  if route.status = .blocked then
    decision.refused (route.issues.head?.elim "target storage route is unresolved"
      fun issue => s!"[{issue.code}] {issue.message}")
  else match route.resolvedDevice with
    | none => decision.refused "target did not resolve to one filesystem device"
    | some resolvedDevice =>
      match (flatten s.storage.blockDevices).find? (·.device.devicePath = resolvedDevice) with
      | none => decision.refused "resolved filesystem device is absent from the storage graph"
      | some node => match node.device.filesystem with
        | none => decision.refused "resolved target has no filesystem type"
        | some filesystem =>
          let decision := { decision with fsType := some filesystem.fsType }
          if hasTargetErrorDiagnostic s route then
            decision.refused ("an error-level diagnostic affects the selected storage route; " ++
              "filesystem growth is blocked")
          else
            let mount := activeMount s route
            if filesystem.fsType = "ext4" then decideExt4 s capabilities node.device mount decision
            else if filesystem.fsType = "xfs" then
              decideXfs s capabilities node.device mount decision
            else { decision with state := .adapterRequired }.refused
              s!"filesystem {filesystem.fsType} has no executor-grade growth decision policy"

end StorageManager.Planner
