import StorageManager.Planner.LayoutAlternatives
import StorageManager.Planner.LvmCandidate
import StorageManager.Planner.PreflightChecks

/-!
# Planning an extension

The route of the target chooses the builder: a partition, a logical volume, or a
filesystem on a whole device. What no builder knows stays blocked.
-/

namespace StorageManager.Planner.Extend

open Core (BlockDevice FilesystemPreflightEvidence HostCapabilities HostSnapshot MountEntry Node
  flatten)
open Lib.Checks (okOr)
open Lib.Json (toJson)
open Lib.Word64

set_option autoImplicit false

section WholeFilesystem

/-- The device of the target, whole and in plain use, with its filesystem and its mount. -/
def wholeTarget (s : HostSnapshot) (capabilities : HostCapabilities)
    (route : ExtendRouteAdapter) :
    Except Blocker (String × BlockDevice × Core.Filesystem × MountEntry) := do
  ensure (route.profile = .wholeBlockFilesystem) "route-profile-mismatch"
    "whole-device filesystem builder received a non-whole-device semantic route"
  let devicePath ← okOr route.resolvedDevice (blocked "route-device-not-found"
    "whole-device filesystem target did not resolve to one device")
  let node ← unique ((flatten s.storage.blockDevices).filter (·.device.nodeAlias devicePath))
    "ambiguous-device"
  let device := node.device
  ensure (isDisk device.kind) "unsupported-layout"
    "whole-device filesystem preview requires a disk or loop-device target"
  ensure device.children.isEmpty "unsupported-layout"
    "whole-device filesystem target has stacked consumers"
  let fs ← okOr device.filesystem (blocked "filesystem-missing" "filesystem type is absent")
  ensure (fs.fsType = "ext4" ∨ fs.fsType = "xfs") "unsupported-filesystem"
    "whole-device filesystem preview supports only ext4 and XFS"
  ensure (device.uuid.any (· ≠ "")) "identity-missing"
    "filesystem UUID is required for whole-device preview"
  let mountpoint ← okOr route.mountpoint (blocked "mount-not-unique"
    "target filesystem is not uniquely mounted")
  let mount ← unique (s.mounts.filter (·.target = mountpoint)) "mount-not-unique"
  ensure (MountConfirmed device device.nodeAlias fs.fsType mount) "mount-state-mismatch"
    "one matching read-write mount must be confirmed by lsblk and findmnt"
  ensure (¬s.swaps.any fun swap => device.nodeAlias swap.name) "active-swap"
    "the target is reported as active swap"
  ensureTool capabilities "required filesystem grow tool is unavailable" (growTool fs.fsType)
  pure (devicePath, device, fs, mount)

/-- The measured geometry of a filesystem: its block size and its size. -/
def measuredGeometry (evidence : FilesystemPreflightEvidence) (deviceSize : Nat) :
    Except Blocker (Nat × Nat) := do
  ensure (evidence.state = .verified) "filesystem-size-evidence-incomplete"
    "filesystem metadata/geometry evidence must be verified"
  let blockSize ← okOr evidence.blockSizeBytes (blocked "filesystem-block-size-missing"
    "filesystem block size is absent from read-only metadata evidence")
  let blockCount ← okOr evidence.blockCount (blocked "filesystem-block-count-missing"
    "filesystem block count is absent from read-only metadata evidence")
  let filesystemSize ← okOr evidence.sizeBytes (blocked "filesystem-size-evidence-missing"
    "filesystem size is absent from read-only metadata evidence")
  ensure (512 ≤ blockSize ∧ isPowerOfTwo blockSize) "filesystem-block-size-invalid"
    "filesystem block size is invalid"
  ensure (checkedMul blockCount blockSize = some filesystemSize) "filesystem-geometry-mismatch"
    "filesystem block count, block size and total size disagree"
  ensure (0 < filesystemSize ∧ filesystemSize ≤ deviceSize) "filesystem-capacity-mismatch"
    "filesystem size exceeds or invalidates the backing device capacity"
  pure (blockSize, filesystemSize)

/-- The requested and the block-aligned growth of a filesystem within its device. -/
def growWithin (blockSize filesystemSize deviceSize : Nat) (growth : Growth) :
    Except Blocker (Nat × Nat × Nat) := do
  let maxGrowth ← okOr (checkedMul ((deviceSize - filesystemSize) / blockSize) blockSize)
    (blocked "size-overflow" "filesystem growth exceeds u64")
  ensure (0 < maxGrowth) "no-growth"
    "backing device has less than one filesystem block of verified free capacity"
  let (requested, rounded) ← match growth with
    | .byBytes bytes => do
      ensure (0 < bytes) "no-growth" "requested growth is zero"
      let rounded ← okOr (checkedMul (divCeil bytes blockSize) blockSize)
        (blocked "size-overflow" "filesystem growth exceeds u64")
      pure (bytes, rounded)
    | .maxFree => pure (maxGrowth, maxGrowth)
  ensure (rounded ≤ maxGrowth) "insufficient-capacity"
    "filesystem-block-aligned request exceeds verified backing-device slack"
  let expectedSize ← okOr (checkedAdd filesystemSize rounded)
    (blocked "size-overflow" "new filesystem size exceeds u64")
  ensure (expectedSize ≤ deviceSize) "filesystem-capacity-mismatch"
    "expected filesystem size exceeds backing device capacity"
  pure (requested, rounded, expectedSize)

def buildWholeFilesystemCandidate (s : HostSnapshot) (capabilities : HostCapabilities)
    (request : ExtendRequest) : Except Blocker (FilesystemSizeChange × List PlanStep) := do
  collectorsComplete s ["lsblk", "mounts", "fstab", "swap"]
    "all whole-device filesystem preview collectors must complete"
  ensure (¬hasErrorDiagnostic s) "diagnostic-error"
    "the snapshot contains error-level diagnostics"
  let (devicePath, device, fs, mount) ←
    wholeTarget s capabilities (resolveExtendRouteAdapter s request.target)
  let evidence ← unique (s.filesystemPreflight.filter fun evidence =>
      evidence.device = devicePath && evidence.mountpoint = some mount.target &&
        evidence.fsType = fs.fsType) "filesystem-size-evidence-missing"
  let (blockSize, filesystemSize) ← measuredGeometry evidence device.sizeBytes
  let (requested, rounded, expectedSize) ←
    growWithin blockSize filesystemSize device.sizeBytes request.growth
  pure
    ({ device := devicePath
       mountpoint := mount.target
       fsType := fs.fsType
       currentFilesystemSizeBytes := filesystemSize
       backingDeviceSizeBytes := device.sizeBytes
       requestedGrowthBytes := requested
       roundedGrowthBytes := rounded
       expectedFilesystemSizeBytes := expectedSize
       filesystemBlockSizeBytes := blockSize
       remainingBackingFreeBytes := device.sizeBytes - expectedSize },
      [step 1 .revalidateSnapshot .notApplicable,
        step 2 (.growFilesystem fs.fsType (some mount.target)) .irreversible,
        step 3 .rediscoverAndVerify .notApplicable])

end WholeFilesystem

section Outcomes

def applyPartitionOutcome (plan : PlanPreview) (s : HostSnapshot) :
    Except Blocker (Option (PartitionSizeChange × List PlanStep)) → Option PlanPreview
  | .ok (some (size, steps)) => some { plan with
      status := .preview
      partitionSizeChange := some size
      preflightChecks := partitionPreflightChecks
      steps }
  | .ok none => none
  | .error blocker => some { plan with
      layoutAlternatives := if blocker.code = "insufficient-adjacent-capacity" then
        detectLayoutAlternatives s plan.request else plan.layoutAlternatives
      blockers := plan.blockers ++ [blocker] }

def applyLvmUnderlyingPreview (plan : PlanPreview)
    (candidate : GrowthRouteAlternative × SizeChange × Option PartitionSizeChange ×
      List PlanStep) : PlanPreview :=
  let (route, size, partitionSize, steps) := candidate
  { plan with
    status := .preview
    sizeChange := some size
    partitionSizeChange := partitionSize
    preflightChecks := lvmUnderlyingPreflightChecks partitionSize.isSome
    steps
    growthRouteAlternatives := plan.growthRouteAlternatives ++ [route] }

def applyLvmOutcome (plan : PlanPreview) (s : HostSnapshot) :
    Except Blocker (SizeChange × List PlanStep) → PlanPreview
  | .ok (size, steps) => { plan with
      status := .preview
      sizeChange := some size
      preflightChecks := lvmPreflightChecks
      steps }
  | .error blocker =>
    if blocker.code = "insufficient-capacity" ∨ blocker.code = "no-growth" then
      match buildLvmUnderlyingGrowthCandidate s plan.request with
      | some candidate => applyLvmUnderlyingPreview plan candidate
      | none => { plan with
          growthRouteAlternatives := plan.growthRouteAlternatives ++
            (analyzeLvmUnderlyingGrowth s plan.request).toList
          blockers := plan.blockers ++ [blocker] }
    else { plan with blockers := plan.blockers ++ [blocker] }

def applyWholeFilesystemOutcome (plan : PlanPreview) :
    Except Blocker (FilesystemSizeChange × List PlanStep) → PlanPreview
  | .ok (size, steps) => { plan with
      status := .preview
      filesystemSizeChange := some size
      preflightChecks := wholeFilesystemPreflightChecks
      steps }
  | .error blocker => { plan with blockers := plan.blockers ++ [blocker] }

/-- The first issue of a route that found its device but knows no operation for it. -/
def semanticLayerBlocker (s : HostSnapshot) (target : String) : Option Blocker :=
  let route := analyzeLayerRoute s target
  if route.resolvedDevice = none ∨ route.status = .supportedProfile then none
  else route.issues.head?.map fun issue => blocked issue.code issue.message

end Outcomes

section Plan

def notices : List String :=
  ["M1A produces previews only. No backup, resize, mount or other command is run.",
    ("The preview covers block-layer capacity, not measured filesystem capacity or " ++
      "health."),
    ("A future executor needs fresh identity/health checks, locks, verified backups and " ++
      "explicit approval."),
    ("Metadata backups are not backups of user data; filesystem growth has no automatic " ++
      "rollback.")]

/-- The plan before its target is looked at. -/
def emptyPlan (request : ExtendRequest) (snapshotDigest : String) : PlanPreview where
  schemaVersion := 1
  planId := ""
  snapshotDigest
  dryRun := true
  executable := false
  status := .blocked
  request
  sizeChange := none
  partitionSizeChange := none
  filesystemSizeChange := none
  layoutAlternatives := []
  growthRouteAlternatives := []
  blockers := []
  preflightChecks := []
  steps := []
  notices

/-- A partition first; what is no direct partition is tried as a logical volume. -/
def applyPartitionOrLvm (plan : PlanPreview) (s : HostSnapshot) (capabilities : HostCapabilities) :
    PlanPreview :=
  (applyPartitionOutcome plan s (tryBuildPartitionCandidate s capabilities plan.request)).getD
    (applyLvmOutcome plan s (buildCandidate s capabilities plan.request))

def applyLvm (plan : PlanPreview) (s : HostSnapshot) (capabilities : HostCapabilities) :
    PlanPreview :=
  let lvm := applyLvmOutcome plan s (buildCandidate s capabilities plan.request)
  match plan.request.growth with
  | .maxFree => ((buildLvmUnderlyingGrowthCandidate s plan.request).map
      (applyLvmUnderlyingPreview plan)).getD lvm
  | .byBytes _ => lvm

def applyProfile (plan : PlanPreview) (s : HostSnapshot) (capabilities : HostCapabilities) :
    PlanPreview :=
  match (resolveExtendRouteAdapter s plan.request.target).profile with
  | .directPartition => applyPartitionOrLvm plan s capabilities
  | .lvm => applyLvm plan s capabilities
  | .wholeBlockFilesystem => applyWholeFilesystemOutcome plan
      (buildWholeFilesystemCandidate s capabilities plan.request)
  | .legacyFailClosed => match semanticLayerBlocker s plan.request.target with
    | some blocker => { plan with blockers := plan.blockers ++ [blocker] }
    | none => applyPartitionOrLvm plan s capabilities

/-- The mountpoint of the first step that grows a filesystem which is mounted. -/
def grownMountpoint (steps : List PlanStep) : Option String :=
  steps.findSome? fun step => match step.operation with
    | .growFilesystem _ mountpoint => mountpoint
    | _ => none

def withEvidence (plan : PlanPreview) (s : HostSnapshot) : PlanPreview :=
  if plan.status = .preview then
    { plan with preflightChecks := plan.preflightChecks ++
        (grownMountpoint plan.steps).elim [] (filesystemEvidenceChecks s) }
  else plan

variable [Fingerprint]

def planExtend (s : HostSnapshot) (capabilities : HostCapabilities) (request : ExtendRequest) :
    PlanPreview :=
  let plan := emptyPlan request (fingerprint (.arr [toJson s, toJson capabilities]))
  let plan := withEvidence (applyProfile plan s capabilities) s
  { plan with planId := fingerprint (toJson plan) }

end Plan

end StorageManager.Planner.Extend
