import StorageManager.Planner.PlanPreview

/-!
# Preflight checks

What a preview has verified already, and what must be verified before its plan is
executed.
-/

namespace StorageManager.Planner.Extend

open Core (HostSnapshot FilesystemPreflightEvidence)

set_option autoImplicit false

def preflightCheck (code : String) (state : PreflightState) (message : String) : PreflightCheck :=
  ⟨code, state, message⟩

def commonVerifiedPreflight : List PreflightCheck :=
  [preflightCheck "collectors-complete" .verified
      "required discovery collectors completed successfully",
    preflightCheck "diagnostics-clean" .verified
      "no error-level storage diagnostics invalidate this preview",
    preflightCheck "mount-rw" .verified "target has one matching read-write mount",
    preflightCheck "tooling-available" .verified "required future operation tools are available"]

def futureExecutionGates : List PreflightCheck :=
  [preflightCheck "runtime-identity-recheck" .required
      "revalidate device, filesystem and plan basis immediately before mutation",
    preflightCheck "filesystem-health" .required
      "verify filesystem health, features and supported grow state",
    preflightCheck "exclusive-lock" .required
      "acquire an exclusive storage-operation lock and reject concurrent mutation",
    preflightCheck "metadata-backup" .required
      "create and verify the required metadata backup before irreversible steps",
    preflightCheck "execution-approval" .required
      "obtain explicit approval for the exact fresh plan before execution"]

def partitionPreflightChecks : List PreflightCheck :=
  commonVerifiedPreflight ++
  [preflightCheck "partition-geometry-consistent" .verified
      "lsblk and partition-table sector/start/size evidence is consistent",
    preflightCheck "adjacent-capacity-verified" .verified
      "requested growth fits verified adjacent free sectors"] ++ futureExecutionGates

def wholeFilesystemPreflightChecks : List PreflightCheck :=
  commonVerifiedPreflight ++
  [preflightCheck "filesystem-geometry-consistent" .verified
      "read-only filesystem block size/count/size evidence is internally consistent",
    preflightCheck "backing-capacity-verified" .verified
      ("requested growth fits verified unused capacity already present on the backing " ++
        "device")] ++
  futureExecutionGates.filter (·.code ≠ "metadata-backup")

def lvmIdentityChecks : List PreflightCheck :=
  [preflightCheck "lvm-identity-consistent" .verified
      "PV, VG, LV and filesystem identities are internally consistent",
    preflightCheck "lvm-layout-supported" .verified
      "LV and VG layout is within the supported linear single-PV preview profile"]

def lvmPreflightChecks : List PreflightCheck :=
  commonVerifiedPreflight ++ lvmIdentityChecks ++
  [preflightCheck "capacity-verified" .verified
    "requested growth fits verified free VG extents"] ++ futureExecutionGates

def lvmUnderlyingPreflightChecks (growsPartition : Bool) : List PreflightCheck :=
  commonVerifiedPreflight ++ lvmIdentityChecks ++
  [preflightCheck "underlying-capacity-verified" .verified
    "requested growth fits verified PV backing-device capacity and extent geometry"] ++
  (if growsPartition then
    [preflightCheck "partition-geometry-consistent" .verified
        "partition-table sector/start/size evidence is consistent",
      preflightCheck "adjacent-capacity-verified" .verified
        "required partition growth fits verified adjacent free sectors"] else []) ++
  futureExecutionGates

/-- A check that is verified where its evidence is there. -/
def evidenceCheck (code : String) (seen : Bool) (verified required : String) : PreflightCheck :=
  preflightCheck code (if seen then .verified else .required) (if seen then verified else required)

/-- A text that says something. -/
def observed (text : Option String) : Option String := text.filter (· ≠ "")

def evidenceChecks (evidence : FilesystemPreflightEvidence) : List PreflightCheck :=
  let version := (observed evidence.fsVersion).or (observed evidence.revision)
  [evidenceCheck "filesystem-metadata-probe"
      (evidence.state = .verified || evidence.state = .partiallyRead)
      "read-only filesystem metadata probe returned target-specific evidence"
      "filesystem metadata probe is unavailable or failed and must succeed before execution",
    evidenceCheck "filesystem-version-observed" version.isSome
      ("filesystem version/revision observed: " ++ version.getD "")
      ("filesystem version/revision was not observed and must be resolved before " ++
        "execution"),
    evidenceCheck "filesystem-features-observed" (!evidence.features.isEmpty)
      "filesystem feature flags were collected by a read-only metadata probe"
      "filesystem feature flags were not observed and must be resolved before execution"] ++
  (if evidence.fsType = "ext4" then
    [evidenceCheck "ext4-superblock-state" (evidence.filesystemState = some "clean")
      ("ext4 superblock reports filesystem state clean; this is not a substitute for a " ++
        "dedicated health check")
      ("ext4 superblock did not report a clean state; dedicated health validation is " ++
        "required before execution")] else []) ++
  (if evidence.fsType = "xfs" then
    [evidenceCheck "xfs-grow-dry-run" (evidence.growCheckPassed = some true)
      ("xfs_growfs -n completed successfully against the mounted target without " ++
        "modifying it")
      "xfs_growfs -n must succeed against the exact mounted target before execution"] else [])

def filesystemEvidenceChecks (s : HostSnapshot) (mountpoint : String) : List PreflightCheck :=
  match s.filesystemPreflight.filter (·.mountpoint = some mountpoint) with
  | [evidence] => evidenceChecks evidence
  | found =>
    [preflightCheck "filesystem-metadata-probe" .required
        (if found.isEmpty then
          ("collect read-only filesystem metadata evidence for the exact target before " ++
            "execution")
        else
          ("filesystem metadata evidence is ambiguous; resolve the exact target before " ++
            "execution")),
      preflightCheck "filesystem-version-observed" .required
        "record the target filesystem version/revision before execution",
      preflightCheck "filesystem-features-observed" .required
        "record target filesystem feature flags before execution"]

end StorageManager.Planner.Extend
