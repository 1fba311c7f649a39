import StorageManager.Executor.PrivilegedArgv

/-!
# Verification of a privileged mutation

A process that ended well is only permission to look again. The fresh identity must show
exactly the state that was authorized.
-/

namespace StorageManager.Executor

open Lib.Checks
open Lib.Json (Value ToJson toJson)
open Planner

set_option autoImplicit false

inductive PrivilegedRuntimeDisposition where
  | rediscoveryRequired
  | recoveryRequired
  deriving DecidableEq

structure PrivilegedProcessReceipt where
  schemaVersion : Nat
  receiptId : String
  executionId : String
  permitId : String
  launchId : String
  planStepId : Nat
  commandDigest : String
  primaryExitCode : Int
  primaryStdoutSha256 : String
  primaryStderrSha256 : String
  primaryStdoutTruncated : Bool
  primaryStderrTruncated : Bool
  kernelRefreshExitCode : Option Int
  kernelRefreshStdoutSha256 : Option String
  kernelRefreshStderrSha256 : Option String
  kernelRefreshStdoutTruncated : Option Bool
  kernelRefreshStderrTruncated : Option Bool
  mutationMayHaveStarted : Bool
  disposition : PrivilegedRuntimeDisposition
  deriving DecidableEq

structure PrivilegedLayerVerificationReceipt where
  schemaVersion : Nat
  receiptId : String
  executionId : String
  processReceiptId : String
  requestId : String
  planStepId : Nat
  beforeIdentityDigest : String
  freshIdentityDigest : String
  verifiedOperation : String
  expectedStateVerified : Bool
  deriving DecidableEq

inductive PrivilegedLayerVerificationError where
  | protocol (source : PrivilegedHelperProtocolError)
  | processReceiptIntegrityMismatch
  | recoveryRequired
  | processBindingMismatch
  | beforeIdentityMismatch
  | targetIdentityMismatch
  | partitionStateMismatch
  | physicalVolumeStateMismatch
  | logicalVolumeStateMismatch
  | filesystemStateMismatch
  | unsupportedOperation
  deriving DecidableEq

instance : ToJson PrivilegedRuntimeDisposition where
  toJson
    | .rediscoveryRequired => .str "rediscovery_required"
    | .recoveryRequired => .str "recovery_required"

def operationName : NativeOperationSpec → String
  | .extendPartition .. => "extend_partition"
  | .resizePhysicalVolume .. => "resize_physical_volume"
  | .extendLogicalVolume .. => "extend_logical_volume"
  | .growFilesystem .. => "grow_filesystem"
  | _ => "unsupported"

/-- The record has grown to its new size and is otherwise the one it was. -/
def grownPartition (startSector newSizeSectors : Nat) (old new : PartitionGeometryIdentity) : Bool :=
  old.startSector == some startSector && new.startSector == some startSector &&
    new.sizeSectors == some newSizeSectors && old.sizeSectors.any (· < newSizeSectors) &&
    old.disk == new.disk && old.tableLabel == new.tableLabel && old.tableId == new.tableId &&
    old.sectorSizeBytes == new.sectorSizeBytes && old.recordUuid == new.recordUuid

def verifyPartition (partition : String) (startSector newSizeSectors : Nat)
    (before fresh : TargetIdentityManifest) : Bool :=
  match before.partitions.filter (·.partition == partition),
      fresh.partitions.filter (·.partition == partition) with
  | [old], [new] => grownPartition startSector newSizeSectors old new
  | _, _ => false

def verifyLvmSize (kind : LvmIdentityKind) (uuid : String) (expectedSizeBytes : Nat)
    (before fresh : TargetIdentityManifest) : Bool :=
  match before.lvm.filter (isLvmRecord kind uuid), fresh.lvm.filter (isLvmRecord kind uuid) with
  | [old], [new] =>
    old.name == new.name && decide (old.sizeBytes < expectedSizeBytes) &&
      new.sizeBytes == expectedSizeBytes
  | _, _ => false

def sameMounts (fsType : String) (mountpoint : Option String)
    (before fresh : TargetIdentityManifest) : Bool :=
  match mountpoint with
  | some expected =>
    match before.mounts.filter (isMountOf fsType expected),
        fresh.mounts.filter (isMountOf fsType expected) with
    | [old], [new] => old == new
    | _, _ => false
  | none => fsType == "ext4" && before.mounts.isEmpty && fresh.mounts.isEmpty

/-- Both sizes were observed, and the filesystem has grown within its device. -/
def observedGrowth (old new : FilesystemIdentity) : Bool :=
  match old.observedFilesystemSizeBytes, new.observedFilesystemSizeBytes with
  | some oldSize, some newSize =>
    decide (0 < oldSize) && decide (oldSize < old.backingDeviceSizeBytes) &&
      decide (oldSize < newSize) && decide (newSize ≤ new.backingDeviceSizeBytes)
  | _, _ => false

def verifyFilesystem (fsType : String) (mountpoint : Option String)
    (before fresh : TargetIdentityManifest) : Bool :=
  match before.filesystem, fresh.filesystem with
  | some old, some new =>
    old.device == before.resolvedDevice && new.device == fresh.resolvedDevice &&
      old.device == new.device && old.fsType == fsType && new.fsType == fsType &&
      old.uuid.isSome && old.uuid == new.uuid && old.fsVersion == new.fsVersion &&
      old.backingDeviceSizeBytes == new.backingDeviceSizeBytes &&
      sameMounts fsType mountpoint before fresh && observedGrowth old new
  | _, _ => false

/-- The reading of the post-state for each mutation, and the error when it does not hold. -/
def verifyOperation (operation : NativeOperationSpec) (before fresh : TargetIdentityManifest) :
    Except PrivilegedLayerVerificationError Unit :=
  match operation with
  | .extendPartition partition startSector _ newSizeSectors _ =>
    refuse (¬verifyPartition partition startSector newSizeSectors before fresh)
      .partitionStateMismatch
  | .resizePhysicalVolume pvUuid expectedPvSizeBytes =>
    refuse (¬verifyLvmSize .physicalVolume pvUuid expectedPvSizeBytes before fresh)
      .physicalVolumeStateMismatch
  | .extendLogicalVolume lvUuid _ expectedLvSizeBytes =>
    refuse (¬verifyLvmSize .logicalVolume lvUuid expectedLvSizeBytes before fresh)
      .logicalVolumeStateMismatch
  | .growFilesystem fsType mountpoint =>
    refuse (¬verifyFilesystem fsType mountpoint before fresh) .filesystemStateMismatch
  | _ => .error .unsupportedOperation

variable [Fingerprint]

def PrivilegedProcessReceipt.expectedReceiptId (p : PrivilegedProcessReceipt) : String :=
  fingerprint (.obj [("schema_version", toJson p.schemaVersion),
    ("execution_id", toJson p.executionId), ("permit_id", toJson p.permitId),
    ("launch_id", toJson p.launchId), ("plan_step_id", toJson p.planStepId),
    ("command_digest", toJson p.commandDigest), ("primary_exit_code", toJson p.primaryExitCode),
    ("primary_stdout_sha256", toJson p.primaryStdoutSha256),
    ("primary_stderr_sha256", toJson p.primaryStderrSha256),
    ("primary_stdout_truncated", toJson p.primaryStdoutTruncated),
    ("primary_stderr_truncated", toJson p.primaryStderrTruncated),
    ("kernel_refresh_exit_code", toJson p.kernelRefreshExitCode),
    ("kernel_refresh_stdout_sha256", toJson p.kernelRefreshStdoutSha256),
    ("kernel_refresh_stderr_sha256", toJson p.kernelRefreshStderrSha256),
    ("kernel_refresh_stdout_truncated", toJson p.kernelRefreshStdoutTruncated),
    ("kernel_refresh_stderr_truncated", toJson p.kernelRefreshStderrTruncated),
    ("mutation_may_have_started", toJson p.mutationMayHaveStarted),
    ("disposition", toJson p.disposition)])

def PrivilegedProcessReceipt.integrityMatches (p : PrivilegedProcessReceipt) : Bool :=
  p.receiptId == p.expectedReceiptId

def PrivilegedLayerVerificationReceipt.expectedReceiptId
    (v : PrivilegedLayerVerificationReceipt) : String :=
  fingerprint (.arr [toJson v.schemaVersion, toJson v.executionId, toJson v.processReceiptId,
    toJson v.requestId, toJson v.planStepId, toJson v.beforeIdentityDigest,
    toJson v.freshIdentityDigest, toJson v.verifiedOperation, toJson v.expectedStateVerified])

def layerVerificationReceipt (request : PrivilegedHelperRequest)
    (process : PrivilegedProcessReceipt) (before fresh : TargetIdentityManifest) :
    PrivilegedLayerVerificationReceipt :=
  let receipt : PrivilegedLayerVerificationReceipt :=
    { schemaVersion := 1
      receiptId := ""
      executionId := request.executionId
      processReceiptId := process.receiptId
      requestId := request.requestId
      planStepId := request.planStepId
      beforeIdentityDigest := before.manifestDigest
      freshIdentityDigest := fresh.manifestDigest
      verifiedOperation := operationName request.operation
      expectedStateVerified := true }
  { receipt with receiptId := receipt.expectedReceiptId }

def verifyPrivilegedLayerPostState (request : PrivilegedHelperRequest)
    (process : PrivilegedProcessReceipt) (before fresh : TargetIdentityManifest) :
    Except PrivilegedLayerVerificationError PrivilegedLayerVerificationReceipt := do
  (validatePrivilegedHelperRequest request).mapError .protocol
  refuse (¬process.integrityMatches) .processReceiptIntegrityMismatch
  refuse (process.disposition ≠ .rediscoveryRequired) .recoveryRequired
  refuse (process.executionId ≠ request.executionId ∨ process.planStepId ≠ request.planStepId)
    .processBindingMismatch
  refuse (before.manifestDigest ≠ request.freshIdentityDigest ∨ before.target ≠ request.target ∨
    before.resolvedDevice ≠ request.resolvedDevice) .beforeIdentityMismatch
  refuse (fresh.target ≠ before.target ∨ fresh.resolvedDevice ≠ before.resolvedDevice)
    .targetIdentityMismatch
  verifyOperation request.operation before fresh
  pure (layerVerificationReceipt request process before fresh)

end StorageManager.Executor
