import StorageManager.Executor.NativeOperation
import StorageManager.Executor.PlanApproval

/-!
# The frozen execution intent

An approved plan is frozen: its steps are checked against the frozen identity of the target
and the approved filesystem decision, and each mutation gets a fail-closed barrier. The
native compiler copies the intent.
-/

namespace StorageManager.Executor.JournalStore

open Lib.Checks
open Lib.DependencyGraph (GraphError checkGraph)
open Lib.Directory (DirProc)
open Lib.Effects
open Lib.Json (ToJson toJson)
open Planner
open Planner.ExecutionGuard

set_option autoImplicit false

inductive FrozenIntentAction where
  | revalidateSnapshot
  | backupLvmMetadata (vgUuid : String)
  | backupPartitionTableMetadata (disk tableLabel : String) (tableId : Option String)
  | extendPartition (partition : String) (startSector oldSizeSectors newSizeSectors : Nat)
      (sectorSizeBytes : Nat)
  | resizePhysicalVolume (pvUuid : String) (expectedPvSizeBytes : Nat)
  | extendLogicalVolume (lvUuid : String) (additionalExtents expectedLvSizeBytes : Nat)
  | growFilesystem (fsType : String) (mountpoint : Option String)
  | rediscoverAndVerify
  deriving DecidableEq

structure FrozenIntentStep where
  planStepId : Nat
  dependsOn : List Nat
  reversibility : Reversibility
  role : FrozenIntentRole
  action : FrozenIntentAction
  deriving DecidableEq

structure VerificationBarrierSpec where
  afterPlanStepId : Nat
  beforeNextMutation : Bool
  requireFreshTargetIdentity : Bool
  requireFreshCapabilities : Bool
  requireExpectedStateCheck : Bool
  stopOnMismatch : Bool
  deriving DecidableEq

structure FrozenExecutionIntentManifest where
  schemaVersion : Nat
  manifestId : String
  approvalId : String
  approvedJournalId : String
  approvedJournalDigest : String
  planId : String
  evidenceBundleId : String
  targetManifestDigest : String
  lockedSessionId : String
  mutationEnabled : Bool
  ownerAcceptanceRequired : Bool
  steps : List FrozenIntentStep
  verificationBarriers : List VerificationBarrierSpec
  blockers : List String
  futureGates : List String
  deriving DecidableEq

inductive ExecutionIntentError where
  | sessionNotApproved
  | mutationEnabled
  | mutationMayHaveStarted
  | approvalBindingMismatch
  | ownerAcceptanceInvariant
  | graph (source : GraphError)
  | frozenIdentityMismatch (detail : String)
  | durableJournalRequired
  | durableJournalMismatch
  | session (source : LockedSessionError)
  deriving DecidableEq

section Serialization

instance : ToJson FrozenIntentAction where
  toJson
    | .revalidateSnapshot => .obj [("action", .str "revalidate_snapshot")]
    | .backupLvmMetadata vgUuid =>
      .obj [("action", .str "backup_lvm_metadata"), ("vg_uuid", toJson vgUuid)]
    | .backupPartitionTableMetadata disk tableLabel tableId =>
      .obj [("action", .str "backup_partition_table_metadata"), ("disk", toJson disk),
        ("table_label", toJson tableLabel), ("table_id", toJson tableId)]
    | .extendPartition partition startSector oldSizeSectors newSizeSectors sectorSizeBytes =>
      .obj [("action", .str "extend_partition"), ("partition", toJson partition),
        ("start_sector", toJson startSector), ("old_size_sectors", toJson oldSizeSectors),
        ("new_size_sectors", toJson newSizeSectors), ("sector_size_bytes", toJson sectorSizeBytes)]
    | .resizePhysicalVolume pvUuid expectedPvSizeBytes =>
      .obj [("action", .str "resize_physical_volume"), ("pv_uuid", toJson pvUuid),
        ("expected_pv_size_bytes", toJson expectedPvSizeBytes)]
    | .extendLogicalVolume lvUuid additionalExtents expectedLvSizeBytes =>
      .obj [("action", .str "extend_logical_volume"), ("lv_uuid", toJson lvUuid),
        ("additional_extents", toJson additionalExtents),
        ("expected_lv_size_bytes", toJson expectedLvSizeBytes)]
    | .growFilesystem fsType mountpoint =>
      .obj [("action", .str "grow_filesystem"), ("fs_type", toJson fsType),
        ("mountpoint", toJson mountpoint)]
    | .rediscoverAndVerify => .obj [("action", .str "rediscover_and_verify")]

instance : ToJson FrozenIntentStep where
  toJson s := .obj [("plan_step_id", toJson s.planStepId), ("depends_on", toJson s.dependsOn),
    ("reversibility", toJson s.reversibility), ("role", toJson s.role),
    ("action", toJson s.action)]

instance : ToJson VerificationBarrierSpec where
  toJson b := .obj [("after_plan_step_id", toJson b.afterPlanStepId),
    ("before_next_mutation", toJson b.beforeNextMutation),
    ("require_fresh_target_identity", toJson b.requireFreshTargetIdentity),
    ("require_fresh_capabilities", toJson b.requireFreshCapabilities),
    ("require_expected_state_check", toJson b.requireExpectedStateCheck),
    ("stop_on_mismatch", toJson b.stopOnMismatch)]

end Serialization

section Semantics

/-- `checked_mul` and `checked_add` fail from here on. -/
def u64Limit : Nat := 2 ^ 64

def validateExtendPartition (identity : TargetIdentityManifest) (partition : String)
    (startSector oldSizeSectors newSizeSectors sectorSizeBytes : Nat) : Except String Unit := do
  refuse (partition = "" ∨ partition.toList.any isControl)
    "partition path is empty or contains a control character"
  refuse ((sectorSizeBytes ≠ 512 ∧ sectorSizeBytes ≠ 4096) ∨ newSizeSectors ≤ oldSizeSectors ∨
    u64Limit ≤ oldSizeSectors * sectorSizeBytes ∨ u64Limit ≤ newSizeSectors * sectorSizeBytes ∨
    u64Limit ≤ startSector + (newSizeSectors - 1)) "partition growth geometry is invalid"
  let entry ← unique (·.partition = partition) identity.partitions
    "partition identity is not unique"
  refuse (entry.startSector ≠ some startSector ∨ entry.sizeSectors ≠ some oldSizeSectors ∨
    entry.sectorSizeBytes ≠ some sectorSizeBytes) "partition geometry changed"

/-- The one LVM record of this kind and UUID. -/
def hasLvmIdentity (kind : LvmIdentityKind) (uuid : String) (entry : LvmIdentity) : Bool :=
  entry.kind = kind ∧ entry.uuid = some uuid

def validateResizePhysicalVolume (identity : TargetIdentityManifest) (pvUuid : String)
    (expectedPvSizeBytes : Nat) : Except String Unit := do
  refuse (pvUuid = "" ∨ expectedPvSizeBytes = 0) "physical-volume growth values are invalid"
  let entry ← unique (hasLvmIdentity .physicalVolume pvUuid) identity.lvm
    "physical-volume identity is not unique"
  refuse (expectedPvSizeBytes ≤ entry.sizeBytes) "physical-volume expected size does not grow"

def validateExtendLogicalVolume (identity : TargetIdentityManifest) (lvUuid : String)
    (additionalExtents expectedLvSizeBytes : Nat) : Except String Unit := do
  refuse (lvUuid = "" ∨ additionalExtents = 0 ∨ expectedLvSizeBytes = 0)
    "logical-volume growth values are invalid"
  let entry ← unique (hasLvmIdentity .logicalVolume lvUuid) identity.lvm
    "logical-volume identity is not unique"
  refuse (expectedLvSizeBytes ≤ entry.sizeBytes) "logical-volume expected size does not grow"

def validateGrowFilesystem (identity : TargetIdentityManifest)
    (decision : FilesystemGrowthDecision) (fsType : String) (mountpoint : Option String) :
    Except String Unit := do
  refuse (fsType = "" ∨ mountpoint = some "") "filesystem growth identity is empty"
  let filesystem ← okOr identity.filesystem "filesystem identity is absent"
  refuse (decision.target ≠ identity.target ∨ filesystem.fsType ≠ fsType ∨
    decision.device ≠ some filesystem.device ∨ decision.fsType ≠ some fsType ∨
    decision.mountpoint ≠ mountpoint) "filesystem decision no longer matches approved intent"
  match mountpoint with
  | some mountpoint => do
    refuse (decision.state ≠ .readyOnlineGrow)
      "mounted filesystem decision is not ready for online growth"
    refuse (identity.mounts.countP
        (fun mount => mount.target = mountpoint ∧ mount.fsType = some fsType) ≠ 1)
      "filesystem mount identity is not unique"
  | none =>
    refuse (fsType ≠ "ext4" ∨ decision.state ≠ .readyOfflineGrow ∨ identity.mounts ≠ [])
      "offline filesystem decision is not exact unmounted ext4"

def validateOperation (identity : TargetIdentityManifest) (decision : FilesystemGrowthDecision) :
    Operation → Except String Unit
  | .revalidateSnapshot | .rediscoverAndVerify => .ok ()
  | .backupLvmMetadata vgUuid =>
    refuse (identity.lvm.countP (hasLvmIdentity .volumeGroup vgUuid) ≠ 1)
      "volume-group backup identity is not unique"
  | .backupPartitionTableMetadata disk tableLabel tableId =>
    refuse (¬identity.partitions.any fun partition => partition.disk = some disk ∧
        partition.tableLabel = some tableLabel ∧ partition.tableId = tableId)
      "partition-table backup identity is absent"
  | .extendPartition partition startSector oldSizeSectors newSizeSectors sectorSizeBytes =>
    validateExtendPartition identity partition startSector oldSizeSectors newSizeSectors
      sectorSizeBytes
  | .resizePhysicalVolume pvUuid expectedPvSizeBytes =>
    validateResizePhysicalVolume identity pvUuid expectedPvSizeBytes
  | .extendLogicalVolume lvUuid additionalExtents expectedLvSizeBytes =>
    validateExtendLogicalVolume identity lvUuid additionalExtents expectedLvSizeBytes
  | .growFilesystem fsType mountpoint => validateGrowFilesystem identity decision fsType mountpoint

def validateStepSemantics (identity : TargetIdentityManifest)
    (decision : FilesystemGrowthDecision) (step : PlanStep) : Except ExecutionIntentError Unit :=
  (validateOperation identity decision step.operation).mapError fun detail =>
    .frozenIdentityMismatch s!"plan step {step.id}: {detail}"

def translateOperation : Operation → FrozenIntentRole × FrozenIntentAction
  | .revalidateSnapshot => (.preExecutionEvidence, .revalidateSnapshot)
  | .backupLvmMetadata vgUuid => (.preExecutionEvidence, .backupLvmMetadata vgUuid)
  | .backupPartitionTableMetadata disk tableLabel tableId =>
    (.preExecutionEvidence, .backupPartitionTableMetadata disk tableLabel tableId)
  | .extendPartition partition startSector oldSizeSectors newSizeSectors sectorSizeBytes =>
    (.mutationCandidate,
      .extendPartition partition startSector oldSizeSectors newSizeSectors sectorSizeBytes)
  | .resizePhysicalVolume pvUuid expectedPvSizeBytes =>
    (.mutationCandidate, .resizePhysicalVolume pvUuid expectedPvSizeBytes)
  | .extendLogicalVolume lvUuid additionalExtents expectedLvSizeBytes =>
    (.mutationCandidate, .extendLogicalVolume lvUuid additionalExtents expectedLvSizeBytes)
  | .growFilesystem fsType mountpoint => (.mutationCandidate, .growFilesystem fsType mountpoint)
  | .rediscoverAndVerify => (.verification, .rediscoverAndVerify)

def translateStep (step : PlanStep) : FrozenIntentStep where
  planStepId := step.id
  dependsOn := step.dependsOn
  reversibility := step.reversibility
  role := (translateOperation step.operation).1
  action := (translateOperation step.operation).2

/-- The barrier after a mutation. -/
def barrierAfter (planStepId : Nat) : VerificationBarrierSpec where
  afterPlanStepId := planStepId
  beforeNextMutation := true
  requireFreshTargetIdentity := true
  requireFreshCapabilities := true
  requireExpectedStateCheck := true
  stopOnMismatch := true

/-- The graph, then each step in its place. -/
def freezeSteps (identity : TargetIdentityManifest) (decision : FilesystemGrowthDecision)
    (steps : List PlanStep) :
    Except ExecutionIntentError (List FrozenIntentStep × List VerificationBarrierSpec) := do
  (checkGraph (steps.map fun step => ⟨step.id, step.dependsOn⟩)).mapError .graph
  checkAll (validateStepSemantics identity decision) steps
  let frozen := steps.map translateStep
  pure (frozen, (frozen.filter (·.role = .mutationCandidate)).map fun step =>
    barrierAfter step.planStepId)

end Semantics

section Freezing

variable [Fingerprint]

def mapSessionError : LockedSessionError → ExecutionIntentError
  | .durableJournalRequired => .durableJournalRequired
  | .durableJournalMismatch => .durableJournalMismatch
  | other => .session other

def FrozenExecutionIntentManifest.computeManifestId (m : FrozenExecutionIntentManifest) : String :=
  fingerprint (.arr [toJson m.schemaVersion, toJson m.approvalId, toJson m.approvedJournalId,
    toJson m.approvedJournalDigest, toJson m.planId, toJson m.evidenceBundleId,
    toJson m.targetManifestDigest, toJson m.lockedSessionId, toJson "frozen_non_executable",
    toJson m.mutationEnabled, toJson m.ownerAcceptanceRequired, toJson m.steps,
    toJson m.verificationBarriers, toJson m.blockers, toJson m.futureGates])

/-- The approval is the one the journal of the session was approved with. -/
def checkApprovalBinding (session : LockedExecutionSession) (approval : ExactPlanApproval) :
    Except ExecutionIntentError Unit := do
  let binding ← okOr session.journal.approval .approvalBindingMismatch
  refuse (approval.journalId ≠ session.journal.journalId ∨
    approval.binding.lockedSessionId ≠ session.sessionId ∨
    approval.binding.planId ≠ session.handoff.planId ∨
    approval.binding.evidenceBundleId ≠ binding.evidenceBundleId ∨
    approval.binding.targetManifestDigest ≠ session.handoff.manifestDigest ∨
    binding.approvalId ≠ approval.binding.approvalId ∨
    binding.planId ≠ approval.binding.planId ∨
    binding.targetManifestDigest ≠ approval.binding.targetManifestDigest ∨
    binding.lockedSessionId ≠ approval.binding.lockedSessionId ∨
    binding.preconditionsJournalDigest ≠ approval.binding.preconditionsJournalDigest)
    .approvalBindingMismatch
  refuse (¬approval.ownerAcceptanceRequired ∨ ¬session.handoff.ownerAcceptanceRequired)
    .ownerAcceptanceInvariant

def checkApproved (session : LockedExecutionSession) (approval : ExactPlanApproval) :
    Except ExecutionIntentError Unit := do
  refuse (session.journal.phase ≠ .approved) .sessionNotApproved
  refuse (mutationEnabled ∨ session.handoff.mutationEnabled ∨ approval.mutationEnabled)
    .mutationEnabled
  refuse session.journal.mutationMayHaveStarted .mutationMayHaveStarted

/-- `freeze_execution_intent`, with the plan's steps and the target identity of the handoff. -/
def freezeExecutionIntent (fromSlice : FromSlice) (identity : TargetIdentityManifest)
    (steps : List PlanStep) (approval : ExactPlanApproval) :
    DirProc storeEnv LockedExecutionSession ExecutionIntentError
      FrozenExecutionIntentManifest := do
  let session ← Proc.get
  Proc.lift (checkApproved session approval)
  (requireCurrentDurableJournal fromSlice).mapError mapSessionError
  Proc.lift (checkApprovalBinding session approval)
  let (frozen, verificationBarriers) ←
    Proc.lift (freezeSteps identity approval.filesystemDecision steps)
  let manifest : FrozenExecutionIntentManifest :=
    { schemaVersion := 1
      manifestId := ""
      approvalId := approval.binding.approvalId
      approvedJournalId := session.journal.journalId
      approvedJournalDigest := journalDigest session.journal
      planId := approval.binding.planId
      evidenceBundleId := approval.binding.evidenceBundleId
      targetManifestDigest := approval.binding.targetManifestDigest
      lockedSessionId := approval.binding.lockedSessionId
      mutationEnabled := false
      ownerAcceptanceRequired := true
      steps := frozen
      verificationBarriers
      blockers := []
      futureGates := ["explicit owner acceptance for mutation-capable rollout",
        "reviewed semantic-to-argv compiler", "minimal executable allowlist",
        "privileged-helper protocol", "per-layer rediscovery implementation",
        "interruption and recovery semantics", "disposable write matrix"] }
  pure { manifest with manifestId := manifest.computeManifestId }

end Freezing

section Compilation

def buildNativeOperationSpec : FrozenIntentAction → NativeOperationSpec
  | .revalidateSnapshot => .revalidateSnapshot
  | .backupLvmMetadata vgUuid => .backupLvmMetadata vgUuid
  | .backupPartitionTableMetadata disk tableLabel tableId =>
    .backupPartitionTableMetadata disk tableLabel tableId
  | .extendPartition partition startSector oldSizeSectors newSizeSectors sectorSizeBytes =>
    .extendPartition partition startSector oldSizeSectors newSizeSectors sectorSizeBytes
  | .resizePhysicalVolume pvUuid expectedPvSizeBytes =>
    .resizePhysicalVolume pvUuid expectedPvSizeBytes
  | .extendLogicalVolume lvUuid additionalExtents expectedLvSizeBytes =>
    .extendLogicalVolume lvUuid additionalExtents expectedLvSizeBytes
  | .growFilesystem fsType mountpoint => .growFilesystem fsType mountpoint
  | .rediscoverAndVerify => .rediscoverAndVerify

def compileNativeStep (step : FrozenIntentStep) : NativeCompiledStep where
  planStepId := step.planStepId
  dependsOn := step.dependsOn
  reversibility := step.reversibility
  role := step.role
  operation := buildNativeOperationSpec step.action

def compileNativeBarrier (barrier : VerificationBarrierSpec) : NativeVerificationBarrier where
  afterPlanStepId := barrier.afterPlanStepId
  beforeNextMutation := barrier.beforeNextMutation
  requireFreshTargetIdentity := barrier.requireFreshTargetIdentity
  requireFreshCapabilities := barrier.requireFreshCapabilities
  requireExpectedStateCheck := barrier.requireExpectedStateCheck
  stopOnMismatch := barrier.stopOnMismatch

def compileNativeManifest (manifest : FrozenExecutionIntentManifest) : NativeCompiledManifest where
  sourceManifestId := manifest.manifestId
  steps := manifest.steps.map compileNativeStep
  verificationBarriers := manifest.verificationBarriers.map compileNativeBarrier

end Compilation

end StorageManager.Executor.JournalStore
