import StorageManager.Lib.DependencyGraph
import StorageManager.Planner.PlanStep
import StorageManager.Planner.TargetIdentity

/-!
# Native operations

The typed operations a plan is compiled to, and the checks a compiled manifest passes: its
dependency graph, the order of its layers, the roles of its steps and one fail-closed
barrier after each mutation.
-/

namespace StorageManager.Executor

open Lib.Checks
open Lib.Json (Value ToJson toJson)
open Planner (Reversibility)

set_option autoImplicit false

inductive FrozenIntentRole where
  | preExecutionEvidence
  | mutationCandidate
  | verification
  deriving DecidableEq

inductive NativeOperationSpec where
  | revalidateSnapshot
  | backupLvmMetadata (vgUuid : String)
  | backupPartitionTableMetadata (disk tableLabel : String) (tableId : Option String)
  | extendPartition (partition : String) (startSector oldSizeSectors newSizeSectors : Nat)
      (sectorSizeBytes : Nat)
  | resizePhysicalVolume (pvUuid : String) (expectedPvSizeBytes : Nat)
  | extendLogicalVolume (lvUuid : String) (additionalExtents expectedLvSizeBytes : Nat)
  | growFilesystem (fsType : String) (mountpoint : Option String)
  | rediscoverAndVerify
  deriving DecidableEq

structure NativeCompiledStep where
  planStepId : Nat
  dependsOn : List Nat
  reversibility : Reversibility
  role : FrozenIntentRole
  operation : NativeOperationSpec
  deriving DecidableEq

structure NativeVerificationBarrier where
  afterPlanStepId : Nat
  beforeNextMutation : Bool
  requireFreshTargetIdentity : Bool
  requireFreshCapabilities : Bool
  requireExpectedStateCheck : Bool
  stopOnMismatch : Bool
  deriving DecidableEq

structure NativeCompiledManifest where
  sourceManifestId : String
  steps : List NativeCompiledStep
  verificationBarriers : List NativeVerificationBarrier
  deriving DecidableEq

section Serialization

instance : ToJson FrozenIntentRole where
  toJson
    | .preExecutionEvidence => .str "pre_execution_evidence"
    | .mutationCandidate => .str "mutation_candidate"
    | .verification => .str "verification"

instance : ToJson NativeOperationSpec where
  toJson
    | .revalidateSnapshot => .obj [("operation", .str "revalidate_snapshot")]
    | .backupLvmMetadata vgUuid =>
      .obj [("operation", .str "backup_lvm_metadata"), ("vg_uuid", toJson vgUuid)]
    | .backupPartitionTableMetadata disk tableLabel tableId =>
      .obj [("operation", .str "backup_partition_table_metadata"), ("disk", toJson disk),
        ("table_label", toJson tableLabel), ("table_id", toJson tableId)]
    | .extendPartition partition startSector oldSizeSectors newSizeSectors sectorSizeBytes =>
      .obj [("operation", .str "extend_partition"), ("partition", toJson partition),
        ("start_sector", toJson startSector), ("old_size_sectors", toJson oldSizeSectors),
        ("new_size_sectors", toJson newSizeSectors), ("sector_size_bytes", toJson sectorSizeBytes)]
    | .resizePhysicalVolume pvUuid expectedPvSizeBytes =>
      .obj [("operation", .str "resize_physical_volume"), ("pv_uuid", toJson pvUuid),
        ("expected_pv_size_bytes", toJson expectedPvSizeBytes)]
    | .extendLogicalVolume lvUuid additionalExtents expectedLvSizeBytes =>
      .obj [("operation", .str "extend_logical_volume"), ("lv_uuid", toJson lvUuid),
        ("additional_extents", toJson additionalExtents),
        ("expected_lv_size_bytes", toJson expectedLvSizeBytes)]
    | .growFilesystem fsType mountpoint =>
      .obj [("operation", .str "grow_filesystem"), ("fs_type", toJson fsType),
        ("mountpoint", toJson mountpoint)]
    | .rediscoverAndVerify => .obj [("operation", .str "rediscover_and_verify")]

instance : ToJson NativeCompiledStep where
  toJson s := .obj [("plan_step_id", toJson s.planStepId), ("depends_on", toJson s.dependsOn),
    ("reversibility", toJson s.reversibility), ("role", toJson s.role),
    ("operation", toJson s.operation)]

instance : ToJson NativeVerificationBarrier where
  toJson b := .obj [("after_plan_step_id", toJson b.afterPlanStepId),
    ("before_next_mutation", toJson b.beforeNextMutation),
    ("require_fresh_target_identity", toJson b.requireFreshTargetIdentity),
    ("require_fresh_capabilities", toJson b.requireFreshCapabilities),
    ("require_expected_state_check", toJson b.requireExpectedStateCheck),
    ("stop_on_mismatch", toJson b.stopOnMismatch)]

end Serialization

section Validation

inductive NativeManifestValidationError where
  | graph (source : Lib.DependencyGraph.GraphError)
  | roleOperationMismatch (stepId : Nat)
  | unsafeLayerOrder (before after : Nat)
  | missingVerificationBarrier (stepId : Nat)
  | duplicateVerificationBarrier (stepId : Nat)
  | unexpectedVerificationBarrier (stepId : Nat)
  | unsafeVerificationBarrier (stepId : Nat)
  deriving DecidableEq

def NativeOperationSpec.isMutation : NativeOperationSpec → Bool
  | .extendPartition .. | .resizePhysicalVolume .. | .extendLogicalVolume .. | .growFilesystem .. =>
    true
  | _ => false

def expectedRole : NativeOperationSpec → FrozenIntentRole
  | .revalidateSnapshot | .backupLvmMetadata _ | .backupPartitionTableMetadata .. =>
    .preExecutionEvidence
  | .extendPartition .. | .resizePhysicalVolume .. | .extendLogicalVolume .. | .growFilesystem .. =>
    .mutationCandidate
  | .rediscoverAndVerify => .verification

def mutationLayerRank : NativeOperationSpec → Option Nat
  | .extendPartition .. => some 1
  | .resizePhysicalVolume .. => some 2
  | .extendLogicalVolume .. => some 3
  | .growFilesystem .. => some 4
  | _ => none

def NativeCompiledStep.node (step : NativeCompiledStep) : Lib.DependencyGraph.Node :=
  ⟨step.planStepId, step.dependsOn⟩

/-- `required` is among the dependencies of `current`, or of these. The graph has no cycle
when this is asked, so as many levels as there are steps are enough. -/
def dependsOnWithin (deps : Nat → List Nat) : Nat → Nat → Nat → Bool
  | 0, _, _ => false
  | levels + 1, current, required =>
    (deps current).any fun d => d == required || dependsOnWithin deps levels d required

/-- The mutations with their layers. -/
def rankedMutations (steps : List NativeCompiledStep) : List (NativeCompiledStep × Nat) :=
  steps.filterMap fun step => (mutationLayerRank step.operation).map fun rank => (step, rank)

/-- A higher layer depends on each lower one. -/
def layersOrdered (steps : List NativeCompiledStep)
    (earlier later : NativeCompiledStep × Nat) : Bool :=
  !decide (earlier.2 < later.2) ||
    dependsOnWithin (Lib.DependencyGraph.dependencies (steps.map (·.node))) steps.length
      later.1.planStepId earlier.1.planStepId

def validateNativeLayerOrder (steps : List NativeCompiledStep) :
    Except NativeManifestValidationError Unit :=
  let mutations := rankedMutations steps
  match mutations.findSome? fun earlier =>
      (mutations.find? fun later => !layersOrdered steps earlier later).map fun later =>
        (earlier.1.planStepId, later.1.planStepId) with
  | some (before, after) => .error (.unsafeLayerOrder before after)
  | none => .ok ()

def NativeVerificationBarrier.failClosed (b : NativeVerificationBarrier) : Bool :=
  b.beforeNextMutation && b.requireFreshTargetIdentity && b.requireFreshCapabilities &&
    b.requireExpectedStateCheck && b.stopOnMismatch

def validateRoles : List NativeCompiledStep → Except NativeManifestValidationError Unit
  | [] => .ok ()
  | step :: steps => do
    refuse (step.role ≠ expectedRole step.operation) (.roleOperationMismatch step.planStepId)
    validateRoles steps

def validateBarriers (steps : List NativeCompiledStep) :
    List NativeVerificationBarrier → Except NativeManifestValidationError Unit
  | [] => .ok ()
  | barrier :: barriers =>
    match steps.find? (·.planStepId == barrier.afterPlanStepId) with
    | none => .error (.unexpectedVerificationBarrier barrier.afterPlanStepId)
    | some step => do
      refuse (¬step.operation.isMutation) (.unexpectedVerificationBarrier barrier.afterPlanStepId)
      refuse (¬barrier.failClosed) (.unsafeVerificationBarrier barrier.afterPlanStepId)
      validateBarriers steps barriers

def validateBarrierCounts (barriers : List NativeVerificationBarrier) :
    List NativeCompiledStep → Except NativeManifestValidationError Unit
  | [] => .ok ()
  | step :: steps =>
    if step.operation.isMutation then
      match barriers.countP (·.afterPlanStepId == step.planStepId) with
      | 0 => .error (.missingVerificationBarrier step.planStepId)
      | 1 => validateBarrierCounts barriers steps
      | _ => .error (.duplicateVerificationBarrier step.planStepId)
    else validateBarrierCounts barriers steps

def validateNativeManifest (manifest : NativeCompiledManifest) :
    Except NativeManifestValidationError Unit := do
  (Lib.DependencyGraph.checkGraph (manifest.steps.map (·.node))).mapError .graph
  validateNativeLayerOrder manifest.steps
  validateRoles manifest.steps
  validateBarriers manifest.steps manifest.verificationBarriers
  validateBarrierCounts manifest.verificationBarriers manifest.steps

variable [Fingerprint]

def nativeManifestDigest (manifest : NativeCompiledManifest) : String :=
  fingerprint (.arr [toJson manifest.sourceManifestId, toJson manifest.steps,
    toJson manifest.verificationBarriers])

/-- A manifest that passed its checks, with its digest. -/
structure ValidatedNativeManifest where
  manifest : NativeCompiledManifest
  valid : validateNativeManifest manifest = .ok ()

def ValidatedNativeManifest.digest (validated : ValidatedNativeManifest) : String :=
  nativeManifestDigest validated.manifest

omit [Fingerprint] in
/-- The steps of a validated manifest have distinct nonzero numbers. -/
theorem ValidatedNativeManifest.ids (validated : ValidatedNativeManifest) :
    (∀ step ∈ validated.manifest.steps, step.planStepId ≠ 0) ∧
      (validated.manifest.steps.map (·.planStepId)).Nodup := by
  have hgraph := mapError_eq_ok_iff.mp (check_eq_ok_iff.mp validated.valid).1
  obtain ⟨hzero, hnodup⟩ := Lib.DependencyGraph.checkGraph_ids hgraph
  refine ⟨fun step hstep => hzero step.node (List.mem_map_of_mem hstep), ?_⟩
  rw [List.map_map] at hnodup
  exact hnodup

end Validation

end StorageManager.Executor
