import Mathlib.Data.List.Infix
import StorageManager.Fingerprint

/-!
# The operation journal

The lifecycle of one privileged operation: the frozen bindings, the journal
record, and the single function that moves it. `apply` returns its result together
with the journal it leaves behind, so a failing call shows its effect on the state.
-/

namespace StorageManager.Planner.ExecutionGuard

open Lib.Json (Value ToJson toJson optionalField)

set_option autoImplicit false

/-- The fields of the guard plan that a journal is made from. -/
structure ExecutionGuardPlan where
  guardId : String
  planId : String
  target : String
  baselineManifestDigest : String
  deriving DecidableEq

inductive JournalPhase where
  | planned
  | hostLockHeld
  | identityRevalidated
  | preconditionsVerified
  | approved
  | executing
  | verifying
  | completed
  | aborted
  | recoveryRequired
  deriving DecidableEq, Repr

inductive ResumeDisposition where
  | restartFromFreshPlan
  | recoveryRequired
  | complete
  deriving DecidableEq, Repr

structure JournalEvent where
  sequence : Nat
  source : JournalPhase
  target : JournalPhase
  code : String
  detail : String
  deriving DecidableEq

structure ExactApprovalBinding where
  schemaVersion : Nat
  approvalId : String
  planId : String
  evidenceBundleId : String
  targetManifestDigest : String
  lockedSessionId : String
  preconditionsJournalDigest : String
  deriving DecidableEq

structure ExecutionStartBinding where
  schemaVersion : Nat
  executionId : String
  journalId : String
  planId : String
  approvalId : String
  sourceManifestId : String
  nativeManifestDigest : String
  freshIdentityDigest : String
  mutationStepIds : List Nat
  approvedJournalDigest : String
  deriving DecidableEq

structure VerifiedMutationBoundaryBinding where
  schemaVersion : Nat
  boundaryId : String
  executionId : String
  completedStepId : Nat
  nextStepId : Nat
  freshIdentityDigest : String
  finalStepId : Option Nat
  finalIdentityDigest : Option String
  deriving DecidableEq

structure OperationJournal where
  schemaVersion : Nat
  journalId : String
  planId : String
  target : String
  baselineManifestDigest : String
  phase : JournalPhase
  mutationMayHaveStarted : Bool
  approval : Option ExactApprovalBinding
  execution : Option ExecutionStartBinding
  verifiedBoundary : Option VerifiedMutationBoundaryBinding
  events : List JournalEvent
  deriving DecidableEq

section Serialization

/-- The snake_case name serde writes for a phase. -/
def JournalPhase.name : JournalPhase → String
  | .planned => "planned"
  | .hostLockHeld => "host_lock_held"
  | .identityRevalidated => "identity_revalidated"
  | .preconditionsVerified => "preconditions_verified"
  | .approved => "approved"
  | .executing => "executing"
  | .verifying => "verifying"
  | .completed => "completed"
  | .aborted => "aborted"
  | .recoveryRequired => "recovery_required"

instance : ToJson JournalPhase := ⟨fun p => toJson p.name⟩

instance : ToJson JournalEvent where
  toJson e := .obj [("sequence", toJson e.sequence), ("from", toJson e.source),
    ("to", toJson e.target), ("code", toJson e.code), ("detail", toJson e.detail)]

instance : ToJson ExactApprovalBinding where
  toJson a := .obj [("schema_version", toJson a.schemaVersion), ("approval_id", toJson a.approvalId),
    ("plan_id", toJson a.planId), ("evidence_bundle_id", toJson a.evidenceBundleId),
    ("target_manifest_digest", toJson a.targetManifestDigest),
    ("locked_session_id", toJson a.lockedSessionId),
    ("preconditions_journal_digest", toJson a.preconditionsJournalDigest)]

instance : ToJson ExecutionStartBinding where
  toJson b := .obj [("schema_version", toJson b.schemaVersion), ("execution_id", toJson b.executionId),
    ("journal_id", toJson b.journalId), ("plan_id", toJson b.planId),
    ("approval_id", toJson b.approvalId), ("source_manifest_id", toJson b.sourceManifestId),
    ("native_manifest_digest", toJson b.nativeManifestDigest),
    ("fresh_identity_digest", toJson b.freshIdentityDigest),
    ("mutation_step_ids", toJson b.mutationStepIds),
    ("approved_journal_digest", toJson b.approvedJournalDigest)]

instance : ToJson VerifiedMutationBoundaryBinding where
  toJson v := .obj <| [("schema_version", toJson v.schemaVersion), ("boundary_id", toJson v.boundaryId),
    ("execution_id", toJson v.executionId), ("completed_step_id", toJson v.completedStepId),
    ("next_step_id", toJson v.nextStepId), ("fresh_identity_digest", toJson v.freshIdentityDigest)]
    ++ optionalField "final_step_id" v.finalStepId
    ++ optionalField "final_identity_digest" v.finalIdentityDigest

instance : ToJson OperationJournal where
  toJson j := .obj <| [("schema_version", toJson j.schemaVersion), ("journal_id", toJson j.journalId),
    ("plan_id", toJson j.planId), ("target", toJson j.target),
    ("baseline_manifest_digest", toJson j.baselineManifestDigest), ("phase", toJson j.phase),
    ("mutation_may_have_started", toJson j.mutationMayHaveStarted), ("approval", toJson j.approval),
    ("execution", toJson j.execution)]
    ++ optionalField "verified_boundary" j.verifiedBoundary ++ [("events", toJson j.events)]

end Serialization

section Bindings

variable [Fingerprint]

def ExactApprovalBinding.expectedApprovalId (a : ExactApprovalBinding) : String :=
  fingerprint (.arr [toJson a.schemaVersion, toJson a.planId, toJson a.evidenceBundleId,
    toJson a.targetManifestDigest, toJson a.lockedSessionId, toJson a.preconditionsJournalDigest])

def ExactApprovalBinding.integrityMatches (a : ExactApprovalBinding) : Bool :=
  a.approvalId == a.expectedApprovalId

def ExecutionStartBinding.expectedExecutionId (b : ExecutionStartBinding) : String :=
  fingerprint (.arr [toJson b.schemaVersion, toJson b.journalId, toJson b.planId,
    toJson b.approvalId, toJson b.sourceManifestId, toJson b.nativeManifestDigest,
    toJson b.freshIdentityDigest, toJson b.mutationStepIds, toJson b.approvedJournalDigest])

def ExecutionStartBinding.integrityMatches (b : ExecutionStartBinding) : Bool :=
  b.executionId == b.expectedExecutionId

def VerifiedMutationBoundaryBinding.expectedBoundaryId
    (v : VerifiedMutationBoundaryBinding) : String :=
  if v.schemaVersion = 1 then
    fingerprint (.arr [toJson v.schemaVersion, toJson v.executionId, toJson v.completedStepId,
      toJson v.nextStepId, toJson v.freshIdentityDigest])
  else
    fingerprint (.arr [toJson v.schemaVersion, toJson v.executionId, toJson v.completedStepId,
      toJson v.nextStepId, toJson v.freshIdentityDigest, toJson v.finalStepId,
      toJson v.finalIdentityDigest])

def VerifiedMutationBoundaryBinding.integrityMatches
    (v : VerifiedMutationBoundaryBinding) : Bool :=
  v.boundaryId == v.expectedBoundaryId

inductive ExecutionStartBindingError where
  | journalNotApproved
  | mutationAlreadyStarted
  | approvalMissing
  | invalidSourceManifestId
  | invalidNativeManifestDigest
  | freshIdentityMismatch
  | invalidMutationStepSequence
  deriving DecidableEq

def buildExecutionStartBinding (journal : OperationJournal)
    (sourceManifestId nativeManifestDigest freshIdentityDigest : String)
    (mutationStepIds : List Nat) :
    Except ExecutionStartBindingError ExecutionStartBinding :=
  if journal.phase ≠ .approved then .error .journalNotApproved
  else if journal.mutationMayHaveStarted || journal.execution.isSome
      || journal.verifiedBoundary.isSome then .error .mutationAlreadyStarted
  else match journal.approval with
    | none => .error .approvalMissing
    | some approval =>
      if ¬isSha256Hex sourceManifestId then .error .invalidSourceManifestId
      else if ¬isSha256Hex nativeManifestDigest then .error .invalidNativeManifestDigest
      else if freshIdentityDigest ≠ journal.baselineManifestDigest then
        .error .freshIdentityMismatch
      else if mutationStepIds = [] ∨ 0 ∈ mutationStepIds ∨ ¬mutationStepIds.Nodup then
        .error .invalidMutationStepSequence
      else
        let binding : ExecutionStartBinding :=
          { schemaVersion := 1
            executionId := ""
            journalId := journal.journalId
            planId := journal.planId
            approvalId := approval.approvalId
            sourceManifestId
            nativeManifestDigest
            freshIdentityDigest
            mutationStepIds
            approvedJournalDigest := fingerprint (toJson journal) }
        .ok { binding with executionId := binding.expectedExecutionId }

end Bindings

inductive JournalTransition where
  | hostLockAcquired
  | identityRevalidated (freshManifestDigest : String)
  | preconditionsVerified
  | exactPlanApproved (approvedPlanId : String) (approval : ExactApprovalBinding)
  | executionStarted (binding : ExecutionStartBinding)
  | verificationStarted
  | verificationPassedContinue (completedStepId nextStepId : Nat) (freshIdentityDigest : String)
  | verificationPassedComplete (completedStepId : Nat) (freshIdentityDigest : String)
  | completed
  | interrupted (reason : String)
  | abort (reason : String)
  deriving DecidableEq

inductive JournalError where
  | invalidTransition (phase : JournalPhase) (action : String)
  | identityMismatch
  | approvalMismatch
  | approvalBindingSchemaMismatch
  | approvalBindingPlanMismatch
  | approvalBindingTargetMismatch
  | approvalBindingIntegrityMismatch
  | approvalBindingJournalMismatch
  | executionBindingSchemaMismatch
  | executionBindingJournalIdMismatch
  | executionBindingPlanMismatch
  | executionBindingApprovalMismatch
  | executionBindingIdentityMismatch
  | executionBindingIntegrityMismatch
  | executionBindingApprovedJournalMismatch
  | executionBindingApprovalMissing
  | verificationExecutionBindingMissing
  | verificationSequenceMismatch
  | verificationIdentityDigestInvalid
  | completionVerifiedBoundaryMismatch
  | terminal
  deriving DecidableEq

namespace OperationJournal

def new (guard : ExecutionGuardPlan) : OperationJournal where
  schemaVersion := 1
  journalId := guard.guardId
  planId := guard.planId
  target := guard.target
  baselineManifestDigest := guard.baselineManifestDigest
  phase := .planned
  mutationMayHaveStarted := false
  approval := none
  execution := none
  verifiedBoundary := none
  events := []

def pushEvent (j : OperationJournal) (source target : JournalPhase) (code detail : String) :
    OperationJournal :=
  { j with events := j.events ++ [⟨j.events.length + 1, source, target, code, detail⟩] }

def invalid (j : OperationJournal) (action : String) : JournalError :=
  .invalidTransition j.phase action

/-- The journal moved to a phase with one more event. -/
def moved (j : OperationJournal) (next : JournalPhase) (code detail : String) :
    OperationJournal :=
  { j with phase := next }.pushEvent j.phase next code detail

def advance (j : OperationJournal) (expected next : JournalPhase) (code detail : String) :
    Except JournalError Unit × OperationJournal :=
  if j.phase ≠ expected then (.error (j.invalid code), j)
  else (.ok (), j.moved next code detail)

/-- Some two neighbours of the list are `a` and `b`, in this order. -/
def orderedPair (ids : List Nat) (a b : Nat) : Bool :=
  (ids.zip ids.tail).any fun pair => pair.1 == a && pair.2 == b

section Apply

variable [Fingerprint]

def applyExactPlanApproved (j : OperationJournal) (approvedPlanId : String)
    (approval : ExactApprovalBinding) : Except JournalError Unit × OperationJournal :=
  if j.phase ≠ .preconditionsVerified then (.error (j.invalid "exact_plan_approved"), j)
  else if approvedPlanId ≠ j.planId then (.error .approvalMismatch, j)
  else if approval.schemaVersion ≠ 1 then (.error .approvalBindingSchemaMismatch, j)
  else if approval.planId ≠ j.planId then (.error .approvalBindingPlanMismatch, j)
  else if approval.targetManifestDigest ≠ j.baselineManifestDigest then
    (.error .approvalBindingTargetMismatch, j)
  else if ¬approval.integrityMatches then (.error .approvalBindingIntegrityMismatch, j)
  else if fingerprint (toJson j) ≠ approval.preconditionsJournalDigest then
    (.error .approvalBindingJournalMismatch, j)
  else match j.advance .preconditionsVerified .approved "exact-plan-approved"
      "approval recorded for the exact frozen plan and precondition evidence" with
    | (.error e, j') => (.error e, j')
    | (.ok (), j') => (.ok (), { j' with approval := some approval })

def applyExecutionStarted (j : OperationJournal) (binding : ExecutionStartBinding) :
    Except JournalError Unit × OperationJournal :=
  if j.phase ≠ .approved then (.error (j.invalid "execution_started"), j)
  else match j.approval with
    | none => (.error .executionBindingApprovalMissing, j)
    | some approval =>
      if binding.schemaVersion ≠ 1 then (.error .executionBindingSchemaMismatch, j)
      else if binding.journalId ≠ j.journalId then (.error .executionBindingJournalIdMismatch, j)
      else if binding.planId ≠ j.planId then (.error .executionBindingPlanMismatch, j)
      else if binding.approvalId ≠ approval.approvalId then
        (.error .executionBindingApprovalMismatch, j)
      else if binding.freshIdentityDigest ≠ j.baselineManifestDigest then
        (.error .executionBindingIdentityMismatch, j)
      else if ¬binding.integrityMatches then (.error .executionBindingIntegrityMismatch, j)
      else if fingerprint (toJson j) ≠ binding.approvedJournalDigest then
        (.error .executionBindingApprovedJournalMismatch, j)
      else match j.advance .approved .executing "execution-started"
          "exact native manifest entered mutating execution; blind replay is no longer allowed" with
        | (.error e, j') => (.error e, j')
        | (.ok (), j') =>
          (.ok (), { j' with mutationMayHaveStarted := true, execution := some binding })

/-- The boundary a passed verification freezes, before the final step is known. -/
def continueBoundary (execution : ExecutionStartBinding) (completedStepId nextStepId : Nat)
    (freshIdentityDigest : String) : VerifiedMutationBoundaryBinding :=
  let boundary : VerifiedMutationBoundaryBinding :=
    { schemaVersion := 1
      boundaryId := ""
      executionId := execution.executionId
      completedStepId
      nextStepId
      freshIdentityDigest
      finalStepId := none
      finalIdentityDigest := none }
  { boundary with boundaryId := boundary.expectedBoundaryId }

def applyVerificationPassedContinue (j : OperationJournal) (completedStepId nextStepId : Nat)
    (freshIdentityDigest : String) : Except JournalError Unit × OperationJournal :=
  if j.phase ≠ .verifying then (.error (j.invalid "verification_passed_continue"), j)
  else match j.execution with
    | none => (.error .verificationExecutionBindingMissing, j)
    | some execution =>
      if completedStepId = 0 ∨ nextStepId = 0 ∨ completedStepId = nextStepId
          ∨ ¬orderedPair execution.mutationStepIds completedStepId nextStepId then
        (.error .verificationSequenceMismatch, j)
      else if ¬isSha256Hex freshIdentityDigest then (.error .verificationIdentityDigestInvalid, j)
      else
        let boundary := continueBoundary execution completedStepId nextStepId freshIdentityDigest
        (.ok (), { j with phase := .executing, verifiedBoundary := some boundary }.pushEvent
          j.phase .executing "verification-passed-continue"
          s!"mutation step {completedStepId} verified; next mutation step {nextStepId} may proceed")

/-- The boundary with the terminal step and its digest bound in. -/
def finalBoundary (boundary : VerifiedMutationBoundaryBinding) (completedStepId : Nat)
    (freshIdentityDigest : String) : VerifiedMutationBoundaryBinding :=
  let final := { boundary with
    schemaVersion := 2
    finalStepId := some completedStepId
    finalIdentityDigest := some freshIdentityDigest }
  { final with boundaryId := final.expectedBoundaryId }

def applyVerificationPassedComplete (j : OperationJournal) (completedStepId : Nat)
    (freshIdentityDigest : String) : Except JournalError Unit × OperationJournal :=
  if j.phase ≠ .verifying then (.error (j.invalid "verification_passed_complete"), j)
  else match j.execution with
    | none => (.error .verificationExecutionBindingMissing, j)
    | some execution =>
      if execution.mutationStepIds.length < 2
          ∨ execution.mutationStepIds.getLast? ≠ some completedStepId then
        (.error .verificationSequenceMismatch, j)
      else if ¬isSha256Hex freshIdentityDigest then (.error .verificationIdentityDigestInvalid, j)
      else match j.verifiedBoundary with
        | none => (.error .completionVerifiedBoundaryMismatch, j)
        | some boundary =>
          if boundary.executionId ≠ execution.executionId
              ∨ boundary.nextStepId ≠ completedStepId ∨ ¬boundary.integrityMatches then
            (.error .completionVerifiedBoundaryMismatch, j)
          else
            -- The boundary is overwritten in place before `advance` is asked.
            let final := finalBoundary boundary completedStepId freshIdentityDigest
            { j with verifiedBoundary := some final }.advance .verifying .completed
              "verification-passed-complete"
              "final mutation step verified against fresh topology and expected invariants"

def applyCompleted (j : OperationJournal) : Except JournalError Unit × OperationJournal :=
  if j.phase ≠ .verifying then (.error (j.invalid "completed"), j)
  else match j.execution with
    | none => (.error .verificationExecutionBindingMissing, j)
    | some execution =>
      if execution.mutationStepIds.length > 1 then (.error .completionVerifiedBoundaryMismatch, j)
      else j.advance .verifying .completed "completed"
        "final topology and expected invariants verified"

def apply (j : OperationJournal) (transition : JournalTransition) :
    Except JournalError Unit × OperationJournal :=
  if j.phase = .completed ∨ j.phase = .aborted ∨ j.phase = .recoveryRequired then
    (.error .terminal, j)
  else match transition with
    | .hostLockAcquired =>
      j.advance .planned .hostLockHeld "host-lock-acquired"
        "host-exclusive storage-operation lock acquired"
    | .identityRevalidated freshManifestDigest =>
      if j.phase ≠ .hostLockHeld then (.error (j.invalid "identity_revalidated"), j)
      else if freshManifestDigest ≠ j.baselineManifestDigest then (.error .identityMismatch, j)
      else j.advance .hostLockHeld .identityRevalidated "identity-revalidated"
        "fresh target identity exactly matches the frozen baseline"
    | .preconditionsVerified =>
      j.advance .identityRevalidated .preconditionsVerified "preconditions-verified"
        "filesystem decision, backups and other future executor prerequisites verified"
    | .exactPlanApproved approvedPlanId approval => j.applyExactPlanApproved approvedPlanId approval
    | .executionStarted binding => j.applyExecutionStarted binding
    | .verificationStarted =>
      j.advance .executing .verifying "verification-started"
        "post-mutation rediscovery and verification started"
    | .verificationPassedContinue completedStepId nextStepId freshIdentityDigest =>
      j.applyVerificationPassedContinue completedStepId nextStepId freshIdentityDigest
    | .verificationPassedComplete completedStepId freshIdentityDigest =>
      j.applyVerificationPassedComplete completedStepId freshIdentityDigest
    | .completed => j.applyCompleted
    | .interrupted reason =>
      if j.mutationMayHaveStarted || j.phase == .executing || j.phase == .verifying then
        (.ok (), j.moved .recoveryRequired "interrupted-after-mutation-boundary" reason)
      else (.ok (), j.moved .aborted "interrupted-before-mutation" reason)
    | .abort reason =>
      if j.mutationMayHaveStarted then
        (.ok (), j.moved .recoveryRequired "abort-after-mutation-boundary" reason)
      else (.ok (), j.moved .aborted "aborted" reason)

end Apply

def resumeDisposition (j : OperationJournal) : ResumeDisposition :=
  match j.phase with
  | .completed => .complete
  | .executing | .verifying | .recoveryRequired => .recoveryRequired
  | .planned | .hostLockHeld | .identityRevalidated | .preconditionsVerified | .approved
  | .aborted => .restartFromFreshPlan

end OperationJournal

end StorageManager.Planner.ExecutionGuard
