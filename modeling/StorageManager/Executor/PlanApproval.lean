import StorageManager.Executor.PreconditionEvidence

/-!
# Verified preconditions and the exact approval

Complete evidence lets the journal of its session advance, and is turned into a verification.
The operator approves one verification, by its plan, its evidence and its target; what is
approved is bound into the journal.
-/

namespace StorageManager.Executor.JournalStore

open Lib.Checks
open Lib.Directory (DirProc)
open Lib.Effects
open Planner
open Planner.ExecutionGuard

set_option autoImplicit false

structure PreconditionsVerification where
  bundleId : String
  lockedSessionId : String
  journalId : String
  planId : String
  targetManifestDigest : String
  journalDigest : String
  filesystemDecision : FilesystemGrowthDecision
  deriving DecidableEq

inductive PreconditionsVerificationError where
  | sessionNotIdentityRevalidated
  | durableJournalRequired
  | mutationEnabled
  | unsupportedEvidenceSchema
  | evidenceIntegrityMismatch
  | sessionBindingMismatch
  | handoffBindingMismatch
  | planBindingMismatch
  | targetBindingMismatch
  | backupBindingInvalid
  | backupReceiptNotRevalidated
  | evidenceIncomplete
  | evidenceBlocked
  | filesystemNotReady
  | filesystemChecksRemain
  | ownerAcceptanceInvariant
  | session (source : LockedSessionError)
  deriving DecidableEq

structure ExactPlanApproval where
  binding : ExactApprovalBinding
  journalId : String
  filesystemDecision : FilesystemGrowthDecision
  ownerAcceptanceRequired : Bool
  mutationEnabled : Bool
  deriving DecidableEq

inductive ExactPlanApprovalError where
  | operatorConfirmationMismatch
  | sessionNotPreconditionsVerified
  | durableJournalRequired
  | mutationEnabled
  | verificationSessionMismatch
  | verificationJournalMismatch
  | verificationPlanMismatch
  | verificationTargetMismatch
  | verificationJournalStale
  | approvedPlanMismatch
  | approvedEvidenceMismatch
  | approvedTargetMismatch
  | invalidDigestIdentity
  | ownerAcceptanceInvariant
  | session (source : LockedSessionError)
  deriving DecidableEq

/-- A gate about the filesystem is left. -/
def isFilesystemGate (gate : String) : Bool :=
  startsWith gate "filesystem:" || startsWith gate "filesystem check required:"

variable [Fingerprint]

section Preconditions

/-- The identities of the evidence that have to be digests. -/
def evidenceDigests (evidence : PreMutationEvidenceBundle) : List String :=
  [evidence.bundleId, evidence.lockedSessionId, evidence.handoffId, evidence.planId,
    evidence.targetManifestDigest, evidence.backupManifestId, evidence.backupReceiptId] ++
    evidence.filesystemHealthReceiptId.toList

/-- Everything that is checked before the journal advances. -/
def checkPreconditions (session : LockedExecutionSession) (evidence : PreMutationEvidenceBundle) :
    Except PreconditionsVerificationError Unit := do
  refuse (session.journal.phase ≠ .identityRevalidated) .sessionNotIdentityRevalidated
  refuse (¬session.durable) .durableJournalRequired
  refuse (mutationEnabled ∨ session.handoff.mutationEnabled ∨ evidence.mutationEnabled)
    .mutationEnabled
  refuse (evidence.schemaVersion ≠ 3) .unsupportedEvidenceSchema
  refuse (¬evidence.integrityMatches) .evidenceIntegrityMismatch
  refuse (evidence.lockedSessionId ≠ session.sessionId) .sessionBindingMismatch
  refuse (evidence.handoffId ≠ session.handoff.handoffId) .handoffBindingMismatch
  refuse (evidence.planId ≠ session.handoff.planId) .planBindingMismatch
  refuse (evidence.targetManifestDigest ≠ session.handoff.manifestDigest) .targetBindingMismatch
  refuse (¬session.handoff.ownerAcceptanceRequired ∨ ¬evidence.ownerAcceptanceRequired)
    .ownerAcceptanceInvariant
  refuse ((evidenceDigests evidence).any fun value => !isLowerHexDigest value) .backupBindingInvalid
  refuse (¬evidence.backupReceiptRevalidated) .backupReceiptNotRevalidated
  refuse (evidence.status ≠ .evidenceComplete) .evidenceIncomplete
  refuse (evidence.blockers ≠ []) .evidenceBlocked
  refuse (¬evidence.filesystemDecision.executionReady) .filesystemNotReady
  refuse (evidence.filesystemDecision.readOnlyCheck.isSome ∨
    evidence.futureGates.any isFilesystemGate) .filesystemChecksRemain

/-- What a session has verified with its evidence, read off the journal as it is now. -/
def verificationOf (session : LockedExecutionSession) (evidence : PreMutationEvidenceBundle) :
    PreconditionsVerification where
  bundleId := evidence.bundleId
  lockedSessionId := session.sessionId
  journalId := session.journal.journalId
  planId := session.journal.planId
  targetManifestDigest := session.journal.baselineManifestDigest
  journalDigest := journalDigest session.journal
  filesystemDecision := evidence.filesystemDecision

def verifyPreconditions (fromSlice : FromSlice) (evidence : PreMutationEvidenceBundle) :
    DirProc storeEnv LockedExecutionSession PreconditionsVerificationError
      PreconditionsVerification := do
  let session ← Proc.get
  Proc.lift (checkPreconditions session evidence)
  (persistPreconditionsVerified fromSlice).mapError .session
  let session ← Proc.get
  pure (verificationOf session evidence)

end Preconditions

section Approvals

def operatorConfirmationPhrase (verification : PreconditionsVerification) : String :=
  s!"EXTEND {verification.bundleId}"

def checkApproval (session : LockedExecutionSession) (verification : PreconditionsVerification)
    (approvedPlanId approvedEvidenceBundleId approvedTargetManifestDigest : String) :
    Except ExactPlanApprovalError Unit := do
  refuse (session.journal.phase ≠ .preconditionsVerified) .sessionNotPreconditionsVerified
  refuse (¬session.durable) .durableJournalRequired
  refuse (mutationEnabled ∨ session.handoff.mutationEnabled) .mutationEnabled
  refuse (verification.lockedSessionId ≠ session.sessionId) .verificationSessionMismatch
  refuse (verification.journalId ≠ session.journal.journalId) .verificationJournalMismatch
  refuse (verification.planId ≠ session.journal.planId ∨
    verification.planId ≠ session.handoff.planId) .verificationPlanMismatch
  refuse (verification.targetManifestDigest ≠ session.journal.baselineManifestDigest ∨
    verification.targetManifestDigest ≠ session.handoff.manifestDigest) .verificationTargetMismatch
  refuse (verification.journalDigest ≠ journalDigest session.journal) .verificationJournalStale
  refuse (approvedPlanId ≠ verification.planId) .approvedPlanMismatch
  refuse (approvedEvidenceBundleId ≠ verification.bundleId) .approvedEvidenceMismatch
  refuse (approvedTargetManifestDigest ≠ verification.targetManifestDigest) .approvedTargetMismatch
  refuse (¬session.handoff.ownerAcceptanceRequired) .ownerAcceptanceInvariant
  refuse ([verification.bundleId, verification.lockedSessionId, verification.journalId,
    verification.planId, verification.targetManifestDigest, verification.journalDigest].any
      fun value => !isLowerHexDigest value) .invalidDigestIdentity

/-- The binding an approval of the verification writes. -/
def approvalBinding (verification : PreconditionsVerification) : ExactApprovalBinding :=
  let binding : ExactApprovalBinding :=
    { schemaVersion := 1
      approvalId := ""
      planId := verification.planId
      evidenceBundleId := verification.bundleId
      targetManifestDigest := verification.targetManifestDigest
      lockedSessionId := verification.lockedSessionId
      preconditionsJournalDigest := verification.journalDigest }
  { binding with approvalId := binding.expectedApprovalId }

def approveExactPlan (fromSlice : FromSlice) (verification : PreconditionsVerification)
    (approvedPlanId approvedEvidenceBundleId approvedTargetManifestDigest : String) :
    DirProc storeEnv LockedExecutionSession ExactPlanApprovalError ExactPlanApproval := do
  let session ← Proc.get
  Proc.lift (checkApproval session verification approvedPlanId approvedEvidenceBundleId
    approvedTargetManifestDigest)
  (persistExactPlanApproved fromSlice approvedPlanId (approvalBinding verification)).mapError
    .session
  let session ← Proc.get
  pure
    { binding := approvalBinding verification
      journalId := session.journal.journalId
      filesystemDecision := verification.filesystemDecision
      ownerAcceptanceRequired := true
      mutationEnabled := false }

def approveOperatorPlan (fromSlice : FromSlice) (verification : PreconditionsVerification)
    (confirmation : String) :
    DirProc storeEnv LockedExecutionSession ExactPlanApprovalError ExactPlanApproval := do
  Proc.lift (refuse (confirmation ≠ operatorConfirmationPhrase verification)
    .operatorConfirmationMismatch)
  approveExactPlan fromSlice verification verification.planId verification.bundleId
    verification.targetManifestDigest

end Approvals

end StorageManager.Executor.JournalStore
