import StorageManager.Executor.PrivilegedContinue
import StorageManager.Executor.PrivilegedExec

/-!
# Preparing a privileged invocation

A request, its command and its tools become one prepared invocation. A start receipt ties it to
the journal that is executing, a spawn authorization ties it to the tools as they are now, and
the outcome of the processes becomes a receipt of its own.
-/

namespace StorageManager.Executor

open JournalStore
open Lib.Checks
open Lib.Json (ToJson toJson)
open Planner
open Planner.ExecutionGuard

set_option autoImplicit false

inductive TrustedToolError where
  | notFound (program : PrivilegedProgram)
  | unsafeCandidate (path : String)
  | ambiguous (program : PrivilegedProgram)
  | nonUtf8Path
  | io (source : String)
  deriving DecidableEq

section Prepared

structure PreparedPrivilegedInvocation where
  schemaVersion : Nat
  preparedId : String
  requestId : String
  executionId : String
  planStepId : Nat
  liveIdentityDigest : String
  commandDigest : String
  toolResolutionDigest : String
  deriving DecidableEq

inductive PreparedInvocationError where
  | protocol (source : PrivilegedHelperProtocolError)
  | commandStepMismatch
  | toolCommandDigestMismatch
  | primaryProgramMismatch
  | kernelRefreshProgramMismatch
  | kernelRefreshPresenceMismatch
  deriving DecidableEq

variable [Fingerprint]

def PreparedPrivilegedInvocation.expectedPreparedId (p : PreparedPrivilegedInvocation) : String :=
  fingerprint (.arr [toJson p.schemaVersion, toJson p.requestId, toJson p.executionId,
    toJson p.planStepId, toJson p.liveIdentityDigest, toJson p.commandDigest,
    toJson p.toolResolutionDigest])

def PreparedPrivilegedInvocation.integrityMatches (p : PreparedPrivilegedInvocation) : Bool :=
  p.preparedId == p.expectedPreparedId

/-- A refresh has its tool, and a tool its refresh. -/
def refreshResolved (command : PrivilegedCommandSpec) (tools : PrivilegedToolResolution) :
    Except PreparedInvocationError Unit :=
  match command.kernelRefresh, tools.kernelRefresh with
  | some refresh, some identity =>
    refuse (refresh.program ≠ identity.program) .kernelRefreshProgramMismatch
  | none, none => .ok ()
  | _, _ => .error .kernelRefreshPresenceMismatch

def preparePrivilegedInvocation (request : PrivilegedHelperRequest)
    (liveIdentity : TargetIdentityManifest) (command : PrivilegedCommandSpec)
    (tools : PrivilegedToolResolution) :
    Except PreparedInvocationError PreparedPrivilegedInvocation := do
  (validatePrivilegedHelperRequest request).mapError .protocol
  (validatePrivilegedHelperLiveIdentity request liveIdentity).mapError .protocol
  refuse (command.planStepId ≠ request.planStepId) .commandStepMismatch
  refuse (tools.commandDigest ≠ command.digest) .toolCommandDigestMismatch
  refuse (tools.primary.program ≠ command.program) .primaryProgramMismatch
  refreshResolved command tools
  let prepared : PreparedPrivilegedInvocation :=
    { schemaVersion := 1
      preparedId := ""
      requestId := request.requestId
      executionId := request.executionId
      planStepId := request.planStepId
      liveIdentityDigest := liveIdentity.manifestDigest
      commandDigest := command.digest
      toolResolutionDigest := tools.digest }
  pure { prepared with preparedId := prepared.expectedPreparedId }

/-- The invocation was prepared for this request. -/
def preparedFor (prepared : PreparedPrivilegedInvocation) (request : PrivilegedHelperRequest) :
    Bool :=
  prepared.requestId == request.requestId && prepared.executionId == request.executionId &&
    prepared.planStepId == request.planStepId &&
    prepared.liveIdentityDigest == request.freshIdentityDigest

end Prepared

section Start

inductive PrivilegedExecutionStartError where
  | preparedIntegrityMismatch
  | executionIntegrityMismatch
  | preparedRequestMismatch
  | requestExecutionMismatch
  | firstStepMismatch
  | journalNotApproved
  | sessionExecutionMismatch
  | session (source : LockedSessionError)
  deriving DecidableEq

inductive PrivilegedContinuationStartError where
  | protocol (source : PrivilegedHelperProtocolError)
  | journalNotExecuting
  | executionBindingInvalid
  | verifiedBoundaryInvalid
  | stepSequenceMismatch
  | preparedIntegrityMismatch
  | preparedRequestMismatch
  | requestExecutionMismatch
  | identityBoundaryMismatch
  | session (source : LockedSessionError)
  deriving DecidableEq

variable [Fingerprint]

def validateStartBinding (journal : OperationJournal) (execution : ExecutionStartBinding)
    (request : PrivilegedHelperRequest) (prepared : PreparedPrivilegedInvocation) :
    Except PrivilegedExecutionStartError Nat := do
  refuse (¬prepared.integrityMatches) .preparedIntegrityMismatch
  refuse (¬execution.integrityMatches) .executionIntegrityMismatch
  refuse (journal.phase ≠ .approved ∨ journal.mutationMayHaveStarted ∨ journal.execution.isSome)
    .journalNotApproved
  refuse (¬preparedFor prepared request) .preparedRequestMismatch
  refuse (request.executionId ≠ execution.executionId ∨
    request.sourceManifestId ≠ execution.sourceManifestId ∨
    request.nativeManifestDigest ≠ execution.nativeManifestDigest ∨
    request.freshIdentityDigest ≠ execution.freshIdentityDigest) .requestExecutionMismatch
  let firstStep ← okOr execution.mutationStepIds.head? .firstStepMismatch
  refuse (request.planStepId ≠ firstStep) .firstStepMismatch
  refuse (journal.journalId ≠ execution.journalId ∨ journal.planId ≠ execution.planId ∨
    journal.baselineManifestDigest ≠ execution.freshIdentityDigest ∨
    journal.approval.map (·.approvalId) ≠ some execution.approvalId) .sessionExecutionMismatch
  pure firstStep

/-- The receipt of an execution that has begun with this journal. -/
def executionStartReceipt (execution : ExecutionStartBinding)
    (prepared : PreparedPrivilegedInvocation) (firstStep : Nat) (journal : OperationJournal) :
    PrivilegedExecutionStartReceipt :=
  let receipt : PrivilegedExecutionStartReceipt :=
    { schemaVersion := 1
      receiptId := ""
      executionId := execution.executionId
      preparedId := prepared.preparedId
      journalId := execution.journalId
      firstPlanStepId := firstStep
      executingJournalDigest := fingerprint (toJson journal) }
  { receipt with receiptId := receipt.expectedReceiptId }

def buildContinuationStartReceipt (journal : OperationJournal) (request : PrivilegedHelperRequest)
    (prepared : PreparedPrivilegedInvocation) :
    Except PrivilegedContinuationStartError PrivilegedContinuationStartReceipt := do
  (validatePrivilegedHelperRequest request).mapError .protocol
  refuse (journal.phase ≠ .executing ∨ ¬journal.mutationMayHaveStarted) .journalNotExecuting
  let execution ← okOr journal.execution .executionBindingInvalid
  refuse (execution.schemaVersion ≠ 1 ∨ ¬execution.integrityMatches) .executionBindingInvalid
  refuse (execution.journalId ≠ journal.journalId ∨ execution.planId ≠ journal.planId ∨
    request.executionId ≠ execution.executionId ∨
    request.sourceManifestId ≠ execution.sourceManifestId ∨
    request.nativeManifestDigest ≠ execution.nativeManifestDigest) .requestExecutionMismatch
  let boundary ← okOr journal.verifiedBoundary .verifiedBoundaryInvalid
  refuse (boundary.schemaVersion ≠ 1 ∨ ¬boundary.integrityMatches ∨
    boundary.executionId ≠ execution.executionId ∨ boundary.finalStepId.isSome ∨
    boundary.finalIdentityDigest.isSome) .verifiedBoundaryInvalid
  refuse (request.planStepId ∉ execution.mutationStepIds) .stepSequenceMismatch
  let position := execution.mutationStepIds.idxOf request.planStepId
  refuse (position = 0 ∨
    execution.mutationStepIds[position - 1]? ≠ some boundary.completedStepId ∨
    boundary.nextStepId ≠ request.planStepId) .stepSequenceMismatch
  refuse (request.freshIdentityDigest ≠ boundary.freshIdentityDigest) .identityBoundaryMismatch
  refuse (¬prepared.integrityMatches) .preparedIntegrityMismatch
  refuse (¬preparedFor prepared request) .preparedRequestMismatch
  let receipt : PrivilegedContinuationStartReceipt :=
    { schemaVersion := 1
      receiptId := ""
      executionId := execution.executionId
      verifiedBoundaryId := boundary.boundaryId
      preparedId := prepared.preparedId
      journalId := journal.journalId
      planStepId := request.planStepId
      liveIdentityDigest := request.freshIdentityDigest
      executingJournalDigest := fingerprint (toJson journal) }
  pure { receipt with receiptId := receipt.expectedReceiptId }

end Start

section Spawn

inductive PrivilegedSpawnAuthorizationError where
  | executionStartIntegrityMismatch
  | continuationStartIntegrityMismatch
  | preparedIntegrityMismatch
  | startPreparedMismatch
  | continuationPreparedMismatch
  | commandMismatch
  | toolProvenanceDrift
  | tools (source : TrustedToolError)
  deriving DecidableEq

variable [Fingerprint]

/-- What both authorizations do once the start receipt is known to belong to the invocation. -/
def authorizePrepared (receiptId : String) (prepared : PreparedPrivilegedInvocation)
    (command : PrivilegedCommandSpec) (freshTools : PrivilegedToolResolution) :
    Except PrivilegedSpawnAuthorizationError PrivilegedSpawnAuthorization := do
  refuse (command.planStepId ≠ prepared.planStepId ∨ command.digest ≠ prepared.commandDigest)
    .commandMismatch
  refuse (freshTools.commandDigest ≠ command.digest ∨
    freshTools.digest ≠ prepared.toolResolutionDigest) .toolProvenanceDrift
  let authorization : PrivilegedSpawnAuthorization :=
    { schemaVersion := 1
      authorizationId := ""
      executionId := prepared.executionId
      preparedId := prepared.preparedId
      executionStartReceiptId := receiptId
      planStepId := prepared.planStepId
      commandDigest := command.digest
      toolResolutionDigest := prepared.toolResolutionDigest }
  pure { authorization with authorizationId := authorization.expectedAuthorizationId }

def authorizeWithResolution (start : PrivilegedExecutionStartReceipt)
    (prepared : PreparedPrivilegedInvocation) (command : PrivilegedCommandSpec)
    (freshTools : PrivilegedToolResolution) :
    Except PrivilegedSpawnAuthorizationError PrivilegedSpawnAuthorization := do
  refuse (¬start.integrityMatches) .executionStartIntegrityMismatch
  refuse (¬prepared.integrityMatches) .preparedIntegrityMismatch
  refuse (start.executionId ≠ prepared.executionId ∨ start.preparedId ≠ prepared.preparedId ∨
    start.firstPlanStepId ≠ prepared.planStepId) .startPreparedMismatch
  authorizePrepared start.receiptId prepared command freshTools

def authorizeContinuationWithResolution (start : PrivilegedContinuationStartReceipt)
    (prepared : PreparedPrivilegedInvocation) (command : PrivilegedCommandSpec)
    (freshTools : PrivilegedToolResolution) :
    Except PrivilegedSpawnAuthorizationError PrivilegedSpawnAuthorization := do
  refuse (¬start.integrityMatches) .continuationStartIntegrityMismatch
  refuse (¬prepared.integrityMatches) .preparedIntegrityMismatch
  refuse (start.executionId ≠ prepared.executionId ∨ start.preparedId ≠ prepared.preparedId ∨
    start.planStepId ≠ prepared.planStepId ∨
    start.liveIdentityDigest ≠ prepared.liveIdentityDigest) .continuationPreparedMismatch
  authorizePrepared start.receiptId prepared command freshTools

end Spawn

section Result

inductive PrivilegedProcessReceiptError where
  | permitIntegrityMismatch
  | launchIntegrityMismatch
  | bindingMismatch
  | kernelRefreshOutcomeMismatch
  deriving DecidableEq

variable [Fingerprint]

/-- A process that ended well only asks for a rediscovery. -/
def dispositionOf (launch : PrivilegedDescriptorLaunchSpec)
    (outcome : PrivilegedExec.PrivilegedDescriptorSequenceOutcome) : PrivilegedRuntimeDisposition :=
  if outcome.primary.exitCode ≠ 0 then .recoveryRequired
  else if launch.kernelRefresh.isSome then
    match outcome.kernelRefresh with
    | some refresh => if refresh.exitCode = 0 then .rediscoveryRequired else .recoveryRequired
    | none => .recoveryRequired
  else .rediscoveryRequired

def classifyPrivilegedProcessOutcome (permit : PrivilegedLaunchPermit)
    (launch : PrivilegedDescriptorLaunchSpec)
    (outcome : PrivilegedExec.PrivilegedDescriptorSequenceOutcome) :
    Except PrivilegedProcessReceiptError PrivilegedProcessReceipt := do
  refuse (¬permit.integrityMatches) .permitIntegrityMismatch
  refuse (¬launch.integrityMatches) .launchIntegrityMismatch
  refuse (permit.launchId ≠ launch.launchId ∨ permit.authorizationId ≠ launch.authorizationId ∨
    permit.planStepId ≠ launch.planStepId ∨ permit.commandDigest ≠ launch.commandDigest)
    .bindingMismatch
  refuse (¬launch.kernelRefresh.isSome ∧ outcome.kernelRefresh.isSome)
    .kernelRefreshOutcomeMismatch
  let refresh := outcome.kernelRefresh
  let receipt : PrivilegedProcessReceipt :=
    { schemaVersion := 1
      receiptId := ""
      executionId := permit.executionId
      permitId := permit.permitId
      launchId := launch.launchId
      planStepId := launch.planStepId
      commandDigest := launch.commandDigest
      primaryExitCode := outcome.primary.exitCode
      primaryStdoutSha256 := Lib.Sha256.sha256Hex outcome.primary.stdout
      primaryStderrSha256 := Lib.Sha256.sha256Hex outcome.primary.stderr
      primaryStdoutTruncated := outcome.primary.stdoutTruncated
      primaryStderrTruncated := outcome.primary.stderrTruncated
      kernelRefreshExitCode := refresh.map (·.exitCode)
      kernelRefreshStdoutSha256 := refresh.map fun o => Lib.Sha256.sha256Hex o.stdout
      kernelRefreshStderrSha256 := refresh.map fun o => Lib.Sha256.sha256Hex o.stderr
      kernelRefreshStdoutTruncated := refresh.map (·.stdoutTruncated)
      kernelRefreshStderrTruncated := refresh.map (·.stderrTruncated)
      mutationMayHaveStarted := true
      disposition := dispositionOf launch outcome }
  pure { receipt with receiptId := receipt.expectedReceiptId }

end Result

end StorageManager.Executor
