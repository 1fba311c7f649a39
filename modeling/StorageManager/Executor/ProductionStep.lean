import StorageManager.Executor.PrivilegedPrepared
import StorageManager.Executor.ProductionConsent
import StorageManager.Lib.Embedding
import StorageManager.Planner.IdentityCapture

/-!
# One production step

A step is prepared, its consent is read again, its processes run, and what they left is
discovered and verified before the journal goes on. What fails after the execution has begun is
an interruption in the journal.
-/

namespace StorageManager.Executor

open JournalStore
open Lib.Checks
open Lib.Effects
open Planner
open Planner.ExecutionGuard
open PrivilegedContinue

set_option autoImplicit false

namespace ProductionStep

section Surroundings

/-- What a step asks of the system beside its journal. -/
inductive GrowthOp (τ : Type) where
  | exec (op : PrivilegedExec.ExecOp τ)
  | readConsent (path : String)
  /-- The file of the lease is compared with this identity. -/
  | leaseMatches (identity : ProductionMutationConsentFileIdentity)
  | resolveTools (command : PrivilegedCommandSpec)
  | toolFiles
  | discoverSnapshot
  | discoverCapabilities

@[reducible] def growthEnv (τ : Type) : Lib.RecordFile.Env where
  Op := GrowthOp τ
  Ans
    | .exec op => op.Ans
    | .readConsent _ =>
      Except ProductionMutationConsentError (List UInt8 × ProductionMutationConsentFileIdentity)
    | .leaseMatches _ => Except String Bool
    | .resolveTools _ => Except TrustedToolError PrivilegedToolResolution
    | .toolFiles => ToolFiles τ
    | .discoverSnapshot => Except String Core.HostSnapshot
    | .discoverCapabilities => Core.HostCapabilities

abbrev growth (τ : Type) : Interface := (Lib.Directory.interface storeEnv).beside (growthEnv τ)

abbrev GrowthProc (τ ε : Type) := Proc (growth τ) LockedExecutionSession ε

/-- The processes of a launch, in the larger system. -/
def execution (τ : Type) : Embedding (PrivilegedExec.execInterface τ) (growth τ) where
  op o := .inr (.exec o)
  choice _ c := c
  ans _ a := a
  world _ := ()
  ans_perform _ _ _ := rfl
  world_perform _ _ _ := rfl
  entry
    | ⟨.inr (.exec o), a, _⟩ => some ⟨o, a, ()⟩
    | _ => none
  entry_op _ _ _ := rfl

variable {τ ε α : Type}

def growthAsk (op : GrowthOp τ) : GrowthProc τ ε ((growthEnv τ).Ans op) := ask (F := growthEnv τ) op

/-- A method of the session. -/
def onJournal (p : Lib.Directory.DirProc storeEnv LockedExecutionSession ε α) : GrowthProc τ ε α :=
  p.embed (.inside _ _)

variable [Fingerprint] (fromSlice : FromSlice)

/-- What fails here has interrupted the execution. -/
def orInterrupt (durable : LockedSessionError → ε) (reason : String) (p : GrowthProc τ ε α) :
    GrowthProc τ ε α := do
  match ← (p.attempt : GrowthProc τ ε (Except ε α)) with
  | .ok a => pure a
  | .error error => do
    (onJournal (persistInterrupted fromSlice reason)).mapError durable
    Proc.throw error

end Surroundings

section Lease

structure PinnedProductionMutationConsent where
  receipt : ProductionMutationConsentReceipt

inductive ProductionMutationConsentLeaseError where
  | consent (source : ProductionMutationConsentError)
  | pinnedFileMismatch
  | currentPathMismatch
  | io (source : String)
  deriving DecidableEq

variable {τ : Type} [Fingerprint] (reader : ConsentReader)

abbrev LeaseProc (τ : Type) := GrowthProc τ ProductionMutationConsentLeaseError

/-- The file at this path, as the consent to this activation. -/
def verifyConsentAt (intent : ProductionMutationActivationIntent) (path : String) :
    LeaseProc τ ProductionMutationConsentReceipt := do
  let read ← growthAsk (.readConsent path)
  let (bytes, identity) ← Proc.lift (read.mapError .consent)
  Proc.lift ((bindConsentReceipt reader intent path bytes identity).mapError .consent)

def verifyDefaultProductionMutationConsent (intent : ProductionMutationActivationIntent) :
    LeaseProc τ ProductionMutationConsentReceipt := do
  Proc.lift ((validateActivationIntent intent).mapError .consent)
  verifyConsentAt reader intent productionMutationConsentPath

def verifyOperatorProductionMutationConsent (intent : ProductionMutationActivationIntent) :
    LeaseProc τ ProductionMutationConsentReceipt := do
  let path ← Proc.lift ((operatorConsentPath intent).mapError .consent)
  verifyConsentAt reader intent path

def validateCurrentReceiptAgainstLease (current : ProductionMutationConsentReceipt)
    (lease : PinnedProductionMutationConsent) : LeaseProc τ ProductionMutationConsentReceipt := do
  Proc.lift (refuse (current.receiptId ≠ lease.receipt.receiptId ∨
    current.consentFile ≠ lease.receipt.consentFile) .currentPathMismatch)
  let matched ← growthAsk (.leaseMatches lease.receipt.consentFile)
  let same ← Proc.lift (matched.mapError .io)
  Proc.lift (refuse (¬same) .pinnedFileMismatch)
  pure current

def revalidatePinnedProductionMutationConsent (intent : ProductionMutationActivationIntent)
    (lease : PinnedProductionMutationConsent) : LeaseProc τ ProductionMutationConsentReceipt := do
  if lease.receipt.consentPath = productionMutationConsentPath then
    let current ← verifyDefaultProductionMutationConsent reader intent
    validateCurrentReceiptAgainstLease current lease
  else
    let expected ← Proc.lift ((operatorConsentPath intent).mapError .consent)
    Proc.lift (refuse (lease.receipt.consentPath ≠ expected) .currentPathMismatch)
    let current ← verifyOperatorProductionMutationConsent reader intent
    validateCurrentReceiptAgainstLease current lease

end Lease

section Execution

structure ProductionDescriptorExecutionChain (τ : Type) where
  activation : ProductionMutationActivationIntent
  productionPermit : ProductionMutationExecutionPermit
  request : PrivilegedHelperRequest
  launchPermit : PrivilegedLaunchPermit
  launch : PrivilegedDescriptorLaunchSpec
  pinned : PinnedPrivilegedTools τ
  command : PrivilegedCommandSpec
  consentLease : PinnedProductionMutationConsent

inductive ProductionDescriptorExecutionError where
  | journalNotExecuting
  | executionBindingInvalid
  | activationIntentInvalid
  | productionPermitInvalid
  | runtimeConsentMismatch
  | scopeBindingMismatch
  | stepBoundaryMismatch
  | launchBindingMismatch
  | consentLease (source : ProductionMutationConsentLeaseError)
  | session (source : LockedSessionError)
  | descriptor (source : PrivilegedDescriptorExecError)
  | processReceipt (source : PrivilegedProcessReceiptError)
  | durableTransition (source : PrivilegedDurableTransitionError)
  deriving DecidableEq

variable {τ : Type} [Fingerprint]

def validateCurrentStep (journal : OperationJournal) (request : PrivilegedHelperRequest) :
    Except ProductionDescriptorExecutionError Unit := do
  refuse (journal.phase ≠ .executing ∨ ¬journal.mutationMayHaveStarted) .journalNotExecuting
  let execution ← okOr journal.execution .executionBindingInvalid
  refuse (execution.schemaVersion ≠ 1 ∨ ¬execution.integrityMatches) .executionBindingInvalid
  refuse (request.executionId ≠ execution.executionId ∨
    request.sourceManifestId ≠ execution.sourceManifestId ∨
    request.nativeManifestDigest ≠ execution.nativeManifestDigest) .scopeBindingMismatch
  refuse (request.planStepId ∉ execution.mutationStepIds) .stepBoundaryMismatch
  refuse (¬standsBefore journal execution request.planStepId request.freshIdentityDigest)
    .stepBoundaryMismatch

def validateGate (journal : OperationJournal) (freshConsent : ProductionMutationConsentReceipt)
    (chain : ProductionDescriptorExecutionChain τ) :
    Except ProductionDescriptorExecutionError Unit := do
  let activation := chain.activation
  let permit := chain.productionPermit
  let request := chain.request
  refuse (activation.schemaVersion ≠ 1 ∨ ¬activation.integrityMatches ∨
    ¬activation.compileFeatureEnabled ∨ activation.executionEnabled = true)
    .activationIntentInvalid
  refuse (permit.schemaVersion ≠ 1 ∨ ¬permit.integrityMatches ∨ ¬permit.compileFeatureEnabled ∨
    permit.mutationEnabled = true ∨ permit.processSpawned = true) .productionPermitInvalid
  refuse (freshConsent.schemaVersion ≠ 1 ∨ ¬freshConsent.integrityMatches ∨
    ¬freshConsent.consentVerified ∨ freshConsent.executionEnabled = true ∨
    freshConsent.receiptId ≠ permit.consentReceiptId) .runtimeConsentMismatch
  validateCurrentStep journal request
  let execution ← okOr journal.execution .executionBindingInvalid
  refuse (activation.activationId ≠ permit.activationId ∨
    activation.executionId ≠ execution.executionId ∨
    activation.executionId ≠ permit.executionId ∨
    activation.sourceManifestId ≠ execution.sourceManifestId ∨
    activation.nativeManifestDigest ≠ execution.nativeManifestDigest ∨
    activation.target ≠ permit.target ∨ activation.resolvedDevice ≠ permit.resolvedDevice ∨
    request.executionId ≠ permit.executionId ∨ request.target ≠ permit.target ∨
    request.resolvedDevice ≠ permit.resolvedDevice ∨ request.planStepId ≠ permit.planStepId ∨
    freshConsent.activationId ≠ activation.activationId ∨
    freshConsent.executionId ≠ activation.executionId ∨
    freshConsent.target ≠ activation.target ∨
    freshConsent.resolvedDevice ≠ activation.resolvedDevice) .scopeBindingMismatch
  refuse (¬chain.launchPermit.integrityMatches ∨ ¬chain.launch.integrityMatches ∨
    ¬chain.pinned.integrityMatches ∨ permit.launchPermitId ≠ chain.launchPermit.permitId ∨
    permit.launchId ≠ chain.launch.launchId ∨
    chain.launchPermit.launchId ≠ chain.launch.launchId ∨
    permit.planStepId ≠ chain.launchPermit.planStepId ∨
    permit.planStepId ≠ chain.launch.planStepId ∨ chain.command.planStepId ≠ permit.planStepId ∨
    permit.commandDigest ≠ chain.launchPermit.commandDigest ∨
    permit.commandDigest ≠ chain.launch.commandDigest ∨
    chain.command.digest ≠ permit.commandDigest) .launchBindingMismatch

variable (fromSlice : FromSlice) (reader : ConsentReader)

abbrev ExecutionProc (τ : Type) := GrowthProc τ ProductionDescriptorExecutionError

/-- `execute_authorized_privileged_descriptor_launch`, where a journal is held. -/
def executeAuthorizedLaunch (chain : ProductionDescriptorExecutionChain τ) :
    ExecutionProc τ PrivilegedExec.PrivilegedDescriptorSequenceOutcome :=
  (Proc.beside ((PrivilegedExec.executePrivilegedDescriptorLaunchInner chain.launchPermit
    chain.launch chain.pinned chain.command true).embed (execution τ))).mapError .descriptor

def executeProductionDescriptorLaunchRaw (chain : ProductionDescriptorExecutionChain τ) :
    ExecutionProc τ PrivilegedExec.PrivilegedDescriptorSequenceOutcome := do
  (onJournal (requireCurrentDurableJournal fromSlice)).mapError .session
  let freshConsent ← orInterrupt fromSlice .session
    "production runtime consent lease could not be revalidated immediately before spawn"
    ((revalidatePinnedProductionMutationConsent reader chain.activation chain.consentLease).mapError
      .consentLease)
  let session ← Proc.get
  orInterrupt fromSlice .session
    "production descriptor execution authorization drifted before spawn"
    (Proc.lift (validateGate session.journal freshConsent chain))
  orInterrupt fromSlice .session
    "production descriptor execution failed after the durable mutation boundary"
    (executeAuthorizedLaunch chain)

def executeAndClassifyProductionDescriptorLaunch (chain : ProductionDescriptorExecutionChain τ) :
    ExecutionProc τ PrivilegedProcessReceipt := do
  let outcome ← executeProductionDescriptorLaunchRaw fromSlice reader chain
  let receipt ← orInterrupt fromSlice .session
    "production process outcome could not be bound to a trusted runtime receipt"
    (Proc.lift ((classifyPrivilegedProcessOutcome chain.launchPermit chain.launch outcome).mapError
      .processReceipt))
  if receipt.disposition = .recoveryRequired then do
    let _ ← (onJournal (persistPrivilegedDurableTransition fromSlice chain.request receipt
      none)).mapError .durableTransition
    pure receipt
  else pure receipt

end Execution

section Verified

structure ProductionVerifiedMutationStep where
  processReceipt : PrivilegedProcessReceipt
  verificationReceipt : PrivilegedLayerVerificationReceipt
  durableDisposition : PrivilegedDurableDisposition
  freshIdentity : TargetIdentityManifest
  freshIdentityDigest : String

inductive ProductionVerifiedMutationStepError where
  | execution (source : ProductionDescriptorExecutionError)
  | recoveryRequired
  | discovery (source : String)
  | capabilityInventoryMismatch
  | identity (source : IdentityGuardError)
  | verification (source : PrivilegedLayerVerificationError)
  | durableTransition (source : PrivilegedDurableTransitionError)
  | session (source : LockedSessionError)
  deriving DecidableEq

def postMutationRediscoveryAttempts : Nat := 20

def retryablePostStateError : PrivilegedLayerVerificationError → Bool
  | .partitionStateMismatch | .physicalVolumeStateMismatch | .logicalVolumeStateMismatch
  | .filesystemStateMismatch => true
  | _ => false

variable {τ : Type}

def verifyBeforeIdentity (chain : ProductionDescriptorExecutionChain τ)
    (beforeIdentity : TargetIdentityManifest) : Except ProductionVerifiedMutationStepError Unit :=
  refuse (beforeIdentity.manifestDigest ≠ chain.request.freshIdentityDigest ∨
    beforeIdentity.target ≠ chain.request.target ∨
    beforeIdentity.resolvedDevice ≠ chain.request.resolvedDevice)
    (.verification .beforeIdentityMismatch)

abbrev VerifiedProc (τ : Type) := GrowthProc τ ProductionVerifiedMutationStepError

/-- What one attempt found: an error of this kind is tried again. -/
inductive Attempt where
  | verified (identity : TargetIdentityManifest) (receipt : PrivilegedLayerVerificationReceipt)
  | transient (error : ProductionVerifiedMutationStepError)

variable [Fingerprint]

/-- The state of one attempt, once the capabilities are known to be unchanged. -/
def verifyAttempt (chain : ProductionDescriptorExecutionChain τ)
    (processReceipt : PrivilegedProcessReceipt) (beforeIdentity : TargetIdentityManifest)
    (snapshot : Core.HostSnapshot) : Except ProductionVerifiedMutationStepError Attempt :=
  match captureTargetIdentity snapshot chain.request.target with
  | .error error => .ok (.transient (.identity error))
  | .ok freshIdentity =>
    match verifyPrivilegedLayerPostState chain.request processReceipt beforeIdentity
      freshIdentity with
    | .ok receipt => .ok (.verified freshIdentity receipt)
    | .error error =>
      if retryablePostStateError error then .ok (.transient (.verification error))
      else .error (.verification error)

def discoverAttempt (chain : ProductionDescriptorExecutionChain τ)
    (processReceipt : PrivilegedProcessReceipt) (beforeIdentity : TargetIdentityManifest) :
    VerifiedProc τ Attempt := do
  match ← growthAsk .discoverSnapshot with
  | .error error => pure (.transient (.discovery error))
  | .ok snapshot => do
    let capabilities ← growthAsk .discoverCapabilities
    let session ← Proc.get
    Proc.lift (refuse (¬session.handoff.matchesCapabilities capabilities)
      .capabilityInventoryMismatch)
    Proc.lift (verifyAttempt chain processReceipt beforeIdentity snapshot)

/-- The attempts that are left, and the last error that was tried again. -/
def discoverFrom (chain : ProductionDescriptorExecutionChain τ)
    (processReceipt : PrivilegedProcessReceipt) (beforeIdentity : TargetIdentityManifest) :
    Nat → ProductionVerifiedMutationStepError →
      VerifiedProc τ (TargetIdentityManifest × PrivilegedLayerVerificationReceipt)
  | 0, lastTransientError => Proc.throw lastTransientError
  | attempts + 1, _ => do
    match ← discoverAttempt chain processReceipt beforeIdentity with
    | .verified identity receipt => pure (identity, receipt)
    | .transient error => discoverFrom chain processReceipt beforeIdentity attempts error

def discoverVerifiedPostState (chain : ProductionDescriptorExecutionChain τ)
    (processReceipt : PrivilegedProcessReceipt) (beforeIdentity : TargetIdentityManifest) :
    VerifiedProc τ (TargetIdentityManifest × PrivilegedLayerVerificationReceipt) :=
  discoverFrom chain processReceipt beforeIdentity postMutationRediscoveryAttempts
    .capabilityInventoryMismatch

variable (fromSlice : FromSlice) (reader : ConsentReader)

def executeVerifyAndPersistProductionStep (chain : ProductionDescriptorExecutionChain τ)
    (beforeIdentity : TargetIdentityManifest) : VerifiedProc τ ProductionVerifiedMutationStep := do
  orInterrupt fromSlice .session
    "production pre-spawn identity did not match the exact privileged request"
    (Proc.lift (verifyBeforeIdentity chain beforeIdentity))
  let processReceipt ← (executeAndClassifyProductionDescriptorLaunch fromSlice reader
    chain).mapError .execution
  if processReceipt.disposition = .recoveryRequired then Proc.throw .recoveryRequired
  else do
    let (freshIdentity, verificationReceipt) ← orInterrupt fromSlice .session
      "production post-mutation state did not converge to the exact verified boundary"
      (discoverVerifiedPostState chain processReceipt beforeIdentity)
    let durableDisposition ← (onJournal (persistPrivilegedDurableTransition fromSlice chain.request
      processReceipt (some verificationReceipt))).mapError .durableTransition
    pure
      { processReceipt
        verificationReceipt
        durableDisposition
        freshIdentity
        freshIdentityDigest := freshIdentity.manifestDigest }

end Verified

section Prepare

structure PreparedProductionMutationStep (τ : Type) where
  request : PrivilegedHelperRequest
  command : PrivilegedCommandSpec
  prepared : PreparedPrivilegedInvocation
  pinned : PinnedPrivilegedTools τ
  launch : PrivilegedDescriptorLaunchSpec
  launchPermit : PrivilegedLaunchPermit
  productionPermit : ProductionMutationExecutionPermit

def PreparedProductionMutationStep.descriptorChain {τ : Type}
    (step : PreparedProductionMutationStep τ) (activation : ProductionMutationActivationIntent)
    (consentLease : PinnedProductionMutationConsent) : ProductionDescriptorExecutionChain τ :=
  { activation
    productionPermit := step.productionPermit
    request := step.request
    launchPermit := step.launchPermit
    launch := step.launch
    pinned := step.pinned
    command := step.command
    consentLease }

inductive ProductionMutationPreparationError where
  | protocol (source : PrivilegedHelperProtocolError)
  | command (source : PrivilegedArgvError)
  | tools (source : TrustedToolError)
  | prepared (source : PreparedInvocationError)
  | firstStart (source : PrivilegedExecutionStartError)
  | continuationStart (source : PrivilegedContinuationStartError)
  | authorization (source : PrivilegedSpawnAuthorizationError)
  | toolResolutionDrift
  | pin (source : PrivilegedToolPinError)
  | launch (source : PrivilegedLaunch.PrivilegedLaunchSpecError)
  | launchPermit (source : PrivilegedLaunchPermitError)
  | productionPermit (source : ProductionMutationExecutionPermitError)
  | session (source : LockedSessionError)
  deriving DecidableEq

variable {τ : Type}

abbrev PrepareProc (τ : Type) := GrowthProc τ ProductionMutationPreparationError

/-- The tools of a command, as they are now. -/
def resolvePrivilegedCommandTools (command : PrivilegedCommandSpec) :
    PrepareProc τ PrivilegedToolResolution := do
  let tools ← growthAsk (.resolveTools command)
  Proc.lift (tools.mapError .tools)

variable [Fingerprint]

def compilePreparedInvocation (request : PrivilegedHelperRequest)
    (identity : TargetIdentityManifest) :
    PrepareProc τ (PrivilegedCommandSpec × PreparedPrivilegedInvocation) := do
  let command ← Proc.lift ((compilePrivilegedHelperCommand request identity).mapError .command)
  let tools ← resolvePrivilegedCommandTools command
  let prepared ← Proc.lift
    ((preparePrivilegedInvocation request identity command tools).mapError .prepared)
  pure (command, prepared)

def pinPrivilegedToolsForSpawn (authorization : PrivilegedSpawnAuthorization)
    (command : PrivilegedCommandSpec) : PrepareProc τ (PinnedPrivilegedTools τ) := do
  let tools ← resolvePrivilegedCommandTools command
  Proc.lift (refuse (tools.digest ≠ authorization.toolResolutionDigest) .toolResolutionDrift)
  let files ← growthAsk .toolFiles
  Proc.lift ((pinResolvedTools files authorization command tools).mapError .pin)

/-- From the start receipt, which `authorize` and `sealPermit` know, to the step. -/
def launchPrepared (request : PrivilegedHelperRequest) (command : PrivilegedCommandSpec)
    (prepared : PreparedPrivilegedInvocation)
    (authorize : PrivilegedToolResolution →
      Except PrivilegedSpawnAuthorizationError PrivilegedSpawnAuthorization)
    (sealPermit : PrivilegedSpawnAuthorization → PrivilegedDescriptorLaunchSpec →
      Except PrivilegedLaunchPermitError PrivilegedLaunchPermit)
    (activation : ProductionMutationActivationIntent)
    (consent : ProductionMutationConsentReceipt) :
    PrepareProc τ (PreparedProductionMutationStep τ) := do
  let freshTools ← resolvePrivilegedCommandTools command
  let authorization ← Proc.lift ((authorize freshTools).mapError .authorization)
  let pinned ← pinPrivilegedToolsForSpawn authorization command
  let files ← growthAsk .toolFiles
  let launch ← Proc.lift
    ((PrivilegedLaunch.buildPrivilegedDescriptorLaunchSpec files pinned command).mapError .launch)
  let launchPermit ← Proc.lift ((sealPermit authorization launch).mapError .launchPermit)
  let productionPermit ← Proc.lift ((sealProductionMutationExecutionPermit true activation consent
    launchPermit).mapError .productionPermit)
  pure { request, command, prepared, pinned, launch, launchPermit, productionPermit }

variable (fromSlice : FromSlice)

def persistPreparedPrivilegedExecutionStart (execution : ExecutionStartBinding)
    (request : PrivilegedHelperRequest) (prepared : PreparedPrivilegedInvocation) :
    PrepareProc τ PrivilegedExecutionStartReceipt := do
  let session ← Proc.get
  let firstStep ← Proc.lift
    ((validateStartBinding session.journal execution request prepared).mapError .firstStart)
  (onJournal (persistExecutionStarted fromSlice execution)).mapError
    fun source => .firstStart (.session source)
  let session ← Proc.get
  pure (executionStartReceipt execution prepared firstStep session.journal)

def bindPreparedPrivilegedContinuation (request : PrivilegedHelperRequest)
    (prepared : PreparedPrivilegedInvocation) :
    PrepareProc τ PrivilegedContinuationStartReceipt := do
  (onJournal (requireCurrentDurableJournal fromSlice)).mapError
    fun source => .continuationStart (.session source)
  let session ← Proc.get
  Proc.lift ((buildContinuationStartReceipt session.journal request prepared).mapError
    .continuationStart)

def prepareFirstProductionMutationStep (validated : ValidatedNativeManifest)
    (execution : ExecutionStartBinding) (identity : TargetIdentityManifest)
    (activation : ProductionMutationActivationIntent)
    (consent : ProductionMutationConsentReceipt) :
    PrepareProc τ (PreparedProductionMutationStep τ) := do
  let request ← Proc.lift ((buildPrivilegedHelperRequest validated execution identity
    activation.lvStepId).mapError .protocol)
  let (command, prepared) ← compilePreparedInvocation request identity
  let start ← persistPreparedPrivilegedExecutionStart fromSlice execution request prepared
  orInterrupt fromSlice .session
    "first production mutation preparation failed after durable execution start"
    (launchPrepared request command prepared (authorizeWithResolution start prepared command)
      (sealPrivilegedLaunchPermit start) activation consent)

def prepareContinuationProductionMutationStep (validated : ValidatedNativeManifest)
    (identity : TargetIdentityManifest) (activation : ProductionMutationActivationIntent)
    (consent : ProductionMutationConsentReceipt) :
    PrepareProc τ (PreparedProductionMutationStep τ) :=
  orInterrupt fromSlice .session
    "production continuation preparation failed after a verified mutation boundary"
    (do
      let session ← Proc.get
      let request ← Proc.lift ((buildPrivilegedHelperRequestForDurableStep validated
        session.journal identity activation.filesystemStepId).mapError .protocol)
      let (command, prepared) ← compilePreparedInvocation request identity
      let start ← bindPreparedPrivilegedContinuation fromSlice request prepared
      launchPrepared request command prepared
        (authorizeContinuationWithResolution start prepared command)
        (sealPrivilegedContinuationLaunchPermit start) activation consent)

end Prepare

end ProductionStep

end StorageManager.Executor
