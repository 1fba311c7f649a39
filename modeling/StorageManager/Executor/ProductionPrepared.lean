import StorageManager.Executor.ProductionRuns

/-!
# What a preparation seals

The step that a preparation returns passes the gate of the execution, on the same consent and the
journal the preparation leaves, and what it launches is the command of its request.
-/

namespace StorageManager.Executor

open JournalStore
open Lib.Checks
open Lib.Effects
open Planner
open Planner.ExecutionGuard
open PrivilegedContinue

set_option autoImplicit false

namespace ProductionStep

section Seals

variable {τ : Type} [Fingerprint] {journal : OperationJournal} {b : ExecutionStartBinding}
  {activation : ProductionMutationActivationIntent} {consent : ProductionMutationConsentReceipt}
  {identity : TargetIdentityManifest} {launch : PrivilegedLaunchPermit}
  {permit : ProductionMutationExecutionPermit} {step : PreparedProductionMutationStep τ}

/-- The activation is for this execution on this target. -/
structure StandsFor (activation : ProductionMutationActivationIntent) (b : ExecutionStartBinding)
    (identity : TargetIdentityManifest) : Prop where
  executionId : activation.executionId = b.executionId
  sourceManifestId : activation.sourceManifestId = b.sourceManifestId
  nativeManifestDigest : activation.nativeManifestDigest = b.nativeManifestDigest
  target : activation.target = identity.target
  resolvedDevice : activation.resolvedDevice = identity.resolvedDevice

/-- What an execution permit stands on. -/
structure PermitSealed (activation : ProductionMutationActivationIntent)
    (consent : ProductionMutationConsentReceipt) (launch : PrivilegedLaunchPermit)
    (permit : ProductionMutationExecutionPermit) : Prop where
  activated : validateActivation activation = .ok ()
  consented : validateConsent activation consent = .ok ()
  inScope : validateLaunchScope activation launch = .ok ()
  same : permit = executionPermit activation consent launch

theorem permit_of_seal
    (h : sealProductionMutationExecutionPermit true activation consent launch = .ok permit) :
    PermitSealed activation consent launch permit := by
  simp only [sealProductionMutationExecutionPermit, bind_eq_ok_iff, exists_check_iff] at h
  obtain ⟨-, hactivated, hconsented, hscope, h⟩ := h
  exact ⟨hactivated, hconsented, hscope, (Except.ok.inj h).symm⟩

/-- The request is for a step that the journal stands before, on this identity. -/
structure Requested (journal : OperationJournal) (b : ExecutionStartBinding)
    (identity : TargetIdentityManifest) (request : PrivilegedHelperRequest) : Prop where
  current : validateCurrentStep journal request = .ok ()
  execution : journal.execution = some b
  executionId : request.executionId = b.executionId
  target : request.target = identity.target
  resolvedDevice : request.resolvedDevice = identity.resolvedDevice

/-- The permit, the launch and the command are about the step of the request. -/
structure Assembled (activation : ProductionMutationActivationIntent)
    (consent : ProductionMutationConsentReceipt) (step : PreparedProductionMutationStep τ) :
    Prop where
  sameStep : step.command.planStepId = step.request.planStepId
  built : ∃ files, PrivilegedLaunch.buildPrivilegedDescriptorLaunchSpec files step.pinned
    step.command = .ok step.launch
  permitted : ∃ started executionId receiptId planStepId authorization,
    sealLaunchPermit started executionId receiptId planStepId authorization step.launch =
      .ok step.launchPermit
  authorized : sealProductionMutationExecutionPermit true activation consent step.launchPermit =
    .ok step.productionPermit

/-- The gate is passed with the consent of the preparation, where the journal stands before the
step and the activation is for this execution and this target. -/
theorem gate_passes (h : Assembled activation consent step) (lease : PinnedProductionMutationConsent)
    (hrequest : Requested journal b identity step.request)
    (hstands : StandsFor activation b identity) :
    validateGate journal consent (step.descriptorChain activation lease) = .ok () := by
  obtain ⟨files, hbuilt⟩ := h.built
  obtain ⟨started, executionId, receiptId, planStepId, authorization, hpermit⟩ := h.permitted
  have hlaunch := PrivilegedExec.launch_built hbuilt
  obtain ⟨hpermitIntegrity, hlaunchId, -, hstep, hdigest, -, -⟩ :=
    PrivilegedExec.permit_sealed hpermit
  obtain ⟨hactivated, hconsented, -, hsame⟩ := permit_of_seal h.authorized
  simp only [validateActivation, bind_eq_ok_iff, exists_check_iff, refuse_eq_ok_iff, not_or,
    not_not, ne_eq] at hactivated
  simp only [validateConsent, bind_eq_ok_iff, exists_check_iff, refuse_eq_ok_iff, not_or,
    not_not, ne_eq] at hconsented
  obtain ⟨⟨hschema, hintegrity, hcompiled⟩, hdisabled⟩ := hactivated
  obtain ⟨⟨hconsentSchema, hconsentIntegrity, hverified⟩, hconsentDisabled, hactivationId,
    hconsentExecution, hconsentTarget, hconsentDevice⟩ := hconsented
  have hplan : step.launch.planStepId = step.request.planStepId :=
    hlaunch.planStepId.trans h.sameStep
  simp only [validateGate, PreparedProductionMutationStep.descriptorChain, hsame, bind_eq_ok_iff,
    exists_check_iff, okOr_eq_ok_iff]
  refine ⟨refuse_eq_ok_iff.mpr ?_, refuse_eq_ok_iff.mpr ?_, refuse_eq_ok_iff.mpr ?_,
    hrequest.current, b, hrequest.execution, refuse_eq_ok_iff.mpr ?_, refuse_eq_ok_iff.mpr ?_⟩ <;>
    simp only [not_or, not_not, ne_eq]
  · exact ⟨hschema, hintegrity, hcompiled, hdisabled⟩
  · exact ⟨rfl, beq_self_eq_true _, rfl, Bool.false_ne_true, Bool.false_ne_true⟩
  · exact ⟨hconsentSchema, hconsentIntegrity, hverified, hconsentDisabled, rfl⟩
  · exact ⟨rfl, hstands.executionId, rfl, hstands.sourceManifestId, hstands.nativeManifestDigest,
      rfl, rfl, hrequest.executionId.trans hstands.executionId.symm,
      hrequest.target.trans hstands.target.symm,
      hrequest.resolvedDevice.trans hstands.resolvedDevice.symm, hplan.symm.trans hstep.symm,
      hactivationId, hconsentExecution, hconsentTarget, hconsentDevice⟩
  · exact ⟨hpermitIntegrity, hlaunch.launchIntegrity, hlaunch.pinIntegrity, rfl, hlaunchId,
      hlaunchId, rfl, hstep, h.sameStep.trans (hplan.symm.trans hstep.symm), rfl, hdigest,
      hlaunch.commandDigest.symm.trans hdigest.symm⟩

end Seals

section Requests

variable [Fingerprint] {journal : OperationJournal} {b : ExecutionStartBinding}
  {validated : ValidatedNativeManifest} {identity : TargetIdentityManifest}
  {request : PrivilegedHelperRequest} {planStepId : Nat}

/-- What both builders of a request put into it. -/
theorem requested_of_step {step : NativeCompiledStep} {expected : String}
    (hrunning : journal.phase = .executing ∧ journal.mutationMayHaveStarted = true)
    (hexecution : journal.execution = some b)
    (hsealed : b.schemaVersion = 1 ∧ b.integrityMatches = true)
    (hmem : planStepId ∈ b.mutationStepIds)
    (hexpected : expectedIdentityDigest journal b (b.mutationStepIds.idxOf planStepId) planStepId =
      .ok expected) (hidentity : identity.manifestDigest = expected)
    (hstep : step.planStepId = planStepId) :
    Requested journal b identity (requestFor b identity step) := by
  refine ⟨?_, hexecution, rfl, rfl, rfl⟩
  have hstands := standsBefore_of_expected hexpected
  simp only [validateCurrentStep, bind_eq_ok_iff, exists_check_iff, refuse_eq_ok_iff,
    okOr_eq_ok_iff, not_or, not_not, ne_eq]
  refine ⟨hrunning, b, hexecution, hsealed, ⟨rfl, rfl, rfl⟩, ?_, ?_⟩
  · show step.planStepId ∈ b.mutationStepIds
    rw [hstep]
    exact hmem
  · show standsBefore journal b step.planStepId identity.manifestDigest = true
    rw [hstep, hidentity]
    exact hstands

theorem requested_durable (hexecution : journal.execution = some b)
    (h : buildPrivilegedHelperRequestForDurableStep validated journal identity planStepId =
      .ok request) : Requested journal b identity request := by
  unfold buildPrivilegedHelperRequestForDurableStep at h
  split at h
  · cases h
  rename_i hrunning
  simp only [not_or, not_not] at hrunning
  rw [hexecution] at h
  simp only [bind_eq_ok_iff, exists_check_iff, refuse_eq_ok_iff, not_or, not_not] at h
  obtain ⟨hsealed, -, hmem, expected, hexpected, husable, step, hstep, -, hrequest⟩ := h
  rw [← Except.ok.inj hrequest]
  exact requested_of_step hrunning hexecution hsealed hmem hexpected
    (identityUsable_iff.mp husable).1 (authorizedStep_eq_ok hstep).2.1

/-- The first request, once its execution has started. -/
theorem requested_first {approved : OperationJournal} {prepared : PreparedPrivilegedInvocation}
    {firstStep : Nat} (hfresh : approved.verifiedBoundary = none)
    (hbuilt : buildPrivilegedHelperRequest validated b identity planStepId = .ok request)
    (hstart : validateStartBinding approved b request prepared = .ok firstStep)
    (h : applyToCopy approved (.executionStarted b) = .ok journal) :
    Requested journal b identity request := by
  obtain ⟨hsealed, -, husable, hmem, step, hstep, rfl⟩ :=
    buildPrivilegedHelperRequest_eq_ok_iff.mp hbuilt
  have hprogress := Progress.of_started h hfresh
  have hid := (authorizedStep_eq_ok hstep).2.1
  simp only [validateStartBinding, bind_eq_ok_iff, exists_check_iff, refuse_eq_ok_iff,
    okOr_eq_ok_iff, not_not, ne_eq] at hstart
  obtain ⟨-, -, -, -, -, first, hhead, hfirst, -⟩ := hstart
  have hzero : b.mutationStepIds.idxOf planStepId = 0 := by
    have hsame : planStepId = first := hid.symm.trans hfirst
    rw [hsame]
    cases hids : b.mutationStepIds with
    | nil =>
      rw [hids] at hhead
      cases hhead
    | cons k ids =>
      rw [hids] at hhead
      rw [Option.some.inj hhead, List.idxOf_cons_self]
  refine requested_of_step ⟨hprogress.phase, hprogress.flag⟩ hprogress.execution hsealed hmem ?_
    (identityUsable_iff.mp husable).1 hid
  unfold expectedIdentityDigest
  rw [hzero, if_pos rfl, hprogress.boundary.1]
  rfl

end Requests

section Launchable

variable {τ ε α : Type} [Fingerprint] {fromSlice : FromSlice} {session : LockedExecutionSession}
  {s : St (growth τ)} {b : ExecutionStartBinding} {identity : TargetIdentityManifest}
  {activation : ProductionMutationActivationIntent} {consent : ProductionMutationConsentReceipt}
  {request : PrivilegedHelperRequest}

/-- The step passes the gate on this journal under any lease, its launch is accepted, and what a
launch runs is the command that was compiled for the request, from the tools pinned for it. -/
structure Launchable (journal : OperationJournal) (activation : ProductionMutationActivationIntent)
    (consent : ProductionMutationConsentReceipt) (identity : TargetIdentityManifest)
    (step : PreparedProductionMutationStep τ) : Prop where
  gate : ∀ lease, validateGate journal consent (step.descriptorChain activation lease) = .ok ()
  accepted : PrivilegedExec.validateLaunch step.launchPermit step.launch step.pinned step.command
    true = .ok ()
  compiled : compilePrivilegedHelperCommand step.request identity = .ok step.command
  runs : ∀ outcome t, Proc.Can (PrivilegedExec.executePrivilegedDescriptorLaunchInner
      step.launchPermit step.launch step.pinned step.command true) () ⟨(), []⟩ (.ok outcome) () t →
    PrivilegedExec.Authorized step.command step.pinned outcome (PrivilegedExec.spawned t.log)

theorem Assembled.launchable {journal : OperationJournal} {step : PreparedProductionMutationStep τ}
    (h : Assembled activation consent step)
    (hcompiled : compilePrivilegedHelperCommand step.request identity = .ok step.command)
    (hrequest : Requested journal b identity step.request)
    (hstands : StandsFor activation b identity) :
    Launchable journal activation consent identity step := by
  refine ⟨fun lease => gate_passes h lease hrequest hstands, ?_, hcompiled, ?_⟩
  · obtain ⟨files, hbuilt⟩ := h.built
    obtain ⟨started, executionId, receiptId, planStepId, authorization, hpermit⟩ := h.permitted
    exact PrivilegedExec.chain_bound hbuilt hpermit
  · intro outcome t hcan
    obtain ⟨files, hbuilt⟩ := h.built
    exact PrivilegedExec.built_launch_authorized hbuilt hcan

/-- What succeeds without being interrupted is what the body says. -/
theorem orInterrupt_ok {durable : LockedSessionError → ε} {reason : String} {p : GrowthProc τ ε α}
    {ok : α → LockedExecutionSession → St (growth τ) → Prop}
    (hp : p.Holds session s ok (fun _ _ _ => True) fun _ => True) :
    (orInterrupt fromSlice durable reason p).Holds session s ok (fun _ _ _ => True)
      fun _ => True := by
  unfold orInterrupt
  refine Proc.holds_bind.mpr (Proc.holds_attempt.mpr (hp.mono ?_ ?_ fun _ h => h))
  · exact fun _ _ _ h => Proc.holds_pure.mpr h
  · intro e after t _
    exact Proc.Holds.any_bind fun _ _ _ => Proc.holds_throw.mpr trivial

/-- The invocation that is prepared has the command of its request. -/
theorem compile_holds (request : PrivilegedHelperRequest) (identity : TargetIdentityManifest) :
    (compilePreparedInvocation request identity : PrepareProc τ _).Holds session s
      (fun compiled _ _ => compilePrivilegedHelperCommand request identity = .ok compiled.1 ∧
        compiled.1.planStepId = request.planStepId)
      (fun _ _ _ => True) fun _ => True := by
  unfold compilePreparedInvocation
  apply Proc.Holds.lift_bind
  intro command hcommand
  rw [mapError_eq_ok_iff] at hcommand
  apply Proc.Holds.any_bind
  intro tools m u
  apply Proc.Holds.lift_bind
  intro prepared hprepared
  rw [mapError_eq_ok_iff] at hprepared
  simp only [preparePrivilegedInvocation, bind_eq_ok_iff, exists_check_iff, refuse_eq_ok_iff,
    not_not, ne_eq] at hprepared
  exact Proc.holds_pure.mpr ⟨hcommand, hprepared.2.2.1⟩

/-- The step was assembled for this request, from the command that was compiled for it. -/
structure BuiltFor (activation : ProductionMutationActivationIntent)
    (consent : ProductionMutationConsentReceipt) (identity : TargetIdentityManifest)
    (request : PrivilegedHelperRequest) (step : PreparedProductionMutationStep τ) : Prop where
  sameRequest : step.request = request
  compiled : compilePrivilegedHelperCommand request identity = .ok step.command
  assembled : Assembled activation consent step

theorem launchPrepared_holds {command : PrivilegedCommandSpec}
    {prepared : PreparedPrivilegedInvocation}
    {authorize : PrivilegedToolResolution →
      Except PrivilegedSpawnAuthorizationError PrivilegedSpawnAuthorization}
    {sealPermit : PrivilegedSpawnAuthorization → PrivilegedDescriptorLaunchSpec →
      Except PrivilegedLaunchPermitError PrivilegedLaunchPermit}
    (hpermit : ∀ authorization launch permit, sealPermit authorization launch = .ok permit →
      ∃ started executionId receiptId planStepId,
        sealLaunchPermit started executionId receiptId planStepId authorization launch = .ok permit)
    (hcompiled : compilePrivilegedHelperCommand request identity = .ok command)
    (hstep : command.planStepId = request.planStepId) :
    (launchPrepared request command prepared authorize sealPermit activation consent :
      PrepareProc τ _).Holds session s
      (fun step _ _ => BuiltFor activation consent identity request step)
      (fun _ _ _ => True) fun _ => True := by
  unfold launchPrepared
  apply Proc.Holds.any_bind
  intro freshTools _ _
  apply Proc.Holds.lift_bind
  intro authorization _
  apply Proc.Holds.any_bind
  intro pinned _ _
  apply Proc.Holds.any_bind
  intro files _ _
  apply Proc.Holds.lift_bind
  intro launch hlaunch
  apply Proc.Holds.lift_bind
  intro launchPermit hlaunchPermit
  apply Proc.Holds.lift_bind
  intro permit hpermitted
  rw [mapError_eq_ok_iff] at hlaunch hlaunchPermit hpermitted
  obtain ⟨started, executionId, receiptId, planStepId, hsealed⟩ := hpermit _ _ _ hlaunchPermit
  exact Proc.holds_pure.mpr ⟨rfl, hcompiled, hstep, ⟨files, hlaunch⟩,
    ⟨started, executionId, receiptId, planStepId, authorization, hsealed⟩, hpermitted⟩

/-- An execution that was started was bound to what the journal approved. -/
theorem startBound {prepared : PreparedPrivilegedInvocation} :
    (persistPreparedPrivilegedExecutionStart fromSlice b request prepared :
      PrepareProc τ _).Holds session s
      (fun _ _ _ => ∃ firstStep,
        validateStartBinding session.journal b request prepared = .ok firstStep)
      (fun _ _ _ => True) fun _ => True := by
  unfold persistPreparedPrivilegedExecutionStart
  refine Proc.holds_bind.mpr (Proc.holds_get.mpr ?_)
  apply Proc.Holds.lift_bind
  intro firstStep hstart
  rw [mapError_eq_ok_iff] at hstart
  exact Proc.Holds.any ⟨firstStep, hstart⟩

theorem first_builds (validated : ValidatedNativeManifest) :
    (prepareFirstProductionMutationStep fromSlice validated b identity activation consent :
      PrepareProc τ _).Holds session s
      (fun step _ _ => ∃ prepared firstStep,
        buildPrivilegedHelperRequest validated b identity activation.lvStepId = .ok step.request ∧
        validateStartBinding session.journal b step.request prepared = .ok firstStep ∧
        BuiltFor activation consent identity step.request step)
      (fun _ _ _ => True) fun _ => True := by
  unfold prepareFirstProductionMutationStep
  apply Proc.Holds.lift_bind
  intro request hrequest
  rw [mapError_eq_ok_iff] at hrequest
  refine Proc.Holds.bind (((compile_holds request identity).and
    (keeps_compile request identity session s)).mono (fun _ _ _ h => h) (fun _ _ _ _ => trivial)
      fun _ _ => trivial) ?_
  intro compiled after t h
  obtain ⟨⟨hcompiled, hstep⟩, rfl, -⟩ := h
  refine Proc.Holds.bind startBound ?_
  intro start last u h
  obtain ⟨firstStep, hstart⟩ := h
  apply orInterrupt_ok
  refine (launchPrepared_holds ?_ hcompiled hstep).mono ?_ (fun _ _ _ h => h) fun _ h => h
  · exact fun authorization launch permit h => ⟨_, _, _, _, h⟩
  · intro step _ _ hbuilt
    rw [hbuilt.sameRequest]
    exact ⟨compiled.2, firstStep, hrequest, hstart, hbuilt⟩

theorem continuation_builds (validated : ValidatedNativeManifest) :
    (prepareContinuationProductionMutationStep fromSlice validated identity activation consent :
      PrepareProc τ _).Holds session s
      (fun step _ _ => buildPrivilegedHelperRequestForDurableStep validated session.journal identity
          activation.filesystemStepId = .ok step.request ∧
        BuiltFor activation consent identity step.request step)
      (fun _ _ _ => True) fun _ => True := by
  unfold prepareContinuationProductionMutationStep
  apply orInterrupt_ok
  refine Proc.holds_bind.mpr (Proc.holds_get.mpr ?_)
  apply Proc.Holds.lift_bind
  intro request hrequest
  rw [mapError_eq_ok_iff] at hrequest
  refine Proc.Holds.bind (compile_holds request identity) ?_
  intro compiled after t h
  apply Proc.Holds.any_bind
  intro start _ _
  refine (launchPrepared_holds ?_ h.1 h.2).mono ?_ (fun _ _ _ h => h) fun _ h => h
  · exact fun authorization launch permit h => ⟨_, _, _, _, h⟩
  · intro step _ _ hbuilt
    rw [hbuilt.sameRequest]
    exact ⟨hrequest, hbuilt⟩

/-- Every run of a preparation, to its end or cut at any call. The step that it returns can be
launched on the journal it leaves, where the activation is for this execution and this target. -/
theorem prepared_step_launchable (fromSlice : FromSlice) (validated : ValidatedNativeManifest)
    (b : ExecutionStartBinding) (identity : TargetIdentityManifest)
    (activation : ProductionMutationActivationIntent) (consent : ProductionMutationConsentReceipt)
    (session : LockedExecutionSession) (s : St (growth τ)) :
    (prepareFirstProductionMutationStep fromSlice validated b identity activation consent :
      PrepareProc τ _).Holds session s
      (fun step after t => Unspawned s t ∧ (session.journal.verifiedBoundary = none →
        StandsFor activation b identity →
        Launchable after.journal activation consent identity step))
      (fun _ _ t => Unspawned s t) (Unspawned s) ∧
    (prepareContinuationProductionMutationStep fromSlice validated identity activation consent :
      PrepareProc τ _).Holds session s
      (fun step after t => Unspawned s t ∧ ∀ b, session.journal.execution = some b →
        StandsFor activation b identity →
        Launchable after.journal activation consent identity step)
      (fun _ _ t => Unspawned s t) (Unspawned s) := by
  constructor
  · refine ((first_builds validated).and (prepareFirst_holds validated b identity activation
      consent)).mono ?_ (fun _ _ _ h => h.2.1) fun _ h => h.2
    intro step after t h
    obtain ⟨⟨prepared, firstStep, hrequest, hstart, hbuilt⟩, hunspawned, hmoved, -⟩ := h
    refine ⟨hunspawned, fun hfresh hstands => ?_⟩
    exact hbuilt.assembled.launchable hbuilt.compiled
      (requested_first hfresh hrequest hstart hmoved) hstands
  · refine ((continuation_builds validated).and (prepareContinuation_holds validated identity
      activation consent)).mono ?_ (fun _ _ _ h => h.2.1) fun _ h => h.2
    intro step after t h
    obtain ⟨⟨hrequest, hbuilt⟩, hunspawned, rfl⟩ := h
    refine ⟨hunspawned, fun b hexecution hstands => ?_⟩
    exact hbuilt.assembled.launchable hbuilt.compiled (requested_durable hexecution hrequest)
      hstands

/-- An activation is for the execution and the target that it was sealed over. -/
theorem standsFor_of_seal {validated : ValidatedNativeManifest}
    (h : sealProductionMutationActivationIntent true validated b identity = .ok activation) :
    StandsFor activation b identity := by
  simp only [sealProductionMutationActivationIntent, bind_eq_ok_iff, exists_check_iff] at h
  obtain ⟨-, -, profile, -, -, h⟩ := h
  rw [← Except.ok.inj h]
  exact ⟨rfl, rfl, rfl, rfl, rfl⟩

end Launchable

end ProductionStep

end StorageManager.Executor
