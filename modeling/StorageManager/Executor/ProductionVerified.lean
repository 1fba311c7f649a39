import StorageManager.Executor.PrivilegedFrame
import StorageManager.Executor.ProductionSpawns
import StorageManager.Planner.ExecutionHandoff

/-!
# How a production step ends

A step that returns has closed itself in the durable journal, on an identity that was discovered
after its processes. A step that fails leaves no journal that still executes, unless the store
failed.
-/

namespace StorageManager.Executor

open JournalStore
open Lib.Checks
open Lib.Effects
open Planner
open Planner.ExecutionGuard
open PrivilegedContinue

set_option autoImplicit false

namespace ProductionStep

section Gate

variable {τ : Type} [Fingerprint] {reader : ConsentReader} {journal : OperationJournal}
  {chain : ProductionDescriptorExecutionChain τ} {s t : St (growth τ)} {b : ExecutionStartBinding}
  {n : Nat} {digest : String}

theorem validateCurrentStep_eq_ok {request : PrivilegedHelperRequest}
    (h : validateCurrentStep journal request = .ok ()) :
    ∃ b, executionForJournal journal = .ok b ∧ request.planStepId ∈ b.mutationStepIds ∧
      standsBefore journal b request.planStepId request.freshIdentityDigest = true := by
  simp only [validateCurrentStep, bind_eq_ok_iff, exists_check_iff, refuse_eq_ok_iff,
    okOr_eq_ok_iff, not_or, not_not] at h
  obtain ⟨hphase, b, hexecution, hsealed, -, hmem, hstands⟩ := h
  exact ⟨b, executionForJournal_eq_ok_iff.mpr ⟨hphase, hexecution, hsealed⟩, hmem, hstands⟩

theorem Gated.current (h : Gated reader journal chain s t) :
    validateCurrentStep journal chain.request = .ok () := by
  obtain ⟨consent, -, hgate⟩ := h
  simp only [validateGate, bind_eq_ok_iff, exists_check_iff] at hgate
  exact hgate.2.2.2.1

theorem Gated.executing (h : Gated reader journal chain s t) : journal.phase = .executing := by
  obtain ⟨b, hexecution, -⟩ := validateCurrentStep_eq_ok h.current
  exact (executionForJournal_eq_ok_iff.mp hexecution).1.1

/-- What passes the gate is the next step, on the identity that was verified last. -/
theorem Gated.position (h : Gated reader journal chain s t) (hprogress : Progress b n digest journal) :
    b.mutationStepIds[n]? = some chain.request.planStepId ∧
      (b.mutationStepIds.take (n + 1)).Nodup ∧ chain.request.freshIdentityDigest = digest := by
  obtain ⟨b', hexecution, hmem, hstands⟩ := validateCurrentStep_eq_ok h.current
  obtain ⟨-, hbinding, -⟩ := executionForJournal_eq_ok_iff.mp hexecution
  cases Option.some.inj (hprogress.execution.symm.trans hbinding)
  obtain ⟨hposition, hidentity⟩ := hprogress.position hmem hstands
  refine ⟨?_, hprogress.distinct_succ hmem hposition, hidentity⟩
  rw [← hposition]
  exact List.getElem?_idxOf hmem

/-- The state after the calls of a script. -/
def stepRun (fromSlice : FromSlice) (reader : ConsentReader)
    (chain : ProductionDescriptorExecutionChain τ) (before : TargetIdentityManifest)
    (session : LockedExecutionSession) (s : St (growth τ)) (script : Script (growth τ)) :
    St (growth τ) :=
  ((executeVerifyAndPersistProductionStep fromSlice reader chain before session).run script s).2

theorem stepRun_law (fromSlice : FromSlice) (reader : ConsentReader)
    (chain : ProductionDescriptorExecutionChain τ) (before : TargetIdentityManifest)
    (session : LockedExecutionSession) (s : St (growth τ)) (script : Script (growth τ)) :
    SpawnLaw fromSlice reader session.journal chain s
      (stepRun fromSlice reader chain before session s script) := by
  have h := Calls.wp_sound (@step_spawns _ _ fromSlice reader chain session s before) script
  revert h
  unfold stepRun
  rcases ((executeVerifyAndPersistProductionStep fromSlice reader chain before session).run
    script s).1 with _ | ⟨_ | _, _⟩ <;> exact id

/-- Every run of a step, to its end or cut at any call. Nothing is spawned but the launch, and
only where the durable record stands before this step. -/
theorem spawned_behind_gate (fromSlice : FromSlice) (reader : ConsentReader)
    (chain : ProductionDescriptorExecutionChain τ) (before : TargetIdentityManifest)
    (session : LockedExecutionSession) (s : St (growth τ)) (script : Script (growth τ)) :
    let t := stepRun fromSlice reader chain before session s script
    SpawnLaw fromSlice reader session.journal chain s t ∧
      (processes t.log ≠ processes s.log → ∃ b, executionForJournal session.journal = .ok b ∧
        chain.request.planStepId ∈ b.mutationStepIds ∧
        standsBefore session.journal b chain.request.planStepId
          chain.request.freshIdentityDigest = true) := by
  intro t
  have hlaw := stepRun_law fromSlice reader chain before session s script
  refine ⟨hlaw, fun hspawned => ?_⟩
  rcases hlaw.gated with hnone | hgated
  · exact absurd hnone hspawned
  · exact validateCurrentStep_eq_ok hgated.current

/-- From `s` to `t` the operator's file was read again. It is the file of the lease, it stands in
one of the two places for this activation, and it holds the one document that consents to it. -/
structure OperatorConsent (reader : ConsentReader) (chain : ProductionDescriptorExecutionChain τ)
    (s t : St (growth τ)) : Prop where
  read : ∃ bytes, Answered (F := growthEnv τ) (.readConsent chain.consentLease.receipt.consentPath)
    (.ok (bytes, chain.consentLease.receipt.consentFile)) s t ∧
    ConsentsTo reader chain.activation bytes
  sameFile : Answered (F := growthEnv τ)
    (.leaseMatches chain.consentLease.receipt.consentFile) (.ok true) s t
  ownerOnly : validateFileIdentity chain.consentLease.receipt.consentFile = .ok ()
  place : chain.consentLease.receipt.consentPath = productionMutationConsentPath ∨
    operatorConsentPath chain.activation = .ok chain.consentLease.receipt.consentPath
  permitted : chain.productionPermit.consentReceiptId = (consentReceipt chain.activation
    chain.consentLease.receipt.consentPath chain.consentLease.receipt.consentFile).receiptId

theorem Gated.operatorConsent (h : Gated reader journal chain s t) :
    OperatorConsent reader chain s t := by
  obtain ⟨consent, hconsented, hgate⟩ := h
  obtain ⟨bytes, identity, hread, hbound⟩ := hconsented.read
  obtain ⟨-, hfile, hconsents, rfl⟩ := bindConsentReceipt_eq_ok_iff.mp hbound
  have hsame : identity = chain.consentLease.receipt.consentFile := hconsented.sameFile
  simp only [validateGate, bind_eq_ok_iff, exists_check_iff, refuse_eq_ok_iff, not_or, not_not,
    ne_eq] at hgate
  obtain ⟨-, -, ⟨-, -, -, -, hpermit⟩, -⟩ := hgate
  subst hsame
  exact ⟨⟨bytes, hread, hconsents⟩, hconsented.matched, hfile, hconsented.path, hpermit.symm⟩

/-- Every run of a step, to its end or cut at any call. Before its first process the operator's
consent to exactly this activation was read again. -/
theorem spawned_behind_consent (fromSlice : FromSlice) (reader : ConsentReader)
    (chain : ProductionDescriptorExecutionChain τ) (before : TargetIdentityManifest)
    (session : LockedExecutionSession) (s : St (growth τ)) (script : Script (growth τ)) :
    let t := stepRun fromSlice reader chain before session s script
    processes t.log = processes s.log ∨
      ∃ u, Unspawned s u ∧ OperatorConsent reader chain s u ∧ Grew (fun _ => True) u t := by
  intro t
  apply (stepRun_law fromSlice reader chain before session s script).behind.imp_right
  intro h
  obtain ⟨u, hunspawned, hgated, hgrew⟩ := h
  exact ⟨u, hunspawned, hgated.operatorConsent, hgrew⟩

end Gate

section Failures

variable {fromSlice : FromSlice} [Fingerprint] {b : ExecutionStartBinding} {n : Nat}
  {digest : String} {session after : LockedExecutionSession} {d : Lib.Directory.Dir} {P Q : Prop}

/-- How a step that failed leaves its session. A binding whose steps are no distinct numbers can
be refused by the journal itself. -/
inductive Fails (fromSlice : FromSlice) (b : ExecutionStartBinding) (storeFailed : Prop)
    (session after : LockedExecutionSession) (d : Lib.Directory.Dir) : Prop
  | store (failed : storeFailed)
  | stopped (stopped : Stopped fromSlice storeFailed session after d)
  | recovery (phase : after.journal.phase = .recoveryRequired)
      (shown : Shown fromSlice d after.journal)
  | unnumbered (phase : after.journal.phase = .verifying)
      (steps : 0 ∈ b.mutationStepIds ∨ ¬b.mutationStepIds.Nodup)

theorem Fails.imp (h : Fails fromSlice b P session after d) (hPQ : P → Q) :
    Fails fromSlice b Q session after d := by
  cases h with
  | store failed => exact .store (hPQ failed)
  | stopped stopped => exact .stopped (stopped.imp hPQ)
  | recovery phase shown => exact .recovery phase shown
  | unnumbered phase steps => exact .unnumbered phase steps

theorem interrupted_phase {j k : OperationJournal} {reason : String}
    (h : applyToCopy j (.interrupted reason) = .ok k) :
    k.phase = .recoveryRequired ∨ k.phase = .aborted := by
  unfold applyToCopy OperationJournal.apply at h
  split at h
  · rename_i hmoved
    split at hmoved
    · cases hmoved
    · dsimp only at hmoved
      split at hmoved <;> cases hmoved <;> cases h
      · exact .inl rfl
      · exact .inr rfl
  · cases h

/-- Unless the store failed, nothing executes any more. -/
theorem Stopped.halts (h : Stopped fromSlice P session after d) (hstore : ¬P) :
    after.journal.phase ≠ .executing ∧ after.journal.phase ≠ .approved := by
  cases h with
  | store failed => exact absurd failed hstore
  | interrupted reason next moved same shown =>
    rw [same]
    rcases interrupted_phase moved with hphase | hphase <;> rw [hphase] <;> decide
  | ended phase same =>
    rw [same]
    rcases phase with hphase | hphase | hphase <;> rw [hphase] <;> decide

theorem Fails.halts (h : Fails fromSlice b P session after d) (hstore : ¬P) :
    after.journal.phase ≠ .executing ∧ after.journal.phase ≠ .approved := by
  cases h with
  | store failed => exact absurd failed hstore
  | stopped stopped => exact stopped.halts hstore
  | recovery phase =>
    rw [phase]
    decide
  | unnumbered phase =>
    rw [phase]
    decide

/-- An execution that fails is in recovery, durably, unless the store failed. -/
theorem Fails.recovers (h : Fails fromSlice b P session after d)
    (hphase : session.journal.phase = .executing) (hnumbered : 0 ∉ b.mutationStepIds)
    (hdistinct : b.mutationStepIds.Nodup) :
    P ∨ after.journal.phase = .recoveryRequired ∧ Shown fromSlice d after.journal := by
  cases h with
  | store failed => exact .inl failed
  | stopped stopped =>
    cases stopped with
    | store failed => exact .inl failed
    | interrupted reason next moved same shown =>
      obtain ⟨k, hk, hrecovery⟩ := applyToCopy_interrupted reason (.inl hphase)
      cases hk.symm.trans moved
      rw [same]
      exact .inr ⟨hrecovery, shown⟩
    | ended phase =>
      rw [hphase] at phase
      rcases phase with h | h | h <;> cases h
  | recovery phase shown => exact .inr ⟨phase, shown⟩
  | unnumbered phase steps =>
    rcases steps with hzero | htwice
    · exact absurd hzero hnumbered
    · exact absurd hdistinct htwice

end Failures

section Steps

variable {τ : Type} [Fingerprint] {fromSlice : FromSlice} {reader : ConsentReader}
  {s t u : St (growth τ)} {session : LockedExecutionSession} {b : ExecutionStartBinding} {n : Nat}
  {digest : String} {chain : ProductionDescriptorExecutionChain τ}

/-- The durable transition after a step that ran. -/
theorem persisted_holds (hprogress : Progress b n digest session.journal)
    (request : PrivilegedHelperRequest) (process : PrivilegedProcessReceipt)
    (verification : Option PrivilegedLayerVerificationReceipt)
    (hdigest : ∀ v, verification = some v → isSha256Hex v.freshIdentityDigest = true) :
    (onJournal (persistPrivilegedDurableTransition fromSlice request process verification) :
      GrowthProc τ PrivilegedDurableTransitionError PrivilegedDurableDisposition).Holds session s
      (fun disposition after t => (Shown fromSlice t.world after.journal ∧
        (process.disposition = .recoveryRequired ∧ disposition = .recoveryRequired ∧
            after.journal.phase = .recoveryRequired ∨
          ∃ v, verification = some v ∧
            Advanced b n digest request process v disposition after.journal)) ∧ Unspawned s t)
      (fun e after t => Fails fromSlice b (TransitionStoreFailed e) session after t.world ∧
        Unspawned s t) (Unspawned s) := by
  refine onJournal_holds (fun disposition after d => Shown fromSlice d after.journal ∧
      (process.disposition = .recoveryRequired ∧ disposition = .recoveryRequired ∧
          after.journal.phase = .recoveryRequired ∨
        ∃ v, verification = some v ∧
          Advanced b n digest request process v disposition after.journal))
    (fun e after d => Fails fromSlice b (TransitionStoreFailed e) session after d)
    fun v _ => ?_
  refine (persistPrivilegedDurableTransition_holds (.executing hprogress)).mono ?_ ?_ fun _ h => h
  · exact fun _ _ _ h => h
  · intro e after u h
    obtain ⟨-, (⟨source, rfl, hstore⟩ | hrecovery | hidle) | hverifying⟩ := h
    · exact .store hstore
    · exact .recovery hrecovery.1 hrecovery.2
    · exact absurd hprogress.phase hidle.2.1
    · refine .unnumbered hverifying.1 ?_
      by_contra hnumbered
      obtain ⟨hzero, hdistinct⟩ := not_or.mp hnumbered
      exact hverifying.2 ⟨hzero, not_not.mp hdistinct, hdigest⟩

/-- A launch that was classified. An outcome that needs recovery is in recovery by then. -/
theorem classify_holds (hprogress : session.journal.phase = .executing →
      Progress b n digest session.journal) :
    (executeAndClassifyProductionDescriptorLaunch fromSlice reader chain).Holds session s
      (fun receipt after t => Gated reader session.journal chain s t ∧
        (∃ outcome, processes t.log = processes s.log ++ ranTo chain outcome ∧
          classifyPrivilegedProcessOutcome chain.launchPermit chain.launch outcome =
            .ok receipt) ∧
        (receipt.disposition ≠ .recoveryRequired ∧ after = session ∨
          receipt.disposition = .recoveryRequired ∧ after.journal.phase = .recoveryRequired ∧
            Shown fromSlice t.world after.journal))
      (fun e after t => Fails fromSlice b e.StoreFailed session after t.world) fun _ => True := by
  unfold executeAndClassifyProductionDescriptorLaunch
  refine Proc.holds_bind.mpr ((raw_holds chain).mono ?_ (fun _ _ _ h => .stopped h.2)
    fun _ _ => trivial)
  intro outcome after t h
  obtain ⟨rfl, hgated, -, hprocesses⟩ := h
  refine Proc.holds_bind.mpr (Proc.Holds.mono (orInterrupt_holds
    ProductionDescriptorExecutionError.StoreFailed (fun _ => True)
    (fun receipt last u => last = after ∧ u = t ∧
      classifyPrivilegedProcessOutcome chain.launchPermit chain.launch outcome = .ok receipt)
    (fun _ h => h) (fun _ _ => trivial) (Proc.holds_lift.mpr ⟨fun receipt hreceipt => ⟨rfl, rfl,
      mapError_eq_ok_iff.mp hreceipt⟩, fun _ _ => ⟨rfl, trivial⟩⟩)) ?_ ?_ fun _ h => h)
  · intro receipt last u h
    obtain ⟨rfl, rfl, hreceipt⟩ := h
    split
    · rename_i hrecovery
      refine Proc.holds_bind.mpr (Proc.holds_mapError.mpr ((persisted_holds
        (hprogress hgated.executing) chain.request receipt none fun _ h => by cases h).mono
          ?_ ?_ fun _ _ => trivial))
      · intro _ final v h
        obtain ⟨⟨hshown, hrecovered | ⟨_, hnone, -⟩⟩, hunspawned⟩ := h
        · refine Proc.holds_pure.mpr ⟨hgated.after hunspawned, ⟨outcome, ?_, hreceipt⟩,
            .inr ⟨hrecovery, hrecovered.2.2, hshown⟩⟩
          rw [hunspawned.processes, hprocesses]
        · cases hnone
      · exact fun _ _ _ h => h.1
    · rename_i hended
      exact Proc.holds_pure.mpr ⟨hgated, ⟨outcome, hprocesses, hreceipt⟩, .inl ⟨hended, rfl⟩⟩
  · exact fun _ _ _ h => .stopped h.2

/-- A later discovery that verifies the step, with the tools of the handoff. -/
structure Found (session : LockedExecutionSession) (chain : ProductionDescriptorExecutionChain τ)
    (process : PrivilegedProcessReceipt) (before fresh : TargetIdentityManifest)
    (receipt : PrivilegedLayerVerificationReceipt) (s t : St (growth τ)) : Prop where
  discovered : ∃ snapshot, Answered (F := growthEnv τ) .discoverSnapshot (.ok snapshot) s t ∧
    captureTargetIdentity snapshot chain.request.target = .ok fresh
  capabilities : ∃ found, Answered (F := growthEnv τ) .discoverCapabilities found s t ∧
    session.handoff.matchesCapabilities found = true
  verified : verifyPrivilegedLayerPostState chain.request process before fresh = .ok receipt

variable {process : PrivilegedProcessReceipt} {before fresh : TargetIdentityManifest}
  {receipt : PrivilegedLayerVerificationReceipt}

theorem Found.since (h : Found session chain process before fresh receipt t u)
    {P : Entry (growth τ) → Prop} (hless : Grew P s t) :
    Found session chain process before fresh receipt s u := by
  obtain ⟨⟨snapshot, hsnapshot, hfresh⟩, ⟨found, hfound, hmatches⟩, hverified⟩ := h
  exact ⟨⟨snapshot, hsnapshot.before hless, hfresh⟩, ⟨found, hfound.before hless, hmatches⟩,
    hverified⟩

theorem Found.until {P : Entry (growth τ) → Prop}
    (h : Found session chain process before fresh receipt s t) (hmore : Grew P t u) :
    Found session chain process before fresh receipt s u := by
  obtain ⟨⟨snapshot, hsnapshot, hfresh⟩, ⟨found, hfound, hmatches⟩, hverified⟩ := h
  exact ⟨⟨snapshot, hsnapshot.after hmore, hfresh⟩, ⟨found, hfound.after hmore, hmatches⟩, hverified⟩

theorem Found.hexDigest (h : Found session chain process before fresh receipt s t) :
    receipt.freshIdentityDigest = fresh.manifestDigest ∧
      isSha256Hex receipt.freshIdentityDigest = true := by
  obtain ⟨snapshot, -, hfresh⟩ := h.discovered
  have hdigests := (verifyPrivilegedLayerPostState_eq_ok_iff.mp h.verified).2.2.1.digests
  rw [hdigests.2]
  exact ⟨rfl, Handoff.captureTargetIdentity_digest hfresh⟩

theorem verifyAttempt_verified {snapshot : Core.HostSnapshot}
    (h : verifyAttempt chain process before snapshot = .ok (.verified fresh receipt)) :
    captureTargetIdentity snapshot chain.request.target = .ok fresh ∧
      verifyPrivilegedLayerPostState chain.request process before fresh = .ok receipt := by
  unfold verifyAttempt at h
  split at h
  · cases h
  · rename_i identity hidentity
    split at h
    · rename_i hverified
      cases h
      exact ⟨hidentity, hverified⟩
    · split at h <;> cases h

theorem discoverAttempt_holds :
    (discoverAttempt chain process before).Holds session s
      (fun attempt after t => after = session ∧ Looked s t ∧ ∀ fresh receipt,
        attempt = .verified fresh receipt → Found session chain process before fresh receipt s t)
      (fun _ after t => after = session ∧ Looked s t) (Looked s) := by
  unfold discoverAttempt
  refine Proc.holds_bind.mpr ((growthAsk_holds fun _ h => by cases h).mono ?_
    (fun _ _ _ h => h.elim) fun _ h => h)
  intro answer after t h
  obtain ⟨rfl, hlooked, hanswered⟩ := h
  cases answer with
  | error error => exact Proc.holds_pure.mpr ⟨rfl, hlooked, fun _ _ h => by cases h⟩
  | ok snapshot =>
    refine Proc.holds_bind.mpr ((growthAsk_holds fun _ h => by cases h).mono ?_
      (fun _ _ _ h => h.elim) fun _ h => trans_of Looked hlooked h)
    intro found after' u h
    obtain ⟨rfl, hmore, hfound⟩ := h
    have hall := trans_of Looked hlooked hmore
    refine Proc.holds_bind.mpr (Proc.holds_get.mpr (Proc.holds_bind.mpr (Proc.holds_lift.mpr
      ⟨fun _ hmatches => ?_, fun _ _ => ⟨rfl, hall⟩⟩)))
    refine Proc.holds_lift.mpr ⟨fun attempt hattempt => ⟨rfl, hall, ?_⟩, fun _ _ => ⟨rfl, hall⟩⟩
    intro fresh receipt hverified
    rw [hverified] at hattempt
    obtain ⟨hfresh, hreceipt⟩ := verifyAttempt_verified hattempt
    exact ⟨⟨snapshot, hanswered.after hmore.2, hfresh⟩,
      ⟨found, hfound.before hlooked.2, not_not.mp (refuse_eq_ok_iff.mp hmatches)⟩, hreceipt⟩

/-- The attempts change nothing, and the one that ends them has verified the step. -/
theorem discoverFrom_holds (attempts : Nat) (lastError : ProductionVerifiedMutationStepError) :
    (discoverFrom chain process before attempts lastError).Holds session s
      (fun found after t => after = session ∧ Looked s t ∧
        Found session chain process before found.1 found.2 s t)
      (fun _ after t => after = session ∧ Looked s t) (Looked s) := by
  induction attempts generalizing s lastError with
  | zero => exact Proc.holds_throw.mpr ⟨rfl, refl_of Looked s⟩
  | succ attempts ih =>
    unfold discoverFrom
    refine Proc.holds_bind.mpr (discoverAttempt_holds.mono ?_ (fun _ _ _ h => h) fun _ h => h)
    intro attempt after t h
    obtain ⟨rfl, hlooked, hverified⟩ := h
    cases attempt with
    | verified fresh receipt =>
      exact Proc.holds_pure.mpr ⟨rfl, hlooked, hverified fresh receipt rfl⟩
    | transient error =>
      refine (ih error).mono ?_ ?_ fun _ h => trans_of Looked hlooked h
      · exact fun _ _ _ h => ⟨h.1, trans_of Looked hlooked h.2.1, h.2.2.since hlooked.2⟩
      · exact fun _ _ _ h => ⟨h.1, trans_of Looked hlooked h.2⟩

def ProductionVerifiedMutationStepError.StoreFailed : ProductionVerifiedMutationStepError → Prop
  | .execution source => source.StoreFailed
  | .session source => OfStore source
  | .durableTransition source => TransitionStoreFailed source
  | _ => False

/-- The step was closed by its own processes, and by what was discovered after them. -/
structure Verified (fromSlice : FromSlice) (b : ExecutionStartBinding) (n : Nat) (digest : String)
    (session : LockedExecutionSession) (chain : ProductionDescriptorExecutionChain τ)
    (before : TargetIdentityManifest) (step : ProductionVerifiedMutationStep)
    (after : LockedExecutionSession) (s t : St (growth τ)) : Prop where
  ran : ∃ outcome, processes t.log = processes s.log ++ ranTo chain outcome ∧
    classifyPrivilegedProcessOutcome chain.launchPermit chain.launch outcome =
      .ok step.processReceipt
  found : ∃ u, processes u.log = processes t.log ∧ Found session chain step.processReceipt before
    step.freshIdentity step.verificationReceipt u t
  advanced : Advanced b n digest chain.request step.processReceipt step.verificationReceipt
    step.durableDisposition after.journal
  shown : Shown fromSlice t.world after.journal
  returned : step.freshIdentityDigest = step.freshIdentity.manifestDigest

/-- One call of the step. -/
theorem verifiedStep_holds (hprogress : session.journal.phase = .executing →
      Progress b n digest session.journal) (before : TargetIdentityManifest) :
    (executeVerifyAndPersistProductionStep fromSlice reader chain before).Holds session s
      (fun step after t => Gated reader session.journal chain s t ∧
        Verified fromSlice b n digest session chain before step after s t)
      (fun e after t => Fails fromSlice b e.StoreFailed session after t.world) fun _ => True := by
  unfold executeVerifyAndPersistProductionStep
  refine Proc.holds_bind.mpr (Proc.Holds.mono (orInterrupt_holds
    ProductionVerifiedMutationStepError.StoreFailed (fun _ => True)
    (fun _ after t => after = session ∧ t = s) (fun _ h => h) (fun _ _ => trivial)
    (Proc.holds_lift.mpr ⟨fun _ _ => ⟨rfl, rfl⟩, fun _ _ => ⟨rfl, trivial⟩⟩)) ?_
      (fun _ _ _ h => .stopped h.2) fun _ h => h)
  intro _ after t h
  obtain ⟨rfl, rfl⟩ := h
  refine Proc.holds_bind.mpr (Proc.holds_mapError.mpr ((classify_holds hprogress).mono ?_
    (fun _ _ _ h => h) fun _ h => h))
  intro process held u h
  obtain ⟨hgated, ⟨outcome, hprocesses, hreceipt⟩, hended⟩ := h
  split
  · rename_i hrecovery
    rcases hended with ⟨hnot, -⟩ | ⟨-, hphase, hshown⟩
    · exact absurd hrecovery hnot
    · exact Proc.holds_throw.mpr (.recovery hphase hshown)
  · rename_i hrediscover
    rcases hended with ⟨-, rfl⟩ | ⟨hrecovery, -⟩
    · refine Proc.holds_bind.mpr (Proc.Holds.mono (orInterrupt_holds
        ProductionVerifiedMutationStepError.StoreFailed (fun _ => True)
        (fun found last v => last = held ∧ Looked u v ∧
          Found held chain process before found.1 found.2 u v) (fun _ h => h)
          (fun _ _ => trivial) ((discoverFrom_holds _ _).mono (fun _ _ _ h => h)
            (fun _ _ _ h => ⟨h.1, trivial⟩) fun _ _ => trivial)) ?_
              (fun _ _ _ h => .stopped h.2) fun _ h => h)
      intro found last v h
      obtain ⟨rfl, hlooked, hfound⟩ := h
      refine Proc.holds_bind.mpr (Proc.holds_mapError.mpr ((persisted_holds
        (hprogress hgated.executing) chain.request process (some found.2) ?_).mono ?_ ?_
          fun _ _ => trivial))
      · intro w hw
        rw [← Option.some.inj hw]
        exact hfound.hexDigest.2
      · intro disposition final w h
        obtain ⟨⟨hshown, ⟨hrecovery, -⟩ | ⟨_, hsome, hadvanced⟩⟩, hunspawned⟩ := h
        · exact absurd hrecovery hrediscover
        · cases Option.some.inj hsome
          have hmore : Unspawned u w := hlooked.2.trans hunspawned
          refine Proc.holds_pure.mpr ⟨hgated.after hmore, ⟨outcome, ?_, hreceipt⟩,
            ⟨u, hmore.processes.symm, hfound.until hunspawned⟩, hadvanced, hshown, rfl⟩
          rw [hmore.processes]
          exact hprocesses
      · exact fun _ _ _ h => h.1.imp id
    · exact absurd hrecovery hrediscover

end Steps

section Sample

def growthActivation : ProductionMutationActivationIntent :=
  let intent : ProductionMutationActivationIntent :=
    { schemaVersion := 1
      activationId := ""
      profile := .existingSinglePvLvmFilesystem
      executionId := fingerprint (.str "execution")
      sourceManifestId := fingerprint (.str "source manifest")
      nativeManifestDigest := fingerprint (.str "native manifest")
      freshIdentityDigest := growthIdentity.manifestDigest
      target := "/dev/vg/data"
      resolvedDevice := "/dev/vg/data"
      lvStepId := 1
      filesystemStepId := 2
      filesystemType := "ext4"
      filesystemMountpoint := none
      compileFeatureEnabled := true
      executionEnabled := false }
  { intent with activationId := intent.expectedActivationId }

def growthConsent : ProductionMutationConsentReceipt :=
  consentReceipt growthActivation productionMutationConsentPath
    ⟨2049, 11, 0, 0o100600, 1, 300, fingerprint (.str "consent")⟩

def growthChain : ProductionDescriptorExecutionChain Nat :=
  let launch := PrivilegedExec.sampleLaunch .pvresize PrivilegedExec.sampleCommand.args
  { activation := growthActivation
    productionPermit := executionPermit growthActivation growthConsent
      (PrivilegedExec.samplePermit launch)
    request := growthRequest (.growFilesystem "ext4" none)
    launchPermit := PrivilegedExec.samplePermit launch
    launch
    pinned := PrivilegedExec.samplePinned
    command := PrivilegedExec.sampleCommand
    consentLease := ⟨growthConsent⟩ }

/-- A step meets a store that cannot be opened. -/
theorem growthStep_mayFail (session : LockedExecutionSession) (s : St (growth Nat))
    (hdurable : session.durable = true) :
    ∃ e t, Proc.Can (executeVerifyAndPersistProductionStep faithfulReader consentReader
      growthChain growthIdentity) session s (.error e) session t := by
  obtain ⟨t, hcan⟩ := requireCurrent_mayFail session
    ((Embedding.inside (Lib.Directory.interface storeEnv) (growthEnv Nat)).state s) hdurable
  obtain ⟨u, hu, -⟩ := Proc.Can.embed (Embedding.inside _ (growthEnv Nat)) (fun _ c => ⟨c, rfl⟩) hcan
  have hbefore : verifyBeforeIdentity growthChain growthIdentity = .ok () :=
    refuse_eq_ok_iff.mpr (by simp [growthChain, growthRequest, PrivilegedHelperRequest.sealed,
      growthIdentity])
  have hfirst : Proc.Can (orInterrupt faithfulReader ProductionVerifiedMutationStepError.session
      "production pre-spawn identity did not match the exact privileged request"
      (Proc.lift (verifyBeforeIdentity growthChain growthIdentity) : VerifiedProc Nat Unit))
      session s (.ok ()) session s :=
    (Proc.Can.attempt (Proc.Can.lift hbefore)).bind (.pure ())
  have hraw : Proc.Can (executeProductionDescriptorLaunchRaw faithfulReader consentReader
      growthChain) session s (.error (.session (.durableJournal (.io none (.other "I/O error")))))
      session u := hu.mapError.bind_error
  exact ⟨_, u, hfirst.bind hraw.bind_error.mapError.bind_error⟩

end Sample

end ProductionStep

end StorageManager.Executor
