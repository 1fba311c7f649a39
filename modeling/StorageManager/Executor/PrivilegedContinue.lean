import StorageManager.Executor.PrivilegedEffect
import StorageManager.Executor.PrivilegedWire
import StorageManager.Executor.SessionAgreement
import StorageManager.Executor.SessionLedger
import StorageManager.Planner.JournalStart

/-!
# The durable end of a privileged step

The receipts of the process and of the verification decide the only durable action that is
allowed after the step: the next step, completion or recovery. Each action is written into
the journal of the session in transitions that a crash may separate.
-/

namespace StorageManager.Executor

open JournalStore
open Lib.Checks
open Lib.Directory
open Lib.Effects
open Planner.ExecutionGuard
open Planner.ExecutionGuard.OperationJournal (Accepts continueBoundary)

set_option autoImplicit false

def PrivilegedLayerVerificationReceipt.integrityMatches [Fingerprint]
    (v : PrivilegedLayerVerificationReceipt) : Bool :=
  v.receiptId == v.expectedReceiptId

namespace PrivilegedContinue

section Model

inductive PrivilegedDurableDisposition where
  | continueWith (nextStepId : Nat)
  | complete
  | recoveryRequired
  deriving DecidableEq

inductive PrivilegedDurableTransitionError where
  | journalNotExecuting
  | executionBindingInvalid
  | protocol (source : PrivilegedHelperProtocolError)
  | processReceiptIntegrityMismatch
  | runtimeBindingMismatch
  | stepSequenceMismatch
  | identityChainMismatch
  | verificationReceiptMissing
  | verificationReceiptIntegrityMismatch
  | verificationBindingMismatch
  | durable (source : LockedSessionError)
  deriving DecidableEq

variable [Fingerprint]

def executionForJournal (journal : OperationJournal) :
    Except PrivilegedDurableTransitionError ExecutionStartBinding := do
  refuse (journal.phase ≠ .executing ∨ ¬journal.mutationMayHaveStarted) .journalNotExecuting
  let execution ← okOr journal.execution .executionBindingInvalid
  refuse (execution.schemaVersion ≠ 1 ∨ ¬execution.integrityMatches) .executionBindingInvalid
  pure execution

/-- The boundary stands before the step at this position, on this identity. -/
def boundaryAuthorizes (execution : ExecutionStartBinding)
    (boundary : VerifiedMutationBoundaryBinding) (planStepId : Nat) (identityDigest : String) :
    Bool :=
  boundary.schemaVersion == 1 && boundary.integrityMatches &&
    boundary.executionId == execution.executionId &&
    execution.mutationStepIds[execution.mutationStepIds.idxOf planStepId - 1]? ==
      some boundary.completedStepId &&
    boundary.nextStepId == planStepId && boundary.freshIdentityDigest == identityDigest &&
    boundary.finalStepId.isNone && boundary.finalIdentityDigest.isNone

/-- The journal stands before this step, on this identity: at the first step there is no
boundary yet. -/
def standsBefore (journal : OperationJournal) (execution : ExecutionStartBinding)
    (planStepId : Nat) (identityDigest : String) : Bool :=
  if execution.mutationStepIds.idxOf planStepId = 0 then
    journal.verifiedBoundary.isNone && identityDigest == execution.freshIdentityDigest
  else
    journal.verifiedBoundary.any (boundaryAuthorizes execution · planStepId identityDigest)

def validateIdentityChain (journal : OperationJournal) (planStepId : Nat)
    (requestIdentityDigest : String) : Except PrivilegedDurableTransitionError Nat := do
  let execution ← executionForJournal journal
  refuse (planStepId ∉ execution.mutationStepIds) .stepSequenceMismatch
  refuse (¬standsBefore journal execution planStepId requestIdentityDigest) .identityChainMismatch
  pure (execution.mutationStepIds.idxOf planStepId)

/-- The receipts of one execution of a request. -/
def runtimeBound (execution : ExecutionStartBinding) (request : PrivilegedHelperRequest)
    (process : PrivilegedProcessReceipt) : Bool :=
  process.executionId == execution.executionId && request.executionId == execution.executionId &&
    request.sourceManifestId == execution.sourceManifestId &&
    request.nativeManifestDigest == execution.nativeManifestDigest &&
    process.planStepId == request.planStepId && process.mutationMayHaveStarted

def verificationBound (execution : ExecutionStartBinding) (request : PrivilegedHelperRequest)
    (process : PrivilegedProcessReceipt) (verification : PrivilegedLayerVerificationReceipt) :
    Bool :=
  verification.expectedStateVerified && verification.executionId == execution.executionId &&
    verification.processReceiptId == process.receiptId &&
    verification.requestId == request.requestId &&
    verification.planStepId == request.planStepId &&
    verification.beforeIdentityDigest == request.freshIdentityDigest

def classifyPrivilegedDurableTransition (journal : OperationJournal)
    (request : PrivilegedHelperRequest) (process : PrivilegedProcessReceipt)
    (verification : Option PrivilegedLayerVerificationReceipt) :
    Except PrivilegedDurableTransitionError PrivilegedDurableDisposition := do
  (validatePrivilegedHelperRequest request).mapError .protocol
  let execution ← executionForJournal journal
  refuse (process.schemaVersion ≠ 1 ∨ ¬process.integrityMatches) .processReceiptIntegrityMismatch
  refuse (¬runtimeBound execution request process) .runtimeBindingMismatch
  let position ← validateIdentityChain journal request.planStepId request.freshIdentityDigest
  if process.disposition = .recoveryRequired then pure .recoveryRequired
  else
    let verification ← okOr verification .verificationReceiptMissing
    refuse (verification.schemaVersion ≠ 1 ∨ ¬verification.integrityMatches)
      .verificationReceiptIntegrityMismatch
    refuse (¬verificationBound execution request process verification)
      .verificationBindingMismatch
    match execution.mutationStepIds[position + 1]? with
    | some nextStepId => pure (.continueWith nextStepId)
    | none => pure .complete

variable (fromSlice : FromSlice)

abbrev TransitionProc := DirProc storeEnv LockedExecutionSession PrivilegedDurableTransitionError

/-- A method of the session, whose error is passed on. -/
def onSession {α : Type} (p : SessionProc LockedExecutionSession α) : TransitionProc α :=
  p.mapError .durable

/-- A rejected receipt is an interruption once the mutation may have started. -/
def interruptRejected : TransitionProc Unit := do
  let session ← Proc.get
  if session.journal.mutationMayHaveStarted ∧
      (session.journal.phase = .executing ∨ session.journal.phase = .verifying) then
    onSession (persistInterrupted fromSlice
      "privileged runtime or verification binding was rejected; reconciliation required")
  else pure ()

/-- The transitions of an accepted step. -/
def closeStep (request : PrivilegedHelperRequest)
    (verification : Option PrivilegedLayerVerificationReceipt) :
    PrivilegedDurableDisposition → TransitionProc Unit
  | .recoveryRequired =>
    onSession (persistInterrupted fromSlice
      "privileged storage process reported a recovery-required outcome")
  | .continueWith nextStepId => do
    let verification ← Proc.lift (okOr verification .verificationReceiptMissing)
    onSession (persistVerificationStarted fromSlice)
    onSession (persistVerificationPassedContinue fromSlice request.planStepId nextStepId
      verification.freshIdentityDigest)
  | .complete => do
    let verification ← Proc.lift (okOr verification .verificationReceiptMissing)
    let session ← Proc.get
    let execution ← Proc.lift (okOr session.journal.execution .executionBindingInvalid)
    onSession (persistVerificationStarted fromSlice)
    if execution.mutationStepIds.length = 1 then onSession (persistCompleted fromSlice)
    else
      onSession (persistVerifiedCompleted fromSlice request.planStepId
        verification.freshIdentityDigest)

def persistPrivilegedDurableTransition (request : PrivilegedHelperRequest)
    (process : PrivilegedProcessReceipt)
    (verification : Option PrivilegedLayerVerificationReceipt) :
    TransitionProc PrivilegedDurableDisposition := do
  onSession (requireCurrentDurableJournal fromSlice)
  let session ← Proc.get
  match classifyPrivilegedDurableTransition session.journal request process verification with
  | .error error => do
    interruptRejected fromSlice
    Proc.throw error
  | .ok disposition => do
    closeStep fromSlice request verification disposition
    pure disposition

end Model

section Transitions

/-- The journal was not asked, or its record could not be read or written. -/
def OfStore (e : LockedSessionError) : Prop := ∀ source, e ≠ .journal source

theorem onStore_refuses {μ α : Type} {m : μ} {s : St (interface storeEnv)} (p : StoreProc μ α) :
    (onStore p : SessionProc μ α).Holds m s (fun _ _ _ => True) (fun e _ _ => OfStore e)
      fun _ => True := by
  refine Proc.holds_mapError.mpr (Proc.Holds.mono (Proc.Holds.any trivial) ?_ ?_ fun _ h => h)
  · exact fun _ _ _ h => h
  · exact fun _ _ _ _ _ h => by cases h

theorem refuseRuntimeEvidence_refuses {μ : Type} {m : μ} {s : St (interface storeEnv)} :
    (refuseRuntimeEvidence : SessionProc μ Unit).Holds m s (fun _ _ _ => True)
      (fun e _ _ => OfStore e) fun _ => True := by
  unfold refuseRuntimeEvidence
  refine (onStore_refuses _).bind fun _ _ _ _ => (onStore_refuses _).bind fun paths _ _ _ => ?_
  cases paths with
  | nil => exact Proc.holds_pure.mpr trivial
  | cons path rest => exact Proc.holds_throw.mpr fun _ h => by cases h

variable [Fingerprint] {fromSlice : FromSlice} {session : LockedExecutionSession}
  {s : St (interface storeEnv)}

theorem requireCurrentDurableJournal_refuses :
    (requireCurrentDurableJournal fromSlice).Holds session s (fun _ _ _ => True)
      (fun e _ _ => OfStore e) fun _ => True := by
  unfold requireCurrentDurableJournal
  refine Proc.holds_bind.mpr (Proc.holds_get.mpr (Proc.holds_bind.mpr (Proc.holds_lift.mpr ⟨?_, ?_⟩)))
  · intro _ _
    refine (onStore_refuses _).bind fun journals _ _ _ => Proc.holds_bind.mpr
      (Proc.holds_lift.mpr ⟨fun _ _ => ?_, fun e he => ?_⟩)
    · refine Proc.holds_bind.mpr (Proc.holds_lift.mpr ⟨fun _ _ => refuseRuntimeEvidence_refuses,
        fun e he => ?_⟩)
      unfold refuseUnfinished at he
      split at he
      · cases he
        exact fun _ h => by cases h
      · cases he
    · rw [← (refuse_eq_error_iff.mp he).2]
      exact fun _ h => by cases h
  · intro e he
    rw [← (refuse_eq_error_iff.mp he).2]
    exact fun _ h => by cases h

/-- What a check of the durable record leaves behind. -/
theorem requireCurrentDurableJournal_checks :
    (requireCurrentDurableJournal fromSlice).Holds session s
      (fun _ after u => after = session ∧ u.world = s.world ∧ session.durable = true ∧
        Shown fromSlice s.world session.journal)
      (fun e after u => after = session ∧ u.world = s.world ∧ OfStore e) fun u => u.world = s.world := by
  have hlooks := @requireCurrentDurableJournal_looks _ fromSlice session s
  have hrefuses := @requireCurrentDurableJournal_refuses _ fromSlice session s
  cases hdurable : session.durable with
  | true =>
    have hfinds := @requireCurrentDurableJournal_finds _ fromSlice session s hdurable
    refine ((hlooks.and hrefuses).and hfinds).mono ?_ ?_ fun u h => h.1.1
    · rintro _ after u ⟨⟨⟨rfl, hworld, -⟩, -⟩, -, -, hshown⟩
      exact ⟨rfl, hworld, rfl, hshown⟩
    · rintro e after u ⟨⟨⟨rfl, hworld⟩, hstore⟩, -⟩
      exact ⟨rfl, hworld, hstore⟩
  | false =>
    refine (hlooks.and hrefuses).mono ?_ ?_ fun u h => h.1
    · rintro _ after u ⟨⟨-, -, h⟩, -⟩
      rw [hdurable] at h
      cases h
    · rintro e after u ⟨⟨rfl, hworld⟩, hstore⟩
      exact ⟨rfl, hworld, hstore⟩

/-- A transition is durable before the session believes in it. It fails because the journal
refuses it, or because the store does. -/
theorem persistTransition_moves (t : JournalTransition) :
    (persistTransition fromSlice t).Holds session s
      (fun _ after u => ∃ next, applyToCopy session.journal t = .ok next ∧
        after = { session with journal := next } ∧ session.durable = true ∧
        Shown fromSlice s.world session.journal ∧ Shown fromSlice u.world next)
      (fun e after _ => after = session ∧
        (OfStore e ∨ ∃ source, applyToCopy session.journal t = .error source))
      fun _ => True := by
  unfold persistTransition
  refine Proc.holds_bind.mpr (requireCurrentDurableJournal_checks.mono ?_ ?_ fun _ _ => trivial)
  · rintro _ m u ⟨rfl, hworld, hdurable, hshown⟩
    refine Proc.holds_bind.mpr (Proc.holds_get.mpr (Proc.holds_bind.mpr
      (Proc.holds_lift.mpr ⟨fun next hnext => ?_, fun e he => ?_⟩)))
    · have hcopy := mapError_eq_ok_iff.mp hnext
      have hrefuses : (onStore (persistIfMatches fromSlice m.journal next) >>= fun _ =>
          Proc.set { m with journal := next } : SessionProc LockedExecutionSession Unit).Holds m u
          (fun _ _ _ => True) (fun e _ _ => OfStore e) fun _ => True :=
        (onStore_refuses _).bind fun _ _ _ _ => Proc.holds_set.mpr trivial
      have hwrites := (persist_settles (s := u) fromSlice m { m with journal := next } rfl).and
        hrefuses
      refine hwrites.mono ?_ ?_ fun _ _ => trivial
      · rintro _ after v ⟨⟨rfl, -, hnow⟩, -⟩
        exact ⟨next, hcopy, rfl, hdurable, hshown, hnow⟩
      · rintro e after v ⟨⟨rfl, -⟩, hstore⟩
        exact ⟨rfl, .inl hstore⟩
    · refine ⟨rfl, .inr ?_⟩
      cases happly : applyToCopy m.journal t with
      | ok next => rw [happly] at he; cases he
      | error source => exact ⟨source, rfl⟩
  · rintro e after u ⟨rfl, -, hstore⟩
    exact ⟨rfl, .inl hstore⟩

/-- Two transitions, one after the other. The second may fail where the first has been
written. -/
theorem twice_moves (t₁ t₂ : JournalTransition) :
    Proc.Holds (do
        onSession (persistTransition fromSlice t₁)
        onSession (persistTransition fromSlice t₂)) session s
      (fun _ after u => ∃ j₁ j₂, applyToCopy session.journal t₁ = .ok j₁ ∧
        applyToCopy j₁ t₂ = .ok j₂ ∧ after = { session with journal := j₂ } ∧
        Shown fromSlice u.world j₂)
      (fun e after _ => ∃ source, e = .durable source ∧
        (after = session ∧ (OfStore source ∨ ∃ je, applyToCopy session.journal t₁ = .error je) ∨
          ∃ j₁, applyToCopy session.journal t₁ = .ok j₁ ∧ after = { session with journal := j₁ } ∧
            (OfStore source ∨ ∃ je, applyToCopy j₁ t₂ = .error je)))
      fun _ => True := by
  refine (Proc.holds_mapError.mpr ((persistTransition_moves t₁).mono (fun _ _ _ h => h)
    (fun source _ _ h => ⟨source, rfl, .inl h⟩) fun _ h => h)).bind fun _ after u h => ?_
  obtain ⟨j₁, hfirst, rfl, -, -, -⟩ := h
  refine Proc.holds_mapError.mpr ((persistTransition_moves t₂).mono ?_ ?_ fun _ h => h)
  · rintro _ last v ⟨j₂, hsecond, rfl, -, -, hshown⟩
    exact ⟨j₁, j₂, hfirst, hsecond, rfl, hshown⟩
  · rintro source last v ⟨rfl, hfails⟩
    exact ⟨source, rfl, .inr ⟨j₁, hfirst, rfl, hfails⟩⟩

/-- An interruption of a running mutation is never refused by the journal. -/
theorem applyToCopy_interrupted {j : OperationJournal} (reason : String)
    (h : j.phase = .executing ∨ j.phase = .verifying) :
    ∃ k, applyToCopy j (.interrupted reason) = .ok k ∧ k.phase = .recoveryRequired := by
  refine ⟨j.moved .recoveryRequired "interrupted-after-mutation-boundary" reason, ?_, rfl⟩
  unfold applyToCopy OperationJournal.apply
  rcases h with h | h <;> simp [h]

/-- An interruption is durable, unless the store fails. -/
theorem persistInterrupted_recovers (reason : String)
    (h : session.journal.phase = .executing ∨ session.journal.phase = .verifying) :
    (onSession (persistInterrupted fromSlice reason)).Holds session s
      (fun _ after u => after.journal.phase = .recoveryRequired ∧
        Shown fromSlice u.world after.journal)
      (fun e after _ => after = session ∧ ∃ source, e = .durable source ∧ OfStore source)
      fun _ => True := by
  refine Proc.holds_mapError.mpr ((persistTransition_moves _).mono ?_ ?_ fun _ h => h)
  · rintro _ after u ⟨next, hnext, rfl, -, -, hshown⟩
    obtain ⟨k, hk, hphase⟩ := applyToCopy_interrupted reason h
    cases hk.symm.trans hnext
    exact ⟨hphase, hshown⟩
  · rintro source after u ⟨rfl, hstore | ⟨je, hrefused⟩⟩
    · exact ⟨rfl, source, rfl, hstore⟩
    · obtain ⟨k, hk, -⟩ := applyToCopy_interrupted reason h
      cases hk.symm.trans hrefused

end Transitions

section Steps

theorem not_mem_take_idxOf {ids : List Nat} {k : Nat} (hmem : k ∈ ids) :
    k ∉ ids.take (ids.idxOf k) := by
  rw [List.mem_take_iff_idxOf_lt hmem]
  exact Nat.lt_irrefl _

theorem orderedPair_of_getElem? {ids : List Nat} {i a c : Nat} (ha : ids[i]? = some a)
    (hc : ids[i + 1]? = some c) : OperationJournal.orderedPair ids a c = true := by
  unfold OperationJournal.orderedPair
  rw [List.any_eq_true]
  refine ⟨(a, c), List.mem_of_getElem? (i := i) ?_, by simp⟩
  rw [List.getElem?_zip_eq_some, List.getElem?_tail]
  exact ⟨ha, hc⟩

theorem idxOf_le_of_getElem? {ids : List Nat} {n k : Nat} (h : ids[n]? = some k) :
    ids.idxOf k ≤ n := by
  obtain ⟨hn, hk⟩ := List.getElem?_eq_some_iff.mp h
  by_contra hlt
  have hne := List.not_of_lt_findIdx (Nat.lt_of_not_le hlt)
  rw [beq_eq_false_iff_ne] at hne
  exact hne hk

variable [Fingerprint] {b : ExecutionStartBinding} {j : OperationJournal} {n : Nat}
  {digest : String} {request : PrivilegedHelperRequest} {process : PrivilegedProcessReceipt}
  {verification : Option PrivilegedLayerVerificationReceipt}

/-- The receipts that close a step. -/
structure ClosedStep where
  request : PrivilegedHelperRequest
  process : PrivilegedProcessReceipt
  verification : PrivilegedLayerVerificationReceipt

/-- The process ended well, and its step was verified by a receipt that names it. -/
structure ClosedStep.Bound (b : ExecutionStartBinding) (c : ClosedStep) : Prop where
  valid : validatePrivilegedHelperRequest c.request = .ok ()
  processSealed : c.process.schemaVersion = 1 ∧ c.process.integrityMatches = true
  runtime : runtimeBound b c.request c.process = true
  ended : c.process.disposition = .rediscoveryRequired
  verificationSealed : c.verification.schemaVersion = 1 ∧ c.verification.integrityMatches = true
  verified : verificationBound b c.request c.process c.verification = true

/-- What is to do after the step at this position. -/
def nextDisposition (b : ExecutionStartBinding) (position : Nat) : PrivilegedDurableDisposition :=
  match b.mutationStepIds[position + 1]? with
  | some nextStepId => .continueWith nextStepId
  | none => .complete

theorem executionForJournal_eq_ok_iff : executionForJournal j = .ok b ↔
    (j.phase = .executing ∧ j.mutationMayHaveStarted = true) ∧ j.execution = some b ∧
      b.schemaVersion = 1 ∧ b.integrityMatches = true := by
  simp only [executionForJournal, bind_eq_ok_iff, exists_check_iff, refuse_eq_ok_iff,
    okOr_eq_ok_iff, not_or, not_not, pure, Except.pure, Except.ok.injEq]
  constructor
  · rintro ⟨hphase, e, hexecution, hsealed, rfl⟩
    exact ⟨hphase, hexecution, hsealed⟩
  · rintro ⟨hphase, hexecution, hsealed⟩
    exact ⟨hphase, b, hexecution, hsealed, rfl⟩

theorem validateIdentityChain_eq_ok_iff {planStepId position : Nat} :
    validateIdentityChain j planStepId digest = .ok position ↔
      ∃ b, executionForJournal j = .ok b ∧ planStepId ∈ b.mutationStepIds ∧
        standsBefore j b planStepId digest = true ∧
        b.mutationStepIds.idxOf planStepId = position := by
  simp only [validateIdentityChain, bind_eq_ok_iff, exists_check_iff, refuse_eq_ok_iff, not_not,
    pure, Except.pure, Except.ok.injEq]

/-- What the classification of the receipts rests on. -/
theorem classify_eq_ok {disposition : PrivilegedDurableDisposition}
    (h : classifyPrivilegedDurableTransition j request process verification = .ok disposition) :
    ∃ b, executionForJournal j = .ok b ∧ request.planStepId ∈ b.mutationStepIds ∧
      standsBefore j b request.planStepId request.freshIdentityDigest = true ∧
      request.planStepId ≠ 0 ∧
      (process.disposition = .recoveryRequired ∧ disposition = .recoveryRequired ∨
        ∃ v, verification = some v ∧ (ClosedStep.mk request process v).Bound b ∧
        disposition = nextDisposition b (b.mutationStepIds.idxOf request.planStepId)) := by
  unfold classifyPrivilegedDurableTransition at h
  obtain ⟨hvalid, h⟩ := check_eq_ok_iff.mp h
  obtain ⟨b, hexecution, h⟩ := bind_eq_ok_iff.mp h
  obtain ⟨hprocess, h⟩ := check_eq_ok_iff.mp h
  obtain ⟨hruntime, h⟩ := check_eq_ok_iff.mp h
  obtain ⟨position, hchain, h⟩ := bind_eq_ok_iff.mp h
  obtain ⟨b', hexecution', hmem, hstands, rfl⟩ := validateIdentityChain_eq_ok_iff.mp hchain
  have hsame : b' = b := Except.ok.inj (hexecution'.symm.trans hexecution)
  subst hsame
  have hrequest := mapError_eq_ok_iff.mp hvalid
  refine ⟨b', hexecution, hmem, hstands, (validate_eq_ok_iff.mp hrequest).planStepId, ?_⟩
  simp only [refuse_eq_ok_iff, not_or, not_not] at hprocess hruntime
  split at h
  · rename_i hrecovery
    exact .inl ⟨hrecovery, (Except.ok.inj h).symm⟩
  · rename_i hended
    obtain ⟨v, hv, h⟩ := bind_eq_ok_iff.mp h
    obtain ⟨hsealed, h⟩ := check_eq_ok_iff.mp h
    obtain ⟨hbound, h⟩ := check_eq_ok_iff.mp h
    simp only [refuse_eq_ok_iff, not_or, not_not] at hsealed hbound
    refine .inr ⟨v, okOr_eq_ok_iff.mp hv, ⟨hrequest, hprocess, hruntime, ?_, hsealed, hbound⟩, ?_⟩
    · cases hdisposition : process.disposition with
      | rediscoveryRequired => rfl
      | recoveryRequired => exact absurd hdisposition hended
    · unfold nextDisposition
      split at h <;> exact (Except.ok.inj h).symm

/-- The boundary that `n` verified steps leave, the last of them on this identity. -/
def boundaryAfter (b : ExecutionStartBinding) (n : Nat) (digest : String)
    (boundary : Option VerifiedMutationBoundaryBinding) : Prop :=
  match n with
  | 0 => boundary = none ∧ digest = b.freshIdentityDigest
  | n + 1 => ∃ completed next, b.mutationStepIds[n]? = some completed ∧
      b.mutationStepIds[n + 1]? = some next ∧
      boundary = some (continueBoundary b completed next digest)

/-- The journal executes the binding, and `n` of its steps are verified. -/
structure Progress (b : ExecutionStartBinding) (n : Nat) (digest : String)
    (j : OperationJournal) : Prop where
  phase : j.phase = .executing
  flag : j.mutationMayHaveStarted = true
  execution : j.execution = some b
  boundary : boundaryAfter b n digest j.verifiedBoundary
  distinct : (b.mutationStepIds.take n).Nodup

/-- A journal stands before one step only. -/
theorem Progress.position (h : Progress b n digest j) {planStepId : Nat} {d : String}
    (hmem : planStepId ∈ b.mutationStepIds) (hstands : standsBefore j b planStepId d = true) :
    b.mutationStepIds.idxOf planStepId = n ∧ d = digest := by
  have hboundary := h.boundary
  unfold standsBefore at hstands
  split at hstands
  case isTrue hfirst =>
    simp only [Bool.and_eq_true, Option.isNone_iff_eq_none, beq_iff_eq] at hstands
    cases n with
    | zero => exact ⟨hfirst, hstands.2.trans hboundary.2.symm⟩
    | succ n =>
      obtain ⟨completed, next, -, -, hsome⟩ := hboundary
      rw [hstands.1] at hsome
      cases hsome
  case isFalse hlater =>
    cases n with
    | zero =>
      rw [hboundary.1] at hstands
      cases hstands
    | succ n =>
      obtain ⟨completed, next, hcompleted, hnext, hsome⟩ := hboundary
      rw [hsome] at hstands
      simp only [Option.any_some, boundaryAuthorizes, continueBoundary, Bool.and_eq_true,
        beq_iff_eq] at hstands
      obtain ⟨⟨⟨⟨⟨-, hbefore⟩, rfl⟩, rfl⟩, -⟩, -⟩ := hstands
      refine ⟨?_, rfl⟩
      by_contra hother
      have hle := idxOf_le_of_getElem? hnext
      have hsame : (b.mutationStepIds.take (n + 1))[b.mutationStepIds.idxOf next - 1]? =
          (b.mutationStepIds.take (n + 1))[n]? := by
        rw [List.getElem?_take_of_lt (by omega), List.getElem?_take_of_lt (by omega), hbefore,
          hcompleted]
      have hlen : b.mutationStepIds.idxOf next - 1 < (b.mutationStepIds.take (n + 1)).length := by
        have hn := (List.getElem?_eq_some_iff.mp hcompleted).1
        rw [List.length_take]
        omega
      have := (List.getElem?_inj hlen h.distinct).mp hsame
      omega

/-- The steps so far are distinct, and so is the one after them. -/
theorem Progress.distinct_succ (h : Progress b n digest j) {planStepId : Nat}
    (hmem : planStepId ∈ b.mutationStepIds) (hposition : b.mutationStepIds.idxOf planStepId = n) :
    (b.mutationStepIds.take (n + 1)).Nodup := by
  subst hposition
  have hlt := List.idxOf_lt_length_of_mem hmem
  rw [List.take_succ_eq_append_getElem hlt, List.getElem_idxOf hlt]
  refine h.distinct.append (List.nodup_singleton _) ?_
  rw [List.disjoint_singleton]
  exact not_mem_take_idxOf hmem

/-- A step that is verified and not the last one. -/
theorem Progress.continued (h : Progress b n digest j) {planStepId next : Nat} {fresh : String}
    {verifying k : OperationJournal} (hmem : planStepId ∈ b.mutationStepIds)
    (hposition : b.mutationStepIds.idxOf planStepId = n)
    (hnext : b.mutationStepIds[n + 1]? = some next)
    (hstarted : applyToCopy j .verificationStarted = .ok verifying)
    (hpassed : applyToCopy verifying (.verificationPassedContinue planStepId next fresh) = .ok k) :
    Progress b (n + 1) fresh k := by
  have hcompleted : b.mutationStepIds[n]? = some planStepId := by
    rw [← hposition]
    exact List.getElem?_idxOf hmem
  cases applyToCopy_accepts hstarted with
  | verificationStarted hphase =>
    cases applyToCopy_accepts hpassed with
    | verificationPassedContinue _ hexecution =>
      cases Option.some.inj (h.execution.symm.trans hexecution)
      exact ⟨rfl, h.flag, h.execution, ⟨planStepId, next, hcompleted, hnext, rfl⟩,
        h.distinct_succ hmem hposition⟩

/-- The identity the next step has to start from. -/
def lastIdentity (b : ExecutionStartBinding) (closed : List ClosedStep) : String :=
  (closed.getLast?.map (·.verification.freshIdentityDigest)).getD b.freshIdentityDigest

/-- The verified steps, each on the identity that the one before it verified. -/
inductive Closes (b : ExecutionStartBinding) : List ClosedStep → Prop
  | start : Closes b []
  | step {closed : List ClosedStep} {c : ClosedStep} (before : Closes b closed) (bound : c.Bound b)
      (step : b.mutationStepIds[closed.length]? = some c.request.planStepId)
      (once : c.request.planStepId ∉ b.mutationStepIds.take closed.length)
      (identity : c.request.freshIdentityDigest = lastIdentity b closed) :
      Closes b (closed ++ [c])

theorem Closes.steps {closed : List ClosedStep} (h : Closes b closed) :
    closed.map (·.request.planStepId) = b.mutationStepIds.take closed.length ∧
      (closed.map (·.request.planStepId)).Nodup := by
  induction h with
  | start => exact ⟨rfl, List.nodup_nil⟩
  | @step closed c before bound step once identity ih =>
    obtain ⟨hlt, hstep⟩ := List.getElem?_eq_some_iff.mp step
    constructor
    · rw [List.length_append, List.length_singleton, List.take_succ_eq_append_getElem hlt, hstep,
        List.map_append, ih.1]
      rfl
    · rw [List.map_append]
      refine ih.2.append (List.nodup_singleton _) ?_
      rw [List.map_singleton, List.disjoint_singleton, ih.1]
      exact once

/-- Where a journal may stand after `n` verified steps. It is left in `verifying` when the
second of the two transitions of a step failed. -/
inductive Standing (b : ExecutionStartBinding) (n : Nat) (digest : String)
    (j : OperationJournal) : Prop
  | executing (progress : Progress b n digest j)
  | verifying (phase : j.phase = .verifying) (flag : j.mutationMayHaveStarted = true)
  | completed (phase : j.phase = .completed) (all : n = b.mutationStepIds.length)
  | recovery (phase : j.phase = .recoveryRequired)

/-- A call that closed the next step. -/
structure Advanced (b : ExecutionStartBinding) (n : Nat) (digest : String)
    (request : PrivilegedHelperRequest) (process : PrivilegedProcessReceipt)
    (v : PrivilegedLayerVerificationReceipt) (disposition : PrivilegedDurableDisposition)
    (k : OperationJournal) : Prop where
  bound : (ClosedStep.mk request process v).Bound b
  step : b.mutationStepIds[n]? = some request.planStepId
  once : request.planStepId ∉ b.mutationStepIds.take n
  identity : request.freshIdentityDigest = digest
  decided : disposition = nextDisposition b n
  phase : k.phase = if disposition = .complete then .completed else .executing
  standing : Standing b (n + 1) v.freshIdentityDigest k

/-- The receipts cannot be refused by the journal: its steps are distinct step numbers, and the
digest of the fresh identity is a digest. -/
structure Recordable (b : ExecutionStartBinding)
    (verification : Option PrivilegedLayerVerificationReceipt) : Prop where
  numbered : 0 ∉ b.mutationStepIds
  distinct : b.mutationStepIds.Nodup
  digest : ∀ v, verification = some v → isSha256Hex v.freshIdentityDigest = true

end Steps

section Calls

variable [Fingerprint] {fromSlice : FromSlice} {session : LockedExecutionSession}
  {s : St (interface storeEnv)} {b : ExecutionStartBinding} {n : Nat} {digest : String}
  {request : PrivilegedHelperRequest} {process : PrivilegedProcessReceipt}
  {verification : Option PrivilegedLayerVerificationReceipt}

/-- How a call that failed left the session: the store failed, or the journal is durably in
recovery, or it was not running. -/
def FailedClosed (fromSlice : FromSlice) (e : PrivilegedDurableTransitionError)
    (session after : LockedExecutionSession) (d : Dir) : Prop :=
  (∃ source, e = .durable source ∧ OfStore source) ∨
    (after.journal.phase = .recoveryRequired ∧ Shown fromSlice d after.journal) ∨
    (after = session ∧ session.journal.phase ≠ .executing ∧ session.journal.phase ≠ .verifying)

theorem Standing.flag {j : OperationJournal} (h : Standing b n digest j)
    (hphase : j.phase = .executing ∨ j.phase = .verifying) : j.mutationMayHaveStarted = true := by
  cases h with
  | executing progress => exact progress.flag
  | verifying _ flag => exact flag
  | completed phase => rcases hphase with h | h <;> cases h.symm.trans phase
  | recovery phase => rcases hphase with h | h <;> cases h.symm.trans phase

theorem interruptRejected_holds (hstanding : Standing b n digest session.journal) :
    (interruptRejected fromSlice).Holds session s
      (fun _ after u => Standing b n digest after.journal ∧
        (after.journal.phase = .recoveryRequired ∧ Shown fromSlice u.world after.journal ∨
          after = session ∧ session.journal.phase ≠ .executing ∧
            session.journal.phase ≠ .verifying))
      (fun e after _ => Standing b n digest after.journal ∧
        ∃ source, e = .durable source ∧ OfStore source)
      fun _ => True := by
  unfold interruptRejected
  refine Proc.holds_bind.mpr (Proc.holds_get.mpr ?_)
  split
  · rename_i hrunning
    refine (persistInterrupted_recovers _ hrunning.2).mono ?_ ?_ fun _ h => h
    · exact fun _ after u h => ⟨.recovery h.1, .inl h⟩
    · rintro e after u ⟨rfl, hstore⟩
      exact ⟨hstanding, hstore⟩
  · rename_i hidle
    refine Proc.holds_pure.mpr ⟨hstanding, .inr ⟨rfl, ?_, ?_⟩⟩
    · exact fun h => hidle ⟨hstanding.flag (.inl h), .inl h⟩
    · exact fun h => hidle ⟨hstanding.flag (.inr h), .inr h⟩

theorem applyToCopy_of_apply {j : OperationJournal} {t : JournalTransition}
    (h : (j.apply t).1 = .ok ()) : ∃ k, applyToCopy j t = .ok k := by
  refine ⟨(j.apply t).2, ?_⟩
  rw [applyToCopy, ← Prod.eta (j.apply t), h]

/-- The first transition of a step leaves it to be verified. -/
theorem Progress.verifying {j k : OperationJournal} (h : Progress b n digest j)
    (hk : applyToCopy j .verificationStarted = .ok k) :
    k.phase = .verifying ∧ k.mutationMayHaveStarted = true ∧ k.execution = some b ∧
      k.verifiedBoundary = j.verifiedBoundary := by
  cases applyToCopy_accepts hk with
  | verificationStarted => exact ⟨rfl, h.flag, h.execution, rfl⟩

/-- A continuation is refused by the journal only for its numbers or its digest. -/
theorem applyToCopy_passedContinue {j : OperationJournal} {planStepId next : Nat} {fresh : String}
    (hphase : j.phase = .verifying) (hexecution : j.execution = some b)
    (hstep : b.mutationStepIds[n]? = some planStepId)
    (hnext : b.mutationStepIds[n + 1]? = some next) (hnumbered : 0 ∉ b.mutationStepIds)
    (hdistinct : b.mutationStepIds.Nodup) (hfresh : isSha256Hex fresh = true) :
    ∃ k, applyToCopy j (.verificationPassedContinue planStepId next fresh) = .ok k := by
  have hzero : ∀ {i k : Nat}, b.mutationStepIds[i]? = some k → k ≠ 0 := by
    rintro i k hk rfl
    exact hnumbered (List.mem_of_getElem? hk)
  have hne : planStepId ≠ next := by
    rintro rfl
    have hlt := (List.getElem?_eq_some_iff.mp hstep).1
    have := (List.getElem?_inj hlt hdistinct).mp (hstep.trans hnext.symm)
    omega
  exact applyToCopy_of_apply (apply_verificationPassedContinue hphase hexecution
    (hzero hstep) (hzero hnext) hne (orderedPair_of_getElem? hstep hnext) hfresh)

/-- The completion of several steps is refused only for its digest. -/
theorem applyToCopy_passedComplete {j : OperationJournal} {planStepId : Nat} {fresh : String}
    (hphase : j.phase = .verifying) (hexecution : j.execution = some b)
    (hboundary : boundaryAfter b n digest j.verifiedBoundary)
    (hstep : b.mutationStepIds[n]? = some planStepId)
    (hlast : b.mutationStepIds.length = n + 1) (hmany : b.mutationStepIds.length ≠ 1)
    (hfresh : isSha256Hex fresh = true) :
    ∃ k, applyToCopy j (.verificationPassedComplete planStepId fresh) = .ok k := by
  cases n with
  | zero => exact absurd hlast hmany
  | succ n =>
    obtain ⟨completed, next, -, hnext, hsome⟩ := hboundary
    cases hnext.symm.trans hstep
    have hgetLast : b.mutationStepIds.getLast? = some planStepId := by
      rw [List.getLast?_eq_getElem?, hlast]
      exact hstep
    exact applyToCopy_of_apply (apply_verificationPassedComplete hphase hexecution hsome (by omega)
      hgetLast hfresh rfl rfl (continueBoundary_integrity b completed planStepId digest))

theorem applyToCopy_completed {j : OperationJournal} (hphase : j.phase = .verifying)
    (hexecution : j.execution = some b) (hone : b.mutationStepIds.length = 1) :
    ∃ k, applyToCopy j .completed = .ok k := by
  refine applyToCopy_of_apply ?_
  unfold OperationJournal.apply OperationJournal.applyCompleted
  simp [hphase, hexecution, hone, OperationJournal.advance]

/-- The transitions of an accepted step. -/
theorem closeStep_holds (h : Progress b n digest session.journal)
    {v : PrivilegedLayerVerificationReceipt} (hbound : (ClosedStep.mk request process v).Bound b)
    (hmem : request.planStepId ∈ b.mutationStepIds)
    (hposition : b.mutationStepIds.idxOf request.planStepId = n)
    (hidentity : request.freshIdentityDigest = digest) :
    (closeStep fromSlice request (some v) (nextDisposition b n)).Holds session s
      (fun _ after u => Advanced b n digest request process v (nextDisposition b n) after.journal ∧
        Shown fromSlice u.world after.journal)
      (fun e after _ => Standing b n digest after.journal ∧ ∃ source, e = .durable source ∧
        (OfStore source ∨ after.journal.phase = .verifying ∧ ¬Recordable b (some v)))
      fun _ => True := by
  have hstep : b.mutationStepIds[n]? = some request.planStepId := by
    rw [← hposition]
    exact List.getElem?_idxOf hmem
  have hlt := (List.getElem?_eq_some_iff.mp hstep).1
  have honce : request.planStepId ∉ b.mutationStepIds.take n := by
    rw [← hposition]
    exact not_mem_take_idxOf hmem
  have hfails : ∀ {t : JournalTransition} {e : PrivilegedDurableTransitionError}
      {after : LockedExecutionSession},
      (∀ j₁, applyToCopy session.journal .verificationStarted = .ok j₁ →
        Recordable b (some v) → ∃ k, applyToCopy j₁ t = .ok k) →
      (∃ source, e = .durable source ∧
        (after = session ∧ (OfStore source ∨
            ∃ je, applyToCopy session.journal .verificationStarted = .error je) ∨
          ∃ j₁, applyToCopy session.journal .verificationStarted = .ok j₁ ∧
            after = { session with journal := j₁ } ∧
            (OfStore source ∨ ∃ je, applyToCopy j₁ t = .error je))) →
      Standing b n digest after.journal ∧ ∃ source, e = .durable source ∧
        (OfStore source ∨ after.journal.phase = .verifying ∧ ¬Recordable b (some v)) := by
    rintro t e after haccepts ⟨source, rfl, ⟨rfl, hfirst⟩ | ⟨j₁, hj₁, rfl, hsecond⟩⟩
    · refine ⟨.executing h, source, rfl, .inl ?_⟩
      rcases hfirst with hstore | ⟨je, hrefused⟩
      · exact hstore
      · obtain ⟨k, hk⟩ := applyToCopy_of_apply (apply_verificationStarted h.phase)
        cases hk.symm.trans hrefused
    · obtain ⟨hphase, hflag, -, -⟩ := h.verifying hj₁
      refine ⟨.verifying hphase hflag, source, rfl, ?_⟩
      rcases hsecond with hstore | ⟨je, hrefused⟩
      · exact .inl hstore
      · refine .inr ⟨hphase, fun hrecordable => ?_⟩
        obtain ⟨k, hk⟩ := haccepts j₁ hj₁ hrecordable
        cases hk.symm.trans hrefused
  unfold nextDisposition
  cases hnext : b.mutationStepIds[n + 1]? with
  | some next =>
    refine Proc.holds_bind.mpr ((twice_moves _ _).mono ?_ (fun e after _ => ?_) fun _ h => h)
    · rintro _ after u ⟨j₁, j₂, hj₁, hj₂, rfl, hshown⟩
      have hprogress := h.continued hmem hposition hnext hj₁ hj₂
      refine ⟨⟨hbound, hstep, honce, hidentity, ?_, hprogress.phase, .executing hprogress⟩, hshown⟩
      rw [nextDisposition, hnext]
    · refine hfails fun j₁ hj₁ hrecordable => ?_
      obtain ⟨hphase, -, hexecution, -⟩ := h.verifying hj₁
      exact applyToCopy_passedContinue hphase hexecution hstep hnext hrecordable.numbered
        hrecordable.distinct (hrecordable.digest v rfl)
  | none =>
    have hlast : b.mutationStepIds.length = n + 1 := by
      rw [List.getElem?_eq_none_iff] at hnext
      omega
    have hcloses : ∀ {k : OperationJournal} {d : Dir}, k.phase = .completed →
        Shown fromSlice d k →
        Advanced b n digest request process v .complete k ∧ Shown fromSlice d k := by
      intro k d hphase hshown
      refine ⟨⟨hbound, hstep, honce, hidentity, ?_, hphase, .completed hphase hlast.symm⟩, hshown⟩
      rw [nextDisposition, hnext]
    refine Proc.holds_bind.mpr (Proc.holds_lift.mpr ⟨fun v' hv' => ?_, fun _ he => by cases he⟩)
    cases okOr_eq_ok_iff.mp hv'
    refine Proc.holds_bind.mpr (Proc.holds_get.mpr (Proc.holds_bind.mpr (Proc.holds_lift.mpr
      ⟨fun execution hexecution => ?_, fun e he => ?_⟩)))
    · rw [okOr_eq_ok_iff, h.execution, Option.some.injEq] at hexecution
      subst hexecution
      by_cases hone : b.mutationStepIds.length = 1
      · simp only [if_pos hone]
        refine (twice_moves .verificationStarted .completed).mono ?_ (fun e after _ => ?_)
          fun _ h => h
        · rintro _ after u ⟨j₁, j₂, hj₁, hj₂, rfl, hshown⟩
          refine hcloses ?_ hshown
          cases applyToCopy_accepts hj₂
          rfl
        · refine hfails fun j₁ hj₁ _ => ?_
          obtain ⟨hphase, -, hexecution, -⟩ := h.verifying hj₁
          exact applyToCopy_completed hphase hexecution hone
      · simp only [if_neg hone]
        refine (twice_moves .verificationStarted
          (.verificationPassedComplete request.planStepId v.freshIdentityDigest)).mono ?_
          (fun e after _ => ?_) fun _ h => h
        · rintro _ after u ⟨j₁, j₂, hj₁, hj₂, rfl, hshown⟩
          refine hcloses ?_ hshown
          cases applyToCopy_accepts hj₂
          rfl
        · refine hfails fun j₁ hj₁ hrecordable => ?_
          obtain ⟨hphase, -, hexecution, hboundary⟩ := h.verifying hj₁
          exact applyToCopy_passedComplete hphase hexecution (hboundary ▸ h.boundary) hstep hlast
            hone (hrecordable.digest v rfl)
    · rw [h.execution] at he
      cases he

/-- One call: it closes the next step, it records recovery, or it fails and leaves no step
closed. -/
theorem persistPrivilegedDurableTransition_holds
    (hstanding : Standing b n digest session.journal) :
    (persistPrivilegedDurableTransition fromSlice request process verification).Holds session s
      (fun disposition after u => Shown fromSlice u.world after.journal ∧
        (process.disposition = .recoveryRequired ∧ disposition = .recoveryRequired ∧
            after.journal.phase = .recoveryRequired ∨
          ∃ v, verification = some v ∧
            Advanced b n digest request process v disposition after.journal))
      (fun e after u => Standing b n digest after.journal ∧
        (FailedClosed fromSlice e session after u.world ∨
          after.journal.phase = .verifying ∧ ¬Recordable b verification))
      fun _ => True := by
  unfold persistPrivilegedDurableTransition
  refine Proc.holds_bind.mpr (Proc.holds_mapError.mpr
    (requireCurrentDurableJournal_checks.mono ?_ ?_ fun _ _ => trivial))
  · rintro _ m u ⟨rfl, hworld, -, -⟩
    refine Proc.holds_bind.mpr (Proc.holds_get.mpr ?_)
    cases hclassify : classifyPrivilegedDurableTransition m.journal request process verification with
    | error e =>
      refine (interruptRejected_holds hstanding).mono ?_ ?_ (fun _ h => h) |> Proc.holds_bind.mpr
      · exact fun _ after t h => ⟨h.1, .inl (.inr h.2)⟩
      · exact fun e after t h => ⟨h.1, .inl (.inl h.2)⟩
    | ok disposition =>
      obtain ⟨b', hexecution, hmem, hstands, -, hdecided⟩ := classify_eq_ok hclassify
      obtain ⟨⟨hphase, -⟩, hbinding, -⟩ := executionForJournal_eq_ok_iff.mp hexecution
      have hprogress : Progress b n digest m.journal := by
        cases hstanding with
        | executing progress => exact progress
        | verifying phase => cases hphase.symm.trans phase
        | completed phase => cases hphase.symm.trans phase
        | recovery phase => cases hphase.symm.trans phase
      cases Option.some.inj (hprogress.execution.symm.trans hbinding)
      obtain ⟨hposition, hidentity⟩ := hprogress.position hmem hstands
      rcases hdecided with ⟨hprocess, rfl⟩ | ⟨v, rfl, hbound, rfl⟩
      · refine Proc.holds_bind.mpr ((persistInterrupted_recovers _ (.inl hphase)).mono ?_ ?_
          fun _ h => h)
        · exact fun _ after t h => Proc.holds_pure.mpr ⟨h.2, .inl ⟨hprocess, rfl, h.1⟩⟩
        · rintro e after t ⟨rfl, hstore⟩
          exact ⟨hstanding, .inl (.inl hstore)⟩
      · rw [hposition]
        refine Proc.holds_bind.mpr ((closeStep_holds hprogress hbound hmem hposition
          hidentity).mono ?_ ?_ fun _ h => h)
        · exact fun _ after t h => Proc.holds_pure.mpr ⟨h.2, .inr ⟨v, rfl, h.1⟩⟩
        · rintro e after t ⟨hafter, source, rfl, hstore | hverifying⟩
          · exact ⟨hafter, .inl (.inl ⟨source, rfl, hstore⟩)⟩
          · exact ⟨hafter, .inr hverifying⟩
  · rintro source after u ⟨rfl, -, hstore⟩
    exact ⟨hstanding, .inl (.inl ⟨source, rfl, hstore⟩)⟩

end Calls

section Runs

variable {b : ExecutionStartBinding} {n : Nat}

/-- A call and what it returned. -/
structure TransitionCall where
  request : PrivilegedHelperRequest
  process : PrivilegedProcessReceipt
  verification : Option PrivilegedLayerVerificationReceipt
  result : Except PrivilegedDurableTransitionError PrivilegedDurableDisposition

/-- The step that a call closed. -/
def TransitionCall.closed (c : TransitionCall) : Option ClosedStep :=
  match c.result with
  | .ok (.continueWith _) | .ok .complete => c.verification.map (⟨c.request, c.process, ·⟩)
  | .ok .recoveryRequired | .error _ => none

def closedBy (calls : List TransitionCall) : List ClosedStep := calls.filterMap (·.closed)

theorem nextDisposition_ne_recovery : nextDisposition b n ≠ .recoveryRequired := by
  unfold nextDisposition
  split <;> exact fun h => by cases h

theorem lastIdentity_append (closed : List ClosedStep) (c : ClosedStep) :
    lastIdentity b (closed ++ [c]) = c.verification.freshIdentityDigest := by
  rw [lastIdentity, List.getLast?_append]
  rfl

theorem closedBy_append (calls : List TransitionCall) (c : TransitionCall) :
    closedBy (calls ++ [c]) = closedBy calls ++ c.closed.toList := by
  rw [closedBy, List.filterMap_append]
  cases h : c.closed <;> simp [closedBy, List.filterMap, h]

variable [Fingerprint] {fromSlice : FromSlice} {session after : LockedExecutionSession}
  {digest : String}

/-- A session on which these calls were made. Between them the store may change as it likes. -/
inductive Driven (fromSlice : FromSlice) (session : LockedExecutionSession) :
    List TransitionCall → LockedExecutionSession → Prop
  | start : Driven fromSlice session [] session
  | call {calls : List TransitionCall} {middle after : LockedExecutionSession}
      (before : Driven fromSlice session calls middle) (c : TransitionCall)
      {s u : St (interface storeEnv)}
      (now : Proc.Can (persistPrivilegedDurableTransition fromSlice c.request c.process
        c.verification) middle s c.result after u) : Driven fromSlice session (calls ++ [c]) after

/-- What one more call adds. -/
theorem Driven.step {calls : List TransitionCall} {middle : LockedExecutionSession}
    {c : TransitionCall} {s u : St (interface storeEnv)} (hcloses : Closes b (closedBy calls))
    (hstanding : Standing b (closedBy calls).length (lastIdentity b (closedBy calls)) middle.journal)
    (hcan : Proc.Can (persistPrivilegedDurableTransition fromSlice c.request c.process
      c.verification) middle s c.result after u) :
    Closes b (closedBy (calls ++ [c])) ∧ Standing b (closedBy (calls ++ [c])).length
      (lastIdentity b (closedBy (calls ++ [c]))) after.journal := by
  have hholds := @persistPrivilegedDurableTransition_holds _ fromSlice middle s b _ _ c.request
    c.process c.verification hstanding
  rw [closedBy_append]
  obtain ⟨request, process, verification, result⟩ := c
  cases result with
  | error e =>
    have hnone : (TransitionCall.mk request process verification (.error e)).closed = none := rfl
    rw [hnone, Option.toList_none, List.append_nil]
    exact ⟨hcloses, (hcan.holds_error hholds).1⟩
  | ok disposition =>
    obtain ⟨-, ⟨-, rfl, hphase⟩ | ⟨v, rfl, hadvanced⟩⟩ := hcan.holds_ok hholds
    · have hnone : (TransitionCall.mk request process verification
          (.ok .recoveryRequired)).closed = none := rfl
      rw [hnone, Option.toList_none, List.append_nil]
      exact ⟨hcloses, .recovery hphase⟩
    · have hsome : (TransitionCall.mk request process (some v) (.ok disposition)).closed =
          some ⟨request, process, v⟩ := by
        cases disposition with
        | recoveryRequired => exact absurd hadvanced.decided.symm nextDisposition_ne_recovery
        | continueWith next => rfl
        | complete => rfl
      rw [hsome, Option.toList_some, lastIdentity_append, List.length_append]
      exact ⟨.step hcloses hadvanced.bound hadvanced.step hadvanced.once hadvanced.identity,
        hadvanced.standing⟩

theorem Progress.of_started {approved j : OperationJournal}
    (h : applyToCopy approved (.executionStarted b) = .ok j)
    (hfresh : approved.verifiedBoundary = none) : Progress b 0 b.freshIdentityDigest j := by
  cases applyToCopy_accepts h with
  | executionStarted => exact ⟨rfl, rfl, rfl, ⟨hfresh, rfl⟩, List.nodup_nil⟩

/-- The digest that a request is built for is the one its step stands on. -/
theorem standsBefore_of_expected {j : OperationJournal} {planStepId : Nat} {expected : String}
    (h : expectedIdentityDigest j b (b.mutationStepIds.idxOf planStepId) planStepId =
      .ok expected) : standsBefore j b planStepId expected = true := by
  unfold expectedIdentityDigest at h
  unfold standsBefore
  split at h
  · rename_i hfirst
    rw [if_pos hfirst]
    cases hboundary : j.verifiedBoundary with
    | none =>
      rw [hboundary] at h
      cases h
      simp
    | some boundary =>
      rw [hboundary] at h
      cases h
  · rename_i hlater
    rw [if_neg hlater]
    cases hboundary : j.verifiedBoundary with
    | none =>
      rw [hboundary] at h
      cases h
    | some boundary =>
      simp only [hboundary] at h
      split at h
      · cases h
      · rename_i hsound
        cases h
        simp only [not_or, not_not, Option.not_isSome_iff_eq_none] at hsound
        obtain ⟨hschema, hintegrity, hexecution, hcompleted, hnext, hfinal, hdigest⟩ := hsound
        simp [boundaryAuthorizes, hschema, hintegrity, hexecution, ← hcompleted, hnext, hfinal,
          hdigest]

/-- A request that can be built is for the next step, on the identity that was verified last. -/
theorem Standing.request {j : OperationJournal} (h : Standing b n digest j)
    {validated : ValidatedNativeManifest} {identity : Planner.TargetIdentityManifest}
    {planStepId : Nat} {request : PrivilegedHelperRequest}
    (hbuilt : buildPrivilegedHelperRequestForDurableStep validated j identity planStepId =
      .ok request) :
    j.phase = .executing ∧ b.mutationStepIds[n]? = some planStepId ∧
      request.planStepId = planStepId ∧ request.freshIdentityDigest = digest := by
  unfold buildPrivilegedHelperRequestForDurableStep at hbuilt
  split at hbuilt
  · cases hbuilt
  rename_i hrunning
  simp only [not_or, not_not] at hrunning
  have hprogress : Progress b n digest j := by
    cases h with
    | executing progress => exact progress
    | verifying phase => cases hrunning.1.symm.trans phase
    | completed phase => cases hrunning.1.symm.trans phase
    | recovery phase => cases hrunning.1.symm.trans phase
  rw [hprogress.execution] at hbuilt
  simp only [bind_eq_ok_iff, exists_check_iff, refuse_eq_ok_iff, not_not] at hbuilt
  obtain ⟨-, -, hmem, expected, hexpected, husable, step, hstep, -, hrequest⟩ := hbuilt
  have hnumber := (authorizedStep_eq_ok hstep).2.1
  have hidentity := (identityUsable_iff.mp husable).1
  cases hrequest
  obtain ⟨hposition, hdigest⟩ := hprogress.position hmem (standsBefore_of_expected hexpected)
  refine ⟨hrunning.1, ?_, hnumber, hidentity.trans hdigest⟩
  rw [← hposition]
  exact List.getElem?_idxOf hmem

end Runs

section Sample

def growthApproved : OperationJournal :=
  { OperationJournal.new sampleGuard with
    phase := .approved
    approval := some ⟨1, sampleDigest, sampleDigest, sampleDigest, sampleDigest, sampleDigest,
      sampleDigest⟩ }

/-- A store that cannot be opened shows no record. -/
theorem requireCurrent_mayFail (session : LockedExecutionSession) (s : St (interface storeEnv))
    (hdurable : session.durable = true) :
    ∃ t, Proc.Can (requireCurrentDurableJournal faithfulReader) session s
      (.error (.durableJournal (.io none (.other "I/O error")))) session t := by
  have hperform : (DirOp.check .openDirectory).perform (some (.other "I/O error")) s.world =
      (.error (.other "I/O error"), s.world) := rfl
  have hopen : MayYield s.world (check .openDirectory : StoreProc LockedExecutionSession _)
      ((Except.error (Fault.other "I/O error") : Except Fault Unit).mapError (storeFault none))
      s.world := MayYield.onDir (some (.other "I/O error")) hperform
  have hall : MayYield s.world (all faithfulReader : StoreProc LockedExecutionSession _)
      (.error (.io none (.other "I/O error"))) s.world := by
    unfold all
    exact hopen.bind_error
  have hstore : refuse (¬session.durable) LockedSessionError.durableJournalRequired = .ok () :=
    refuse_eq_ok_iff.mpr (not_not.mpr hdurable)
  obtain ⟨t, -, hcan⟩ := hall.mapError LockedSessionError.durableJournal session s rfl
  exact ⟨t, Proc.Can.get.bind ((Proc.Can.lift hstore).bind hcan.bind_error)⟩

/-- An approved journal starts. -/
theorem growth_started : ∃ b j, b.mutationStepIds = [1] ∧
    applyToCopy growthApproved (.executionStarted b) = .ok j := by
  obtain ⟨b, hb⟩ := buildExecutionStartBinding_of (j := growthApproved) sampleDigest sampleDigest
    [1] rfl rfl rfl rfl rfl sampleDigest_isSha256Hex sampleDigest_isSha256Hex (by decide)
    (by decide) (by decide)
  obtain ⟨j, hj⟩ := applyToCopy_of_apply (apply_executionStarted hb)
  obtain ⟨-, -, -, -, -, -, -, -, -, -, -, -, hids, -⟩ := buildExecutionStartBinding_ok hb
  exact ⟨b, j, hids, hj⟩

/-- An approved journal starts, and then its store cannot be opened. -/
theorem growth_driven : ∃ b session e, growthApproved.verifiedBoundary = none ∧
    applyToCopy growthApproved (.executionStarted b) = .ok session.journal ∧
    Driven faithfulReader session [⟨growthRequest (.growFilesystem "ext4" none),
      growthProcess (.growFilesystem "ext4" none), none, .error e⟩] session := by
  obtain ⟨b, j, -, hj⟩ := growth_started
  obtain ⟨t, hcurrent⟩ := requireCurrent_mayFail { heldSession with journal := j } ⟨∅, []⟩ rfl
  have hcall : Proc.Can (onSession (requireCurrentDurableJournal faithfulReader))
      { heldSession with journal := j } ⟨∅, []⟩
      (.error (.durable (.durableJournal (.io none (.other "I/O error")))))
      { heldSession with journal := j } t := hcurrent.mapError
  exact ⟨b, { heldSession with journal := j }, _, rfl, hj, .call .start _ hcall.bind_error⟩

end Sample

end PrivilegedContinue

end StorageManager.Executor
