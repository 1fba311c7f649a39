import StorageManager.Planner.ExecutionGuard

/-!
# What one journal call can do

`Accepts` lists the accepted calls with their guards and results. Every later
argument about runs starts from `apply_cases`: a call either is one of these or
returns an error and leaves the journal as it was.
-/

namespace StorageManager.Planner.ExecutionGuard

open Lib.Json (toJson)

set_option autoImplicit false

namespace OperationJournal

@[simp] theorem moved_schemaVersion (j : OperationJournal) (p : JournalPhase) (c d : String) :
    (j.moved p c d).schemaVersion = j.schemaVersion := rfl
@[simp] theorem moved_journalId (j : OperationJournal) (p : JournalPhase) (c d : String) :
    (j.moved p c d).journalId = j.journalId := rfl
@[simp] theorem moved_planId (j : OperationJournal) (p : JournalPhase) (c d : String) :
    (j.moved p c d).planId = j.planId := rfl
@[simp] theorem moved_target (j : OperationJournal) (p : JournalPhase) (c d : String) :
    (j.moved p c d).target = j.target := rfl
@[simp] theorem moved_baseline (j : OperationJournal) (p : JournalPhase) (c d : String) :
    (j.moved p c d).baselineManifestDigest = j.baselineManifestDigest := rfl
@[simp] theorem moved_phase (j : OperationJournal) (p : JournalPhase) (c d : String) :
    (j.moved p c d).phase = p := rfl
@[simp] theorem moved_flag (j : OperationJournal) (p : JournalPhase) (c d : String) :
    (j.moved p c d).mutationMayHaveStarted = j.mutationMayHaveStarted := rfl
@[simp] theorem moved_approval (j : OperationJournal) (p : JournalPhase) (c d : String) :
    (j.moved p c d).approval = j.approval := rfl
@[simp] theorem moved_execution (j : OperationJournal) (p : JournalPhase) (c d : String) :
    (j.moved p c d).execution = j.execution := rfl
@[simp] theorem moved_verifiedBoundary (j : OperationJournal) (p : JournalPhase) (c d : String) :
    (j.moved p c d).verifiedBoundary = j.verifiedBoundary := rfl
@[simp] theorem moved_events (j : OperationJournal) (p : JournalPhase) (c d : String) :
    (j.moved p c d).events = j.events ++ [⟨j.events.length + 1, j.phase, p, c, d⟩] := rfl

/-- No call is accepted in these phases. -/
def Terminal (p : JournalPhase) : Prop :=
  p = .completed ∨ p = .aborted ∨ p = .recoveryRequired

instance (p : JournalPhase) : Decidable (Terminal p) :=
  inferInstanceAs (Decidable (_ ∨ _ ∨ _))

/-- An `advance` from the phase already checked is accepted. -/
theorem advance_of_phase {j : OperationJournal} {expected next : JournalPhase}
    {code detail : String} (h : j.phase = expected) :
    j.advance expected next code detail = (.ok (), j.moved next code detail) := by
  rw [advance, if_neg (not_not.mpr h)]

variable [Fingerprint]

/-- The accepted calls: guard, transition, and the journal left behind. The
`detail` texts are the fixed ones of the source except for an interruption or an
abort, where they are the caller's reason. -/
inductive Accepts (j : OperationJournal) : JournalTransition → OperationJournal → Prop
  | hostLockAcquired {detail : String} (phase : j.phase = .planned) :
      Accepts j .hostLockAcquired (j.moved .hostLockHeld "host-lock-acquired" detail)
  | identityRevalidated {fresh detail : String} (phase : j.phase = .hostLockHeld)
      (same : fresh = j.baselineManifestDigest) :
      Accepts j (.identityRevalidated fresh)
        (j.moved .identityRevalidated "identity-revalidated" detail)
  | preconditionsVerified {detail : String} (phase : j.phase = .identityRevalidated) :
      Accepts j .preconditionsVerified
        (j.moved .preconditionsVerified "preconditions-verified" detail)
  | exactPlanApproved {planId detail : String} {a : ExactApprovalBinding}
      (phase : j.phase = .preconditionsVerified) (plan : planId = j.planId)
      (schema : a.schemaVersion = 1) (approvedPlan : a.planId = j.planId)
      (target : a.targetManifestDigest = j.baselineManifestDigest)
      (integrity : a.integrityMatches = true)
      (bound : a.preconditionsJournalDigest = fingerprint (toJson j)) :
      Accepts j (.exactPlanApproved planId a)
        { j.moved .approved "exact-plan-approved" detail with approval := some a }
  | executionStarted {a : ExactApprovalBinding} {b : ExecutionStartBinding} {detail : String}
      (phase : j.phase = .approved) (approval : j.approval = some a)
      (schema : b.schemaVersion = 1) (journal : b.journalId = j.journalId)
      (plan : b.planId = j.planId) (approved : b.approvalId = a.approvalId)
      (identity : b.freshIdentityDigest = j.baselineManifestDigest)
      (integrity : b.integrityMatches = true)
      (bound : b.approvedJournalDigest = fingerprint (toJson j)) :
      Accepts j (.executionStarted b)
        { j.moved .executing "execution-started" detail with
          mutationMayHaveStarted := true, execution := some b }
  | verificationStarted {detail : String} (phase : j.phase = .executing) :
      Accepts j .verificationStarted (j.moved .verifying "verification-started" detail)
  | verificationPassedContinue {b : ExecutionStartBinding} {completed next : Nat}
      {fresh detail : String} (phase : j.phase = .verifying) (execution : j.execution = some b)
      (completed_ne : completed ≠ 0) (next_ne : next ≠ 0) (ne : completed ≠ next)
      (pair : orderedPair b.mutationStepIds completed next = true)
      (digest : isSha256Hex fresh = true) :
      Accepts j (.verificationPassedContinue completed next fresh)
        { j.moved .executing "verification-passed-continue" detail with
          verifiedBoundary := some (continueBoundary b completed next fresh) }
  | verificationPassedComplete {b : ExecutionStartBinding} {v : VerifiedMutationBoundaryBinding}
      {completed : Nat} {fresh detail : String} (phase : j.phase = .verifying)
      (execution : j.execution = some b) (boundary : j.verifiedBoundary = some v)
      (steps : 2 ≤ b.mutationStepIds.length)
      (last : b.mutationStepIds.getLast? = some completed)
      (digest : isSha256Hex fresh = true) (same : v.executionId = b.executionId)
      (next : v.nextStepId = completed) (integrity : v.integrityMatches = true) :
      Accepts j (.verificationPassedComplete completed fresh)
        { j.moved .completed "verification-passed-complete" detail with
          verifiedBoundary := some (finalBoundary v completed fresh) }
  | completed {b : ExecutionStartBinding} {detail : String} (phase : j.phase = .verifying)
      (execution : j.execution = some b) (steps : b.mutationStepIds.length ≤ 1) :
      Accepts j .completed (j.moved .completed "completed" detail)
  | interruptedAfterStart {reason : String} (live : ¬Terminal j.phase)
      (started : j.mutationMayHaveStarted = true ∨ j.phase = .executing ∨ j.phase = .verifying) :
      Accepts j (.interrupted reason)
        (j.moved .recoveryRequired "interrupted-after-mutation-boundary" reason)
  | interruptedBeforeStart {reason : String} (live : ¬Terminal j.phase)
      (flag : j.mutationMayHaveStarted = false) (executing : j.phase ≠ .executing)
      (verifying : j.phase ≠ .verifying) :
      Accepts j (.interrupted reason) (j.moved .aborted "interrupted-before-mutation" reason)
  | abortAfterStart {reason : String} (live : ¬Terminal j.phase)
      (flag : j.mutationMayHaveStarted = true) :
      Accepts j (.abort reason)
        (j.moved .recoveryRequired "abort-after-mutation-boundary" reason)
  | abortBeforeStart {reason : String} (live : ¬Terminal j.phase)
      (flag : j.mutationMayHaveStarted = false) :
      Accepts j (.abort reason) (j.moved .aborted "aborted" reason)

/-- The two outcomes of a call. -/
def Outcome (j : OperationJournal) (t : JournalTransition)
    (r : Except JournalError Unit × OperationJournal) : Prop :=
  (r.1 = .ok () ∧ Accepts j t r.2) ∨ ((∃ e, r.1 = .error e) ∧ r.2 = j)

theorem Outcome.error (j : OperationJournal) (t : JournalTransition) (e : JournalError) :
    Outcome j t (.error e, j) := .inr ⟨⟨e, rfl⟩, rfl⟩

/-- A call that is nothing but an `advance`. -/
theorem outcome_advance {j : OperationJournal} {t : JournalTransition}
    {expected next : JournalPhase} {code detail : String}
    (h : j.phase = expected → Accepts j t (j.moved next code detail)) :
    Outcome j t (j.advance expected next code detail) := by
  by_cases hp : j.phase = expected
  · rw [advance_of_phase hp]
    exact .inl ⟨rfl, h hp⟩
  · rw [advance, if_pos hp]
    exact .error _ _ _

private theorem exactPlanApproved_outcome (j : OperationJournal) (planId : String)
    (a : ExactApprovalBinding) :
    Outcome j (.exactPlanApproved planId a) (j.applyExactPlanApproved planId a) := by
  unfold applyExactPlanApproved
  by_cases phase : j.phase = .preconditionsVerified
  · rw [if_neg (not_not.mpr phase)]
    split_ifs with h1 h2 h3 h4 h5 h6 <;> try exact .error _ _ _
    rw [advance_of_phase phase]
    simp only [Decidable.not_not] at h1 h2 h3 h4 h5 h6
    exact .inl ⟨rfl, .exactPlanApproved phase h1 h2 h3 h4 h5 h6.symm⟩
  · rw [if_pos phase]
    exact .error _ _ _

private theorem executionStarted_outcome (j : OperationJournal) (b : ExecutionStartBinding) :
    Outcome j (.executionStarted b) (j.applyExecutionStarted b) := by
  unfold applyExecutionStarted
  by_cases phase : j.phase = .approved
  · rw [if_neg (not_not.mpr phase)]
    cases approval : j.approval with
    | none => exact .error _ _ _
    | some a =>
      dsimp only
      split_ifs with h1 h2 h3 h4 h5 h6 h7 <;> try exact .error _ _ _
      rw [advance_of_phase phase]
      simp only [Decidable.not_not] at h1 h2 h3 h4 h5 h6 h7
      exact .inl ⟨rfl, .executionStarted phase approval h1 h2 h3 h4 h5 h6 h7.symm⟩
  · rw [if_pos phase]
    exact .error _ _ _

private theorem verificationPassedContinue_outcome (j : OperationJournal) (completed next : Nat)
    (fresh : String) :
    Outcome j (.verificationPassedContinue completed next fresh)
      (j.applyVerificationPassedContinue completed next fresh) := by
  unfold applyVerificationPassedContinue
  by_cases phase : j.phase = .verifying
  · rw [if_neg (not_not.mpr phase)]
    cases execution : j.execution with
    | none => exact .error _ _ _
    | some b =>
      dsimp only
      split_ifs with h1 h2 <;> try exact .error _ _ _
      simp only [not_or, Decidable.not_not] at h1 h2
      obtain ⟨completed_ne, next_ne, ne, pair⟩ := h1
      rw [← execution]
      exact .inl ⟨rfl, .verificationPassedContinue phase execution completed_ne next_ne ne pair h2⟩
  · rw [if_pos phase]
    exact .error _ _ _

private theorem verificationPassedComplete_outcome (j : OperationJournal) (completed : Nat)
    (fresh : String) :
    Outcome j (.verificationPassedComplete completed fresh)
      (j.applyVerificationPassedComplete completed fresh) := by
  unfold applyVerificationPassedComplete
  by_cases phase : j.phase = .verifying
  · rw [if_neg (not_not.mpr phase)]
    cases execution : j.execution with
    | none => exact .error _ _ _
    | some b =>
      dsimp only
      split_ifs with h1 h2 <;> try exact .error _ _ _
      cases boundary : j.verifiedBoundary with
      | none => exact .error _ _ _
      | some v =>
        dsimp only
        split_ifs with h3
        · exact .error _ _ _
        -- The overwritten boundary is only seen here because `advance` cannot fail any more.
        simp only [not_or, Decidable.not_not, not_lt] at h1 h2 h3
        obtain ⟨steps, last⟩ := h1
        obtain ⟨same, next, integrity⟩ := h3
        rw [advance_of_phase (by exact phase), ← execution]
        exact .inl ⟨rfl, .verificationPassedComplete phase execution boundary steps last h2 same
          next integrity⟩
  · rw [if_pos phase]
    exact .error _ _ _

private theorem completed_outcome (j : OperationJournal) :
    Outcome j .completed j.applyCompleted := by
  unfold applyCompleted
  by_cases phase : j.phase = .verifying
  · rw [if_neg (not_not.mpr phase)]
    cases execution : j.execution with
    | none => exact .error _ _ _
    | some b =>
      dsimp only
      split_ifs with h1
      · exact .error _ _ _
      · rw [advance_of_phase phase]
        exact .inl ⟨rfl, .completed phase execution (not_lt.mp h1)⟩
  · rw [if_pos phase]
    exact .error _ _ _

/-- Every call is accepted in one of the listed ways, or it fails and the journal
is exactly what it was. -/
theorem apply_cases (j : OperationJournal) (t : JournalTransition) : Outcome j t (j.apply t) := by
  unfold apply
  by_cases live : j.phase = .completed ∨ j.phase = .aborted ∨ j.phase = .recoveryRequired
  · rw [if_pos live]
    exact .error _ _ _
  rw [if_neg live]
  cases t with
  | hostLockAcquired => exact outcome_advance .hostLockAcquired
  | identityRevalidated fresh =>
    dsimp only
    split_ifs with h1 h2 <;> try exact .error _ _ _
    exact outcome_advance fun phase => .identityRevalidated phase (not_not.mp h2)
  | preconditionsVerified => exact outcome_advance .preconditionsVerified
  | exactPlanApproved planId a => exact exactPlanApproved_outcome j planId a
  | executionStarted b => exact executionStarted_outcome j b
  | verificationStarted => exact outcome_advance .verificationStarted
  | verificationPassedContinue completed next fresh =>
    exact verificationPassedContinue_outcome j completed next fresh
  | verificationPassedComplete completed fresh =>
    exact verificationPassedComplete_outcome j completed fresh
  | completed => exact completed_outcome j
  | interrupted reason =>
    dsimp only
    split_ifs with h1
    · simp only [Bool.or_eq_true, beq_iff_eq, or_assoc] at h1
      exact .inl ⟨rfl, .interruptedAfterStart live h1⟩
    · simp only [Bool.or_eq_true, beq_iff_eq, not_or, Bool.not_eq_true] at h1
      exact .inl ⟨rfl, .interruptedBeforeStart live h1.1.1 h1.1.2 h1.2⟩
  | abort reason =>
    dsimp only
    split_ifs with h1
    · exact .inl ⟨rfl, .abortAfterStart live h1⟩
    · exact .inl ⟨rfl, .abortBeforeStart live (Bool.not_eq_true _ ▸ h1)⟩

theorem apply_error {j j' : OperationJournal} {t : JournalTransition} {e : JournalError}
    (h : j.apply t = (.error e, j')) : j' = j := by
  rcases apply_cases j t with ⟨ok, -⟩ | ⟨-, same⟩
  · rw [h] at ok
    cases ok
  · rw [h] at same
    exact same

theorem apply_ok {j j' : OperationJournal} {t : JournalTransition}
    (h : j.apply t = (.ok (), j')) : Accepts j t j' := by
  rcases apply_cases j t with ⟨-, accepts⟩ | ⟨⟨e, err⟩, -⟩
  · rw [h] at accepts
    exact accepts
  · rw [h] at err
    cases err

theorem Accepts.verificationStarted_eq {j j' : OperationJournal}
    (h : Accepts j .verificationStarted j') :
    ∃ detail, j' = j.moved .verifying "verification-started" detail := by
  cases h
  exact ⟨_, rfl⟩

end OperationJournal

end StorageManager.Planner.ExecutionGuard
