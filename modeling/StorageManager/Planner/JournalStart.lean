import StorageManager.Planner.JournalRuns

/-!
# Driving a journal to execution and on

Which calls are accepted: the gates, the approval and the start bound to the
journal they meet, and the verification calls of a started journal.
-/

namespace StorageManager.Planner.ExecutionGuard

open Lib.Json (toJson)
open OperationJournal

set_option autoImplicit false

variable [Fingerprint]

/-- A run goes on with a call its journal accepts. -/
theorem run_accept {guard : ExecutionGuardPlan} {calls : List JournalTransition} {s : History}
    {t : JournalTransition} (hs : run guard calls = s) (h : (s.journal.apply t).1 = .ok ()) :
    ∃ s', run guard (calls ++ [t]) = s' ∧ Accepts s.journal t s'.journal ∧
      s'.accepted = s.accepted ++ [⟨s.journal, t⟩] := by
  rcases eq : s.journal.apply t with ⟨r, j'⟩
  rw [eq] at h
  obtain rfl : r = .ok () := h
  refine ⟨⟨s.accepted ++ [⟨s.journal, t⟩], j'⟩, ?_, apply_ok eq, rfl⟩
  rw [run_append_singleton, hs]
  simp only [History.call, eq]

theorem apply_hostLockAcquired {j : OperationJournal} (phase : j.phase = .planned) :
    (j.apply .hostLockAcquired).1 = .ok () := by
  simp only [apply, phase, reduceCtorEq, or_self, if_false]
  rw [advance_of_phase phase]

theorem apply_identityRevalidated {j : OperationJournal} (phase : j.phase = .hostLockHeld) :
    (j.apply (.identityRevalidated j.baselineManifestDigest)).1 = .ok () := by
  simp only [apply, phase, reduceCtorEq, or_self, if_false, ne_eq, not_true_eq_false]
  rw [advance_of_phase phase]

theorem apply_preconditionsVerified {j : OperationJournal}
    (phase : j.phase = .identityRevalidated) :
    (j.apply .preconditionsVerified).1 = .ok () := by
  simp only [apply, phase, reduceCtorEq, or_self, if_false]
  rw [advance_of_phase phase]

/-- The exact approval of a journal that passed its gates. -/
def approvalFor (j : OperationJournal) (evidenceBundleId lockedSessionId : String) :
    ExactApprovalBinding :=
  let approval : ExactApprovalBinding :=
    { schemaVersion := 1
      approvalId := ""
      planId := j.planId
      evidenceBundleId
      targetManifestDigest := j.baselineManifestDigest
      lockedSessionId
      preconditionsJournalDigest := fingerprint (toJson j) }
  { approval with approvalId := approval.expectedApprovalId }

theorem approvalFor_integrity (j : OperationJournal) (evidence session : String) :
    (approvalFor j evidence session).integrityMatches = true := by
  simp [approvalFor, ExactApprovalBinding.integrityMatches,
    ExactApprovalBinding.expectedApprovalId]

theorem apply_approvalFor {j : OperationJournal} (evidence session : String)
    (phase : j.phase = .preconditionsVerified) :
    (j.apply (.exactPlanApproved j.planId (approvalFor j evidence session))).1 = .ok () := by
  have integrity := approvalFor_integrity j evidence session
  have schema : (approvalFor j evidence session).schemaVersion = 1 := rfl
  have plan : (approvalFor j evidence session).planId = j.planId := rfl
  have target : (approvalFor j evidence session).targetManifestDigest =
    j.baselineManifestDigest := rfl
  have bound : (approvalFor j evidence session).preconditionsJournalDigest =
    fingerprint (toJson j) := rfl
  simp only [apply, phase, reduceCtorEq, or_self, if_false, applyExactPlanApproved, ne_eq,
    not_true_eq_false, integrity, schema, plan, target, bound]
  rw [advance_of_phase phase]

/-- What the builder returns: the frozen steps are nonempty, nonzero and distinct,
and everything else is read off the approved journal. -/
theorem buildExecutionStartBinding_ok {j : OperationJournal} {source native fresh : String}
    {ids : List Nat} {b : ExecutionStartBinding}
    (h : buildExecutionStartBinding j source native fresh ids = .ok b) :
    j.phase = .approved ∧ j.execution = none ∧ j.verifiedBoundary = none ∧
      (∃ a, j.approval = some a ∧ b.approvalId = a.approvalId) ∧
      isSha256Hex source = true ∧ isSha256Hex native = true ∧ b.schemaVersion = 1 ∧
      b.journalId = j.journalId ∧ b.planId = j.planId ∧ b.sourceManifestId = source ∧
      b.nativeManifestDigest = native ∧ b.freshIdentityDigest = j.baselineManifestDigest ∧
      b.mutationStepIds = ids ∧ ids ≠ [] ∧ 0 ∉ ids ∧ ids.Nodup ∧
      b.approvedJournalDigest = fingerprint (toJson j) ∧ b.integrityMatches = true := by
  unfold buildExecutionStartBinding at h
  cases approval : j.approval with
  | none =>
    simp only [approval] at h
    split_ifs at h
  | some a =>
    simp only [approval] at h
    split_ifs at h with h1 h2 h3 h4 h5 h6
    obtain rfl := Except.ok.inj h
    simp only [Bool.or_eq_true, not_or, Bool.not_eq_true, Option.isSome_eq_false_iff,
      Option.isNone_iff_eq_none, Decidable.not_not, ne_eq] at h1 h2 h3 h4 h5 h6
    refine ⟨h1, h2.1.2, h2.2, ⟨a, rfl, rfl⟩, h3, h4, rfl, rfl, rfl, rfl, rfl, h5, rfl, h6.1,
      h6.2.1, h6.2.2, rfl, ?_⟩
    simp [ExecutionStartBinding.integrityMatches, ExecutionStartBinding.expectedExecutionId]

theorem buildExecutionStartBinding_of {j : OperationJournal} {a : ExactApprovalBinding}
    (source native : String) (ids : List Nat) (phase : j.phase = .approved)
    (flag : j.mutationMayHaveStarted = false) (execution : j.execution = none)
    (boundary : j.verifiedBoundary = none) (approval : j.approval = some a)
    (hsource : isSha256Hex source = true) (hnative : isSha256Hex native = true)
    (nonempty : ids ≠ []) (nonzero : 0 ∉ ids) (nodup : ids.Nodup) :
    ∃ b, buildExecutionStartBinding j source native j.baselineManifestDigest ids = .ok b := by
  simp only [buildExecutionStartBinding, phase, flag, execution, boundary, approval, hsource,
    hnative, nonempty, nonzero, nodup, ne_eq, not_true_eq_false, if_false, Option.isSome_none,
    Bool.or_self, Bool.false_eq_true, or_self]
  exact ⟨_, rfl⟩

/-- The start with a binding built from this very journal is accepted. -/
theorem apply_executionStarted {j : OperationJournal} {source native fresh : String}
    {ids : List Nat} {b : ExecutionStartBinding}
    (h : buildExecutionStartBinding j source native fresh ids = .ok b) :
    (j.apply (.executionStarted b)).1 = .ok () := by
  obtain ⟨phase, -, boundary, ⟨a, approval, approved⟩, -, -, schema, journal, plan, -, -, identity,
    -, -, -, -, bound, integrity⟩ := buildExecutionStartBinding_ok h
  simp only [apply, phase, reduceCtorEq, or_self, if_false, applyExecutionStarted, approval,
    schema, journal, plan, approved, identity, integrity, bound, ne_eq, not_true_eq_false]
  rw [advance_of_phase phase]

theorem apply_verificationStarted {j : OperationJournal} (phase : j.phase = .executing) :
    (j.apply .verificationStarted).1 = .ok () := by
  simp only [apply, phase, reduceCtorEq, or_self, if_false]
  rw [advance_of_phase phase]

theorem apply_verificationPassedContinue {j : OperationJournal} {b : ExecutionStartBinding}
    {completed next : Nat} {fresh : String} (phase : j.phase = .verifying)
    (execution : j.execution = some b) (completed_ne : completed ≠ 0) (next_ne : next ≠ 0)
    (ne : completed ≠ next) (pair : orderedPair b.mutationStepIds completed next = true)
    (digest : isSha256Hex fresh = true) :
    (j.apply (.verificationPassedContinue completed next fresh)).1 = .ok () := by
  simp only [apply, phase, reduceCtorEq, or_self, if_false, applyVerificationPassedContinue,
    execution, completed_ne, next_ne, ne, pair, digest, ne_eq, not_true_eq_false]

theorem continueBoundary_integrity (b : ExecutionStartBinding) (completed next : Nat)
    (fresh : String) : (continueBoundary b completed next fresh).integrityMatches = true := by
  simp [continueBoundary, VerifiedMutationBoundaryBinding.integrityMatches,
    VerifiedMutationBoundaryBinding.expectedBoundaryId]

theorem finalBoundary_integrity (v : VerifiedMutationBoundaryBinding) (completed : Nat)
    (fresh : String) : (finalBoundary v completed fresh).integrityMatches = true := by
  simp [finalBoundary, VerifiedMutationBoundaryBinding.integrityMatches,
    VerifiedMutationBoundaryBinding.expectedBoundaryId]

theorem apply_verificationPassedComplete {j : OperationJournal} {b : ExecutionStartBinding}
    {v : VerifiedMutationBoundaryBinding} {completed : Nat} {fresh : String}
    (phase : j.phase = .verifying) (execution : j.execution = some b)
    (boundary : j.verifiedBoundary = some v) (steps : 2 ≤ b.mutationStepIds.length)
    (last : b.mutationStepIds.getLast? = some completed) (digest : isSha256Hex fresh = true)
    (same : v.executionId = b.executionId) (next : v.nextStepId = completed)
    (integrity : v.integrityMatches = true) :
    (j.apply (.verificationPassedComplete completed fresh)).1 = .ok () := by
  have short : ¬b.mutationStepIds.length < 2 := by omega
  simp only [apply, phase, reduceCtorEq, or_self, if_false, applyVerificationPassedComplete,
    execution, boundary, short, last, digest, same, next, integrity, ne_eq, not_true_eq_false]
  rw [advance_of_phase rfl]

section Start

variable (guard : ExecutionGuardPlan) (evidence session source native : String) (ids : List Nat)

def gateCalls : List JournalTransition :=
  [.hostLockAcquired, .identityRevalidated guard.baselineManifestDigest, .preconditionsVerified]

def approvalCalls : List JournalTransition :=
  gateCalls guard ++ [.exactPlanApproved guard.planId
    (approvalFor (run guard (gateCalls guard)).journal evidence session)]

/-- The calls that take a new journal to execution of the given steps. -/
def startCalls : List JournalTransition :=
  approvalCalls guard evidence session ++
    match buildExecutionStartBinding (run guard (approvalCalls guard evidence session)).journal
      source native guard.baselineManifestDigest ids with
    | .ok binding => [.executionStarted binding]
    | .error _ => []

theorem run_gateCalls :
    ∃ s, run guard (gateCalls guard) = s ∧ s.journal.phase = .preconditionsVerified ∧
      s.journal.planId = guard.planId ∧
      s.journal.baselineManifestDigest = guard.baselineManifestDigest ∧
      s.journal.mutationMayHaveStarted = false ∧ s.journal.execution = none ∧
      s.journal.verifiedBoundary = none ∧
      s.accepted.map AcceptedCall.transition = gateCalls guard := by
  obtain ⟨⟨c1, _⟩, h1, locked, calls1⟩ := run_accept (run_nil guard) (apply_hostLockAcquired rfl)
  cases locked
  obtain ⟨⟨c2, _⟩, h2, revalidated, calls2⟩ := run_accept h1 (apply_identityRevalidated rfl)
  cases revalidated
  obtain ⟨⟨c3, _⟩, h3, verified, calls3⟩ := run_accept h2 (apply_preconditionsVerified rfl)
  cases verified
  refine ⟨_, h3, rfl, rfl, rfl, rfl, rfl, rfl, ?_⟩
  simp_all [gateCalls, new]

theorem run_approvalCalls :
    ∃ s, run guard (approvalCalls guard evidence session) = s ∧ s.journal.phase = .approved ∧
      s.journal.baselineManifestDigest = guard.baselineManifestDigest ∧
      s.journal.mutationMayHaveStarted = false ∧ s.journal.execution = none ∧
      s.journal.verifiedBoundary = none ∧ (∃ a, s.journal.approval = some a) ∧
      s.accepted.map AcceptedCall.transition = approvalCalls guard evidence session := by
  obtain ⟨s, hs, phase, plan, baseline, flag, execution, boundary, calls⟩ := run_gateCalls guard
  obtain ⟨⟨c, j'⟩, hs', accepts, hc⟩ := run_accept hs (apply_approvalFor evidence session phase)
  rw [approvalCalls, hs, ← plan]
  refine ⟨_, hs', ?_⟩
  cases accepts with
  | exactPlanApproved =>
    refine ⟨rfl, baseline, flag, execution, boundary, ⟨_, rfl⟩, ?_⟩
    simp only at hc
    rw [hc, List.map_append, calls]
    rfl

/-- Valid steps can be brought to execution, with nothing verified yet. -/
theorem run_startCalls (hsource : isSha256Hex source = true) (hnative : isSha256Hex native = true)
    (nonempty : ids ≠ []) (nonzero : 0 ∉ ids) (nodup : ids.Nodup) :
    ∃ s b, run guard (startCalls guard evidence session source native ids) = s ∧
      s.journal.phase = .executing ∧ s.journal.mutationMayHaveStarted = true ∧
      s.journal.execution = some b ∧ b.mutationStepIds = ids ∧
      s.journal.verifiedBoundary = none ∧
      ∃ s₀, run guard (approvalCalls guard evidence session) = s₀ ∧
        buildExecutionStartBinding s₀.journal source native guard.baselineManifestDigest ids =
          .ok b ∧
        s.accepted = s₀.accepted ++ [⟨s₀.journal, .executionStarted b⟩] := by
  obtain ⟨s, hs, phase, baseline, flag, execution, boundary, ⟨a, approval⟩, -⟩ :=
    run_approvalCalls guard evidence session
  obtain ⟨b, built⟩ := buildExecutionStartBinding_of source native ids phase flag
    execution boundary approval hsource hnative nonempty nonzero nodup
  obtain ⟨⟨c, j'⟩, hs', accepts, hc⟩ := run_accept hs (apply_executionStarted built)
  have steps : b.mutationStepIds = ids := by
    obtain ⟨-, -, -, -, -, -, -, -, -, -, -, -, steps, -⟩ := buildExecutionStartBinding_ok built
    exact steps
  rw [baseline] at built
  rw [startCalls, hs, built]
  refine ⟨_, b, hs', ?_⟩
  cases accepts with
  | executionStarted =>
    exact ⟨rfl, rfl, rfl, steps, boundary, s, rfl, built, hc⟩

end Start

section Verification

variable {guard : ExecutionGuardPlan} {calls : List JournalTransition} {s : History}
  {b : ExecutionStartBinding} {completed next : Nat} {fresh : String}

/-- One verified step that is not the last: verification starts and passes. -/
theorem run_continue (hs : run guard calls = s) (phase : s.journal.phase = .executing)
    (execution : s.journal.execution = some b) (completed_ne : completed ≠ 0) (next_ne : next ≠ 0)
    (ne : completed ≠ next) (pair : orderedPair b.mutationStepIds completed next = true)
    (digest : isSha256Hex fresh = true) :
    ∃ s' j, run guard (calls ++ [.verificationStarted] ++
        [.verificationPassedContinue completed next fresh]) = s' ∧
      s'.journal.phase = .executing ∧ s'.journal.execution = some b ∧
      s'.journal.verifiedBoundary = some (continueBoundary b completed next fresh) ∧
      j.verifiedBoundary = s.journal.verifiedBoundary ∧ j.execution = some b ∧
      s'.accepted = s.accepted ++ [⟨s.journal, .verificationStarted⟩] ++
        [⟨j, .verificationPassedContinue completed next fresh⟩] := by
  obtain ⟨⟨c1, j1⟩, h1, verifying, calls1⟩ := run_accept hs (apply_verificationStarted phase)
  obtain ⟨detail, rfl⟩ := verifying.verificationStarted_eq
  obtain ⟨⟨c2, j2⟩, h2, passed, calls2⟩ := run_accept h1
    (apply_verificationPassedContinue rfl execution completed_ne next_ne ne pair digest)
  refine ⟨_, s.journal.moved .verifying "verification-started" detail, h2, ?_⟩
  cases passed with
  | verificationPassedContinue _ execution' =>
    obtain rfl := Option.some.inj (execution'.symm.trans execution)
    exact ⟨rfl, execution, rfl, rfl, execution, by rw [calls2, ← calls1]⟩

/-- The last of several steps: verification starts and passes, and the run is complete. -/
theorem run_complete {v : VerifiedMutationBoundaryBinding} (hs : run guard calls = s)
    (phase : s.journal.phase = .executing) (execution : s.journal.execution = some b)
    (boundary : s.journal.verifiedBoundary = some v) (steps : 2 ≤ b.mutationStepIds.length)
    (last : b.mutationStepIds.getLast? = some completed) (digest : isSha256Hex fresh = true)
    (same : v.executionId = b.executionId) (next : v.nextStepId = completed)
    (integrity : v.integrityMatches = true) :
    ∃ s' j, run guard (calls ++ [.verificationStarted] ++
        [.verificationPassedComplete completed fresh]) = s' ∧
      s'.journal.phase = .completed ∧ s'.journal.execution = some b ∧
      s'.journal.verifiedBoundary = some (finalBoundary v completed fresh) ∧
      s'.accepted = s.accepted ++ [⟨s.journal, .verificationStarted⟩] ++
        [⟨j, .verificationPassedComplete completed fresh⟩] := by
  obtain ⟨⟨c1, j1⟩, h1, verifying, calls1⟩ := run_accept hs (apply_verificationStarted phase)
  obtain ⟨detail, rfl⟩ := verifying.verificationStarted_eq
  obtain ⟨⟨c2, j2⟩, h2, passed, calls2⟩ := run_accept h1
    (apply_verificationPassedComplete rfl execution boundary steps last digest same next integrity)
  refine ⟨_, s.journal.moved .verifying "verification-started" detail, h2, ?_⟩
  cases passed with
  | verificationPassedComplete _ _ boundary' =>
    obtain rfl := Option.some.inj (boundary'.symm.trans boundary)
    exact ⟨rfl, execution, rfl, by rw [calls2, ← calls1]⟩

end Verification

section Samples

/-- A digest, and a guard whose every id is that digest. -/
def sampleDigest : String := "0123456789abcdef0123456789abcdef0123456789abcdef0123456789abcdef"

omit [Fingerprint] in
theorem sampleDigest_isSha256Hex : isSha256Hex sampleDigest = true := by decide

def sampleGuard : ExecutionGuardPlan := ⟨sampleDigest, sampleDigest, "/dev/sda1", sampleDigest⟩

/-- The start of `sampleGuard` with the given steps. -/
def sampleStart (ids : List Nat) : List JournalTransition :=
  startCalls sampleGuard sampleDigest sampleDigest sampleDigest sampleDigest ids

end Samples

end StorageManager.Planner.ExecutionGuard
