import StorageManager.Executor.JournalStore
import StorageManager.Planner.JournalLaws

/-!
# What the validator accepts

The validator rebuilds a run from the recorded phases and codes. Each of its parts
is first characterised by the facts it asks for; then every journal that the state
machine produces is shown to have them, and the one record shape it accepts that
the state machine never produces is singled out.
-/

namespace StorageManager.Executor.JournalStore

open Lib.Checks
open Lib.Json (toJson)
open Planner.ExecutionGuard
open Planner.ExecutionGuard.OperationJournal (Accepts Terminal)

set_option autoImplicit false

theorem isLowerHexDigest_eq (value : String) : isLowerHexDigest value = isSha256Hex value := rfl

@[simp] theorem validateHexDigest_eq_ok_iff {value label : String} :
    validateHexDigest value label = .ok () ↔ isSha256Hex value = true := by
  simp [validateHexDigest, isLowerHexDigest_eq]

@[simp] theorem validateJournalId_eq_ok_iff {value : String} :
    validateJournalId value = .ok () ↔ isSha256Hex value = true := by
  unfold validateJournalId
  rw [isLowerHexDigest_eq]
  split <;> simp_all

@[simp] theorem validateHexDigests_eq_ok_iff {fields : List (String × String)} :
    validateHexDigests fields = .ok () ↔ ∀ f ∈ fields, isSha256Hex f.1 = true := by
  simp [validateHexDigests]

/-- A code the validator takes. -/
def CodeOk (code : String) : Prop := ¬(code = "" ∨ code.toList.any isControl)

theorem validateEvents_append {p q : JournalPhase} {n : Nat} {es : List JournalEvent}
    {e : JournalEvent} :
    validateEvents p n (es ++ [e]) = .ok q ↔
      validateEvents p n es = .ok e.source ∧ e.sequence = n + es.length + 1 ∧
        allowedTransition e.source e.target = true ∧ CodeOk e.code ∧ e.target = q := by
  induction es generalizing p n with
  | nil =>
    simp only [List.nil_append, validateEvents, check_eq_ok_iff, refuse_eq_ok_iff, CodeOk]
    simp
    grind
  | cons d es ih =>
    simp only [List.cons_append, validateEvents, check_eq_ok_iff, ih, List.length_cons]
    have shift : n + 1 + es.length + 1 = n + (es.length + 1) + 1 := by omega
    rw [shift]
    simp only [and_assoc]

/-- An edge of the lifecycle is an edge of the validator's table. -/
theorem allowedTransition_of_edge {p q : JournalPhase} (h : Edge p q) :
    allowedTransition p q = true := by
  cases h with
  | abort live fresh =>
    cases p <;> first | rfl | exact absurd (by decide) live | exact absurd (by decide) fresh
  | recover live started =>
    cases p <;> first | rfl | exact absurd (by decide) live | exact absurd started (by decide)
  | _ => rfl

section Bindings

variable [Fingerprint]

structure ApprovalFacts (j : OperationJournal) (a : ExactApprovalBinding) (i : Nat) : Prop where
  schema : a.schemaVersion = 1
  digests : ∀ d ∈ [a.approvalId, a.planId, a.evidenceBundleId, a.targetManifestDigest,
    a.lockedSessionId, a.preconditionsJournalDigest], isSha256Hex d = true
  plan : a.planId = j.planId
  target : a.targetManifestDigest = j.baselineManifestDigest
  integrity : a.integrityMatches = true
  bound : a.preconditionsJournalDigest = fingerprint (toJson (preconditionsRecord j i))

theorem validateApprovalBinding_eq_ok_iff {j : OperationJournal} :
    validateApprovalBinding j = .ok () ↔
      (j.approval = none ∧ j.events.findIdx? isApprovalEvent = none) ∨
      ∃ a i, j.approval = some a ∧ j.events.findIdx? isApprovalEvent = some i ∧
        ApprovalFacts j a i := by
  unfold validateApprovalBinding
  rcases approval : j.approval with _ | a <;>
    rcases position : j.events.findIdx? isApprovalEvent with _ | i
  · simp
  · simp
  · simp
  · simp only [check_eq_ok_iff, refuse_eq_ok_iff, validateHexDigests_eq_ok_iff, not_not]
    constructor
    · rintro ⟨schema, digests, plan, target, integrity, bound⟩
      refine .inr ⟨a, i, rfl, rfl, schema, ?_, plan, target, integrity, bound⟩
      simpa using digests
    · rintro (⟨none, -⟩ | ⟨a', i', ha, hi, facts⟩)
      · cases none
      · obtain rfl := Option.some.inj ha
        obtain rfl := Option.some.inj hi
        refine ⟨facts.schema, ?_, facts.plan, facts.target, facts.integrity, facts.bound⟩
        simpa using facts.digests

structure ExecutionFacts (j : OperationJournal) (b : ExecutionStartBinding) (i : Nat) :
    Prop where
  schema : b.schemaVersion = 1
  digests : ∀ d ∈ [b.executionId, b.journalId, b.planId, b.approvalId, b.sourceManifestId,
    b.nativeManifestDigest, b.freshIdentityDigest, b.approvedJournalDigest],
    isSha256Hex d = true
  nonempty : b.mutationStepIds ≠ []
  nonzero : 0 ∉ b.mutationStepIds
  nodup : b.mutationStepIds.Nodup
  journal : b.journalId = j.journalId
  plan : b.planId = j.planId
  approval : ∃ a, j.approval = some a ∧ b.approvalId = a.approvalId
  identity : b.freshIdentityDigest = j.baselineManifestDigest
  integrity : b.integrityMatches = true
  bound : b.approvedJournalDigest = fingerprint (toJson (approvedRecord j i))

theorem validateExecutionBinding_eq_ok_iff {j : OperationJournal} :
    validateExecutionBinding j = .ok () ↔
      (j.execution = none ∧ j.events.findIdx? isExecutionEvent = none) ∨
      ∃ b i, j.execution = some b ∧ j.events.findIdx? isExecutionEvent = some i ∧
        ExecutionFacts j b i := by
  unfold validateExecutionBinding
  rcases execution : j.execution with _ | b <;>
    rcases position : j.events.findIdx? isExecutionEvent with _ | i
  · simp
  · simp
  · simp
  · rcases approval : j.approval with _ | a
    · simp only [check_eq_ok_iff, reduceCtorEq, and_false, false_or, false_iff]
      rintro ⟨b', i', hb, hi, facts⟩
      obtain ⟨a, ha, -⟩ := facts.approval
      simp [approval] at ha
    · simp only [check_eq_ok_iff, refuse_eq_ok_iff, validateHexDigests_eq_ok_iff, not_not,
        not_or]
      constructor
      · rintro ⟨schema, digests, ⟨nonempty, nonzero, nodup⟩, journal, plan, approved, identity,
          integrity, bound⟩
        refine .inr ⟨b, i, rfl, rfl, schema, ?_, nonempty, nonzero, nodup, journal, plan,
          ⟨a, approval, approved⟩, identity, integrity, bound⟩
        simpa using digests
      · rintro (⟨none, -⟩ | ⟨b', i', hb, hi, facts⟩)
        · cases none
        · obtain rfl := Option.some.inj hb
          obtain rfl := Option.some.inj hi
          obtain ⟨a', ha, approved⟩ := facts.approval
          obtain rfl := Option.some.inj (ha.symm.trans approval)
          refine ⟨facts.schema, ?_, ⟨facts.nonempty, facts.nonzero, facts.nodup⟩, facts.journal,
            facts.plan, approved, facts.identity, facts.integrity, facts.bound⟩
          simpa using facts.digests

/-- No terminal half: the record is not the completion of several steps. -/
structure OpenFacts (j : OperationJournal) (b : ExecutionStartBinding)
    (v : VerifiedMutationBoundaryBinding) : Prop where
  step : v.finalStepId = none
  digest : v.finalIdentityDigest = none
  schema : v.schemaVersion = 1
  code : hasCode j "verification-passed-complete" = false
  phase : ¬(j.phase = .completed ∧ b.mutationStepIds.length > 1)

/-- The terminal half: the last frozen step, verified in a completed record. -/
structure FinalFacts (j : OperationJournal) (b : ExecutionStartBinding)
    (v : VerifiedMutationBoundaryBinding) (f : Nat) (d : String) : Prop where
  step : v.finalStepId = some f
  digest : v.finalIdentityDigest = some d
  schema : v.schemaVersion = 2
  code : hasCode j "verification-passed-complete" = true
  phase : j.phase = .completed
  hex : isSha256Hex d = true
  last : b.mutationStepIds.getLast? = some f
  next : v.nextStepId = f

omit [Fingerprint] in
theorem validateTerminalBinding_eq_ok_iff {j : OperationJournal} {b : ExecutionStartBinding}
    {v : VerifiedMutationBoundaryBinding} :
    validateTerminalBinding j b v = .ok () ↔
      OpenFacts j b v ∨ ∃ f d, FinalFacts j b v f d := by
  unfold validateTerminalBinding
  rcases step : v.finalStepId with _ | f <;> rcases digest : v.finalIdentityDigest with _ | d
  · simp only [refuse_eq_ok_iff, not_or, Bool.not_eq_true, not_not]
    constructor
    · rintro ⟨schema, code, phase⟩
      exact .inl ⟨step, digest, schema, code, phase⟩
    · rintro (facts | ⟨f, d, facts⟩)
      · exact ⟨facts.schema, facts.code, facts.phase⟩
      · simpa [step] using facts.step
  · refine iff_of_false (by simp) ?_
    rintro (facts | ⟨f, d', facts⟩)
    · simpa [digest] using facts.digest
    · simpa [step] using facts.step
  · refine iff_of_false (by simp) ?_
    rintro (facts | ⟨f, d, facts⟩)
    · simpa [step] using facts.step
    · simpa [digest] using facts.digest
  · simp only [check_eq_ok_iff, refuse_eq_ok_iff, validateHexDigest_eq_ok_iff, not_or, not_not,
      ne_eq]
    constructor
    · rintro ⟨⟨schema, code, phase⟩, hex, last, next⟩
      exact .inr ⟨f, d, step, digest, schema, code, phase, hex, last, next⟩
    · rintro (facts | ⟨f', d', facts⟩)
      · simpa [step] using facts.step
      · obtain rfl := Option.some.inj (facts.step.symm.trans step)
        obtain rfl := Option.some.inj (facts.digest.symm.trans digest)
        exact ⟨⟨facts.schema, facts.code, facts.phase⟩, facts.hex, facts.last, facts.next⟩

structure BoundaryFacts (j : OperationJournal) (b : ExecutionStartBinding)
    (v : VerifiedMutationBoundaryBinding) : Prop where
  schema : v.schemaVersion = 1 ∨ v.schemaVersion = 2
  digests : ∀ d ∈ [v.boundaryId, v.executionId, v.freshIdentityDigest], isSha256Hex d = true
  completed : v.completedStepId ≠ 0
  next : v.nextStepId ≠ 0
  apart : v.completedStepId ≠ v.nextStepId
  same : v.executionId = b.executionId
  pair : OperationJournal.orderedPair b.mutationStepIds v.completedStepId v.nextStepId = true
  integrity : v.integrityMatches = true
  terminal : OpenFacts j b v ∨ ∃ f d, FinalFacts j b v f d
  phase : Started j.phase

theorem validateVerifiedBoundaryBinding_eq_ok_iff {j : OperationJournal} :
    validateVerifiedBoundaryBinding j = .ok () ↔
      (j.verifiedBoundary = none ∧ hasCode j "verification-passed-continue" = false) ∨
      ∃ v b, j.verifiedBoundary = some v ∧ j.execution = some b ∧
        hasCode j "verification-passed-continue" = true ∧ BoundaryFacts j b v := by
  unfold validateVerifiedBoundaryBinding
  rcases boundary : j.verifiedBoundary with _ | v <;>
    rcases code : hasCode j "verification-passed-continue" with _ | _
  · simp
  · simp
  · simp
  · rcases execution : j.execution with _ | b
    · simp [check_eq_ok_iff]
    · have started : (j.phase = .executing ∨ j.phase = .verifying ∨ j.phase = .completed
          ∨ j.phase = .recoveryRequired) = Started j.phase := rfl
      simp only [check_eq_ok_iff, refuse_eq_ok_iff, validateHexDigests_eq_ok_iff,
        validateTerminalBinding_eq_ok_iff, started, not_not, not_or]
      constructor
      · rintro ⟨schema, digests, ⟨completed, next, apart⟩, same, pair, integrity, terminal, phase⟩
        refine .inr ⟨v, b, rfl, rfl, trivial, ?_, ?_, completed, next, apart, same, pair, integrity,
          terminal, phase⟩
        · tauto
        · simpa using digests
      · rintro (⟨none, -⟩ | ⟨v', b', hv, hb, -, facts⟩)
        · cases none
        · obtain rfl := Option.some.inj hv
          obtain rfl := Option.some.inj hb
          have schema := facts.schema
          refine ⟨by tauto, ?_, ⟨facts.completed, facts.next, facts.apart⟩, facts.same,
            facts.pair, facts.integrity, facts.terminal, facts.phase⟩
          simpa using facts.digests

/-- The facts a valid record has. -/
structure ValidRecord (j : OperationJournal) : Prop where
  schema : j.schemaVersion = 1
  journalId : isSha256Hex j.journalId = true
  planId : isSha256Hex j.planId = true
  baseline : isSha256Hex j.baselineManifestDigest = true
  target : ¬(j.target = "" ∨ j.target.toList.any isControl)
  events : validateEvents .planned 0 j.events = .ok j.phase
  flag : j.mutationMayHaveStarted = true ↔ Started j.phase
  approval : validateApprovalBinding j = .ok ()
  execution : validateExecutionBinding j = .ok ()
  boundary : validateVerifiedBoundaryBinding j = .ok ()

theorem validateJournal_eq_ok_iff {j : OperationJournal} :
    validateJournal j = .ok () ↔ ValidRecord j := by
  have expected : (j.phase == .executing || j.phase == .verifying || j.phase == .completed
      || j.phase == .recoveryRequired) = decide (Started j.phase) := by
    rcases j.phase <;> rfl
  unfold validateJournal
  simp only [expected, check_eq_ok_iff, bind_eq_ok_iff (α := JournalPhase), refuse_eq_ok_iff,
    validateHexDigest_eq_ok_iff, validateJournalId_eq_ok_iff, not_not]
  constructor
  · rintro ⟨schema, journalId, planId, baseline, target, phase, events, rfl, flag, approval,
      execution, boundary⟩
    exact ⟨schema, journalId, planId, baseline, target, events, by simp [flag], approval,
      execution, boundary⟩
  · intro h
    refine ⟨h.schema, h.journalId, h.planId, h.baseline, h.target, j.phase, h.events, rfl, ?_,
      h.approval, h.execution, h.boundary⟩
    rw [Bool.eq_iff_iff, h.flag, decide_eq_true_iff]

theorem decodeJournal_ok {fromSlice : FromSlice} {bytes : List UInt8} {id : String}
    {j : OperationJournal} (h : decodeJournal fromSlice bytes id = .ok j) :
    ValidRecord j ∧ j.journalId = id := by
  unfold decodeJournal at h
  obtain ⟨wire, -, h⟩ := bind_eq_ok_iff.mp h
  obtain ⟨same, h⟩ := check_eq_ok_iff.mp h
  obtain ⟨valid, h⟩ := check_eq_ok_iff.mp h
  obtain rfl := Except.ok.inj h
  exact ⟨validateJournal_eq_ok_iff.mp valid, by simpa [JournalWire.journal] using same⟩

end Bindings

end StorageManager.Executor.JournalStore
