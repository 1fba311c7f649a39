import StorageManager.Executor.JournalAcceptance

/-!
# Storing and reloading what the state machine produces

The lifecycle is described twice: by `apply`, and by the validator with its own
edge table, code strings and count rules. Here every journal `apply` can produce
passes the validator and survives a round trip through the store's encoding.
-/

namespace StorageManager.Executor.JournalStore

open Lib.Checks
open Lib.Json (toJson)
open Planner.ExecutionGuard
open Planner.ExecutionGuard.OperationJournal (Accepts Terminal continueBoundary finalBoundary)

set_option autoImplicit false

/-- The fields no call changes. -/
structure SameHeader (j j' : OperationJournal) : Prop where
  schemaVersion : j'.schemaVersion = j.schemaVersion
  journalId : j'.journalId = j.journalId
  planId : j'.planId = j.planId
  target : j'.target = j.target
  baseline : j'.baselineManifestDigest = j.baselineManifestDigest

/-- The first event of a kind keeps its place when another event is appended. -/
theorem findIdx?_extend {p : JournalEvent → Bool} {es : List JournalEvent} {e : JournalEvent}
    (other : p e = false) : (es ++ [e]).findIdx? p = es.findIdx? p := by
  rw [List.findIdx?_append]
  simp [List.findIdx?_cons, other]

theorem findIdx?_first {p : JournalEvent → Bool} {es : List JournalEvent} {e : JournalEvent}
    (none : es.findIdx? p = none) (this : p e = true) :
    (es ++ [e]).findIdx? p = some es.length := by
  rw [List.findIdx?_append, none]
  simp [List.findIdx?_cons, this]

theorem take_extend {p : JournalEvent → Bool} {es : List JournalEvent} {e : JournalEvent} {i : Nat}
    (h : es.findIdx? p = some i) : (es ++ [e]).take i = es.take i := by
  obtain ⟨lt, -⟩ := List.findIdx?_eq_some_iff_getElem.mp h
  exact List.take_append_of_le_length (Nat.le_of_lt lt)

theorem hasCode_extend {j j' : OperationJournal} {e : JournalEvent} {code : String}
    (events : j'.events = j.events ++ [e]) :
    hasCode j' code = (hasCode j code || e.code == code) := by
  simp [hasCode, events]

section Steps

variable [Fingerprint]

theorem SameHeader.of_accepts {j j' : OperationJournal} {t : JournalTransition}
    (h : Accepts j t j') : SameHeader j j' := by
  cases h <;> exact ⟨rfl, rfl, rfl, rfl, rfl⟩

theorem codeOk_of_accepts {j j' : OperationJournal} {t : JournalTransition}
    (h : Accepts j t j') : ∃ code detail, CodeOk code ∧ j'.events =
      j.events ++ [⟨j.events.length + 1, j.phase, j'.phase, code, detail⟩] := by
  cases h <;> exact ⟨_, _, by unfold CodeOk; decide, rfl⟩

/-- A later event leaves a valid approval valid. -/
theorem validateApprovalBinding_extend {j j' : OperationJournal} {e : JournalEvent}
    (header : SameHeader j j') (approval : j'.approval = j.approval)
    (events : j'.events = j.events ++ [e]) (other : isApprovalEvent e = false)
    (h : validateApprovalBinding j = .ok ()) : validateApprovalBinding j' = .ok () := by
  rw [validateApprovalBinding_eq_ok_iff] at h ⊢
  rw [approval, events, findIdx?_extend other]
  rcases h with h | ⟨a, i, ha, hi, facts⟩
  · exact .inl h
  · refine .inr ⟨a, i, ha, hi, facts.schema, facts.digests, ?_, ?_, facts.integrity, ?_⟩
    · rw [header.planId]; exact facts.plan
    · rw [header.baseline]; exact facts.target
    · have same : preconditionsRecord j' i = preconditionsRecord j i := by
        simp only [preconditionsRecord, header.schemaVersion, header.journalId, header.planId,
          header.target, header.baseline, events, take_extend hi]
      rw [same]
      exact facts.bound

/-- A later event leaves a valid execution binding valid. -/
theorem validateExecutionBinding_extend {j j' : OperationJournal} {e : JournalEvent}
    (header : SameHeader j j') (approval : j'.approval = j.approval)
    (execution : j'.execution = j.execution) (events : j'.events = j.events ++ [e])
    (other : isExecutionEvent e = false) (h : validateExecutionBinding j = .ok ()) :
    validateExecutionBinding j' = .ok () := by
  rw [validateExecutionBinding_eq_ok_iff] at h ⊢
  rw [execution, events, findIdx?_extend other]
  rcases h with h | ⟨b, i, hb, hi, facts⟩
  · exact .inl h
  · refine .inr ⟨b, i, hb, hi, facts.schema, facts.digests, facts.nonempty, facts.nonzero,
      facts.nodup, ?_, ?_, ?_, ?_, facts.integrity, ?_⟩
    · rw [header.journalId]; exact facts.journal
    · rw [header.planId]; exact facts.plan
    · rw [approval]; exact facts.approval
    · rw [header.baseline]; exact facts.identity
    · have same : approvedRecord j' i = approvedRecord j i := by
        simp only [approvedRecord, header.schemaVersion, header.journalId, header.planId,
          header.target, header.baseline, approval, events, take_extend hi]
      rw [same]
      exact facts.bound

/-- The conditions a caller keeps: approvals name digests, and a start is built by
`build_execution_start_binding` from the journal it meets. -/
def GoodCall (c : AcceptedCall) : Prop :=
  match c.transition with
  | .exactPlanApproved _ a =>
    isSha256Hex a.evidenceBundleId = true ∧ isSha256Hex a.lockedSessionId = true
  | .executionStarted b => ∃ source native fresh ids,
    buildExecutionStartBinding c.before source native fresh ids = .ok b
  | _ => True

/-- The phases before an approval. -/
def Unapproved (p : JournalPhase) : Prop :=
  p = .planned ∨ p = .hostLockHeld ∨ p = .identityRevalidated ∨ p = .preconditionsVerified

instance (p : JournalPhase) : Decidable (Unapproved p) :=
  inferInstanceAs (Decidable (_ ∨ _ ∨ _ ∨ _))

/-- A valid record, and what its phase says about its bindings and codes. -/
structure Stored (j : OperationJournal) : Prop extends ValidRecord j where
  life : Lifecycle j
  unapproved : Unapproved j.phase → j.approval = none
  uncompleted : j.phase ≠ .completed → hasCode j "verification-passed-complete" = false

omit [Fingerprint] in
theorem unapproved_of_edge {p q : JournalPhase} (h : Edge p q) (hq : Unapproved q) :
    Unapproved p := by
  cases h with
  | abort => exact absurd hq (by decide)
  | recover => exact absurd hq (by decide)
  | _ => revert hq; decide

theorem Stored.unstarted {j : OperationJournal} (h : Stored j) (fresh : ¬Started j.phase) :
    j.mutationMayHaveStarted = false ∧ j.execution = none ∧ j.verifiedBoundary = none := by
  have unstarted := h.life.execution_none fresh
  refine ⟨?_, unstarted, ?_⟩
  · rw [Bool.eq_false_iff, Ne, h.flag]
    exact fresh
  · rcases validateVerifiedBoundaryBinding_eq_ok_iff.mp h.boundary with ⟨none, -⟩ | ⟨v, b, -, hb, -⟩
    · exact none
    · simp [unstarted] at hb

theorem Stored.approvalFacts {j : OperationJournal} {a : ExactApprovalBinding} (h : Stored j)
    (approval : j.approval = some a) : ∃ i, ApprovalFacts j a i := by
  rcases validateApprovalBinding_eq_ok_iff.mp h.approval with ⟨none, -⟩ | ⟨a', i, ha, -, facts⟩
  · simp [approval] at none
  · obtain rfl := Option.some.inj (ha.symm.trans approval)
    exact ⟨i, facts⟩

theorem Stored.no_approval_event {j : OperationJournal} (h : Stored j)
    (unset : j.approval = none) : j.events.findIdx? isApprovalEvent = none := by
  rcases validateApprovalBinding_eq_ok_iff.mp h.approval with ⟨-, absent⟩ | ⟨a, i, ha, -⟩
  · exact absent
  · simp [unset] at ha

theorem Stored.no_execution_event {j : OperationJournal} (h : Stored j)
    (unset : j.execution = none) : j.events.findIdx? isExecutionEvent = none := by
  rcases validateExecutionBinding_eq_ok_iff.mp h.execution with ⟨-, absent⟩ | ⟨b, i, hb, -⟩
  · exact absent
  · simp [unset] at hb

theorem Stored.approval_step {j j' : OperationJournal} {t : JournalTransition} (h : Stored j)
    (accepts : Accepts j t j') (good : GoodCall ⟨j, t⟩) :
    validateApprovalBinding j' = .ok () := by
  have header := SameHeader.of_accepts accepts
  cases accepts with
  | @exactPlanApproved planId detail a phase plan schema approvedPlan target integrity bound =>
    have fresh : j.approval = none := h.unapproved (by rw [phase]; decide)
    obtain ⟨lowered, unstarted, unbound⟩ := h.unstarted (by rw [phase]; decide)
    refine validateApprovalBinding_eq_ok_iff.mpr (.inr ⟨a, j.events.length, rfl, ?_, schema, ?_,
      approvedPlan, target, integrity, ?_⟩)
    · exact findIdx?_first (h.no_approval_event fresh) (by simp [isApprovalEvent, phase])
    · have approvalId : isSha256Hex a.approvalId = true := by
        rw [eq_of_beq integrity]
        exact Fingerprint.isSha256Hex_fingerprint _
      have journalDigest : isSha256Hex a.preconditionsJournalDigest = true := by
        rw [bound]
        exact Fingerprint.isSha256Hex_fingerprint _
      obtain ⟨evidence, session⟩ := good
      simp only [List.mem_cons, List.not_mem_nil, or_false]
      rintro d (rfl | rfl | rfl | rfl | rfl | rfl)
      · exact approvalId
      · rw [approvedPlan]; exact h.planId
      · exact evidence
      · rw [target]; exact h.baseline
      · exact session
      · exact journalDigest
    · have same : preconditionsRecord { j.moved .approved "exact-plan-approved" detail with
          approval := some a } j.events.length = j := by
        simp only [preconditionsRecord, OperationJournal.moved_events, List.take_left]
        rw [← phase, ← fresh, ← unstarted, ← unbound, ← lowered]
        rfl
      rw [same, bound]
  | _ => exact validateApprovalBinding_extend header rfl rfl (by simp [isApprovalEvent]) h.approval

theorem Stored.execution_step {j j' : OperationJournal} {t : JournalTransition} (h : Stored j)
    (accepts : Accepts j t j') (good : GoodCall ⟨j, t⟩) :
    validateExecutionBinding j' = .ok () := by
  have header := SameHeader.of_accepts accepts
  cases accepts with
  | @exactPlanApproved _ _ _ phase =>
    obtain ⟨-, unstarted, -⟩ := h.unstarted (by rw [phase]; decide)
    refine validateExecutionBinding_eq_ok_iff.mpr (.inl ⟨unstarted, ?_⟩)
    exact (findIdx?_extend (by simp [isExecutionEvent])).trans (h.no_execution_event unstarted)
  | @executionStarted a b detail phase approval =>
    obtain ⟨lowered, unstarted, unbound⟩ := h.unstarted (by rw [phase]; decide)
    obtain ⟨source, native, freshId, ids, built⟩ := good
    obtain ⟨-, -, -, ⟨a', ha', approved⟩, hsource, hnative, schema, journalId, planId, sourceId,
      nativeId, identity, steps, nonempty, nonzero, nodup, bound, integrity⟩ :=
      buildExecutionStartBinding_ok built
    obtain ⟨i, facts⟩ := h.approvalFacts ha'
    rw [← steps] at nonempty nonzero nodup
    refine validateExecutionBinding_eq_ok_iff.mpr (.inr ⟨b, j.events.length, rfl, ?_, schema, ?_,
      nonempty, nonzero, nodup, journalId, planId, ⟨a', ha', approved⟩, identity, integrity, ?_⟩)
    · exact findIdx?_first (h.no_execution_event unstarted) (by simp [isExecutionEvent, phase])
    · have executionId : isSha256Hex b.executionId = true := by
        rw [eq_of_beq integrity]
        exact Fingerprint.isSha256Hex_fingerprint _
      have journalDigest : isSha256Hex b.approvedJournalDigest = true := by
        rw [bound]
        exact Fingerprint.isSha256Hex_fingerprint _
      simp only [List.mem_cons, List.not_mem_nil, or_false]
      rintro d (rfl | rfl | rfl | rfl | rfl | rfl | rfl | rfl)
      · exact executionId
      · rw [journalId]; exact h.journalId
      · rw [planId]; exact h.planId
      · rw [approved]; exact facts.digests _ (by simp)
      · rw [sourceId]; exact hsource
      · rw [nativeId]; exact hnative
      · rw [identity]; exact h.baseline
      · exact journalDigest
    · have same : approvedRecord { j.moved .executing "execution-started" detail with
          mutationMayHaveStarted := true, execution := some b } j.events.length = j := by
        simp only [approvedRecord, OperationJournal.moved_events, List.take_left]
        rw [← phase, ← unstarted, ← unbound, ← lowered]
        rfl
      rw [same, bound]
  | @verificationPassedContinue _ _ _ _ _ phase =>
    exact validateExecutionBinding_extend header rfl rfl rfl (by simp [isExecutionEvent, phase])
      h.execution
  | _ => exact validateExecutionBinding_extend header rfl rfl rfl (by simp [isExecutionEvent]) h.execution

/-- A call that is neither a continuation nor a completion of several steps keeps
the boundary valid. -/
theorem Stored.boundary_quiet {j j' : OperationJournal} {e : JournalEvent} (h : Stored j)
    (live : j.phase ≠ .completed) (started : Started j.phase → Started j'.phase)
    (boundary : j'.verifiedBoundary = j.verifiedBoundary)
    (execution : ∀ b, j.execution = some b → j'.execution = some b)
    (single : ∀ b, j.execution = some b → j'.phase = .completed → b.mutationStepIds.length ≤ 1)
    (events : j'.events = j.events ++ [e]) (passed : e.code ≠ "verification-passed-continue")
    (completed : e.code ≠ "verification-passed-complete") :
    validateVerifiedBoundaryBinding j' = .ok () := by
  have passed_same : hasCode j' "verification-passed-continue" =
      hasCode j "verification-passed-continue" := by
    rw [hasCode_extend events]
    simp [passed]
  have completed_same : hasCode j' "verification-passed-complete" =
      hasCode j "verification-passed-complete" := by
    rw [hasCode_extend events]
    simp [completed]
  rw [validateVerifiedBoundaryBinding_eq_ok_iff, boundary, passed_same]
  rcases validateVerifiedBoundaryBinding_eq_ok_iff.mp h.boundary with
    absent | ⟨v, b, hv, hb, code, facts⟩
  · exact .inl absent
  · refine .inr ⟨v, b, hv, execution b hb, code, facts.schema, facts.digests, facts.completed,
      facts.next, facts.apart, facts.same, facts.pair, facts.integrity, .inl ?_,
      started facts.phase⟩
    rcases facts.terminal with opened | ⟨f, d, final⟩
    · refine ⟨opened.step, opened.digest, opened.schema, completed_same.trans opened.code, ?_⟩
      rintro ⟨done, several⟩
      exact absurd (single b hb done) (by omega)
    · exact absurd final.phase live

theorem Stored.boundary_step {j j' : OperationJournal} {t : JournalTransition} (h : Stored j)
    (accepts : Accepts j t j') : validateVerifiedBoundaryBinding j' = .ok () := by
  have live : j.phase ≠ .completed := fun p => accepts.live (.inl p)
  have started : Started j.phase → Started j'.phase := by
    intro before
    rcases (accepts.edge h.flag).started with same | ⟨approved, -⟩
    · exact same.mpr before
    · exact absurd (approved ▸ before) (by decide)
  cases accepts with
  | @executionStarted a b detail phase =>
    obtain ⟨-, unstarted, -⟩ := h.unstarted (by rw [phase]; decide)
    exact h.boundary_quiet live started rfl (by simp [unstarted]) (by simp) rfl
      (by simp) (by simp)
  | @verificationPassedContinue b completed next fresh detail phase execution completed_ne next_ne
      apart pair digest =>
    have executionId : isSha256Hex b.executionId = true := by
      rcases validateExecutionBinding_eq_ok_iff.mp h.execution with ⟨absent, -⟩ | ⟨b', i, hb, -, facts⟩
      · simp [execution] at absent
      · obtain rfl := Option.some.inj (hb.symm.trans execution)
        exact facts.digests _ (by simp)
    refine validateVerifiedBoundaryBinding_eq_ok_iff.mpr (.inr ⟨_, b, rfl, execution, ?_, .inl rfl,
      ?_, completed_ne, next_ne, apart, rfl, pair, continueBoundary_integrity b completed next fresh,
      .inl ⟨rfl, rfl, rfl, ?_, by simp⟩, .inl rfl⟩)
    · rw [hasCode_extend (j := j) rfl]
      simp
    · simp only [List.mem_cons, List.not_mem_nil, or_false]
      rintro d (rfl | rfl | rfl)
      · rw [eq_of_beq (continueBoundary_integrity b completed next fresh)]
        unfold VerifiedMutationBoundaryBinding.expectedBoundaryId
        split <;> exact Fingerprint.isSha256Hex_fingerprint _
      · exact executionId
      · exact digest
    · rw [hasCode_extend (j := j) rfl, h.uncompleted live]
      simp
  | @verificationPassedComplete b v completed fresh detail phase execution boundary steps last
      digest same next =>
    rcases validateVerifiedBoundaryBinding_eq_ok_iff.mp h.boundary with
      ⟨absent, -⟩ | ⟨v', b', hv, hb, code, facts⟩
    · simp [boundary] at absent
    obtain rfl := Option.some.inj (hv.symm.trans boundary)
    obtain rfl := Option.some.inj (hb.symm.trans execution)
    refine validateVerifiedBoundaryBinding_eq_ok_iff.mpr (.inr ⟨_, b', rfl, execution, ?_, .inr rfl,
      ?_, facts.completed, facts.next, facts.apart, facts.same, facts.pair,
      finalBoundary_integrity v' completed fresh,
      .inr ⟨completed, fresh, rfl, rfl, rfl, ?_, rfl, digest, last, next⟩,
      .inr (.inr (.inl rfl))⟩)
    · rw [hasCode_extend (j := j) rfl, code]
      rfl
    · simp only [List.mem_cons, List.not_mem_nil, or_false]
      rintro d (rfl | rfl | rfl)
      · rw [eq_of_beq (finalBoundary_integrity v' completed fresh)]
        unfold VerifiedMutationBoundaryBinding.expectedBoundaryId
        split <;> exact Fingerprint.isSha256Hex_fingerprint _
      · exact facts.digests v'.executionId (by simp)
      · exact facts.digests v'.freshIdentityDigest (by simp)
    · rw [hasCode_extend (j := j) rfl]
      simp
  | @completed b detail phase execution single =>
    refine h.boundary_quiet live started rfl (fun _ hb => hb) ?_ rfl (by simp) (by simp)
    intro b' hb' _
    obtain rfl := Option.some.inj (hb'.symm.trans execution)
    exact single
  | _ =>
    exact h.boundary_quiet live started rfl (fun _ hb => hb) (by simp) rfl (by simp) (by simp)

/-- An accepted call of a careful caller keeps the record storable. -/
theorem Stored.step {j j' : OperationJournal} {t : JournalTransition} (h : Stored j)
    (accepts : Accepts j t j') (good : GoodCall ⟨j, t⟩) : Stored j' := by
  have header := SameHeader.of_accepts accepts
  have edge := accepts.edge h.flag
  have life := h.life.step accepts
  obtain ⟨code, detail, codeOk, events⟩ := codeOk_of_accepts accepts
  refine ⟨⟨?_, ?_, ?_, ?_, ?_, ?_, life.flag, h.approval_step accepts good,
    h.execution_step accepts good, h.boundary_step accepts⟩, life, ?_, ?_⟩
  · rw [header.schemaVersion]; exact h.schema
  · rw [header.journalId]; exact h.journalId
  · rw [header.planId]; exact h.planId
  · rw [header.baseline]; exact h.baseline
  · rw [header.target]; exact h.target
  · rw [events]
    refine validateEvents_append.mpr ⟨h.events, ?_, allowedTransition_of_edge edge, codeOk, rfl⟩
    simp
  · intro before
    have earlier := unapproved_of_edge edge before
    cases accepts with
    | exactPlanApproved => exact absurd before (by simp [Unapproved])
    | _ => exact h.unapproved earlier
  · intro going
    have live : j.phase ≠ .completed := fun p => accepts.live (.inl p)
    cases accepts with
    | verificationPassedComplete => exact absurd rfl going
    | _ =>
      rw [hasCode_extend (j := j) rfl, h.uncompleted live]
      simp

end Steps

/-- The guard ids and the target a journal can be stored under. -/
structure StoreGrammar (guard : ExecutionGuardPlan) : Prop where
  guardId : isSha256Hex guard.guardId = true
  planId : isSha256Hex guard.planId = true
  baseline : isSha256Hex guard.baselineManifestDigest = true
  target : ¬(guard.target = "" ∨ guard.target.toList.any isControl)

section Runs

variable [Fingerprint]

theorem stored_new {guard : ExecutionGuardPlan} (grammar : StoreGrammar guard) :
    Stored (OperationJournal.new guard) where
  schema := rfl
  journalId := grammar.guardId
  planId := grammar.planId
  baseline := grammar.baseline
  target := grammar.target
  events := rfl
  flag := (lifecycle_new guard).flag
  approval := rfl
  execution := rfl
  boundary := rfl
  life := lifecycle_new guard
  unapproved _ := rfl
  uncompleted _ := rfl

theorem run_stored {guard : ExecutionGuardPlan} (grammar : StoreGrammar guard)
    (calls : List JournalTransition) (good : ∀ c ∈ (run guard calls).accepted, GoodCall c) :
    Stored (run guard calls).journal := by
  revert good
  refine run_invariant (P := fun s => (∀ c ∈ s.accepted, GoodCall c) → Stored s.journal)
    (fun _ => stored_new grammar) ?_ calls
  intro s t j' ih accepts good
  exact (ih fun c hc => good c (List.mem_append_left _ hc)).step accepts
    (good _ (List.mem_append_right _ (List.mem_singleton.mpr rfl)))

/-- A valid record survives the round trip through its bytes. -/
theorem decodeJournal_encodeJournal {fromSlice : FromSlice} {j : OperationJournal}
    (valid : ValidRecord j) (faithful : fromSlice (encodeJournal j) = .ok (wireOf j)) :
    decodeJournal fromSlice (encodeJournal j) j.journalId = .ok j := by
  unfold decodeJournal
  rw [faithful]
  refine check_eq_ok_iff.mpr ⟨refuse_eq_ok_iff.mpr (not_not.mpr rfl), ?_⟩
  exact check_eq_ok_iff.mpr ⟨validateJournal_eq_ok_iff.mpr valid, rfl⟩

theorem goodCall_startCalls (guard : ExecutionGuardPlan) {evidence session source native : String}
    {ids : List Nat} (hevidence : isSha256Hex evidence = true) (hsession : isSha256Hex session = true)
    (hsource : isSha256Hex source = true) (hnative : isSha256Hex native = true)
    (nonempty : ids ≠ []) (nonzero : 0 ∉ ids) (nodup : ids.Nodup) :
    ∀ c ∈ (run guard (startCalls guard evidence session source native ids)).accepted,
      GoodCall c := by
  obtain ⟨s, b, hs, -, -, -, -, -, s₀, hs₀, built, accepted⟩ := run_startCalls guard evidence
    session source native ids hsource hnative nonempty nonzero nodup
  obtain ⟨s₁, hs₁, -, -, -, -, -, -, calls⟩ := run_approvalCalls guard evidence session
  obtain rfl := hs₁.symm.trans hs₀
  rw [hs, accepted]
  intro c hc
  rcases List.mem_append.mp hc with old | new
  · have named := List.mem_map_of_mem (f := AcceptedCall.transition) old
    rw [calls] at named
    rcases c with ⟨j, t⟩
    simp only [approvalCalls, gateCalls, List.cons_append, List.nil_append, List.mem_cons,
      List.not_mem_nil, or_false] at named
    rcases named with rfl | rfl | rfl | rfl
    · trivial
    · trivial
    · trivial
    · exact ⟨hevidence, hsession⟩
  · obtain rfl := List.mem_singleton.mp new
    exact ⟨source, native, _, ids, built⟩

end Runs

/-- A reader that knows one record. -/
def readerOf (j : OperationJournal) : FromSlice := fun bytes =>
  if bytes = encodeJournal j then .ok (wireOf j) else .error "trailing characters"

theorem readerOf_encodeJournal (j : OperationJournal) :
    readerOf j (encodeJournal j) = .ok (wireOf j) := if_pos rfl

theorem sampleGuard_grammar : StoreGrammar sampleGuard where
  guardId := sampleDigest_isSha256Hex
  planId := sampleDigest_isSha256Hex
  baseline := sampleDigest_isSha256Hex
  target := by decide

section Completion

variable [Fingerprint]

/-- The terminal half of the multi-step verification: the boundary names the last
frozen step as its final one. -/
def TerminallyVerified (j : OperationJournal) (b : ExecutionStartBinding) : Prop :=
  ∃ v last, j.verifiedBoundary = some v ∧ b.mutationStepIds.getLast? = some last ∧
    v.finalStepId = some last

/-- An accepted record of several steps that is completed carries the terminal
verification if and only if its history holds a passed continuation. -/
theorem terminallyVerified_iff (j : OperationJournal) (b : ExecutionStartBinding)
    (valid : validateJournal j = .ok ()) (completed : j.phase = .completed)
    (execution : j.execution = some b) (several : 2 ≤ b.mutationStepIds.length) :
    TerminallyVerified j b ↔ hasCode j "verification-passed-continue" = true := by
  rcases validateVerifiedBoundaryBinding_eq_ok_iff.mp (validateJournal_eq_ok_iff.mp valid).boundary
    with ⟨unbound, code⟩ | ⟨v, b', hv, hb, code, facts⟩
  · refine iff_of_false ?_ (by rw [code]; decide)
    rintro ⟨v, last, hv, -⟩
    simp [unbound] at hv
  · refine iff_of_true ?_ code
    obtain rfl := Option.some.inj (hb.symm.trans execution)
    rcases facts.terminal with opened | ⟨f, d, final⟩
    · exact absurd ⟨completed, several⟩ opened.phase
    · exact ⟨v, f, hv, final.last, final.step⟩

/-- Without a boundary the validator follows the edge table alone. -/
theorem ValidRecord.moved {j : OperationJournal} (p : JournalPhase) (code detail : String)
    (h : ValidRecord j) (unbound : j.verifiedBoundary = none) (before : Started j.phase)
    (after : Started p) (edge : allowedTransition j.phase p = true) (codeOk : CodeOk code)
    (passed : code ≠ "verification-passed-continue") : ValidRecord (j.moved p code detail) := by
  have header : SameHeader j (j.moved p code detail) := ⟨rfl, rfl, rfl, rfl, rfl⟩
  refine ⟨h.schema, h.journalId, h.planId, h.baseline, h.target, ?_, ?_, ?_, ?_, ?_⟩
  · exact validateEvents_append.mpr ⟨h.events, by simp, edge, codeOk, rfl⟩
  · exact iff_of_true (h.flag.mpr before) after
  · refine validateApprovalBinding_extend header rfl rfl ?_ h.approval
    rcases after with rfl | rfl | rfl | rfl <;> simp [isApprovalEvent]
  · refine validateExecutionBinding_extend header rfl rfl rfl ?_ h.execution
    rcases before with q | q | q | q <;> simp [isExecutionEvent, q]
  · refine validateVerifiedBoundaryBinding_eq_ok_iff.mpr (.inl ⟨unbound, ?_⟩)
    rw [hasCode_extend (j := j) rfl]
    rcases validateVerifiedBoundaryBinding_eq_ok_iff.mp h.boundary with ⟨-, code⟩ | ⟨v, b, hv, -⟩
    · simp [code, passed]
    · simp [unbound] at hv

end Completion

/-- Two verified steps are completed with their terminal verification on record. -/
theorem orderedCalls_terminallyVerified_iff :
    ∃ j b, (run sampleGuard orderedCalls).journal = j ∧ b.mutationStepIds = [1, 2] ∧
      (TerminallyVerified j b ↔ hasCode j "verification-passed-continue" = true) := by
  obtain ⟨s, b, hs, phase, -, execution, ids, -, s₀, hs₀, built, accepted⟩ := run_startCalls
    sampleGuard sampleDigest sampleDigest sampleDigest sampleDigest [1, 2]
    sampleDigest_isSha256Hex sampleDigest_isSha256Hex (by decide) (by decide) (by decide)
  obtain ⟨s1, j1, h1, phase1, execution1, boundary1, -, -, calls1⟩ := run_continue hs phase
    execution (show 1 ≠ 0 by decide) (show 2 ≠ 0 by decide) (show 1 ≠ 2 by decide)
    (by rw [ids]; decide) sampleDigest_isSha256Hex
  have last : b.mutationStepIds.getLast? = some 2 := by rw [ids]; rfl
  obtain ⟨s2, j2, h2, phase2, execution2, -, calls2⟩ := run_complete h1 phase1 execution1
    boundary1 (by rw [ids]; decide) last sampleDigest_isSha256Hex rfl rfl
    (continueBoundary_integrity b 1 2 sampleDigest)
  change run sampleGuard orderedCalls = s2 at h2
  have good : ∀ c ∈ (run sampleGuard orderedCalls).accepted, GoodCall c := by
    have start := goodCall_startCalls sampleGuard sampleDigest_isSha256Hex
      sampleDigest_isSha256Hex sampleDigest_isSha256Hex sampleDigest_isSha256Hex
      (show [1, 2] ≠ [] by decide) (by decide) (by decide)
    rw [hs] at start
    rw [h2, calls2, calls1]
    intro c hc
    simp only [List.mem_append, List.mem_singleton] at hc
    rcases hc with (((old | rfl) | rfl) | rfl) | rfl
    · exact start c old
    all_goals trivial
  have stored := (run_stored sampleGuard_grammar orderedCalls good).toValidRecord
  rw [h2] at stored
  exact ⟨_, b, congrArg History.journal h2, ids, terminallyVerified_iff _ b
    (validateJournal_eq_ok_iff.mpr stored) phase2 execution2 (by rw [ids]; decide)⟩

/-- A started journal of two steps whose history was extended by hand to a
completion, with the code of the single-step completion and nothing verified. -/
def unverifiedCompletion : OperationJournal :=
  ((run sampleGuard (sampleStart [1, 2])).journal.moved .verifying "verification-started"
    "post-mutation rediscovery and verification started").moved .completed "completed"
    "final topology and expected invariants verified"

/-- The decoder takes the record although no boundary was ever verified. -/
theorem unverifiedCompletion_accepted :
    decodeJournal (readerOf unverifiedCompletion) (encodeJournal unverifiedCompletion)
        unverifiedCompletion.journalId = .ok unverifiedCompletion ∧
      unverifiedCompletion.phase = .completed ∧
      (∃ b, unverifiedCompletion.execution = some b ∧ b.mutationStepIds = [1, 2] ∧
        ¬TerminallyVerified unverifiedCompletion b) := by
  obtain ⟨s, b, hs, phase, -, execution, ids, unbound, -⟩ := run_startCalls sampleGuard
    sampleDigest sampleDigest sampleDigest sampleDigest [1, 2] sampleDigest_isSha256Hex
    sampleDigest_isSha256Hex (by decide) (by decide) (by decide)
  have good := goodCall_startCalls sampleGuard sampleDigest_isSha256Hex
    sampleDigest_isSha256Hex sampleDigest_isSha256Hex sampleDigest_isSha256Hex
    (show [1, 2] ≠ [] by decide) (by decide) (by decide)
  have started := (run_stored sampleGuard_grammar _ good).toValidRecord
  have record : unverifiedCompletion = (s.journal.moved .verifying "verification-started"
      "post-mutation rediscovery and verification started").moved .completed "completed"
      "final topology and expected invariants verified" := by
    rw [← hs]
    rfl
  rw [hs] at started
  have verifying := started.moved .verifying "verification-started"
    "post-mutation rediscovery and verification started" unbound (by rw [phase]; decide)
    (by decide) (by rw [phase]; rfl) (by unfold CodeOk; decide) (by decide)
  have completed := verifying.moved .completed "completed"
    "final topology and expected invariants verified" unbound (.inr (.inl rfl)) (by decide) rfl
    (by unfold CodeOk; decide) (by decide)
  rw [record]
  refine ⟨decodeJournal_encodeJournal completed (readerOf_encodeJournal _), rfl, b, execution, ids,
    ?_⟩
  rintro ⟨v, last, hv, -⟩
  exact absurd (unbound.symm.trans hv) (by simp)

end StorageManager.Executor.JournalStore
