import StorageManager.Lib.Sequence
import StorageManager.Planner.JournalStart

/-!
# The lifecycle law and the order of verified steps

Two laws over all runs. The first says what an accepted and a rejected call do to
a reachable journal. The second says when the frozen mutation steps are verified
in their order: exactly when each continuation names the step that comes after the
last verified boundary, which `apply` itself does not ask.
-/

namespace StorageManager.Planner.ExecutionGuard

open OperationJournal
open Lib.Sequence

set_option autoImplicit false

section LifecycleLaw

/-- What an accepted call may do to a journal. -/
structure StepLaw (j j' : OperationJournal) : Prop where
  events : ∃ e, j'.events = j.events ++ [e] ∧ e.sequence = j.events.length + 1 ∧
    e.source = j.phase ∧ e.target = j'.phase
  edge : Edge j.phase j'.phase
  flag : j.mutationMayHaveStarted = true → j'.mutationMayHaveStarted = true

/-- What holds of a reachable journal. -/
structure StateLaw (j : OperationJournal) : Prop where
  numbered : ∀ i e, j.events[i]? = some e → e.sequence = i + 1
  started_iff : j.mutationMayHaveStarted = true ↔ ∃ e ∈ j.events, e.isStart = true
  started_once : (j.events.filter JournalEvent.isStart).length ≤ 1
  resume : j.mutationMayHaveStarted = true → j.resumeDisposition ≠ .restartFromFreshPlan

theorem Lifecycle.stateLaw {j : OperationJournal} (h : Lifecycle j) : StateLaw j where
  numbered := h.numbered
  started_iff := by
    have some_iff : (∃ e ∈ j.events, e.isStart = true) ↔
        0 < (j.events.filter JournalEvent.isStart).length := by
      rw [List.length_pos_iff_exists_mem]
      simp [List.mem_filter]
    rw [some_iff, h.starts]
    split <;> simp_all
  started_once := by
    rw [h.starts]
    split <;> omega
  resume := by
    intro raised
    rcases h.flag.mp raised with p | p | p | p <;> simp [resumeDisposition, p]

variable [Fingerprint]

/-- How a reachable journal whose execution started takes an interruption or an abort. -/
def StopsInRecovery (j : OperationJournal) (t : JournalTransition) : Prop :=
  ¬Terminal j.phase → (j.apply t).1 = .ok () ∧ (j.apply t).2.phase = .recoveryRequired

theorem apply_terminal {j : OperationJournal} (t : JournalTransition) (h : Terminal j.phase) :
    j.apply t = (.error .terminal, j) := by
  unfold apply
  rw [if_pos (by exact h)]

theorem interrupted_stops {j : OperationJournal} (raised : j.mutationMayHaveStarted = true)
    (reason : String) : StopsInRecovery j (.interrupted reason) := by
  intro live
  have eq : j.apply (.interrupted reason) =
      (.ok (), j.moved .recoveryRequired "interrupted-after-mutation-boundary" reason) := by
    unfold apply
    rw [if_neg (by exact live)]
    simp [raised]
  rw [eq]
  exact ⟨rfl, rfl⟩

theorem abort_stops {j : OperationJournal} (raised : j.mutationMayHaveStarted = true)
    (reason : String) : StopsInRecovery j (.abort reason) := by
  intro live
  have eq : j.apply (.abort reason) =
      (.ok (), j.moved .recoveryRequired "abort-after-mutation-boundary" reason) := by
    unfold apply
    rw [if_neg (by exact live)]
    simp [raised]
  rw [eq]
  exact ⟨rfl, rfl⟩

theorem Lifecycle.stepLaw {j j' : OperationJournal} {t : JournalTransition} (h : Lifecycle j)
    (accepts : Accepts j t j') : StepLaw j j' where
  events := by
    obtain ⟨code, detail, events⟩ := accepts.appends
    exact ⟨_, events, rfl, rfl, rfl⟩
  edge := accepts.edge h.flag
  flag := by
    intro raised
    rcases accepts.flag with ⟨same, -⟩ | ⟨-, -, raised'⟩
    · rw [same, raised]
    · exact raised'

/-- The law of every call on every reachable journal. -/
theorem apply_lifecycle (guard : ExecutionGuardPlan) (calls : List JournalTransition)
    (t : JournalTransition) :
    let j := (run guard calls).journal
    StateLaw j ∧
    (∀ e, (j.apply t).1 = .error e → (j.apply t).2 = j) ∧
    ((j.apply t).1 = .ok () → StepLaw j (j.apply t).2) ∧
    (Terminal j.phase → j.apply t = (.error .terminal, j)) ∧
    (j.mutationMayHaveStarted = true → ∀ reason,
      StopsInRecovery j (.interrupted reason) ∧ StopsInRecovery j (.abort reason)) := by
  intro j
  have life := run_lifecycle guard calls
  refine ⟨life.stateLaw, ?_, ?_, apply_terminal t, ?_⟩
  · intro e h
    exact apply_error (Prod.ext h rfl)
  · intro h
    exact life.stepLaw (apply_ok (Prod.ext h rfl))
  · intro raised reason
    exact ⟨interrupted_stops raised reason, abort_stops raised reason⟩

end LifecycleLaw

section VerifiedSteps

/-- The steps an accepted call records as verified. -/
def AcceptedCall.verified (c : AcceptedCall) : List Nat :=
  match c.transition with
  | .verificationPassedContinue completedStepId _ _ => [completedStepId]
  | .verificationPassedComplete completedStepId _ => [completedStepId]
  | .completed => (c.before.execution.bind fun b => b.mutationStepIds.head?).toList
  | _ => []

def verifiedSteps (accepted : List AcceptedCall) : List Nat :=
  accepted.flatMap AcceptedCall.verified

/-- The step after the last verified boundary, the first one when there is none. -/
def expectedStep (j : OperationJournal) : Option Nat :=
  match j.verifiedBoundary with
  | some v => some v.nextStepId
  | none => j.execution.bind fun b => b.mutationStepIds.head?

/-- A continuation names the step after the last verified boundary. -/
def AcceptedCall.InOrder (c : AcceptedCall) : Prop :=
  match c.transition with
  | .verificationPassedContinue completedStepId _ _ => some completedStepId = expectedStep c.before
  | _ => True

instance (c : AcceptedCall) : Decidable c.InOrder := by
  unfold AcceptedCall.InOrder
  split <;> infer_instance

theorem verifiedSteps_append (older : List AcceptedCall) (c : AcceptedCall) :
    verifiedSteps (older ++ [c]) = verifiedSteps older ++ c.verified := by
  simp [verifiedSteps]

/-- Before completion the boundary is the last verified step and its neighbour. -/
structure BoundaryLaw (s : History) : Prop where
  unbound : s.journal.execution = none → s.journal.verifiedBoundary = none
  fresh : s.journal.verifiedBoundary = none → s.journal.phase ≠ .completed →
    verifiedSteps s.accepted = []
  bound : ∀ v b, s.journal.verifiedBoundary = some v → s.journal.execution = some b →
    s.journal.phase ≠ .completed →
    Neighbours b.mutationStepIds v.completedStepId v.nextStepId ∧
      ∃ init, verifiedSteps s.accepted = init ++ [v.completedStepId]
  frozen : ∀ c ∈ s.accepted, ∀ b, c.before.execution = some b → s.journal.execution = some b

theorem boundaryLaw_new (guard : ExecutionGuardPlan) : BoundaryLaw ⟨[], new guard⟩ where
  unbound _ := rfl
  fresh _ _ := rfl
  bound := by simp [new]
  frozen := by simp

/-- A step that verifies nothing and keeps the boundary keeps the law. -/
theorem BoundaryLaw.quiet {s : History} {t : JournalTransition} {j' : OperationJournal}
    (h : BoundaryLaw s) (live : s.journal.phase ≠ .completed)
    (none_verified : AcceptedCall.verified ⟨s.journal, t⟩ = [])
    (boundary : j'.verifiedBoundary = s.journal.verifiedBoundary)
    (execution : j'.execution = s.journal.execution) :
    BoundaryLaw ⟨s.accepted ++ [⟨s.journal, t⟩], j'⟩ where
  unbound := by
    simp only [boundary, execution]
    exact h.unbound
  fresh := by
    simp only [boundary, verifiedSteps_append, none_verified, List.append_nil]
    exact fun none _ => h.fresh none live
  bound := by
    simp only [boundary, execution, verifiedSteps_append, none_verified, List.append_nil]
    exact fun v b hv hb _ => h.bound v b hv hb live
  frozen := by
    intro c hc b hb
    simp only [execution]
    rcases List.mem_append.mp hc with old | new
    · exact h.frozen c old b hb
    · obtain rfl := List.mem_singleton.mp new
      exact hb

theorem orderedPair_iff {ids : List Nat} {a b : Nat} :
    orderedPair ids a b = true ↔ Neighbours ids a b := zip_tail_any_iff ids a b

/-- The steps verified so far, when every continuation was in order. -/
structure Position (s : History) (b : ExecutionStartBinding) : Prop where
  completed : s.journal.phase = .completed → verifiedSteps s.accepted = b.mutationStepIds
  bound : s.journal.phase ≠ .completed → ∀ v, s.journal.verifiedBoundary = some v →
    ∃ rest, b.mutationStepIds = verifiedSteps s.accepted ++ v.nextStepId :: rest

/-- What is left to verify begins with the expected step. -/
theorem Position.expected {s : History} {b : ExecutionStartBinding} {step : Nat}
    (h : Position s b) (law : BoundaryLaw s) (live : s.journal.phase ≠ .completed)
    (execution : s.journal.execution = some b) (expected : some step = expectedStep s.journal) :
    ∃ rest, b.mutationStepIds = verifiedSteps s.accepted ++ step :: rest := by
  unfold expectedStep at expected
  cases boundary : s.journal.verifiedBoundary with
  | none =>
    simp only [boundary, execution, Option.bind_some] at expected
    rw [law.fresh boundary live]
    obtain ⟨rest, steps⟩ := List.head?_eq_some_iff.mp expected.symm
    exact ⟨rest, steps⟩
  | some v =>
    simp only [boundary, Option.some.injEq] at expected
    rw [expected]
    exact h.bound live v boundary

section Runs

variable [Fingerprint]

theorem BoundaryLaw.step {s : History} {t : JournalTransition} {j' : OperationJournal}
    (h : BoundaryLaw s) (life : Lifecycle s.journal) (accepts : Accepts s.journal t j') :
    BoundaryLaw ⟨s.accepted ++ [⟨s.journal, t⟩], j'⟩ := by
  have live : s.journal.phase ≠ .completed := fun p => accepts.live (.inl p)
  have frozen : s.journal.execution = j'.execution →
      ∀ c ∈ s.accepted ++ [⟨s.journal, t⟩], ∀ b, c.before.execution = some b →
        j'.execution = some b := by
    intro same c hc b hb
    rw [← same]
    rcases List.mem_append.mp hc with old | new
    · exact h.frozen c old b hb
    · obtain rfl := List.mem_singleton.mp new
      exact hb
  cases accepts with
  | executionStarted phase =>
    have none : s.journal.execution = none := life.execution_none (by rw [phase]; decide)
    have unbound := h.unbound none
    refine ⟨by simp, fun _ _ => ?_, fun v b hv => ?_, fun c hc b hb => ?_⟩
    · simpa [verifiedSteps_append, AcceptedCall.verified] using h.fresh unbound live
    · simp [unbound] at hv
    · rcases List.mem_append.mp hc with old | new
      · simpa [none] using h.frozen c old b hb
      · obtain rfl := List.mem_singleton.mp new
        simp [none] at hb
  | @verificationPassedContinue b completed next fresh detail phase execution _ _ _ pair =>
    refine ⟨fun none => by simp [execution] at none, fun none => by simp at none, ?_, frozen rfl⟩
    intro v b' hv hb' _
    obtain rfl : continueBoundary b completed next fresh = v := by simpa using hv
    obtain rfl : b = b' := by simpa [execution] using hb'
    exact ⟨orderedPair_iff.mp pair, _, verifiedSteps_append _ _⟩
  | verificationPassedComplete phase execution =>
    exact ⟨fun none => by simp [execution] at none, fun _ done => absurd rfl done,
      fun _ _ _ _ done => absurd rfl done, frozen rfl⟩
  | completed =>
    exact ⟨h.unbound, fun _ done => absurd rfl done, fun _ _ _ _ done => absurd rfl done,
      frozen rfl⟩
  | _ => exact h.quiet live rfl rfl rfl

theorem run_boundaryLaw (guard : ExecutionGuardPlan) (calls : List JournalTransition) :
    BoundaryLaw (run guard calls) :=
  (run_invariant (P := fun s => BoundaryLaw s ∧ Lifecycle s.journal)
    ⟨boundaryLaw_new guard, lifecycle_new guard⟩
    (fun _ _ _ h accepts => ⟨h.1.step h.2 accepts, h.2.step accepts⟩) calls).1

theorem Position.step {s : History} {t : JournalTransition} {j' : OperationJournal}
    {b : ExecutionStartBinding} (h : Position s b) (law : BoundaryLaw s)
    (execution : s.journal.execution = some b) (nodup : b.mutationStepIds.Nodup)
    (order : AcceptedCall.InOrder ⟨s.journal, t⟩) (accepts : Accepts s.journal t j') :
    Position ⟨s.accepted ++ [⟨s.journal, t⟩], j'⟩ b := by
  have live : s.journal.phase ≠ .completed := fun p => accepts.live (.inl p)
  have quiet (silent : AcceptedCall.verified ⟨s.journal, t⟩ = []) (going : j'.phase ≠ .completed)
      (boundary : j'.verifiedBoundary = s.journal.verifiedBoundary) :
      Position ⟨s.accepted ++ [⟨s.journal, t⟩], j'⟩ b := by
    refine ⟨fun done => absurd done going, fun _ v hv => ?_⟩
    simp only [verifiedSteps_append, silent, List.append_nil]
    exact h.bound live v (boundary ▸ hv)
  cases accepts with
  | executionStarted => exact quiet rfl (by simp) rfl
  | @verificationPassedContinue b' completed next fresh detail phase execution' _ _ _ pair =>
    obtain rfl : b' = b := by simpa [execution] using execution'.symm
    refine ⟨fun done => by simp at done, fun _ v hv => ?_⟩
    obtain rfl : continueBoundary b' completed next fresh = v := by simpa using hv
    obtain ⟨rest, steps⟩ := h.expected law live execution order
    obtain ⟨rest', rfl⟩ := (orderedPair_iff.mp pair).after nodup steps
    refine ⟨rest', ?_⟩
    simp only [verifiedSteps_append, AcceptedCall.verified, continueBoundary]
    rw [steps, List.append_assoc]
    rfl
  | @verificationPassedComplete b' v completed fresh detail phase execution' boundary _ last _ _
      next =>
    obtain rfl : b' = b := by simpa [execution] using execution'.symm
    refine ⟨fun _ => ?_, fun going => absurd rfl going⟩
    obtain ⟨rest, steps⟩ := h.bound live v boundary
    rw [next] at steps
    obtain rfl := after_last nodup steps last
    simp only [verifiedSteps_append, AcceptedCall.verified]
    exact steps.symm
  | @completed b' detail phase execution' short =>
    obtain rfl : b' = b := by simpa [execution] using execution'.symm
    refine ⟨fun _ => ?_, fun going => absurd rfl going⟩
    have unbound : s.journal.verifiedBoundary = none := by
      cases boundary : s.journal.verifiedBoundary with
      | none => rfl
      | some v =>
        have two := (law.bound v b' boundary execution live).1.length
        omega
    simp only [verifiedSteps_append, law.fresh unbound live, AcceptedCall.verified, execution,
      Option.bind_some, List.nil_append]
    rcases ids : b'.mutationStepIds with _ | ⟨step, _ | ⟨other, more⟩⟩
    · rfl
    · rfl
    · simp [ids] at short
  | _ => exact quiet rfl (by simp) rfl

/-- Continuations in order keep the verified steps a beginning of the frozen ones. -/
theorem run_position (guard : ExecutionGuardPlan) (calls : List JournalTransition) :
    (∀ c ∈ (run guard calls).accepted, c.InOrder) →
      ∀ b, (run guard calls).journal.execution = some b → b.mutationStepIds.Nodup →
        Position (run guard calls) b := by
  refine (run_invariant (P := fun s => (BoundaryLaw s ∧ Lifecycle s.journal) ∧
    ((∀ c ∈ s.accepted, c.InOrder) → ∀ b, s.journal.execution = some b →
      b.mutationStepIds.Nodup → Position s b))
    ⟨⟨boundaryLaw_new guard, lifecycle_new guard⟩, by simp [new]⟩ ?_ calls).2
  rintro s t j' ⟨⟨law, life⟩, ih⟩ accepts
  refine ⟨⟨law.step life accepts, life.step accepts⟩, fun order b execution nodup => ?_⟩
  have before : ∀ c ∈ s.accepted, c.InOrder := fun c hc => order c (List.mem_append_left _ hc)
  have this : AcceptedCall.InOrder ⟨s.journal, t⟩ :=
    order _ (List.mem_append_right _ (List.mem_singleton.mpr rfl))
  cases started : s.journal.execution with
  | some b' =>
    have same := (law.step life accepts).frozen ⟨s.journal, t⟩
      (List.mem_append_right _ (List.mem_singleton.mpr rfl)) b' started
    obtain rfl : b' = b := Option.some.inj (same.symm.trans execution)
    exact (ih before b' started nodup).step law started nodup this accepts
  | none =>
    -- Only the start of execution sets the binding, and it meets no boundary.
    have unbound := law.unbound started
    cases accepts with
    | executionStarted =>
      exact ⟨fun done => by simp at done, fun _ v hv => by simp [unbound] at hv⟩
    | _ => simp_all

/-- A continuation that verified the right step named the expected one. -/
theorem inOrder_of_verified {guard : ExecutionGuardPlan} {calls : List JournalTransition}
    {b : ExecutionStartBinding} (nodup : b.mutationStepIds.Nodup)
    (execution : (run guard calls).journal.execution = some b)
    (verified : verifiedSteps (run guard calls).accepted = b.mutationStepIds) :
    ∀ c ∈ (run guard calls).accepted, c.InOrder := by
  intro c hc
  obtain ⟨older, later, split⟩ := List.append_of_mem hc
  obtain ⟨prior, hprior⟩ := accepted_split split
  have law := run_boundaryLaw guard prior
  have frozen := (run_boundaryLaw guard calls).frozen c hc
  obtain ⟨j', accepts⟩ := accepted_accepts hc
  rw [split, verifiedSteps, List.flatMap_append, List.flatMap_cons] at verified
  rw [hprior] at law
  rcases c with ⟨j, t⟩
  cases accepts with
  | @verificationPassedContinue b' completed next fresh detail phase executing =>
    have live : j.phase ≠ .completed := by rw [phase]; decide
    obtain rfl : b = b' := by simpa [execution] using frozen b' executing
    change some completed = expectedStep j
    unfold expectedStep
    cases boundary : j.verifiedBoundary with
    | none =>
      have nothing : verifiedSteps older = [] := law.fresh boundary live
      rw [verifiedSteps] at nothing
      rw [nothing] at verified
      have head : j.execution = some b := executing
      rw [head, Option.bind_some, ← verified]
      rfl
    | some v =>
      obtain ⟨pair, init, upTo⟩ := law.bound v b boundary executing live
      simp only [verifiedSteps] at upTo
      rw [upTo, List.append_assoc] at verified
      obtain ⟨rest, next⟩ := pair.after nodup verified.symm
      exact congrArg some (List.cons.inj next).1
  | _ => trivial

/-- In a run that reaches completion the verified steps are the frozen steps, in
their order and each once, if and only if every continuation named the step after
the last verified boundary. -/
theorem verifiedSteps_eq_iff (guard : ExecutionGuardPlan) (calls : List JournalTransition)
    (b : ExecutionStartBinding) (completed : (run guard calls).journal.phase = .completed)
    (execution : (run guard calls).journal.execution = some b)
    (nodup : b.mutationStepIds.Nodup) :
    verifiedSteps (run guard calls).accepted = b.mutationStepIds ↔
      ∀ c ∈ (run guard calls).accepted, c.InOrder :=
  ⟨inOrder_of_verified nodup execution,
    fun order => (run_position guard calls order b execution nodup).completed completed⟩

end Runs

/-- Both steps verified, one after the other. -/
def orderedCalls : List JournalTransition :=
  sampleStart [1, 2] ++ [.verificationStarted] ++ [.verificationPassedContinue 1 2 sampleDigest]
    ++ [.verificationStarted] ++ [.verificationPassedComplete 2 sampleDigest]

theorem orderedCalls_verified_iff :
    ∃ b, (run sampleGuard orderedCalls).journal.execution = some b ∧ b.mutationStepIds = [1, 2] ∧
      (verifiedSteps (run sampleGuard orderedCalls).accepted = b.mutationStepIds ↔
        ∀ c ∈ (run sampleGuard orderedCalls).accepted, c.InOrder) := by
  obtain ⟨s, b, hs, phase, -, execution, ids, -, -⟩ := run_startCalls sampleGuard sampleDigest
    sampleDigest sampleDigest sampleDigest [1, 2] sampleDigest_isSha256Hex
    sampleDigest_isSha256Hex (by decide) (by decide) (by decide)
  obtain ⟨s1, j1, h1, phase1, execution1, boundary1, -⟩ := run_continue
    hs phase execution (show 1 ≠ 0 by decide) (show 2 ≠ 0 by decide) (show 1 ≠ 2 by decide)
    (by rw [ids]; decide) sampleDigest_isSha256Hex
  have last : b.mutationStepIds.getLast? = some 2 := by rw [ids]; rfl
  obtain ⟨s2, j2, h2, phase2, execution2, -⟩ := run_complete h1 phase1 execution1 boundary1
    (by rw [ids]; decide) last sampleDigest_isSha256Hex rfl rfl
    (continueBoundary_integrity b 1 2 sampleDigest)
  change run sampleGuard orderedCalls = s2 at h2
  rw [← h2] at phase2 execution2
  exact ⟨b, execution2, ids, verifiedSteps_eq_iff sampleGuard orderedCalls b phase2 execution2
    (by rw [ids]; decide)⟩

/-- Verification passes for step 2 of three while step 1 was never verified. -/
def skippingCalls : List JournalTransition :=
  sampleStart [1, 2, 3] ++ [.verificationStarted]
    ++ [.verificationPassedContinue 2 3 sampleDigest]
    ++ [.verificationStarted] ++ [.verificationPassedComplete 3 sampleDigest]

/-- `apply` accepts the run all the same: it completes with step 1 unverified. -/
theorem skippingCalls_complete :
    (run sampleGuard skippingCalls).journal.phase = .completed ∧
      (∃ b, (run sampleGuard skippingCalls).journal.execution = some b ∧
        b.mutationStepIds = [1, 2, 3]) ∧
      verifiedSteps (run sampleGuard skippingCalls).accepted = [2, 3] := by
  obtain ⟨s, b, hs, phase, -, execution, ids, unbound, -⟩ := run_startCalls sampleGuard
    sampleDigest sampleDigest sampleDigest sampleDigest [1, 2, 3] sampleDigest_isSha256Hex
    sampleDigest_isSha256Hex (by decide) (by decide) (by decide)
  obtain ⟨s1, j1, h1, phase1, execution1, boundary1, -, -, calls1⟩ := run_continue
    hs phase execution (show 2 ≠ 0 by decide) (show 3 ≠ 0 by decide) (show 2 ≠ 3 by decide)
    (by rw [ids]; decide) sampleDigest_isSha256Hex
  have last : b.mutationStepIds.getLast? = some 3 := by rw [ids]; rfl
  obtain ⟨s2, j2, h2, phase2, execution2, -, calls2⟩ := run_complete h1 phase1 execution1
    boundary1 (by rw [ids]; decide) last sampleDigest_isSha256Hex rfl rfl
    (continueBoundary_integrity b 2 3 sampleDigest)
  change run sampleGuard skippingCalls = s2 at h2
  have none_yet : verifiedSteps s.accepted = [] := by
    have law := run_boundaryLaw sampleGuard (sampleStart [1, 2, 3])
    have hs' : run sampleGuard (sampleStart [1, 2, 3]) = s := hs
    rw [hs'] at law
    exact law.fresh unbound (by rw [phase]; decide)
  rw [h2]
  refine ⟨phase2, ⟨b, execution2, ids⟩, ?_⟩
  simp only [calls2, calls1, verifiedSteps_append, none_yet]
  rfl

end VerifiedSteps

end StorageManager.Planner.ExecutionGuard
