import StorageManager.Planner.JournalSteps

/-!
# Runs of the journal and the lifecycle law

A run is any list of calls from a new journal, rejected calls included. The
lifecycle invariant couples the phase, the mutation flag and the event list.
-/

namespace StorageManager.Planner.ExecutionGuard

set_option autoImplicit false

open OperationJournal

/-- An accepted call and the journal it met. -/
structure AcceptedCall where
  before : OperationJournal
  transition : JournalTransition

/-- The journal after some calls, and the calls it accepted, oldest first. -/
structure History where
  accepted : List AcceptedCall
  journal : OperationJournal

section Runs

variable [Fingerprint]

def History.call (s : History) (t : JournalTransition) : History :=
  match s.journal.apply t with
  | (.ok (), j') => ⟨s.accepted ++ [⟨s.journal, t⟩], j'⟩
  | (.error _, j') => ⟨s.accepted, j'⟩

def run (guard : ExecutionGuardPlan) (calls : List JournalTransition) : History :=
  calls.foldl History.call ⟨[], new guard⟩

@[simp] theorem run_nil (guard : ExecutionGuardPlan) : run guard [] = ⟨[], new guard⟩ := rfl

theorem run_append_singleton (guard : ExecutionGuardPlan) (calls : List JournalTransition)
    (t : JournalTransition) : run guard (calls ++ [t]) = (run guard calls).call t := by
  rw [run, List.foldl_append]
  rfl

/-- A call extends the history by an accepted step or changes nothing. -/
theorem History.call_cases (s : History) (t : JournalTransition) :
    (∃ j', Accepts s.journal t j' ∧ s.call t = ⟨s.accepted ++ [⟨s.journal, t⟩], j'⟩) ∨
      s.call t = s := by
  rcases h : s.journal.apply t with ⟨_ | _, j'⟩
  · have same := apply_error h
    exact .inr (by simp only [call, h, same])
  · exact .inl ⟨j', apply_ok h, by simp only [call, h]⟩

/-- What holds of a new journal and is kept by every accepted step holds of every run. -/
theorem run_invariant {P : History → Prop} {guard : ExecutionGuardPlan}
    (start : P ⟨[], new guard⟩)
    (step : ∀ s t j', P s → Accepts s.journal t j' → P ⟨s.accepted ++ [⟨s.journal, t⟩], j'⟩)
    (calls : List JournalTransition) : P (run guard calls) := by
  induction calls using List.reverseRecOn with
  | nil => exact start
  | append_singleton calls t ih =>
    rw [run_append_singleton]
    rcases (run guard calls).call_cases t with ⟨j', accepts, eq⟩ | eq
    · rw [eq]
      exact step _ _ _ ih accepts
    · rw [eq]
      exact ih

theorem accepted_accepts {guard : ExecutionGuardPlan} {calls : List JournalTransition}
    {c : AcceptedCall} (h : c ∈ (run guard calls).accepted) :
    ∃ j', Accepts c.before c.transition j' := by
  refine run_invariant (P := fun s => ∀ c ∈ s.accepted, ∃ j', Accepts c.before c.transition j')
    (by simp) ?_ calls c h
  intro s t j' ih accepts c hc
  rcases List.mem_append.mp hc with old | new
  · exact ih c old
  · obtain rfl := List.mem_singleton.mp new
    exact ⟨j', accepts⟩

/-- Every accepted call was met by the journal of a shorter run. -/
theorem accepted_split {guard : ExecutionGuardPlan} {calls : List JournalTransition}
    {older later : List AcceptedCall} {c : AcceptedCall}
    (h : (run guard calls).accepted = older ++ c :: later) :
    ∃ prior, run guard prior = ⟨older, c.before⟩ := by
  induction calls using List.reverseRecOn generalizing later with
  | nil => simp at h
  | append_singleton calls t ih =>
    rw [run_append_singleton] at h
    rcases (run guard calls).call_cases t with ⟨j', -, eq⟩ | eq
    · rw [eq] at h
      rcases List.eq_nil_or_concat later with rfl | ⟨later, last, rfl⟩
      · obtain ⟨olds, hc⟩ := List.append_inj' h rfl
        refine ⟨calls, ?_⟩
        rw [← olds, ← (List.cons.inj hc).1]
      · rw [List.concat_eq_append, ← List.cons_append, ← List.append_assoc] at h
        exact ih (List.append_inj' h rfl).1
    · rw [eq] at h
      exact ih h

end Runs

/-- The phases of a journal whose mutation may have started. -/
def Started (p : JournalPhase) : Prop :=
  p = .executing ∨ p = .verifying ∨ p = .completed ∨ p = .recoveryRequired

instance (p : JournalPhase) : Decidable (Started p) := inferInstanceAs (Decidable (_ ∨ _ ∨ _ ∨ _))

/-- The edges of the lifecycle: one way forward through the gates to execution,
verification back to execution or to completion, and the two ways out. -/
inductive Edge : JournalPhase → JournalPhase → Prop
  | lock : Edge .planned .hostLockHeld
  | revalidate : Edge .hostLockHeld .identityRevalidated
  | verifyPreconditions : Edge .identityRevalidated .preconditionsVerified
  | approve : Edge .preconditionsVerified .approved
  | start : Edge .approved .executing
  | verify : Edge .executing .verifying
  | proceed : Edge .verifying .executing
  | complete : Edge .verifying .completed
  | abort {p : JournalPhase} (live : ¬Terminal p) (fresh : ¬Started p) : Edge p .aborted
  | recover {p : JournalPhase} (live : ¬Terminal p) (started : Started p) :
      Edge p .recoveryRequired

/-- The event written when mutating execution starts. -/
def JournalEvent.isStart (e : JournalEvent) : Bool :=
  e.source == .approved && e.target == .executing

/-- The events lead from one phase to another along the lifecycle. -/
def Chain : JournalPhase → List JournalEvent → JournalPhase → Prop
  | p, [], q => p = q
  | p, e :: es, q => e.source = p ∧ Edge e.source e.target ∧ Chain e.target es q

theorem Chain.append {p q : JournalPhase} {es : List JournalEvent} {e : JournalEvent}
    (h : Chain p es e.source) (edge : Edge e.source e.target) (ht : e.target = q) :
    Chain p (es ++ [e]) q := by
  induction es generalizing p with
  | nil => exact ⟨h.symm, edge, ht⟩
  | cons d es ih => exact ⟨h.1, h.2.1, ih h.2.2⟩

/-- The coupling of phase, flag, binding and events. -/
structure Lifecycle (j : OperationJournal) : Prop where
  chain : Chain .planned j.events j.phase
  numbered : ∀ i e, j.events[i]? = some e → e.sequence = i + 1
  flag : j.mutationMayHaveStarted = true ↔ Started j.phase
  starts : (j.events.filter JournalEvent.isStart).length =
    if j.mutationMayHaveStarted then 1 else 0
  binding : j.execution.isSome = j.mutationMayHaveStarted

theorem lifecycle_new (guard : ExecutionGuardPlan) : Lifecycle (new guard) where
  chain := rfl
  numbered := by simp [new]
  flag := by simp [new, Started]
  starts := rfl
  binding := rfl

/-- Along an edge, only the start of execution enters the started phases. -/
theorem Edge.started {p q : JournalPhase} (h : Edge p q) :
    (Started q ↔ Started p) ∨ (p = .approved ∧ q = .executing) := by
  cases h with
  | start => exact .inr ⟨rfl, rfl⟩
  | abort live fresh => exact .inl (iff_of_false (by decide) fresh)
  | recover live started => exact .inl (iff_of_true (by decide) started)
  | _ => exact .inl (by decide)

section Lifecycle

variable [Fingerprint]

theorem OperationJournal.Accepts.live {j j' : OperationJournal} {t : JournalTransition} (h : Accepts j t j') :
    ¬Terminal j.phase := by
  cases h <;> first | assumption | (simp only [Terminal, *]; decide)

/-- An accepted call appends exactly one event, from the old phase to the new one. -/
theorem OperationJournal.Accepts.appends {j j' : OperationJournal} {t : JournalTransition} (h : Accepts j t j') :
    ∃ code detail, j'.events =
      j.events ++ [⟨j.events.length + 1, j.phase, j'.phase, code, detail⟩] := by
  cases h <;> exact ⟨_, _, rfl⟩

/-- The flag is raised by the start of execution and by nothing else. -/
theorem OperationJournal.Accepts.flag {j j' : OperationJournal} {t : JournalTransition} (h : Accepts j t j') :
    (j'.mutationMayHaveStarted = j.mutationMayHaveStarted ∧
      ¬(j.phase = .approved ∧ j'.phase = .executing)) ∨
    (j.phase = .approved ∧ j'.phase = .executing ∧ j'.mutationMayHaveStarted = true) := by
  cases h with
  | executionStarted phase => exact .inr ⟨phase, rfl, rfl⟩
  | verificationPassedContinue phase =>
    exact .inl ⟨rfl, fun h => by rw [phase] at h; exact absurd h.1 (by decide)⟩
  | _ => exact .inl ⟨rfl, fun h => absurd h.2 (by simp)⟩

theorem OperationJournal.Accepts.edge {j j' : OperationJournal} {t : JournalTransition} (h : Accepts j t j')
    (flag : j.mutationMayHaveStarted = true ↔ Started j.phase) : Edge j.phase j'.phase := by
  cases h with
  | hostLockAcquired phase => rw [phase]; exact .lock
  | identityRevalidated phase => rw [phase]; exact .revalidate
  | preconditionsVerified phase => rw [phase]; exact .verifyPreconditions
  | exactPlanApproved phase => rw [phase]; exact .approve
  | executionStarted phase => rw [phase]; exact .start
  | verificationStarted phase => rw [phase]; exact .verify
  | verificationPassedContinue phase => rw [phase]; exact .proceed
  | verificationPassedComplete phase => rw [phase]; exact .complete
  | completed phase => rw [phase]; exact .complete
  | interruptedAfterStart live started =>
    refine .recover live ?_
    rcases started with raised | executing | verifying
    · exact flag.mp raised
    · exact .inl executing
    · exact .inr (.inl verifying)
  | interruptedBeforeStart live lowered =>
    exact .abort live fun started => by simp [flag.mpr started] at lowered
  | abortAfterStart live raised => exact .recover live (flag.mp raised)
  | abortBeforeStart live lowered =>
    exact .abort live fun started => by simp [flag.mpr started] at lowered

omit [Fingerprint] in
theorem Lifecycle.execution_none {j : OperationJournal} (h : Lifecycle j)
    (fresh : ¬Started j.phase) : j.execution = none := by
  have lowered : j.mutationMayHaveStarted = false := by
    rw [Bool.eq_false_iff, Ne, h.flag]
    exact fresh
  simpa [lowered] using h.binding

/-- One accepted call keeps the coupling. -/
theorem Lifecycle.step {j j' : OperationJournal} {t : JournalTransition} (h : Lifecycle j)
    (accepts : Accepts j t j') : Lifecycle j' := by
  have edge := accepts.edge h.flag
  obtain ⟨code, detail, events⟩ := accepts.appends
  refine ⟨?_, ?_, ?_, ?_, ?_⟩
  · rw [events]
    exact h.chain.append edge rfl
  · intro i e hi
    rw [events, List.getElem?_append] at hi
    split at hi
    · exact h.numbered i e hi
    · rename_i old
      obtain ⟨hlt, rfl⟩ := List.getElem?_eq_some_iff.mp hi
      simp only [List.length_cons, List.length_nil] at hlt
      simp only [List.getElem_singleton]
      omega
  · rcases accepts.flag with ⟨same, notStart⟩ | ⟨approved, executing, raised⟩
    · rw [same, h.flag]
      rcases edge.started with started | start
      · exact started.symm
      · exact absurd start notStart
    · rw [raised, executing]
      decide
  · rw [events, List.filter_append, List.length_append, h.starts]
    rcases accepts.flag with ⟨same, notStart⟩ | ⟨approved, executing, raised⟩
    · have skipped : JournalEvent.isStart ⟨j.events.length + 1, j.phase, j'.phase, code, detail⟩
          = false := by
        rw [Bool.eq_false_iff]
        simpa [JournalEvent.isStart] using notStart
      simp [List.filter, skipped, same]
    · have lowered : j.mutationMayHaveStarted = false := by
        rw [Bool.eq_false_iff, Ne, h.flag, approved]
        decide
      simp [JournalEvent.isStart, approved, executing, raised, lowered]
  · cases accepts with
    | executionStarted => rfl
    | _ => exact h.binding

theorem run_lifecycle (guard : ExecutionGuardPlan) (calls : List JournalTransition) :
    Lifecycle (run guard calls).journal :=
  run_invariant (P := fun s => Lifecycle s.journal) (lifecycle_new guard)
    (fun _ _ _ h accepts => h.step accepts) calls

end Lifecycle

end StorageManager.Planner.ExecutionGuard
