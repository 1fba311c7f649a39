import StorageManager.Executor.ProductionVerified

/-!
# Runs of a production execution

A session is driven by preparing and executing steps, in any order and with any arguments, as
long as the store does not fail. However it is driven, the steps of one binding are spawned in
their order and each at most once, and each after the one before it was verified.
-/

namespace StorageManager.Executor

open JournalStore
open Lib.Checks
open Lib.Effects
open Planner
open Planner.ExecutionGuard
open PrivilegedContinue

set_option autoImplicit false

namespace ProductionStep

section Preparations

variable {τ : Type} [Fingerprint] {fromSlice : FromSlice} {s t : St (growth τ)}
  {session : LockedExecutionSession}

def ProductionMutationPreparationError.StoreFailed : ProductionMutationPreparationError → Prop
  | .session source => OfStore source
  | .firstStart (.session source) => OfStore source
  | .continuationStart (.session source) => OfStore source
  | _ => False

omit [Fingerprint] in
theorem keeps_resolve (command : PrivilegedCommandSpec) :
    Proc.Keeps Looked (resolvePrivilegedCommandTools command : PrepareProc τ _) :=
  (keeps_growthAsk fun _ h => by cases h).bind fun _ => .lift _

theorem keeps_compile (request : PrivilegedHelperRequest) (identity : TargetIdentityManifest) :
    Proc.Keeps Looked (compilePreparedInvocation request identity : PrepareProc τ _) := by
  unfold compilePreparedInvocation
  apply (Proc.Keeps.lift _).bind
  intro command
  apply (keeps_resolve command).bind
  intro tools
  exact (Proc.Keeps.lift _).bind fun prepared => .pure _

theorem keeps_launchPrepared (request : PrivilegedHelperRequest) (command : PrivilegedCommandSpec)
    (prepared : PreparedPrivilegedInvocation)
    (authorize : PrivilegedToolResolution →
      Except PrivilegedSpawnAuthorizationError PrivilegedSpawnAuthorization)
    (sealPermit : PrivilegedSpawnAuthorization → PrivilegedDescriptorLaunchSpec →
      Except PrivilegedLaunchPermitError PrivilegedLaunchPermit)
    (activation : ProductionMutationActivationIntent)
    (consent : ProductionMutationConsentReceipt) :
    Proc.Keeps Looked (launchPrepared request command prepared authorize sealPermit activation
      consent : PrepareProc τ _) := by
  have hpin : ∀ authorization, Proc.Keeps Looked
      (pinPrivilegedToolsForSpawn authorization command : PrepareProc τ _) := by
    intro authorization
    unfold pinPrivilegedToolsForSpawn
    apply (keeps_resolve command).bind
    intro tools
    apply (Proc.Keeps.lift _).bind
    intro _
    exact (keeps_growthAsk fun _ h => by cases h).bind fun files => .lift _
  unfold launchPrepared
  apply (keeps_resolve command).bind
  intro freshTools
  apply (Proc.Keeps.lift _).bind
  intro authorization
  apply (hpin authorization).bind
  intro pinned
  apply (keeps_growthAsk fun _ h => by cases h).bind
  intro files
  apply (Proc.Keeps.lift _).bind
  intro launch
  apply (Proc.Keeps.lift _).bind
  intro permit
  exact (Proc.Keeps.lift _).bind fun productionPermit => .pure _

/-- The first step is prepared behind the start of its execution. What fails before leaves the
session as it was, and what fails after it stops the execution. -/
theorem prepareFirst_holds (validated : ValidatedNativeManifest) (execution : ExecutionStartBinding)
    (identity : TargetIdentityManifest) (activation : ProductionMutationActivationIntent)
    (consent : ProductionMutationConsentReceipt) :
    (prepareFirstProductionMutationStep fromSlice validated execution identity activation
        consent : PrepareProc τ _).Holds session s
      (fun _ after t => Unspawned s t ∧
        applyToCopy session.journal (.executionStarted execution) = .ok after.journal ∧
        Shown fromSlice t.world after.journal)
      (fun e after t => Unspawned s t ∧ (after = session ∨ ∃ j,
        applyToCopy session.journal (.executionStarted execution) = .ok j ∧
        Stopped fromSlice e.StoreFailed { session with journal := j } after t.world))
      (Unspawned s) := by
  have hsame := refl_of Unspawned s
  unfold prepareFirstProductionMutationStep persistPreparedPrivilegedExecutionStart
  refine Proc.holds_bind.mpr (Proc.holds_lift.mpr ⟨fun request _ => ?_,
    fun _ _ => ⟨hsame, .inl rfl⟩⟩)
  refine Proc.holds_bind.mpr ((keeps_compile request identity session s).mono ?_
    (fun _ _ _ h => ⟨h.2.2, .inl h.1⟩) fun _ h => h.2)
  intro compiled after t h
  obtain ⟨rfl, hlooked⟩ := h
  refine Proc.holds_bind.mpr (Proc.holds_bind.mpr (Proc.holds_get.mpr (Proc.holds_bind.mpr
    (Proc.holds_lift.mpr ⟨fun firstStep _ => ?_, fun _ _ => ⟨hlooked.2, .inl rfl⟩⟩))))
  refine Proc.holds_bind.mpr (Proc.holds_mapError.mpr (Proc.Holds.mono (onJournal_holds
    (fun _ last d => ∃ j, applyToCopy after.journal (.executionStarted execution) = .ok j ∧
      last = { after with journal := j } ∧ Shown fromSlice d j)
    (fun _ last _ => last = after) fun v _ => (persistTransition_moves _).mono ?_
      (fun _ _ _ h => h.1) fun _ h => h) ?_ ?_ ?_))
  · intro _ last u h
    obtain ⟨j, hj, hlast, -, -, hshown⟩ := h
    exact ⟨j, hj, hlast, hshown⟩
  · intro _ last u h
    obtain ⟨⟨j, hj, rfl, hshown⟩, hmore⟩ := h
    have hunspawned : Unspawned s u := hlooked.2.trans hmore
    refine Proc.holds_bind.mpr (Proc.holds_get.mpr (Proc.holds_pure.mpr ?_))
    refine Proc.Holds.mono (orInterrupt_holds ProductionMutationPreparationError.StoreFailed
      (Unspawned s) (fun _ last v => Unspawned s v ∧ last = { after with journal := j } ∧
        v.world = u.world) (fun _ h => h) (fun h hmore => trans_of Unspawned h hmore)
      ((keeps_launchPrepared request compiled.1 compiled.2 _ _ activation consent
        { after with journal := j } u).mono ?_ ?_ ?_)) ?_ ?_ fun _ h => h
    · exact fun _ _ v h => ⟨hunspawned.trans h.2.2, h.1, h.2.1⟩
    · exact fun _ _ v h => ⟨h.1, hunspawned.trans h.2.2⟩
    · exact fun v h => hunspawned.trans h.2
    · intro _ last v h
      obtain ⟨hv, rfl, hworld⟩ := h
      refine ⟨hv, hj, ?_⟩
      rw [hworld]
      exact hshown
    · exact fun e last v h => ⟨h.1, .inr ⟨j, hj, h.2⟩⟩
  · exact fun e last u h => ⟨hlooked.2.trans h.2, .inl h.1⟩
  · exact fun u h => hlooked.2.trans h

theorem keeps_requireCurrent {ε : Type} (f : LockedSessionError → ε) : Proc.Keeps Unspawned
    ((onJournal (requireCurrentDurableJournal fromSlice)).mapError f : GrowthProc τ ε Unit) := by
  intro session s
  refine Proc.holds_mapError.mpr (requireCurrent_holds.mono ?_ ?_ fun _ h => h)
  · exact fun _ _ _ h => ⟨h.1, h.2.1.2⟩
  · exact fun _ _ _ h => ⟨h.1, h.2.2.2⟩

/-- The continuation is prepared without a change, or the execution stops. -/
theorem prepareContinuation_holds (validated : ValidatedNativeManifest)
    (identity : TargetIdentityManifest) (activation : ProductionMutationActivationIntent)
    (consent : ProductionMutationConsentReceipt) :
    (prepareContinuationProductionMutationStep fromSlice validated identity activation
        consent : PrepareProc τ _).Holds session s
      (fun _ after t => Unspawned s t ∧ after = session)
      (fun e after t => Unspawned s t ∧ Stopped fromSlice e.StoreFailed session after t.world)
      (Unspawned s) := by
  unfold prepareContinuationProductionMutationStep
  refine orInterrupt_holds ProductionMutationPreparationError.StoreFailed (Unspawned s)
    (fun _ after t => Unspawned s t ∧ after = session) (fun _ h => h)
    (fun h hmore => trans_of Unspawned h hmore) ?_
  have hkeeps : ∀ {α : Type} {p : PrepareProc τ α}, Proc.Keeps Looked p → Proc.Keeps Unspawned p :=
    fun hp => hp.mono fun _ _ h => h.2
  refine (Proc.Keeps.bind (R := Unspawned) .get (fun held => Proc.Keeps.bind (.lift _)
    fun request => ?_) session s).mono (fun _ _ _ h => ⟨h.2, h.1⟩) (fun _ _ _ h => h) fun _ h => h
  apply (hkeeps (keeps_compile request identity)).bind
  intro compiled
  apply Proc.Keeps.bind
  · unfold bindPreparedPrivilegedContinuation
    exact (keeps_requireCurrent _).bind fun _ => Proc.Keeps.get.bind fun held => .lift _
  intro start
  exact hkeeps (keeps_launchPrepared request compiled.1 compiled.2 _ _ activation consent)

end Preparations

section Calls

variable {τ : Type}

/-- What a caller can ask of a session. -/
inductive GrowthCall (τ : Type) where
  | prepareFirst (validated : ValidatedNativeManifest) (execution : ExecutionStartBinding)
      (identity : TargetIdentityManifest) (activation : ProductionMutationActivationIntent)
      (consent : ProductionMutationConsentReceipt)
  | prepareContinuation (validated : ValidatedNativeManifest) (identity : TargetIdentityManifest)
      (activation : ProductionMutationActivationIntent) (consent : ProductionMutationConsentReceipt)
  | execute (chain : ProductionDescriptorExecutionChain τ) (beforeIdentity : TargetIdentityManifest)

inductive GrowthError where
  | preparation (source : ProductionMutationPreparationError)
  | step (source : ProductionVerifiedMutationStepError)

def GrowthError.StoreFailed : GrowthError → Prop
  | .preparation source => source.StoreFailed
  | .step source => source.StoreFailed

/-- The step that was closed, where one was executed. -/
def GrowthCall.perform [Fingerprint] (fromSlice : FromSlice) (reader : ConsentReader) :
    GrowthCall τ → GrowthProc τ GrowthError (Option ProductionVerifiedMutationStep)
  | .prepareFirst validated execution identity activation consent => do
    let _ ← (prepareFirstProductionMutationStep fromSlice validated execution identity activation
      consent).mapError .preparation
    pure none
  | .prepareContinuation validated identity activation consent => do
    let _ ← (prepareContinuationProductionMutationStep fromSlice validated identity activation
      consent).mapError .preparation
    pure none
  | .execute chain beforeIdentity => do
    let step ← (executeVerifyAndPersistProductionStep fromSlice reader chain
      beforeIdentity).mapError .step
    pure (some step)

/-- A call, what it returned and the states around it. -/
structure MadeCall (τ : Type) where
  call : GrowthCall τ
  result : Except GrowthError (Option ProductionVerifiedMutationStep)
  before : St (growth τ)
  after : St (growth τ)

namespace MadeCall

def planStepId (c : MadeCall τ) : Option Nat :=
  match c.call with
  | .execute chain _ => some chain.request.planStepId
  | _ => none

/-- The call has spawned a process. -/
def spawns (c : MadeCall τ) : Bool :=
  decide ((processes c.after.log).length ≠ (processes c.before.log).length)

def StoreFailed (c : MadeCall τ) : Prop := ∃ e, c.result = .error e ∧ e.StoreFailed

def Verified (c : MadeCall τ) : Prop := ∃ step, c.result = .ok (some step)

/-- Each process of the call met a durable record that executes this binding. -/
def Met (fromSlice : FromSlice) [Fingerprint] (b : ExecutionStartBinding) (c : MadeCall τ) : Prop :=
  ∃ j, j.phase = .executing ∧ j.execution = some b ∧
    Grew (fun e => IsSpawn e → Shown fromSlice e.before j) c.before c.after

end MadeCall

/-- The calls that have spawned a process. -/
def spawners (calls : List (MadeCall τ)) : List (MadeCall τ) := calls.filter (·.spawns)

/-- A session on which these calls were made. Between them the store may change as it likes, but
once it has failed no call follows. -/
inductive Driven [Fingerprint] (fromSlice : FromSlice) (reader : ConsentReader)
    (session : LockedExecutionSession) : List (MadeCall τ) → LockedExecutionSession → Prop
  | start : Driven fromSlice reader session [] session
  | call {calls : List (MadeCall τ)} {middle after : LockedExecutionSession}
      (before : Driven fromSlice reader session calls middle)
      (goesOn : ∀ c ∈ calls, ¬c.StoreFailed) (c : MadeCall τ)
      (now : Proc.Can (c.call.perform fromSlice reader) middle c.before c.result after c.after) :
      Driven fromSlice reader session (calls ++ [c]) after

variable [Fingerprint] {fromSlice : FromSlice} {reader : ConsentReader}

/-- These calls have spawned the steps of the binding in their order, each once, and each but the
last of them was verified. -/
structure InOrder (fromSlice : FromSlice) (b : ExecutionStartBinding) (cs : List (MadeCall τ)) :
    Prop where
  steps : cs.filterMap (·.planStepId) <+: b.mutationStepIds
  once : (cs.filterMap (·.planStepId)).Nodup
  verified : ∀ c ∈ cs.dropLast, c.Verified
  met : ∀ c ∈ cs, c.Met fromSlice b

/-- Where the journal of a session stands after these calls have spawned. -/
inductive Tracks (fromSlice : FromSlice) (cs : List (MadeCall τ)) (j : OperationJournal) : Prop
  | approved (phase : j.phase = .approved) (fresh : j.verifiedBoundary = none) (none : cs = [])
  | executing (b : ExecutionStartBinding) (n : Nat) (digest : String)
      (progress : Progress b n digest j)
      (steps : cs.filterMap (·.planStepId) = b.mutationStepIds.take n)
      (verified : ∀ c ∈ cs, c.Verified) (met : ∀ c ∈ cs, c.Met fromSlice b)
  | halted (phase : j.phase ≠ .executing ∧ j.phase ≠ .approved)
      (order : cs = [] ∨ ∃ b, InOrder fromSlice b cs)

theorem Tracks.order {cs : List (MadeCall τ)} {j : OperationJournal} (h : Tracks fromSlice cs j) :
    cs = [] ∨ ∃ b, InOrder fromSlice b cs := by
  cases h with
  | approved _ _ none => exact .inl none
  | executing b n digest progress steps verified met =>
    refine .inr ⟨b, ⟨?_, ?_, fun c hc => verified c (List.dropLast_subset _ hc), met⟩⟩
    · rw [steps]
      exact List.take_prefix _ _
    · rw [steps]
      exact progress.distinct
  | halted _ order => exact order

omit [Fingerprint] in
theorem spawners_append {calls : List (MadeCall τ)} {c : MadeCall τ} :
    spawners (calls ++ [c]) = spawners calls ++ if c.spawns then [c] else [] := by
  unfold spawners
  rw [List.filter_append]
  cases h : c.spawns <;> simp [h]

omit [Fingerprint] in
theorem MadeCall.spawns_iff {c : MadeCall τ} :
    c.spawns = false ↔ (processes c.after.log).length = (processes c.before.log).length := by
  unfold MadeCall.spawns
  rw [decide_eq_false_iff_not, not_not]

/-- The next step is spawned. -/
theorem InOrder.next {b : ExecutionStartBinding} {n : Nat} {digest : String}
    {j : OperationJournal} {cs : List (MadeCall τ)} {c : MadeCall τ} {k : Nat}
    (progress : Progress b n digest j)
    (steps : cs.filterMap (·.planStepId) = b.mutationStepIds.take n)
    (verified : ∀ c ∈ cs, c.Verified) (met : ∀ c ∈ cs, c.Met fromSlice b)
    (hstep : b.mutationStepIds[n]? = some k) (hdistinct : (b.mutationStepIds.take (n + 1)).Nodup)
    (hcall : c.planStepId = some k)
    (hgrew : Grew (fun e => IsSpawn e → Shown fromSlice e.before j) c.before c.after) :
    (cs ++ [c]).filterMap (·.planStepId) = b.mutationStepIds.take (n + 1) ∧
      InOrder fromSlice b (cs ++ [c]) := by
  obtain ⟨hlt, hget⟩ := List.getElem?_eq_some_iff.mp hstep
  have hsteps : (cs ++ [c]).filterMap (·.planStepId) = b.mutationStepIds.take (n + 1) := by
    rw [List.filterMap_append, steps, List.take_succ_eq_append_getElem hlt, hget]
    simp [hcall]
  refine ⟨hsteps, ?_, ?_, ?_, ?_⟩
  · rw [hsteps]
    exact List.take_prefix _ _
  · rw [hsteps]
    exact hdistinct
  · rw [List.dropLast_concat]
    exact verified
  · intro c' hc'
    rcases List.mem_append.mp hc' with hold | hnew
    · exact met c' hold
    · rw [List.mem_singleton.mp hnew]
      exact ⟨j, progress.phase, progress.execution, hgrew⟩

end Calls

section Runs

variable {τ : Type} [Fingerprint] {fromSlice : FromSlice} {reader : ConsentReader}
  {session middle after : LockedExecutionSession} {s t : St (growth τ)} {cs : List (MadeCall τ)}

/-- What a call leaves, unless the store has failed in it. -/
def Leaves (fromSlice : FromSlice) (cs : List (MadeCall τ)) (c : MadeCall τ)
    (after : LockedExecutionSession) : Prop :=
  (¬c.StoreFailed → Tracks fromSlice (cs ++ if c.spawns then [c] else []) after.journal) ∧
    ((cs ++ if c.spawns then [c] else []) = [] ∨
      ∃ b, InOrder fromSlice b (cs ++ if c.spawns then [c] else []))

/-- A call that spawns nothing. -/
theorem Leaves.of_unspawned {c : MadeCall τ} (htracks : Tracks fromSlice cs middle.journal)
    (hquiet : processes c.after.log = processes c.before.log)
    (h : ¬c.StoreFailed → Tracks fromSlice cs after.journal) : Leaves fromSlice cs c after := by
  unfold Leaves
  rw [MadeCall.spawns_iff.mpr (congrArg _ hquiet), if_neg Bool.false_ne_true, List.append_nil]
  exact ⟨h, htracks.order⟩

theorem Tracks.stopped {P : Prop} {d : Lib.Directory.Dir} (htracks : Tracks fromSlice cs middle.journal)
    (h : Stopped fromSlice P middle after d) (hstore : ¬P) : Tracks fromSlice cs after.journal :=
  .halted (h.halts hstore) htracks.order

theorem started_approved {b : ExecutionStartBinding} {j k : OperationJournal}
    (h : applyToCopy j (.executionStarted b) = .ok k) : j.phase = .approved := by
  cases applyToCopy_accepts h with
  | executionStarted hphase => exact hphase

theorem Tracks.prepareFirst (htracks : Tracks fromSlice cs middle.journal)
    {validated : ValidatedNativeManifest} {execution : ExecutionStartBinding}
    {identity : TargetIdentityManifest} {activation : ProductionMutationActivationIntent}
    {consent : ProductionMutationConsentReceipt} {c : MadeCall τ}
    (hcall : c.call = .prepareFirst validated execution identity activation consent)
    (hcan : Proc.Can (c.call.perform fromSlice reader) middle c.before c.result after c.after) :
    Leaves fromSlice cs c after := by
  rw [hcall] at hcan
  have hholds : ((GrowthCall.prepareFirst validated execution identity activation consent :
      GrowthCall τ).perform fromSlice reader).Holds middle c.before
      (fun _ after t => Unspawned c.before t ∧
        applyToCopy middle.journal (.executionStarted execution) = .ok after.journal)
      (fun e after t => Unspawned c.before t ∧ (after = middle ∨ ∃ j,
        applyToCopy middle.journal (.executionStarted execution) = .ok j ∧
        Stopped fromSlice e.StoreFailed { middle with journal := j } after t.world))
      (Unspawned c.before) :=
    Proc.holds_bind.mpr (Proc.holds_mapError.mpr ((prepareFirst_holds validated execution identity
      activation consent).mono (fun _ _ _ h => ⟨h.1, h.2.1⟩) (fun _ _ _ h => h) fun _ h => h))
  have hstart : ∀ {j}, applyToCopy middle.journal (.executionStarted execution) = .ok j →
      Tracks fromSlice cs j := by
    intro j hj
    have happroved := started_approved hj
    cases htracks with
    | approved _ fresh none =>
      rw [none]
      exact .executing execution 0 execution.freshIdentityDigest (.of_started hj fresh) rfl
        (fun _ h => absurd h List.not_mem_nil) (fun _ h => absurd h List.not_mem_nil)
    | executing b n digest progress => cases progress.phase.symm.trans happroved
    | halted phase => exact absurd happroved phase.2
  cases hresult : c.result with
  | ok value =>
    rw [hresult] at hcan
    obtain ⟨hquiet, hstarted⟩ := hcan.holds_ok hholds
    exact .of_unspawned htracks hquiet.processes fun _ => hstart hstarted
  | error e =>
    rw [hresult] at hcan
    obtain ⟨hquiet, rfl | ⟨j, hstarted, hstopped⟩⟩ := hcan.holds_error hholds
    · exact .of_unspawned htracks hquiet.processes fun _ => htracks
    · refine .of_unspawned htracks hquiet.processes fun hstore => ?_
      have hj : Tracks fromSlice cs (LockedExecutionSession.journal { middle with journal := j }) :=
        hstart hstarted
      exact hj.stopped hstopped fun hfailed => hstore ⟨e, hresult, hfailed⟩

theorem Tracks.prepareContinuation (htracks : Tracks fromSlice cs middle.journal)
    {validated : ValidatedNativeManifest} {identity : TargetIdentityManifest}
    {activation : ProductionMutationActivationIntent} {consent : ProductionMutationConsentReceipt}
    {c : MadeCall τ} (hcall : c.call = .prepareContinuation validated identity activation consent)
    (hcan : Proc.Can (c.call.perform fromSlice reader) middle c.before c.result after c.after) :
    Leaves fromSlice cs c after := by
  rw [hcall] at hcan
  have hholds : ((GrowthCall.prepareContinuation validated identity activation consent :
      GrowthCall τ).perform fromSlice reader).Holds middle c.before
      (fun _ after t => Unspawned c.before t ∧ after = middle)
      (fun e after t => Unspawned c.before t ∧
        Stopped fromSlice e.StoreFailed middle after t.world) (Unspawned c.before) :=
    Proc.holds_bind.mpr (Proc.holds_mapError.mpr ((prepareContinuation_holds validated identity
      activation consent).mono (fun _ _ _ h => h) (fun _ _ _ h => h) fun _ h => h))
  cases hresult : c.result with
  | ok value =>
    rw [hresult] at hcan
    obtain ⟨hquiet, rfl⟩ := hcan.holds_ok hholds
    exact .of_unspawned htracks hquiet.processes fun _ => htracks
  | error e =>
    rw [hresult] at hcan
    obtain ⟨hquiet, hstopped⟩ := hcan.holds_error hholds
    exact .of_unspawned htracks hquiet.processes fun hstore =>
      htracks.stopped hstopped fun hfailed => hstore ⟨e, hresult, hfailed⟩

/-- What one executed step leaves, where the journal stands before a step if it executes. -/
theorem execute_perform {b : ExecutionStartBinding} {n : Nat} {digest : String}
    (hprogress : middle.journal.phase = .executing → Progress b n digest middle.journal)
    (chain : ProductionDescriptorExecutionChain τ) (beforeIdentity : TargetIdentityManifest) :
    ((GrowthCall.execute chain beforeIdentity).perform fromSlice reader).Holds middle s
      (fun value after t => SpawnLaw fromSlice reader middle.journal chain s t ∧
        Gated reader middle.journal chain s t ∧ ∃ step, value = some step ∧
          Verified fromSlice b n digest middle chain beforeIdentity step after s t)
      (fun e after t => SpawnLaw fromSlice reader middle.journal chain s t ∧
        Fails fromSlice b e.StoreFailed middle after t.world)
      fun _ => True := by
  refine Proc.holds_bind.mpr (Proc.holds_mapError.mpr (((step_spawns middle s beforeIdentity).and
    (verifiedStep_holds hprogress beforeIdentity)).mono ?_ (fun _ _ _ h => h) fun _ _ => trivial))
  intro step after t h
  exact Proc.holds_pure.mpr ⟨h.1, h.2.1, step, rfl, h.2.2⟩

/-- A journal that does not execute lets nothing be spawned. -/
theorem Tracks.execute_idle (htracks : Tracks fromSlice cs middle.journal)
    (hidle : middle.journal.phase ≠ .executing) {chain : ProductionDescriptorExecutionChain τ}
    {beforeIdentity : TargetIdentityManifest} {c : MadeCall τ}
    (hcall : c.call = .execute chain beforeIdentity)
    (hcan : Proc.Can (c.call.perform fromSlice reader) middle c.before c.result after c.after) :
    Leaves fromSlice cs c after := by
  rw [hcall] at hcan
  obtain ⟨b⟩ : Nonempty ExecutionStartBinding := ⟨⟨1, "", "", "", "", "", "", "", [], ""⟩⟩
  have hholds := @execute_perform τ _ fromSlice reader middle c.before b 0 ""
    (fun h => absurd h hidle) chain beforeIdentity
  cases hresult : c.result with
  | ok value =>
    rw [hresult] at hcan
    exact absurd (hcan.holds_ok hholds).2.1.executing hidle
  | error e =>
    rw [hresult] at hcan
    obtain ⟨hlaw, hfails⟩ := hcan.holds_error hholds
    rcases hlaw.gated with hnone | hgated
    · exact .of_unspawned htracks hnone fun hstore =>
        .halted (hfails.halts fun hfailed => hstore ⟨e, hresult, hfailed⟩) htracks.order
    · exact absurd hgated.executing hidle

/-- A journal that stands before its next step lets that step be spawned. -/
theorem Tracks.execute_next {b : ExecutionStartBinding} {n : Nat} {digest : String}
    (progress : Progress b n digest middle.journal)
    (steps : cs.filterMap (·.planStepId) = b.mutationStepIds.take n)
    (verified : ∀ c ∈ cs, c.Verified) (met : ∀ c ∈ cs, c.Met fromSlice b)
    {chain : ProductionDescriptorExecutionChain τ} {beforeIdentity : TargetIdentityManifest}
    {c : MadeCall τ} (hcall : c.call = .execute chain beforeIdentity)
    (hcan : Proc.Can (c.call.perform fromSlice reader) middle c.before c.result after c.after) :
    Leaves fromSlice cs c after := by
  have htracks : Tracks fromSlice cs middle.journal :=
    .executing b n digest progress steps verified met
  have hid : c.planStepId = some chain.request.planStepId := by
    unfold MadeCall.planStepId
    rw [hcall]
  rw [hcall] at hcan
  have hholds := @execute_perform τ _ fromSlice reader middle c.before b n digest
    (fun _ => progress) chain beforeIdentity
  have hspawned : SpawnLaw fromSlice reader middle.journal chain c.before c.after →
      Gated reader middle.journal chain c.before c.after →
      (cs ++ [c]).filterMap (·.planStepId) = b.mutationStepIds.take (n + 1) ∧
        InOrder fromSlice b (cs ++ [c]) := by
    intro hlaw hgated
    obtain ⟨hstep, hdistinct, -⟩ := hgated.position progress
    exact InOrder.next progress steps verified met hstep hdistinct hid hlaw.met
  cases hresult : c.result with
  | ok value =>
    rw [hresult] at hcan
    obtain ⟨hlaw, hgated, step, rfl, hverified⟩ := hcan.holds_ok hholds
    obtain ⟨hsteps, horder⟩ := hspawned hlaw hgated
    obtain ⟨outcome, hprocesses, -⟩ := hverified.ran
    have hspawns : c.spawns = true := by
      rw [← Bool.not_eq_false, MadeCall.spawns_iff, hprocesses, List.length_append]
      intro h
      have hlength : (ranTo chain outcome).length = 0 := by omega
      cases List.length_eq_zero_iff.mp hlength
    unfold Leaves
    rw [hspawns, if_pos rfl]
    refine ⟨fun _ => ?_, .inr ⟨b, horder⟩⟩
    have hall : ∀ c' ∈ cs ++ [c], c'.Verified := by
      intro c' hc'
      rcases List.mem_append.mp hc' with hold | hnew
      · exact verified c' hold
      · rw [List.mem_singleton.mp hnew]
        exact ⟨step, hresult⟩
    cases hverified.advanced.standing with
    | executing next =>
      exact .executing b (n + 1) _ next hsteps hall horder.met
    | verifying phase =>
      refine .halted ?_ (.inr ⟨b, horder⟩)
      rw [phase]
      decide
    | completed phase =>
      refine .halted ?_ (.inr ⟨b, horder⟩)
      rw [phase]
      decide
    | recovery phase =>
      refine .halted ?_ (.inr ⟨b, horder⟩)
      rw [phase]
      decide
  | error e =>
    rw [hresult] at hcan
    obtain ⟨hlaw, hfails⟩ := hcan.holds_error hholds
    have hhalts : ¬c.StoreFailed →
        after.journal.phase ≠ .executing ∧ after.journal.phase ≠ .approved :=
      fun hstore => hfails.halts fun hfailed => hstore ⟨e, hresult, hfailed⟩
    rcases hlaw.gated with hnone | hgated
    · exact .of_unspawned htracks hnone fun hstore => .halted (hhalts hstore) htracks.order
    · obtain ⟨-, horder⟩ := hspawned hlaw hgated
      unfold Leaves
      cases hspawns : c.spawns with
      | true =>
        rw [if_pos rfl]
        exact ⟨fun hstore => .halted (hhalts hstore) (.inr ⟨b, horder⟩), .inr ⟨b, horder⟩⟩
      | false =>
        rw [if_neg Bool.false_ne_true, List.append_nil]
        exact ⟨fun hstore => .halted (hhalts hstore) htracks.order, htracks.order⟩

theorem Tracks.call (htracks : Tracks fromSlice cs middle.journal) {c : MadeCall τ}
    (hcan : Proc.Can (c.call.perform fromSlice reader) middle c.before c.result after c.after) :
    Leaves fromSlice cs c after := by
  cases hcall : c.call with
  | prepareFirst validated execution identity activation consent =>
    exact htracks.prepareFirst hcall hcan
  | prepareContinuation validated identity activation consent =>
    exact htracks.prepareContinuation hcall hcan
  | execute chain beforeIdentity =>
    cases htracks with
    | approved phase fresh none =>
      refine Tracks.execute_idle (.approved phase fresh none) ?_ hcall hcan
      rw [phase]
      decide
    | executing b n digest progress steps verified met =>
      exact Tracks.execute_next progress steps verified met hcall hcan
    | halted phase order => exact Tracks.execute_idle (.halted phase order) phase.1 hcall hcan

theorem Driven.tracks {calls : List (MadeCall τ)} (hphase : session.journal.phase = .approved)
    (hfresh : session.journal.verifiedBoundary = none)
    (hrun : Driven fromSlice reader session calls after) :
    ((∀ c ∈ calls, ¬c.StoreFailed) → Tracks fromSlice (spawners calls) after.journal) ∧
      (spawners calls = [] ∨ ∃ b, InOrder fromSlice b (spawners calls)) := by
  induction hrun with
  | start => exact ⟨fun _ => .approved hphase hfresh rfl, .inl rfl⟩
  | call before goesOn c now ih =>
    obtain ⟨hnext, horder⟩ := (ih.1 goesOn).call now
    rw [spawners_append]
    refine ⟨fun hall => hnext (hall c ?_), horder⟩
    exact List.mem_append_right _ (List.mem_singleton.mpr rfl)

end Runs

section Sample

end Sample

end ProductionStep

end StorageManager.Executor
