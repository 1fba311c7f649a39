import StorageManager.Executor.JournalCrashes
import StorageManager.Executor.LockedSession

/-!
# One unfinished mutation at a time

Sessions and reconciliations follow one another under the host lock, each refused or lost
anywhere. In every store they leave behind at most one journal may have begun to write
without completing, no two that have begun are for one plan, and while there is such a
journal no session with a store begins.
-/

namespace StorageManager.Executor.JournalStore

open Lib.Checks
open Lib.Directory
open Lib.Effects
open Planner.ExecutionGuard
open Planner.ExecutionGuard.OperationJournal (Accepts)

set_option autoImplicit false

/-- Writes may have begun and did not complete. -/
def Unresolved (j : OperationJournal) : Prop :=
  j.mutationMayHaveStarted = true ∧ j.phase ≠ .completed

section Ledgers

variable {L : Ledger} {j k : OperationJournal}

/-- The last record that was committed for its journal. -/
def Ledger.Last (L : Ledger) (j : OperationJournal) : Prop := (L j.journalId).head? = some j

structure Exclusive (L : Ledger) : Prop where
  unresolved : ∀ j k, L.Last j → L.Last k → Unresolved j → Unresolved k → j = k
  plans : ∀ j k, L.Last j → L.Last k → j.mutationMayHaveStarted = true →
    k.mutationMayHaveStarted = true → j.planId = k.planId → j = k

/-- No other journal stands in the way of this one. -/
def Ledger.Clears (L : Ledger) (j : OperationJournal) : Prop :=
  ∀ k, L.Last k → k.journalId ≠ j.journalId → blocks j.planId k = false

theorem exclusive_nil : Exclusive fun _ => [] where
  unresolved j k hj := by cases hj
  plans j k hj := by cases hj

theorem blocks_eq_false_iff {planId : String} : blocks planId j = false ↔
    (j.mutationMayHaveStarted = true → j.phase = .completed ∧ j.planId ≠ planId) := by
  unfold blocks
  cases j.mutationMayHaveStarted <;> simp

theorem last_push_of_ne (h : k.journalId ≠ j.journalId) : (L.push j).Last k ↔ L.Last k := by
  unfold Ledger.Last Ledger.push
  rw [Function.update_of_ne h]

theorem last_push_of_eq (h : k.journalId = j.journalId) (hk : (L.push j).Last k) : k = j := by
  unfold Ledger.Last Ledger.push at hk
  rw [h, Function.update_self] at hk
  exact (Option.some.inj hk).symm

/-- A record that no other journal stands in the way of. -/
theorem Exclusive.push (h : Exclusive L) (hclear : L.Clears j) : Exclusive (L.push j) := by
  have hother : ∀ k, (L.push j).Last k → k.journalId ≠ j.journalId →
      k.mutationMayHaveStarted = true → k.phase = .completed ∧ k.planId ≠ j.planId := by
    intro k hk hne
    exact blocks_eq_false_iff.mp (hclear k ((last_push_of_ne hne).mp hk) hne)
  constructor
  · intro a b ha hb hua hub
    by_cases hida : a.journalId = j.journalId
    · by_cases hidb : b.journalId = j.journalId
      · rw [last_push_of_eq hida ha, last_push_of_eq hidb hb]
      · exact absurd (hother b hb hidb hub.1).1 hub.2
    · exact absurd (hother a ha hida hua.1).1 hua.2
  · intro a b ha hb hma hmb hplan
    by_cases hida : a.journalId = j.journalId
    · by_cases hidb : b.journalId = j.journalId
      · rw [last_push_of_eq hida ha, last_push_of_eq hidb hb]
      · have hsame := last_push_of_eq hida ha
        exact absurd (hplan.symm.trans (by rw [hsame])) (hother b hb hidb hmb).2
    · by_cases hidb : b.journalId = j.journalId
      · have hsame := last_push_of_eq hidb hb
        exact absurd (hplan.trans (by rw [hsame])) (hother a ha hida hma).2
      · exact h.plans a b ((last_push_of_ne hida).mp ha) ((last_push_of_ne hidb).mp hb) hma hmb hplan

/-- A record that has not begun to write. -/
theorem Exclusive.push_unstarted (h : Exclusive L) (hj : j.mutationMayHaveStarted = false) :
    Exclusive (L.push j) := by
  have hold : ∀ k, (L.push j).Last k → k.mutationMayHaveStarted = true → L.Last k := by
    intro k hk hmutated
    by_cases hid : k.journalId = j.journalId
    · rw [last_push_of_eq hid hk, hj] at hmutated
      cases hmutated
    · exact (last_push_of_ne hid).mp hk
  constructor
  · intro a b ha hb hua hub
    exact h.unresolved a b (hold a ha hua.1) (hold b hb hub.1) hua hub
  · intro a b ha hb hma hmb
    exact h.plans a b (hold a ha hma) (hold b hb hmb) hma hmb

theorem Ledger.Clears.push (h : L.Clears j) : (L.push j).Clears j := by
  intro k hk hne
  exact h k ((last_push_of_ne hne).mp hk) hne

theorem Ledger.Clears.same (h : L.Clears j) (hid : k.journalId = j.journalId)
    (hplan : k.planId = j.planId) : L.Clears k := by
  intro i hi hne
  rw [hplan]
  exact h i hi (by rwa [← hid])

end Ledgers

section Copies

variable [Fingerprint] {j k : OperationJournal} {t : JournalTransition}

theorem applyToCopy_accepts (h : applyToCopy j t = .ok k) : Accepts j t k := by
  unfold applyToCopy at h
  split at h
  · next next happly =>
    rw [← Except.ok.inj h]
    exact OperationJournal.apply_ok happly
  · cases h

/-- Nothing but the start of execution raises the flag. -/
theorem applyToCopy_unstarted (h : applyToCopy j t = .ok k) (hj : j.mutationMayHaveStarted = false)
    (hphase : j.phase ≠ .approved ∨ k.phase ≠ .executing) : k.mutationMayHaveStarted = false := by
  rcases (applyToCopy_accepts h).flag with ⟨hflag, -⟩ | ⟨happroved, hexecuting, -⟩
  · rw [hflag, hj]
  · rcases hphase with hne | hne
    · exact absurd happroved hne
    · exact absurd hexecuting hne

end Copies

section Beginning

variable {μ : Type} [Fingerprint] {fromSlice : FromSlice} {d : Dir} {L : Ledger}
  {handoff : FrozenExecutionHandoff}

omit [Fingerprint] in
theorem host_sees (op : StoreOp) : Sees d (host op : StoreProc μ _) fun _ => True :=
  Sees.ask fun _ => trivial

omit [Fingerprint] in
theorem refuseRuntimeEvidence_sees :
    Sees d (refuseRuntimeEvidence : SessionProc μ _) fun _ => True := by
  refine (host_sees _).mapError.bind fun evidence _ => ?_
  refine (Sees.lifted evidence).mapError.bind fun paths _ => ?_
  cases paths with
  | nil => exact .pure trivial
  | cons path paths => exact .throw

omit [Fingerprint] in
theorem buildSessionId_sees :
    Sees d (buildSessionId handoff : SessionProc μ _) fun _ => True :=
  (host_sees _).mapError.bind fun _ _ => (host_sees _).mapError.bind fun _ _ => .pure trivial

omit [Fingerprint] in
theorem refuseUnfinished_ok {journals : List OperationJournal} {p : OperationJournal → Bool}
    (h : refuseUnfinished journals p = .ok ()) : ∀ j ∈ journals, p j = false := by
  intro j hj
  cases hfind : journals.find? p with
  | none => exact Bool.not_eq_true _ ▸ List.find?_eq_none.mp hfind j hj
  | some previous =>
    unfold refuseUnfinished at h
    rw [hfind] at h
    cases h

/-- What the session found before it began: nothing in the ledger is in the way. -/
def Unblocked (L : Ledger) (planId : String) : Prop := ∀ j, L.Last j → blocks planId j = false

theorem openHistory_sees (faithful : Faithful fromSlice) (h : Represents L d) :
    Sees d (openHistory fromSlice handoff : SessionProc μ _) fun _ => Unblocked L handoff.planId := by
  unfold openHistory
  refine (check_sees _).mapError.bind fun _ _ => refuseRuntimeEvidence_sees.bind fun _ _ => ?_
  refine (all_sees_last faithful h).mapError.bind fun history hlast => ?_
  refine (Sees.lifted _).bind fun _ hclear => .pure fun j hj => ?_
  exact refuseUnfinished_ok hclear j ((hlast.1 j).mpr ⟨_, hj⟩)

theorem publishJournal_leads (faithful : Faithful fromSlice) (h : Represents L d)
    (history : List OperationJournal) (j : OperationJournal) :
    Leads d (publishJournal fromSlice history j : SessionProc μ _)
      (fun _ d' => Represents (L.push j) d') (Between L j) := by
  unfold publishJournal
  have hbefore : Between L j d := .inl h
  refine (all_sees_last faithful h).mapError.andThen hbefore fun _ _ => ?_
  refine (Sees.lifted _).andThen hbefore fun _ _ => ?_
  refine refuseRuntimeEvidence_sees.andThen hbefore fun _ _ => ?_
  refine (persistNew_commits h j).mapError.bind fun _ d' hd' => ?_
  have hafter : Between L j d' := .inr hd'
  refine (all_sees_last faithful hd').mapError.andThen hafter fun _ _ => ?_
  refine (Sees.lifted _).andThen hafter fun _ _ => ?_
  refine refuseRuntimeEvidence_sees.mono (fun _ _ hend => ?_) fun _ hend => ?_
  · rw [hend.1]
    exact hd'
  · rw [hend]
    exact hafter

/-- The ledger, or the ledger with one more record that has not begun to write. -/
def MaybeBegun (L : Ledger) (d : Dir) : Prop :=
  Represents L d ∨ ∃ j, j.mutationMayHaveStarted = false ∧ Represents (L.push j) d

/-- A session with a store begins when nothing is in the way; it has one more record then. -/
theorem beginWithLock_leads (faithful : Faithful fromSlice) (h : Represents L d) :
    Leads d (beginWithLock fromSlice handoff true : SessionProc μ _)
      (fun session d' => session.durable = true ∧ session.journal.mutationMayHaveStarted = false ∧
        Unblocked L session.journal.planId ∧ Represents (L.push session.journal) d')
      (MaybeBegun L) := by
  unfold beginWithLock
  have hbefore : MaybeBegun L d := .inl h
  refine (Sees.lifted _).andThen hbefore fun _ _ => ?_
  refine (openHistory_sees faithful h).andThen hbefore fun history hclear => ?_
  refine (Sees.lifted _).mapError.andThen hbefore fun journalId _ => ?_
  refine (Sees.lifted _).andThen hbefore fun j hj => ?_
  have happlied := mapError_eq_ok_iff.mp hj
  have hplanned : JournalPhase.planned ≠ .approved := by decide
  have hunstarted : j.mutationMayHaveStarted = false :=
    applyToCopy_unstarted happlied rfl (.inl hplanned)
  have hplan : j.planId = handoff.planId :=
    (SameHeader.of_accepts (applyToCopy_accepts happlied)).planId.trans handoff.guard_planId
  refine ((publishJournal_leads faithful h history j).mono (fun _ _ hd' => hd')
    fun d' hd' => ?_).bind fun _ d' hd' => ?_
  · rcases hd' with hd' | hd'
    · exact .inl hd'
    · exact .inr ⟨j, hunstarted, hd'⟩
  · refine buildSessionId_sees.andThen (.inr ⟨j, hunstarted, hd'⟩) fun _ _ => Leads.pure ?_
    exact ⟨rfl, hunstarted, by rw [hplan]; exact hclear, hd'⟩

/-- A session without a store leaves the directory alone. -/
theorem beginWithLock_detached :
    Sees d (beginWithLock fromSlice handoff false : SessionProc μ _) fun session =>
      session.durable = false := by
  have hskip : ∀ {α : Type} (a : α) (p : SessionProc μ α),
      Sees d (whenDurable false a p) fun _ => True := fun _ _ => .pure trivial
  unfold beginWithLock
  refine (Sees.lifted _).bind fun _ _ => (hskip _ _).bind fun _ _ => (hskip _ _).bind fun _ _ => ?_
  refine (Sees.lifted _).bind fun _ _ => (hskip _ _).bind fun _ _ => ?_
  exact buildSessionId_sees.bind fun _ _ => .pure rfl

end Beginning

section Continuing

variable [Fingerprint] {fromSlice : FromSlice} {d : Dir}

def Safe (d : Dir) : Prop := ∃ L, Represents L d ∧ Exclusive L

/-- Nothing in the store stands in the way of the journal. -/
def SafeFor (j : OperationJournal) (d : Dir) : Prop :=
  ∃ L, Represents L d ∧ Exclusive L ∧ L.Clears j

/-- The store of a session, if it has one, is safe for its journal. -/
def SessionSafe (session : LockedExecutionSession) (d : Dir) : Prop :=
  Safe d ∧ (session.durable = true → SafeFor session.journal d)

theorem SafeFor.safe {j : OperationJournal} (h : SafeFor j d) : Safe d := by
  obtain ⟨L, hrepresents, hexclusive, -⟩ := h
  exact ⟨L, hrepresents, hexclusive⟩

theorem SafeFor.same {j k : OperationJournal} (h : SafeFor j d) (hsame : SameHeader j k) :
    SafeFor k d := by
  obtain ⟨L, hrepresents, hexclusive, hclear⟩ := h
  exact ⟨L, hrepresents, hexclusive, hclear.same hsame.journalId hsame.planId⟩

/-- A session writes its own journal only. -/
theorem persistIfMatches_safe {μ : Type} {j next : OperationJournal} (faithful : Faithful fromSlice)
    (h : SafeFor j d) (hsame : SameHeader j next) :
    Leads d (persistIfMatches fromSlice j next : StoreProc μ _) (fun _ d' => SafeFor next d')
      (SafeFor next) := by
  obtain ⟨L, hrepresents, hexclusive, hclear⟩ := h.same hsame
  have hpushed : ∀ d', Represents (L.push next) d' → SafeFor next d' := fun d' hd' =>
    ⟨L.push next, hd', hexclusive.push hclear, hclear.push⟩
  refine (persistIfMatches_commits faithful hrepresents j next).mono (fun _ d' hd' => hpushed d' hd')
    fun d' hd' => ?_
  rcases hd' with hd' | hd'
  · exact ⟨L, hd', hexclusive, hclear⟩
  · exact hpushed d' hd'

/-- What a method of the session leaves behind, wherever it ends. -/
abbrev KeepsSafe {α : Type} (p : SessionProc LockedExecutionSession α)
    (session : LockedExecutionSession) (s : St (interface storeEnv)) : Prop :=
  p.Holds session s (fun _ session' t => SessionSafe session' t.world)
    (fun _ session' t => SessionSafe session' t.world) fun t => Safe t.world

theorem Sees.keepsSafe {α : Type} {p : SessionProc LockedExecutionSession α} {Q : α → Prop}
    {session : LockedExecutionSession} {s : St (interface storeEnv)} (hp : Sees s.world p Q)
    (h : SessionSafe session s.world) :
    p.Holds session s (fun a session' t => session' = session ∧ t.world = s.world ∧ Q a)
      (fun _ session' t => SessionSafe session' t.world) fun t => Safe t.world := by
  refine (hp.holds session s rfl).mono (fun a _ t hend => hend) (fun _ _ t hend => ?_)
    fun t hend => ?_
  · rw [hend.1, hend.2]
    exact h
  · rw [hend]
    exact h.1

/-- The transition of a journal is written, and then the session has it. -/
theorem persist_keepsSafe {session after : LockedExecutionSession} {s : St (interface storeEnv)}
    {next : OperationJournal} (faithful : Faithful fromSlice)
    (h : SafeFor session.journal s.world) (hsame : SameHeader session.journal next)
    (hafter : after.journal = next) :
    KeepsSafe (do
      onStore (persistIfMatches fromSlice session.journal next)
      Proc.set after) session s := by
  have hwrites : Leads s.world (onStore (persistIfMatches fromSlice session.journal next) :
      SessionProc LockedExecutionSession _) (fun _ d' => SafeFor next d') (SafeFor next) :=
    (persistIfMatches_safe faithful h hsame).mapError
  refine Proc.holds_bind.mpr ((hwrites.holds session s rfl).mono (fun _ _ t hend => ?_)
    (fun _ _ t hend => ?_) fun t hend => hend.safe)
  · refine ⟨hend.2.safe, fun _ => ?_⟩
    rw [hafter]
    exact hend.2
  · rw [hend.1]
    refine ⟨hend.2.safe, fun _ => hend.2.same ?_⟩
    exact ⟨hsame.schemaVersion.symm, hsame.journalId.symm, hsame.planId.symm, hsame.target.symm,
      hsame.baseline.symm⟩

/-- The check of the durable record only looks, and wants a store. -/
theorem requireCurrentDurableJournal_holds {session : LockedExecutionSession}
    {s : St (interface storeEnv)} (h : SessionSafe session s.world) :
    (requireCurrentDurableJournal fromSlice).Holds session s
      (fun _ session' t => session' = session ∧ t.world = s.world ∧ session.durable = true)
      (fun _ session' t => SessionSafe session' t.world) fun t => Safe t.world := by
  unfold requireCurrentDurableJournal
  refine Proc.holds_bind.mpr (Proc.holds_get.mpr (Proc.holds_bind.mpr (Proc.holds_lift.mpr ⟨?_, ?_⟩)))
  · intro _ hdurable
    rw [refuse_eq_ok_iff, not_not] at hdurable
    refine Sees.keepsSafe (Q := fun _ => session.durable = true) ?_ h
    refine all_sees.mapError.bind fun _ _ => (Sees.lifted _).bind fun _ _ => ?_
    refine (Sees.lifted _).bind fun _ _ => refuseRuntimeEvidence_sees.imp fun _ _ => hdurable
  · intro _ _
    exact h

theorem persistTransition_keepsSafe {session : LockedExecutionSession} {s : St (interface storeEnv)}
    (faithful : Faithful fromSlice) (h : SessionSafe session s.world) (t : JournalTransition) :
    KeepsSafe (persistTransition fromSlice t) session s := by
  refine (requireCurrentDurableJournal_holds h).bind ?_
  rintro _ session' s' ⟨rfl, hworld, hdurable⟩
  have hsafe : SessionSafe session' s'.world := by
    rw [hworld]
    exact h
  refine Proc.holds_bind.mpr (Proc.holds_get.mpr (Proc.holds_bind.mpr (Proc.holds_lift.mpr ⟨?_, ?_⟩)))
  · intro next hnext
    have hsame := SameHeader.of_accepts (applyToCopy_accepts (mapError_eq_ok_iff.mp hnext))
    exact persist_keepsSafe faithful (hsafe.2 hdurable) hsame rfl
  · intro _ _
    exact hsafe

theorem revalidate_keepsSafe {session : LockedExecutionSession} {s : St (interface storeEnv)}
    (faithful : Faithful fromSlice) (h : SessionSafe session s.world)
    (identity : IdentityRevalidation) (freshCapabilities : Core.HostCapabilities) :
    KeepsSafe (revalidate fromSlice identity freshCapabilities) session s := by
  obtain ⟨sessionId, handoff, journal, durable, attempted⟩ := session
  unfold revalidate
  refine Proc.holds_bind.mpr (Proc.holds_get.mpr (Proc.holds_bind.mpr (Proc.holds_lift.mpr ⟨?_, ?_⟩)))
  · intro _ _
    refine Proc.holds_bind.mpr (Proc.holds_set.mpr ?_)
    have hmarked : SessionSafe ⟨sessionId, handoff, journal, durable, true⟩ s.world := h
    dsimp only
    split
    · refine Proc.holds_bind.mpr (Proc.holds_lift.mpr ⟨fun next hnext => ?_, fun _ _ => hmarked⟩)
      have hsame := SameHeader.of_accepts (applyToCopy_accepts (mapError_eq_ok_iff.mp hnext))
      cases durable with
      | false => exact ⟨h.1, fun hstore => by cases hstore⟩
      | true =>
        have hkept : KeepsSafe (do
            onStore (persistIfMatches fromSlice journal next)
            Proc.set ⟨sessionId, handoff, next, true, true⟩)
            ⟨sessionId, handoff, journal, true, true⟩ s :=
          @persist_keepsSafe _ fromSlice ⟨sessionId, handoff, journal, true, true⟩ _ s next
            faithful (h.2 rfl) hsame rfl
        exact Proc.holds_bind.mpr ((Proc.holds_bind.mp hkept).mono
          (fun _ _ _ hset => Proc.holds_bind.mpr hset) (fun _ _ _ hend => hend) fun _ hend => hend)
    · exact hmarked
  · intro _ _
    exact h

end Continuing

section Hosts

/-- The methods that change a session. -/
inductive SessionCall where
  | revalidate (identity : IdentityRevalidation) (freshCapabilities : Core.HostCapabilities)
  | preconditionsVerified
  | exactPlanApproved (approvedPlanId : String) (approval : ExactApprovalBinding)
  | executionStarted (binding : ExecutionStartBinding)
  | verificationStarted
  | verificationPassedContinue (completedStepId nextStepId : Nat) (freshIdentityDigest : String)
  | verifiedCompleted (completedStepId : Nat) (freshIdentityDigest : String)
  | completed
  | interrupted (reason : String)

/-- What may happen on the host. -/
inductive Action where
  | beginSession (handoff : FrozenExecutionHandoff) (durable : Bool)
  | call (c : SessionCall)
  | release
  | reconcile (shownJournal : OperationJournal) (confirmation : String)

/-- The store, and the session that holds the host lock. -/
structure Host where
  store : St (interface storeEnv)
  session : Option LockedExecutionSession

variable [Fingerprint] (fromSlice : FromSlice)

def SessionCall.proc : SessionCall → SessionProc LockedExecutionSession Unit
  | .revalidate identity freshCapabilities => do
    let _ ← JournalStore.revalidate fromSlice identity freshCapabilities
  | .preconditionsVerified => persistPreconditionsVerified fromSlice
  | .exactPlanApproved approvedPlanId approval =>
    persistExactPlanApproved fromSlice approvedPlanId approval
  | .executionStarted binding => persistExecutionStarted fromSlice binding
  | .verificationStarted => persistVerificationStarted fromSlice
  | .verificationPassedContinue completedStepId nextStepId freshIdentityDigest =>
    persistVerificationPassedContinue fromSlice completedStepId nextStepId freshIdentityDigest
  | .verifiedCompleted completedStepId freshIdentityDigest =>
    persistVerifiedCompleted fromSlice completedStepId freshIdentityDigest
  | .completed => persistCompleted fromSlice
  | .interrupted reason => persistInterrupted fromSlice reason

/-- One action. Without the lock a session or a reconciliation does not begin; a process
that is lost loses the lock. -/
def Host.step (action : Action) (script : Script (interface storeEnv)) : Host → Host
  | ⟨store, none⟩ =>
    match action with
    | .beginSession handoff durable =>
      match (beginWithLock fromSlice handoff durable ()).run script store with
      | (some (.ok session, _), store') => ⟨store', some session⟩
      | (_, store') => ⟨store', none⟩
    | .reconcile shownJournal confirmation =>
      ⟨((reconcilePrewrite fromSlice shownJournal confirmation ()).run script store).2, none⟩
    | .call _ => ⟨store, none⟩
    | .release => ⟨store, none⟩
  | ⟨store, some session⟩ =>
    match action with
    | .call c =>
      match (c.proc fromSlice session).run script store with
      | (some (_, session'), store') => ⟨store', some session'⟩
      | (none, store') => ⟨store', none⟩
    | .release => ⟨store, none⟩
    | .beginSession _ _ => ⟨store, some session⟩
    | .reconcile _ _ => ⟨store, some session⟩

def Host.run : List (Action × Script (interface storeEnv)) → Host → Host
  | [], h => h
  | (action, script) :: rest, h => Host.run rest (h.step fromSlice action script)

/-- What every host keeps. -/
def Host.Safe (h : Host) : Prop :=
  JournalStore.Safe h.store.world ∧ ∀ session ∈ h.session, SessionSafe session h.store.world

variable {fromSlice}

theorem call_keepsSafe {session : LockedExecutionSession} {s : St (interface storeEnv)}
    (faithful : Faithful fromSlice) (h : SessionSafe session s.world) (c : SessionCall) :
    KeepsSafe (c.proc fromSlice) session s := by
  cases c with
  | revalidate identity freshCapabilities =>
    refine (revalidate_keepsSafe faithful h identity freshCapabilities).bind fun _ _ _ hend => ?_
    exact Proc.holds_pure.mpr hend
  | _ => exact persistTransition_keepsSafe faithful h _

theorem reconcilePrewrite_safe {d : Dir} (faithful : Faithful fromSlice) (h : Safe d)
    (shownJournal : OperationJournal) (confirmation : String) :
    Leads d (reconcilePrewrite fromSlice shownJournal confirmation : DirProc storeEnv Unit _ _)
      (fun _ d' => Safe d') Safe := by
  obtain ⟨L, hrepresents, hexclusive⟩ := h
  have hbefore : Safe d := ⟨L, hrepresents, hexclusive⟩
  have hload : Sees d (load fromSlice shownJournal.journalId : StoreProc Unit _) fun _ => True := by
    unfold load
    refine (Sees.lifted _).bind fun _ _ => (check_sees _).bind fun _ _ => ?_
    refine (Sees.lifted _).bind fun _ _ => (check_sees _).bind fun _ _ => ?_
    exact (loadPinnedJournal_sees _ _ _).bind fun _ _ => (check_sees _).bind fun _ _ => .pure trivial
  unfold reconcilePrewrite
  refine all_sees.mapError.andThen hbefore fun _ _ => ?_
  refine hload.mapError.andThen hbefore fun j _ => (Sees.lifted _).andThen hbefore fun _ _ => ?_
  refine (Sees.lifted _).andThen hbefore fun _ _ => ?_
  refine (Sees.lifted _).andThen hbefore fun _ hprewrite => ?_
  refine (Sees.lifted _).andThen hbefore fun _ _ => (Sees.lifted _).andThen hbefore fun next hnext => ?_
  rw [refuse_eq_ok_iff, not_or] at hprewrite
  have happlied := mapError_eq_ok_iff.mp hnext
  have hnotExecuting : next.phase ≠ .executing := by
    have haborts := applyToCopy_accepts happlied
    cases haborts <;> simp [OperationJournal.moved, OperationJournal.pushEvent]
  have hunstarted : next.mutationMayHaveStarted = false :=
    applyToCopy_unstarted happlied (Bool.not_eq_true _ ▸ hprewrite.1) (.inr hnotExecuting)
  have hpushed : ∀ d', Represents (L.push next) d' → Safe d' := fun d' hd' =>
    ⟨L.push next, hd', hexclusive.push_unstarted hunstarted⟩
  refine ((persistIfMatches_commits faithful hrepresents j next).mono
    (fun _ d' hd' => hpushed d' hd') fun d' hd' => ?_).mapError.bind fun _ d' hd' => Leads.pure hd'
  rcases hd' with hd' | hd'
  · exact ⟨L, hd', hexclusive⟩
  · exact hpushed d' hd'

theorem MaybeBegun.safe {L : Ledger} {d : Dir} (h : MaybeBegun L d) (hexclusive : Exclusive L) :
    Safe d := by
  rcases h with h | ⟨j, hunstarted, h⟩
  · exact ⟨L, h, hexclusive⟩
  · exact ⟨L.push j, h, hexclusive.push_unstarted hunstarted⟩

omit [Fingerprint] in
theorem Unblocked.clears {L : Ledger} {j : OperationJournal} (h : Unblocked L j.planId) :
    L.Clears j := fun k hk _ => h k hk

/-- One action keeps the host safe: by cases on who holds the lock and what happens. -/
theorem Host.step_safe (faithful : Faithful fromSlice) {h : Host} (hsafe : h.Safe) (action : Action)
    (script : Script (interface storeEnv)) : (h.step fromSlice action script).Safe := by
  obtain ⟨store, session⟩ := h
  obtain ⟨hstore, hsession⟩ := hsafe
  have hidle : ∀ {store' : St (interface storeEnv)}, JournalStore.Safe store'.world →
      Host.Safe ⟨store', none⟩ := fun hsafe => ⟨hsafe, fun session hs => by cases hs⟩
  have hheld : ∀ {store' : St (interface storeEnv)} {session' : LockedExecutionSession},
      SessionSafe session' store'.world → Host.Safe ⟨store', some session'⟩ := by
    intro store' session' hsafe
    refine ⟨hsafe.1, fun session hs => ?_⟩
    rw [← Option.some.inj hs]
    exact hsafe
  cases session with
  | none =>
    cases action with
    | beginSession handoff durable =>
      obtain ⟨L, hrepresents, hexclusive⟩ := hstore
      have hbegin : (beginWithLock fromSlice handoff durable).Holds () store
          (fun session _ t => SessionSafe session t.world)
          (fun _ _ t => JournalStore.Safe t.world) fun t => JournalStore.Safe t.world := by
        cases durable with
        | false =>
          refine (beginWithLock_detached.holds () store rfl).mono (fun session _ t hend => ?_)
            (fun _ _ t hend => ?_) fun t hend => ?_
          · refine ⟨?_, fun hdurable => ?_⟩
            · rw [hend.2.1]
              exact ⟨L, hrepresents, hexclusive⟩
            · rw [hend.2.2] at hdurable
              cases hdurable
          · rw [hend.2]
            exact ⟨L, hrepresents, hexclusive⟩
          · rw [hend]
            exact ⟨L, hrepresents, hexclusive⟩
        | true =>
          refine ((beginWithLock_leads faithful hrepresents).holds () store rfl).mono
            (fun session _ t hend => ?_) (fun _ _ t hend => hend.2.safe hexclusive)
            fun t hend => hend.safe hexclusive
          obtain ⟨-, -, hunstarted, hclear, hpushed⟩ := hend
          have hfor : SafeFor session.journal t.world :=
            ⟨_, hpushed, hexclusive.push_unstarted hunstarted, hclear.clears.push⟩
          exact ⟨hfor.safe, fun _ => hfor⟩
      have hend := Calls.wp_sound hbegin script
      unfold Host.step
      dsimp only
      generalize (beginWithLock fromSlice handoff durable ()).run script store = r at hend
      obtain ⟨_ | ⟨_ | session, m⟩, t⟩ := r
      · exact hidle hend
      · exact hidle hend
      · exact hheld hend
    | reconcile shownJournal confirmation =>
      have hend := Calls.wp_sound ((reconcilePrewrite_safe faithful hstore shownJournal
        confirmation).holds () store rfl) script
      unfold Host.step
      dsimp only
      generalize (reconcilePrewrite fromSlice shownJournal confirmation ()).run script store = r at hend
      obtain ⟨_ | ⟨_ | journal, m⟩, t⟩ := r
      · exact hidle hend
      · exact hidle hend.2
      · exact hidle hend.2
    | call c => exact hidle hstore
    | release => exact hidle hstore
  | some session =>
    have hcurrent : SessionSafe session store.world := hsession session rfl
    cases action with
    | call c =>
      have hend := Calls.wp_sound (call_keepsSafe faithful hcurrent c) script
      unfold Host.step
      dsimp only
      generalize (c.proc fromSlice session).run script store = r at hend
      obtain ⟨_ | ⟨_ | _, session'⟩, t⟩ := r
      · exact hidle hend
      · exact hheld hend
      · exact hheld hend
    | release => exact hidle hstore
    | beginSession handoff durable => exact hheld hcurrent
    | reconcile shownJournal confirmation => exact hheld hcurrent

theorem Host.run_safe (faithful : Faithful fromSlice)
    (actions : List (Action × Script (interface storeEnv))) {h : Host} (hsafe : h.Safe) :
    (h.run fromSlice actions).Safe := by
  induction actions generalizing h with
  | nil => exact hsafe
  | cons first rest ih =>
    obtain ⟨action, script⟩ := first
    exact ih (step_safe faithful hsafe action script)

/-- No session with a store begins while a journal is unresolved. -/
theorem Host.begin_refused (faithful : Faithful fromSlice) {h : Host} {L : Ledger}
    {j : OperationJournal} (hrepresents : Represents L h.store.world) (hlast : L.Last j)
    (hj : Unresolved j) (handoff : FrozenExecutionHandoff) (script : Script (interface storeEnv)) :
    (h.step fromSlice (.beginSession handoff true) script).session = h.session := by
  obtain ⟨store, session⟩ := h
  cases session with
  | some session => rfl
  | none =>
    have hbegin : Leads store.world (beginWithLock fromSlice handoff true : SessionProc Unit _) _
      (MaybeBegun L) := beginWithLock_leads faithful hrepresents
    have hend := Calls.wp_sound (hbegin.holds () store rfl) script
    unfold Host.step
    dsimp only
    generalize (beginWithLock fromSlice handoff true ()).run script store = r at hend
    obtain ⟨_ | ⟨_ | session, m⟩, t⟩ := r
    · rfl
    · rfl
    · obtain ⟨-, -, -, hclear, -⟩ := hend
      exact absurd (blocks_eq_false_iff.mp (hclear j hlast) hj.1).1 hj.2

end Hosts

def sampleHandoff : FrozenExecutionHandoff where
  handoffId := sampleDigest
  mutationEnabled := false
  status := .futureExecutorGatesRequired
  planId := sampleDigest
  capabilitiesDigest := sampleDigest
  manifestDigest := sampleDigest
  guard := sampleGuard
  guard_planId := rfl

end StorageManager.Executor.JournalStore
