import StorageManager.Executor.SessionExclusion

/-!
# What the methods of a session change

A method moves the journal of its session by at most its own transition, and adds at most
that record to the ledger of the store; a refused or a lost method may have done the second
without the first.
-/

namespace StorageManager.Executor.JournalStore

open Lib.Checks
open Lib.Directory
open Lib.Effects
open Planner.ExecutionGuard
open Planner.ExecutionGuard.OperationJournal (Accepts)

set_option autoImplicit false

section Phases

variable [Fingerprint] {j k : OperationJournal} {t : JournalTransition}

/-- Only an approval approves. -/
theorem accepts_approved (h : Accepts j t k) (hphase : k.phase = .approved) :
    ∃ planId a, t = .exactPlanApproved planId a ∧ k.approval = some a := by
  cases h with
  | @exactPlanApproved planId detail a => exact ⟨planId, a, rfl, rfl⟩
  | _ => cases hphase

theorem applyToCopy_hostLockHeld (h : applyToCopy j .hostLockAcquired = .ok k) :
    k.phase = .hostLockHeld := by
  cases applyToCopy_accepts h
  rfl

theorem applyToCopy_header (h : applyToCopy j t = .ok k) : SameHeader j k :=
  SameHeader.of_accepts (applyToCopy_accepts h)

end Phases

section Changes

variable [Fingerprint] {fromSlice : FromSlice} {L : Ledger} {d : Dir} {t : JournalTransition}

/-- The ledger, or the ledger with the next record of the journal. -/
def LedgerAdvanced (t : JournalTransition) (j : OperationJournal) (L : Ledger) (d : Dir) : Prop :=
  Represents L d ∨ ∃ next, applyToCopy j t = .ok next ∧ Represents (L.push next) d

/-- The session with its journal, or with the next one. -/
structure SessionAdvanced (t : JournalTransition) (session after : LockedExecutionSession) :
    Prop where
  sessionId : after.sessionId = session.sessionId
  handoff : after.handoff = session.handoff
  durable : after.durable = session.durable
  journal : after.journal = session.journal ∨ applyToCopy session.journal t = .ok after.journal

theorem SessionAdvanced.refl (session : LockedExecutionSession) :
    SessionAdvanced t session session := ⟨rfl, rfl, rfl, .inl rfl⟩

/-- A mark on the session is no step of its journal. -/
theorem SessionAdvanced.trans {session marked after : LockedExecutionSession}
    (h : SessionAdvanced t session marked) (hafter : SessionAdvanced t marked after)
    (hmarked : marked.journal = session.journal) : SessionAdvanced t session after := by
  refine ⟨hafter.sessionId.trans h.sessionId, hafter.handoff.trans h.handoff,
    hafter.durable.trans h.durable, ?_⟩
  rw [← hmarked]
  exact hafter.journal

theorem SessionAdvanced.header {session after : LockedExecutionSession}
    (h : SessionAdvanced t session after) : SameHeader session.journal after.journal := by
  rcases h.journal with hsame | hnext
  · rw [hsame]
    exact ⟨rfl, rfl, rfl, rfl, rfl⟩
  · exact applyToCopy_header hnext

theorem load_sees {μ : Type} {journalId : String} :
    Sees d (load fromSlice journalId : StoreProc μ _) fun _ => True := by
  unfold load
  refine (Sees.lifted _).bind fun _ _ => (check_sees _).bind fun _ _ => ?_
  refine (Sees.lifted _).bind fun _ _ => (check_sees _).bind fun _ _ => ?_
  exact (loadPinnedJournal_sees _ _ _).bind fun _ _ => (check_sees _).bind fun _ _ => .pure trivial

/-- What every end of a method keeps. -/
abbrev Advances {α ε : Type} (p : DirProc storeEnv LockedExecutionSession ε α)
    (t : JournalTransition) (L : Ledger) (session : LockedExecutionSession)
    (s : St (interface storeEnv)) : Prop :=
  p.Holds session s
    (fun _ after u => SessionAdvanced t session after ∧ LedgerAdvanced t session.journal L u.world)
    (fun _ after u => SessionAdvanced t session after ∧ LedgerAdvanced t session.journal L u.world)
    fun u => LedgerAdvanced t session.journal L u.world

/-- The check of the durable record only looks. -/
theorem requireCurrentDurableJournal_looks (session : LockedExecutionSession)
    (s : St (interface storeEnv)) :
    (requireCurrentDurableJournal fromSlice).Holds session s
      (fun _ after u => after = session ∧ u.world = s.world ∧ session.durable = true)
      (fun _ after u => after = session ∧ u.world = s.world) fun u => u.world = s.world := by
  unfold requireCurrentDurableJournal
  refine Proc.holds_bind.mpr (Proc.holds_get.mpr (Proc.holds_bind.mpr (Proc.holds_lift.mpr ⟨?_, ?_⟩)))
  · intro _ hdurable
    rw [refuse_eq_ok_iff, not_not] at hdurable
    have hrest : Sees s.world (do
        let journals ← onStore (all fromSlice)
        Proc.lift (refuse (journals.find? (·.journalId == session.journal.journalId) ≠
          some session.journal) .durableJournalMismatch)
        Proc.lift (refuseUnfinished journals fun journal =>
          journal.journalId != session.journal.journalId && blocks session.journal.planId journal)
        refuseRuntimeEvidence : SessionProc LockedExecutionSession Unit)
        fun _ => session.durable = true := by
      refine all_sees.mapError.bind fun _ _ => (Sees.lifted _).bind fun _ _ => ?_
      exact (Sees.lifted _).bind fun _ _ => refuseRuntimeEvidence_sees.imp fun _ _ => hdurable
    exact hrest.holds session s rfl
  · intro _ _
    exact ⟨rfl, rfl⟩

theorem persist_advances {session after : LockedExecutionSession} {s : St (interface storeEnv)}
    {next : OperationJournal} (faithful : Faithful fromSlice) (h : Represents L s.world)
    (hnext : applyToCopy session.journal t = .ok next)
    (hafter : SessionAdvanced t session after) :
    Advances (do
      onStore (persistIfMatches fromSlice session.journal next)
      Proc.set after) t L session s := by
  have hwrites : Leads s.world (onStore (persistIfMatches fromSlice session.journal next) :
      SessionProc LockedExecutionSession _) (fun _ d' => Represents (L.push next) d')
      (Between L next) := (persistIfMatches_commits faithful h session.journal next).mapError
  have hbetween : ∀ d', Between L next d' → LedgerAdvanced t session.journal L d' := by
    intro d' hd'
    rcases hd' with hd' | hd'
    · exact .inl hd'
    · exact .inr ⟨next, hnext, hd'⟩
  refine Proc.holds_bind.mpr ((hwrites.holds session s rfl).mono (fun _ _ u hend => ?_)
    (fun _ _ u hend => ?_) fun u hend => hbetween _ hend)
  · exact ⟨hafter, .inr ⟨next, hnext, hend.2⟩⟩
  · rw [hend.1]
    exact ⟨.refl session, hbetween _ hend.2⟩

theorem persistTransition_advances {session : LockedExecutionSession} {s : St (interface storeEnv)}
    (faithful : Faithful fromSlice) (h : Represents L s.world) (t : JournalTransition) :
    Advances (persistTransition fromSlice t) t L session s := by
  unfold persistTransition
  refine Proc.holds_bind.mpr ((requireCurrentDurableJournal_looks session s).mono ?_ ?_ ?_)
  · rintro _ after u ⟨rfl, hworld, -⟩
    have hrepresents : Represents L u.world := by
      rw [hworld]
      exact h
    refine Proc.holds_bind.mpr (Proc.holds_get.mpr (Proc.holds_bind.mpr
      (Proc.holds_lift.mpr ⟨fun next hnext => ?_, fun _ _ => ?_⟩)))
    · have hcopy := mapError_eq_ok_iff.mp hnext
      exact persist_advances faithful hrepresents hcopy ⟨rfl, rfl, rfl, .inr hcopy⟩
    · exact ⟨.refl _, .inl hrepresents⟩
  · rintro _ after u ⟨rfl, hworld⟩
    rw [hworld]
    exact ⟨.refl _, .inl h⟩
  · intro u hworld
    rw [hworld]
    exact .inl h

theorem revalidate_advances {session : LockedExecutionSession} {s : St (interface storeEnv)}
    (faithful : Faithful fromSlice) (h : Represents L s.world) (identity : IdentityRevalidation)
    (freshCapabilities : Core.HostCapabilities) :
    Advances (revalidate fromSlice identity freshCapabilities)
      (.identityRevalidated (identity.freshDigest.getD session.handoff.manifestDigest))
      L session s := by
  obtain ⟨sessionId, handoff, journal, durable, attempted⟩ := session
  have hmarked : SessionAdvanced (.identityRevalidated (identity.freshDigest.getD
      handoff.manifestDigest)) ⟨sessionId, handoff, journal, durable, attempted⟩
      ⟨sessionId, handoff, journal, durable, true⟩ := ⟨rfl, rfl, rfl, .inl rfl⟩
  unfold revalidate
  refine Proc.holds_bind.mpr (Proc.holds_get.mpr (Proc.holds_bind.mpr (Proc.holds_lift.mpr ⟨?_, ?_⟩)))
  · intro _ _
    refine Proc.holds_bind.mpr (Proc.holds_set.mpr ?_)
    dsimp only
    split
    · refine Proc.holds_bind.mpr (Proc.holds_lift.mpr
        ⟨fun next hnext => ?_, fun _ _ => ⟨hmarked, .inl h⟩⟩)
      have hcopy := mapError_eq_ok_iff.mp hnext
      cases durable with
      | false => exact ⟨⟨rfl, rfl, rfl, .inr hcopy⟩, .inl h⟩
      | true =>
        have hadvances : Advances (do
            onStore (persistIfMatches fromSlice journal next)
            Proc.set ⟨sessionId, handoff, next, true, true⟩)
            (.identityRevalidated (identity.freshDigest.getD handoff.manifestDigest)) L
            ⟨sessionId, handoff, journal, true, true⟩ s :=
          persist_advances faithful h hcopy ⟨rfl, rfl, rfl, .inr hcopy⟩
        refine Proc.holds_bind.mpr ((Proc.holds_bind.mp hadvances).mono (fun _ _ _ hset => ?_)
          (fun _ _ _ hend => ⟨hmarked.trans hend.1 rfl, hend.2⟩) fun _ hend => hend)
        exact Proc.holds_bind.mpr ⟨hmarked.trans hset.1 rfl, hset.2⟩
    · exact ⟨hmarked, .inl h⟩
  · intro _ _
    exact ⟨.refl _, .inl h⟩

/-- Every method makes one transition at most, and only one method approves. -/
theorem call_advances {session : LockedExecutionSession} {s : St (interface storeEnv)}
    (faithful : Faithful fromSlice) (h : Represents L s.world) (c : SessionCall)
    (hc : ∀ planId a, c ≠ .exactPlanApproved planId a) :
    ∃ t, (∀ planId a, t ≠ .exactPlanApproved planId a) ∧
      Advances (c.proc fromSlice) t L session s := by
  cases c with
  | revalidate identity freshCapabilities =>
    refine ⟨.identityRevalidated (identity.freshDigest.getD session.handoff.manifestDigest),
      fun _ _ => by simp, ?_⟩
    refine (revalidate_advances faithful h identity freshCapabilities).bind fun _ _ _ hend => ?_
    exact Proc.holds_pure.mpr hend
  | exactPlanApproved planId a => exact absurd rfl (hc planId a)
  | _ => exact ⟨_, fun _ _ => by simp, persistTransition_advances faithful h _⟩

/-- A new session has published a journal that holds the lock, and nothing else. -/
theorem beginWithLock_publishes (faithful : Faithful fromSlice) (h : Represents L d)
    (handoff : FrozenExecutionHandoff) (durable : Bool) :
    Leads d (beginWithLock fromSlice handoff durable : SessionProc Unit _)
      (fun session d' => session.journal.phase = .hostLockHeld ∧ session.handoff = handoff ∧
        (Represents L d' ∨ Represents (L.push session.journal) d'))
      fun d' => Represents L d' ∨ ∃ j, j.phase = .hostLockHeld ∧ Represents (L.push j) d' := by
  have hbefore : Represents L d ∨ ∃ j, j.phase = .hostLockHeld ∧ Represents (L.push j) d := .inl h
  unfold beginWithLock
  refine (Sees.lifted _).andThen hbefore fun _ _ => ?_
  have hhistory : Sees d (whenDurable durable [] (openHistory fromSlice handoff) :
      SessionProc Unit _) fun _ => True := by
    cases durable with
    | false => exact .pure trivial
    | true => exact (openHistory_sees faithful h).imp fun _ _ => trivial
  refine hhistory.andThen hbefore fun history _ => ?_
  have hid : ∀ (id : String) (r : Except JournalStoreError String), Sees d (whenDurable durable id
      (onStore (Proc.lift r)) : SessionProc Unit _) fun _ => True := by
    intro id r
    cases durable with
    | false => exact .pure trivial
    | true => exact (Sees.lifted r).mapError.imp fun _ _ => trivial
  refine (hid _ _).andThen hbefore fun journalId _ => ?_
  refine (Sees.lifted _).andThen hbefore fun j hj => ?_
  have hphase : j.phase = .hostLockHeld := applyToCopy_hostLockHeld (mapError_eq_ok_iff.mp hj)
  have hbetween : ∀ d', Between L j d' →
      Represents L d' ∨ ∃ j, j.phase = .hostLockHeld ∧ Represents (L.push j) d' := by
    intro d' hd'
    rcases hd' with hd' | hd'
    · exact .inl hd'
    · exact .inr ⟨j, hphase, hd'⟩
  have hpublish : Leads d (whenDurable durable () (publishJournal fromSlice history j) :
      SessionProc Unit _) (fun _ d' => Between L j d')
      fun d' => Represents L d' ∨ ∃ j, j.phase = .hostLockHeld ∧ Represents (L.push j) d' := by
    cases durable with
    | false => exact Leads.pure (.inl h)
    | true => exact (publishJournal_leads faithful h history j).mono (fun _ _ => .inr) hbetween
  refine hpublish.bind fun _ d' hd' => ?_
  exact buildSessionId_sees.andThen (hbetween d' hd') fun _ _ => Leads.pure ⟨hphase, rfl, hd'⟩

/-- A reconciliation adds a record that is no approval. -/
theorem reconcilePrewrite_aborts (faithful : Faithful fromSlice) (h : Represents L d)
    (shownJournal : OperationJournal) (confirmation : String) :
    Leads d (reconcilePrewrite fromSlice shownJournal confirmation : DirProc storeEnv Unit _ _)
      (fun _ d' => Represents L d' ∨ ∃ j, j.phase ≠ .approved ∧ Represents (L.push j) d')
      fun d' => Represents L d' ∨ ∃ j, j.phase ≠ .approved ∧ Represents (L.push j) d' := by
  have hbefore : Represents L d ∨ ∃ j, j.phase ≠ .approved ∧ Represents (L.push j) d := .inl h
  unfold reconcilePrewrite
  refine all_sees.mapError.andThen hbefore fun _ _ => ?_
  refine load_sees.mapError.andThen hbefore fun j _ => (Sees.lifted _).andThen hbefore fun _ _ => ?_
  refine (Sees.lifted _).andThen hbefore fun _ _ => ?_
  refine (Sees.lifted _).andThen hbefore fun _ _ => ?_
  refine (Sees.lifted _).andThen hbefore fun _ _ => (Sees.lifted _).andThen hbefore fun next hnext => ?_
  have hphase : next.phase ≠ .approved := by
    intro happroved
    obtain ⟨planId, a, habort, -⟩ :=
      accepts_approved (applyToCopy_accepts (mapError_eq_ok_iff.mp hnext)) happroved
    cases habort
  refine ((persistIfMatches_commits faithful h j next).mono
    (fun _ d' hd' => .inr ⟨next, hphase, hd'⟩) fun d' hd' => ?_).mapError.bind
    fun _ d' hd' => Leads.pure hd'
  rcases hd' with hd' | hd'
  · exact .inl hd'
  · exact .inr ⟨next, hphase, hd'⟩

end Changes

end StorageManager.Executor.JournalStore
