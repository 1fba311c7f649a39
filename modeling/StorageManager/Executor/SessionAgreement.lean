import StorageManager.Executor.JournalBoundary
import StorageManager.Executor.SessionLedger

/-!
# A session and its durable record

The session keeps a copy of its journal. A method that succeeds leaves the copy and the record
equal; once they differ, no later method writes.
-/

namespace StorageManager.Executor.JournalStore

open Lib.Checks
open Lib.Directory
open Lib.Effects
open Lib.Json (toJson)
open Planner.ExecutionGuard

set_option autoImplicit false

section Replacing

variable {μ : Type} {d : Dir}

/-- Whatever happens to the directory, the memory of the caller is left alone. -/
abbrev Minds {ε α : Type} (d : Dir) (p : DirProc storeEnv μ ε α) : Prop :=
  Leads d p (fun _ _ => True) fun _ => True

theorem onDir_minds {ε : Type} {fault : Fault → ε} (op : DirOp) :
    Minds d (onDir fault op : DirProc storeEnv μ ε op.Val) :=
  Leads.onDir (fun _ _ _ => trivial) (fun _ _ _ => trivial) trivial

theorem writeStagedFile_minds (name : OsString) (bytes : List UInt8) :
    Minds d (writeStagedFile name bytes : StoreProc μ _) := by
  unfold writeStagedFile
  refine (onDir_minds _).bind fun _ _ _ => (onDir_minds _).bind fun _ _ _ => ?_
  refine (onDir_minds _).bind fun _ _ _ => (reopen_sees _).andThen trivial fun _ _ => ?_
  exact (Sees.lifted _).andThen trivial fun _ _ => Leads.pure trivial

theorem exchangeStaged_minds (final temp : OsString) (old : Node) :
    Minds d (exchangeStaged final temp old : StoreProc μ _) := by
  unfold exchangeStaged
  refine (check_sees _).andThen trivial fun _ _ => (check_sees _).andThen trivial fun _ _ => ?_
  refine (check_sees _).andThen trivial fun _ _ => (check_sees _).andThen trivial fun _ _ => ?_
  refine (fstat_sees _ _).andThen trivial fun _ _ => (reopen_sees _).andThen trivial fun _ _ => ?_
  refine (Sees.lifted _).andThen trivial fun _ _ => (onDir_minds _).bind fun _ _ _ => ?_
  exact (check_sees _).mono (fun _ _ _ => trivial) fun _ _ => trivial

variable [Fingerprint] {fromSlice : FromSlice} {e j : OperationJournal}

/-- The last look of a replacement is at the new record under its final name. -/
theorem retainDisplaced_shown (temp : OsString) (old staged : Node) :
    Leads d (retainDisplaced fromSlice e j (finalName j.journalId) temp old staged : StoreProc μ _)
      (fun _ d' => Shown fromSlice d' j) fun _ => True := by
  unfold retainDisplaced
  refine (onDir_minds _).bind fun _ _ _ => ?_
  refine (check_sees _).andThen trivial fun _ _ => (check_sees _).andThen trivial fun _ _ => ?_
  refine (loadPinnedJournal_sees _ _ _).andThen trivial fun _ _ => ?_
  refine (fstat_sees _ _).andThen trivial fun _ _ => ?_
  refine (loadPinnedJournal_sees _ _ _).andThen trivial fun final hfinal => ?_
  refine (fstat_sees _ _).andThen trivial fun _ _ => Leads.lift (fun _ hsame => ?_) trivial
  rw [refuse_eq_ok_iff] at hsame
  have hjournal : final.1 = j := by
    by_contra hne
    exact hsame (.inr (.inl hne))
  obtain ⟨hlookup, -, hdecoded⟩ := hfinal
  rw [hjournal] at hdecoded
  exact ⟨final.2, hlookup, hdecoded⟩

/-- After a replacement the directory shows the new record. -/
theorem persistIfMatches_shown (e j : OperationJournal) :
    Leads d (persistIfMatches fromSlice e j : StoreProc μ _)
      (fun _ d' => Shown fromSlice d' j) fun _ => True := by
  unfold persistIfMatches
  refine (Sees.lifted _).andThen trivial fun _ _ => (Sees.lifted _).andThen trivial fun _ _ => ?_
  refine (Sees.lifted _).andThen trivial fun _ _ => (check_sees _).andThen trivial fun _ _ => ?_
  refine (Sees.lifted _).andThen trivial fun final hfinal => ?_
  rw [pathFor_ok hfinal]
  refine (tempPath_sees _).andThen trivial fun _ _ => ?_
  refine (loadPinnedJournal_sees _ _ _).andThen trivial fun _ _ => ?_
  refine (Sees.lifted _).andThen trivial fun _ _ => (Sees.lifted _).andThen trivial fun _ _ => ?_
  refine (writeStagedFile_minds _ _).bind fun _ _ _ => (fstat_sees _ _).andThen trivial fun _ _ => ?_
  refine (requireTrusted_sees _ _ _).andThen trivial fun _ _ => ?_
  refine (exchangeStaged_minds _ _ _).bind fun _ _ _ => ?_
  refine (requireExchanged_sees _ _ _ _ _ _).andThen trivial fun _ _ => ?_
  exact retainDisplaced_shown _ _ _

/-- A record that is not the expected one is not replaced, and nothing is written. -/
theorem persistIfMatches_stale (h : ¬Shown fromSlice d e) :
    Sees d (persistIfMatches fromSlice e j : StoreProc μ _) fun _ => False := by
  unfold persistIfMatches
  refine (Sees.lifted _).bind fun _ _ => (Sees.lifted _).bind fun _ _ => ?_
  refine (Sees.lifted _).bind fun _ _ => (check_sees _).bind fun _ _ => ?_
  refine (Sees.lifted _).bind fun final hfinal => (tempPath_sees _).bind fun _ _ => ?_
  rw [pathFor_ok hfinal]
  refine (loadPinnedJournal_sees _ _ _).bind fun loaded hloaded => ?_
  refine (Sees.lifted _).bind fun _ hsame => absurd ?_ h
  rw [refuse_eq_ok_iff, not_not] at hsame
  obtain ⟨hlookup, -, hdecoded⟩ := hloaded
  have hid : e.journalId = j.journalId := hsame ▸ (decodeJournal_ok hdecoded).2
  refine ⟨loaded.2, ?_, ?_⟩
  · rw [hid]
    exact hlookup
  · rw [hid, ← hsame]
    exact hdecoded

end Replacing

section Calls

/-- The record was found to differ, or the inventory could not be read. -/
def LockedSessionError.RefusesStale (e : LockedSessionError) : Prop :=
  e = .durableJournalMismatch ∨ ∃ source, e = .durableJournal source

def SessionCall.isRevalidate : SessionCall → Bool
  | .revalidate .. => true
  | _ => false

variable [Fingerprint] {fromSlice : FromSlice} {session : LockedExecutionSession}
  {s : St (interface storeEnv)}

/-- A revalidation that reports a change of the target or of the tools. -/
def SessionCall.Blocked (session : LockedExecutionSession) (c : SessionCall) : Prop :=
  ∃ identity freshCapabilities, c = .revalidate identity freshCapabilities ∧
    (identity.sameIdentity && session.handoff.matchesCapabilities freshCapabilities) = false

/-- What the check of the durable record finds. -/
theorem requireCurrentDurableJournal_finds (hdurable : session.durable = true) :
    (requireCurrentDurableJournal fromSlice).Holds session s
      (fun _ after u => after = session ∧ u.world = s.world ∧ Shown fromSlice s.world session.journal)
      (fun e after u => after = session ∧ u.world = s.world ∧
        (¬Shown fromSlice s.world session.journal → e.RefusesStale)) fun _ => True := by
  unfold requireCurrentDurableJournal
  refine Proc.holds_bind.mpr (Proc.holds_get.mpr (Proc.holds_bind.mpr (Proc.holds_lift.mpr ⟨?_, ?_⟩)))
  · intro _ _
    refine Proc.holds_bind.mpr (Proc.holds_mapError.mpr ((all_sees.holds session s rfl).mono ?_ ?_ ?_))
    · rintro journals after u ⟨rfl, hworld, ks, rfl, hread⟩
      refine Proc.holds_bind.mpr (Proc.holds_lift.mpr ⟨fun _ hfound => ?_, fun e he => ?_⟩)
      · rw [refuse_eq_ok_iff, not_not] at hfound
        have hmem := (sortJournals_perm ks).mem_iff.mp (List.mem_of_find?_eq_some hfound)
        have hshown := hread.2 _ hmem
        have hrest : Sees s.world (do
            Proc.lift (refuseUnfinished (sortJournals ks) fun journal =>
              journal.journalId != after.journal.journalId && blocks after.journal.planId journal)
            refuseRuntimeEvidence : SessionProc LockedExecutionSession Unit) fun _ => True :=
          (Sees.lifted _).bind fun _ _ => refuseRuntimeEvidence_sees
        refine (hrest.holds after u hworld).mono ?_ ?_ fun _ _ => trivial
        · rintro _ _ t ⟨rfl, hsame, -⟩
          exact ⟨rfl, hsame, hshown⟩
        · rintro _ _ t ⟨rfl, hsame⟩
          exact ⟨rfl, hsame, fun hstale => absurd hshown hstale⟩
      · rw [refuse_eq_error_iff] at he
        exact ⟨rfl, hworld, fun _ => .inl he.2.symm⟩
    · rintro e after u ⟨rfl, hworld⟩
      exact ⟨rfl, hworld, fun _ => .inr ⟨e, rfl⟩⟩
    · exact fun _ _ => trivial
  · intro e he
    rw [refuse_eq_error_iff] at he
    exact absurd hdurable he.1

/-- What a method does to the session and to the directory, when it returns. -/
structure Settles (fromSlice : FromSlice) (c : SessionCall) (session : LockedExecutionSession)
    (d : Dir) (r : Except LockedSessionError Unit) (after : LockedExecutionSession) (d' : Dir) :
    Prop where
  durable : after.durable = session.durable
  attempted : after.revalidationAttempted = (session.revalidationAttempted || c.isRevalidate)
  ok : r = .ok () → Shown fromSlice d session.journal ∧ Shown fromSlice d' after.journal ∨
    c.Blocked session ∧ after.journal = session.journal ∧ d' = d
  error : ∀ e, r = .error e → after.journal = session.journal
  stale : ¬Shown fromSlice d session.journal → d' = d
  refused : ¬Shown fromSlice d session.journal → c.isRevalidate = false →
    ∃ e, r = .error e ∧ e.RefusesStale
  again : c.isRevalidate = true → session.revalidationAttempted = true →
    r = .error .revalidationAlreadyAttempted

/-- The replacement of the record, and then of the copy. -/
theorem persist_settles (fromSlice : FromSlice) (session : LockedExecutionSession)
    {next : OperationJournal} (after : LockedExecutionSession) (hjournal : after.journal = next) :
    Proc.Holds (do
        onStore (persistIfMatches fromSlice session.journal next)
        Proc.set after) session s
      (fun _ m u => m = after ∧ Shown fromSlice s.world session.journal ∧
        Shown fromSlice u.world after.journal)
      (fun _ m u => m = session ∧ (¬Shown fromSlice s.world session.journal → u.world = s.world))
      fun _ => True := by
  by_cases hshown : Shown fromSlice s.world session.journal
  · have hleads : Leads s.world
        (persistIfMatches fromSlice session.journal next : StoreProc LockedExecutionSession _)
        (fun _ d' => Shown fromSlice d' next) fun _ => True :=
      persistIfMatches_shown session.journal next
    have hwrites := hleads.holds session s rfl
    refine Proc.holds_bind.mpr (Proc.holds_mapError.mpr (hwrites.mono ?_ ?_ fun _ _ => trivial))
    · rintro _ m u ⟨-, hnext⟩
      exact ⟨rfl, hshown, hjournal ▸ hnext⟩
    · rintro _ m u ⟨rfl, -⟩
      exact ⟨rfl, fun hstale => absurd hshown hstale⟩
  · have hsees : Sees s.world
        (persistIfMatches fromSlice session.journal next : StoreProc LockedExecutionSession _)
        fun _ => False := persistIfMatches_stale hshown
    have hlooks := hsees.holds session s rfl
    refine Proc.holds_bind.mpr (Proc.holds_mapError.mpr (hlooks.mono ?_ ?_ fun _ _ => trivial))
    · rintro _ m u ⟨-, -, hnever⟩
      exact hnever.elim
    · rintro _ m u ⟨rfl, hworld⟩
      exact ⟨rfl, fun _ => hworld⟩

theorem persistTransition_settles (t : JournalTransition) {c : SessionCall}
    (hdurable : session.durable = true) (hc : c.isRevalidate = false) :
    (persistTransition fromSlice t).Holds session s
      (fun _ after u => Settles fromSlice c session s.world (.ok ()) after u.world)
      (fun e after u => Settles fromSlice c session s.world (.error e) after u.world)
      fun _ => True := by
  have hkept : ∀ (e : LockedSessionError) (d' : Dir),
      (¬Shown fromSlice s.world session.journal → d' = s.world ∧ e.RefusesStale) →
      Settles fromSlice c session s.world (.error e) session d' := by
    intro e d' hstale
    refine ⟨rfl, by rw [hc, Bool.or_false], ?_, fun _ _ => rfl, ?_, ?_, ?_⟩
    · intro h
      cases h
    · exact fun h => (hstale h).1
    · exact fun h _ => ⟨e, rfl, (hstale h).2⟩
    · intro h
      rw [hc] at h
      cases h
  unfold persistTransition
  refine Proc.holds_bind.mpr ((requireCurrentDurableJournal_finds hdurable).mono ?_ ?_
    fun _ _ => trivial)
  · rintro _ m u ⟨rfl, hworld, hshown⟩
    refine Proc.holds_bind.mpr (Proc.holds_get.mpr (Proc.holds_bind.mpr
      (Proc.holds_lift.mpr ⟨fun next _ => ?_, fun e _ => ?_⟩)))
    · refine (persist_settles fromSlice m { m with journal := next } rfl).mono ?_ ?_
        fun _ _ => trivial
      · rintro _ after v ⟨rfl, -, hnext⟩
        refine ⟨rfl, by rw [hc, Bool.or_false], fun _ => .inl ⟨hshown, hnext⟩, ?_, ?_, ?_, ?_⟩
        · intro e he
          cases he
        · exact fun hstale => absurd hshown hstale
        · exact fun hstale => absurd hshown hstale
        · intro h
          rw [hc] at h
          cases h
      · rintro e after v ⟨rfl, -⟩
        exact hkept e _ fun hstale => absurd hshown hstale
    · exact hkept e _ fun hstale => absurd hshown hstale
  · rintro e m u ⟨rfl, hworld, hstale⟩
    exact hkept e _ fun h => ⟨hworld, hstale h⟩

theorem revalidate_settles (identity : IdentityRevalidation)
    (freshCapabilities : Core.HostCapabilities) (hdurable : session.durable = true) :
    (JournalStore.revalidate fromSlice identity freshCapabilities).Holds session s
      (fun _ after u => Settles fromSlice (.revalidate identity freshCapabilities) session s.world
        (.ok ()) after u.world)
      (fun e after u => Settles fromSlice (.revalidate identity freshCapabilities) session s.world
        (.error e) after u.world)
      fun _ => True := by
  obtain ⟨sessionId, handoff, journal, durable, attempted⟩ := session
  dsimp only at hdurable
  subst hdurable
  unfold JournalStore.revalidate
  refine Proc.holds_bind.mpr (Proc.holds_get.mpr (Proc.holds_bind.mpr (Proc.holds_lift.mpr ⟨?_, ?_⟩)))
  · intro _ hattempted
    rw [refuse_eq_ok_iff] at hattempted
    have hfirst : attempted = false := Bool.not_eq_true _ ▸ hattempted
    subst hfirst
    have hfails : ∀ (e : LockedSessionError) (d' : Dir), (¬Shown fromSlice s.world journal →
        d' = s.world) → Settles fromSlice (.revalidate identity freshCapabilities)
        ⟨sessionId, handoff, journal, true, false⟩ s.world (.error e)
        ⟨sessionId, handoff, journal, true, true⟩ d' := by
      intro e d' hstale
      refine ⟨rfl, rfl, ?_, fun _ _ => rfl, hstale, ?_, ?_⟩
      · intro h
        cases h
      · intro _ h
        cases h
      · intro _ h
        cases h
    refine Proc.holds_bind.mpr (Proc.holds_set.mpr ?_)
    dsimp only
    split
    · refine Proc.holds_bind.mpr (Proc.holds_lift.mpr ⟨fun next _ => ?_, fun e _ => ?_⟩)
      · refine Proc.holds_bind.mpr ((Proc.holds_bind.mp (persist_settles fromSlice
          ⟨sessionId, handoff, journal, true, true⟩ ⟨sessionId, handoff, next, true, true⟩
          rfl)).mono (fun _ _ _ hset => ?_) ?_ fun _ _ => trivial)
        · obtain ⟨-, hshown, hnext⟩ := Proc.holds_set.mp hset
          refine Proc.holds_bind.mpr (Proc.holds_set.mpr (Proc.holds_pure.mpr ?_))
          refine ⟨rfl, rfl, fun _ => .inl ⟨hshown, hnext⟩, ?_, ?_, ?_, ?_⟩
          · intro e he
            cases he
          · exact fun hstale => absurd hshown hstale
          · exact fun hstale => absurd hshown hstale
          · intro _ h
            cases h
        · rintro e m u ⟨rfl, hstale⟩
          exact hfails e _ hstale
      · exact hfails e _ fun _ => rfl
    · next hblocked =>
      refine ⟨rfl, rfl, fun _ => .inr ⟨?_, rfl, rfl⟩, ?_, fun _ => rfl, ?_, ?_⟩
      · exact ⟨identity, freshCapabilities, rfl, Bool.not_eq_true _ ▸ hblocked⟩
      · intro e he
        cases he
      · intro _ h
        cases h
      · intro _ h
        cases h
  · intro e he
    rw [refuse_eq_error_iff] at he
    obtain ⟨hattempted, rfl⟩ := he
    refine ⟨rfl, ?_, ?_, fun _ _ => rfl, fun _ => rfl, ?_, fun _ _ => rfl⟩
    · rw [hattempted]
      rfl
    · intro h
      cases h
    · intro _ h
      cases h

/-- Every method settles. -/
theorem call_settles (c : SessionCall) (hdurable : session.durable = true) :
    (c.proc fromSlice).Holds session s
      (fun _ after u => Settles fromSlice c session s.world (.ok ()) after u.world)
      (fun e after u => Settles fromSlice c session s.world (.error e) after u.world)
      fun _ => True := by
  cases c with
  | revalidate identity freshCapabilities =>
    refine (revalidate_settles identity freshCapabilities hdurable).bind fun _ _ _ hend => ?_
    exact Proc.holds_pure.mpr hend
  | _ => exact persistTransition_settles _ hdurable rfl

end Calls

section Runs

variable [Fingerprint] {fromSlice : FromSlice} {session after : LockedExecutionSession}
  {s u : St (interface storeEnv)}

theorem Settles.of_can {c : SessionCall} {r : Except LockedSessionError Unit}
    (hdurable : session.durable = true) (h : Proc.Can (c.proc fromSlice) session s r after u) :
    Settles fromSlice c session s.world r after u.world := by
  cases r with
  | ok a => exact h.holds_ok (call_settles c hdurable)
  | error e => exact h.holds_error (call_settles c hdurable)

/-- Calls of a session that returned, one after the other, each with its result. -/
inductive SessionRun (fromSlice : FromSlice) : LockedExecutionSession → St (interface storeEnv) →
    List (SessionCall × Except LockedSessionError Unit) → LockedExecutionSession →
    St (interface storeEnv) → Prop
  | nil (session : LockedExecutionSession) (s : St (interface storeEnv)) :
    SessionRun fromSlice session s [] session s
  | cons {session middle after : LockedExecutionSession} {s t u : St (interface storeEnv)}
      {c : SessionCall} {r : Except LockedSessionError Unit}
      {calls : List (SessionCall × Except LockedSessionError Unit)} :
    Proc.Can (c.proc fromSlice) session s r middle t → SessionRun fromSlice middle t calls after u →
    SessionRun fromSlice session s ((c, r) :: calls) after u

variable {calls : List (SessionCall × Except LockedSessionError Unit)}

theorem SessionRun.durable (h : SessionRun fromSlice session s calls after u)
    (hdurable : session.durable = true) : after.durable = true := by
  induction h with
  | nil => exact hdurable
  | cons hcan _ ih => exact ih ((Settles.of_can hdurable hcan).durable.trans hdurable)

/-- A copy that differs from the record stays as it is, and nothing is written. -/
theorem SessionRun.stale (h : SessionRun fromSlice session s calls after u)
    (hdurable : session.durable = true) (hstale : ¬Shown fromSlice s.world session.journal) :
    after.journal = session.journal ∧ u.world = s.world ∧
      ∀ call ∈ calls, call.1.isRevalidate = false → ∃ e, call.2 = .error e ∧ e.RefusesStale := by
  induction h with
  | nil => exact ⟨rfl, rfl, fun _ h => by cases h⟩
  | @cons session middle after s t u c r calls hcan _ ih =>
    have hsettles := Settles.of_can hdurable hcan
    have hworld := hsettles.stale hstale
    have hjournal : middle.journal = session.journal := by
      cases r with
      | error e => exact hsettles.error e rfl
      | ok _ =>
        rcases hsettles.ok rfl with ⟨hshown, -⟩ | ⟨-, hsame, -⟩
        · exact absurd hshown hstale
        · exact hsame
    obtain ⟨hlast, hkept, hrefused⟩ := ih (hsettles.durable.trans hdurable)
      (by rw [hworld, hjournal]; exact hstale)
    refine ⟨hlast.trans hjournal, hkept.trans hworld, fun call hcall hpersist => ?_⟩
    rcases List.mem_cons.mp hcall with rfl | hcall
    · exact hsettles.refused hstale hpersist
    · exact hrefused call hcall hpersist

/-- A revalidation that returned `Ok`. -/
def revalidated (call : SessionCall × Except LockedSessionError Unit) : Bool :=
  call.1.isRevalidate && call.2.isOk

theorem SessionRun.countP_revalidated (h : SessionRun fromSlice session s calls after u)
    (hdurable : session.durable = true) :
    calls.countP revalidated ≤ if session.revalidationAttempted then 0 else 1 := by
  induction h with
  | nil => exact Nat.zero_le _
  | @cons session middle after s t u c r calls hcan _ ih =>
    have hsettles := Settles.of_can hdurable hcan
    have hrest := ih (hsettles.durable.trans hdurable)
    rw [hsettles.attempted] at hrest
    rw [List.countP_cons]
    cases hc : c.isRevalidate with
    | false =>
      rw [hc, Bool.or_false] at hrest
      simp only [revalidated, hc, Bool.false_and]
      exact hrest
    | true =>
      rw [hc, Bool.or_true, if_pos rfl] at hrest
      cases hattempted : session.revalidationAttempted with
      | false =>
        show _ ≤ 1
        split <;> omega
      | true =>
        simp only [revalidated, hc, hsettles.again hc hattempted, Except.isOk, Except.toBool]
        exact hrest

/-- After a method that succeeded, unless it is a revalidation that found a change, the copy is
the record. After one that failed the copy is what it was, and if the record is another one
then no later method writes, and no later transition succeeds. A session is revalidated once. -/
theorem session_agrees (hdurable : session.durable = true)
    (hrun : SessionRun fromSlice session s calls after u) :
    (∀ (c : SessionCall) r next v, Proc.Can (c.proc fromSlice) after u r next v →
      (r = .ok () → Shown fromSlice v.world next.journal ∨
        c.Blocked after ∧ next.journal = after.journal ∧ v.world = u.world) ∧
      ∀ e, r = .error e → next.journal = after.journal ∧
        (¬Shown fromSlice v.world next.journal → ∀ later last w,
          SessionRun fromSlice next v later last w → last.journal = next.journal ∧
            w.world = v.world ∧ ∀ call ∈ later, call.1.isRevalidate = false →
              ∃ e, call.2 = .error e ∧ e.RefusesStale)) ∧
    calls.countP revalidated ≤ 1 := by
  refine ⟨fun c r next v hcan => ?_, ?_⟩
  · have hafter := hrun.durable hdurable
    have hsettles := Settles.of_can hafter hcan
    refine ⟨fun hok => ?_, fun e he => ⟨hsettles.error e he, fun hstale later last w hlater => ?_⟩⟩
    · rcases hsettles.ok hok with ⟨-, hshown⟩ | hblocked
      · exact .inl hshown
      · exact .inr hblocked
    · exact hlater.stale (hsettles.durable.trans hafter) hstale
  · refine (hrun.countP_revalidated hdurable).trans ?_
    split <;> omega

end Runs

section Interrupted

variable {μ : Type} [Fingerprint] {fromSlice : FromSlice} {d : Dir} {made : Node}
  {answers : (op : StoreOp) → storeEnv.Ans op} {e j : OperationJournal} {old : Node}

/-- The replacement that fails at its first look at what it has published. -/
theorem persistIfMatches_mayFail (h : Writable made answers d j)
    (hreplace : Replaceable fromSlice answers d e j old) (fault : Fault) :
    MayYield d (persistIfMatches fromSlice e j : StoreProc μ _)
      (.error (openFault (stagedName answers j) j.journalId
        (storeFault (some (stagedName answers j)) fault)))
      (exchanged made answers d j old) := by
  have hextends : refuse (¬extendsExactly e j) (JournalStoreError.invalidRecord
      "journal update does not extend the exact prior history") = .ok () :=
    refuse_eq_ok_iff.mpr (not_not.mpr hreplace.extension)
  have hsame : refuse (e ≠ e) JournalStoreError.changedDuringInspection = .ok () :=
    refuse_eq_ok_iff.mpr (by simp)
  obtain ⟨-, hlookup, hregular, -, -, -⟩ := readStatic_eq_ok_iff.mp hreplace.current
  have hother : ∀ id, stagedName answers j ≠ finalName id := stagedName_ne_finalName
  have hfile := AList.lookup_insert (a := stagedName answers j)
    (b := fileWith made (encodeJournal j)) d
  have hold : (d.insert (stagedName answers j) (fileWith made (encodeJournal j))).lookup
      (finalName j.journalId) = some old := by
    rw [AList.lookup_insert_ne (hother _).symm, hlookup]
  have hmay : ∀ {α : Type} {p : StoreProc μ α} {r : Except JournalStoreError α} {d' d'' : Dir},
      Yields (granted made answers) d' p r d'' → MayYield d' p r d'' := fun hp => hp.may
  have hlook : ∀ d' : Dir, MayYield d' (requireExchanged fromSlice e j (finalName j.journalId)
      (stagedName answers j) old (fileWith made (encodeJournal j)) : StoreProc μ _)
      (.error (openFault (stagedName answers j) j.journalId
        (storeFault (some (stagedName answers j)) fault))) d' := by
    intro d'
    have hrefused : (DirOp.openFile (stagedName answers j)).perform (some fault) d' =
        (.error fault, d') := rfl
    have hopen : MayYield d' (onDir (storeFault (some (stagedName answers j)))
        (.openFile (stagedName answers j)) : StoreProc μ _)
        ((Except.error fault : Except Fault Node).mapError
          (storeFault (some (stagedName answers j)))) d' := MayYield.onDir (some fault) hrefused
    have hvalid := validateJournalId_eq_ok_iff.mpr h.valid.journalId
    unfold requireExchanged loadPinnedJournal openFile
    refine MayYield.bind_error ((hmay ((Shows.lift _).of_eq hvalid).yields).step ?_)
    exact (hopen.bind_error.mapError _).bind_error
  unfold persistIfMatches
  refine (hmay ((Shows.lift _).of_eq (validateJournal_eq_ok_iff.mpr hreplace.valid)).yields).step ?_
  refine (hmay ((Shows.lift _).of_eq (validateJournal_eq_ok_iff.mpr h.valid)).yields).step ?_
  refine (hmay ((Shows.lift _).of_eq hextends).yields).step ?_
  refine (hmay (check_shows _).yields).step ?_
  refine (hmay ((Shows.lift _).of_eq (pathFor_eq_ok h.valid.journalId)).yields).step ?_
  refine (hmay (tempPath_shows _).yields).step ?_
  refine (hmay ((loadPinnedJournal_shows _ _ _).of_eq hreplace.current).yields).step ?_
  refine (hmay ((Shows.lift _).of_eq hsame).yields).step ?_
  refine (hmay ((Shows.lift _).of_eq (serializeJournal_eq_ok h.size)).yields).step ?_
  refine (hmay (writeStagedFile_yields h.free)).step ?_
  refine (hmay (fstat_shows _ _).yields).step ?_
  refine (hmay (requireTrusted_shows (h.trusted _)).yields).step ?_
  exact (hmay (exchangeStaged_yields hfile hold hregular)).step (hlook _).bind_error

end Interrupted

section Sample

def heldJournal : OperationJournal :=
  draftJournal sampleDigest .hostLockHeld [⟨1, .planned, .hostLockHeld, "host-lock-acquired",
    "host-exclusive storage-operation lock acquired"⟩]

def stoppedJournal : OperationJournal :=
  heldJournal.moved .aborted "interrupted-before-mutation" "stop"

def heldSession : LockedExecutionSession where
  sessionId := sampleDigest
  handoff := sampleHandoff
  journal := heldJournal
  durable := true
  revalidationAttempted := false

def heldDir : Dir := (∅ : Dir).insert (finalName heldJournal.journalId) (journalFile 1 heldJournal)

theorem heldJournal_valid [Fingerprint] : ValidRecord heldJournal :=
  draftJournal_valid sampleDigest_isSha256Hex (by decide) (by decide) (by decide) (by decide)
    (by decide)

theorem stoppedJournal_valid [Fingerprint] : ValidRecord stoppedJournal :=
  draftJournal_valid sampleDigest_isSha256Hex (by decide) (by decide) (by decide) (by decide)
    (by decide)

theorem heldDir_reads [Fingerprint] : readStatic faithfulReader 0 heldDir (finalName heldJournal.journalId)
    heldJournal.journalId 1 = .ok (heldJournal, journalFile 1 heldJournal) :=
  readStatic_journalFile faithfulReader_faithful heldJournal_valid
    ((encodeJournal_length_le _).trans (by decide +kernel)) (AList.lookup_insert _)

theorem heldDir_all [Fingerprint] {μ : Type} : Shows (granted madeByRoot rootAnswers) heldDir
    (all faithfulReader : StoreProc μ _) (.ok [heldJournal]) := by
  refine all_shows.of_eq ?_
  have hnames : DirOp.sortNames heldDir.keys = [finalName heldJournal.journalId] :=
    List.mergeSort_singleton _
  have hsorted : sortJournals [heldJournal] = [heldJournal] := List.mergeSort_singleton _
  show (entriesStatic faithfulReader 0 heldDir _ >>= _) = _
  rw [hnames, entriesStatic, entryStatic_finalName heldDir_reads, entriesStatic]
  exact congrArg Except.ok hsorted

theorem heldDir_current [Fingerprint] : ∃ t, t.world = heldDir ∧
    Proc.Plays (granted madeByRoot rootAnswers) (requireCurrentDurableJournal faithfulReader)
      heldSession ⟨heldDir, []⟩ (.ok ()) heldSession t := by
  have hrest : Shows (granted madeByRoot rootAnswers) heldDir (do
      let journals ← onStore (all faithfulReader)
      Proc.lift (refuse (journals.find? (·.journalId == heldJournal.journalId) ≠
        some heldJournal) .durableJournalMismatch)
      Proc.lift (refuseUnfinished journals fun journal =>
        journal.journalId != heldJournal.journalId && blocks heldJournal.planId journal)
      refuseRuntimeEvidence : SessionProc LockedExecutionSession Unit) (.ok ()) := by
    have hfound : refuse ([heldJournal].find? (·.journalId == heldJournal.journalId) ≠
        some heldJournal) LockedSessionError.durableJournalMismatch = .ok () :=
      refuse_eq_ok_iff.mpr (not_not.mpr rfl)
    have hfinished : refuseUnfinished [heldJournal] (fun journal =>
        journal.journalId != heldJournal.journalId && blocks heldJournal.planId journal) =
        .ok () := rfl
    refine (heldDir_all.mapError _).step (Shows.step ((Shows.lift _).of_eq hfound) ?_)
    refine Shows.step ((Shows.lift _).of_eq hfinished) ?_
    refine Shows.step ((Shows.ask (E := storeEnv) .unclassifiedRuntimeEvidence).mapError _) ?_
    exact Shows.step ((Shows.lift _).mapError _) (.pure ())
  obtain ⟨t, ht, hplays⟩ := hrest heldSession ⟨heldDir, []⟩ rfl
  exact ⟨t, ht, Proc.Plays.get.bind ((Proc.Plays.lift rfl).bind hplays)⟩

/-- An interruption is published, and then the store fails. -/
theorem interrupted_mayFail [Fingerprint] : ∃ u, u.world =
      exchanged madeByRoot rootAnswers heldDir stoppedJournal (journalFile 1 heldJournal) ∧
    Proc.Can ((SessionCall.interrupted "stop").proc faithfulReader) heldSession ⟨heldDir, []⟩
      (.error (.durableJournal (.io (some (stagedName rootAnswers stoppedJournal))
        (.other "I/O error")))) heldSession u := by
  have hwritable : Writable madeByRoot rootAnswers heldDir stoppedJournal := by
    refine ⟨stoppedJournal_valid, ?_, ?_, rfl, rfl⟩
    · exact (Lib.Json.toBytes_length_le _).trans (by decide +kernel)
    · unfold heldDir
      rw [AList.lookup_insert_ne (stagedName_ne_finalName _)]
      rfl
  have hreplace : Replaceable faithfulReader rootAnswers heldDir heldJournal stoppedJournal
      (journalFile 1 heldJournal) := by
    refine ⟨heldJournal_valid, by decide, heldDir_reads, ?_⟩
    have hhistory : historyName heldJournal.journalId heldJournal.events.length
        (journalContentDigest heldJournal) ≠ finalName heldJournal.journalId :=
      KeptUnder.ne_final (.inr rfl) _
    show heldDir.lookup (historyName heldJournal.journalId _ _) = none
    unfold heldDir
    rw [AList.lookup_insert_ne hhistory]
    rfl
  have hfails := (persistIfMatches_mayFail (μ := LockedExecutionSession) hwritable hreplace
    (.other "I/O error")).mapError LockedSessionError.durableJournal
  have happly : (applyToCopy heldJournal (.interrupted "stop")).mapError
      LockedSessionError.journal = .ok stoppedJournal := rfl
  obtain ⟨t, ht, hcurrent⟩ := heldDir_current
  obtain ⟨u, hu, hcan⟩ := hfails heldSession t ht
  refine ⟨u, hu, hcurrent.can.bind (Proc.Can.get.bind ?_)⟩
  exact (Proc.Can.lift happly).bind hcan.bind_error

/-- A revalidation that finds another target succeeds and looks at nothing. -/
theorem revalidate_blocked [Fingerprint] (session : LockedExecutionSession)
    (s : St (interface storeEnv)) (identity : IdentityRevalidation)
    (freshCapabilities : Core.HostCapabilities) (hfirst : session.revalidationAttempted = false)
    (hchanged : identity.sameIdentity = false) :
    Proc.Can ((SessionCall.revalidate identity freshCapabilities).proc faithfulReader) session s
      (.ok ()) { session with revalidationAttempted := true } s := by
  have hgranted : refuse session.revalidationAttempted
      LockedSessionError.revalidationAlreadyAttempted = .ok () := by
    rw [hfirst]
    rfl
  have hblocks : ¬(identity.sameIdentity &&
      session.handoff.matchesCapabilities freshCapabilities) = true := by
    rw [hchanged, Bool.false_and]
    exact Bool.false_ne_true
  have hreports : ∃ report, Proc.Can (JournalStore.revalidate faithfulReader identity
      freshCapabilities) session s (.ok report) { session with revalidationAttempted := true }
      s := by
    apply Exists.intro
    refine Proc.Can.get.bind ((Proc.Can.lift hgranted).bind ((Proc.Can.set _).bind ?_))
    rw [if_neg hblocks]
    exact .pure _
  obtain ⟨report, hreport⟩ := hreports
  exact hreport.bind (.pure ())

/-- A store that cannot be opened fails a transition, and not for a mismatch. -/
theorem completed_mayFail [Fingerprint] (session : LockedExecutionSession)
    (s : St (interface storeEnv)) (hdurable : session.durable = true) :
    ∃ t, Proc.Can (SessionCall.completed.proc faithfulReader) session s
      (.error (.durableJournal (.io none (.other "I/O error")))) session t := by
  have hperform : (DirOp.check .openDirectory).perform (some (.other "I/O error")) s.world =
      (.error (.other "I/O error"), s.world) := rfl
  have hopen : MayYield s.world (check .openDirectory : StoreProc LockedExecutionSession _)
      ((Except.error (Fault.other "I/O error") : Except Fault Unit).mapError (storeFault none))
      s.world := MayYield.onDir (some (.other "I/O error")) hperform
  have hall : MayYield s.world (all faithfulReader : StoreProc LockedExecutionSession _)
      (.error (.io none (.other "I/O error"))) s.world := by
    unfold all
    exact hopen.bind_error
  have hstore : refuse (¬session.durable) LockedSessionError.durableJournalRequired = .ok () :=
    refuse_eq_ok_iff.mpr (not_not.mpr hdurable)
  obtain ⟨t, -, hcan⟩ := hall.mapError LockedSessionError.durableJournal session s rfl
  refine ⟨t, Proc.Can.bind_error (Proc.Can.get.bind ((Proc.Can.lift hstore).bind ?_))⟩
  exact hcan.bind_error

/-- The law of a session at an interruption that failed after it was published. -/
theorem session_agrees_sample : ∃ e u,
    (∀ (c : SessionCall) r next v, Proc.Can (c.proc faithfulReader) heldSession u r next v →
      (r = .ok () → Shown faithfulReader v.world next.journal ∨
        c.Blocked heldSession ∧ next.journal = heldSession.journal ∧ v.world = u.world) ∧
      ∀ e, r = .error e → next.journal = heldSession.journal ∧
        (¬Shown faithfulReader v.world next.journal → ∀ later last w,
          SessionRun faithfulReader next v later last w → last.journal = next.journal ∧
            w.world = v.world ∧ ∀ call ∈ later, call.1.isRevalidate = false →
              ∃ e, call.2 = .error e ∧ e.RefusesStale)) ∧
    List.countP revalidated [(.interrupted "stop", .error e)] ≤ 1 := by
  obtain ⟨u, -, hcan⟩ := interrupted_mayFail
  exact ⟨_, u, session_agrees rfl (.cons hcan (.nil _ _))⟩

/-- The interruption fails, the record has it, and the next revalidation succeeds without it. A
store that cannot be opened is no mismatch. -/
theorem session_disagrees_sample : ∃ e after u, heldSession.durable = true ∧
    Shown faithfulReader heldDir heldSession.journal ∧
    SessionRun faithfulReader heldSession ⟨heldDir, []⟩ [(.interrupted "stop", .error e),
      (.revalidate ⟨false, sampleDigest, none, []⟩ ⟨[]⟩, .ok ())] after u ∧
    ¬Shown faithfulReader u.world after.journal ∧
    ∃ later v, Proc.Can (SessionCall.completed.proc faithfulReader) after u (.error later) after v ∧
      later ≠ .durableJournalMismatch := by
  obtain ⟨u, hu, hcan⟩ := interrupted_mayFail
  obtain ⟨v, hlater⟩ := completed_mayFail { heldSession with revalidationAttempted := true } u rfl
  refine ⟨_, _, u, rfl, ?_, .cons hcan (.cons (revalidate_blocked _ _ _ _ rfl rfl) (.nil _ _)), ?_,
    _, v, hlater, by decide⟩
  · obtain ⟨-, hlookup, -, -, -, hdecoded⟩ := readStatic_eq_ok_iff.mp heldDir_reads
    exact ⟨_, hlookup, hdecoded⟩
  · rintro ⟨node, hlookup, hdecoded⟩
    have hpublished : (exchanged madeByRoot rootAnswers heldDir stoppedJournal
        (journalFile 1 heldJournal)).lookup (finalName heldJournal.journalId) =
        some (fileWith madeByRoot (encodeJournal stoppedJournal)) := AList.lookup_insert _
    have hstopped := decodeJournal_encodeJournal stoppedJournal_valid
      (faithfulReader_faithful stoppedJournal)
    rw [hu] at hlookup
    rw [← Option.some.inj (hpublished.symm.trans hlookup)] at hdecoded
    have hsame : stoppedJournal = heldJournal := Except.ok.inj (hstopped.symm.trans hdecoded)
    exact absurd (congrArg OperationJournal.phase hsame) (by decide)

end Sample

end StorageManager.Executor.JournalStore
