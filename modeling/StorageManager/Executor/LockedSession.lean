import StorageManager.Executor.JournalDirectory
import StorageManager.Planner.SnapshotJson

/-!
# Locked sessions

A session holds the host lock for one frozen handoff. With a journal store it begins only
when no journal of the store stands in the way, publishes a journal of its own, and writes
each transition before it believes in it. Reconciliation aborts an abandoned journal whose
record proves that no write began.
-/

namespace StorageManager.Executor.JournalStore

open Core
open Lib.Checks (refuse)
open Lib.Directory
open Lib.Effects
open Lib.Json (ToJson toJson)
open Planner.ExecutionGuard

set_option autoImplicit false

section Handoff

inductive ExecutionHandoffStatus where
  | futureExecutorGatesRequired
  | blocked
  deriving DecidableEq

/-- What a session reads of a handoff. The builder makes the guard for the plan. -/
structure FrozenExecutionHandoff where
  handoffId : String
  mutationEnabled : Bool
  status : ExecutionHandoffStatus
  planId : String
  capabilitiesDigest : String
  manifestDigest : String
  guard : ExecutionGuardPlan
  guard_planId : guard.planId = planId

def mutationEnabled : Bool := false

def hostStorageLockPath : String := "/run/lock/linux-storage-manager/storage.lock"

structure IdentityChange where
  code : String
  message : String
  deriving DecidableEq

/-- What `revalidate_target_identity` reports. -/
structure IdentityRevalidation where
  sameIdentity : Bool
  baselineDigest : String
  freshDigest : Option String
  changes : List IdentityChange
  deriving DecidableEq

inductive LockedRevalidationStatus where
  | revalidated
  | blocked
  deriving DecidableEq

structure LockedRevalidation where
  status : LockedRevalidationStatus
  identity : IdentityRevalidation
  capabilitiesMatch : Bool
  blockers : List String
  deriving DecidableEq

structure LockedExecutionSession where
  sessionId : String
  handoff : FrozenExecutionHandoff
  journal : OperationJournal
  /-- There is a journal store. -/
  durable : Bool
  revalidationAttempted : Bool

inductive LockedSessionError where
  | handoffBlocked
  | mutationEnabled
  | revalidationAlreadyAttempted
  | journal (source : JournalError)
  | durableJournalRequired
  | durableJournalMismatch
  | durableJournal (source : JournalStoreError)
  | unfinishedMutation (journalId target : String) (phase : JournalPhase)
  | unclassifiedRuntimeJournal (path : String)
  deriving DecidableEq

abbrev SessionProc (μ : Type) := DirProc storeEnv μ LockedSessionError

def validateHandoff (handoff : FrozenExecutionHandoff) : Except LockedSessionError Unit := do
  refuse (handoff.status = .blocked) .handoffBlocked
  refuse (handoff.mutationEnabled ∨ mutationEnabled) .mutationEnabled

variable [Fingerprint]

def FrozenExecutionHandoff.matchesCapabilities (handoff : FrozenExecutionHandoff)
    (capabilities : HostCapabilities) : Bool :=
  fingerprint (toJson capabilities) == handoff.capabilitiesDigest

end Handoff

section Attempts

/-- `to_le_bytes` of a number of this many bytes. -/
def toLeBytes : Nat → Nat → List UInt8
  | 0, _ => []
  | width + 1, n => UInt8.ofNat n :: toLeBytes width (n / 256)

/-- The journal id of the n-th attempt of a plan. -/
def attemptId (proposed : OperationJournal) (attempt : Nat) : String :=
  if attempt = 0 then proposed.journalId
  else
    Lib.Sha256.sha256Hex ("linux-storage-manager:journal-attempt:v1\x00".toUTF8.data.toList ++
      proposed.journalId.toUTF8.data.toList ++ toLeBytes 8 attempt)

def sameOperation (journal proposed : OperationJournal) : Bool :=
  journal.planId == proposed.planId && journal.target == proposed.target &&
    journal.baselineManifestDigest == proposed.baselineManifestDigest

/-- The loop over the attempts; `related` are the journals of the plan not met so far. -/
def nextAttemptFrom (history : List OperationJournal) (proposed : OperationJournal) :
    Nat → Nat → List String → Except JournalStoreError String
  | 0, _, _ => .error (.invalidRecord "too many retained attempts for this plan")
  | rounds + 1, attempt, related =>
    let candidate := attemptId proposed attempt
    match history.find? (·.journalId == candidate) with
    | none =>
      if related = [] then .ok candidate
      else .error (.invalidRecord "journal attempt history has a gap or unrecognized entry")
    | some previous =>
      if previous.phase = .aborted ∧ ¬previous.mutationMayHaveStarted ∧
          sameOperation previous proposed then
        nextAttemptFrom history proposed rounds (attempt + 1) (related.filter (· ≠ candidate))
      else .error (.alreadyExists candidate)

def nextAttemptId (history : List OperationJournal) (proposed : OperationJournal) :
    Except JournalStoreError String :=
  nextAttemptFrom history proposed 1024 0
    ((history.filter (sameOperation · proposed)).map (·.journalId))

end Attempts

/-- The transition on a copy of the journal. -/
def applyToCopy [Fingerprint] (journal : OperationJournal) (t : JournalTransition) :
    Except JournalError OperationJournal :=
  match journal.apply t with
  | (.ok (), next) => .ok next
  | (.error e, _) => .error e

/-- The journal stands in the way of a plan: it may have begun to write and did not
complete, or it was for this plan. -/
def blocks (planId : String) (journal : OperationJournal) : Bool :=
  journal.mutationMayHaveStarted && (journal.phase != .completed || journal.planId == planId)

def refuseUnfinished (journals : List OperationJournal) (p : OperationJournal → Bool) :
    Except LockedSessionError Unit :=
  match journals.find? p with
  | some previous =>
    .error (.unfinishedMutation previous.journalId previous.target previous.phase)
  | none => .ok ()

section Sessions

variable {μ α : Type}

def onStore (p : StoreProc μ α) : SessionProc μ α := p.mapError .durableJournal

/-- `if let Some(store)`. -/
def whenDurable (durable : Bool) (otherwise : α) (p : SessionProc μ α) : SessionProc μ α :=
  if durable then p else pure otherwise

def onJournal (r : Except JournalError α) : SessionProc μ α := Proc.lift (r.mapError .journal)

/-- No other runtime store may hold anything. -/
def refuseRuntimeEvidence : SessionProc μ Unit := do
  let evidence ← onStore (host .unclassifiedRuntimeEvidence)
  let paths ← onStore (Proc.lift evidence)
  match paths with
  | [] => pure ()
  | path :: _ => Proc.throw (.unclassifiedRuntimeJournal path)

/-- `build_session_id`: the two counters are those of the process. -/
def buildSessionId (handoff : FrozenExecutionHandoff) : SessionProc μ String := do
  let sequence ← onStore (host .nextSequence)
  let pid ← onStore (host .processId)
  pure (Lib.Sha256.sha256Hex ("linux-storage-manager:locked-session:v1\x00".toUTF8.data.toList ++
    handoff.handoffId.toUTF8.data.toList ++ [0] ++ toLeBytes 4 pid ++ toLeBytes 8 sequence ++
    hostStorageLockPath.toUTF8.data.toList))

variable [Fingerprint] (fromSlice : FromSlice)

/-- The journals of the store, none of which stands in the way of the plan. -/
def openHistory (handoff : FrozenExecutionHandoff) : SessionProc μ (List OperationJournal) := do
  onStore (check (.prepareDirectory true))
  refuseRuntimeEvidence
  let history ← onStore (all fromSlice)
  Proc.lift (refuseUnfinished history (blocks handoff.planId))
  pure history

/-- The journal of the session enters the store, in which nothing else has changed. -/
def publishJournal (history : List OperationJournal) (journal : OperationJournal) :
    SessionProc μ Unit := do
  let live ← onStore (all fromSlice)
  Proc.lift (refuse (history ≠ live) (.durableJournal .changedDuringInspection))
  refuseRuntimeEvidence
  onStore (persistNew fromSlice journal)
  let published ← onStore (all fromSlice)
  Proc.lift (refuse (published ≠ sortJournals (history ++ [journal]))
    (.durableJournal .changedDuringInspection))
  refuseRuntimeEvidence

/-- Under the lock, with a journal store or without. -/
def beginWithLock (handoff : FrozenExecutionHandoff) (durable : Bool) :
    SessionProc μ LockedExecutionSession := do
  Proc.lift (validateHandoff handoff)
  let history ← whenDurable durable [] (openHistory fromSlice handoff)
  let proposed := OperationJournal.new handoff.guard
  let journalId ← whenDurable durable proposed.journalId
    (onStore (Proc.lift (nextAttemptId history proposed)))
  let journal ← onJournal (applyToCopy { proposed with journalId } .hostLockAcquired)
  whenDurable durable () (publishJournal fromSlice history journal)
  let sessionId ← buildSessionId handoff
  pure { sessionId, handoff, journal, durable, revalidationAttempted := false }

/-- The durable record is the journal of the session, and no other stands in its way. -/
def requireCurrentDurableJournal : SessionProc LockedExecutionSession Unit := do
  let session ← Proc.get
  Proc.lift (refuse (¬session.durable) .durableJournalRequired)
  let journals ← onStore (all fromSlice)
  Proc.lift (refuse (journals.find? (·.journalId == session.journal.journalId) ≠
    some session.journal) .durableJournalMismatch)
  Proc.lift (refuseUnfinished journals fun journal =>
    journal.journalId != session.journal.journalId && blocks session.journal.planId journal)
  refuseRuntimeEvidence

/-- A transition is written first and then believed. -/
def persistTransition (t : JournalTransition) : SessionProc LockedExecutionSession Unit := do
  requireCurrentDurableJournal fromSlice
  let session ← Proc.get
  let next ← onJournal (applyToCopy session.journal t)
  onStore (persistIfMatches fromSlice session.journal next)
  Proc.set { session with journal := next }

def persistPreconditionsVerified : SessionProc LockedExecutionSession Unit :=
  persistTransition fromSlice .preconditionsVerified

def persistExactPlanApproved (approvedPlanId : String) (approval : ExactApprovalBinding) :
    SessionProc LockedExecutionSession Unit :=
  persistTransition fromSlice (.exactPlanApproved approvedPlanId approval)

def persistExecutionStarted (binding : ExecutionStartBinding) :
    SessionProc LockedExecutionSession Unit :=
  persistTransition fromSlice (.executionStarted binding)

def persistVerificationStarted : SessionProc LockedExecutionSession Unit :=
  persistTransition fromSlice .verificationStarted

def persistVerificationPassedContinue (completedStepId nextStepId : Nat)
    (freshIdentityDigest : String) : SessionProc LockedExecutionSession Unit :=
  persistTransition fromSlice
    (.verificationPassedContinue completedStepId nextStepId freshIdentityDigest)

def persistVerifiedCompleted (completedStepId : Nat) (freshIdentityDigest : String) :
    SessionProc LockedExecutionSession Unit :=
  persistTransition fromSlice (.verificationPassedComplete completedStepId freshIdentityDigest)

def persistCompleted : SessionProc LockedExecutionSession Unit :=
  persistTransition fromSlice .completed

def persistInterrupted (reason : String) : SessionProc LockedExecutionSession Unit :=
  persistTransition fromSlice (.interrupted reason)

/-- Once for each session, with what the fresh discovery says about the target and the
capabilities. -/
def revalidate (identity : IdentityRevalidation) (freshCapabilities : HostCapabilities) :
    SessionProc LockedExecutionSession LockedRevalidation := do
  let session ← Proc.get
  Proc.lift (refuse session.revalidationAttempted .revalidationAlreadyAttempted)
  Proc.set { session with revalidationAttempted := true }
  let capabilitiesMatch := session.handoff.matchesCapabilities freshCapabilities
  let blockers := identity.changes.map (fun change => s!"{change.code}: {change.message}") ++
    if capabilitiesMatch then [] else
      ["capability-inventory-changed: storage tool capability inventory changed since the " ++
        "frozen handoff"]
  if identity.sameIdentity && capabilitiesMatch then do
    let freshDigest := identity.freshDigest.getD session.handoff.manifestDigest
    let next ← onJournal (applyToCopy session.journal (.identityRevalidated freshDigest))
    whenDurable session.durable () (onStore (persistIfMatches fromSlice session.journal next))
    Proc.set { session with revalidationAttempted := true, journal := next }
    pure ⟨.revalidated, identity, capabilitiesMatch, blockers⟩
  else pure ⟨.blocked, identity, capabilitiesMatch, blockers⟩

end Sessions

section Reconciliation

inductive ReconciliationError where
  | store (source : JournalStoreError)
  | journal (source : JournalError)
  | confirmationMismatch
  | journalChanged
  | ambiguousMutation
  | terminal
  deriving DecidableEq

variable {μ : Type} [Fingerprint] (fromSlice : FromSlice)

/-- `reconcile_prewrite_at`, under the host lock. -/
def reconcilePrewrite (shownJournal : OperationJournal) (confirmation : String) :
    DirProc storeEnv μ ReconciliationError OperationJournal := do
  let _ ← (all fromSlice).mapError .store
  let journal ← (load fromSlice shownJournal.journalId).mapError .store
  Proc.lift (refuse (journal ≠ shownJournal) .journalChanged)
  Proc.lift (refuse (confirmation ≠ s!"ABORT {journal.journalId}") .confirmationMismatch)
  Proc.lift (refuse (journal.mutationMayHaveStarted ∨ journal.phase = .executing ∨
    journal.phase = .verifying ∨ journal.phase = .recoveryRequired) .ambiguousMutation)
  Proc.lift (refuse (journal.phase = .completed ∨ journal.phase = .aborted) .terminal)
  let next ← Proc.lift ((applyToCopy journal (.abort ("operator reconciled abandoned pre-write " ++
    "operation; no mutation boundary was crossed"))).mapError .journal)
  (persistIfMatches fromSlice journal next).mapError .store
  pure next

end Reconciliation

end StorageManager.Executor.JournalStore
