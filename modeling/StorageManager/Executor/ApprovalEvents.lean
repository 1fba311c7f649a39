import StorageManager.Executor.ExecutionIntent
import StorageManager.Executor.SessionLedger

/-!
# Processes and what they were given

Processes begin sessions, capture and revalidate backups, collect evidence, verify
preconditions and approve, each with whatever objects it has been given so far. Every object
comes about in one way, from those before it, and every approved journal was approved with
a verification of its session.
-/

namespace StorageManager.Executor.JournalStore

open Core
open Lib.Checks
open Lib.Directory
open Lib.Effects
open Planner
open Planner.ExecutionGuard
open Planner.ExecutionGuard.OperationJournal (Accepts)

set_option autoImplicit false

section Ids

/-- What a session id is the digest of. -/
def sessionPreimage (handoffId : String) (pid sequence : Nat) : List UInt8 :=
  "linux-storage-manager:locked-session:v1\x00".toUTF8.data.toList ++
    handoffId.toUTF8.data.toList ++ [0] ++ toLeBytes 4 pid ++ toLeBytes 8 sequence ++
    hostStorageLockPath.toUTF8.data.toList

def sessionDigest (handoffId : String) (pid sequence : Nat) : String :=
  Lib.Sha256.sha256Hex (sessionPreimage handoffId pid sequence)

@[simp] theorem toLeBytes_length (width n : Nat) : (toLeBytes width n).length = width := by
  induction width generalizing n with
  | zero => rfl
  | succ width ih => rw [toLeBytes, List.length_cons, ih]

/-- The bytes of a number that fits are the number. -/
theorem toLeBytes_inj {width m n : Nat} (hm : m < 256 ^ width) (hn : n < 256 ^ width)
    (h : toLeBytes width m = toLeBytes width n) : m = n := by
  induction width generalizing m n with
  | zero => omega
  | succ width ih =>
    rw [toLeBytes, toLeBytes, List.cons.injEq] at h
    have hlow : m % 256 = n % 256 := by
      have := congrArg UInt8.toNat h.1
      simpa using this
    have hhigh : m / 256 = n / 256 := by
      rw [pow_succ] at hm hn
      exact ih (Nat.div_lt_of_lt_mul (by omega)) (Nat.div_lt_of_lt_mul (by omega)) h.2
    omega

/-- The number of a session is in what its id is the digest of. -/
theorem sessionPreimage_sequence {handoffId handoffId' : String} {pid m n : Nat}
    (hm : m < 2 ^ 64) (hn : n < 2 ^ 64)
    (h : sessionPreimage handoffId pid m = sessionPreimage handoffId' pid n) : m = n := by
  unfold sessionPreimage at h
  obtain ⟨h, -⟩ := List.append_inj' h rfl
  obtain ⟨-, h⟩ := List.append_inj' h (by rw [toLeBytes_length, toLeBytes_length])
  exact toLeBytes_inj (by omega) (by omega) h

/-- Every session that begins has such an id, with the counters of its process. -/
theorem buildSessionId_digest {μ : Type} (handoff : FrozenExecutionHandoff) {d : Dir} :
    Sees d (buildSessionId handoff : SessionProc μ _) fun id =>
      ∃ pid sequence, id = sessionDigest handoff.handoffId pid sequence :=
  (host_sees _).mapError.bind fun sequence _ => (host_sees _).mapError.bind fun pid _ =>
    .pure ⟨pid, sequence, rfl⟩

end Ids

section Events

/-- What a fresh look found for a bundle of evidence. -/
structure EvidenceInputs where
  baseline : TargetIdentityManifest
  fresh : Except String TargetIdentityManifest
  capabilities : HostCapabilities
  decision : FilesystemGrowthDecision
  backup : BackupReceiptRevalidation
  health : Option ExplicitFilesystemHealthReceipt

/-- What a process has been given, with the session it asked. Nothing else makes these
objects, and none of them can be read from outside. -/
inductive Event where
  | began (number : Nat) (session : LockedExecutionSession)
  | captured (session : LockedExecutionSession) (receipt : MetadataBackupReceipt)
  | revalidated (receipt : MetadataBackupReceipt) (backup : BackupReceiptRevalidation)
  | checkedHealth (session : LockedExecutionSession) (receipt : ExplicitFilesystemHealthReceipt)
  | collected (session : LockedExecutionSession) (inputs : EvidenceInputs)
      (bundle : PreMutationEvidenceBundle)
  | verified (session : LockedExecutionSession) (bundle : PreMutationEvidenceBundle)
      (verification : PreconditionsVerification)
  | approved (session : LockedExecutionSession) (verification : PreconditionsVerification)
      (approval : ExactPlanApproval)

/-- The processes are numbered; an event is one of its process. -/
abbrev Events := List (Nat × Event)

/-- The session is a later state of one that the process began. -/
def Belongs (events : Events) (p number : Nat) (session : LockedExecutionSession) : Prop :=
  ∃ first, (p, .began number first) ∈ events ∧ session.sessionId = first.sessionId ∧
    session.handoff = first.handoff ∧ SameHeader first.journal session.journal

variable [Fingerprint]

def EvidenceInputs.bundle (inputs : EvidenceInputs) (session : LockedExecutionSession) :
    Except PreMutationEvidenceError PreMutationEvidenceBundle :=
  buildPreMutationEvidence session (revalidateTargetIdentity inputs.baseline inputs.fresh)
    inputs.capabilities inputs.decision inputs.backup inputs.health

/-- How an event came about, from those before it. -/
def Justified (pid : Nat → Nat) (events : Events) : Nat × Event → Prop
  | (p, .began number session) =>
    session.sessionId = sessionDigest session.handoff.handoffId (pid p) number
  | (p, .captured session receipt) => (∃ n, Belongs events p n session) ∧
      receipt.sessionId = session.sessionId ∧ receipt.journalId = session.journal.journalId
  | (p, .revalidated receipt backup) => (∃ session, (p, .captured session receipt) ∈ events) ∧
      backup.sessionId = receipt.sessionId ∧ backup.journalId = receipt.journalId
  | (p, .checkedHealth session receipt) => (∃ n, Belongs events p n session) ∧
      receipt.lockedSessionId = session.sessionId
  | (p, .collected session inputs bundle) => (∃ n, Belongs events p n session) ∧
      (∃ receipt, (p, .revalidated receipt inputs.backup) ∈ events) ∧
      (∀ receipt ∈ inputs.health, ∃ checked, (p, .checkedHealth checked receipt) ∈ events) ∧
      inputs.baseline.manifestDigest = session.handoff.manifestDigest ∧
      inputs.bundle session = .ok bundle
  | (p, .verified session bundle verification) => (∃ n, Belongs events p n session) ∧
      (∃ collected inputs, (p, .collected collected inputs bundle) ∈ events) ∧
      checkPreconditions session bundle = .ok () ∧
      verification.bundleId = bundle.bundleId ∧
      verification.lockedSessionId = session.sessionId ∧
      verification.journalId = session.journal.journalId ∧
      verification.planId = session.journal.planId ∧
      verification.targetManifestDigest = session.journal.baselineManifestDigest
  | (p, .approved session verification approval) => (∃ n, Belongs events p n session) ∧
      approval.binding = approvalBinding verification ∧
      verification.lockedSessionId = session.sessionId

omit [Fingerprint] in
theorem Belongs.mono {events events' : Events} {p n : Nat} {session : LockedExecutionSession}
    (h : Belongs events p n session) (hsub : events ⊆ events') : Belongs events' p n session := by
  obtain ⟨first, hmem, hsame⟩ := h
  exact ⟨first, hsub hmem, hsame⟩

theorem Justified.mono {pid : Nat → Nat} {events events' : Events} {e : Nat × Event}
    (h : Justified pid events e) (hsub : events ⊆ events') : Justified pid events' e := by
  obtain ⟨p, e⟩ := e
  cases e with
  | began number session => exact h
  | captured session receipt =>
    obtain ⟨⟨n, hn⟩, hrest⟩ := h
    exact ⟨⟨n, hn.mono hsub⟩, hrest⟩
  | revalidated receipt backup =>
    obtain ⟨⟨session, hmem⟩, hrest⟩ := h
    exact ⟨⟨session, hsub hmem⟩, hrest⟩
  | checkedHealth session receipt =>
    obtain ⟨⟨n, hn⟩, hrest⟩ := h
    exact ⟨⟨n, hn.mono hsub⟩, hrest⟩
  | collected session inputs bundle =>
    obtain ⟨⟨n, hn⟩, ⟨receipt, hmem⟩, hhealth, hrest⟩ := h
    refine ⟨⟨n, hn.mono hsub⟩, ⟨receipt, hsub hmem⟩, fun receipt hreceipt => ?_, hrest⟩
    obtain ⟨checked, hchecked⟩ := hhealth receipt hreceipt
    exact ⟨checked, hsub hchecked⟩
  | verified session bundle verification =>
    obtain ⟨⟨n, hn⟩, ⟨collected, inputs, hmem⟩, hrest⟩ := h
    exact ⟨⟨n, hn.mono hsub⟩, ⟨collected, inputs, hsub hmem⟩, hrest⟩
  | approved session verification approval =>
    obtain ⟨⟨n, hn⟩, hrest⟩ := h
    exact ⟨⟨n, hn.mono hsub⟩, hrest⟩

/-- Every event has come about from the events there are. -/
def Traced (pid : Nat → Nat) (events : Events) : Prop := ∀ e ∈ events, Justified pid events e

theorem Traced.append {pid : Nat → Nat} {events : Events} {e : Nat × Event}
    (h : Traced pid events) (he : Justified pid events e) : Traced pid (events ++ [e]) := by
  have hsub : events ⊆ events ++ [e] := List.subset_append_left _ _
  intro e' he'
  rcases List.mem_append.mp he' with hold | hnew
  · exact (h e' hold).mono hsub
  · rw [List.mem_singleton.mp hnew]
    exact he.mono hsub

end Events

section Methods

variable [Fingerprint] {fromSlice : FromSlice} {L : Ledger} {session : LockedExecutionSession}
  {s : St (interface storeEnv)}

theorem verifyPreconditions_advances (faithful : Faithful fromSlice) (h : Represents L s.world)
    (session : LockedExecutionSession) (bundle : PreMutationEvidenceBundle) :
    (verifyPreconditions fromSlice bundle).Holds session s
      (fun v after u => (SessionAdvanced .preconditionsVerified session after ∧
        LedgerAdvanced .preconditionsVerified session.journal L u.world) ∧
        checkPreconditions session bundle = .ok () ∧ v = verificationOf after bundle)
      (fun _ after u => SessionAdvanced .preconditionsVerified session after ∧
        LedgerAdvanced .preconditionsVerified session.journal L u.world)
      fun u => LedgerAdvanced .preconditionsVerified session.journal L u.world := by
  unfold verifyPreconditions
  refine Proc.holds_bind.mpr (Proc.holds_get.mpr (Proc.holds_bind.mpr
    (Proc.holds_lift.mpr ⟨fun _ hchecked => ?_, fun _ _ => ⟨.refl _, .inl h⟩⟩)))
  refine Proc.holds_bind.mpr (Proc.holds_mapError.mpr ?_)
  refine (persistTransition_advances faithful h _).mono (fun _ after u hend => ?_)
    (fun _ _ _ hend => hend) fun _ hend => hend
  exact Proc.holds_bind.mpr (Proc.holds_get.mpr ⟨hend, hchecked, rfl⟩)

/-- What an approval of this verification can have done: nothing, or after its checks its
transition. -/
def ApprovalAdvanced (session : LockedExecutionSession) (verification : PreconditionsVerification)
    (L : Ledger) (after : LockedExecutionSession) (d : Dir) : Prop :=
  (after = session ∧ Represents L d) ∨
    ∃ planId bundleId target, checkApproval session verification planId bundleId target = .ok () ∧
      SessionAdvanced (.exactPlanApproved planId (approvalBinding verification)) session after ∧
      LedgerAdvanced (.exactPlanApproved planId (approvalBinding verification)) session.journal L d

theorem approveExactPlan_advances (faithful : Faithful fromSlice) (h : Represents L s.world)
    (verification : PreconditionsVerification) (planId bundleId target : String) :
    (approveExactPlan fromSlice verification planId bundleId target).Holds session s
      (fun approval after u => ApprovalAdvanced session verification L after u.world ∧
        verification.lockedSessionId = session.sessionId ∧
        approval.binding = approvalBinding verification)
      (fun _ after u => ApprovalAdvanced session verification L after u.world)
      fun u => ∃ after, ApprovalAdvanced session verification L after u.world := by
  unfold approveExactPlan
  refine Proc.holds_bind.mpr (Proc.holds_get.mpr (Proc.holds_bind.mpr
    (Proc.holds_lift.mpr ⟨fun _ hchecked => ?_, fun _ _ => .inl ⟨rfl, h⟩⟩)))
  have hid : verification.lockedSessionId = session.sessionId := by
    have hchecks := hchecked
    unfold checkApproval at hchecks
    obtain ⟨-, hchecks⟩ := check_eq_ok_iff.mp hchecks
    obtain ⟨-, hchecks⟩ := check_eq_ok_iff.mp hchecks
    obtain ⟨-, hchecks⟩ := check_eq_ok_iff.mp hchecks
    obtain ⟨hsession, -⟩ := check_eq_ok_iff.mp hchecks
    exact not_not.mp (refuse_eq_ok_iff.mp hsession)
  refine Proc.holds_bind.mpr (Proc.holds_mapError.mpr ?_)
  refine (persistTransition_advances faithful h _).mono (fun _ after u hend => ?_)
    (fun _ after u hend => .inr ⟨_, _, _, hchecked, hend⟩)
    fun u hend => ⟨session, .inr ⟨_, _, _, hchecked, .refl _, hend⟩⟩
  exact Proc.holds_bind.mpr (Proc.holds_get.mpr ⟨.inr ⟨_, _, _, hchecked, hend⟩, hid, rfl⟩)

theorem approveOperatorPlan_advances (faithful : Faithful fromSlice) (h : Represents L s.world)
    (verification : PreconditionsVerification) (confirmation : String) :
    (approveOperatorPlan fromSlice verification confirmation).Holds session s
      (fun approval after u => ApprovalAdvanced session verification L after u.world ∧
        verification.lockedSessionId = session.sessionId ∧
        approval.binding = approvalBinding verification)
      (fun _ after u => ApprovalAdvanced session verification L after u.world)
      fun u => ∃ after, ApprovalAdvanced session verification L after u.world := by
  unfold approveOperatorPlan
  exact Proc.holds_bind.mpr (Proc.holds_lift.mpr ⟨fun _ _ =>
    approveExactPlan_advances faithful h verification _ _ _, fun _ _ => .inl ⟨rfl, h⟩⟩)

end Methods

section Desks

/-- The store with the session that holds the lock, the process that holds it, the session
counters of the processes, and what they were given. -/
structure Desk where
  host : Host
  owner : Nat
  sequence : Nat → Nat
  events : Events

variable [Fingerprint]

/-- An approval by the exact ids, or by the operator's phrase. -/
inductive Approving where
  | exact (planId bundleId target : String)
  | operator (confirmation : String)

def Approving.proc (fromSlice : FromSlice) (verification : PreconditionsVerification) :
    Approving →
      DirProc storeEnv LockedExecutionSession ExactPlanApprovalError ExactPlanApproval
  | .exact planId bundleId target => approveExactPlan fromSlice verification planId bundleId target
  | .operator confirmation => approveOperatorPlan fromSlice verification confirmation

/-- The actions that are no beginning and no link of the chain. -/
def Action.Plain : Action → Prop
  | .beginSession _ _ => False
  | .call .preconditionsVerified => False
  | .call (.exactPlanApproved _ _) => False
  | _ => True

def Desk.note (w : Desk) (p : Nat) (event : Event) : Desk :=
  { w with events := w.events ++ [(p, event)] }

/-- A method of the session that holds the lock has ended, or its process was lost. -/
def Desk.ended {ε α : Type} (w : Desk) (event : α → Event) :
    Option (Except ε α × LockedExecutionSession) × St (interface storeEnv) → Desk
  | (some (.ok a, session), store) =>
    { w with host := ⟨store, some session⟩, events := w.events ++ [(w.owner, event a)] }
  | (some (.error _, session), store) => { w with host := ⟨store, some session⟩ }
  | (none, store) => { w with host := ⟨store, none⟩ }

/-- What may happen next. A process uses what it was given itself. -/
inductive Desk.Step (fromSlice : FromSlice) (pid : Nat → Nat) : Desk → Desk → Prop
  | host {w : Desk} (action : Action) (script : Script (interface storeEnv))
      (plain : action.Plain) :
      Step fromSlice pid w { w with host := w.host.step fromSlice action script }
  | began {w : Desk} (p : Nat) (handoff : FrozenExecutionHandoff) (durable : Bool)
      (script : Script (interface storeEnv)) {session : LockedExecutionSession} {m : Unit}
      {store : St (interface storeEnv)} (free : w.host.session = none)
      (ran : (beginWithLock fromSlice handoff durable ()).run script w.host.store =
        (some (.ok session, m), store))
      (counted : session.sessionId = sessionDigest handoff.handoffId (pid p) (w.sequence p)) :
      Step fromSlice pid w
        { host := ⟨store, some session⟩
          owner := p
          sequence := Function.update w.sequence p (w.sequence p + 1)
          events := w.events ++ [(p, .began (w.sequence p) session)] }
  | refused {w : Desk} (handoff : FrozenExecutionHandoff) (durable : Bool)
      (script : Script (interface storeEnv))
      (failed : (w.host.step fromSlice (.beginSession handoff durable) script).session = none) :
      Step fromSlice pid w
        { w with host := w.host.step fromSlice (.beginSession handoff durable) script }
  | capture {w : Desk} (files : BackupFiles) (manifest : MetadataBackupManifest)
      {session : LockedExecutionSession} {receipt : MetadataBackupReceipt}
      (held : w.host.session = some session)
      (captured : captureMetadataBackups files session manifest = .ok receipt) :
      Step fromSlice pid w (w.note w.owner (.captured session receipt))
  | revalidateReceipt {w : Desk} (p : Nat) (files : BackupFiles)
      (manifest : MetadataBackupManifest) {session : LockedExecutionSession}
      {receipt : MetadataBackupReceipt} (given : (p, .captured session receipt) ∈ w.events) :
      Step fromSlice pid w
        (w.note p (.revalidated receipt (revalidateMetadataBackupReceipt files manifest receipt)))
  | checkHealth {w : Desk} (host : HealthHost) (baseline : TargetIdentityManifest)
      (fresh : Except String TargetIdentityManifest) (mounts : List MountEntry)
      (capabilities : HostCapabilities) (decision : FilesystemGrowthDecision) (toolPath : String)
      {session : LockedExecutionSession} {receipt : ExplicitFilesystemHealthReceipt}
      (held : w.host.session = some session)
      (frozen : baseline.manifestDigest = session.handoff.manifestDigest)
      (checked : executeExplicitFilesystemHealthCheck host session
        (revalidateTargetIdentity baseline fresh) mounts capabilities decision toolPath =
          .ok receipt) :
      Step fromSlice pid w (w.note w.owner (.checkedHealth session receipt))
  | collect {w : Desk} (inputs : EvidenceInputs) {session : LockedExecutionSession}
      {receipt : MetadataBackupReceipt} {bundle : PreMutationEvidenceBundle}
      (held : w.host.session = some session)
      (frozen : inputs.baseline.manifestDigest = session.handoff.manifestDigest)
      (given : (w.owner, .revalidated receipt inputs.backup) ∈ w.events)
      (health : ∀ receipt ∈ inputs.health, ∃ checked,
        (w.owner, .checkedHealth checked receipt) ∈ w.events)
      (collected : inputs.bundle session = .ok bundle) :
      Step fromSlice pid w (w.note w.owner (.collected session inputs bundle))
  | verify {w : Desk} (script : Script (interface storeEnv))
      {session collected : LockedExecutionSession} {inputs : EvidenceInputs}
      {bundle : PreMutationEvidenceBundle} (held : w.host.session = some session)
      (given : (w.owner, .collected collected inputs bundle) ∈ w.events) :
      Step fromSlice pid w (w.ended (.verified session bundle)
        ((verifyPreconditions fromSlice bundle session).run script w.host.store))
  | approve {w : Desk} (approving : Approving) (script : Script (interface storeEnv))
      {session verified : LockedExecutionSession} {bundle : PreMutationEvidenceBundle}
      {verification : PreconditionsVerification} (held : w.host.session = some session)
      (given : (w.owner, .verified verified bundle verification) ∈ w.events) :
      Step fromSlice pid w (w.ended (.approved session verification)
        ((approving.proc fromSlice verification session).run script w.host.store))

/-- Any number of steps of any processes. -/
def Desk.Reaches (fromSlice : FromSlice) (pid : Nat → Nat) : Desk → Desk → Prop :=
  Relation.ReflTransGen (Desk.Step fromSlice pid)

end Desks

section Soundness

variable [Fingerprint] {fromSlice : FromSlice} {pid : Nat → Nat} {L₀ L : Ledger} {w w' : Desk}

/-- The journal was approved with a verification of its session, by a session that is its. -/
def ApprovedBy (events : Events) (p : Nat) (sessionId : String) (j : OperationJournal) : Prop :=
  ∃ n session verified bundle verification, Belongs events p n session ∧
    (p, .verified verified bundle verification) ∈ events ∧
    session.sessionId = sessionId ∧ session.journal.journalId = j.journalId ∧
    session.handoff.planId = j.planId ∧
    session.handoff.manifestDigest = j.baselineManifestDigest ∧
    verification.lockedSessionId = sessionId ∧ verification.journalId = j.journalId ∧
    verification.planId = j.planId ∧ verification.targetManifestDigest = j.baselineManifestDigest ∧
    j.approval = some (approvalBinding verification)

theorem ApprovedBy.mono {events events' : Events} {p : Nat} {sessionId : String}
    {j : OperationJournal} (h : ApprovedBy events p sessionId j) (hsub : events ⊆ events') :
    ApprovedBy events' p sessionId j := by
  obtain ⟨n, session, verified, bundle, verification, hbelongs, hmem, hrest⟩ := h
  exact ⟨n, session, verified, bundle, verification, hbelongs.mono hsub, hsub hmem, hrest⟩

/-- The approved records that were not there at first have their approvals. -/
def Covered (events : Events) (L₀ L : Ledger) : Prop :=
  ∀ id, ∀ j ∈ L id, j.phase = .approved → j ∈ L₀ id ∨ ∃ p sessionId, ApprovedBy events p sessionId j

theorem Covered.mono {events events' : Events} (h : Covered events L₀ L) (hsub : events ⊆ events') :
    Covered events' L₀ L := by
  intro id j hj hphase
  rcases h id j hj hphase with hold | ⟨p, sessionId, hnew⟩
  · exact .inl hold
  · exact .inr ⟨p, sessionId, hnew.mono hsub⟩

theorem Covered.push {events : Events} {k : OperationJournal} (h : Covered events L₀ L)
    (hk : k.phase = .approved → ∃ p sessionId, ApprovedBy events p sessionId k) :
    Covered events L₀ (L.push k) := by
  intro id j hj hphase
  by_cases hid : id = k.journalId
  · rw [Ledger.push, hid, Function.update_self] at hj
    rcases List.mem_cons.mp hj with rfl | hj
    · exact .inr (hk hphase)
    · rw [hid]
      exact h _ j hj hphase
  · rw [Ledger.push, Function.update_of_ne hid] at hj
    exact h id j hj hphase

structure Desk.Sound (pid : Nat → Nat) (L₀ : Ledger) (w : Desk) : Prop where
  traced : Traced pid w.events
  numbered : ∀ p n session, (p, .began n session) ∈ w.events → n < w.sequence p
  once : ∀ p n first second, (p, .began n first) ∈ w.events → (p, .began n second) ∈ w.events →
    first = second
  held : ∀ session ∈ w.host.session, ∃ n, Belongs w.events w.owner n session
  approved : ∀ session ∈ w.host.session, session.journal.phase = .approved →
    ApprovedBy w.events w.owner session.sessionId session.journal
  ledger : ∃ L, Represents L w.host.store.world ∧ Covered w.events L₀ L

/-- The ledger, or the ledger with one more record that is no approval. -/
def Quiet (L : Ledger) (d : Dir) : Prop :=
  Represents L d ∨ ∃ j, j.phase ≠ .approved ∧ Represents (L.push j) d

/-- A session that has gone on without an approval. -/
structure Later (session after : LockedExecutionSession) : Prop where
  sessionId : after.sessionId = session.sessionId
  handoff : after.handoff = session.handoff
  header : SameHeader session.journal after.journal
  journal : after.journal = session.journal ∨ after.journal.phase ≠ .approved

omit [Fingerprint] in
theorem Belongs.later {events : Events} {p n : Nat} {session after : LockedExecutionSession}
    (h : Belongs events p n session) (hid : after.sessionId = session.sessionId)
    (hhandoff : after.handoff = session.handoff)
    (hheader : SameHeader session.journal after.journal) : Belongs events p n after := by
  obtain ⟨first, hmem, hfirst, hfirstHandoff, hfirstHeader⟩ := h
  refine ⟨first, hmem, hid.trans hfirst, hhandoff.trans hfirstHandoff, ?_⟩
  exact ⟨hheader.schemaVersion.trans hfirstHeader.schemaVersion,
    hheader.journalId.trans hfirstHeader.journalId, hheader.planId.trans hfirstHeader.planId,
    hheader.target.trans hfirstHeader.target, hheader.baseline.trans hfirstHeader.baseline⟩

theorem LedgerAdvanced.quiet {t : JournalTransition} {j : OperationJournal} {d : Dir}
    (h : LedgerAdvanced t j L d) (ht : ∀ planId a, t ≠ .exactPlanApproved planId a) :
    Quiet L d := by
  rcases h with h | ⟨next, hnext, h⟩
  · exact .inl h
  · refine .inr ⟨next, fun hphase => ?_, h⟩
    obtain ⟨planId, a, ha, -⟩ := accepts_approved (applyToCopy_accepts hnext) hphase
    exact ht planId a ha

theorem SessionAdvanced.later {t : JournalTransition} {session after : LockedExecutionSession}
    (h : SessionAdvanced t session after) (ht : ∀ planId a, t ≠ .exactPlanApproved planId a) :
    Later session after := by
  refine ⟨h.sessionId, h.handoff, h.header, ?_⟩
  rcases h.journal with hsame | hnext
  · exact .inl hsame
  · refine .inr fun hphase => ?_
    obtain ⟨planId, a, ha, -⟩ := accepts_approved (applyToCopy_accepts hnext) hphase
    exact ht planId a ha

/-- Nothing but the host has changed, and nothing was approved. -/
theorem Desk.Sound.quiet {host : Host} (h : w.Sound pid L₀)
    (hstore : ∀ L, Represents L w.host.store.world → Quiet L host.store.world)
    (hsession : ∀ after ∈ host.session, ∃ session ∈ w.host.session, Later session after) :
    Desk.Sound pid L₀ { w with host } where
  traced := h.traced
  numbered := h.numbered
  once := h.once
  held after hafter := by
    obtain ⟨session, hs, hlater⟩ := hsession after hafter
    obtain ⟨n, hn⟩ := h.held session hs
    exact ⟨n, hn.later hlater.sessionId hlater.handoff hlater.header⟩
  approved after hafter hphase := by
    obtain ⟨session, hs, hlater⟩ := hsession after hafter
    rcases hlater.journal with hsame | hne
    · rw [hsame] at hphase ⊢
      rw [hlater.sessionId]
      exact h.approved session hs hphase
    · exact absurd hphase hne
  ledger := by
    obtain ⟨L, hL, hcovered⟩ := h.ledger
    rcases hstore L hL with hsame | ⟨j, hj, hpushed⟩
    · exact ⟨L, hsame, hcovered⟩
    · exact ⟨L.push j, hpushed, hcovered.push fun hphase => absurd hphase hj⟩

/-- One more event that is no beginning. -/
theorem Desk.Sound.note {p : Nat} {event : Event} (h : w.Sound pid L₀)
    (hevent : Justified pid w.events (p, event)) (hbegan : ∀ n session, event ≠ .began n session) :
    (w.note p event).Sound pid L₀ := by
  have hsub : w.events ⊆ w.events ++ [(p, event)] := List.subset_append_left _ _
  have hold : ∀ q n session, (q, Event.began n session) ∈ w.events ++ [(p, event)] →
      (q, Event.began n session) ∈ w.events := by
    intro q n session hmem
    rcases List.mem_append.mp hmem with hmem | hmem
    · exact hmem
    · exact absurd (Prod.mk.inj (List.mem_singleton.mp hmem)).2.symm (hbegan n session)
  constructor
  · exact h.traced.append hevent
  · exact fun q n session hmem => h.numbered q n session (hold q n session hmem)
  · exact fun q n first second hfirst hsecond =>
      h.once q n first second (hold q n first hfirst) (hold q n second hsecond)
  · intro session hs
    obtain ⟨n, hn⟩ := h.held session hs
    exact ⟨n, hn.mono hsub⟩
  · exact fun session hs hphase => (h.approved session hs hphase).mono hsub
  · obtain ⟨L, hL, hcovered⟩ := h.ledger
    exact ⟨L, hL, hcovered.mono hsub⟩

/-- The plain actions of the host approve nothing. -/
theorem Host.step_quiet (faithful : Faithful fromSlice) {h : Host} {action : Action}
    (plain : action.Plain) (script : Script (interface storeEnv))
    (hL : Represents L h.store.world) :
    Quiet L (h.step fromSlice action script).store.world ∧
      ∀ after ∈ (h.step fromSlice action script).session,
        ∃ session ∈ h.session, Later session after := by
  obtain ⟨store, session⟩ := h
  have hidle : ∀ {store' : St (interface storeEnv)}, Quiet L store'.world →
      Quiet L (Host.mk store' none).store.world ∧ ∀ after ∈ (Host.mk store' none).session,
        ∃ before ∈ session, Later before after := fun hquiet => ⟨hquiet, fun _ h => by cases h⟩
  cases session with
  | none =>
    cases action with
    | beginSession handoff durable => exact plain.elim
    | call c => exact hidle (.inl hL)
    | release => exact hidle (.inl hL)
    | reconcile shownJournal confirmation =>
      have hend := Calls.wp_sound ((reconcilePrewrite_aborts faithful hL shownJournal
        confirmation).holds () store rfl) script
      unfold Host.step
      dsimp only
      generalize (reconcilePrewrite fromSlice shownJournal confirmation ()).run script store = r at hend
      obtain ⟨_ | ⟨_ | journal, m⟩, t⟩ := r
      · exact hidle hend
      · exact hidle hend.2
      · exact hidle hend.2
  | some session =>
    have hheld : ∀ {store' : St (interface storeEnv)} {session' : LockedExecutionSession},
        Quiet L store'.world → Later session session' →
        Quiet L (Host.mk store' (some session')).store.world ∧
          ∀ after ∈ (Host.mk store' (some session')).session,
            ∃ before ∈ some session, Later before after := by
      intro store' session' hquiet hlater
      refine ⟨hquiet, fun after hafter => ⟨session, rfl, ?_⟩⟩
      rw [← Option.some.inj hafter]
      exact hlater
    have hsame : Later session session := ⟨rfl, rfl, ⟨rfl, rfl, rfl, rfl, rfl⟩, .inl rfl⟩
    cases action with
    | beginSession handoff durable => exact plain.elim
    | reconcile shownJournal confirmation => exact hheld (.inl hL) hsame
    | release => exact hidle (.inl hL)
    | call c =>
      have hc : ∀ planId a, c ≠ .exactPlanApproved planId a := by
        rintro planId a rfl
        exact plain
      have hcall : ∃ t, (∀ planId a, t ≠ .exactPlanApproved planId a) ∧
          Advances (c.proc fromSlice) t L session store := call_advances faithful hL c hc
      obtain ⟨t, ht, hadvances⟩ := hcall
      have hend := Calls.wp_sound hadvances script
      unfold Host.step
      dsimp only
      generalize (c.proc fromSlice session).run script store = r at hend
      obtain ⟨_ | ⟨_ | _, session'⟩, u⟩ := r
      · exact hidle (hend.quiet ht)
      · exact hheld (hend.2.quiet ht) (hend.1.later ht)
      · exact hheld (hend.2.quiet ht) (hend.1.later ht)

/-- A new session, with the number its process gives it. -/
theorem Desk.Sound.began {p : Nat} {session : LockedExecutionSession}
    {store : St (interface storeEnv)} (h : w.Sound pid L₀)
    (hphase : session.journal.phase = .hostLockHeld)
    (hcounted : session.sessionId =
      sessionDigest session.handoff.handoffId (pid p) (w.sequence p))
    (hstore : ∀ L, Represents L w.host.store.world →
      Represents L store.world ∨ Represents (L.push session.journal) store.world) :
    Desk.Sound pid L₀
      { host := ⟨store, some session⟩
        owner := p
        sequence := Function.update w.sequence p (w.sequence p + 1)
        events := w.events ++ [(p, .began (w.sequence p) session)] } := by
  have hsub : w.events ⊆ w.events ++ [(p, .began (w.sequence p) session)] :=
    List.subset_append_left _ _
  have hmem : ∀ q n first, (q, Event.began n first) ∈
      w.events ++ [(p, .began (w.sequence p) session)] →
      (q, Event.began n first) ∈ w.events ∨ (q = p ∧ n = w.sequence p ∧ first = session) := by
    intro q n first hfirst
    rcases List.mem_append.mp hfirst with hfirst | hfirst
    · exact .inl hfirst
    · obtain ⟨hq, hevent⟩ := Prod.mk.inj (List.mem_singleton.mp hfirst)
      exact .inr ⟨hq, Event.began.inj hevent⟩
  have hnotApproved : session.journal.phase ≠ .approved := by
    rw [hphase]
    decide
  constructor
  · exact h.traced.append hcounted
  · intro q n first hfirst
    rcases hmem q n first hfirst with hold | ⟨rfl, rfl, rfl⟩
    · have hlt := h.numbered q n first hold
      show n < Function.update w.sequence p (w.sequence p + 1) q
      by_cases hq : q = p
      · rw [hq] at hlt ⊢
        rw [Function.update_self]
        omega
      · rw [Function.update_of_ne hq]
        exact hlt
    · show w.sequence q < Function.update w.sequence q (w.sequence q + 1) q
      rw [Function.update_self]
      omega
  · intro q n first second hfirst hsecond
    rcases hmem q n first hfirst with hold | ⟨rfl, rfl, rfl⟩
    · rcases hmem q n second hsecond with hold' | ⟨rfl, rfl, rfl⟩
      · exact h.once q n first second hold hold'
      · exact absurd (h.numbered _ _ _ hold) (lt_irrefl _)
    · rcases hmem q _ second hsecond with hold' | ⟨-, -, rfl⟩
      · exact absurd (h.numbered _ _ _ hold') (lt_irrefl _)
      · rfl
  · intro after hafter
    rw [← Option.some.inj hafter]
    exact ⟨w.sequence p, session, List.mem_append_right _ (List.mem_singleton.mpr rfl), rfl, rfl,
      ⟨rfl, rfl, rfl, rfl, rfl⟩⟩
  · intro after hafter happroved
    rw [← Option.some.inj hafter] at happroved
    exact absurd happroved hnotApproved
  · obtain ⟨L, hL, hcovered⟩ := h.ledger
    have hcovered' := hcovered.mono hsub
    rcases hstore L hL with hsame | hpushed
    · exact ⟨L, hsame, hcovered'⟩
    · exact ⟨L.push session.journal, hpushed, hcovered'.push fun happroved =>
        absurd happroved hnotApproved⟩

/-- What an approval checks of a verification. -/
theorem checkApproval_bound {session : LockedExecutionSession}
    {verification : PreconditionsVerification} {planId bundleId target : String}
    (h : checkApproval session verification planId bundleId target = .ok ()) :
    session.journal.phase = .preconditionsVerified ∧
      verification.lockedSessionId = session.sessionId ∧
      verification.journalId = session.journal.journalId ∧
      (verification.planId = session.journal.planId ∧
        verification.planId = session.handoff.planId) ∧
      verification.targetManifestDigest = session.journal.baselineManifestDigest ∧
      verification.targetManifestDigest = session.handoff.manifestDigest := by
  unfold checkApproval at h
  obtain ⟨hphase, h⟩ := check_eq_ok_iff.mp h
  obtain ⟨-, h⟩ := check_eq_ok_iff.mp h
  obtain ⟨-, h⟩ := check_eq_ok_iff.mp h
  obtain ⟨hsession, h⟩ := check_eq_ok_iff.mp h
  obtain ⟨hjournal, h⟩ := check_eq_ok_iff.mp h
  obtain ⟨hplan, h⟩ := check_eq_ok_iff.mp h
  obtain ⟨htarget, -⟩ := check_eq_ok_iff.mp h
  simp only [refuse_eq_ok_iff, not_or, not_not] at hphase hsession hjournal hplan htarget
  exact ⟨hphase, hsession, hjournal, hplan, htarget⟩

/-- The record an approval writes was approved with this verification. -/
theorem approvedBy_of_check {p n : Nat} {events : Events}
    {session verified : LockedExecutionSession} {bundle : PreMutationEvidenceBundle}
    {verification : PreconditionsVerification} {planId planId' bundleId target : String}
    {next : OperationJournal} (hbelongs : Belongs events p n session)
    (hmem : (p, .verified verified bundle verification) ∈ events)
    (hchecked : checkApproval session verification planId' bundleId target = .ok ())
    (hnext : applyToCopy session.journal
      (.exactPlanApproved planId (approvalBinding verification)) = .ok next)
    (hphase : next.phase = .approved) : ApprovedBy events p session.sessionId next := by
  obtain ⟨-, hsession, hjournal, ⟨hplan, hhandoffPlan⟩, htarget, hhandoffTarget⟩ :=
    checkApproval_bound hchecked
  have hheader := applyToCopy_header hnext
  obtain ⟨planId'', a, ha, happroval⟩ := accepts_approved (applyToCopy_accepts hnext) hphase
  obtain ⟨-, rfl⟩ := JournalTransition.exactPlanApproved.inj ha
  refine ⟨n, session, verified, bundle, verification, hbelongs, hmem, rfl, hheader.journalId.symm,
    ?_, ?_, hsession, ?_, ?_, ?_, happroval⟩
  · rw [hheader.planId, ← hplan, hhandoffPlan]
  · rw [hheader.baseline, ← htarget, hhandoffTarget]
  · rw [hheader.journalId, hjournal]
  · rw [hheader.planId, hplan]
  · rw [hheader.baseline, htarget]

/-- An approval that came to an end, whichever. -/
theorem Desk.Sound.afterApproval {session after verified : LockedExecutionSession}
    {bundle : PreMutationEvidenceBundle} {verification : PreconditionsVerification}
    {store : St (interface storeEnv)} (h : w.Sound pid L₀) (hheld : w.host.session = some session)
    (hmem : (w.owner, .verified verified bundle verification) ∈ w.events)
    (hcovered : Covered w.events L₀ L)
    (hadvanced : ApprovalAdvanced session verification L after store.world)
    (kept : Option LockedExecutionSession) (hkept : ∀ s ∈ kept, s = after) :
    Desk.Sound pid L₀ { w with host := ⟨store, kept⟩ } := by
  obtain ⟨n, hbelongs⟩ := h.held session hheld
  rcases hadvanced with ⟨rfl, hsame⟩ | ⟨planId, bundleId, target, hchecked, hsession, hledger⟩
  · refine ⟨h.traced, h.numbered, h.once, fun s hs => ?_, fun s hs => ?_, L, hsame, hcovered⟩
    · rw [hkept s hs]
      exact ⟨n, hbelongs⟩
    · rw [hkept s hs]
      exact h.approved after hheld
  · have hby : ∀ next, applyToCopy session.journal
        (.exactPlanApproved planId (approvalBinding verification)) = .ok next →
        next.phase = .approved → ApprovedBy w.events w.owner session.sessionId next :=
      fun next hnext => approvedBy_of_check hbelongs hmem hchecked hnext
    refine ⟨h.traced, h.numbered, h.once, fun s hs => ?_, fun s hs hphase => ?_, ?_⟩
    · rw [hkept s hs]
      exact ⟨n, hbelongs.later hsession.sessionId hsession.handoff hsession.header⟩
    · rw [hkept s hs] at hphase ⊢
      rw [hsession.sessionId]
      rcases hsession.journal with hsame | hnext
      · rw [hsame, (checkApproval_bound hchecked).1] at hphase
        cases hphase
      · exact hby _ hnext hphase
    · rcases hledger with hsame | ⟨next, hnext, hpushed⟩
      · exact ⟨L, hsame, hcovered⟩
      · exact ⟨L.push next, hpushed, hcovered.push fun hphase => ⟨_, _, hby next hnext hphase⟩⟩

theorem Approving.advances (faithful : Faithful fromSlice) (session : LockedExecutionSession)
    {s : St (interface storeEnv)} (h : Represents L s.world) (approving : Approving)
    (verification : PreconditionsVerification) :
    (approving.proc fromSlice verification).Holds session s
      (fun approval after u => ApprovalAdvanced session verification L after u.world ∧
        verification.lockedSessionId = session.sessionId ∧
        approval.binding = approvalBinding verification)
      (fun _ after u => ApprovalAdvanced session verification L after u.world)
      fun u => ∃ after, ApprovalAdvanced session verification L after u.world := by
  cases approving with
  | exact planId bundleId target => exact approveExactPlan_advances faithful h verification _ _ _
  | operator confirmation => exact approveOperatorPlan_advances faithful h verification _

/-- One step: by cases on what has happened. -/
theorem Desk.Step.sound (faithful : Faithful fromSlice) (hstep : Desk.Step fromSlice pid w w')
    (h : w.Sound pid L₀) : w'.Sound pid L₀ := by
  cases hstep with
  | host action script plain =>
    refine h.quiet (fun L hL => (Host.step_quiet faithful plain script hL).1) ?_
    obtain ⟨L, hL, -⟩ := h.ledger
    exact (Host.step_quiet faithful plain script hL).2
  | @began p handoff durable script session m store free ran counted =>
    have hruns : ∀ L, Represents L w.host.store.world → session.journal.phase = .hostLockHeld ∧
        session.handoff = handoff ∧
        (Represents L store.world ∨ Represents (L.push session.journal) store.world) := by
      intro L hL
      have hend := Calls.wp_sound ((beginWithLock_publishes faithful hL handoff durable).holds ()
        w.host.store rfl) script
      rw [ran] at hend
      exact hend.2
    obtain ⟨L, hL, -⟩ := h.ledger
    obtain ⟨hphase, hhandoff, -⟩ := hruns L hL
    refine h.began hphase ?_ fun L hL => (hruns L hL).2.2
    rw [hhandoff]
    exact counted
  | refused handoff durable script failed =>
    refine h.quiet (fun L hL => ?_) fun after hafter => ?_
    · obtain ⟨⟨store, session⟩, owner, sequence, events⟩ := w
      cases session with
      | some session => exact .inl hL
      | none =>
        have hend := Calls.wp_sound ((beginWithLock_publishes faithful hL handoff durable).holds ()
          store rfl) script
        unfold Host.step at failed ⊢
        dsimp only at failed ⊢
        generalize (beginWithLock fromSlice handoff durable ()).run script store = r at hend failed
        have hquiet : ∀ {d : Dir}, (Represents L d ∨ ∃ j, j.phase = .hostLockHeld ∧
            Represents (L.push j) d) → Quiet L d := by
          rintro d (hsame | ⟨j, hphase, hpushed⟩)
          · exact .inl hsame
          · refine .inr ⟨j, ?_, hpushed⟩
            rw [hphase]
            decide
        obtain ⟨_ | ⟨_ | session, m⟩, t⟩ := r
        · exact hquiet hend
        · exact hquiet hend.2
        · cases failed
    · rw [failed] at hafter
      cases hafter
  | capture files manifest hheld captured =>
    have hbound := captureMetadataBackups_bound captured
    exact h.note ⟨h.held _ hheld, hbound.1, hbound.2.1⟩ fun _ _ => by simp
  | revalidateReceipt p files manifest given =>
    exact h.note ⟨⟨_, given⟩, rfl, rfl⟩ fun _ _ => by simp
  | checkHealth host baseline fresh mounts capabilities decision toolPath hheld frozen checked =>
    refine h.note ⟨h.held _ hheld, ?_⟩ fun _ _ => by simp
    exact executeExplicitFilesystemHealthCheck_session checked
  | collect inputs hheld frozen given health collected =>
    exact h.note ⟨h.held _ hheld, ⟨_, given⟩, health, frozen, collected⟩ fun _ _ => by simp
  | @verify script session collected inputs bundle hheld given =>
    have hruns : ∀ L, Represents L w.host.store.world → _ := fun L hL =>
      Calls.wp_sound (verifyPreconditions_advances faithful hL session bundle) script
    have ht : ∀ planId a, JournalTransition.preconditionsVerified ≠ .exactPlanApproved planId a := by
      simp
    obtain ⟨L, hL, -⟩ := h.ledger
    have hend := hruns L hL
    generalize (verifyPreconditions fromSlice bundle session).run script w.host.store = r
      at hruns hend ⊢
    have hnone : ∀ after ∈ (none : Option LockedExecutionSession),
        ∃ before ∈ w.host.session, Later before after := fun _ hafter => by cases hafter
    have hsome : ∀ {after : LockedExecutionSession},
        SessionAdvanced .preconditionsVerified session after →
        ∀ s ∈ some after, ∃ before ∈ w.host.session, Later before s := by
      intro after hadvanced s hs
      rw [← Option.some.inj hs]
      exact ⟨session, hheld, hadvanced.later ht⟩
    obtain ⟨_ | ⟨_ | verification, after⟩, store⟩ := r
    · exact h.quiet (fun L hL => (hruns L hL).quiet ht) hnone
    · exact h.quiet (fun L hL => (hruns L hL).2.quiet ht) (hsome hend.1)
    · obtain ⟨⟨hadvanced, -⟩, hchecked, rfl⟩ := hend
      have hquiet : Desk.Sound pid L₀ { w with host := ⟨store, some after⟩ } :=
        h.quiet (fun L hL => (hruns L hL).1.2.quiet ht) (hsome hadvanced)
      have hheader := hadvanced.header
      refine hquiet.note ⟨h.held _ hheld, ⟨collected, inputs, given⟩, hchecked, rfl,
        hadvanced.sessionId, hheader.journalId, hheader.planId, hheader.baseline⟩ fun _ _ => by simp
  | @approve approving script session verified bundle verification hheld given =>
    obtain ⟨L, hL, hcovered⟩ := h.ledger
    have hend := Calls.wp_sound (approving.advances faithful session hL verification) script
    generalize (approving.proc fromSlice verification session).run script w.host.store = r
      at hend ⊢
    have hsome : ∀ {after : LockedExecutionSession}, ∀ s ∈ some after, s = after :=
      fun s hs => (Option.some.inj hs).symm
    obtain ⟨_ | ⟨_ | approval, after⟩, store⟩ := r
    · obtain ⟨after, hadvanced⟩ := hend
      exact h.afterApproval hheld given hcovered hadvanced none fun _ hs => by cases hs
    · exact h.afterApproval hheld given hcovered hend _ hsome
    · obtain ⟨hadvanced, hid, hbinding⟩ := hend
      have hkept : Desk.Sound pid L₀ { w with host := ⟨store, some after⟩ } :=
        h.afterApproval hheld given hcovered hadvanced _ hsome
      exact hkept.note ⟨h.held _ hheld, hbinding, hid⟩ fun _ _ => by simp

theorem Desk.Reaches.sound (faithful : Faithful fromSlice) (hrun : Desk.Reaches fromSlice pid w w')
    (h : w.Sound pid L₀) : w'.Sound pid L₀ := by
  induction hrun with
  | refl => exact h
  | tail _ hstep ih => exact hstep.sound faithful ih

end Soundness

end StorageManager.Executor.JournalStore
