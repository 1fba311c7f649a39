import StorageManager.Executor.ApprovalEvents

/-!
# From the evidence to the approval

No journal becomes approved unless everything in the chain that approved it was made for this
session and this journal, and what was made for another session is refused.
-/

namespace StorageManager.Executor.JournalStore

open Core
open Lib.Checks
open Lib.Directory
open Lib.Effects
open Lib.Json (toJson)
open Planner
open Planner.ExecutionGuard
open Swap (pathJoin)

set_option autoImplicit false

section Chains

variable [Fingerprint] {fromSlice : FromSlice} {pid : Nat → Nat} {L₀ : Ledger} {w : Desk}

/-- Two sessions of one process, with different texts, have one digest for their id. -/
def Desk.Collides (pid : Nat → Nat) (w : Desk) : Prop :=
  ∃ p m n first second, (p, .began m first) ∈ w.events ∧ (p, .began n second) ∈ w.events ∧
    sessionPreimage first.handoff.handoffId (pid p) m ≠
      sessionPreimage second.handoff.handoffId (pid p) n ∧
    sessionDigest first.handoff.handoffId (pid p) m =
      sessionDigest second.handoff.handoffId (pid p) n

/-- The id of a session tells its number. -/
theorem Desk.Sound.number_eq (h : w.Sound pid L₀) (hsha : ¬w.Collides pid)
    (hcounter : ∀ p, w.sequence p ≤ 2 ^ 64) {p m n : Nat} {session other : LockedExecutionSession}
    (hsession : Belongs w.events p m session) (hother : Belongs w.events p n other)
    (hid : session.sessionId = other.sessionId) : m = n := by
  obtain ⟨first, hfirst, hfirstId, -⟩ := hsession
  obtain ⟨second, hsecond, hsecondId, -⟩ := hother
  have hm := h.numbered p m first hfirst
  have hn := h.numbered p n second hsecond
  have hp := hcounter p
  have hdigests : sessionDigest first.handoff.handoffId (pid p) m =
      sessionDigest second.handoff.handoffId (pid p) n := by
    have hjustified : first.sessionId = _ := h.traced _ hfirst
    have hjustified' : second.sessionId = _ := h.traced _ hsecond
    rw [← hjustified, ← hjustified', ← hfirstId, hid, hsecondId]
  by_contra hne
  refine hsha ⟨p, m, n, first, second, hfirst, hsecond, fun hpreimage => ?_, hdigests⟩
  exact hne (sessionPreimage_sequence (by omega) (by omega) hpreimage)

/-- Two states of sessions with one id are states of one session. -/
theorem Desk.Sound.sameSession (h : w.Sound pid L₀) (hsha : ¬w.Collides pid)
    (hcounter : ∀ p, w.sequence p ≤ 2 ^ 64) {p m n : Nat} {session other : LockedExecutionSession}
    (hsession : Belongs w.events p m session) (hother : Belongs w.events p n other)
    (hid : session.sessionId = other.sessionId) :
    session.handoff = other.handoff ∧
      session.journal.journalId = other.journal.journalId := by
  obtain rfl := h.number_eq hsha hcounter hsession hother hid
  obtain ⟨first, hfirst, -, hhandoff, hheader⟩ := hsession
  obtain ⟨second, hsecond, -, hhandoff', hheader'⟩ := hother
  obtain rfl := h.once p m first second hfirst hsecond
  exact ⟨hhandoff.trans hhandoff'.symm, hheader.journalId.trans hheader'.journalId.symm⟩

/-- The session has this id, and is one for this journal with its plan and its target. -/
structure MadeFor (sessionId : String) (j : OperationJournal) (session : LockedExecutionSession) :
    Prop where
  sessionId : session.sessionId = sessionId
  journalId : session.journal.journalId = j.journalId
  planId : session.handoff.planId = j.planId
  target : session.handoff.manifestDigest = j.baselineManifestDigest

/-- Every link that led to the approval of the journal was made for it: the receipt, the
revalidation, the health checks, the evidence and the verification. -/
def Chained (events : Events) (p : Nat) (sessionId : String) (j : OperationJournal) : Prop :=
  ∃ captured receipt collected inputs bundle verified verification,
    (p, .captured captured receipt) ∈ events ∧ (p, .revalidated receipt inputs.backup) ∈ events ∧
    (p, .collected collected inputs bundle) ∈ events ∧
    (p, .verified verified bundle verification) ∈ events ∧
    MadeFor sessionId j captured ∧ MadeFor sessionId j collected ∧ MadeFor sessionId j verified ∧
    (∀ receipt ∈ inputs.health, ∃ checked, (p, .checkedHealth checked receipt) ∈ events ∧
      MadeFor sessionId j checked) ∧
    (inputs.backup.sessionId = sessionId ∧ inputs.backup.journalId = j.journalId ∧
      inputs.backup.planId = j.planId ∧
      inputs.backup.targetManifestDigest = j.baselineManifestDigest) ∧
    (bundle.lockedSessionId = sessionId ∧ bundle.planId = j.planId ∧
      bundle.targetManifestDigest = j.baselineManifestDigest ∧
      bundle.status = .evidenceComplete) ∧
    (verification.lockedSessionId = sessionId ∧ verification.journalId = j.journalId ∧
      verification.planId = j.planId ∧
      verification.targetManifestDigest = j.baselineManifestDigest) ∧
    j.approval = some (approvalBinding verification)

theorem checkPreconditions_bound {session : LockedExecutionSession}
    {bundle : PreMutationEvidenceBundle} (h : checkPreconditions session bundle = .ok ()) :
    bundle.lockedSessionId = session.sessionId ∧ bundle.status = .evidenceComplete := by
  unfold checkPreconditions at h
  iterate 5 obtain ⟨-, h⟩ := check_eq_ok_iff.mp h
  obtain ⟨hsession, h⟩ := check_eq_ok_iff.mp h
  iterate 6 obtain ⟨-, h⟩ := check_eq_ok_iff.mp h
  obtain ⟨hstatus, -⟩ := check_eq_ok_iff.mp h
  simp only [refuse_eq_ok_iff, not_not] at hsession hstatus
  exact ⟨hsession, hstatus⟩

theorem Desk.Sound.chained (h : w.Sound pid L₀) (hsha : ¬w.Collides pid)
    (hcounter : ∀ p, w.sequence p ≤ 2 ^ 64) {p : Nat} {sessionId : String} {j : OperationJournal}
    (hby : ApprovedBy w.events p sessionId j) : Chained w.events p sessionId j := by
  obtain ⟨n, session, verified, bundle, verification, hbelongs, hverified, hid, hjournal, hplan,
    htarget, hv⟩ := hby
  -- every other session of the chain has the id of this one, so it is this one
  have hmade : ∀ {m : Nat} {other : LockedExecutionSession}, Belongs w.events p m other →
      other.sessionId = sessionId → MadeFor sessionId j other := by
    intro m other hother hotherId
    obtain ⟨hhandoff, hsame⟩ :=
      h.sameSession hsha hcounter hother hbelongs (hotherId.trans hid.symm)
    refine ⟨hotherId, hsame.trans hjournal, ?_, ?_⟩
    · rw [hhandoff, hplan]
    · rw [hhandoff, htarget]
  obtain ⟨⟨_, hverifiedBelongs⟩, ⟨collected, inputs, hcollected⟩, hchecked, -, hverifiedId, -⟩ :
    Justified pid w.events _ := h.traced _ hverified
  obtain ⟨⟨_, hcollectedBelongs⟩, ⟨receipt, hrevalidated⟩, hhealth, -, hbuilt⟩ :
    Justified pid w.events _ := h.traced _ hcollected
  obtain ⟨⟨captured, hcaptured⟩, hbackupSession, hbackupJournal⟩ :
    Justified pid w.events _ := h.traced _ hrevalidated
  obtain ⟨⟨_, hcapturedBelongs⟩, hreceiptSession, hreceiptJournal⟩ :
    Justified pid w.events _ := h.traced _ hcaptured
  obtain ⟨hbundleSession, hstatus⟩ := checkPreconditions_bound hchecked
  have hlinks := buildPreMutationEvidence_collected hbuilt
  have hverifiedFor : verified.sessionId = sessionId := hverifiedId.symm.trans hv.1
  have hcollectedFor : collected.sessionId = sessionId := by
    rw [← hlinks.lockedSessionId, hbundleSession, hverifiedFor]
  have hcapturedFor : captured.sessionId = sessionId := by
    rw [← hreceiptSession, ← hbackupSession, hlinks.backupSession, hcollectedFor]
  have hmadeCollected := hmade hcollectedBelongs hcollectedFor
  refine ⟨captured, receipt, collected, inputs, bundle, verified, verification, hcaptured,
    hrevalidated, hcollected, hverified, hmade hcapturedBelongs hcapturedFor, hmadeCollected,
    hmade hverifiedBelongs hverifiedFor, fun health hmem => ?_, ⟨?_, ?_, ?_, ?_⟩,
    ⟨?_, ?_, ?_, hstatus⟩, ⟨hv.1, hv.2.1, hv.2.2.1, hv.2.2.2.1⟩, hv.2.2.2.2⟩
  · obtain ⟨checked, hcheckedHealth⟩ := hhealth health hmem
    obtain ⟨⟨_, hcheckedBelongs⟩, hcheckedId⟩ : Justified pid w.events _ :=
      h.traced _ hcheckedHealth
    refine ⟨checked, hcheckedHealth, hmade hcheckedBelongs ?_⟩
    rw [← hcheckedId, (buildPreMutationEvidence_health hbuilt health hmem).1, hcollectedFor]
  · rw [hlinks.backupSession, hcollectedFor]
  · rw [hlinks.backupJournal, hmadeCollected.journalId]
  · rw [hlinks.backupPlan, hmadeCollected.planId]
  · rw [hlinks.backupTarget, hmadeCollected.target]
  · rw [hlinks.lockedSessionId, hcollectedFor]
  · rw [hlinks.planId, hmadeCollected.planId]
  · rw [hlinks.targetManifestDigest, hmadeCollected.target]

end Chains

section Refusals

variable [Fingerprint] {fromSlice : FromSlice} {pid : Nat → Nat} {L₀ : Ledger} {w : Desk}
  {session : LockedExecutionSession}

theorem verifyPreconditions_refuses {bundle : PreMutationEvidenceBundle}
    (h : bundle.lockedSessionId ≠ session.sessionId) :
    ∃ e, verifyPreconditions fromSlice bundle session = .ret (.error e, session) := by
  cases hchecked : checkPreconditions session bundle with
  | ok u => exact absurd (checkPreconditions_bound hchecked).1 h
  | error e =>
    refine ⟨e, ?_⟩
    have hrun : verifyPreconditions fromSlice bundle session =
        (Proc.lift (checkPreconditions session bundle) >>= fun _ => do
          (persistPreconditionsVerified fromSlice).mapError .session
          let session ← Proc.get
          pure (verificationOf session bundle)) session := rfl
    rw [hrun, hchecked]
    rfl

theorem approveExactPlan_refuses {verification : PreconditionsVerification}
    (h : verification.lockedSessionId ≠ session.sessionId) (planId bundleId target : String) :
    ∃ e, approveExactPlan fromSlice verification planId bundleId target session =
      .ret (.error e, session) := by
  cases hchecked : checkApproval session verification planId bundleId target with
  | ok u => exact absurd (checkApproval_bound hchecked).2.1 h
  | error e =>
    refine ⟨e, ?_⟩
    have hrun : approveExactPlan fromSlice verification planId bundleId target session =
        (Proc.lift (checkApproval session verification planId bundleId target) >>= fun _ => do
          (persistExactPlanApproved fromSlice planId (approvalBinding verification)).mapError
            .session
          let session ← Proc.get
          pure
            { binding := approvalBinding verification
              journalId := session.journal.journalId
              filesystemDecision := verification.filesystemDecision
              ownerAcceptanceRequired := true
              mutationEnabled := false }) session := rfl
    rw [hrun, hchecked]
    rfl

theorem Approving.refuses {verification : PreconditionsVerification}
    (h : verification.lockedSessionId ≠ session.sessionId) (approving : Approving) :
    ∃ e, approving.proc fromSlice verification session = .ret (.error e, session) := by
  cases approving with
  | exact planId bundleId target => exact approveExactPlan_refuses h planId bundleId target
  | operator confirmation =>
    have hrun : Approving.proc fromSlice verification (.operator confirmation) session =
        (Proc.lift (refuse (confirmation ≠ operatorConfirmationPhrase verification)
          .operatorConfirmationMismatch) >>= fun _ => approveExactPlan fromSlice verification
            verification.planId verification.bundleId verification.targetManifestDigest)
          session := rfl
    by_cases hphrase : confirmation = operatorConfirmationPhrase verification
    · have hrefused : ∃ e, approveExactPlan fromSlice verification verification.planId
          verification.bundleId verification.targetManifestDigest session =
          .ret (.error e, session) := approveExactPlan_refuses h _ _ _
      obtain ⟨e, he⟩ := hrefused
      refine ⟨e, ?_⟩
      rw [hrun, refuse, if_neg (not_not.mpr hphrase), ← he]
      rfl
    · refine ⟨.operatorConfirmationMismatch, ?_⟩
      rw [hrun, refuse, if_pos hphrase]
      rfl

/-- An approval given in another session freezes nothing. -/
theorem freezeExecutionIntent_refuses {approval : ExactPlanApproval}
    (h : approval.binding.lockedSessionId ≠ session.sessionId) (identity : TargetIdentityManifest)
    (steps : List PlanStep) (s : St (interface storeEnv)) :
    (freezeExecutionIntent fromSlice identity steps approval).Holds session s
      (fun _ _ _ => False) (fun _ _ _ => True) fun _ => True := by
  unfold freezeExecutionIntent
  refine Proc.holds_bind.mpr (Proc.holds_get.mpr (.lift_bind fun _ _ => ?_))
  refine Proc.Holds.any_bind fun _ _ _ => .lift_bind fun _ hbinding => ?_
  unfold checkApprovalBinding at hbinding
  obtain ⟨binding, -, hbinding⟩ := bind_eq_ok_iff.mp hbinding
  obtain ⟨hmatches, -⟩ := check_eq_ok_iff.mp hbinding
  simp only [refuse_eq_ok_iff, not_or, not_not] at hmatches
  exact absurd hmatches.2.1 h

/-- Whatever was made in another session of the process is refused in this one. -/
structure Refuses (fromSlice : FromSlice) (events : Events) (p n : Nat)
    (session : LockedExecutionSession) : Prop where
  backup : ∀ other m receipt backup (inputs : EvidenceInputs) bundle, Belongs events p m other → m ≠ n →
    (p, .captured other receipt) ∈ events → (p, .revalidated receipt backup) ∈ events →
    inputs.backup = backup → inputs.bundle session ≠ .ok bundle
  health : ∀ other m receipt (inputs : EvidenceInputs) bundle, Belongs events p m other → m ≠ n →
    (p, .checkedHealth other receipt) ∈ events → inputs.health = some receipt →
    inputs.bundle session ≠ .ok bundle
  evidence : ∀ other m inputs bundle, Belongs events p m other → m ≠ n →
    (p, .collected other inputs bundle) ∈ events →
    ∃ e, verifyPreconditions fromSlice bundle session = .ret (.error e, session)
  verification : ∀ other m bundle verification, Belongs events p m other → m ≠ n →
    (p, .verified other bundle verification) ∈ events → ∀ approving : Approving,
    ∃ e, approving.proc fromSlice verification session = .ret (.error e, session)
  approval : ∀ other m verification approval, Belongs events p m other → m ≠ n →
    (p, .approved other verification approval) ∈ events → ∀ identity steps store,
    (freezeExecutionIntent fromSlice identity steps approval).Holds session store
      (fun _ _ _ => False) (fun _ _ _ => True) fun _ => True

theorem Desk.Sound.refuses (h : w.Sound pid L₀) (hsha : ¬w.Collides pid)
    (hcounter : ∀ p, w.sequence p ≤ 2 ^ 64) {p n : Nat} (hbelongs : Belongs w.events p n session) :
    Refuses fromSlice w.events p n session := by
  have hother : ∀ {m : Nat} {other : LockedExecutionSession}, Belongs w.events p m other →
      m ≠ n → other.sessionId ≠ session.sessionId := by
    intro m other hm hne hid
    exact hne (h.number_eq hsha hcounter hm hbelongs hid)
  constructor
  · rintro other m receipt backup inputs bundle hm hne hcaptured hrevalidated rfl hbuilt
    obtain ⟨-, hbackup, -⟩ : Justified pid w.events _ := h.traced _ hrevalidated
    obtain ⟨-, hreceipt, -⟩ : Justified pid w.events _ := h.traced _ hcaptured
    refine hother hm hne ?_
    rw [← hreceipt, ← hbackup, (buildPreMutationEvidence_collected hbuilt).backupSession]
  · intro other m receipt inputs bundle hm hne hchecked hhealth hbuilt
    obtain ⟨-, hid⟩ : Justified pid w.events _ := h.traced _ hchecked
    refine hother hm hne ?_
    rw [← hid, (buildPreMutationEvidence_health hbuilt receipt hhealth).1]
  · intro other m inputs bundle hm hne hcollected
    obtain ⟨-, -, -, -, hbuilt⟩ : Justified pid w.events _ := h.traced _ hcollected
    refine verifyPreconditions_refuses fun hid => hother hm hne ?_
    rw [← hid, (buildPreMutationEvidence_collected hbuilt).lockedSessionId]
  · intro other m bundle verification hm hne hverified approving
    obtain ⟨-, -, -, -, hid, -⟩ : Justified pid w.events _ := h.traced _ hverified
    exact Approving.refuses (fun hsame => hother hm hne (hid.symm.trans hsame)) approving
  · intro other m verification approval hm hne happroved identity steps store
    obtain ⟨-, hbinding, hid⟩ : Justified pid w.events _ := h.traced _ happroved
    refine freezeExecutionIntent_refuses (fun hsame => hother hm hne ?_) identity steps store
    rw [← hid, ← hsame, hbinding]
    rfl

/-- Evidence is complete only about a target and tools that are still the same, with backups
that are still there and a filesystem that may grow now. -/
theorem EvidenceInputs.complete {inputs : EvidenceInputs} {bundle : PreMutationEvidenceBundle}
    (hfrozen : inputs.baseline.manifestDigest = session.handoff.manifestDigest)
    (hbuilt : inputs.bundle session = .ok bundle) (hstatus : bundle.status = .evidenceComplete) :
    (∃ m, inputs.fresh = .ok m ∧ m.manifestDigest = session.handoff.manifestDigest) ∧
      session.handoff.matchesCapabilities inputs.capabilities = true ∧
      inputs.backup.sameReceipt = true ∧ bundle.filesystemDecision.executionReady = true := by
  obtain ⟨hchanges, hcapabilities, hbackup, hready⟩ :=
    buildPreMutationEvidence_complete hbuilt hstatus
  refine ⟨?_, hcapabilities, hbackup, hready⟩
  rw [← hfrozen]
  exact (revalidateTargetIdentity_sameIdentity _ _).mp
    ((revalidateTargetIdentity_changes _ _).mp hchanges)

end Refusals

section Samples
variable [Fingerprint]

/-- A host without storage tools. -/
def sampleCapabilities : HostCapabilities := ⟨[]⟩

def evidenceHandoff : FrozenExecutionHandoff :=
  { sampleHandoff with capabilitiesDigest := fingerprint (toJson sampleCapabilities) }

/-- A session without a store, whose journal has met these calls. -/
def evidenceSession (calls : List JournalTransition) (attempted : Bool) :
    LockedExecutionSession where
  sessionId := sessionDigest sampleDigest 7 0
  handoff := evidenceHandoff
  journal := (run sampleGuard calls).journal
  durable := false
  revalidationAttempted := attempted

def sampleIdentity : IdentityRevalidation := ⟨true, sampleDigest, some sampleDigest, []⟩

theorem revalidate_sample :
    revalidate faithfulReader sampleIdentity sampleCapabilities
      (evidenceSession [.hostLockAcquired] false) =
      .ret (.ok ⟨.revalidated, sampleIdentity, true, []⟩,
        evidenceSession [.hostLockAcquired, .identityRevalidated sampleDigest] true) := by
  have hmatches : evidenceHandoff.matchesCapabilities sampleCapabilities = true :=
    beq_self_eq_true _
  have hsession : (evidenceSession [.hostLockAcquired] false).handoff = evidenceHandoff := rfl
  simp only [revalidate, bind, Proc.bind, Proc.get, Proc.lift, Proc.set, Calls.bind, hsession,
    hmatches, Bool.and_true]
  rfl


/-- A manifest that asks for nothing. -/
def sampleManifest : MetadataBackupManifest where
  manifestId := sampleDigest
  handoffId := sampleDigest
  planId := sampleDigest
  targetManifestDigest := sampleDigest
  artifactDirectory := pathJoin backupDirectory sampleDigest
  mutationEnabled := false
  ownerAcceptanceRequired := true
  requirements := []

def sampleFiles : BackupFiles where
  ensureDirectory _ := .ok ()
  existingDirectory _ := .ok ()
  capture _ _ := .ok ()
  artifact _ := .error "no artifact"
  syncDirectory _ := .ok ()

def sampleReceipt : MetadataBackupReceipt where
  schemaVersion := 2
  receiptId := expectedReceiptId sampleManifest (sessionDigest sampleDigest 7 0) sampleDigest []
  manifestId := sampleDigest
  handoffId := sampleDigest
  planId := sampleDigest
  targetManifestDigest := sampleDigest
  sessionId := sessionDigest sampleDigest 7 0
  journalId := sampleDigest
  mutationEnabled := false
  artifacts := []

theorem capture_sample : captureMetadataBackups sampleFiles
    (evidenceSession [.hostLockAcquired, .identityRevalidated sampleDigest] true) sampleManifest =
      .ok sampleReceipt := by
  have hproduction : productionRoot sampleDigest = sampleManifest.artifactDirectory := rfl
  have hroot : isArtifactRoot sampleManifest sampleDigest sampleDigest = true := by
    rw [isArtifactRoot, hproduction, Swap.samePath_self, Bool.true_or]
  refine check_eq_ok_iff.mpr ⟨rfl, check_eq_ok_iff.mpr ⟨?_, rfl⟩⟩
  exact refuse_eq_ok_iff.mpr (not_not.mpr hroot)

def sampleDecision : FilesystemGrowthDecision where
  target := "/data"
  device := some "/dev/sda1"
  mountpoint := some "/data"
  fsType := some "ext4"
  state := .readyOnlineGrow
  metadataState := none
  readOnlyCheck := none
  reasons := []
  requiredActions := []

def sampleTarget : TargetIdentityManifest where
  schemaVersion := 1
  target := "/data"
  manifestDigest := sampleDigest
  resolvedDevice := "/dev/sda1"
  routeStatus := .supportedProfile
  routeIssueCodes := []
  devices := []
  partitions := []
  lvm := []
  filesystem := none
  mounts := []

def sampleInputs : EvidenceInputs where
  baseline := sampleTarget
  fresh := .ok sampleTarget
  capabilities := sampleCapabilities
  decision := sampleDecision
  backup := revalidateMetadataBackupReceipt sampleFiles sampleManifest sampleReceipt
  health := none

theorem sampleInputs_bundle : ∃ bundle, sampleInputs.bundle
    (evidenceSession [.hostLockAcquired, .identityRevalidated sampleDigest] true) = .ok bundle := by
  apply Exists.intro
  refine check_eq_ok_iff.mpr ⟨rfl, check_eq_ok_iff.mpr ⟨rfl,
    check_eq_ok_iff.mpr ⟨refuse_eq_ok_iff.mpr ?_, rfl⟩⟩⟩
  rintro (h | h | h | h | h) <;> exact h rfl

/-- Processes that were given nothing, and an empty store. -/
def emptyDesk : Desk := ⟨⟨⟨∅, []⟩, none⟩, 0, fun _ => 0, []⟩

/-- One choice for each call of a session without a store. -/
def counters : Script (interface storeEnv) :=
  List.replicate 2 fun op => match op with
    | .inl op => op.granted ⟨true, 1, 1, 0, 0o600, 1, 0, []⟩
    | .inr .geteuid => (0 : Nat)
    | .inr .processId => (7 : Nat)
    | .inr .nextSequence => (0 : Nat)
    | .inr .unclassifiedRuntimeEvidence => .ok []

theorem began_sample :
    ∃ store, (beginWithLock faithfulReader evidenceHandoff false ()).run counters ⟨∅, []⟩ =
      (some (.ok (evidenceSession [.hostLockAcquired] false), ()), store) := ⟨_, rfl⟩

/-- A session that has collected its evidence. -/
theorem evidence_sample : ∃ w bundle, Desk.Reaches faithfulReader (fun _ => 7) emptyDesk w ∧
    w.sequence = Function.update (fun _ => 0) 0 1 ∧
    w.events = [(0, .began 0 (evidenceSession [.hostLockAcquired] false)),
      (0, .captured (evidenceSession [.hostLockAcquired, .identityRevalidated sampleDigest] true)
        sampleReceipt),
      (0, .revalidated sampleReceipt sampleInputs.backup),
      (0, .collected (evidenceSession [.hostLockAcquired, .identityRevalidated sampleDigest] true)
        sampleInputs bundle)] := by
  obtain ⟨store, hbegan⟩ := began_sample
  obtain ⟨bundle, hbundle⟩ := sampleInputs_bundle
  have hrevalidated : ∀ script s, ((SessionCall.revalidate sampleIdentity sampleCapabilities).proc
      faithfulReader (evidenceSession [.hostLockAcquired] false)).run script s =
      (some (.ok (), evidenceSession [.hostLockAcquired, .identityRevalidated sampleDigest] true),
        s) := by
    intro script s
    have hcall : (SessionCall.revalidate sampleIdentity sampleCapabilities).proc faithfulReader
        (evidenceSession [.hostLockAcquired] false) =
        Proc.bind (revalidate faithfulReader sampleIdentity sampleCapabilities)
          (fun _ => Proc.pure ()) (evidenceSession [.hostLockAcquired] false) := rfl
    rw [hcall, Proc.bind, revalidate_sample]
    rfl
  have hheld : ((Host.mk store (some (evidenceSession [.hostLockAcquired] false))).step
      faithfulReader (.call (.revalidate sampleIdentity sampleCapabilities)) []) = ⟨store,
        some (evidenceSession [.hostLockAcquired, .identityRevalidated sampleDigest] true)⟩ := by
    unfold Host.step
    dsimp only
    rw [hrevalidated]
  refine ⟨_, bundle, .tail (.tail (.tail (.tail (.tail .refl
    (.began 0 evidenceHandoff false counters rfl hbegan rfl))
    (.host (.call (.revalidate sampleIdentity sampleCapabilities)) [] trivial))
    (.capture sampleFiles sampleManifest (congrArg Host.session hheld) capture_sample))
    (.revalidateReceipt 0 sampleFiles sampleManifest
      (List.mem_append_right _ (List.mem_singleton.mpr rfl))))
    (.collect sampleInputs (congrArg Host.session hheld) rfl
      (List.mem_append_right _ (List.mem_singleton.mpr rfl)) (fun _ h => by cases h) hbundle),
    rfl, rfl⟩

end Samples

end StorageManager.Executor.JournalStore
