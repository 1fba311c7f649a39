import StorageManager.Executor.CreateCrossing
import StorageManager.Executor.CreateMountLooks

/-!
# A mount happens at most once

Any number of calls on one mount journal, any failures, cuts and restarts. mount is spawned only
behind the durable Mounting record, after the looks that the Prepared record was stored for, and a
restart finds Completed only when mount exited with zero and a later discovery verified it.
-/

namespace StorageManager.Executor.Create.Mount

open StorageManager.Core
open Lib
open Lib.Checks
open Lib.Effects
open Lib.RecordFile
open Lib.WriteAhead
open Lib.Looking
open Lib.Recovering
open Swap (FileMetadata IoError pathComponents)

set_option autoImplicit false

section Law

variable [Fingerprint]

/-- The journal was made for this create and this activation. -/
structure Binds (create : ProductionCreateActivationIntent)
    (activation : ProductionCreateMountActivationIntent) (j : ProductionCreateMountRuntimeJournal) :
    Prop where
  createActivationId : j.createActivationId = create.activationId
  mountActivationId : j.mountActivationId = activation.mountActivationId
  disk : j.disk = create.disk
  partitionDevice : j.partitionDevice = activation.partitionDevice
  filesystem : j.filesystem = activation.filesystem
  filesystemUuid : eqIgnoreAsciiCase j.filesystemUuid activation.filesystemUuid = true
  mountpoint : j.mountpoint = activation.mountpoint
  mountpointDeviceId : j.mountpointDeviceId = activation.mountpointDeviceId
  mountpointInode : j.mountpointInode = activation.mountpointInode

/-- While the Prepared record that `j` continues was stored, a discovery found the created
filesystem unused, and the mountpoint was the frozen empty directory, twice. -/
def Prechecked (j : ProductionCreateMountRuntimeJournal) (log : List LogEntry) : Prop :=
  ∃ create activation prepared file checked look,
    Binds create activation j ∧ file.visible = some prepared ∧
    applyTransition prepared .beginMount = .ok j ∧ PreflightLook create activation file checked ∧
    MountpointLook activation file look ∧ List.Sublist (checked ++ look) log

/-- The stage mounts the filesystem of the journal on its mountpoint. -/
def MountsExactly (j : ProductionCreateMountRuntimeJournal) (stage : DescriptorStage Nat) : Prop :=
  ∃ mountFile uuid, eqIgnoreAsciiCase j.filesystemUuid uuid = true ∧
    stage = mountStage mountFile j.filesystem (uuidSource uuid) j.mountpoint

/-- What a spawn meets. The file holds one durable record. -/
def SpawnAllowed (log : List LogEntry) (stage : DescriptorStage Nat)
    (file : File ProductionCreateMountRuntimeJournal) : Prop :=
  mountDiscipline.acts log = [] ∧ ∃ j, file = .holding (some j) ∧ j.phase = .mounting ∧
    MountsExactly j stage ∧ Prechecked j log

/-- A mount that exited with zero. -/
def Mounted (e : LogEntry) : Prop :=
  ∃ stage outcome file, outcome.exitCode = 0 ∧ e = ⟨.inr (.spawn stage),
    (.ok outcome : Except PrivilegedDescriptorExecError DescriptorExecOutcome), file⟩

/-- A discovery that found the mount as it should be while the record that `j` continues was
stored. -/
def VerifiesMount (j : ProductionCreateMountRuntimeJournal) (e : LogEntry) : Prop :=
  ∃ create activation snapshot awaiting, Binds create activation j ∧
    verifyMountedSnapshot create activation snapshot = .ok () ∧
    applyTransition awaiting .mountRediscoveryVerified = .ok j ∧
    e = discovered (.holding (some awaiting)) snapshot

/-- What the log tells about a record that a restart can find. -/
def Accounted (log : List LogEntry) (j : ProductionCreateMountRuntimeJournal) : Prop :=
  match j.phase with
  | .mountedAwaitingVerification => ∃ e ∈ log, Mounted e
  | .completed => ∃ e d, Mounted e ∧ VerifiesMount j d ∧ List.Sublist [e, d] log
  | _ => True

end Law

section Transitions

variable [Fingerprint] {j r : ProductionCreateMountRuntimeJournal}
  {create : ProductionCreateActivationIntent} {activation : ProductionCreateMountActivationIntent}
  {t : ProductionCreateMountRuntimeTransition}

theorem Binds.step (h : Binds create activation j) (hr : applyTransition j t = .ok r) :
    Binds create activation r := by
  obtain ⟨phase, code, -, -, rfl⟩ := applyTransition_eq_ok_iff.mp hr
  exact ⟨h.createActivationId, h.mountActivationId, h.disk, h.partitionDevice, h.filesystem,
    h.filesystemUuid, h.mountpoint, h.mountpointDeviceId, h.mountpointInode⟩

/-- Where a transition leads. -/
def ProductionCreateMountRuntimeTransition.target :
    ProductionCreateMountRuntimeTransition → ProductionCreateMountRuntimePhase
  | .beginMount => .mounting
  | .mountProcessSucceeded => .mountedAwaitingVerification
  | .mountRediscoveryVerified => .completed
  | .recoveryRequired => .recoveryRequired

theorem applyTransition_phase (h : applyTransition j t = .ok r) : r.phase = t.target := by
  obtain ⟨phase, code, htarget, -, rfl⟩ := applyTransition_eq_ok_iff.mp h
  rcases transitionTarget_eq_some htarget with ⟨rfl, -, rfl⟩ | ⟨rfl, -, rfl⟩ | ⟨rfl, -, rfl⟩ |
    ⟨rfl, rfl⟩ <;> rfl

omit [Fingerprint] in
theorem rank_le_recoveryRequired (p : ProductionCreateMountRuntimePhase) : p.rank ≤ 4 := by
  cases p <;> decide

/-- The mount journal, its discipline and what its records account for. -/
@[reducible] def mountLedger : Ledger ProductionCreateMountRuntimeJournal mountEnv where
  toDiscipline := mountDiscipline
  Transition := ProductionCreateMountRuntimeTransition
  Error := ProductionCreateMountRuntimeJournalError
  step t j := applyTransition j t
  persist := journalStore.persist
  allowed := SpawnAllowed
  persist_rewrites := journalStore.persist_rewrites
  rank_le h := Nat.le_of_lt (applyTransition_rank h)
  allowed_silent := by
    intro s t stage ⟨hnone, j, hw, hphase, hexact, create, activation, prepared, file, checked,
      look, hbinds, hprepared, hbegin, hchecked, hlook, hseen⟩ hst
    exact ⟨(Quiet.acts_eq hst.1).trans hnone, j, hst.2.trans hw, hphase, hexact, create,
      activation, prepared, file, checked, look, hbinds, hprepared, hbegin, hchecked, hlook,
      (Logged.of_grew hst.1).later hseen⟩
  recover := .recoveryRequired
  account := Accounted
  account_append := by
    intro log ext j h
    have longer := List.sublist_append_left log ext
    unfold Accounted at h ⊢
    split
    · rename_i hphase
      rw [hphase] at h
      obtain ⟨e, hmem, he⟩ := h
      exact ⟨e, List.mem_append_left ext hmem, he⟩
    · rename_i hphase
      rw [hphase] at h
      obtain ⟨e, d, he, hd, hsub⟩ := h
      exact ⟨e, d, he, hd, hsub.trans longer⟩
    · trivial
  recover_rank := by
    intro r r' h v
    have hphase := applyTransition_phase h
    show mountDiscipline.rank v ≤ r'.phase.rank
    rw [hphase]
    cases v with
    | none => exact Nat.zero_le _
    | some j => exact rank_le_recoveryRequired j.phase
  recover_account := by
    intro r r' log h
    have hphase := applyTransition_phase h
    unfold Accounted
    rw [hphase]
    trivial

end Transitions

section Crossing

variable [Fingerprint] {j : ProductionCreateMountRuntimeJournal} {s : MountSt}
  {create : ProductionCreateActivationIntent} {activation : ProductionCreateMountActivationIntent}
  {tool : PinnedProductionCreateMountTool} {launch : ProductionCreateMountRuntimeLaunchSpec}

/-- A mount that succeeds leaves its exit in the log. -/
theorem runMountStage_holds (h : Kept mountLedger s)
    (hready : Journaled.Ready mountLedger.toJournal (launch.stage tool.mountFile) j s) :
    (runMountStage tool launch).Holds j s
      (fun _ j' t => j' = j ∧ Kept mountLedger t ∧ t.world = s.world ∧
        ∃ e, Mounted e ∧ Logged [e] s t)
      (fun _ _ t => Kept mountLedger t) (Kept mountLedger) := by
  unfold runMountStage orFail executeDescriptorStage
  refine Proc.holds_bind.mpr (Proc.holds_bind.mpr ?_)
  split
  · exact h
  split
  · exact h
  refine looks_then h (mountAsk_looks .openPipes rfl) fun answer _ t _ hst => ?_
  cases answer with
  | error source => exact h.silent hst.silent
  | ok _ =>
    refine (ask_holds (h.silent hst.silent) (hready.silent hst.silent) rfl).mono ?_
      (fun _ _ _ h => h.elim) fun _ h => h
    rintro answer j' u ⟨rfl, hkept, rfl⟩
    cases answer with
    | error source => exact hkept
    | ok outcome =>
      refine Proc.holds_bind.mpr (Proc.holds_lift.mpr ⟨fun _ hzero => ?_, fun _ _ => hkept⟩)
      have hzero := not_not.mp (refuse_eq_ok_iff.mp hzero)
      have hmounted : Mounted ⟨.inr (.spawn (launch.stage tool.mountFile)), .ok outcome, t.world⟩ :=
        ⟨_, outcome, t.world, hzero, rfl⟩
      exact ⟨rfl, hkept, hst.silent.2, _, hmounted,
        (hst.calls.append (.call _)).fewer (List.sublist_append_right _ _)⟩

/-- The crossing keeps the law and the accounts of the records. -/
theorem crossMount_holds (h : Kept mountLedger s) (hvisible : s.world.visible = some j)
    (hprepared : j.phase = .prepared) (hbinds : Binds create activation j)
    (hexact : MountsExactly j (launch.stage tool.mountFile))
    (hchecked : ∀ j', applyTransition j .beginMount = .ok j' → Prechecked j' s.log) :
    (crossMount create activation launch tool).Holds j s (fun _ _ t => Kept mountLedger t)
      (fun _ _ t => Kept mountLedger t) (Kept mountLedger) := by
  unfold crossMount
  refine step_then (L := mountLedger) h .beginMount ?_ fun j₁ s₁ hbegin hw₁ h₁ hq₁ => ?_
  · intro j' hj'
    refine ⟨?_, ?_⟩
    · rw [hvisible]
      exact Nat.le_of_lt (applyTransition_rank hj')
    · show Accounted s.log j'
      rw [Accounted, applyTransition_phase hj']
      trivial
  have hmounting : j₁.phase = .mounting := applyTransition_phase hbegin
  have hbinds₁ := hbinds.step hbegin
  -- nothing was ever spawned on a Prepared record
  have hnone : mountDiscipline.acts s₁.log = [] := by
    rw [hq₁.acts_eq]
    refine List.eq_nil_iff_forall_not_mem.mpr fun stage => h.law.fresh ?_
    rw [hvisible]
    show j.phase.rank < 1
    rw [hprepared]
    exact Nat.zero_lt_one
  have hready : Journaled.Ready mountLedger.toJournal (launch.stage tool.mountFile) j₁ s₁ := by
    refine ⟨h₁.law, hw₁, ?_, ?_, hnone, j₁, hw₁, hmounting, ?_, ?_⟩
    · rw [hnone]
      exact List.not_mem_nil
    · show 1 ≤ j₁.phase.rank
      rw [hmounting]
      exact Nat.le_refl 1
    · obtain ⟨-, -, -, -, rfl⟩ := applyTransition_eq_ok_iff.mp hbegin
      exact hexact
    · obtain ⟨create', activation', prepared, file, checked, look, hb, hp, ha, hpre, hlook, hseen⟩ :=
        hchecked j₁ hbegin
      exact ⟨create', activation', prepared, file, checked, look, hb, hp, ha, hpre, hlook,
        (Logged.of_grew hq₁).later hseen⟩
  refine orRecovery_then (L := mountLedger) (runMountStage_holds h₁ hready) ?_
  rintro _ j₂ s₂ ⟨rfl, h₂, hw₂, e, hmounted, he⟩
  have hw₂ := hw₂.trans hw₁
  have hmem : List.Sublist [e] s₂.log := he.sublist (List.nil_sublist s₁.log)
  refine step_orRecovery_then (L := mountLedger) h₂ .mountProcessSucceeded ?_
    fun j₃ s₃ hsucceeded hw₃ h₃ hq₃ => ?_
  · intro j' hj'
    refine ⟨?_, ?_⟩
    · rw [hw₂]
      exact Nat.le_of_lt (applyTransition_rank hj')
    · show Accounted s₂.log j'
      rw [Accounted, applyTransition_phase hj']
      exact ⟨e, List.singleton_sublist.mp hmem, hmounted⟩
  have hbinds₃ := hbinds₁.step hsucceeded
  refine looks_orRecovery_then (L := mountLedger) h₃ (discoverExactMount_looks _ _)
    fun _ seen s₄ hseen hst => ?_
  obtain ⟨snapshot, hverified, rfl⟩ := hseen
  have h₄ := h₃.silent hst.silent
  refine step_orRecovery_then (L := mountLedger) h₄ .mountRediscoveryVerified ?_
    fun j₅ s₅ _ _ h₅ _ => Proc.holds_bind.mpr (Proc.holds_get.mpr h₅)
  intro j' hj'
  refine ⟨?_, ?_⟩
  · rw [hst.silent.2, hw₃]
    exact Nat.le_of_lt (applyTransition_rank hj')
  · show Accounted s₄.log j'
    rw [Accounted, applyTransition_phase hj']
    refine ⟨e, discovered s₃.world snapshot, hmounted,
      ⟨create, activation, snapshot, j₃, hbinds₃.step hj', hverified, hj', ?_⟩, ?_⟩
    · rw [hw₃]
    · exact hst.calls.sublist ((Logged.of_grew hq₃).later hmem)

/-- What an accepted authorization chain says about the journal. -/
theorem validateStaticChain_ok {preflight : ProductionCreateMountRuntimePreflightReceipt}
    (h : validateStaticChain create activation preflight launch j = .ok ()) :
    j.phase = .prepared ∧ Binds create activation j := by
  unfold validateStaticChain at h
  obtain ⟨hstate, h⟩ := check_eq_ok_iff.mp h
  simp only [refuse_eq_ok_iff, not_or, ne_eq, not_not] at hstate h
  obtain ⟨-, -, -, -, -, -, -, -, -, -, -, -, -, -, -, -, -, -, -, -, -, -, -, -, -, -, -, -, -, -,
    hphase, -⟩ := hstate
  obtain ⟨hcreate, -, -, -, hmount, -, -, -, -, -, -, hdisk, -, hpartition, hfs, -, -, hjfs, -, -,
    huuid, -, -, hmountpoint, hdevice, hinode, hjcreate, -⟩ := h
  exact ⟨hphase, hjcreate.trans hcreate, hmount, hdisk, hpartition, hjfs.trans hfs.symm, huuid,
    hmountpoint, hdevice, hinode⟩

/-- One call of the crossing, with whatever the caller holds. -/
theorem mountCrossing_holds (h : Kept mountLedger s)
    (preflight : ProductionCreateMountRuntimePreflightReceipt) :
    (executeProductionCreateMountCrossing create activation preflight launch tool).Holds j s
      (fun _ _ t => Kept mountLedger t) (fun _ _ t => Kept mountLedger t) (Kept mountLedger) := by
  unfold executeProductionCreateMountCrossing
  refine looks_then h (mountAsk_looks .geteuid rfl) fun euid _ s₁ _ hst₁ => ?_
  have h₁ := h.silent hst₁.silent
  refine check_then h₁ fun _ _ => ?_
  refine Proc.holds_bind.mpr (Proc.holds_get.mpr ?_)
  refine check_then h₁ fun _ hchain => ?_
  obtain ⟨hprepared, hbinds⟩ := validateStaticChain_ok hchain
  refine looks_then h₁ (journalStore.load_looks _ _).mapError fun persisted _ s₂ hload hst₂ => ?_
  have h₂ := h₁.silent hst₂.silent
  refine check_then h₂ fun _ hsame => ?_
  obtain rfl := not_not.mp (refuse_eq_ok_iff.mp hsame)
  have hvisible : s₂.world.visible = some persisted := by
    rw [hst₂.silent.2]
    exact hload.1
  -- the fresh preflight, and the fresh launch after it
  refine looks_then h₂ prepareProductionCreateMountRuntimePreflight_looks.mapError
    fun freshPreflight checked s₃ hchecked hst₃ => ?_
  obtain ⟨hsource, hchecked⟩ := hchecked
  have h₃ := h₂.silent hst₃.silent
  refine check_then h₃ fun _ _ => ?_
  refine looks_then h₃ (buildProductionCreateMountRuntimeLaunchSpec_looks _ _).mapError
    fun freshLaunch look s₄ hlook hst₄ => ?_
  obtain ⟨hlook, hstage⟩ := hlook
  have h₄ := h₃.silent hst₄.silent
  refine check_then h₄ fun _ hsame => ?_
  obtain rfl := not_not.mp (refuse_eq_ok_iff.mp hsame)
  refine crossMount_holds h₄ ?_ hprepared hbinds ?_ fun j' hbegin => ?_
  · rw [hst₄.silent.2, hst₃.silent.2]
    exact hvisible
  · refine ⟨tool.mountFile, activation.filesystemUuid, hbinds.filesystemUuid, ?_⟩
    rw [hstage, hsource, hbinds.filesystem, hbinds.mountpoint]
  · rw [hst₃.silent.2] at hlook
    exact ⟨create, activation, persisted, s₂.world, checked, look, hbinds.step hbegin, hvisible,
      hbegin, hchecked, hlook, (hst₃.append hst₄).calls.sublist (List.nil_sublist _)⟩

end Crossing

section Calls

/-- Any call on the journal file of one mount. -/
inductive MountCall [Fingerprint] (journalId : String) where
  | persistNew (activation : ProductionCreateMountActivationIntent)
      (preflight : ProductionCreateMountRuntimePreflightReceipt)
      (launch : ProductionCreateMountRuntimeLaunchSpec)
      (bound : ∀ j, buildProductionCreateMountRuntimeJournal activation preflight launch = .ok j →
        j.journalId = journalId)
  | crossing (create : ProductionCreateActivationIntent)
      (activation : ProductionCreateMountActivationIntent)
      (preflight : ProductionCreateMountRuntimePreflightReceipt)
      (launch : ProductionCreateMountRuntimeLaunchSpec) (tool : PinnedProductionCreateMountTool)
      (journal : ProductionCreateMountRuntimeJournal) (bound : journal.journalId = journalId)

variable [Fingerprint] {journalId : String} {s : MountSt}

/-- The call as a program; the journal in memory is whatever the caller holds. -/
def MountCall.program : MountCall journalId →
    Calls (interface ProductionCreateMountRuntimeJournal mountEnv) Unit
  | .persistNew activation preflight launch _ =>
    (persistNewProductionCreateMountRuntimeJournal activation preflight launch).discard ()
  | .crossing create activation preflight launch tool journal _ =>
    (executeProductionCreateMountCrossing create activation preflight launch tool).discard journal

/-- The states of one mount journal: no record at first, then any calls, each cut anywhere, and
any restarts. -/
def MountReaches (journalId : String) (s : MountSt) : Prop :=
  Reaches (fun call : MountCall journalId => call.program) File.Restart ⟨.holding none, []⟩ s

/-- The stages spawned so far. -/
def spawned (log : List LogEntry) : List (DescriptorStage Nat) := mountDiscipline.acts log

theorem buildProductionCreateMountRuntimeJournal_prepared
    {activation : ProductionCreateMountActivationIntent}
    {preflight : ProductionCreateMountRuntimePreflightReceipt}
    {launch : ProductionCreateMountRuntimeLaunchSpec} {j : ProductionCreateMountRuntimeJournal}
    (h : buildProductionCreateMountRuntimeJournal activation preflight launch = .ok j) :
    j.phase = .prepared := by
  unfold buildProductionCreateMountRuntimeJournal at h
  obtain ⟨-, h⟩ := check_eq_ok_iff.mp h
  obtain ⟨-, h⟩ := check_eq_ok_iff.mp h
  cases h
  rfl

theorem MountReaches.kept (h : MountReaches journalId s) : Kept mountLedger s := by
  refine Reaches.invariant h Kept.init ?_ fun s w hs hw => hs.restart hw
  intro call s hs
  cases call with
  | persistNew activation preflight launch bound =>
    refine Proc.Holds.discard (check_then hs fun j hj => ?_)
    refine Proc.holds_bind.mpr ((creates_holds hs (journalStore.persistNew_creates j)
      (Nat.zero_le _) fun log => ?_).mono (fun _ _ _ h => h) (fun _ _ _ h => h) fun _ h => h)
    show Accounted log j
    rw [Accounted, buildProductionCreateMountRuntimeJournal_prepared hj]
    trivial
  | crossing create activation preflight launch tool journal bound =>
    exact (mountCrossing_holds hs preflight).discard

/-- mount is spawned at most once in the life of a mount journal. The spawn meets the durable
Mounting record, mounts exactly the filesystem of that record on its mountpoint, and comes after
the looks made while the Prepared record was stored: the filesystem unused, and every directory
down to the frozen empty mountpoint safe, twice. -/
theorem mount_spawned_once_after_looks (h : MountReaches journalId s) :
    (spawned s.log).length ≤ 1 ∧
    ∀ pre e post stage, s.log = pre ++ e :: post → e.op = .inr (.spawn stage) →
      ∃ j, e.before = .holding (some j) ∧ j.phase = .mounting ∧ MountsExactly j stage ∧
        Prechecked j pre := by
  have hlaw := h.kept.law
  constructor
  · -- a second spawn would have met a log with one
    exact acts_length_le_one fun pre e post stage hlog hact =>
      (hlaw.guarded pre e post stage hlog hact).1
  · intro pre e post stage hlog hop
    have hact : mountDiscipline.actOf e = some stage := by rw [Discipline.actOf, hop]
    exact (hlaw.guarded pre e post stage hlog hact).2

/-- A restart finds MountedAwaitingVerification only when mount exited with zero, and Completed
only when a discovery after that found the filesystem of the record mounted as it should be, with
fstab as it was. -/
theorem completed_mount_was_verified (h : MountReaches journalId s) :
    ∀ j, some j ∈ s.world.possible →
      (j.phase = .mountedAwaitingVerification → ∃ e ∈ s.log, Mounted e) ∧
      (j.phase = .completed → ∃ e d, Mounted e ∧ VerifiesMount j d ∧
        List.Sublist [e, d] s.log) := by
  intro j hj
  have haccount := h.kept.accounted j hj
  refine ⟨fun hphase => ?_, fun hphase => ?_⟩
  · change Accounted s.log j at haccount
    rwa [Accounted, hphase] at haccount
  · change Accounted s.log j at haccount
    rwa [Accounted, hphase] at haccount

end Calls

section Sample

/-- The activation of the sample create, with the ids the program computes. -/
def sampleActivation : ProductionCreateMountActivationIntent :=
  let a := Create.sampleActivation
  let m : ProductionCreateMountActivationIntent :=
    { schemaVersion := 1, mountActivationId := "", createActivationId := a.activationId
      filesystemReceiptId := fingerprint (.str "filesystem"), journalId := fingerprint (.str "journal")
      launchId := fingerprint (.str "launch"), disk := a.disk, partitionDevice := "/dev/loop7p1"
      filesystem := a.filesystem, filesystemUuid := "0b7cd2a6-6d0f-4c8e-9f3a-2f6d1f5b9c11"
      mountpoint := "/srv/data", mountpointDeviceId := 64, mountpointInode := 9, mountpointUid := 0
      mountpointMode := 0o40755, fstabSource := "UUID=0b7cd2a6-6d0f-4c8e-9f3a-2f6d1f5b9c11"
      fstabOptions := defaultFstabOptions, fstabDump := 0, fstabPass := 2, persistToFstab := false
      compileFeatureEnabled := true, executionEnabled := false, mountPerformed := false
      fstabChanged := false }
  { m with mountActivationId := m.expectedMountActivationId }

def sampleElf : ElfExecutionIdentity := ⟨.elf64, .littleEndian, 1⟩

def samplePreflight : ProductionCreateMountRuntimePreflightReceipt :=
  preflightReceiptFor Create.sampleActivation sampleActivation (Create.sampleTool .mount)

def sampleTool : PinnedProductionCreateMountTool :=
  ⟨samplePreflight.receiptId, Create.sampleTool .mount, 3⟩

def sampleLaunch : ProductionCreateMountRuntimeLaunchSpec :=
  let a := sampleActivation
  launchSpecFor a samplePreflight
    { program := .mount
      argv := ["mount", "-n", "-t", a.filesystem, "-o", "rw", a.fstabSource, a.mountpoint]
      executable := Create.sampleTool .mount, elf := sampleElf, stdinLen := 0
      stdinSha256 := none }

def sampleJournal : ProductionCreateMountRuntimeJournal :=
  let a := sampleActivation
  let j : ProductionCreateMountRuntimeJournal :=
    { schemaVersion := 1, journalId := "", mountActivationId := a.mountActivationId
      preflightReceiptId := samplePreflight.receiptId, launchId := sampleLaunch.launchId
      createActivationId := a.createActivationId, filesystemReceiptId := a.filesystemReceiptId
      createJournalId := a.journalId, createLaunchId := a.launchId, disk := a.disk
      partitionDevice := a.partitionDevice, filesystem := a.filesystem
      filesystemUuid := a.filesystemUuid, mountpoint := a.mountpoint
      mountpointDeviceId := a.mountpointDeviceId, mountpointInode := a.mountpointInode
      phase := .prepared, mutationMayHaveStarted := false, mountMayHaveChanged := false
      fstabMayHaveChanged := false, events := [] }
  { j with journalId := j.expectedJournalId }

/-- The host of the sample create, the partition mounted or not. -/
def sampleSnapshot (mounted : Bool) : HostSnapshot :=
  let a := sampleActivation
  let snapshot := Create.sampleSnapshot (some ⟨a.filesystem, none⟩)
  let mount (child : BlockDevice) : BlockDevice :=
    { child with
      uuid := some a.filesystemUuid
      mountpoints := if mounted then [a.mountpoint] else [] }
  { snapshot with
    storage := ⟨snapshot.storage.blockDevices.map fun disk =>
      { disk with children := disk.children.map mount }⟩
    mounts := if mounted then [⟨some a.partitionDevice, a.mountpoint, some a.filesystem, ["rw"]⟩]
      else []
    collectors := ["lsblk", "partition_tables", "mounts", "fstab", "swap"].map
      (⟨·, .complete, none⟩) }

/-- A host that refuses nothing. -/
def sampleHost (mounted : Bool) :
    (op : (interface ProductionCreateMountRuntimeJournal mountEnv).Op) →
      (interface ProductionCreateMountRuntimeJournal mountEnv).Choice op
  | .inl _ => none
  | .inr .geteuid => (0 : Nat)
  | .inr .discoverSnapshot => (.ok (sampleSnapshot mounted) : Except String HostSnapshot)
  | .inr (.symlinkMetadata _) =>
    (.ok ⟨false, false, true, 64, 9, 0, 0o40755, 2, 4096, 8⟩ : Except IoError FileMetadata)
  | .inr (.readDir _) => (.ok false : Except IoError Bool)
  | .inr (.resolveTool program) =>
    (.ok (Create.sampleTool program) : Except TrustedToolError TrustedToolIdentity)
  | .inr (.openRead _) => (.ok 3 : Except IoError Nat)
  | .inr (.fstat _) =>
    (.ok ⟨false, true, false, 1, 1, 0, 493, 1, 1, 8⟩ : Except IoError FileMetadata)
  | .inr (.sha256OpenFile _ _) => (.ok (Create.sampleTool .mount).sha256 : Except IoError String)
  | .inr (.inspectElf _) =>
    (.ok sampleElf : Except PrivilegedLaunch.PrivilegedLaunchSpecError ElfExecutionIdentity)
  | .inr .openPipes => (.ok () : Except String Unit)
  | .inr (.spawn _) => (.ok ⟨0, [], [], false, false⟩ : Except PrivilegedDescriptorExecError _)

/-- The two calls of an uneventful mount. The partition is mounted from the last call's
twenty-fifth answer on. -/
def sampleCalls : List (MountCall sampleJournal.journalId ×
    Script (interface ProductionCreateMountRuntimeJournal mountEnv)) :=
  [(.persistNew sampleActivation samplePreflight sampleLaunch (by
      intro j h
      obtain ⟨-, h⟩ := check_eq_ok_iff.mp h
      obtain ⟨-, h⟩ := check_eq_ok_iff.mp h
      cases h
      rfl), List.replicate 6 (sampleHost false)),
    (.crossing Create.sampleActivation sampleActivation samplePreflight sampleLaunch sampleTool
      sampleJournal rfl,
      List.replicate 24 (sampleHost false) ++ List.replicate 11 (sampleHost true))]

theorem mount_spawned_once_after_looks_sample :
    let s := runAll MountCall.program sampleCalls ⟨.holding none, []⟩
    (spawned s.log).length ≤ 1 ∧
    ∀ pre e post stage, s.log = pre ++ e :: post → e.op = .inr (.spawn stage) →
      ∃ j, e.before = .holding (some j) ∧ j.phase = .mounting ∧ MountsExactly j stage ∧
        Prechecked j pre :=
  mount_spawned_once_after_looks (Reaches.runAll sampleCalls _)

theorem completed_mount_was_verified_sample :
    let s := runAll MountCall.program sampleCalls ⟨.holding none, []⟩
    ∀ j, some j ∈ s.world.possible →
      (j.phase = .mountedAwaitingVerification → ∃ e ∈ s.log, Mounted e) ∧
      (j.phase = .completed → ∃ e d, Mounted e ∧ VerifiesMount j d ∧
        List.Sublist [e, d] s.log) :=
  completed_mount_was_verified (Reaches.runAll sampleCalls _)

end Sample

end StorageManager.Executor.Create.Mount
