import StorageManager.Executor.CreateMountCrossing
import StorageManager.Executor.CreatePersistentLooks

/-!
# fstab is replaced at most once

Any number of calls on one journal of a persistent configuration update, any failures, cuts and
restarts. The new fstab is renamed into place only behind the durable UpdatingFstab record, with
the old bytes backed up, and a restart finds Completed only when the new bytes were read back and
a discovery found the entry.
-/

namespace StorageManager.Executor.Create.Persistent

open StorageManager.Core
open Lib
open Lib.Checks
open Lib.Effects
open Lib.RecordFile
open Lib.WriteAhead
open Lib.Looking
open Lib.Recovering
open Lib.Text (encodeUtf8)
open Mount (ProductionCreateMountActivationIntent ProductionCreateMountRuntimeExecutionReceipt
  ProductionCreateMountRuntimeJournal ProductionCreateMountRuntimeJournalError
  verifyMountedSnapshot)
open PersistentConfig (appendExactFstabEntry)
open Swap (IoError)

set_option autoImplicit false

section Law

variable [Fingerprint]

/-- The journal was made for this create and this activation. -/
structure Binds (create : ProductionCreateActivationIntent)
    (activation : ProductionCreateMountActivationIntent)
    (j : ProductionCreatePersistentConfigJournal) : Prop where
  createActivationId : j.createActivationId = create.activationId
  mountActivationId : j.mountActivationId = activation.mountActivationId
  partitionDevice : j.partitionDevice = activation.partitionDevice
  filesystem : j.filesystem = activation.filesystem
  mountpoint : j.mountpoint = activation.mountpoint
  fstabSource : j.fstabSource = activation.fstabSource
  fstabOptions : j.fstabOptions = activation.fstabOptions
  fstabDump : j.fstabDump = activation.fstabDump
  fstabPass : j.fstabPass = activation.fstabPass

/-- The calls that were made before fstab with the bytes `before` is replaced by a file `temp`
with the bytes `after`. While the Prepared record that `j` continues was stored: the completed
journal of the mount was loaded, a discovery found the mount and no entry for it, fstab was read,
and its bytes were backed up. Behind `j`: the new file was made. -/
def Staging (root : String) (j : ProductionCreatePersistentConfigJournal) (temp : String)
    (before after : List UInt8) (seen : List LogEntry) : Prop :=
  ∃ create activation receipt mountJournal prepared file snapshot metadata look backup staged,
    buildProductionCreatePersistentConfigJournal create activation receipt mountJournal =
      .ok prepared ∧
    mountJournal.phase = .completed ∧ file.visible = some prepared ∧
    applyTransition prepared .beginPersistentConfigUpdate = .ok j ∧ Binds create activation j ∧
    verifyMountedSnapshot create activation snapshot = .ok () ∧
    SafeRead productionCreateFstabPath 0 file (before, metadata) look ∧
    appendExactFstabEntry before (fstabScope activation) = .ok after ∧
    BackedUp root j.journalId before 0 file backup ∧
    Staged temp productionCreateFstabPath after before metadata 0 (.holding (some j)) staged ∧
    seen = called file (.loadMountJournal mountJournal.journalId) (.ok mountJournal) ::
      called file .discoverSnapshot (.ok snapshot) :: (look ++ backup ++ staged)

/-- What a rename meets. The file holds one durable record. -/
def RenameAllowed (root : String) (log : List LogEntry) (rename : String × String)
    (file : JournalFile) : Prop :=
  persistentDiscipline.acts log = [] ∧ rename.2 = productionCreateFstabPath ∧
  ∃ j before after seen, file = .holding (some j) ∧ j.phase = .updatingFstab ∧
    Staging root j rename.1 before after seen ∧ List.Sublist seen log

/-- The successful rename behind the record `j`. -/
def renamed (j : ProductionCreatePersistentConfigJournal) (temp : String) : LogEntry :=
  called (.holding (some j)) (.rename temp productionCreateFstabPath) (.ok ())

/-- fstab was replaced behind the record that `j` continues. -/
def Replaced (root : String) (log : List LogEntry)
    (j : ProductionCreatePersistentConfigJournal) : Prop :=
  ∃ updating temp before after seen, Staging root updating temp before after seen ∧
    applyTransition updating .persistentConfigWriteSucceeded = .ok j ∧
    List.Sublist (seen ++ [renamed updating temp]) log

/-- fstab was replaced, and after that, behind the record that `j` continues, the new bytes were
read back and a discovery found the entry once. -/
def Updated (root : String) (log : List LogEntry) (j : ProductionCreatePersistentConfigJournal) :
    Prop :=
  ∃ updating awaiting temp before after seen create activation metadata snapshot readback,
    Staging root updating temp before after seen ∧
    applyTransition updating .persistentConfigWriteSucceeded = .ok awaiting ∧
    applyTransition awaiting .persistentConfigRediscoveryVerified = .ok j ∧
    Binds create activation j ∧
    SafeRead productionCreateFstabPath 0 (.holding (some awaiting)) (after, metadata) readback ∧
    verifyPersistentSnapshot create activation snapshot = .ok () ∧
    List.Sublist (seen ++ [renamed updating temp] ++ readback ++
      [called (.holding (some awaiting)) .discoverSnapshot (.ok snapshot)]) log

/-- What the log tells about a record that a restart can find. -/
def Accounted (root : String) (log : List LogEntry)
    (j : ProductionCreatePersistentConfigJournal) : Prop :=
  match j.phase with
  | .fstabWrittenAwaitingVerification => Replaced root log j
  | .completed => Updated root log j
  | _ => True

end Law

section Transitions

variable [Fingerprint] {j r : ProductionCreatePersistentConfigJournal}
  {create : ProductionCreateActivationIntent} {activation : ProductionCreateMountActivationIntent}
  {t : ProductionCreatePersistentConfigTransition}

/-- Where a transition leads. -/
def ProductionCreatePersistentConfigTransition.target :
    ProductionCreatePersistentConfigTransition → ProductionCreatePersistentConfigPhase
  | .beginPersistentConfigUpdate => .updatingFstab
  | .persistentConfigWriteSucceeded => .fstabWrittenAwaitingVerification
  | .persistentConfigRediscoveryVerified => .completed
  | .recoveryRequired => .recoveryRequired

omit [Fingerprint] in
theorem transitionTarget_moves {p q : ProductionCreatePersistentConfigPhase} {code : String}
    (h : transitionTarget p t = some (q, code)) : q = t.target ∧ p.rank < q.rank := by
  unfold transitionTarget at h
  split at h <;> cases h <;> exact ⟨rfl, by decide⟩

/-- A transition moves up to its phase and keeps what the journal is bound to. -/
theorem applyTransition_ok (h : applyTransition j t = .ok r) :
    r.phase = t.target ∧ j.phase.rank < r.phase.rank ∧ ∃ events, r = { j with
      phase := t.target
      mutationMayHaveStarted := true
      persistentConfigMayHaveChanged := true
      events := events } := by
  unfold applyTransition at h
  obtain ⟨⟨phase, code⟩, htarget, h⟩ := bind_eq_ok_iff.mp h
  obtain ⟨-, h⟩ := check_eq_ok_iff.mp h
  cases h
  obtain ⟨rfl, hup⟩ := transitionTarget_moves (okOr_eq_ok_iff.mp htarget)
  exact ⟨rfl, hup, _, rfl⟩

theorem applyTransition_phase (h : applyTransition j t = .ok r) : r.phase = t.target :=
  (applyTransition_ok h).1

theorem applyTransition_rank (h : applyTransition j t = .ok r) : j.phase.rank < r.phase.rank :=
  (applyTransition_ok h).2.1

theorem applyTransition_journalId (h : applyTransition j t = .ok r) :
    r.journalId = j.journalId := by
  obtain ⟨-, -, -, rfl⟩ := applyTransition_ok h
  rfl

theorem Binds.step (h : Binds create activation j) (hr : applyTransition j t = .ok r) :
    Binds create activation r := by
  obtain ⟨-, -, events, rfl⟩ := applyTransition_ok hr
  exact ⟨h.createActivationId, h.mountActivationId, h.partitionDevice, h.filesystem, h.mountpoint,
    h.fstabSource, h.fstabOptions, h.fstabDump, h.fstabPass⟩

omit [Fingerprint] in
theorem rank_le_recoveryRequired (p : ProductionCreatePersistentConfigPhase) : p.rank ≤ 4 := by
  cases p <;> decide

omit [Fingerprint] in
/-- The bytes that are read back are the ones that were written. -/
theorem checkReadback_ok {after : List UInt8} {metadata : Metadata}
    {found : List UInt8 × Metadata}
    (h : checkReadback activation after metadata found = .ok ()) : found = (after, found.2) := by
  unfold checkReadback at h
  obtain ⟨hsame, -⟩ := check_eq_ok_iff.mp h
  simp only [refuse_eq_ok_iff, not_or, not_not, ne_eq] at hsame
  rw [← hsame.1]

/-- A built record is Prepared, and its mount is completed. -/
theorem build_ok {receipt : ProductionCreateMountRuntimeExecutionReceipt}
    {mountJournal : ProductionCreateMountRuntimeJournal}
    (h : buildProductionCreatePersistentConfigJournal create activation receipt mountJournal =
      .ok j) : j.phase = .prepared ∧ mountJournal.phase = .completed ∧
        Binds create activation j := by
  unfold buildProductionCreatePersistentConfigJournal at h
  obtain ⟨hauthorized, h⟩ := check_eq_ok_iff.mp h
  obtain ⟨-, h⟩ := check_eq_ok_iff.mp h
  cases h
  unfold validateAuthorization at hauthorized
  simp only [refuse_eq_ok_iff, not_or, not_not, ne_eq] at hauthorized
  obtain ⟨-, -, -, -, -, -, -, -, -, -, -, -, -, -, hcompleted, -⟩ := hauthorized
  exact ⟨rfl, hcompleted, rfl, rfl, rfl, rfl, rfl, rfl, rfl, rfl, rfl⟩

/-- Nothing is lost from fstab: the new bytes go on where the old ones end. -/
theorem Staging.keeps {root temp : String} {before after : List UInt8} {seen : List LogEntry}
    (h : Staging root j temp before after seen) : List.IsPrefix before after := by
  obtain ⟨create, activation, receipt, mountJournal, prepared, file, snapshot, metadata, look,
    backup, staged, -, -, -, -, -, -, -, happend, -⟩ := h
  unfold appendExactFstabEntry at happend
  obtain ⟨-, happend⟩ := check_eq_ok_iff.mp happend
  obtain ⟨-, happend⟩ := check_eq_ok_iff.mp happend
  obtain ⟨-, happend⟩ := check_eq_ok_iff.mp happend
  cases happend
  rw [List.append_assoc, List.append_assoc]
  exact List.prefix_append before _

/-- The record of an accepted authorization chain is the one that is built from the chain. -/
theorem validateBindings_ok {receipt : ProductionCreateMountRuntimeExecutionReceipt}
    {mountJournal : ProductionCreateMountRuntimeJournal}
    (h : validateBindings create activation receipt mountJournal j = .ok ()) :
    buildProductionCreatePersistentConfigJournal create activation receipt mountJournal =
      .ok j := by
  unfold validateBindings at h
  obtain ⟨-, h⟩ := check_eq_ok_iff.mp h
  obtain ⟨expected, hexpected, h⟩ := bind_eq_ok_iff.mp h
  obtain rfl := not_not.mp (refuse_eq_ok_iff.mp h)
  exact mapError_eq_ok_iff.mp hexpected

/-- The journal of the update, its discipline and what its records account for. -/
@[reducible] def persistentLedger (root : String) :
    Ledger ProductionCreatePersistentConfigJournal persistentEnv where
  toDiscipline := persistentDiscipline
  Transition := ProductionCreatePersistentConfigTransition
  Error := ProductionCreatePersistentConfigJournalError
  step t j := applyTransition j t
  persist := journalStore.persist
  allowed := RenameAllowed root
  persist_rewrites := journalStore.persist_rewrites
  rank_le h := Nat.le_of_lt (applyTransition_rank h)
  allowed_silent := by
    intro s t rename ⟨hnone, htarget, j, before, after, seen, hw, hphase, hstaging, hseen⟩ hst
    exact ⟨(Quiet.acts_eq hst.1).trans hnone, htarget, j, before, after, seen, hst.2.trans hw,
      hphase, hstaging, (Logged.of_grew hst.1).later hseen⟩
  recover := .recoveryRequired
  account := Accounted root
  account_append := by
    intro log ext j h
    have longer := List.sublist_append_left log ext
    unfold Accounted at h ⊢
    split
    · rename_i hphase
      rw [hphase] at h
      obtain ⟨updating, temp, before, after, seen, hstaging, hstep, hsub⟩ := h
      exact ⟨updating, temp, before, after, seen, hstaging, hstep, hsub.trans longer⟩
    · rename_i hphase
      rw [hphase] at h
      obtain ⟨updating, awaiting, temp, before, after, seen, create, activation, metadata,
        snapshot, readback, hstaging, hwritten, hverified, hbinds, hread, hlive, hsub⟩ := h
      exact ⟨updating, awaiting, temp, before, after, seen, create, activation, metadata,
        snapshot, readback, hstaging, hwritten, hverified, hbinds, hread, hlive,
        hsub.trans longer⟩
    · trivial
  recover_rank := by
    intro r r' h v
    show persistentDiscipline.rank v ≤ r'.phase.rank
    rw [applyTransition_phase h]
    cases v with
    | none => exact Nat.zero_le _
    | some j => exact rank_le_recoveryRequired j.phase
  recover_account := by
    intro r r' log h
    show Accounted root log r'
    rw [Accounted, applyTransition_phase h]
    trivial

end Transitions

section Crossing

variable [Fingerprint] {root : String} {j : ProductionCreatePersistentConfigJournal}
  {s : PersistentSt} {create : ProductionCreateActivationIntent}
  {activation : ProductionCreateMountActivationIntent} {before after : List UInt8}
  {metadata : Metadata} {base : List LogEntry}

/-- Behind UpdatingFstab, after the calls of `base`, nothing was renamed yet. -/
structure AtRename (root : String) (j : ProductionCreatePersistentConfigJournal)
    (base : List LogEntry) (s : PersistentSt) : Prop where
  kept : Kept (persistentLedger root) s
  world : s.world = .holding (some j)
  phase : j.phase = .updatingFstab
  unacted : persistentDiscipline.acts s.log = []
  seen : List.Sublist base s.log

theorem AtRename.saw {t : PersistentSt} {seen : List LogEntry} (h : AtRename root j base s)
    (hst : Saw persistentDiscipline seen s t) : AtRename root j (base ++ seen) t := by
  refine ⟨h.kept.silent hst.silent, hst.silent.2.trans h.world, h.phase, ?_, hst.calls.sublist h.seen⟩
  rw [Quiet.acts_eq hst.silent.1]
  exact h.unacted

theorem AtRename.silent {t : PersistentSt} (h : AtRename root j base s)
    (hst : Silent persistentDiscipline s t) : AtRename root j base t := by
  have ht := h.saw (.of_silent hst)
  rwa [List.append_nil] at ht

/-- The new file that is staged is renamed over fstab. -/
theorem installReplacement_holds {parent temp : String} (h : AtRename root j base s)
    (hstaging : ∀ staged, Staged temp productionCreateFstabPath after before metadata 0
      (.holding (some j)) staged → Staging root j temp before after (base ++ staged)) :
    (installReplacement parent temp productionCreateFstabPath after before metadata 0).Holds j s
      (fun _ j' t => j' = j ∧ Kept (persistentLedger root) t ∧ t.world = s.world ∧
        ∃ seen, Staging root j temp before after seen ∧
          List.Sublist (seen ++ [renamed j temp]) t.log)
      (fun _ _ t => Kept (persistentLedger root) t) (Kept (persistentLedger root)) := by
  unfold installReplacement
  refine looks_then (L := persistentLedger root) h.kept (stageReplacement_looks _ _ _ _ _ _)
    fun _ staged t hstaged hst => ?_
  rw [h.world] at hstaged
  have hall := hstaging staged hstaged
  have ht := h.saw hst
  have hready : Journaled.Ready (persistentLedger root).toJournal
      (temp, productionCreateFstabPath) j t := by
    refine ⟨ht.kept.law, ht.world, ?_, ?_, ht.unacted, rfl, j, before, after, _, ht.world, h.phase,
      hall, ht.seen⟩
    · rw [ht.unacted]
      exact List.not_mem_nil
    · show 1 ≤ j.phase.rank
      rw [h.phase]
      exact Nat.le_refl 1
  unfold orFail
  refine Proc.holds_bind.mpr (Proc.holds_bind.mpr ((ask_holds (L := persistentLedger root) ht.kept
    hready rfl).mono ?_ (fun _ _ _ h => h.elim) fun _ h => h))
  rintro answer j' u ⟨rfl, hkept, rfl⟩
  cases answer with
  | error source => exact hkept
  | ok done =>
    have hrenamed := (@Logged.call _ persistentEnv t (.rename temp productionCreateFstabPath)
      (.ok done)).sublist ht.seen
    rw [ht.world] at hrenamed
    refine ((Looks.orFail (askHost_looks (.syncDirectory parent) rfl)) j' _).mono ?_ ?_
      fun _ hu => hkept.silent hu
    · rintro _ j'' v ⟨rfl, seen, -, hv⟩
      refine ⟨rfl, hkept.silent hv.silent, hv.silent.2.trans hst.silent.2, _, hall, ?_⟩
      exact hv.calls.later hrenamed
    · exact fun _ _ _ hu => hkept.silent hu.2

/-- fstab is replaced by a new file beside it. A file that was left behind is removed. -/
theorem atomicReplace_holds {journalId : String} (h : AtRename root j base s)
    (hstaging : ∀ temp staged, Staged temp productionCreateFstabPath after before metadata 0
      (.holding (some j)) staged → Staging root j temp before after (base ++ staged)) :
    (atomicReplace productionCreateFstabPath after before metadata 0 journalId).Holds j s
      (fun _ j' t => j' = j ∧ Kept (persistentLedger root) t ∧ t.world = s.world ∧
        ∃ temp seen, Staging root j temp before after seen ∧
          List.Sublist (seen ++ [renamed j temp]) t.log)
      (fun _ _ t => Kept (persistentLedger root) t) (Kept (persistentLedger root)) := by
  unfold atomicReplace symlinkMetadata
  refine check_then h.kept fun parent _ => check_then h.kept fun fileName _ => ?_
  refine looks_then (L := persistentLedger root) h.kept
    (Looks.orFail (askHost_looks (.symlinkMetadata parent) rfl)) fun parentMetadata _ t _ hst => ?_
  have ht := h.silent hst.silent
  refine check_then ht.kept fun _ _ => ?_
  refine looks_then (L := persistentLedger root) ht.kept (askHost_looks .getpid rfl)
    fun pid _ u _ hst' => ?_
  have hu := ht.silent hst'.silent
  refine Proc.holds_bind.mpr (Proc.holds_attempt.mpr
    ((installReplacement_holds hu (hstaging _)).mono ?_ ?_ fun _ h => h))
  · rintro _ j' v ⟨hj, hkept, hworld, hseen⟩
    exact ⟨hj, hkept, (hworld.trans hst'.silent.2).trans hst.silent.2, _, hseen⟩
  · intro e j' v hkept
    exact looks_then (L := persistentLedger root) hkept (askHost_looks (.removeFile _) rfl)
      fun _ _ w _ hst => hkept.silent hst.silent

/-- The update keeps the law and the accounts of the records. -/
theorem rewriteFstab_holds (h : Kept (persistentLedger root) s)
    (hvisible : s.world.visible = some j) (hprepared : j.phase = .prepared)
    (hbinds : Binds create activation j) (hbase : List.Sublist base s.log)
    (hstaging : ∀ j', applyTransition j .beginPersistentConfigUpdate = .ok j' →
      ∀ temp staged, Staged temp productionCreateFstabPath after before metadata 0
        (.holding (some j')) staged → Staging root j' temp before after (base ++ staged)) :
    (rewriteFstab create activation productionCreateFstabPath before after metadata).Holds j s
      (fun _ _ t => Kept (persistentLedger root) t) (fun _ _ t => Kept (persistentLedger root) t)
      (Kept (persistentLedger root)) := by
  unfold rewriteFstab
  refine Proc.holds_bind.mpr (Proc.holds_get.mpr ?_)
  refine step_then (L := persistentLedger root) h .beginPersistentConfigUpdate ?_
    fun j₁ s₁ hbegin hw₁ h₁ hq₁ => ?_
  · intro j' hj'
    constructor
    · rw [hvisible]
      exact Nat.le_of_lt (applyTransition_rank hj')
    · show Accounted root s.log j'
      rw [Accounted, applyTransition_phase hj']
      trivial
  have hat : AtRename root j₁ base s₁ := by
    refine ⟨h₁, hw₁, applyTransition_phase hbegin, ?_, (Logged.of_grew hq₁).later hbase⟩
    -- nothing was ever renamed on a Prepared record
    rw [hq₁.acts_eq]
    refine List.eq_nil_iff_forall_not_mem.mpr fun rename => h.law.fresh ?_
    rw [hvisible]
    show j.phase.rank < 1
    rw [hprepared]
    exact Nat.zero_lt_one
  refine orRecovery_then (L := persistentLedger root)
    (atomicReplace_holds hat (hstaging j₁ hbegin)) ?_
  rintro _ j₂ s₂ ⟨rfl, h₂, hw₂, temp, seen, hstaged, hseen⟩
  refine step_orRecovery_then (L := persistentLedger root) h₂ .persistentConfigWriteSucceeded ?_
    fun j₃ s₃ hwritten hw₃ h₃ hq₃ => ?_
  · intro j' hj'
    constructor
    · rw [hw₂, hw₁]
      exact Nat.le_of_lt (applyTransition_rank hj')
    · show Accounted root s₂.log j'
      rw [Accounted, applyTransition_phase hj']
      exact ⟨j₂, temp, before, after, seen, hstaged, hj', hseen⟩
  refine looks_orRecovery_then (L := persistentLedger root) h₃
    (readSafeRegular_looks productionCreateFstabPath 0) fun found readback s₄ hread hst₄ => ?_
  have h₄ := h₃.silent hst₄.silent
  refine check_orRecovery_then (L := persistentLedger root) h₄ fun _ hback => ?_
  refine looks_orRecovery_then (L := persistentLedger root) h₄ verifyLiveWithPersistentConfig_looks
    fun _ discovery s₅ hlive hst₅ => ?_
  obtain ⟨snapshot, hlive, rfl⟩ := hlive
  refine step_orRecovery_then (L := persistentLedger root) (h₄.silent hst₅.silent)
    .persistentConfigRediscoveryVerified ?_ fun j₆ s₆ _ _ h₆ _ => h₆
  intro j' hj'
  have hw₄ : s₄.world = .holding (some j₃) := hst₄.silent.2.trans hw₃
  constructor
  · rw [hst₅.silent.2, hw₄]
    exact Nat.le_of_lt (applyTransition_rank hj')
  · show Accounted root s₅.log j'
    rw [Accounted, applyTransition_phase hj']
    rw [hw₃, checkReadback_ok hback] at hread
    have hall := hst₅.calls.sublist (hst₄.calls.sublist ((Logged.of_grew hq₃).later hseen))
    rw [hw₄] at hall
    exact ⟨j₂, j₃, temp, before, after, seen, create, activation, found.2, snapshot, readback,
      hstaged, hwritten, hj', ((hbinds.step hbegin).step hwritten).step hj', hread, hlive, hall⟩

/-- One call of the update, with whatever the caller holds. -/
theorem update_holds (h : Kept (persistentLedger root) s)
    (receipt : ProductionCreateMountRuntimeExecutionReceipt)
    (mountJournal : ProductionCreateMountRuntimeJournal) :
    (updateProductionCreatePersistentConfig create activation receipt mountJournal root).Holds j s
      (fun _ _ t => Kept (persistentLedger root) t) (fun _ _ t => Kept (persistentLedger root) t)
      (Kept (persistentLedger root)) := by
  unfold updateProductionCreatePersistentConfig updatePersistentConfigAt
  refine looks_then (L := persistentLedger root) h (askHost_looks .geteuid rfl)
    fun euid _ s₁ _ hst₁ => ?_
  have h₁ := h.silent hst₁.silent
  refine check_then h₁ fun _ _ => ?_
  refine Proc.holds_bind.mpr (Proc.holds_get.mpr (check_then h₁ fun _ hvalid => ?_))
  have hbuild := validateBindings_ok hvalid
  obtain ⟨hprepared, hcompleted, hbinds⟩ := build_ok hbuild
  refine looks_then (L := persistentLedger root) h₁
    (Looks.orFail (askHost_looks (.loadMountJournal _) rfl)) fun persistedMount _ s₂ hmount hst₂ => ?_
  have h₂ := h₁.silent hst₂.silent
  refine check_then h₂ fun _ hsame => ?_
  obtain rfl := not_not.mp (refuse_eq_ok_iff.mp hsame)
  refine looks_then (L := persistentLedger root) h₂ (journalStore.load_looks _ _).mapError
    fun persisted _ s₃ hload hst₃ => ?_
  have h₃ := h₂.silent hst₃.silent
  refine check_then h₃ fun _ hsame => ?_
  obtain rfl := not_not.mp (refuse_eq_ok_iff.mp hsame)
  refine looks_then (L := persistentLedger root) h₃ verifyLiveWithoutPersistentConfig_looks
    fun _ _ s₄ hlive hst₄ => ?_
  obtain ⟨snapshot, hverified, rfl⟩ := hlive
  have h₄ := h₃.silent hst₄.silent
  refine looks_then (L := persistentLedger root) h₄
    (readSafeRegular_looks productionCreateFstabPath 0) fun found look s₅ hread hst₅ => ?_
  have h₅ := h₄.silent hst₅.silent
  refine check_then h₅ fun after happend => ?_
  refine looks_then (L := persistentLedger root) h₅
    (ensureBackup_looks root persisted.journalId found.1 0) fun _ backup s₆ hbackup hst₆ => ?_
  -- the calls so far met one file
  have hw₂ : s₂.world = s₁.world := hst₂.silent.2
  have hw₃ : s₃.world = s₁.world := hst₃.silent.2.trans hw₂
  have hw₄ : s₄.world = s₁.world := hst₄.silent.2.trans hw₃
  have hw₅ : s₅.world = s₁.world := hst₅.silent.2.trans hw₄
  have hseen := ((((hst₂.append hst₃).append hst₄).append hst₅).append hst₆).calls.sublist
    (List.nil_sublist s₁.log)
  refine Proc.holds_bind.mpr ((rewriteFstab_holds (h₅.silent hst₆.silent) ?_ hprepared hbinds
    hseen fun j' hbegin temp staged hstaged => ?_).mono ?_ (fun _ _ _ h => h) fun _ h => h)
  · rw [hst₆.silent.2, hw₅, ← hw₂]
    exact hload.1
  · rw [hw₄] at hread
    rw [hw₅, ← applyTransition_journalId hbegin] at hbackup
    refine ⟨create, activation, receipt, persistedMount, persisted, s₁.world, snapshot, found.2,
      look, backup, staged, hbuild, hcompleted, ?_, hbegin, hbinds.step hbegin, hverified, hread,
      mapError_eq_ok_iff.mp happend, hbackup, hstaged, ?_⟩
    · rw [← hw₂]
      exact hload.1
    · rw [hmount, hload.2, hw₃]
      simp only [List.nil_append, List.append_nil, List.cons_append, List.append_assoc]
  · exact fun _ _ _ hkept => Proc.holds_bind.mpr (Proc.holds_get.mpr hkept)

/-- The check of a receipt reads fstab. -/
theorem revalidate_holds (h : Kept (persistentLedger root) s)
    (receipt : ProductionCreatePersistentConfigReceipt) :
    (revalidateProductionCreatePersistentConfigReceipt activation receipt).Holds j s
      (fun _ _ t => Kept (persistentLedger root) t) (fun _ _ t => Kept (persistentLedger root) t)
      (Kept (persistentLedger root)) := by
  unfold revalidateProductionCreatePersistentConfigReceipt
  refine check_then h fun _ _ => ?_
  refine looks_then (L := persistentLedger root) h (readSafeRegular_looks receipt.fstabPath 0)
    fun current _ t _ hst => ?_
  have ht := h.silent hst.silent
  exact check_then ht fun _ _ => Proc.holds_lift.mpr ⟨fun _ _ => ht, fun _ _ => ht⟩

end Crossing

section Calls

/-- Any call on the journal file of one update, in the store at `root`. -/
inductive PersistentCall [Fingerprint] (root journalId : String) where
  | persistNew (create : ProductionCreateActivationIntent)
      (activation : ProductionCreateMountActivationIntent)
      (receipt : ProductionCreateMountRuntimeExecutionReceipt)
      (mountJournal : ProductionCreateMountRuntimeJournal)
      (bound : ∀ j, buildProductionCreatePersistentConfigJournal create activation receipt
        mountJournal = .ok j → j.journalId = journalId)
  | update (create : ProductionCreateActivationIntent)
      (activation : ProductionCreateMountActivationIntent)
      (receipt : ProductionCreateMountRuntimeExecutionReceipt)
      (mountJournal : ProductionCreateMountRuntimeJournal)
      (journal : ProductionCreatePersistentConfigJournal) (bound : journal.journalId = journalId)
  | revalidate (activation : ProductionCreateMountActivationIntent)
      (receipt : ProductionCreatePersistentConfigReceipt)
      (journal : ProductionCreatePersistentConfigJournal)

variable [Fingerprint] {root journalId : String} {s : PersistentSt}

/-- The call as a program; the journal in memory is whatever the caller holds. -/
def PersistentCall.program : PersistentCall root journalId →
    Calls (interface ProductionCreatePersistentConfigJournal persistentEnv) Unit
  | .persistNew create activation receipt mountJournal _ =>
    (persistNewProductionCreatePersistentConfigJournal create activation receipt
      mountJournal).discard ()
  | .update create activation receipt mountJournal journal _ =>
    (updateProductionCreatePersistentConfig create activation receipt mountJournal root).discard
      journal
  | .revalidate activation receipt journal =>
    (revalidateProductionCreatePersistentConfigReceipt activation receipt).discard journal

/-- The states of one journal: no record at first, then any calls, each cut anywhere, and any
restarts. -/
def PersistentReaches (root journalId : String) (s : PersistentSt) : Prop :=
  Reaches (fun call : PersistentCall root journalId => call.program) File.Restart
    ⟨.holding none, []⟩ s

/-- The renames so far. -/
def renames (log : List LogEntry) : List (String × String) := persistentDiscipline.acts log

theorem PersistentReaches.kept (h : PersistentReaches root journalId s) :
    Kept (persistentLedger root) s := by
  refine Reaches.invariant h Kept.init ?_ fun s w hs hw => hs.restart hw
  intro call s hs
  cases call with
  | persistNew create activation receipt mountJournal bound =>
    refine Proc.Holds.discard (check_then hs fun j hj => ?_)
    refine Proc.holds_bind.mpr ((creates_holds hs (journalStore.persistNew_creates j)
      (Nat.zero_le _) fun log => ?_).mono (fun _ _ _ h => h) (fun _ _ _ h => h) fun _ h => h)
    show Accounted root log j
    rw [Accounted, (build_ok hj).1]
    trivial
  | update create activation receipt mountJournal journal bound =>
    exact (update_holds hs receipt mountJournal).discard
  | revalidate activation receipt journal =>
    exact (revalidate_holds hs receipt).discard

/-- fstab is replaced at most once in the life of a journal, and nothing else is renamed. The
rename meets the durable UpdatingFstab record, of a file that keeps every byte fstab had and
comes after the backup of these bytes and the looks made while the Prepared record was stored. -/
theorem fstab_replaced_once_after_backup (h : PersistentReaches root journalId s) :
    (renames s.log).length ≤ 1 ∧
    ∀ pre e post source target, s.log = pre ++ e :: post → e.op = .inr (.rename source target) →
      target = productionCreateFstabPath ∧
      ∃ j before after seen, e.before = .holding (some j) ∧ j.phase = .updatingFstab ∧
        Staging root j source before after seen ∧ List.IsPrefix before after ∧
        List.Sublist seen pre := by
  have hlaw := h.kept.law
  constructor
  · -- a second rename would have met a log with one
    exact acts_length_le_one fun pre e post rename hlog hact =>
      (hlaw.guarded pre e post rename hlog hact).1
  · intro pre e post source target hlog hop
    have hact : persistentDiscipline.actOf e = some (source, target) := by
      rw [Discipline.actOf, hop]
    obtain ⟨-, htarget, j, before, after, seen, hj, hphase, hstaging, hseen⟩ :=
      hlaw.guarded pre e post (source, target) hlog hact
    exact ⟨htarget, j, before, after, seen, hj, hphase, hstaging, hstaging.keeps, hseen⟩

/-- A restart finds FstabWrittenAwaitingVerification only when the rename succeeded, and Completed
only when after that exactly the new bytes were read back and a discovery found the entry once. -/
theorem completed_update_was_read_back (h : PersistentReaches root journalId s) :
    ∀ j, some j ∈ s.world.possible →
      (j.phase = .fstabWrittenAwaitingVerification → Replaced root s.log j) ∧
      (j.phase = .completed → Updated root s.log j) := by
  intro j hj
  have haccount := h.kept.accounted j hj
  refine ⟨fun hphase => ?_, fun hphase => ?_⟩
  · change Accounted root s.log j at haccount
    rwa [Accounted, hphase] at haccount
  · change Accounted root s.log j at haccount
    rwa [Accounted, hphase] at haccount

end Calls

section Sample

/-- The sample mount, to be kept in fstab. -/
def sampleMountActivation : ProductionCreateMountActivationIntent :=
  let a := { Mount.sampleActivation with persistToFstab := true }
  { a with mountActivationId := a.expectedMountActivationId }

/-- The record of its completed mount. -/
def sampleMountJournal : ProductionCreateMountRuntimeJournal :=
  let j := { Mount.sampleJournal with
    mountActivationId := sampleMountActivation.mountActivationId
    phase := .completed
    mutationMayHaveStarted := true
    mountMayHaveChanged := true
    events := [⟨1, .prepared, .mounting, "mount-started"⟩,
      ⟨2, .mounting, .mountedAwaitingVerification, "mount-process-succeeded"⟩,
      ⟨3, .mountedAwaitingVerification, .completed, "mount-rediscovery-verified"⟩] }
  { j with journalId := j.expectedJournalId }

def sampleReceipt : ProductionCreateMountRuntimeExecutionReceipt :=
  Mount.executionReceiptFor sampleMountActivation Mount.sampleLaunch sampleMountJournal

def sampleJournal : ProductionCreatePersistentConfigJournal :=
  let a := sampleMountActivation
  let j : ProductionCreatePersistentConfigJournal :=
    { schemaVersion := 1, journalId := "", mountActivationId := a.mountActivationId
      mountExecutionReceiptId := sampleReceipt.receiptId
      mountRuntimeJournalId := sampleMountJournal.journalId
      createActivationId := Create.sampleActivation.activationId, disk := a.disk
      partitionDevice := a.partitionDevice, filesystem := a.filesystem
      filesystemUuid := a.filesystemUuid, mountpoint := a.mountpoint, fstabSource := a.fstabSource
      fstabOptions := a.fstabOptions, fstabDump := a.fstabDump, fstabPass := a.fstabPass
      phase := .prepared, mutationMayHaveStarted := false, persistentConfigMayHaveChanged := false
      events := [] }
  { j with journalId := j.expectedJournalId }

/-- fstab before and after the rename. -/
def sampleFstab (renamed : Bool) : List UInt8 :=
  let before := encodeUtf8 PersistentConfig.sampleTable
  if renamed then
    before ++ [10] ++ encodeUtf8 (PersistentConfig.fstabLine (fstabScope sampleMountActivation)) ++
      [10]
  else before

def sampleMetadata (renamed : Bool) : Metadata :=
  ⟨false, true, false, 64, if renamed then 12 else 11, 0, 0, 0o100644, 1,
    (sampleFstab renamed).length⟩

/-- The host of the sample mount, with the entry or without it. -/
def sampleHostSnapshot (renamed : Bool) : HostSnapshot :=
  let a := sampleMountActivation
  let entry : FstabEntry :=
    ⟨a.fstabSource, a.mountpoint, a.filesystem, a.fstabOptions, a.fstabDump, a.fstabPass⟩
  { Mount.sampleSnapshot true with fstab := if renamed then [entry] else [] }

/-- A host that refuses nothing and has no backup yet. File 4 is the new one. -/
def sampleHost (renamed : Bool) :
    (op : (interface ProductionCreatePersistentConfigJournal persistentEnv).Op) →
      (interface ProductionCreatePersistentConfigJournal persistentEnv).Choice op
  | .inl _ => none
  | .inr .geteuid => (0 : Nat)
  | .inr .getpid => (7 : Nat)
  | .inr .discoverSnapshot => (.ok (sampleHostSnapshot renamed) : Except String HostSnapshot)
  | .inr (.loadMountJournal _) =>
    (.ok sampleMountJournal :
      Except ProductionCreateMountRuntimeJournalError ProductionCreateMountRuntimeJournal)
  | .inr (.symlinkMetadata path) =>
    (if path = productionCreateFstabPath then .ok (sampleMetadata renamed)
      else if path = "/etc" then .ok ⟨false, false, true, 64, 2, 0, 0, 0o40755, 2, 4096⟩
      else .error .notFound : Except IoError Metadata)
  | .inr (.openRead _) => (.ok 3 : Except IoError Nat)
  | .inr (.openNew _ _) => (.ok 4 : Except IoError Nat)
  | .inr (.fstat file) =>
    (.ok (sampleMetadata (renamed || file = 4)) : Except IoError Metadata)
  | .inr (.setPermissions _ _) => (.ok () : Except IoError Unit)
  | .inr (.writeAll _ _) => (.ok () : Except IoError Unit)
  | .inr (.syncAll _) => (.ok () : Except IoError Unit)
  | .inr (.readToEnd _ _) => (.ok (sampleFstab renamed) : Except IoError (List UInt8))
  | .inr (.readPath _) => (.ok (sampleFstab false) : Except IoError (List UInt8))
  | .inr (.rename _ _) => (.ok () : Except IoError Unit)
  | .inr (.removeFile _) => (.ok () : Except IoError Unit)
  | .inr (.syncDirectory _) => (.ok () : Except IoError Unit)

/-- The two calls of an uneventful update. fstab is the new file from the last call's
thirty-third answer on. -/
def sampleCalls : List (PersistentCall productionCreatePersistentConfigJournalDirectory
      sampleJournal.journalId ×
    Script (interface ProductionCreatePersistentConfigJournal persistentEnv)) :=
  [(.persistNew Create.sampleActivation sampleMountActivation sampleReceipt sampleMountJournal (by
      intro j h
      obtain ⟨-, h⟩ := check_eq_ok_iff.mp h
      obtain ⟨-, h⟩ := check_eq_ok_iff.mp h
      cases h
      rfl), List.replicate 6 (sampleHost false)),
    (.update Create.sampleActivation sampleMountActivation sampleReceipt sampleMountJournal
      sampleJournal rfl,
      List.replicate 32 (sampleHost false) ++ List.replicate 16 (sampleHost true))]

theorem fstab_replaced_once_after_backup_sample :
    let s := runAll PersistentCall.program sampleCalls ⟨.holding none, []⟩
    (renames s.log).length ≤ 1 ∧
    ∀ pre e post source target, s.log = pre ++ e :: post → e.op = .inr (.rename source target) →
      target = productionCreateFstabPath ∧
      ∃ j before after seen, e.before = .holding (some j) ∧ j.phase = .updatingFstab ∧
        Staging productionCreatePersistentConfigJournalDirectory j source before after seen ∧
        List.IsPrefix before after ∧ List.Sublist seen pre :=
  fstab_replaced_once_after_backup (Reaches.runAll sampleCalls _)

theorem completed_update_was_read_back_sample :
    let s := runAll PersistentCall.program sampleCalls ⟨.holding none, []⟩
    ∀ j, some j ∈ s.world.possible →
      (j.phase = .fstabWrittenAwaitingVerification →
        Replaced productionCreatePersistentConfigJournalDirectory s.log j) ∧
      (j.phase = .completed →
        Updated productionCreatePersistentConfigJournalDirectory s.log j) :=
  completed_update_was_read_back (Reaches.runAll sampleCalls _)

end Sample

end StorageManager.Executor.Create.Persistent
