import StorageManager.Executor.CreateJournalLaws
import StorageManager.Executor.CreateRuntime

/-!
# Create crossings happen at most once

Any number of calls on one create journal, any failures, cuts and restarts. The phases
of the journal rank every spawn: the partition-table writer and partx need the record
WritingPartitionTable, mkfs needs FormattingFilesystem, and phases only move up.
-/

namespace StorageManager.Executor.Create

open StorageManager.Core
open Lib
open Lib.Checks
open Lib.Effects
open Lib.RecordFile
open Lib.WriteAhead

set_option autoImplicit false

/-- The spawns of a create, ranked by the phase that precedes them. -/
@[reducible] def createDiscipline : Discipline ProductionCreateRuntimeJournal createEnv where
  Act := CreateTool
  act
    | .spawn d => some d.file
    | _ => none
  rank
    | none => 0
    | some j => j.phase.rank
  need
    | .sfdisk => 1
    | .partx => 1
    | .mkfs => 4

abbrev CreateEntry := Entry (interface ProductionCreateRuntimeJournal createEnv)
abbrev CreateSt := St (interface ProductionCreateRuntimeJournal createEnv)

instance : IsPreorder CreateSt (Silent createDiscipline) := silent_isPreorder

/-- The tools spawned so far. -/
def spawned (log : List CreateEntry) : List CreateTool := createDiscipline.acts log

section Law

variable [Fingerprint]

/-- A discovery that verified the mapped partition of the journal `j` while the stored
record was PartitionMappedVerified, the record that `j` continues. -/
def VerifiesPartition (j : ProductionCreateRuntimeJournal) (_ : List CreateEntry)
    (e : CreateEntry) : Prop :=
  ∃ snapshot before verified activation launch,
    e = ⟨.inr .discoverSnapshot, (.ok snapshot : Except String HostSnapshot), before⟩ ∧
    verifyPartitionSnapshot activation launch snapshot = .ok () ∧
    activation.activationId = j.activationId ∧ launch.launchId = j.launchId ∧
    before.visible = some verified ∧ verified.phase = .partitionMappedVerified ∧
    applyTransition verified .beginFilesystemFormat = .ok j

/-- What must have come before a spawn. The file holds one durable record. -/
def SpawnAllowed (log : List CreateEntry) (tool : CreateTool)
    (file : File ProductionCreateRuntimeJournal) : Prop :=
  ∃ j, file = .holding (some j) ∧
    match tool with
    | .sfdisk | .partx => j.phase = .writingPartitionTable
    | .mkfs => j.phase = .formattingFilesystem ∧
        Since createDiscipline (VerifiesPartition j) log

end Law

section Transitions

variable [Fingerprint]

/-- A transition moves along the table and keeps what the journal is bound to. -/
theorem applyTransition_ok {j j' : ProductionCreateRuntimeJournal}
    {t : ProductionCreateRuntimeTransition} (h : applyTransition j t = .ok j') :
    ∃ code, transitionTarget j.phase t = some (j'.phase, code) ∧
      j'.activationId = j.activationId ∧ j'.launchId = j.launchId := by
  obtain ⟨phase, code, htarget, -, rfl⟩ := applyTransition_eq_ok_iff.mp h
  exact ⟨code, htarget, rfl, rfl⟩

/-- The create journal with its discipline. -/
@[reducible] def createJournal : Journaled.Journal ProductionCreateRuntimeJournal createEnv where
  toDiscipline := createDiscipline
  Transition := ProductionCreateRuntimeTransition
  Error := ProductionCreateRuntimeJournalError
  step t j := applyTransition j t
  persist := persist
  allowed := SpawnAllowed
  persist_rewrites := persist_rewrites
  rank_le h := Nat.le_of_lt (applyTransition_rank h)
  allowed_silent := by
    rintro s t a ⟨j, hw, h⟩ hst
    refine ⟨j, hst.2.trans hw, ?_⟩
    cases a with
    | sfdisk => exact h
    | partx => exact h
    | mkfs => exact ⟨h.1, hst.1.since h.2⟩

abbrev Lawful (s : CreateSt) : Prop := Journaled.Lawful createJournal s
abbrev Serving (j : ProductionCreateRuntimeJournal) (s : CreateSt) : Prop :=
  Journaled.Serving createJournal j s
abbrev Ready (tool : CreateTool) (j : ProductionCreateRuntimeJournal) (s : CreateSt) : Prop :=
  Journaled.Ready createJournal tool j s

end Transitions

section Steps

/-- A discovery whose snapshot passed, made while the file was `file`. -/
def Verified {ε : Type} (verify : HostSnapshot → Except ε Unit)
    (file : File ProductionCreateRuntimeJournal) (_ : List CreateEntry) (e : CreateEntry) : Prop :=
  ∃ snapshot, e = ⟨.inr .discoverSnapshot, (.ok snapshot : Except String HostSnapshot), file⟩ ∧
    verify snapshot = .ok ()

/-- A discovery only looks, and when it succeeds its last snapshot passed. The
induction is on the attempts that are left. -/
theorem discoverExact_holds {ε : Type} (verify : HostSnapshot → Except ε Unit)
    (unexpectedUse : ε → Bool) (notConverged : Option (String ⊕ ε) → ε)
    (j : ProductionCreateRuntimeJournal) (s₀ : CreateSt) :
    ∀ (attempts : Nat) (last : Option (String ⊕ ε)) (s : CreateSt),
      Silent createDiscipline s₀ s →
      (discoverExact verify unexpectedUse notConverged attempts last).Holds j s
        (fun _ j' t => j' = j ∧ Silent createDiscipline s₀ t ∧
          Since createDiscipline (Verified verify s₀.world) t.log)
        (fun _ j' t => j' = j ∧ Silent createDiscipline s₀ t) (Silent createDiscipline s₀) := by
  intro attempts
  induction attempts with
  | zero => exact fun _ _ h => ⟨rfl, h⟩
  | succ attempts ih =>
    intro last s h
    unfold discoverExact
    refine Proc.holds_bind.mpr (holds_ask.mpr ⟨h, fun answer => ?_⟩)
    have hst : Silent createDiscipline s₀ (s.call (.inr CreateOp.discoverSnapshot) answer) :=
      ⟨h.1.ask rfl answer, h.2⟩
    rcases answer with e | snapshot
    · exact ih _ _ hst
    · dsimp only
      split
      · rename_i hok
        refine ⟨rfl, hst, Since.of_call ⟨snapshot, ?_, hok⟩⟩
        rw [← h.2]
      · split
        · exact ⟨rfl, hst⟩
        · exact ih _ _ hst

theorem discoverExact_keeps {ε : Type} (verify : HostSnapshot → Except ε Unit)
    (unexpectedUse : ε → Bool) (notConverged : Option (String ⊕ ε) → ε) (attempts : Nat)
    (last : Option (String ⊕ ε)) :
    Proc.Keeps (Silent createDiscipline) (discoverExact verify unexpectedUse notConverged attempts
      last) :=
  fun j s => (discoverExact_holds verify unexpectedUse notConverged j s attempts last s
    (refl_of _ s)).mono (fun _ _ _ h => ⟨h.1, h.2.1⟩) (fun _ _ _ h => h) fun _ h => h

theorem requireRoot_keeps {ε : Type} (rootRequired : ε) :
    Proc.Keeps (Silent createDiscipline) (requireRoot rootRequired) :=
  Proc.Keeps.bind (silent_ask rfl) fun _ => Proc.Keeps.lift _

theorem requireConsent_keeps {ε : Type} (activation : ProductionCreateActivationIntent)
    (preflight : ProductionCreateRuntimePreflightReceipt) (consent : String → ε) (invalid : ε) :
    Proc.Keeps (Silent createDiscipline) (requireConsent activation preflight consent invalid) := by
  refine Proc.Keeps.bind (silent_ask rfl) fun answer => ?_
  rcases answer with e | receiptId
  · exact Proc.Keeps.throw _
  · exact Proc.Keeps.lift _

theorem requireTools_keeps {ε : Type} (preflight : ProductionCreateRuntimePreflightReceipt)
    (toolLease : String → ε) :
    Proc.Keeps (Silent createDiscipline) (requireTools preflight toolLease) := by
  refine Proc.Keeps.bind (silent_ask rfl) fun answer => ?_
  rcases answer with e | _
  · exact Proc.Keeps.throw _
  · exact Proc.Keeps.pure _

variable [Fingerprint]

theorem runDescriptor_holds {ε : Type} {j : ProductionCreateRuntimeJournal} {s : CreateSt}
    {tool : CreateTool} (h : Ready tool j s) (stage : ProductionCreateLaunchStage)
    (launch : ProductionCreateRuntimeLaunchSpec) (stdinPayload : Option String) :
    (runDescriptor tool stage launch stdinPayload : CreateProc ε _).Holds j s
      (fun _ j' t => j' = j ∧ Lawful t ∧ Journaled.Performs createJournal tool s t)
      (fun _ _ _ => False) Lawful :=
  executeDescriptorStage_holds h (Journaled.silent_ask_holds rfl) fun _ ht =>
    Journaled.ask_holds ht rfl

theorem runStage_holds {j : ProductionCreateRuntimeJournal} {s : CreateSt} {tool : CreateTool}
    (h : Ready tool j s) (name : String) (stage : ProductionCreateLaunchStage)
    (launch : ProductionCreateRuntimeLaunchSpec) (stdinPayload : Option String) :
    (runStage name tool stage launch stdinPayload).Holds j s
      (fun _ j' t => j' = j ∧ Lawful t ∧ Journaled.Performs createJournal tool s t)
      (fun _ j' t => Serving j' t) Lawful := by
  unfold runStage
  refine Proc.holds_bind.mpr ((runDescriptor_holds h stage launch stdinPayload).mono ?_
    (fun _ _ _ h => h.elim) fun _ h => h)
  rintro r j' t ⟨rfl, hl, ht⟩
  have served : Serving j' t := .of_holding hl (ht.world.trans h.world)
  rcases r with e | outcome
  · exact served
  · dsimp only
    split
    · exact served
    · exact ⟨rfl, hl, ht⟩

/-- The partition crossing only begins on a Prepared record. -/
theorem beginPartitionTableWrite_ok {j j' : ProductionCreateRuntimeJournal}
    (h : applyTransition j .beginPartitionTableWrite = .ok j') :
    j.phase = .prepared ∧ j'.phase = .writingPartitionTable := by
  obtain ⟨code, htarget, -⟩ := applyTransition_ok h
  cases hp : j.phase <;> simp [hp, transitionTarget] at htarget ⊢
  exact htarget.1.symm

theorem beginFilesystemFormat_ok {j j' : ProductionCreateRuntimeJournal}
    (h : applyTransition j .beginFilesystemFormat = .ok j') :
    j.phase = .partitionMappedVerified ∧ j'.phase = .formattingFilesystem := by
  obtain ⟨code, htarget, -⟩ := applyTransition_ok h
  cases hp : j.phase <;> simp [hp, transitionTarget] at htarget ⊢
  exact htarget.1.symm

theorem runPartx_holds {j : ProductionCreateRuntimeJournal} {s : CreateSt} (h : Ready .partx j s)
    (activation : ProductionCreateActivationIntent) (launch : ProductionCreateRuntimeLaunchSpec) :
    (runPartxStageWithExactReconciliation activation launch).Holds j s
      (fun _ j' t => Serving j' t) (fun _ j' t => Serving j' t) Lawful := by
  unfold runPartxStageWithExactReconciliation
  refine Proc.holds_bind.mpr ((runDescriptor_holds h _ launch none).mono ?_
    (fun _ _ _ h => h.elim) fun _ h => h)
  rintro r j' t ⟨rfl, hl, ht⟩
  have served : Serving j' t := .of_holding hl (ht.world.trans h.world)
  rcases r with e | outcome
  · exact served
  dsimp only
  split
  · exact served
  · refine Proc.holds_bind.mpr (Proc.holds_attempt.mpr ((discoverExact_holds _ _ _ j' t _ _ t
      (refl_of _ t)).mono ?_ ?_ fun u hu => hl.silent hu))
    · rintro _ j'' u ⟨rfl, hu, -⟩
      exact served.silent hu
    · rintro _ j'' u ⟨rfl, hu⟩
      exact served.silent hu

theorem executePartitionCrossing_holds {j : ProductionCreateRuntimeJournal} {s : CreateSt}
    (hs : Serving j s) (activation : ProductionCreateActivationIntent)
    (launch : ProductionCreateRuntimeLaunchSpec) :
    (executePartitionCrossing activation launch).Holds j s (fun _ _ t => Lawful t)
      (fun _ _ t => Lawful t) Lawful := by
  unfold executePartitionCrossing
  refine Journaled.transition_then (J := createJournal) hs _ fun j₁ s₁ hbegin hw₁ hl₁ hq₁ _ => ?_
  obtain ⟨hprepared, hwriting⟩ := beginPartitionTableWrite_ok hbegin
  -- nothing was ever spawned on a Prepared record
  have unspawned : ∀ tool, tool ∉ createDiscipline.acts s₁.log := by
    intro tool
    rw [hq₁.acts_eq]
    refine hs.law.fresh ?_
    rw [hs.visible]
    cases tool <;> simp [hprepared, ProductionCreateRuntimePhase.rank]
  have ready : Ready .sfdisk j₁ s₁ :=
    ⟨hl₁, hw₁, unspawned _, by simp [hwriting, ProductionCreateRuntimePhase.rank], j₁, hw₁,
      hwriting⟩
  refine Journaled.orRecovery_then (J := createJournal) (runStage_holds ready "sfdisk" _ launch _) ?_
  rintro _ j₂ s₂ ⟨rfl, hl₂, ht₂⟩
  have hw₂ : s₂.world = .holding (some j₂) := ht₂.world.trans hw₁
  have hpartx : .partx ∉ createDiscipline.acts s₂.log := by
    intro h
    rcases ht₂.new _ h with h | h
    · exact unspawned _ h
    · cases h
  have ready : Ready .partx j₂ s₂ := ⟨hl₂, hw₂, hpartx, ready.need, j₂, hw₂, hwriting⟩
  refine Journaled.orRecovery_then (J := createJournal) (runPartx_holds ready activation launch) ?_
  intro _ j₃ s₃ hs₃
  refine Journaled.transition_then (J := createJournal) hs₃ _ fun j₄ s₄ _ hw₄ hl₄ _ _ => ?_
  refine Journaled.orRecovery_keeps (J := createJournal) (.of_holding hl₄ hw₄) (discoverExact_keeps _ _ _ _ _) ?_
  intro _ s₅ hst₅
  refine Journaled.transition_then (J := createJournal) (.silent (.of_holding hl₄ hw₄) hst₅) _
    fun j₆ s₆ _ _ hl₆ _ _ => ?_
  exact Proc.holds_bind.mpr (Proc.holds_get.mpr hl₆)

/-- What an accepted authorization chain binds the journal to. -/
theorem validateCrossing_ok {activation : ProductionCreateActivationIntent}
    {permit : ProductionCreateExecutionPermit} {preflight : ProductionCreateRuntimePreflightReceipt}
    {launch : ProductionCreateRuntimeLaunchSpec} {journal : ProductionCreateRuntimeJournal}
    (h : validateCrossing activation permit preflight launch journal = .ok ()) :
    journal.activationId = activation.activationId ∧ journal.launchId = launch.launchId := by
  unfold validateCrossing at h
  obtain ⟨-, h⟩ := check_eq_ok_iff.mp h
  obtain ⟨h, -⟩ := check_eq_ok_iff.mp h
  simp only [refuse_eq_ok_iff, not_or, ne_eq, not_not] at h
  obtain ⟨-, -, -, hactivation, -, -, -, -, -, hlaunch, -⟩ := h
  exact ⟨hactivation, hlaunch⟩

theorem validateFilesystemCrossing_ok {activation : ProductionCreateActivationIntent}
    {permit : ProductionCreateExecutionPermit} {preflight : ProductionCreateRuntimePreflightReceipt}
    {launch : ProductionCreateRuntimeLaunchSpec}
    {receipt : ProductionCreatePartitionExecutionReceipt} {journal : ProductionCreateRuntimeJournal}
    (h : validateFilesystemCrossing activation permit preflight launch receipt journal = .ok ()) :
    journal.phase = .partitionMappedVerified ∧
      journal.activationId = activation.activationId ∧ journal.launchId = launch.launchId := by
  unfold validateFilesystemCrossing at h
  obtain ⟨hphase, h⟩ := check_eq_ok_iff.mp h
  obtain ⟨hcrossing, -⟩ := check_eq_ok_iff.mp h
  simp only [refuse_eq_ok_iff, not_or, ne_eq, not_not] at hphase hcrossing
  cases hc : validateCrossing activation permit preflight launch { journal with
      phase := .prepared
      mutationMayHaveStarted := false
      partitionTableMayHaveChanged := false
      filesystemMayHaveChanged := false
      events := [] } with
  | error e => simp [hc, Except.isOk, Except.toBool] at hcrossing
  | ok _ =>
    have hbound := validateCrossing_ok hc
    exact ⟨hphase.1, hbound.1, hbound.2⟩

theorem requireExact_holds {ε : Type} (j : ProductionCreateRuntimeJournal) (s : CreateSt)
    (journalError : ProductionCreateRuntimeJournalError → ε) (mismatch : ε) :
    (requireExact journalError mismatch).Holds j s
      (fun _ j' t => j' = j ∧ s.world.visible = some j ∧ Silent createDiscipline s t)
      (fun _ _ t => Silent createDiscipline s t) (Silent createDiscipline s) := by
  unfold requireExact
  refine Proc.holds_bind.mpr (Proc.holds_get.mpr (Proc.holds_bind.mpr (Proc.holds_mapError.mpr
    ((load_reads j.journalId j s).mono ?_ (fun _ _ _ h => .of_untouched h.2) fun _ h =>
      .of_untouched h))))
  rintro persisted j' t ⟨rfl, hv, ht⟩
  refine Proc.holds_lift.mpr ⟨fun _ h => ⟨rfl, ?_, .of_untouched ht⟩, fun _ _ => .of_untouched ht⟩
  rw [hv, not_not.mp (refuse_eq_ok_iff.mp h)]

theorem runFilesystemStage_holds {j : ProductionCreateRuntimeJournal} {s : CreateSt}
    (h : Ready .mkfs j s) (launch : ProductionCreateRuntimeLaunchSpec) :
    (runFilesystemStage launch).Holds j s (fun _ j' t => Serving j' t)
      (fun _ j' t => Serving j' t) Lawful := by
  unfold runFilesystemStage
  refine Proc.holds_bind.mpr ((runDescriptor_holds h _ launch none).mono ?_
    (fun _ _ _ h => h.elim) fun _ h => h)
  rintro r j' t ⟨rfl, hl, ht⟩
  have served : Serving j' t := .of_holding hl (ht.world.trans h.world)
  rcases r with e | outcome
  · exact served
  · dsimp only
    split
    · exact served
    · exact served

end Steps

section Calls

variable [Fingerprint]

theorem partitionCrossing_lawful {j : ProductionCreateRuntimeJournal} {s : CreateSt}
    (hl : Lawful s) (activation : ProductionCreateActivationIntent)
    (permit : ProductionCreateExecutionPermit)
    (preflight : ProductionCreateRuntimePreflightReceipt)
    (launch : ProductionCreateRuntimeLaunchSpec) :
    (executeProductionCreatePartitionCrossing activation permit preflight launch).Holds j s
      (fun _ _ t => Lawful t) (fun _ _ t => Lawful t) Lawful := by
  have lost : ∀ t, Silent createDiscipline s t → Lawful t := fun _ h => hl.silent h
  have err : ∀ (_ : ProductionCreatePartitionExecutionError) t, Silent createDiscipline s t →
      Lawful t := fun _ _ h => hl.silent h
  unfold executeProductionCreatePartitionCrossing
  refine Proc.Keeps.andThen (refl_of _ s) (requireRoot_keeps _) lost err fun _ t ht => ?_
  refine Proc.holds_bind.mpr (Proc.holds_get.mpr ?_)
  refine Proc.Keeps.andThen ht (Proc.Keeps.lift _) lost err fun _ t ht => ?_
  refine Proc.holds_bind.mpr ((requireExact_holds j t _ _).mono ?_
    (fun _ _ u hu => lost u (trans_of _ ht hu)) fun u hu => lost u (trans_of _ ht hu))
  rintro _ j' u ⟨rfl, hv, hu⟩
  have hu := trans_of (Silent createDiscipline) ht hu
  refine Proc.Keeps.andThen hu (requireConsent_keeps _ _ _ _) lost err fun _ u hu => ?_
  refine Proc.Keeps.andThen hu (requireTools_keeps _ _) lost err fun _ u hu => ?_
  have hs : Serving j' s := ⟨hl, by rw [← ht.2, hv]⟩
  exact executePartitionCrossing_holds (hs.silent hu) activation launch

/-- From the fresh verification on: consent and tools once more, the durable begin, mkfs. -/
theorem formatFilesystem_lawful {j : ProductionCreateRuntimeJournal} {s : CreateSt}
    {file : File ProductionCreateRuntimeJournal} {activation : ProductionCreateActivationIntent}
    {launch : ProductionCreateRuntimeLaunchSpec} (hs : Serving j s)
    (hverified : Since createDiscipline
      (Verified (verifyPartitionSnapshot activation launch) file) s.log)
    (hphase : j.phase = .partitionMappedVerified)
    (hactivation : j.activationId = activation.activationId) (hlaunch : j.launchId = launch.launchId)
    (hfile : file.visible = some j) (preflight : ProductionCreateRuntimePreflightReceipt)
    (receipt : ProductionCreatePartitionExecutionReceipt) :
    (formatFilesystem activation preflight launch receipt).Holds j s (fun _ _ t => Lawful t)
      (fun _ _ t => Lawful t) Lawful := by
  unfold formatFilesystem
  refine Journaled.orRecovery_keeps (J := createJournal) hs (requireConsent_keeps _ _ _ _) fun _ s₁ hst₁ => ?_
  refine Journaled.orRecovery_keeps (J := createJournal) (hs.silent hst₁) (requireTools_keeps _ _) fun _ s₂ hst₂ => ?_
  have hst : Silent createDiscipline s s₂ := trans_of _ hst₁ hst₂
  have hs₂ := hs.silent hst
  refine Journaled.transition_then (J := createJournal) hs₂ _ fun j₃ s₃ hbegin hw₃ hl₃ hq₃ _ => ?_
  obtain ⟨-, hformatting⟩ := beginFilesystemFormat_ok hbegin
  obtain ⟨-, -, hactivation₃, hlaunch₃⟩ := applyTransition_ok hbegin
  -- no mkfs before a record that ranks below FormattingFilesystem
  have hnew : .mkfs ∉ createDiscipline.acts s₃.log := by
    rw [hq₃.acts_eq]
    refine hs₂.law.fresh ?_
    rw [hs₂.visible]
    simp [hphase, ProductionCreateRuntimePhase.rank]
  have hall : SpawnAllowed s₃.log .mkfs s₃.world := by
    refine ⟨j₃, hw₃, hformatting, ((hst.1.trans hq₃).since hverified).mono ?_⟩
    rintro _ e ⟨snapshot, rfl, hok⟩
    exact ⟨snapshot, file, j, activation, launch, rfl, hok, (hactivation₃.trans hactivation).symm,
      (hlaunch₃.trans hlaunch).symm, hfile, hphase, hbegin⟩
  have ready : Ready .mkfs j₃ s₃ :=
    ⟨hl₃, hw₃, hnew, by simp [hformatting, ProductionCreateRuntimePhase.rank], hall⟩
  refine Journaled.orRecovery_then (J := createJournal) (runFilesystemStage_holds ready launch) ?_
  intro _ j₄ s₄ hs₄
  refine Journaled.transition_then (J := createJournal) hs₄ _ fun j₅ s₅ _ hw₅ hl₅ _ _ => ?_
  refine Journaled.orRecovery_keeps (J := createJournal) (.of_holding hl₅ hw₅) (discoverExact_keeps _ _ _ _ _) ?_
  intro _ s₆ hst₆
  refine Journaled.transition_then (J := createJournal) (.silent (.of_holding hl₅ hw₅) hst₆) _
    fun j₇ s₇ _ _ hl₇ _ _ => ?_
  exact Proc.holds_bind.mpr (Proc.holds_get.mpr hl₇)

/-- mkfs is reached through a discovery that verified the partition of this very chain
while the PartitionMappedVerified record was stored. -/
theorem filesystemCrossing_lawful {j : ProductionCreateRuntimeJournal} {s : CreateSt}
    (hl : Lawful s) (activation : ProductionCreateActivationIntent)
    (permit : ProductionCreateExecutionPermit)
    (preflight : ProductionCreateRuntimePreflightReceipt)
    (launch : ProductionCreateRuntimeLaunchSpec)
    (receipt : ProductionCreatePartitionExecutionReceipt) :
    (executeProductionCreateFilesystemCrossing activation permit preflight launch receipt).Holds
      j s (fun _ _ t => Lawful t) (fun _ _ t => Lawful t) Lawful := by
  have lost : ∀ t, Silent createDiscipline s t → Lawful t := fun _ h => hl.silent h
  have err : ∀ (_ : ProductionCreateFilesystemExecutionError) t, Silent createDiscipline s t →
      Lawful t := fun _ _ h => hl.silent h
  unfold executeProductionCreateFilesystemCrossing
  refine Proc.Keeps.andThen (refl_of _ s) (requireRoot_keeps _) lost err fun _ t ht => ?_
  refine Proc.holds_bind.mpr (Proc.holds_get.mpr (Proc.holds_bind.mpr (Proc.holds_lift.mpr
    ⟨fun _ hvalid => ?_, fun e _ => err e t ht⟩)))
  obtain ⟨hphase, hactivation, hlaunch⟩ := validateFilesystemCrossing_ok hvalid
  refine Proc.holds_bind.mpr ((requireExact_holds j t _ _).mono ?_
    (fun _ _ u hu => lost u (trans_of _ ht hu)) fun u hu => lost u (trans_of _ ht hu))
  rintro _ j' u ⟨rfl, hv, hu⟩
  have hu := trans_of (Silent createDiscipline) ht hu
  have hs : Serving j' s := ⟨hl, by rw [← ht.2, hv]⟩
  refine Proc.Keeps.andThen hu (requireConsent_keeps _ _ _ _) lost err fun _ u hu => ?_
  refine Proc.Keeps.andThen hu (requireTools_keeps _ _) lost err fun _ u hu => ?_
  -- the fresh verification
  refine Proc.holds_bind.mpr (Proc.holds_attempt.mpr ((discoverExact_holds _ _ _ j' s _ _ u
    hu).mono ?_ ?_ lost))
  swap
  · rintro e j'' v ⟨rfl, hst⟩
    exact Journaled.persistRecovery_holds (hs.silent hst) _ _ _
  rintro _ j'' v ⟨rfl, hst, hverified⟩
  exact formatFilesystem_lawful (hs.silent hst) hverified hphase hactivation hlaunch
    (by rw [hs.visible]) preflight receipt

/-- Any call on the journal file of one create. -/
inductive CreateCall (journalId : String) where
  | persistNew (activation : ProductionCreateActivationIntent)
      (permit : ProductionCreateExecutionPermit)
      (preflight : ProductionCreateRuntimePreflightReceipt)
      (launch : ProductionCreateRuntimeLaunchSpec)
      (bound : ∀ j, buildProductionCreateRuntimeJournal activation permit preflight launch = .ok j →
        j.journalId = journalId)
  | partitionCrossing (activation : ProductionCreateActivationIntent)
      (permit : ProductionCreateExecutionPermit)
      (preflight : ProductionCreateRuntimePreflightReceipt)
      (launch : ProductionCreateRuntimeLaunchSpec) (journal : ProductionCreateRuntimeJournal)
      (bound : journal.journalId = journalId)
  | filesystemCrossing (activation : ProductionCreateActivationIntent)
      (permit : ProductionCreateExecutionPermit)
      (preflight : ProductionCreateRuntimePreflightReceipt)
      (launch : ProductionCreateRuntimeLaunchSpec)
      (receipt : ProductionCreatePartitionExecutionReceipt)
      (journal : ProductionCreateRuntimeJournal) (bound : journal.journalId = journalId)

/-- The call as a program; the journal in memory is whatever the caller holds. -/
def CreateCall.program {journalId : String} :
    CreateCall journalId → Calls (interface ProductionCreateRuntimeJournal createEnv) Unit
  | .persistNew activation permit preflight launch _ =>
    (persistNewProductionCreateRuntimeJournal activation permit preflight launch).discard ()
  | .partitionCrossing activation permit preflight launch journal _ =>
    (executeProductionCreatePartitionCrossing activation permit preflight launch).discard journal
  | .filesystemCrossing activation permit preflight launch receipt journal _ =>
    (executeProductionCreateFilesystemCrossing activation permit preflight launch receipt).discard
      journal

/-- The states of one create journal: no record at first, then any calls, each cut
anywhere, and any restarts. -/
def CreateReaches (journalId : String) (s : CreateSt) : Prop :=
  Reaches (fun call : CreateCall journalId => call.program) File.Restart ⟨.holding none, []⟩ s

theorem CreateReaches.lawful {journalId : String} {s : CreateSt} (h : CreateReaches journalId s) :
    Lawful s := by
  refine Reaches.invariant h (.init none) ?_ fun s w hs hw => hs.restart hw
  intro call s hs
  cases call with
  | persistNew activation permit preflight launch bound =>
    refine Proc.Holds.discard ?_
    refine Proc.holds_bind.mpr (Proc.holds_lift.mpr ⟨fun j _ => ?_, fun _ _ => hs⟩)
    have rank : createDiscipline.rank none ≤ createDiscipline.rank (some j) := Nat.zero_le _
    refine Proc.holds_bind.mpr ((persistNew_creates j () s s.world s (Filed.refl s)).mono ?_ ?_ ?_)
    · rintro _ _ t ⟨-, hnone, ht⟩
      exact hs.settled ht (hnone ▸ rank)
    · rintro _ _ t ⟨-, f, hf, ht⟩
      exact hs.created ht hf rank
    · rintro t ⟨f, hf, ht⟩
      exact hs.created ht hf rank
  | partitionCrossing activation permit preflight launch journal bound =>
    exact (partitionCrossing_lawful hs activation permit preflight launch).discard
  | filesystemCrossing activation permit preflight launch receipt journal bound =>
    exact (filesystemCrossing_lawful hs activation permit preflight launch receipt).discard

end Calls

section Sample

/-- A chain for one disk, with the ids the program computes. -/
def sampleActivation : ProductionCreateActivationIntent :=
  let a : ProductionCreateActivationIntent :=
    { schemaVersion := 1, activationId := "", profile := .blankDiskSinglePartitionFilesystem
      createIntentId := fingerprint (.str "intent"), createPlanId := fingerprint (.str "plan")
      sourceId := "space-0", disk := "/dev/loop7", diskSizeBytes := 536870912
      logicalSectorBytes := 512, diskModel := none, diskSerial := none, partitionTable := .gpt
      partitionStartSector := 2048, partitionSectorCount := 262144
      partitionSizeBytes := 134217728, filesystem := "ext4", compileFeatureEnabled := true
      executionEnabled := false, partitionTableChanged := false, filesystemFormatted := false }
  { a with activationId := a.expectedActivationId }

def samplePermit : ProductionCreateExecutionPermit :=
  let a := sampleActivation
  let p : ProductionCreateExecutionPermit :=
    { schemaVersion := 1, permitId := "", activationId := a.activationId
      consentReceiptId := fingerprint (.str "consent"), profile := a.profile
      createIntentId := a.createIntentId, createPlanId := a.createPlanId, sourceId := a.sourceId
      disk := a.disk, diskSizeBytes := a.diskSizeBytes, logicalSectorBytes := a.logicalSectorBytes
      partitionTable := a.partitionTable, partitionStartSector := a.partitionStartSector
      partitionSectorCount := a.partitionSectorCount, partitionSizeBytes := a.partitionSizeBytes
      filesystem := a.filesystem, compileFeatureEnabled := true, mutationEnabled := false
      processSpawned := false, partitionTableChanged := false, filesystemFormatted := false }
  { p with permitId := p.expectedPermitId }

def sampleTool (program : PrivilegedProgram) : TrustedToolIdentity :=
  { program := program, requestedPath := "/usr/sbin", canonicalPath := "/usr/sbin", deviceId := 1
    inode := 1, uid := 0, mode := 493, sizeBytes := 1, sha256 := fingerprint (.str "tool") }

def samplePreflight : ProductionCreateRuntimePreflightReceipt :=
  let a := sampleActivation
  let r : ProductionCreateRuntimePreflightReceipt :=
    { schemaVersion := 1, receiptId := "", activationId := a.activationId
      executionPermitId := samplePermit.permitId
      consentReceiptId := samplePermit.consentReceiptId, createIntentId := a.createIntentId
      disk := a.disk, diskSizeBytes := a.diskSizeBytes, logicalSectorBytes := a.logicalSectorBytes
      partitionTable := a.partitionTable, partitionStartSector := a.partitionStartSector
      partitionSectorCount := a.partitionSectorCount, partitionSizeBytes := a.partitionSizeBytes
      filesystem := a.filesystem, sfdisk := sampleTool .sfdisk, partx := sampleTool .partx
      mkfs := sampleTool .mkfsExt4, runtimeReady := true, mutationEnabled := false
      processSpawned := false, partitionTableChanged := false, filesystemFormatted := false }
  { r with receiptId := r.expectedReceiptId }

def sampleScript : String := "label: gpt\n"

def sampleStage (program : PrivilegedProgram) (argv : List String) (stdin : Option String) :
    ProductionCreateLaunchStage :=
  { program := program, argv := argv, executable := sampleTool program
    elf := ⟨.elf64, .littleEndian, 1⟩, stdinLen := (stdin.getD "").utf8ByteSize
    stdinSha256 := stdin.map fun s => Lib.Sha256.sha256Hex s.toUTF8.data.toList }

def sampleLaunch : ProductionCreateRuntimeLaunchSpec :=
  let a := sampleActivation
  let l : ProductionCreateRuntimeLaunchSpec :=
    { schemaVersion := 1, launchId := "", activationId := a.activationId
      executionPermitId := samplePermit.permitId, preflightReceiptId := samplePreflight.receiptId
      createIntentId := a.createIntentId, disk := a.disk, partitionDevice := "/dev/loop7p1"
      partitionTable := a.partitionTable, partitionStartSector := a.partitionStartSector
      partitionSectorCount := a.partitionSectorCount, partitionSizeBytes := a.partitionSizeBytes
      filesystem := a.filesystem, sfdiskScript := sampleScript
      sfdisk := sampleStage .sfdisk
        ["sfdisk", "--lock=yes", "--no-reread", "--no-tell-kernel", a.disk] (some sampleScript)
      partx := sampleStage .partx ["partx", "--add", "--nr", "1", a.disk] none
      mkfs := sampleStage .mkfsExt4 ["mkfs.ext4", "-F", "/dev/loop7p1"] none
      fixedPath := fixedPath, fixedLocale := fixedLocale, descriptorExecApi := "fexecve"
      requirePartitionRediscoveryBeforeMkfs := true, mutationEnabled := false
      processSpawned := false, partitionTableChanged := false, filesystemFormatted := false }
  { l with launchId := l.expectedLaunchId }

def sampleSnapshot (filesystem : Option Filesystem) : HostSnapshot :=
  let child : BlockDevice :=
    { name := "loop7p1", kernelName := some "loop7p1", path := some "/dev/loop7p1"
      kind := .partition, sizeBytes := 134217728, start512Sector := some 2048
      logicalSectorBytes := some 512, filesystem := filesystem, mountpoints := []
      parentKernelName := some "loop7", model := none, serial := none, uuid := none
      partitionUuid := none, partitionTable := none, children := [] }
  { storage := ⟨[{ child with
      name := "loop7", kernelName := some "loop7", path := some "/dev/loop7", kind := .loop
      sizeBytes := 536870912, start512Sector := none, filesystem := none
      parentKernelName := none, partitionTable := some "gpt", children := [child] }]⟩
    partitionTables := [⟨"/dev/loop7", some "gpt", none, some "sectors", none, none, some 512,
      [⟨"/dev/loop7p1", 2048, 262144, some "0FC63DAF-8483-4772-8E79-3D69D8477DE4", none, none,
        none, none⟩]⟩]
    mounts := [], fstab := [], swaps := [], collectors := [⟨"partition_tables", .complete, none⟩] }

/-- A host that refuses nothing, whose partition carries `filesystem`. -/
def sampleHost (filesystem : Option Filesystem) :
    (op : (interface ProductionCreateRuntimeJournal createEnv).Op) →
      (interface ProductionCreateRuntimeJournal createEnv).Choice op
  | .inl _ => none
  | .inr .geteuid => (0 : Nat)
  | .inr (.revalidatePinnedConsent _) => (.ok samplePermit.consentReceiptId : Except String String)
  | .inr (.revalidateTools _) => (.ok () : Except String Unit)
  | .inr .discoverSnapshot => (.ok (sampleSnapshot filesystem) : Except String HostSnapshot)
  | .inr .openPipes => (.ok () : Except String Unit)
  | .inr (.spawn _) => (.ok ⟨0, [], [], false, false⟩ : Except PrivilegedDescriptorExecError _)


def sampleJournal : ProductionCreateRuntimeJournal :=
  let a := sampleActivation
  let j : ProductionCreateRuntimeJournal :=
    { schemaVersion := 1, journalId := "", activationId := a.activationId
      executionPermitId := samplePermit.permitId, preflightReceiptId := samplePreflight.receiptId
      launchId := sampleLaunch.launchId, createIntentId := a.createIntentId, disk := a.disk
      partitionDevice := "/dev/loop7p1", partitionTable := "gpt"
      partitionStartSector := a.partitionStartSector
      partitionSectorCount := a.partitionSectorCount, partitionSizeBytes := a.partitionSizeBytes
      filesystem := a.filesystem, phase := .prepared, mutationMayHaveStarted := false
      partitionTableMayHaveChanged := false, filesystemMayHaveChanged := false, events := [] }
  { j with journalId := j.expectedJournalId }

def sampleMapped : ProductionCreateRuntimeJournal :=
  { sampleJournal with
    phase := .partitionMappedVerified
    mutationMayHaveStarted := true
    partitionTableMayHaveChanged := true
    events := [⟨1, .writingPartitionTable, "partition-table-write-started"⟩,
      ⟨2, .partitionTableWrittenAwaitingRediscovery, "partition-table-write-succeeded"⟩,
      ⟨3, .partitionMappedVerified, "partition-rediscovery-verified"⟩] }

def sampleReceipt : ProductionCreatePartitionExecutionReceipt :=
  let r : ProductionCreatePartitionExecutionReceipt :=
    { schemaVersion := 1, receiptId := "", journalId := sampleJournal.journalId
      launchId := sampleLaunch.launchId, disk := sampleLaunch.disk
      partitionDevice := sampleLaunch.partitionDevice, partitionTable := "gpt"
      partitionStartSector := 2048, partitionSectorCount := 262144
      partitionSizeBytes := 134217728, partitionMappedVerified := true
      filesystemFormatted := false }
  { r with receiptId := r.expectedReceiptId }

/-- The three calls of an uneventful create. The partition carries a filesystem from the
last call's fifteenth answer on. -/
def sampleCalls : List (CreateCall sampleJournal.journalId ×
    Script (interface ProductionCreateRuntimeJournal createEnv)) :=
  [(.persistNew sampleActivation samplePermit samplePreflight sampleLaunch (by
      intro j h
      obtain ⟨-, h⟩ := check_eq_ok_iff.mp h
      obtain ⟨-, h⟩ := check_eq_ok_iff.mp h
      cases h
      rfl), List.replicate 6 (sampleHost none)),
    (.partitionCrossing sampleActivation samplePermit samplePreflight sampleLaunch sampleJournal
      rfl, List.replicate 26 (sampleHost none)),
    (.filesystemCrossing sampleActivation samplePermit samplePreflight sampleLaunch sampleReceipt
      sampleMapped rfl,
      List.replicate 14 (sampleHost none) ++ List.replicate 13 (sampleHost (some ⟨"ext4", none⟩)))]

end Sample

end StorageManager.Executor.Create
