import StorageManager.Executor.PrivilegedLaunch

/-!
# Running a privileged launch

The launch is compared with its permit, the pinned tools and the command, and then spawned: the
primary process first, the refresh of the kernel after it. Which processes run is read from the
log of the calls.
-/

namespace StorageManager.Executor

open Lib.Checks Lib.Effects

set_option autoImplicit false

namespace PrivilegedExec

section Model

structure PrivilegedDescriptorSequenceOutcome where
  primary : DescriptorExecOutcome
  kernelRefresh : Option DescriptorExecOutcome
  deriving DecidableEq

def stdinMatchesLaunch (command : PrivilegedCommandSpec)
    (launch : PrivilegedDescriptorLaunchSpec) : Bool :=
  match command.stdinPayload with
  | some payload => launch.stdinLen == payload.utf8ByteSize &&
      launch.stdinSha256 == some (PrivilegedLaunch.stdinDigest payload)
  | none => launch.stdinLen == 0 && launch.stdinSha256.isNone

def kernelRefreshMatchesLaunch (command : PrivilegedCommandSpec)
    (launch : PrivilegedDescriptorLaunchSpec) : Bool :=
  match command.kernelRefresh, launch.kernelRefresh with
  | some command, some launch => command.program == launch.program &&
      launch.argv.head? == some command.program.asStr && launch.argv.tail == command.args
  | none, none => true
  | _, _ => false

/-- The calls of an execution: the pipes of a process, and its life from the fork to the wait. -/
inductive ExecOp (τ : Type) where
  | pipes
  | spawn (process : DescriptorStage τ)

abbrev ExecOp.Ans {τ : Type} : ExecOp τ → Type
  | .pipes => Except String Unit
  | .spawn _ => Except PrivilegedDescriptorExecError DescriptorExecOutcome

/-- The surroundings answer as they like. -/
abbrev execInterface (τ : Type) : Interface where
  Op := ExecOp τ
  Choice := ExecOp.Ans
  Ans := ExecOp.Ans
  World := Unit
  perform _ answer world := (answer, world)

abbrev ExecProc (τ : Type) := Proc (execInterface τ) Unit PrivilegedDescriptorExecError

variable {τ : Type}

def createPipes : ExecProc τ (Except String Unit) := Proc.perform (I := execInterface τ) .pipes

def spawn (process : DescriptorStage τ) :
    ExecProc τ (Except PrivilegedDescriptorExecError DescriptorExecOutcome) :=
  Proc.perform (I := execInterface τ) (.spawn process)

/-- `execute_descriptor_stage(..)?`. -/
def runStage (process : DescriptorStage τ) : ExecProc τ DescriptorExecOutcome := do
  Proc.lift (← executeDescriptorStage createPipes spawn process)

variable [Fingerprint]

def validateLaunch (permit : PrivilegedLaunchPermit) (launch : PrivilegedDescriptorLaunchSpec)
    (pinned : PinnedPrivilegedTools τ) (command : PrivilegedCommandSpec)
    (executionEnabled : Bool) : Except PrivilegedDescriptorExecError Unit := do
  refuse (¬permit.integrityMatches) .permitIntegrityMismatch
  refuse (¬launch.integrityMatches) .launchIntegrityMismatch
  refuse (¬pinned.integrityMatches) .pinIntegrityMismatch
  refuse (permit.launchId ≠ launch.launchId ∨ permit.authorizationId ≠ launch.authorizationId ∨
    permit.planStepId ≠ launch.planStepId ∨ permit.commandDigest ≠ launch.commandDigest ∨
    launch.commandDigest ≠ command.digest ∨ pinned.pinId ≠ launch.pinId ∨
    pinned.authorizationId ≠ launch.authorizationId ∨ pinned.planStepId ≠ launch.planStepId ∨
    pinned.commandDigest ≠ launch.commandDigest ∨ command.planStepId ≠ launch.planStepId ∨
    permit.mutationEnabled ∨ permit.processSpawned ∨ launch.processSpawned) .bindingMismatch
  refuse (¬stdinMatchesLaunch command launch) .stdinBindingMismatch
  refuse (¬kernelRefreshMatchesLaunch command launch) .kernelRefreshBindingMismatch
  refuse (¬executionEnabled) .productionMutationDisabled

/-- The process of a stage of the launch on an open file. -/
def processOf (launch : PrivilegedDescriptorLaunchSpec) (stage : DescriptorLaunchStage) (file : τ)
    (stdinPayload : Option String) : DescriptorStage τ :=
  { file := file
    program := stage.program
    argv := stage.argv
    fixedPath := launch.fixedPath
    fixedLocale := launch.fixedLocale
    stdinPayload := stdinPayload }

def executePrivilegedDescriptorLaunchInner (permit : PrivilegedLaunchPermit)
    (launch : PrivilegedDescriptorLaunchSpec) (pinned : PinnedPrivilegedTools τ)
    (command : PrivilegedCommandSpec) (executionEnabled : Bool) :
    ExecProc τ PrivilegedDescriptorSequenceOutcome := do
  Proc.lift (validateLaunch permit launch pinned command executionEnabled)
  let primary ← runStage
    (processOf launch launch.primary pinned.primaryFile command.stdinPayload)
  if primary.exitCode = 0 then
    match pinned.kernelRefreshFile, launch.kernelRefresh with
    | some file, some refresh =>
      let kernelRefresh ← runStage (processOf launch refresh file none)
      pure ⟨primary, some kernelRefresh⟩
    | none, none => pure ⟨primary, none⟩
    | _, _ => Proc.throw .kernelRefreshBindingMismatch
  else pure ⟨primary, none⟩

end Model

section Processes

variable {τ : Type}

/-- The processes that were spawned, in their order. -/
def spawned (log : List (Entry (execInterface τ))) : List (DescriptorStage τ) :=
  log.filterMap fun e => match e.op with
    | .spawn process => some process
    | .pipes => none

/-- The process is this command on the executable that was pinned for its program. -/
structure Runs (program : PrivilegedProgram) (args : List String) (stdinPayload : Option String)
    (receipt : Option PinnedToolReceipt) (file : Option τ) (process : DescriptorStage τ) : Prop where
  sameProgram : process.program = program
  sameArgv : process.argv = program.asStr :: args
  sameStdin : process.stdinPayload = stdinPayload
  pinnedFile : file = some process.file
  pinnedFor : receipt.map (·.program) = some program

/-- The refresh that follows a primary process with this outcome. -/
def refreshAfter (command : PrivilegedCommandSpec) (primary : DescriptorExecOutcome) :
    Option PrivilegedKernelRefreshSpec :=
  if primary.exitCode = 0 then command.kernelRefresh else none

/-- What ran is what the command says. -/
def Authorized (command : PrivilegedCommandSpec) (pinned : PinnedPrivilegedTools τ)
    (outcome : PrivilegedDescriptorSequenceOutcome) (processes : List (DescriptorStage τ)) : Prop :=
  ∃ primary, Runs command.program command.args command.stdinPayload (some pinned.primary)
      (some pinned.primaryFile) primary ∧
    match refreshAfter command outcome.primary with
    | none => processes = [primary]
    | some refresh => ∃ process, processes = [primary, process] ∧
        Runs refresh.program refresh.args none pinned.kernelRefresh pinned.kernelRefreshFile process

/-- The launch carries the command, and the receipts are those of the programs. -/
structure CarriesCommand (command : PrivilegedCommandSpec) (launch : PrivilegedDescriptorLaunchSpec)
    (pinned : PinnedPrivilegedTools τ) (primary : DescriptorExecOutcome) : Prop where
  sameProgram : launch.primary.program = command.program
  sameArgv : launch.primary.argv = command.program.asStr :: command.args
  primaryPinned : pinned.primary.program = command.program
  refreshPinned : ∀ refresh, refreshAfter command primary = some refresh →
    pinned.kernelRefresh.map (·.program) = some refresh.program

theorem spawned_append (log more : List (Entry (execInterface τ))) :
    spawned (log ++ more) = spawned log ++ spawned more := List.filterMap_append

/-- A stage spawns its process or nothing, and when it succeeds it has spawned it. -/
theorem runStage_holds (process : DescriptorStage τ) (s : St (execInterface τ)) :
    (runStage process).Holds () s
      (fun _ _ t => spawned t.log = spawned s.log ++ [process])
      (fun _ _ t => spawned t.log <+: spawned s.log ++ [process])
      (fun t => spawned t.log <+: spawned s.log ++ [process]) := by
  have hnone : ∀ t : St (execInterface τ), spawned t.log = spawned s.log →
      spawned t.log <+: spawned s.log ++ [process] := by
    intro t ht
    rw [ht]
    exact List.prefix_append _ _
  have hfails : ∀ (e : PrivilegedDescriptorExecError) (t : St (execInterface τ)),
      spawned t.log <+: spawned s.log ++ [process] →
      (Proc.lift (.error e) : ExecProc τ DescriptorExecOutcome).Holds () t
        (fun _ _ t => spawned t.log = spawned s.log ++ [process])
        (fun _ _ t => spawned t.log <+: spawned s.log ++ [process])
        (fun t => spawned t.log <+: spawned s.log ++ [process]) :=
    fun _ _ ht => Proc.holds_lift.mpr ⟨nofun, fun _ _ => ht⟩
  unfold runStage executeDescriptorStage
  rw [Proc.holds_bind]
  split
  · exact hfails .bindingMismatch s (hnone s rfl)
  split
  · exact hfails .embeddedNul s (hnone s rfl)
  rw [Proc.holds_bind]
  refine Proc.holds_perform.mpr ⟨hnone s rfl, fun answer => ?_⟩
  have hpipes : spawned (s.call (I := execInterface τ) .pipes answer).log = spawned s.log := by
    rw [St.call_log, spawned_append]
    exact List.append_nil _
  match answer, hpipes with
  | .error source, hpipes => exact hfails (.io source) _ (hnone _ hpipes)
  | .ok (), hpipes =>
    refine Proc.holds_perform.mpr ⟨hnone _ hpipes, fun outcome => ?_⟩
    have hspawned : ∀ t : St (execInterface τ), spawned t.log = spawned s.log →
        spawned (t.call (I := execInterface τ) (.spawn process) outcome).log =
          spawned s.log ++ [process] := by
      intro t ht
      rw [St.call_log, spawned_append, ht]
      rfl
    match outcome, hspawned with
    | .error e, hspawned =>
      refine hfails e _ ?_
      rw [hspawned _ hpipes]
    | .ok outcome, hspawned =>
      exact Proc.holds_lift.mpr ⟨fun _ _ => hspawned _ hpipes, nofun⟩

end Processes

section Executions

variable {τ : Type}

/-- The refresh that the launch has for a file that is open. -/
def refreshProcesses (launch : PrivilegedDescriptorLaunchSpec) (pinned : PinnedPrivilegedTools τ) :
    List (DescriptorStage τ) :=
  match pinned.kernelRefreshFile, launch.kernelRefresh with
  | some file, some refresh => [processOf launch refresh file none]
  | _, _ => []

def primaryProcess (launch : PrivilegedDescriptorLaunchSpec) (pinned : PinnedPrivilegedTools τ)
    (command : PrivilegedCommandSpec) : DescriptorStage τ :=
  processOf launch launch.primary pinned.primaryFile command.stdinPayload

variable {launch : PrivilegedDescriptorLaunchSpec} {pinned : PinnedPrivilegedTools τ}
  {command : PrivilegedCommandSpec}

/-- The refresh of the launch is the command's. -/
theorem stage_of_refresh (h : kernelRefreshMatchesLaunch command launch = true) :
    match command.kernelRefresh with
    | none => launch.kernelRefresh = none
    | some refresh => ∃ stage, launch.kernelRefresh = some stage ∧
        stage.program = refresh.program ∧ stage.argv = refresh.program.asStr :: refresh.args := by
  unfold kernelRefreshMatchesLaunch at h
  split at h
  case h_1 refresh stage hrefresh hstage =>
    simp only [Bool.and_eq_true, beq_iff_eq] at h
    obtain ⟨⟨hprogram, hhead⟩, htail⟩ := h
    rw [hrefresh]
    refine ⟨stage, hstage, hprogram.symm, ?_⟩
    rw [← htail]
    exact (List.cons_head?_tail hhead).symm
  case h_2 hrefresh hstage =>
    rw [hrefresh]
    exact hstage
  case h_3 => cases h

theorem primary_runs_iff :
    Runs command.program command.args command.stdinPayload (some pinned.primary)
        (some pinned.primaryFile) (primaryProcess launch pinned command) ↔
      launch.primary.program = command.program ∧
        launch.primary.argv = command.program.asStr :: command.args ∧
        pinned.primary.program = command.program := by
  constructor
  · intro h
    exact ⟨h.sameProgram, h.sameArgv, Option.some.inj h.pinnedFor⟩
  · intro h
    exact ⟨h.1, h.2.1, rfl, rfl, congrArg some h.2.2⟩

/-- A primary process that no refresh follows. -/
theorem authorized_alone_iff {outcome : PrivilegedDescriptorSequenceOutcome}
    (hrefresh : refreshAfter command outcome.primary = none) :
    Authorized command pinned outcome [primaryProcess launch pinned command] ↔
      CarriesCommand command launch pinned outcome.primary := by
  unfold Authorized
  rw [hrefresh]
  constructor
  · intro h
    obtain ⟨primary, hruns, hsame⟩ := h
    rw [← (List.cons.inj hsame).1, primary_runs_iff] at hruns
    refine ⟨hruns.1, hruns.2.1, hruns.2.2, ?_⟩
    rw [hrefresh]
    nofun
  · intro h
    exact ⟨_, primary_runs_iff.mpr ⟨h.sameProgram, h.sameArgv, h.primaryPinned⟩, rfl⟩

variable [Fingerprint] {permit : PrivilegedLaunchPermit}

/-- Nothing was spawned, or the launch was accepted and what was spawned is a prefix of its two
processes. -/
def Spawns (permit : PrivilegedLaunchPermit) (launch : PrivilegedDescriptorLaunchSpec)
    (pinned : PinnedPrivilegedTools τ) (command : PrivilegedCommandSpec)
    (s t : St (execInterface τ)) : Prop :=
  spawned t.log = spawned s.log ∨
    validateLaunch permit launch pinned command true = .ok () ∧
      spawned t.log <+: spawned s.log ++
        primaryProcess launch pinned command :: refreshProcesses launch pinned

/-- Every run, to its end or cut at any call. -/
theorem execute_holds (s : St (execInterface τ)) :
    (executePrivilegedDescriptorLaunchInner permit launch pinned command true).Holds () s
      (fun outcome _ t => validateLaunch permit launch pinned command true = .ok () ∧
        spawned t.log = spawned s.log ++ primaryProcess launch pinned command ::
          (if outcome.primary.exitCode = 0 then refreshProcesses launch pinned else []) ∧
        (outcome.primary.exitCode = 0 →
          pinned.kernelRefreshFile.isSome = launch.kernelRefresh.isSome))
      (fun _ _ t => Spawns permit launch pinned command s t)
      (fun t => Spawns permit launch pinned command s t) := by
  unfold executePrivilegedDescriptorLaunchInner
  rw [Proc.holds_bind, Proc.holds_lift]
  refine ⟨fun _ hvalid => ?_, fun _ _ => .inl rfl⟩
  have hprefix : ∀ t : St (execInterface τ),
      spawned t.log <+: spawned s.log ++ [primaryProcess launch pinned command] →
      Spawns permit launch pinned command s t := by
    intro t ht
    refine .inr ⟨hvalid, ht.trans ⟨refreshProcesses launch pinned, ?_⟩⟩
    rw [List.append_assoc, List.singleton_append]
  rw [Proc.holds_bind]
  refine (runStage_holds _ s).mono ?_ (fun _ _ t ht => hprefix t ht) hprefix
  intro primary _ t ht
  change spawned t.log = spawned s.log ++ [primaryProcess launch pinned command] at ht
  have hran : Spawns permit launch pinned command s t := by
    apply hprefix
    rw [ht]
  by_cases hexit : primary.exitCode = 0
  · rw [if_pos hexit]
    cases hfile : pinned.kernelRefreshFile with
    | none =>
      have hrefresh : refreshProcesses launch pinned = [] := by rw [refreshProcesses, hfile]
      cases hlaunch : launch.kernelRefresh with
      | none =>
        refine Proc.holds_pure.mpr ⟨hvalid, ?_, fun _ => rfl⟩
        rw [if_pos hexit, hrefresh]
        exact ht
      | some refresh => exact Proc.holds_throw.mpr hran
    | some file =>
      cases hlaunch : launch.kernelRefresh with
      | none => exact Proc.holds_throw.mpr hran
      | some refresh =>
        have hrefresh : refreshProcesses launch pinned = [processOf launch refresh file none] := by
          rw [refreshProcesses, hfile, hlaunch]
        have hspawns : ∀ u : St (execInterface τ),
            spawned u.log <+: spawned t.log ++ [processOf launch refresh file none] →
              Spawns permit launch pinned command s u := by
          intro u hu
          rw [ht, List.append_assoc, List.singleton_append, ← hrefresh] at hu
          exact .inr ⟨hvalid, hu⟩
        refine Proc.holds_bind.mpr ((runStage_holds _ t).mono ?_ (fun _ _ u hu => hspawns u hu)
          hspawns)
        intro kernelRefresh _ u hu
        refine Proc.holds_pure.mpr ⟨hvalid, ?_, fun _ => rfl⟩
        rw [if_pos hexit, hrefresh, hu, ht, List.append_assoc, List.singleton_append]
  · rw [if_neg hexit]
    refine Proc.holds_pure.mpr ⟨hvalid, ?_, fun h => absurd h hexit⟩
    rw [if_neg hexit]
    exact ht

/-- What the comparisons find. -/
structure Bound (permit : PrivilegedLaunchPermit) (launch : PrivilegedDescriptorLaunchSpec)
    (pinned : PinnedPrivilegedTools τ) (command : PrivilegedCommandSpec) : Prop where
  permitIntegrity : permit.integrityMatches = true
  launchIntegrity : launch.integrityMatches = true
  pinIntegrity : pinned.integrityMatches = true
  launchId : permit.launchId = launch.launchId
  authorizationId : permit.authorizationId = launch.authorizationId
  planStepId : permit.planStepId = launch.planStepId
  commandDigest : permit.commandDigest = launch.commandDigest
  sameCommand : launch.commandDigest = command.digest
  pinId : pinned.pinId = launch.pinId
  pinnedAuthorization : pinned.authorizationId = launch.authorizationId
  pinnedStep : pinned.planStepId = launch.planStepId
  pinnedCommand : pinned.commandDigest = launch.commandDigest
  sameStep : command.planStepId = launch.planStepId
  disabled : ¬permit.mutationEnabled ∧ ¬permit.processSpawned ∧ ¬launch.processSpawned
  stdin : stdinMatchesLaunch command launch = true
  kernelRefresh : kernelRefreshMatchesLaunch command launch = true

theorem validateLaunch_eq_ok_iff :
    validateLaunch permit launch pinned command true = .ok () ↔
      Bound permit launch pinned command := by
  simp only [validateLaunch, bind_eq_ok_iff, exists_check_iff, refuse_eq_ok_iff, not_or, not_not,
    ne_eq]
  constructor
  · intro h
    obtain ⟨h1, h2, h3, ⟨h4, h5, h6, h7, h8, h9, h10, h11, h12, h13, h14, h15, h16⟩, h17, h18, -⟩ := h
    exact ⟨h1, h2, h3, h4, h5, h6, h7, h8, h9, h10, h11, h12, h13, ⟨h14, h15, h16⟩, h17, h18⟩
  · intro h
    exact ⟨h.permitIntegrity, h.launchIntegrity, h.pinIntegrity,
      ⟨h.launchId, h.authorizationId, h.planStepId, h.commandDigest, h.sameCommand, h.pinId,
        h.pinnedAuthorization, h.pinnedStep, h.pinnedCommand, h.sameStep, h.disabled⟩,
      h.stdin, h.kernelRefresh, trivial⟩

/-- An accepted run spawns what the command says exactly when the launch carries the command and
the receipts of the pinned tools are those of its programs. -/
theorem launch_runs_command_iff {outcome : PrivilegedDescriptorSequenceOutcome}
    {t : St (execInterface τ)}
    (h : (executePrivilegedDescriptorLaunchInner permit launch pinned command true).Can () ⟨(), []⟩
      (.ok outcome) () t) :
    Authorized command pinned outcome (spawned t.log) ↔
      CarriesCommand command launch pinned outcome.primary := by
  obtain ⟨hvalid, hspawned, hpresence⟩ := h.holds_ok (execute_holds _)
  have hstage := stage_of_refresh (validateLaunch_eq_ok_iff.mp hvalid).kernelRefresh
  change spawned t.log = primaryProcess launch pinned command :: _ at hspawned
  by_cases hexit : outcome.primary.exitCode = 0
  · rw [if_pos hexit] at hspawned
    cases hcommand : command.kernelRefresh with
    | none =>
      rw [hcommand] at hstage
      have hnone : refreshProcesses launch pinned = [] := by
        unfold refreshProcesses
        rw [hstage]
        split <;> simp_all
      rw [hspawned, hnone]
      exact authorized_alone_iff (by rw [refreshAfter, if_pos hexit, hcommand])
    | some refresh =>
      rw [hcommand] at hstage
      obtain ⟨stage, hlaunch, hprogram, hargv⟩ := hstage
      have hopen := hpresence hexit
      rw [hlaunch] at hopen
      obtain ⟨file, hfile⟩ := Option.isSome_iff_exists.mp hopen
      have hafter : refreshAfter command outcome.primary = some refresh := by
        rw [refreshAfter, if_pos hexit, hcommand]
      rw [refreshProcesses, hfile, hlaunch] at hspawned
      unfold Authorized
      rw [hspawned, hafter]
      constructor
      · intro hauthorized
        obtain ⟨primary, hruns, process, hsame, hrefresh⟩ := hauthorized
        rw [← (List.cons.inj hsame).1, primary_runs_iff] at hruns
        refine ⟨hruns.1, hruns.2.1, hruns.2.2, fun other hother => ?_⟩
        rw [hafter] at hother
        rw [← Option.some.inj hother]
        exact hrefresh.pinnedFor
      · intro hcarries
        refine ⟨_, primary_runs_iff.mpr
          ⟨hcarries.sameProgram, hcarries.sameArgv, hcarries.primaryPinned⟩, _, rfl, ?_⟩
        exact ⟨hprogram, hargv, rfl, hfile, hcarries.refreshPinned refresh hafter⟩
  · rw [if_neg hexit] at hspawned
    rw [hspawned]
    exact authorized_alone_iff (by rw [refreshAfter, if_neg hexit])

/-- The first process of an accepted run. -/
theorem spawned_head {outcome : PrivilegedDescriptorSequenceOutcome} {t : St (execInterface τ)}
    (h : (executePrivilegedDescriptorLaunchInner permit launch pinned command true).Can () ⟨(), []⟩
      (.ok outcome) () t) :
    (spawned t.log).head? = some (primaryProcess launch pinned command) := by
  obtain ⟨-, hspawned, -⟩ := h.holds_ok (execute_holds _)
  rw [hspawned]
  rfl

omit [Fingerprint] in
/-- The first process of what is authorized is the command. -/
theorem Authorized.head {outcome : PrivilegedDescriptorSequenceOutcome}
    {processes : List (DescriptorStage τ)} (h : Authorized command pinned outcome processes) :
    ∃ primary, processes.head? = some primary ∧ primary.program = command.program := by
  obtain ⟨primary, hruns, hprocesses⟩ := h
  refine ⟨primary, ?_, hruns.sameProgram⟩
  split at hprocesses
  · rw [hprocesses]
    rfl
  · obtain ⟨process, hprocesses, -⟩ := hprocesses
    rw [hprocesses]
    rfl

end Executions

section Chain

variable [Fingerprint] {τ : Type} {files : ToolFiles τ} {pinned : PinnedPrivilegedTools τ}
  {command : PrivilegedCommandSpec} {launch : PrivilegedDescriptorLaunchSpec}
  {authorization : PrivilegedSpawnAuthorization} {permit : PrivilegedLaunchPermit}

omit [Fingerprint] in
theorem stage_ok {program : PrivilegedProgram} {args : List String} {receipt : PinnedToolReceipt}
    {file : τ} {stage : DescriptorLaunchStage}
    (h : PrivilegedLaunch.stage files program args receipt file = .ok stage) :
    receipt.program = program ∧ stage.program = program ∧ stage.argv = program.asStr :: args := by
  simp only [PrivilegedLaunch.stage, bind_eq_ok_iff, exists_check_iff, refuse_eq_ok_iff, not_or,
    not_not, ne_eq] at h
  obtain ⟨hreceipt, -, elf, -, h⟩ := h
  rw [← Except.ok.inj h]
  exact ⟨hreceipt.1, rfl, rfl⟩

omit [Fingerprint] in
theorem refreshStage_ok {refresh : Option DescriptorLaunchStage}
    (h : PrivilegedLaunch.refreshStage files pinned command = .ok refresh) :
    match command.kernelRefresh with
    | none => refresh = none
    | some spec => ∃ receipt stage, pinned.kernelRefresh = some receipt ∧
        receipt.program = spec.program ∧ refresh = some stage ∧ stage.program = spec.program ∧
        stage.argv = spec.program.asStr :: spec.args := by
  unfold PrivilegedLaunch.refreshStage at h
  split at h
  case h_1 spec receipt file hspec hreceipt hfile =>
    obtain ⟨stage, hstage, hsome⟩ := bind_eq_ok_iff.mp h
    obtain ⟨hpinned, hprogram, hargv⟩ := stage_ok hstage
    rw [hspec]
    exact ⟨receipt, stage, hreceipt, hpinned, (Except.ok.inj hsome).symm, hprogram, hargv⟩
  case h_2 hspec hreceipt hfile =>
    rw [hspec]
    exact (Except.ok.inj h).symm
  case h_3 => cases h

/-- What the builder has put into a launch. -/
structure Built (pinned : PinnedPrivilegedTools τ) (command : PrivilegedCommandSpec)
    (launch : PrivilegedDescriptorLaunchSpec) : Prop where
  pinIntegrity : pinned.integrityMatches = true
  launchIntegrity : launch.integrityMatches = true
  pinnedStep : pinned.planStepId = command.planStepId
  pinnedCommand : pinned.commandDigest = command.digest
  pinId : launch.pinId = pinned.pinId
  authorizationId : launch.authorizationId = pinned.authorizationId
  planStepId : launch.planStepId = command.planStepId
  commandDigest : launch.commandDigest = command.digest
  disabled : launch.processSpawned = false
  stdin : stdinMatchesLaunch command launch = true
  kernelRefresh : kernelRefreshMatchesLaunch command launch = true
  carries : ∀ primary, CarriesCommand command launch pinned primary

theorem sealed_integrity (l : PrivilegedDescriptorLaunchSpec) :
    (PrivilegedLaunch.sealed l).integrityMatches = true := beq_self_eq_true _

theorem launch_built
    (h : PrivilegedLaunch.buildPrivilegedDescriptorLaunchSpec files pinned command = .ok launch) :
    Built pinned command launch := by
  simp only [PrivilegedLaunch.buildPrivilegedDescriptorLaunchSpec, bind_eq_ok_iff,
    exists_check_iff, refuse_eq_ok_iff, not_or, not_not, ne_eq] at h
  obtain ⟨hpin, ⟨hstep, hdigest⟩, -, primary, hprimary, refresh, hrefresh, -, h⟩ := h
  have hlaunch := Except.ok.inj h
  obtain ⟨hreceipt, hprogram, hargv⟩ := stage_ok hprimary
  have hsame : launch.primary = primary ∧ launch.kernelRefresh = refresh := by
    rw [← hlaunch]
    exact ⟨rfl, rfl⟩
  have hstages := refreshStage_ok hrefresh
  rw [← hsame.2] at hstages
  have hstdin : stdinMatchesLaunch command launch = true := by
    unfold stdinMatchesLaunch
    rw [← hlaunch]
    cases command.stdinPayload <;> simp [PrivilegedLaunch.sealed]
  have hmatches : kernelRefreshMatchesLaunch command launch = true := by
    unfold kernelRefreshMatchesLaunch
    cases hspec : command.kernelRefresh with
    | none =>
      rw [hspec] at hstages
      rw [hstages]
    | some spec =>
      rw [hspec] at hstages
      obtain ⟨receipt, stage, -, -, hstage, hstageProgram, hstageArgv⟩ := hstages
      rw [hstage]
      simp [hstageProgram, hstageArgv]
  have hcarries : ∀ primary, CarriesCommand command launch pinned primary := by
    intro outcome
    refine ⟨by rw [hsame.1, hprogram], by rw [hsame.1, hargv], hreceipt, fun spec hspec => ?_⟩
    have hcommand : command.kernelRefresh = some spec := by
      unfold refreshAfter at hspec
      split at hspec
      · exact hspec
      · cases hspec
    rw [hcommand] at hstages
    obtain ⟨receipt, -, hpinned, hfor, -⟩ := hstages
    rw [hpinned]
    exact congrArg some hfor
  have hfields : launch.pinId = pinned.pinId ∧ launch.authorizationId = pinned.authorizationId ∧
      launch.planStepId = command.planStepId ∧ launch.commandDigest = command.digest ∧
      launch.processSpawned = false ∧ launch.integrityMatches = true := by
    rw [← hlaunch]
    exact ⟨rfl, rfl, rfl, rfl, rfl, sealed_integrity _⟩
  obtain ⟨hpinId, hauthorization, hstepId, hcommand, hdisabled, hintegrity⟩ := hfields
  exact ⟨hpin, hintegrity, hstep, hdigest, hpinId, hauthorization, hstepId, hcommand, hdisabled,
    hstdin, hmatches, hcarries⟩

/-- A launch that was built for these pinned tools and this command runs the command. -/
theorem built_launch_authorized {outcome : PrivilegedDescriptorSequenceOutcome}
    {t : St (execInterface τ)}
    (hbuilt :
      PrivilegedLaunch.buildPrivilegedDescriptorLaunchSpec files pinned command = .ok launch)
    (h : (executePrivilegedDescriptorLaunchInner permit launch pinned command true).Can () ⟨(), []⟩
      (.ok outcome) () t) : Authorized command pinned outcome (spawned t.log) :=
  (launch_runs_command_iff h).mpr ((launch_built hbuilt).carries _)

/-- What both seals put into a permit. -/
theorem permit_sealed {started : Except PrivilegedLaunchPermitError Unit}
    {executionId receiptId : String} {planStepId : Nat}
    (h : sealLaunchPermit started executionId receiptId planStepId authorization launch =
      .ok permit) :
    permit.integrityMatches = true ∧ permit.launchId = launch.launchId ∧
      permit.authorizationId = launch.authorizationId ∧ permit.planStepId = launch.planStepId ∧
      permit.commandDigest = launch.commandDigest ∧ ¬permit.mutationEnabled ∧
      ¬permit.processSpawned := by
  simp only [sealLaunchPermit, bind_eq_ok_iff, exists_check_iff, refuse_eq_ok_iff, not_or, not_not,
    ne_eq] at h
  obtain ⟨-, -, -, -, -, ⟨-, -, -, hauthorization, -⟩, h⟩ := h
  rw [← Except.ok.inj h]
  exact ⟨beq_self_eq_true _, rfl, hauthorization, rfl, rfl, Bool.false_ne_true, Bool.false_ne_true⟩

/-- A permit that was sealed over a built launch lets it run. -/
theorem chain_bound {started : Except PrivilegedLaunchPermitError Unit}
    {executionId receiptId : String} {planStepId : Nat}
    (hbuilt :
      PrivilegedLaunch.buildPrivilegedDescriptorLaunchSpec files pinned command = .ok launch)
    (hpermit : sealLaunchPermit started executionId receiptId planStepId authorization launch =
      .ok permit) : validateLaunch permit launch pinned command true = .ok () := by
  have hlaunch := launch_built hbuilt
  obtain ⟨hintegrity, hid, hauthorization, hstep, hcommand, henabled, hspawned⟩ :=
    permit_sealed hpermit
  apply validateLaunch_eq_ok_iff.mpr
  exact {
    permitIntegrity := hintegrity
    launchIntegrity := hlaunch.launchIntegrity
    pinIntegrity := hlaunch.pinIntegrity
    launchId := hid
    authorizationId := hauthorization
    planStepId := hstep
    commandDigest := hcommand
    sameCommand := hlaunch.commandDigest
    pinId := hlaunch.pinId.symm
    pinnedAuthorization := hlaunch.authorizationId.symm
    pinnedStep := hlaunch.pinnedStep.trans hlaunch.planStepId.symm
    pinnedCommand := hlaunch.pinnedCommand.trans hlaunch.commandDigest.symm
    sameStep := hlaunch.planStepId.symm
    disabled := ⟨henabled, hspawned, by rw [hlaunch.disabled]; exact Bool.false_ne_true⟩
    stdin := hlaunch.stdin
    kernelRefresh := hlaunch.kernelRefresh }

omit [Fingerprint] in
theorem pinTrustedTool_ok {expected : TrustedToolIdentity} {file : τ} {receipt : PinnedToolReceipt}
    (h : pinTrustedTool files expected = .ok (file, receipt)) :
    files.openTool expected.canonicalPath = .ok file ∧ receipt.program = expected.program := by
  simp only [pinTrustedTool, receiptFromOpenFile, bind_eq_ok_iff, exists_check_iff,
    mapError_eq_ok_iff] at h
  obtain ⟨-, opened, hopened, _, ⟨_, -, _, -, -, hreceipt⟩, h⟩ := h
  obtain ⟨hfile, hsame⟩ := Prod.mk.inj (Except.ok.inj h)
  rw [← hfile, ← hsame, ← Except.ok.inj hreceipt]
  exact ⟨hopened, rfl⟩

/-- The pinned files are those at the trusted paths, each under the receipt for its program. -/
theorem pinned_resolved {tools : PrivilegedToolResolution}
    (h : pinResolvedTools files authorization command tools = .ok pinned) :
    pinned.integrityMatches = true ∧ pinned.primary.program = tools.primary.program ∧
      files.openTool tools.primary.canonicalPath = .ok pinned.primaryFile ∧
      match tools.kernelRefresh with
      | none => pinned.kernelRefresh = none ∧ pinned.kernelRefreshFile = none
      | some identity => ∃ receipt file, pinned.kernelRefresh = some receipt ∧
          pinned.kernelRefreshFile = some file ∧ receipt.program = identity.program ∧
          files.openTool identity.canonicalPath = .ok file := by
  simp only [pinResolvedTools, bind_eq_ok_iff, exists_check_iff] at h
  obtain ⟨-, -, ⟨file, receipt⟩, hprimary, refresh, hrefresh, h⟩ := h
  obtain ⟨hopened, hprogram⟩ := pinTrustedTool_ok hprimary
  rw [← Except.ok.inj h]
  refine ⟨beq_self_eq_true _, hprogram, hopened, ?_⟩
  cases htools : tools.kernelRefresh with
  | none =>
    rw [htools] at hrefresh
    rw [← Except.ok.inj hrefresh]
    exact ⟨rfl, rfl⟩
  | some identity =>
    rw [htools] at hrefresh
    obtain ⟨⟨refreshFile, refreshReceipt⟩, hpinned, hsome⟩ := bind_eq_ok_iff.mp hrefresh
    obtain ⟨hrefreshOpened, hrefreshProgram⟩ := pinTrustedTool_ok hpinned
    rw [← Except.ok.inj hsome]
    exact ⟨refreshReceipt, refreshFile, rfl, rfl, hrefreshProgram, hrefreshOpened⟩

end Chain

section Samples

variable [Fingerprint]

/-- A descriptor that was opened on the executable for this program. -/
def sampleReceipt (program : PrivilegedProgram) : PinnedToolReceipt :=
  ⟨program, "/usr/sbin/" ++ program.asStr, 2049, 7, 0, 0o100755, 4096,
    fingerprint (.str "executable")⟩

def sampleCommand : PrivilegedCommandSpec :=
  ⟨1, .pvresize, ["--yes", "--setphysicalvolumesize", "4096B", "--", "/dev/sda2"], none, none⟩

def samplePinned : PinnedPrivilegedTools Nat :=
  PinnedPrivilegedTools.sealed
    { schemaVersion := 1
      pinId := ""
      authorizationId := fingerprint (.str "authorization")
      planStepId := 1
      commandDigest := sampleCommand.digest
      toolResolutionDigest := fingerprint (.str "tools")
      primary := sampleReceipt .pvresize
      kernelRefresh := none
      primaryFile := 3
      kernelRefreshFile := none }

/-- A launch of these arguments, with its own digest. -/
def sampleLaunch (program : PrivilegedProgram) (args : List String) :
    PrivilegedDescriptorLaunchSpec :=
  PrivilegedLaunch.sealed
    { schemaVersion := 1
      launchId := ""
      pinId := samplePinned.pinId
      authorizationId := samplePinned.authorizationId
      planStepId := 1
      commandDigest := sampleCommand.digest
      primary := ⟨program, program.asStr :: args, sampleReceipt program, ⟨.elf64, .littleEndian, 1⟩⟩
      kernelRefresh := none
      stdinLen := 0
      stdinSha256 := none
      fixedPath := PrivilegedLaunch.fixedPath
      fixedLocale := PrivilegedLaunch.fixedLocale
      descriptorExecApi := "fexecve"
      processSpawned := false }

def samplePermit (launch : PrivilegedDescriptorLaunchSpec) : PrivilegedLaunchPermit :=
  let permit : PrivilegedLaunchPermit :=
    { schemaVersion := 1
      permitId := ""
      executionId := fingerprint (.str "execution")
      executionStartReceiptId := fingerprint (.str "start")
      authorizationId := launch.authorizationId
      launchId := launch.launchId
      planStepId := launch.planStepId
      commandDigest := launch.commandDigest
      mutationEnabled := false
      processSpawned := false }
  { permit with permitId := permit.expectedPermitId }

theorem sampleLaunch_valid (program : PrivilegedProgram) (args : List String) :
    validateLaunch (samplePermit (sampleLaunch program args)) (sampleLaunch program args)
      samplePinned sampleCommand true = .ok () :=
  validateLaunch_eq_ok_iff.mpr
    { permitIntegrity := beq_self_eq_true _
      launchIntegrity := sealed_integrity _
      pinIntegrity := beq_self_eq_true _
      launchId := rfl
      authorizationId := rfl
      planStepId := rfl
      commandDigest := rfl
      sameCommand := rfl
      pinId := rfl
      pinnedAuthorization := rfl
      pinnedStep := rfl
      pinnedCommand := rfl
      sameStep := rfl
      disabled := ⟨Bool.false_ne_true, Bool.false_ne_true, Bool.false_ne_true⟩
      stdin := rfl
      kernelRefresh := rfl }

omit [Fingerprint] in
/-- A process whose arguments are sound can be spawned and end in any way. -/
theorem runStage_can {process : DescriptorStage Nat} (s : St (execInterface Nat))
    (hargv : process.argv.head? = some process.program.asStr) (hnul : process.hasNul = false)
    (outcome : DescriptorExecOutcome) :
    ∃ t, (runStage process).Can () s (.ok outcome) () t := by
  unfold runStage executeDescriptorStage
  rw [if_neg (not_not.mpr hargv), if_neg (by rw [hnul]; exact Bool.false_ne_true)]
  have hpipes : (createPipes : ExecProc Nat (Except String Unit)).Can () s (.ok (.ok ())) ()
      (s.call (I := execInterface Nat) .pipes (.ok ())) := Proc.Can.perform _
  have hspawn : ∀ t, (spawn process).Can () t (.ok (.ok outcome)) ()
      (t.call (I := execInterface Nat) (.spawn process) (.ok outcome)) :=
    fun t => Proc.Can.perform _
  exact ⟨_, Proc.Can.bind (Proc.Can.bind hpipes (hspawn _)) (Proc.Can.lift rfl)⟩

def sampleOutcome : PrivilegedDescriptorSequenceOutcome := ⟨⟨0, [], [], false, false⟩, none⟩

/-- The sample runs with any program and any plain arguments. -/
theorem sample_can (program : PrivilegedProgram) (args : List String)
    (hnul : (primaryProcess (sampleLaunch program args) samplePinned sampleCommand).hasNul =
      false) :
    ∃ t, (executePrivilegedDescriptorLaunchInner (samplePermit (sampleLaunch program args))
      (sampleLaunch program args) samplePinned sampleCommand true).Can () ⟨(), []⟩
        (.ok sampleOutcome) () t := by
  obtain ⟨t, ht⟩ := runStage_can ⟨(), []⟩ rfl hnul sampleOutcome.primary
  exact ⟨t, Proc.Can.bind (Proc.Can.lift (sampleLaunch_valid program args))
    (Proc.Can.bind ht (Proc.Can.pure _))⟩

end Samples

section Runs

theorem launch_runs_command_sample :
    ∃ t, (executePrivilegedDescriptorLaunchInner
        (samplePermit (sampleLaunch .pvresize sampleCommand.args))
        (sampleLaunch .pvresize sampleCommand.args) samplePinned sampleCommand true).Can () ⟨(), []⟩
        (.ok sampleOutcome) () t ∧
      (Authorized sampleCommand samplePinned sampleOutcome (spawned t.log) ↔
        CarriesCommand sampleCommand (sampleLaunch .pvresize sampleCommand.args) samplePinned
          sampleOutcome.primary) := by
  obtain ⟨t, ht⟩ := sample_can .pvresize sampleCommand.args (by decide)
  exact ⟨t, ht, launch_runs_command_iff ht⟩

/-- It extends another volume, under the digest of the command that resizes the physical one. -/
def otherLaunch : PrivilegedDescriptorLaunchSpec :=
  sampleLaunch .lvextend ["--extents", "+100%FREE", "--", "/dev/vg/other"]

theorem other_command_runs_sample :
    ∃ t, (executePrivilegedDescriptorLaunchInner (samplePermit otherLaunch) otherLaunch samplePinned
        sampleCommand true).Can () ⟨(), []⟩ (.ok sampleOutcome) () t ∧
      ¬Authorized sampleCommand samplePinned sampleOutcome (spawned t.log) := by
  obtain ⟨t, ht⟩ := sample_can .lvextend ["--extents", "+100%FREE", "--", "/dev/vg/other"]
    (by decide)
  refine ⟨t, ht, fun hauthorized => ?_⟩
  obtain ⟨primary, hhead, hprogram⟩ := hauthorized.head
  rw [spawned_head ht] at hhead
  rw [← Option.some.inj hhead] at hprogram
  cases hprogram

end Runs

end PrivilegedExec

end StorageManager.Executor
