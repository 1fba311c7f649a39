import StorageManager.Executor.CreateMountExec
import StorageManager.Executor.CreateMountJournalLaws
import StorageManager.Lib.Recovering

/-!
# What a mount looks at

Before its durable begin the mount crossing only looks. Here is what each look has seen when it
succeeded, up to the launch: a discovery, and twice the mountpoint with every directory above it.
-/

namespace StorageManager.Executor.Create.Mount

open StorageManager.Core
open Lib
open Lib.Checks
open Lib.Effects
open Lib.RecordFile
open Lib.WriteAhead
open Lib.Looking
open Swap (FileMetadata IoError pathComponents pathJoin)

set_option autoImplicit false

/-- Every spawn needs a record that is not Prepared any more. -/
@[reducible] def mountDiscipline : Discipline ProductionCreateMountRuntimeJournal mountEnv where
  Act := DescriptorStage Nat
  act
    | .spawn stage => some stage
    | _ => none
  rank
    | none => 0
    | some j => j.phase.rank
  need _ := 1

abbrev LogEntry := Entry (interface ProductionCreateMountRuntimeJournal mountEnv)
abbrev MountSt := St (interface ProductionCreateMountRuntimeJournal mountEnv)

instance : IsPreorder MountSt (Silent mountDiscipline) := silent_isPreorder

section Entries

variable (file : File ProductionCreateMountRuntimeJournal)

/-- A discovery that found this snapshot while the journal file was `file`. -/
def discovered (snapshot : HostSnapshot) : LogEntry :=
  ⟨.inr .discoverSnapshot, (.ok snapshot : Except String HostSnapshot), file⟩

def statted (path : String) (metadata : FileMetadata) : LogEntry :=
  ⟨.inr (.symlinkMetadata path), (.ok metadata : Except IoError FileMetadata), file⟩

def foundEmpty (path : String) : LogEntry :=
  ⟨.inr (.readDir path), (.ok false : Except IoError Bool), file⟩

end Entries

/-- The directories on the way down. -/
def descentPaths : String → List String → List String
  | _, [] => []
  | current, component :: rest =>
    pathJoin current component :: descentPaths (pathJoin current component) rest

/-- Every directory on the way was looked at and none is bad. -/
def Descends (bad : FileMetadata → Bool) (file : File ProductionCreateMountRuntimeJournal)
    (paths : List String) (seen : List LogEntry) : Prop :=
  List.Forall₂ (fun path e => ∃ metadata, bad metadata = false ∧ e = statted file path metadata)
    paths seen

/-- The frozen directory, which is root's and writable by nobody else. -/
structure FrozenDirectory (activation : ProductionCreateMountActivationIntent)
    (metadata : FileMetadata) : Prop where
  isDir : metadata.isDir = true
  isSymlink : metadata.isSymlink = false
  dev : metadata.dev = activation.mountpointDeviceId
  ino : metadata.ino = activation.mountpointInode
  uid : metadata.uid = 0
  mode : metadata.writableByOthers = false

/-- A look at the mountpoint: directories of root all the way down, the frozen one at the end,
and nothing in it. -/
def MountpointLook (activation : ProductionCreateMountActivationIntent)
    (file : File ProductionCreateMountRuntimeJournal) (seen : List LogEntry) : Prop :=
  ∃ descent metadata,
    Descends notRootDirectory file (descentPaths "/" (pathComponents activation.mountpoint))
      descent ∧
    FrozenDirectory activation metadata ∧
    seen = descent ++ [statted file activation.mountpoint metadata,
      foundEmpty file activation.mountpoint]

section Calls

variable {μ ε : Type} {io : String → IoError → ε}

theorem mountAsk_looks (op : MountOp) (hop : mountDiscipline.act op = none) : Looks mountDiscipline
    (mountAsk op : FileProc ProductionCreateMountRuntimeJournal mountEnv μ ε (mountEnv.Ans op))
    fun file answer seen => seen = [⟨.inr op, answer, file⟩] :=
  Looks.ask hop

/-- The induction is on the components that are left. -/
theorem inspectDescent_looks (bad : FileMetadata → Bool) (refused : ε) :
    ∀ (components : List String) (current : String), Looks mountDiscipline
      (inspectDescent io bad refused current components :
        FileProc ProductionCreateMountRuntimeJournal mountEnv μ ε Unit)
      fun file _ seen => Descends bad file (descentPaths current components) seen := by
  intro components
  induction components with
  | nil => exact fun _ => Looks.pure fun _ => .nil
  | cons component rest ih =>
    intro current
    unfold inspectDescent statPath
    refine Looks.call_then (mountAsk_looks (.symlinkMetadata _) rfl) fun metadata => ?_
    refine Looks.check fun _ hgood => (ih (pathJoin current component)).mono ?_
    intro file _ seen hseen
    exact .cons ⟨metadata, Bool.eq_false_iff.mpr (refuse_eq_ok_iff.mp hgood), rfl⟩ hseen

theorem requireEmptyDirectory_looks (notEmpty : ε) (path : String) : Looks mountDiscipline
    (requireEmptyDirectory io notEmpty path :
      FileProc ProductionCreateMountRuntimeJournal mountEnv μ ε Unit)
    fun file _ seen => seen = [foundEmpty file path] := by
  unfold requireEmptyDirectory
  refine Looks.call_then (mountAsk_looks (.readDir path) rfl) fun occupied => ?_
  refine Looks.lift fun _ hempty file => ?_
  rw [Bool.eq_false_iff.mpr (refuse_eq_ok_iff.mp hempty)]
  rfl

/-- A look at the mountpoint that succeeds. -/
theorem revalidateMountpointIdentity_looks (activation : ProductionCreateMountActivationIntent) :
    Looks mountDiscipline
      (revalidateMountpointIdentity activation :
        FileProc ProductionCreateMountRuntimeJournal mountEnv μ _ Unit)
      fun file _ seen => MountpointLook activation file seen := by
  unfold revalidateMountpointIdentity statPath
  refine Looks.check fun _ hroot => Looks.check fun _ _ => ?_
  have hroot := refuse_eq_ok_iff.mp hroot
  simp only [not_or, not_not, ne_eq] at hroot
  obtain ⟨-, huid, hmode⟩ := hroot
  refine Looks.bind (inspectDescent_looks _ _ _ _) fun _ => ?_
  refine Looks.call_then (mountAsk_looks (.symlinkMetadata _) rfl) fun metadata => ?_
  refine Looks.check fun _ hsame => (requireEmptyDirectory_looks _ _).mono ?_
  have hsame := refuse_eq_ok_iff.mp hsame
  simp only [not_or, not_not, ne_eq] at hsame
  obtain ⟨hlink, hdir, hdev, hino, howner, hperm⟩ := hsame
  have hfrozen : FrozenDirectory activation metadata := by
    refine ⟨hdir, Bool.eq_false_iff.mpr hlink, hdev, hino, howner.trans huid, ?_⟩
    simp [FileMetadata.writableByOthers, hperm, hmode]
  intro file _ seen hseen descent hdescent
  subst hseen
  exact ⟨descent, metadata, hdescent, hfrozen, rfl⟩

end Calls

section Preparation

variable [Fingerprint] {μ : Type} {create : ProductionCreateActivationIntent}
  {activation : ProductionCreateMountActivationIntent}

/-- The frozen source is the UUID. -/
theorem validateActivationBinding_source (h : validateActivationBinding create activation = .ok ()) :
    activation.fstabSource = uuidSource activation.filesystemUuid := by
  unfold validateActivationBinding at h
  obtain ⟨-, h⟩ := check_eq_ok_iff.mp h
  obtain ⟨_, -, h⟩ := bind_eq_ok_iff.mp h
  simp only [refuse_eq_ok_iff, not_or, not_not, ne_eq] at h
  obtain ⟨-, -, -, -, hsource, -⟩ := h
  exact hsource

/-- What a preflight that succeeded has seen. -/
def PreflightLook (create : ProductionCreateActivationIntent)
    (activation : ProductionCreateMountActivationIntent)
    (file : File ProductionCreateMountRuntimeJournal) (seen : List LogEntry) : Prop :=
  ∃ snapshot look, validateFreshSnapshot create activation snapshot = .ok () ∧
    MountpointLook activation file look ∧ seen = discovered file snapshot :: look

theorem prepareFromSnapshot_looks (snapshot : HostSnapshot) :
    Looks mountDiscipline
      (prepareFromSnapshot create activation snapshot :
        FileProc ProductionCreateMountRuntimeJournal mountEnv μ _ _)
      fun file _ look => activation.fstabSource = uuidSource activation.filesystemUuid ∧
        validateFreshSnapshot create activation snapshot = .ok () ∧
        MountpointLook activation file look := by
  unfold prepareFromSnapshot
  refine Looks.check fun _ hbound => Looks.check fun _ hfresh => ?_
  refine ((revalidateMountpointIdentity_looks activation).then_keeps fun _ => ?_).mono ?_
  · exact Proc.Keeps.bind (orFail_keeps (silent_ask rfl)) fun _ => Proc.Keeps.pure _
  · intro file _ look ⟨_, hlook⟩
    exact ⟨validateActivationBinding_source hbound, hfresh, hlook⟩

theorem prepareProductionCreateMountRuntimePreflight_looks :
    Looks mountDiscipline
      (prepareProductionCreateMountRuntimePreflight create activation :
        FileProc ProductionCreateMountRuntimeJournal mountEnv μ _ _)
      fun file _ seen => activation.fstabSource = uuidSource activation.filesystemUuid ∧
        PreflightLook create activation file seen := by
  unfold prepareProductionCreateMountRuntimePreflight
  refine Looks.call_then (mountAsk_looks .discoverSnapshot rfl) fun snapshot => ?_
  refine (prepareFromSnapshot_looks snapshot).mono fun file _ look hlook => ?_
  obtain ⟨hsource, hfresh, hlook⟩ := hlook
  exact ⟨hsource, snapshot, look, hfresh, hlook, rfl⟩

omit [Fingerprint] in
theorem validateOpenMountTool_keeps (file : Nat) (identity : TrustedToolIdentity) :
    Proc.Keeps (Silent mountDiscipline) (validateOpenMountTool file identity :
      FileProc ProductionCreateMountRuntimeJournal mountEnv μ _ Unit) := by
  unfold validateOpenMountTool
  refine Proc.Keeps.bind (orFail_keeps (silent_ask rfl)) fun _ => ?_
  refine Proc.Keeps.bind (Proc.Keeps.lift _) fun _ => Proc.Keeps.bind (Proc.Keeps.lift _) fun _ => ?_
  exact Proc.Keeps.bind (orFail_keeps (silent_ask rfl)) fun _ => Proc.Keeps.lift _

theorem revalidate_keeps (tool : PinnedProductionCreateMountTool)
    (preflight : ProductionCreateMountRuntimePreflightReceipt) :
    Proc.Keeps (Silent mountDiscipline) (tool.revalidate preflight :
      FileProc ProductionCreateMountRuntimeJournal mountEnv μ _ Unit) := by
  unfold PinnedProductionCreateMountTool.revalidate
  refine Proc.Keeps.bind (Proc.Keeps.lift _) fun _ => Proc.Keeps.bind (Proc.Keeps.lift _) fun _ => ?_
  exact validateOpenMountTool_keeps _ _

/-- mount on the open executable, with nothing in its environment but the fixed path and locale. -/
def mountStage (mountFile : Nat) (filesystem source mountpoint : String) : DescriptorStage Nat :=
  ⟨mountFile, .mount, ["mount", "-n", "-t", filesystem, "-o", "rw", source, mountpoint], fixedPath,
    fixedLocale, none⟩

omit [Fingerprint] in
theorem exactMountArgv_ok {argv : List String}
    (h : exactMountArgv activation.filesystem activation.fstabSource activation.mountpoint =
      .ok argv) : argv = ["mount", "-n", "-t", activation.filesystem, "-o", "rw",
        activation.fstabSource, activation.mountpoint] := by
  unfold exactMountArgv at h
  obtain ⟨-, h⟩ := check_eq_ok_iff.mp h
  cases h
  rfl

/-- The launch of a mount, and another look at the mountpoint. -/
theorem buildProductionCreateMountRuntimeLaunchSpec_looks
    (preflight : ProductionCreateMountRuntimePreflightReceipt)
    (tool : PinnedProductionCreateMountTool) :
    Looks mountDiscipline
      (buildProductionCreateMountRuntimeLaunchSpec activation preflight tool :
        FileProc ProductionCreateMountRuntimeJournal mountEnv μ _ _)
      fun file launch look => MountpointLook activation file look ∧ ∀ mountFile,
        launch.stage mountFile = mountStage mountFile activation.filesystem activation.fstabSource
          activation.mountpoint := by
  unfold buildProductionCreateMountRuntimeLaunchSpec
  refine Looks.check fun _ _ => Looks.after_keeps (revalidate_keeps tool preflight).mapError
    fun _ => ?_
  refine Looks.bind (revalidateMountpointIdentity_looks activation).mapError fun _ => ?_
  refine Looks.check fun argv hargv => Looks.after_keeps (orFail_keeps (silent_ask rfl)) fun elf => ?_
  refine Looks.pure fun file look hlook => ?_
  obtain rfl := exactMountArgv_ok hargv
  rw [List.append_nil]
  exact ⟨hlook, fun _ => rfl⟩

end Preparation

section Discovery

variable {μ : Type} {create : ProductionCreateActivationIntent}
  {activation : ProductionCreateMountActivationIntent}

/-- The last snapshot of a discovery that succeeds passed. The induction is on the attempts that
are left. -/
theorem discoverExactMount_looks : ∀ (attempts : Nat)
    (last : Option (String ⊕ ProductionCreateMountRuntimeExecutionError)), Looks mountDiscipline
      (discoverExactMount create activation attempts last :
        FileProc ProductionCreateMountRuntimeJournal mountEnv μ _ Unit)
      fun file _ seen => ∃ snapshot,
        verifyMountedSnapshot create activation snapshot = .ok () ∧
        seen = [discovered file snapshot] := by
  intro attempts
  induction attempts with
  | zero => exact fun _ => Looks.throw
  | succ attempts ih =>
    intro last
    unfold discoverExactMount
    refine Looks.fewer (Looks.bind (mountAsk_looks .discoverSnapshot rfl) fun answer => ?_)
    -- the calls of the attempts before the last are not told
    have later : ∀ last, Looks mountDiscipline (discoverExactMount create activation attempts last :
        FileProc ProductionCreateMountRuntimeJournal mountEnv μ _ Unit) fun file _ rest =>
        ∀ first, first = [⟨.inr MountOp.discoverSnapshot, answer, file⟩] →
          ∃ told, List.Sublist told (first ++ rest) ∧ ∃ snapshot,
            verifyMountedSnapshot create activation snapshot = .ok () ∧
            told = [discovered file snapshot] :=
      fun last => (ih last).mono fun _ _ rest hrest first _ =>
        ⟨rest, List.sublist_append_right first rest, hrest⟩
    cases answer with
    | error e => exact later _
    | ok snapshot =>
      dsimp only
      split
      · rename_i hok
        refine Looks.pure fun file first hfirst => ⟨first, ?_, snapshot, hok, hfirst⟩
        exact List.sublist_append_left first []
      · exact Looks.throw
      · exact later _

end Discovery

end StorageManager.Executor.Create.Mount
