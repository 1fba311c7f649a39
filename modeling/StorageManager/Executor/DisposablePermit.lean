import StorageManager.Executor.ArgvAgreement
import StorageManager.Executor.SwapHost

/-!
# Permits of the rehearsal

A command of the rehearsal is bound to the loop device that the harness owns. The permit is
issued on the ownership proof, on the fresh identity of the target and, after the first step, on
a boundary that was verified. What a permit can touch.
-/

namespace StorageManager.Executor

open Lib.Checks
open Planner
open Planner.ExecutionGuard
open Swap (pathComponents pathParent samePath)

set_option autoImplicit false

section Commands

structure DisposableCommandPlan where
  sourceManifestId : String
  nativeManifestDigest : String
  freshIdentityDigest : String
  commands : List DisposableCommandSpec
  deriving DecidableEq

namespace Disposable

/-- The mutation sequences that the first profile knows. -/
def supportedProfile : List NativeOperationSpec → Bool
  | [.extendLogicalVolume .., .growFilesystem ..] => true
  | [.resizePhysicalVolume .., .extendLogicalVolume .., .growFilesystem ..] => true
  | [.extendPartition .., .resizePhysicalVolume .., .extendLogicalVolume ..,
      .growFilesystem ..] => true
  | _ => false

def mutationSteps (validated : ValidatedNativeManifest) : List NativeCompiledStep :=
  validated.manifest.steps.filter (·.role == .mutationCandidate)

/-- What the growth of a filesystem asks before it is compiled for a verified boundary. -/
def growthProven (freshIdentity : TargetIdentityManifest) : Except DisposableArgvError Unit := do
  let filesystem ← okOr freshIdentity.filesystem .filesystemIdentityMissing
  let observed ← okOr filesystem.observedFilesystemSizeBytes .filesystemGrowthNotProven
  refuse (observed = 0 ∨ filesystem.backingDeviceSizeBytes ≤ observed) .filesystemGrowthNotProven

def compileNextStep (step : NativeCompiledStep) (freshIdentity : TargetIdentityManifest) :
    Except DisposableArgvError DisposableCommandSpec :=
  match step.operation with
  | .resizePhysicalVolume .. | .extendLogicalVolume .. =>
    compileStep step.planStepId step.operation freshIdentity
  | .growFilesystem .. => do
    growthProven freshIdentity
    compileStep step.planStepId step.operation freshIdentity
  | _ => .error .unsupportedMutationProfile

variable [Fingerprint]

def compileDisposableLvmGrowthCommands (validated : ValidatedNativeManifest)
    (freshIdentity : TargetIdentityManifest) :
    Except DisposableArgvError DisposableCommandPlan := do
  let commands ← collect (fun step => compileStep step.planStepId step.operation freshIdentity)
    (mutationSteps validated)
  refuse (¬supportedProfile ((mutationSteps validated).map (·.operation)))
    .unsupportedMutationProfile
  pure
    { sourceManifestId := validated.manifest.sourceManifestId
      nativeManifestDigest := validated.digest
      freshIdentityDigest := freshIdentity.manifestDigest
      commands := commands }

def compileVerifiedDisposableNextCommand (validated : ValidatedNativeManifest)
    (freshIdentity : TargetIdentityManifest) (planStepId : Nat) :
    Except DisposableArgvError DisposableCommandPlan := do
  let steps := mutationSteps validated
  let position ← okOr (steps.findIdx? (·.planStepId == planStepId)) .unsupportedMutationProfile
  let step ← okOr steps[position]? .unsupportedMutationProfile
  let previous ← okOr steps[position - 1]? .unsupportedMutationProfile
  refuse (position = 0 ∨ previous.planStepId ∉ step.dependsOn) .unsupportedMutationProfile
  let command ← compileNextStep step freshIdentity
  pure
    { sourceManifestId := validated.manifest.sourceManifestId
      nativeManifestDigest := validated.digest
      freshIdentityDigest := freshIdentity.manifestDigest
      commands := [command] }

end Disposable

end Commands

section Ownership

structure DisposableLoopOwnershipProof where
  loopDevice : String
  backingFile : String
  backingDev : Nat
  backingIno : Nat
  ownedRoot : String
  deriving DecidableEq

structure DisposableLoopAssociation where
  loopDevice : String
  backingFile : String
  deriving DecidableEq

inductive DisposableOwnershipError where
  | invalidLoopDevice
  | backingFileOutsideOwnedRoot
  | backingFileNotRegular
  | backingFileIdentityChanged
  | metadata (text : String)
  deriving DecidableEq

structure BackingMetadata where
  isSymlink : Bool
  isFile : Bool
  dev : Nat
  ino : Nat

/-- What the file system answers about the backing file. -/
structure BackingFiles where
  canonicalize : String → Except String String
  symlinkMetadata : String → Except String BackingMetadata

namespace Disposable

def validLoopPath (value : String) : Bool :=
  (stripStart value "/dev/loop").any fun suffix => suffix ≠ [] && suffix.all Char.isDigit

def revalidateDisposableLoopOwnership (files : BackingFiles)
    (proof : DisposableLoopOwnershipProof) : Except DisposableOwnershipError Unit := do
  refuse (¬validLoopPath proof.loopDevice) .invalidLoopDevice
  let parent ← okOr (pathParent proof.backingFile) .backingFileOutsideOwnedRoot
  let canonicalParent ← (files.canonicalize parent).mapError
    fun error => .metadata s!"{parent}: {error}"
  refuse (¬samePath canonicalParent proof.ownedRoot) .backingFileOutsideOwnedRoot
  let info ← (files.symlinkMetadata proof.backingFile).mapError
    fun error => .metadata s!"{proof.backingFile}: {error}"
  refuse (info.isSymlink ∨ ¬info.isFile) .backingFileNotRegular
  refuse (info.dev ≠ proof.backingDev ∨ info.ino ≠ proof.backingIno) .backingFileIdentityChanged

end Disposable

end Ownership

section Permits

structure DisposableExecutionPermit where
  sourceManifestId : String
  nativeManifestDigest : String
  freshIdentityDigest : String
  executionId : String
  loopDevice : String
  command : DisposableCommandSpec
  ownership : DisposableLoopOwnershipProof
  deriving DecidableEq

structure DisposableVerifiedBoundary where
  executionId : String
  completedStepId : Nat
  nextStepId : Nat
  freshIdentityDigest : String
  deriving DecidableEq

inductive DisposablePermitError where
  | freshIdentityBindingMismatch
  | associationOwnershipMismatch
  | targetNotOwnedByLoop
  | executionBindingMismatch
  | executionBindingIntegrityMismatch
  | executionStepNotNext (planStepId : Nat)
  | verifiedBoundaryMismatch
  | verifiedCommand (source : DisposableArgvError)
  | commandStepNotUnique (planStepId : Nat)
  | ownership (source : DisposableOwnershipError)
  deriving DecidableEq

namespace Disposable

def belongsToLoop (path loopPath : String) : Bool :=
  path == loopPath || (stripStart path loopPath).any fun suffix => match suffix with
    | 'p' :: digits => digits ≠ [] && digits.all Char.isDigit
    | _ => false

def isPhysicalVolume (entry : LvmIdentity) : Bool := entry.kind == .physicalVolume

def verifyTargetOwnedByLoop (identity : TargetIdentityManifest) (loopDevice : String) :
    Except DisposablePermitError Unit := do
  let chainHasLoop := identity.devices.any (·.path == loopDevice)
  let foreignLoop := (identity.devices.filter (startsWith ·.path "/dev/loop")).any
    (!belongsToLoop ·.path loopDevice)
  let pv ← unique isPhysicalVolume identity.lvm .targetNotOwnedByLoop
  refuse (¬chainHasLoop ∨ foreignLoop ∨ ¬belongsToLoop pv.name loopDevice) .targetNotOwnedByLoop

def verifyAssociation (ownership : DisposableLoopOwnershipProof)
    (association : DisposableLoopAssociation) : Except DisposablePermitError Unit :=
  refuse (association.loopDevice ≠ ownership.loopDevice ∨
    ¬samePath association.backingFile ownership.backingFile) .associationOwnershipMismatch

variable [Fingerprint]

def bindDisposableExecutionPermit (files : BackingFiles) (plan : DisposableCommandPlan)
    (freshIdentity : TargetIdentityManifest) (ownership : DisposableLoopOwnershipProof)
    (association : DisposableLoopAssociation) (execution : ExecutionStartBinding)
    (planStepId : Nat) : Except DisposablePermitError DisposableExecutionPermit := do
  (revalidateDisposableLoopOwnership files ownership).mapError .ownership
  refuse (plan.freshIdentityDigest ≠ freshIdentity.manifestDigest) .freshIdentityBindingMismatch
  verifyAssociation ownership association
  verifyTargetOwnedByLoop freshIdentity ownership.loopDevice
  refuse (execution.schemaVersion ≠ 1 ∨ ¬execution.integrityMatches)
    .executionBindingIntegrityMismatch
  refuse (execution.sourceManifestId ≠ plan.sourceManifestId ∨
    execution.nativeManifestDigest ≠ plan.nativeManifestDigest ∨
    execution.freshIdentityDigest ≠ plan.freshIdentityDigest) .executionBindingMismatch
  refuse (execution.mutationStepIds.head? ≠ some planStepId) (.executionStepNotNext planStepId)
  let command ← unique (·.planStepId == planStepId) plan.commands (.commandStepNotUnique planStepId)
  pure
    { sourceManifestId := plan.sourceManifestId
      nativeManifestDigest := plan.nativeManifestDigest
      freshIdentityDigest := plan.freshIdentityDigest
      executionId := execution.executionId
      loopDevice := ownership.loopDevice
      command := command
      ownership := ownership }

/-- The two steps follow each other in the execution. -/
def orderedPair (mutationStepIds : List Nat) (boundary : DisposableVerifiedBoundary) : Bool :=
  (mutationStepIds.zip mutationStepIds.tail).any fun pair =>
    pair.1 == boundary.completedStepId && pair.2 == boundary.nextStepId

def bindVerifiedDisposableExecutionPermit (files : BackingFiles)
    (validated : ValidatedNativeManifest) (freshIdentity : TargetIdentityManifest)
    (ownership : DisposableLoopOwnershipProof) (association : DisposableLoopAssociation)
    (execution : ExecutionStartBinding) (boundary : DisposableVerifiedBoundary) :
    Except DisposablePermitError DisposableExecutionPermit := do
  (revalidateDisposableLoopOwnership files ownership).mapError .ownership
  verifyAssociation ownership association
  verifyTargetOwnedByLoop freshIdentity ownership.loopDevice
  refuse (execution.schemaVersion ≠ 1 ∨ ¬execution.integrityMatches)
    .executionBindingIntegrityMismatch
  refuse (execution.sourceManifestId ≠ validated.manifest.sourceManifestId ∨
    execution.nativeManifestDigest ≠ validated.digest) .executionBindingMismatch
  refuse (boundary.executionId ≠ execution.executionId ∨
    boundary.freshIdentityDigest ≠ freshIdentity.manifestDigest ∨
    ¬orderedPair execution.mutationStepIds boundary) .verifiedBoundaryMismatch
  let plan ← (compileVerifiedDisposableNextCommand validated freshIdentity
    boundary.nextStepId).mapError .verifiedCommand
  match plan.commands with
  | [command] => do
    refuse (command.planStepId ≠ boundary.nextStepId) (.commandStepNotUnique boundary.nextStepId)
    pure
      { sourceManifestId := plan.sourceManifestId
        nativeManifestDigest := plan.nativeManifestDigest
        freshIdentityDigest := plan.freshIdentityDigest
        executionId := execution.executionId
        loopDevice := ownership.loopDevice
        command := command
        ownership := ownership }
  | _ => .error (.commandStepNotUnique boundary.nextStepId)

end Disposable

end Permits

section Containment

namespace Disposable

variable {path disk loop number : String} {suffix : List Char}

/-- The kernel's name of a partition: a `p` stands between the number and a digit. -/
def partitionPath (disk number : String) : String :=
  if disk.toList.getLast?.any Char.isDigit then disk ++ "p" ++ number else disk ++ number

/-- The disk, the partition or the physical volume that a program is told to change. -/
def touchedBy : String × List String → List String
  | ("sfdisk", [_, _, _, _, number, disk]) => [disk, partitionPath disk number]
  | ("partx", [_, _, number, disk]) => [disk, partitionPath disk number]
  | ("pvresize", [_, _, _, _, name]) => [name]
  | _ => []

def touched (line : CommandLine) : List String :=
  touchedBy (line.program, line.args) ++ line.kernelRefresh.toList.flatMap touchedBy

def isBlockLayer (kind : Core.NodeKind) : Bool := kind == .disk || kind == .partition || kind == .loop

/-- The target is rooted exclusively in the loop device. -/
structure InsideLoop (command : DisposableCommandSpec) (identity : TargetIdentityManifest)
    (loop : String) : Prop where
  changes : ∀ path ∈ touched command.line, belongsToLoop path loop = true
  chain : ∀ device ∈ identity.devices, isBlockLayer device.kind = true →
    belongsToLoop device.path loop = true
  physicalVolumes : ∀ entry ∈ identity.lvm, isPhysicalVolume entry = true →
    belongsToLoop entry.name loop = true

/-- No disk and no partition of the chain goes by another name than a loop device's. -/
def ChainUnderLoops (identity : TargetIdentityManifest) : Prop :=
  ∀ device ∈ identity.devices, isBlockLayer device.kind = true →
    startsWith device.path "/dev/loop" = true

/-- The record that the operation is compiled from is one of the loop device. -/
def OnLoop (identity : TargetIdentityManifest) (loop : String) : NativeOperationSpec → Prop
  | .extendPartition partition .. =>
    ∀ record ∈ identity.partitions, record.partition = partition → record.disk = some loop
  | .resizePhysicalVolume pvUuid _ =>
    ∀ pv ∈ identity.lvm, isLvmRecord .physicalVolume pvUuid pv = true →
      belongsToLoop pv.name loop = true
  | _ => True

theorem stripStart_eq_some_iff {value start : String} :
    stripStart value start = some suffix ↔ value.toList = start.toList ++ suffix := by
  unfold stripStart startsWith
  split
  case isTrue h =>
    obtain ⟨rest, hrest⟩ := List.isPrefixOf_iff_prefix.mp h
    rw [← hrest, List.drop_left, Option.some.injEq, List.append_cancel_left_eq]
  case isFalse h =>
    simp only [reduceCtorEq, false_iff]
    intro heq
    exact h (List.isPrefixOf_iff_prefix.mpr ⟨suffix, heq.symm⟩)

theorem belongsToLoop_iff : belongsToLoop path loop = true ↔
    path = loop ∨ ∃ digits, digits ≠ [] ∧ (∀ c ∈ digits, c.isDigit = true) ∧
      path.toList = loop.toList ++ 'p' :: digits := by
  simp only [belongsToLoop, Bool.or_eq_true, beq_iff_eq, Option.any_eq_true,
    stripStart_eq_some_iff]
  apply or_congr_right
  constructor
  · rintro ⟨suffix, hsuffix, hdigits⟩
    split at hdigits
    case h_1 digits =>
      simp only [ne_eq, Bool.and_eq_true, decide_eq_true_eq, List.all_eq_true] at hdigits
      exact ⟨digits, hdigits.1, hdigits.2, hsuffix⟩
    case h_2 => cases hdigits
  · rintro ⟨digits, hne, hall, hpath⟩
    exact ⟨_, hpath, by simpa [hne] using hall⟩

/-- The digits that a valid loop path ends with. -/
theorem exists_digits_of_validLoopPath (h : validLoopPath loop = true) :
    ∃ digits, digits ≠ [] ∧ (∀ c ∈ digits, c.isDigit = true) ∧
      loop.toList = "/dev/loop".toList ++ digits := by
  simp only [validLoopPath, Option.any_eq_true, stripStart_eq_some_iff, Bool.and_eq_true,
    decide_eq_true_eq, List.all_eq_true] at h
  obtain ⟨digits, hloop, hne, hall⟩ := h
  exact ⟨digits, hne, hall, hloop⟩

theorem getLast?_isDigit {start digits : List Char} (hne : digits ≠ [])
    (hall : ∀ c ∈ digits, c.isDigit = true) :
    (start ++ digits).getLast?.any Char.isDigit = true := by
  rw [List.getLast?_append_of_ne_nil _ hne, List.getLast?_eq_some_getLast hne]
  exact hall _ (List.getLast_mem hne)

theorem startsWith_of_belongsToLoop (hloop : validLoopPath loop = true)
    (h : belongsToLoop path loop = true) : startsWith path "/dev/loop" = true := by
  obtain ⟨digits, -, -, hdigits⟩ := exists_digits_of_validLoopPath hloop
  rw [startsWith, List.isPrefixOf_iff_prefix]
  rcases belongsToLoop_iff.mp h with rfl | ⟨more, -, -, hpath⟩
  · exact ⟨digits, hdigits.symm⟩
  · refine ⟨digits ++ 'p' :: more, ?_⟩
    rw [hpath, hdigits, List.append_assoc]

/-- The partitions of a disk are inside the loop device when the disk is the loop device; a
partition of the loop device has no partition that is. -/
theorem belongsToLoop_partitionPath_iff (hloop : validLoopPath loop = true)
    (hne : number.toList ≠ []) (hdigits : ∀ c ∈ number.toList, c.isDigit = true) :
    belongsToLoop disk loop = true ∧ belongsToLoop (partitionPath disk number) loop = true ↔
      disk = loop := by
  constructor
  · rintro ⟨hdisk, hpartition⟩
    rcases belongsToLoop_iff.mp hdisk with rfl | ⟨digits, hdigitsNe, hall, hpath⟩
    · rfl
    · have hlast : disk.toList.getLast?.any Char.isDigit = true := by
        rw [hpath, List.append_cons]
        exact getLast?_isDigit hdigitsNe hall
      rw [partitionPath, if_pos hlast] at hpartition
      have hname : (disk ++ "p" ++ number).toList =
          loop.toList ++ 'p' :: (digits ++ 'p' :: number.toList) := by
        simp [String.toList_append, hpath]
      rcases belongsToLoop_iff.mp hpartition with heq | ⟨more, -, hmore, hmorePath⟩
      · rw [heq] at hname
        have hlength := congrArg List.length hname
        simp at hlength
      · rw [hname, List.append_cancel_left_eq, List.cons.injEq] at hmorePath
        have hp : Char.isDigit 'p' = true := hmore 'p' (by simp [← hmorePath.2])
        exact absurd hp (by decide)
  · rintro rfl
    obtain ⟨digits, hdigitsNe, hall, hpath⟩ := exists_digits_of_validLoopPath hloop
    have hlast : disk.toList.getLast?.any Char.isDigit = true := by
      rw [hpath]
      exact getLast?_isDigit hdigitsNe hall
    refine ⟨belongsToLoop_iff.mpr (.inl rfl), belongsToLoop_iff.mpr (.inr ?_)⟩
    refine ⟨number.toList, hne, hdigits, ?_⟩
    rw [partitionPath, if_pos hlast]
    simp [String.toList_append]

theorem toString_digits (n : Nat) :
    (toString n).toList ≠ [] ∧ ∀ c ∈ (toString n).toList, c.isDigit = true := by
  have hdigits : (toString n).toList = Nat.toDigits 10 n := Nat.toList_repr
  rw [hdigits]
  exact ⟨Nat.toDigits_ne_nil, fun c hc => Nat.isDigit_of_mem_toDigits (by decide) (by decide) hc⟩

section Compiled

variable {identity : TargetIdentityManifest} {operation : NativeOperationSpec} {planStepId : Nat}
  {command : DisposableCommandSpec}

/-- What a compiled command touches is inside the loop device when the record is. -/
theorem compileStep_touched_iff (hloop : validLoopPath loop = true)
    (h : compileStep planStepId operation identity = .ok command) :
    (∀ path ∈ touched command.line, belongsToLoop path loop = true) ↔
      OnLoop identity loop operation := by
  obtain ⟨target, hfits, -, hline⟩ := compileStep_line_iff.mp ⟨command, h, rfl⟩
  rw [← hline]
  cases hfits with
  | @partition partition disk start old new sector number geometry _ record parent =>
    have hmem := mem_of_filter_eq_singleton record
    have hrecord : OnLoop identity loop (.extendPartition partition start old new sector) ↔ disk = loop := by
      constructor
      · intro honLoop
        have hgeometry := honLoop geometry hmem.1 (beq_iff_eq.mp hmem.2)
        exact Option.some.inj (parent.symm.trans hgeometry)
      · rintro rfl other hother hname
        rw [eq_of_filter_eq_singleton record hother (beq_iff_eq.mpr hname)]
        exact parent
    rw [hrecord, ← belongsToLoop_partitionPath_iff hloop (toString_digits number).1
      (toString_digits number).2]
    -- the kernel is told about the disk and the partition that were named before
    constructor
    · intro hall
      exact ⟨hall _ List.mem_cons_self, hall _ (.tail _ List.mem_cons_self)⟩
    · rintro ⟨hdisk, hpartition⟩
      have hnamed : belongsToLoop (partitionPath disk number.repr) loop = true := hpartition
      simp [touched, touchedBy, GrowthTarget.line, hdisk, hnamed]
  | physicalVolume record =>
    have hmem := mem_of_filter_eq_singleton record
    simp only [touched, touchedBy, GrowthTarget.line, Option.toList_none, List.flatMap_nil,
      List.append_nil, List.forall_mem_singleton, OnLoop]
    constructor
    · intro hname other hother hrecord
      rwa [eq_of_filter_eq_singleton record hother hrecord]
    · intro honLoop
      exact honLoop _ hmem.1 hmem.2
  | logicalVolume => simp [touched, touchedBy, GrowthTarget.line, OnLoop]
  | ext4 => simp [touched, touchedBy, GrowthTarget.line, OnLoop]
  | xfs => simp [touched, touchedBy, GrowthTarget.line, OnLoop]

theorem compileStep_planStepId (h : compileStep planStepId operation identity = .ok command) :
    command.planStepId = planStepId := by
  obtain ⟨target, hfits, -, hline⟩ := compileStep_line_iff.mp ⟨command, h, rfl⟩
  have hid : command.line.planStepId = planStepId := by
    rw [← hline]
    cases hfits <;> rfl
  exact hid

theorem compileNextStep_ok {step : NativeCompiledStep}
    (h : compileNextStep step identity = .ok command) :
    compileStep step.planStepId step.operation identity = .ok command ∧
      ∀ partition start old new sector,
        step.operation ≠ .extendPartition partition start old new sector := by
  unfold compileNextStep at h
  split at h
  case h_1 hop => exact ⟨h, by simp [hop]⟩
  case h_2 hop => exact ⟨h, by simp [hop]⟩
  case h_3 hop => exact ⟨(check_eq_ok_iff.mp h).2, by simp [hop]⟩
  case h_4 => cases h

end Compiled

section Issue

variable {files : BackingFiles} {identity planIdentity fresh : TargetIdentityManifest}
  {ownership : DisposableLoopOwnershipProof} {association : DisposableLoopAssociation}
  {permit : DisposableExecutionPermit}

theorem validLoopPath_of_revalidated
    (h : revalidateDisposableLoopOwnership files ownership = .ok ()) :
    validLoopPath ownership.loopDevice = true := by
  have hrefused := (check_eq_ok_iff.mp h).1
  simpa using hrefused

theorem verifyTargetOwnedByLoop_iff : verifyTargetOwnedByLoop identity loop = .ok () ↔
    (∃ device ∈ identity.devices, device.path = loop) ∧
    (∀ device ∈ identity.devices, startsWith device.path "/dev/loop" = true →
      belongsToLoop device.path loop = true) ∧
    ∃ pv, identity.lvm.filter isPhysicalVolume = [pv] ∧ belongsToLoop pv.name loop = true := by
  simp only [verifyTargetOwnedByLoop, bind_eq_ok_iff, unique_eq_ok_iff, refuse_eq_ok_iff, not_or,
    not_not, List.any_eq_true, beq_iff_eq, List.mem_filter, Bool.not_eq_true', not_exists,
    not_forall_not, not_and (a := _ ∈ _ ∧ _), Bool.not_eq_false, and_imp]
  constructor
  · rintro ⟨pv, hpv, hdevice, hforeign, hname⟩
    exact ⟨hdevice, hforeign, pv, hpv, hname⟩
  · rintro ⟨hdevice, hforeign, pv, hpv, hname⟩
    exact ⟨pv, hpv, hdevice, hforeign, hname⟩

/-- Past the ownership test, only the names in the chain are left to ask about. -/
theorem insideLoop_iff {command : DisposableCommandSpec} (hloop : validLoopPath loop = true)
    (h : verifyTargetOwnedByLoop identity loop = .ok ()) :
    InsideLoop command identity loop ↔
      ChainUnderLoops identity ∧ ∀ path ∈ touched command.line, belongsToLoop path loop = true := by
  obtain ⟨-, hforeign, pv, hpv, hname⟩ := verifyTargetOwnedByLoop_iff.mp h
  constructor
  · intro hinside
    refine ⟨fun device hdevice hkind => ?_, hinside.changes⟩
    exact startsWith_of_belongsToLoop hloop (hinside.chain device hdevice hkind)
  · rintro ⟨hchain, hchanges⟩
    refine ⟨hchanges, fun device hdevice hkind => ?_, fun entry hentry hkind => ?_⟩
    · exact hforeign device hdevice (hchain device hdevice hkind)
    · rwa [eq_of_filter_eq_singleton hpv hentry hkind]

variable [Fingerprint] {validated : ValidatedNativeManifest} {execution : ExecutionStartBinding}
  {plan : DisposableCommandPlan} {planStepId : Nat}

/-- A permit for a step of a manifest: the first from a plan, which was compiled for some
identity, every later one from a verified boundary. -/
inductive Issued (files : BackingFiles) (validated : ValidatedNativeManifest)
    (ownership : DisposableLoopOwnershipProof) (fresh : TargetIdentityManifest) :
    TargetIdentityManifest → Nat → DisposableExecutionPermit → Prop
  | first {planIdentity : TargetIdentityManifest} {plan : DisposableCommandPlan}
      {association : DisposableLoopAssociation} {execution : ExecutionStartBinding}
      {planStepId : Nat} {permit : DisposableExecutionPermit}
      (compiled : compileDisposableLvmGrowthCommands validated planIdentity = .ok plan)
      (bound : bindDisposableExecutionPermit files plan fresh ownership association execution
        planStepId = .ok permit) :
      Issued files validated ownership fresh planIdentity planStepId permit
  | next {association : DisposableLoopAssociation} {execution : ExecutionStartBinding}
      {boundary : DisposableVerifiedBoundary} {permit : DisposableExecutionPermit}
      (bound : bindVerifiedDisposableExecutionPermit files validated fresh ownership association
        execution boundary = .ok permit) :
      Issued files validated ownership fresh fresh boundary.nextStepId permit

/-- What every permit rests on. -/
structure Permitted (files : BackingFiles) (validated : ValidatedNativeManifest)
    (ownership : DisposableLoopOwnershipProof) (fresh planIdentity : TargetIdentityManifest)
    (planStepId : Nat) (permit : DisposableExecutionPermit) (step : NativeCompiledStep) :
    Prop where
  loop : validLoopPath ownership.loopDevice = true
  owned : verifyTargetOwnedByLoop fresh ownership.loopDevice = .ok ()
  step_mem : step ∈ mutationSteps validated
  step_id : step.planStepId = planStepId
  command : compileStep step.planStepId step.operation planIdentity = .ok permit.command

theorem compiled_command {command : DisposableCommandSpec}
    (h : compileDisposableLvmGrowthCommands validated planIdentity = .ok plan)
    (hcommand : command ∈ plan.commands) :
    ∃ step ∈ mutationSteps validated, step.planStepId = command.planStepId ∧
      compileStep step.planStepId step.operation planIdentity = .ok command := by
  simp only [compileDisposableLvmGrowthCommands, bind_eq_ok_iff, exists_check_iff,
    collect_eq_ok_iff] at h
  obtain ⟨commands, hcompiled, -, hplan⟩ := h
  rw [← Except.ok.inj hplan] at hcommand
  obtain ⟨step, hstep, hok⟩ := exists_left_of_forall₂ hcompiled hcommand
  exact ⟨step, hstep, (compileStep_planStepId hok).symm, hok⟩

theorem compiled_next (h : compileVerifiedDisposableNextCommand validated fresh planStepId =
    .ok plan) :
    ∃ step ∈ mutationSteps validated, step.planStepId = planStepId ∧
      ∃ command, compileNextStep step fresh = .ok command ∧ plan.commands = [command] := by
  simp only [compileVerifiedDisposableNextCommand, bind_eq_ok_iff, exists_check_iff,
    okOr_eq_ok_iff] at h
  obtain ⟨position, hposition, step, hstep, previous, -, -, command, hok, hplan⟩ := h
  obtain ⟨hlt, hid, -⟩ := List.findIdx?_eq_some_iff_getElem.mp hposition
  obtain ⟨_, heq⟩ := List.getElem?_eq_some_iff.mp hstep
  refine ⟨step, List.mem_of_getElem? hstep, ?_, command, hok, ?_⟩
  · rw [heq] at hid
    exact beq_iff_eq.mp hid
  · rw [← Except.ok.inj hplan]

theorem bindDisposableExecutionPermit_ok
    (h : bindDisposableExecutionPermit files plan fresh ownership association execution
      planStepId = .ok permit) :
    validLoopPath ownership.loopDevice = true ∧
      verifyTargetOwnedByLoop fresh ownership.loopDevice = .ok () ∧
      plan.commands.filter (·.planStepId == planStepId) = [permit.command] := by
  simp only [bindDisposableExecutionPermit, bind_eq_ok_iff, exists_check_iff, mapError_eq_ok_iff,
    unique_eq_ok_iff] at h
  obtain ⟨hvalid, -, -, howned, -, -, -, command, hcommand, hpermit⟩ := h
  rw [← Except.ok.inj hpermit]
  exact ⟨validLoopPath_of_revalidated hvalid, howned, hcommand⟩

theorem bindVerifiedDisposableExecutionPermit_ok {boundary : DisposableVerifiedBoundary}
    (h : bindVerifiedDisposableExecutionPermit files validated fresh ownership association
      execution boundary = .ok permit) :
    validLoopPath ownership.loopDevice = true ∧
      verifyTargetOwnedByLoop fresh ownership.loopDevice = .ok () ∧
      ∃ plan, compileVerifiedDisposableNextCommand validated fresh boundary.nextStepId = .ok plan ∧
        plan.commands = [permit.command] := by
  simp only [bindVerifiedDisposableExecutionPermit, bind_eq_ok_iff, exists_check_iff,
    mapError_eq_ok_iff] at h
  obtain ⟨hvalid, -, howned, -, -, -, plan, hplan, h⟩ := h
  refine ⟨validLoopPath_of_revalidated hvalid, howned, plan, hplan, ?_⟩
  split at h
  case h_1 command hcommands =>
    rw [hcommands, ← Except.ok.inj (check_eq_ok_iff.mp h).2]
  case h_2 => cases h

theorem Issued.permitted (h : Issued files validated ownership fresh planIdentity planStepId
    permit) :
    ∃ step, Permitted files validated ownership fresh planIdentity planStepId permit step := by
  cases h with
  | first compiled bound =>
    obtain ⟨hloop, howned, hcommand⟩ := bindDisposableExecutionPermit_ok bound
    obtain ⟨hmem, hid⟩ := mem_of_filter_eq_singleton hcommand
    obtain ⟨step, hstep, hstepId, hok⟩ := compiled_command compiled hmem
    exact ⟨step, hloop, howned, hstep, hstepId.trans (beq_iff_eq.mp hid), hok⟩
  | next bound =>
    obtain ⟨hloop, howned, plan, hplan, hcommands⟩ :=
      bindVerifiedDisposableExecutionPermit_ok bound
    obtain ⟨step, hstep, hstepId, command, hok, hcommand⟩ := compiled_next hplan
    cases hcommands.symm.trans hcommand
    exact ⟨step, hloop, howned, hstep, hstepId, (compileNextStep_ok hok).1⟩

omit [Fingerprint] in
/-- The steps of a manifest have distinct numbers. -/
theorem eq_of_planStepId {step other : NativeCompiledStep} (hstep : step ∈ mutationSteps validated)
    (hother : other ∈ mutationSteps validated) (h : step.planStepId = other.planStepId) :
    step = other :=
  List.inj_on_of_nodup_map validated.ids.2 (List.mem_of_mem_filter hstep)
    (List.mem_of_mem_filter hother) h

/-- A later permit can only go wrong by the names in the chain: it changes no partition table, and
the one physical volume was looked at. -/
theorem later_permit_inside_loop_iff {boundary : DisposableVerifiedBoundary}
    (bound : bindVerifiedDisposableExecutionPermit files validated fresh ownership association
      execution boundary = .ok permit) :
    InsideLoop permit.command fresh ownership.loopDevice ↔ ChainUnderLoops fresh := by
  obtain ⟨hloop, howned, plan, hplan, hcommands⟩ := bindVerifiedDisposableExecutionPermit_ok bound
  obtain ⟨step, -, -, command, hok, hcommand⟩ := compiled_next hplan
  cases hcommands.symm.trans hcommand
  obtain ⟨hcompiled, htable⟩ := compileNextStep_ok hok
  obtain ⟨-, -, pv, hpv, hname⟩ := verifyTargetOwnedByLoop_iff.mp howned
  have honLoop : OnLoop fresh ownership.loopDevice step.operation := by
    cases hop : step.operation with
    | extendPartition => exact absurd hop (htable _ _ _ _ _)
    | resizePhysicalVolume =>
      intro other hother hrecord
      have hkind : isPhysicalVolume other = true := (Bool.and_eq_true_iff.mp hrecord).1
      rwa [eq_of_filter_eq_singleton hpv hother hkind]
    | _ => trivial
  rw [insideLoop_iff hloop howned, compileStep_touched_iff hloop hcompiled]
  exact and_iff_left honLoop

/-- A permit stays inside the loop device exactly when no disk or partition of the chain goes by
another name, and the record of its step is one of the loop device. -/
theorem permit_inside_loop_iff
    (h : Issued files validated ownership fresh planIdentity planStepId permit) :
    InsideLoop permit.command fresh ownership.loopDevice ↔
      ChainUnderLoops fresh ∧
        ∀ step ∈ mutationSteps validated, step.planStepId = planStepId →
          OnLoop planIdentity ownership.loopDevice step.operation := by
  obtain ⟨step, hpermitted⟩ := h.permitted
  rw [insideLoop_iff hpermitted.loop hpermitted.owned,
    compileStep_touched_iff hpermitted.loop hpermitted.command]
  apply and_congr_right'
  constructor
  · intro honLoop other hother hid
    rwa [eq_of_planStepId hother hpermitted.step_mem (hid.trans hpermitted.step_id.symm)]
  · intro hall
    exact hall step hpermitted.step_mem hpermitted.step_id

end Issue

end Disposable

end Containment

section Samples

open Disposable

def ownedFiles : BackingFiles where
  canonicalize := .ok
  symlinkMetadata := fun _ => .ok ⟨false, true, 1, 7⟩

def ownedLoop : DisposableLoopOwnershipProof where
  loopDevice := "/dev/loop7"
  backingFile := "/img"
  backingDev := 1
  backingIno := 7
  ownedRoot := "/"

theorem splitOn_img : "/img".splitOn "/" = ["", "img"] := by
  have hletter : ∀ i < 4, 0 < i → String.splitOnAux "/img" "/" ⟨1⟩ ⟨i⟩ 0 [""] =
      String.splitOnAux "/img" "/" ⟨1⟩ ⟨i + 1⟩ 0 [""] := by
    intro i hi hpos
    rw [String.splitOnAux]
    have hcases : i = 1 ∨ i = 2 ∨ i = 3 := by omega
    rcases hcases with rfl | rfl | rfl <;> rfl
  calc String.splitOnAux "/img" "/" 0 0 0 []
      = String.splitOnAux "/img" "/" ⟨1⟩ ⟨1⟩ 0 [""] := by
        rw [String.splitOnAux]
        rfl
    _ = String.splitOnAux "/img" "/" ⟨1⟩ ⟨4⟩ 0 [""] := by
        rw [hletter 1 (by omega) (by omega), hletter 2 (by omega) (by omega),
          hletter 3 (by omega) (by omega)]
    _ = ["", "img"] := by
        rw [String.splitOnAux]
        rfl

theorem ownedLoop_revalidated :
    revalidateDisposableLoopOwnership ownedFiles ownedLoop = .ok () := by
  have hcomponents : pathComponents "/img" = ["img"] := by
    rw [pathComponents, splitOn_img]
    rfl
  have hparent : pathParent "/img" = some "/" := by
    rw [pathParent, hcomponents]
    rfl
  simp only [revalidateDisposableLoopOwnership, bind_eq_ok_iff, exists_check_iff, okOr_eq_ok_iff,
    mapError_eq_ok_iff, refuse_eq_ok_iff, not_not]
  have hroot : samePath "/" "/" = true := Swap.samePath_self _
  exact ⟨by decide, "/", hparent, "/", rfl, hroot, _, rfl, by simp, by simp [ownedLoop]⟩

section

variable [Fingerprint]

/-- A partition, the physical volume on it, a logical volume and its filesystem. -/
def layeredManifest (disk : String) : ValidatedNativeManifest where
  manifest :=
    { sourceManifestId := fingerprint (.str "source manifest")
      steps := [⟨1, [], .irreversible, .mutationCandidate,
          .extendPartition s!"{disk}p1" 2048 4096 8192 512⟩,
        ⟨2, [1], .irreversible, .mutationCandidate, .resizePhysicalVolume "pv-1" 4194304⟩,
        ⟨3, [2], .irreversible, .mutationCandidate, .extendLogicalVolume "lv-1" 4 4194304⟩,
        ⟨4, [3], .irreversible, .mutationCandidate, .growFilesystem "ext4" none⟩]
      verificationBarriers := [1, 2, 3, 4].map (⟨·, true, true, true, true, true⟩) }
  valid := rfl

def wholeDevice (kind : Core.NodeKind) (path : String) : DeviceIdentity :=
  ⟨kind, path, none, none, 16777216, none, some 512, none, none, none, none, none⟩

def layerRecord (kind : LvmIdentityKind) (name uuid : String) : LvmIdentity :=
  ⟨kind, name, some uuid, 2097152, none, some 1048576, none, none, none, none, none, none, none⟩

/-- The physical volume is on the loop device, the partition to grow on this disk. -/
def layeredIdentity (disk : String) : TargetIdentityManifest where
  schemaVersion := 1
  target := "/mnt/data"
  manifestDigest := fingerprint (.str "fresh identity")
  resolvedDevice := "/dev/mapper/vg-data"
  routeStatus := .supportedProfile
  routeIssueCodes := []
  devices := [wholeDevice .disk disk, wholeDevice .loop "/dev/loop7"]
  partitions := [⟨s!"{disk}p1", some disk, some "gpt", none, some 512, some 2048, some 4096, none⟩]
  lvm := [layerRecord .physicalVolume "/dev/loop7p1" "pv-1",
    layerRecord .logicalVolume "/dev/vg/data" "lv-1"]
  filesystem := some ⟨"/dev/mapper/vg-data", "ext4", none, none, 2097152, none⟩
  mounts := []

def layeredExecution (disk : String) : ExecutionStartBinding :=
  let binding : ExecutionStartBinding :=
    { schemaVersion := 1
      executionId := ""
      journalId := "journal"
      planId := "plan"
      approvalId := "approval"
      sourceManifestId := (layeredManifest disk).manifest.sourceManifestId
      nativeManifestDigest := (layeredManifest disk).digest
      freshIdentityDigest := (layeredIdentity disk).manifestDigest
      mutationStepIds := [1, 2, 3, 4]
      approvedJournalDigest := "approved journal" }
  { binding with executionId := binding.expectedExecutionId }

def partitionCommand (disk : String) : DisposableCommandSpec :=
  ⟨1, .sfdisk, ["--lock=yes", "--no-reread", "--no-tell-kernel", "-N", "1", disk],
    some "start=2048, size=8192\n", some ⟨.partx, ["--update", "--nr", "1", disk]⟩⟩

def layeredCommands (disk : String) : List DisposableCommandSpec :=
  [partitionCommand disk,
    ⟨2, .pvresize, ["--yes", "--setphysicalvolumesize", "5242880B", "--", "/dev/loop7p1"], none,
      none⟩,
    ⟨3, .lvextend, ["--extents", "+4", "--", "/dev/vg/data"], none, none⟩,
    ⟨4, .resize2fs, ["/dev/mapper/vg-data"], none, none⟩]

def layeredPermit (disk : String) : DisposableExecutionPermit where
  sourceManifestId := (layeredManifest disk).manifest.sourceManifestId
  nativeManifestDigest := (layeredManifest disk).digest
  freshIdentityDigest := (layeredIdentity disk).manifestDigest
  executionId := (layeredExecution disk).executionId
  loopDevice := "/dev/loop7"
  command := partitionCommand disk
  ownership := ownedLoop

/-- The first step's permit, when the plan compiles and the chain passes its test. -/
theorem layered_issued {disk : String}
    (hcommands : collect
      (fun step => compileStep step.planStepId step.operation (layeredIdentity disk))
      (mutationSteps (layeredManifest disk)) = .ok (layeredCommands disk))
    (howned : verifyTargetOwnedByLoop (layeredIdentity disk) "/dev/loop7" = .ok ()) :
    Issued ownedFiles (layeredManifest disk) ownedLoop (layeredIdentity disk)
      (layeredIdentity disk) 1 (layeredPermit disk) := by
  have hcompiled : compileDisposableLvmGrowthCommands (layeredManifest disk)
      (layeredIdentity disk) = .ok ⟨(layeredManifest disk).manifest.sourceManifestId,
        (layeredManifest disk).digest, (layeredIdentity disk).manifestDigest,
        layeredCommands disk⟩ := by
    rw [compileDisposableLvmGrowthCommands, hcommands]
    rfl
  have hintegrity : (layeredExecution disk).integrityMatches = true := beq_self_eq_true _
  have hassociation : samePath "/img" "/img" = true := Swap.samePath_self _
  have hbound : bindDisposableExecutionPermit ownedFiles
      ⟨(layeredManifest disk).manifest.sourceManifestId, (layeredManifest disk).digest,
        (layeredIdentity disk).manifestDigest, layeredCommands disk⟩ (layeredIdentity disk)
      ownedLoop ⟨"/dev/loop7", "/img"⟩ (layeredExecution disk) 1 =
      .ok (layeredPermit disk) := by
    simp only [bindDisposableExecutionPermit, bind_eq_ok_iff, exists_check_iff,
      mapError_eq_ok_iff, unique_eq_ok_iff, refuse_eq_ok_iff, verifyAssociation, not_or, not_not,
      ne_eq]
    exact ⟨ownedLoop_revalidated, trivial, ⟨rfl, hassociation⟩, howned, ⟨rfl, hintegrity⟩,
      ⟨rfl, rfl, rfl⟩, rfl, partitionCommand disk, rfl, rfl⟩
  exact .first hcompiled hbound

end

theorem permit_inside_loop_sample :
    InsideLoop (layeredPermit "/dev/loop7").command (layeredIdentity "/dev/loop7") "/dev/loop7" ↔
      ChainUnderLoops (layeredIdentity "/dev/loop7") ∧
        ∀ step ∈ mutationSteps (layeredManifest "/dev/loop7"), step.planStepId = 1 →
          OnLoop (layeredIdentity "/dev/loop7") "/dev/loop7" step.operation :=
  permit_inside_loop_iff (layered_issued rfl rfl)

/-- A permit to write the partition table of a disk that is not the harness's. -/
theorem foreign_disk_permitted_sample :
    Issued ownedFiles (layeredManifest "/dev/nvme0n1") ownedLoop (layeredIdentity "/dev/nvme0n1")
      (layeredIdentity "/dev/nvme0n1") 1 (layeredPermit "/dev/nvme0n1") ∧
    "/dev/nvme0n1" ∈ touched (layeredPermit "/dev/nvme0n1").command.line ∧
    ¬InsideLoop (layeredPermit "/dev/nvme0n1").command (layeredIdentity "/dev/nvme0n1")
      "/dev/loop7" := by
  refine ⟨layered_issued rfl rfl, List.mem_cons_self, fun hinside => ?_⟩
  have hforeign := hinside.changes "/dev/nvme0n1" List.mem_cons_self
  exact absurd hforeign (by decide)

end Samples

end StorageManager.Executor
