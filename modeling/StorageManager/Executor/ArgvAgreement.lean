import StorageManager.Executor.DisposableArgv

/-!
# Agreement of the argument compilers

The privileged helper and the disposable executor compile the growth commands apart from each
other. What they ask of the identity is one relation, what they run is one command line; only
their tests on paths differ.
-/

namespace StorageManager.Executor

open Lib.Checks
open Planner

set_option autoImplicit false

/-- A command under the names of its programs. -/
structure CommandLine where
  planStepId : Nat
  program : String
  args : List String
  stdinPayload : Option String
  kernelRefresh : Option (String × List String)
  deriving DecidableEq

def PrivilegedCommandSpec.line (c : PrivilegedCommandSpec) : CommandLine :=
  ⟨c.planStepId, c.program.asStr, c.args, c.stdinPayload,
    c.kernelRefresh.map fun r => (r.program.asStr, r.args)⟩

def DisposableCommandSpec.line (c : DisposableCommandSpec) : CommandLine :=
  ⟨c.planStepId, c.program.asStr, c.args, c.stdinPayload,
    c.kernelRefresh.map fun r => (r.program.asStr, r.args)⟩

/-- Both accept with one command line, or both refuse. -/
def SameOutcome (planStepId : Nat) (operation : NativeOperationSpec)
    (identity : TargetIdentityManifest) : Prop :=
  (compileOperation planStepId operation identity).toOption.map PrivilegedCommandSpec.line =
    (Disposable.compileStep planStepId operation identity).toOption.map DisposableCommandSpec.line

/-- What a growth operation is about, once its records are found. -/
inductive GrowthTarget where
  | partition (partition disk : String) (number startSector newSizeSectors : Nat)
  | physicalVolume (name : String) (rawLimitBytes : Nat)
  | logicalVolume (name : String) (additionalExtents : Nat)
  | ext4 (device : String) (mountpoint : Option String)
  | xfs (device mountpoint : String)
  deriving DecidableEq

namespace GrowthTarget

/-- The device paths whose safety is asked. -/
def devices : GrowthTarget → List String
  | .partition path disk .. => [path, disk]
  | .physicalVolume name _ | .logicalVolume name _ => [name]
  | .ext4 device _ | .xfs device _ => [device]

/-- The mountpoint whose safety is asked. -/
def mountpoint? : GrowthTarget → Option String
  | .ext4 _ mountpoint => mountpoint
  | .xfs _ mountpoint => some mountpoint
  | _ => none

/-- All paths pass. -/
def Safe (device mountpoint : String → Bool) (target : GrowthTarget) : Prop :=
  (∀ path ∈ target.devices, device path = true) ∧
    ∀ path ∈ target.mountpoint?, mountpoint path = true

instance (device mountpoint : String → Bool) (target : GrowthTarget) :
    Decidable (target.Safe device mountpoint) := by
  unfold Safe; infer_instance

def line (planStepId : Nat) : GrowthTarget → CommandLine
  | .partition _ disk number startSector newSizeSectors =>
    ⟨planStepId, "sfdisk",
      ["--lock=yes", "--no-reread", "--no-tell-kernel", "-N", toString number, disk],
      some s!"start={startSector}, size={newSizeSectors}\n",
      some ("partx", ["--update", "--nr", toString number, disk])⟩
  | .physicalVolume name rawLimitBytes =>
    ⟨planStepId, "pvresize",
      ["--yes", "--setphysicalvolumesize", s!"{rawLimitBytes}B", "--", name], none, none⟩
  | .logicalVolume name additionalExtents =>
    ⟨planStepId, "lvextend", ["--extents", s!"+{additionalExtents}", "--", name], none, none⟩
  | .ext4 device _ => ⟨planStepId, "resize2fs", [device], none, none⟩
  | .xfs _ mountpoint => ⟨planStepId, "xfs_growfs", ["-d", mountpoint], none, none⟩

end GrowthTarget

/-- The target of an operation by this identity, when every check but the safety of the paths
passes. -/
inductive Fits (identity : TargetIdentityManifest) : NativeOperationSpec → GrowthTarget → Prop
  | partition {partition disk : String} {startSector oldSizeSectors newSizeSectors : Nat}
      {sectorSizeBytes number : Nat} {geometry : PartitionGeometryIdentity}
      {device : DeviceIdentity}
      (record : identity.partitions.filter (·.partition == partition) = [geometry])
      (parent : geometry.disk = some disk)
      (label : geometry.tableLabel = some "gpt" ∨ geometry.tableLabel = some "dos")
      (start : geometry.startSector = some startSector)
      (size : geometry.sizeSectors = some oldSizeSectors)
      (sector : geometry.sectorSizeBytes = some sectorSizeBytes)
      (sectorSize : sectorSizeBytes ≠ 0) (oldSize : oldSizeSectors ≠ 0)
      (grows : oldSizeSectors < newSizeSectors)
      (named : partitionNumber partition disk = some number)
      (parentDevice : identity.devices.find? (·.path == disk) = some device)
      (representable : startSector + newSizeSectors < 2 ^ 64)
      (room : startSector + newSizeSectors ≤ device.sizeBytes / sectorSizeBytes) :
      Fits identity
        (.extendPartition partition startSector oldSizeSectors newSizeSectors sectorSizeBytes)
        (.partition partition disk number startSector newSizeSectors)
  | physicalVolume {pvUuid : String} {expectedPvSizeBytes peStartBytes : Nat} {pv : LvmIdentity}
      (record : identity.lvm.filter (isLvmRecord .physicalVolume pvUuid) = [pv])
      (size : expectedPvSizeBytes ≠ 0) (grows : pv.sizeBytes < expectedPvSizeBytes)
      (start : pv.peStartBytes = some peStartBytes)
      (representable : expectedPvSizeBytes + peStartBytes < 2 ^ 64) :
      Fits identity (.resizePhysicalVolume pvUuid expectedPvSizeBytes)
        (.physicalVolume pv.name (expectedPvSizeBytes + peStartBytes))
  | logicalVolume {lvUuid : String} {additionalExtents expectedLvSizeBytes : Nat}
      {lv : LvmIdentity}
      (record : identity.lvm.filter (isLvmRecord .logicalVolume lvUuid) = [lv])
      (extents : additionalExtents ≠ 0) (size : expectedLvSizeBytes ≠ 0)
      (grows : lv.sizeBytes < expectedLvSizeBytes) :
      Fits identity (.extendLogicalVolume lvUuid additionalExtents expectedLvSizeBytes)
        (.logicalVolume lv.name additionalExtents)
  | ext4 {fsType : String} {mountpoint : Option String} {filesystem : FilesystemIdentity}
      (record : identity.filesystem = some filesystem)
      (resolved : filesystem.device = identity.resolvedDevice)
      (kind : filesystem.fsType = fsType) (supported : fsType = "ext4")
      (mounted : ∀ path ∈ mountpoint, identity.mounts.countP (isMountOf fsType path) = 1)
      (unmounted : mountpoint = none → identity.mounts = []) :
      Fits identity (.growFilesystem fsType mountpoint) (.ext4 filesystem.device mountpoint)
  | xfs {fsType mountpoint : String} {filesystem : FilesystemIdentity}
      (record : identity.filesystem = some filesystem)
      (resolved : filesystem.device = identity.resolvedDevice)
      (kind : filesystem.fsType = fsType) (supported : fsType = "xfs")
      (mounted : identity.mounts.countP (isMountOf fsType mountpoint) = 1) :
      Fits identity (.growFilesystem fsType (some mountpoint)) (.xfs filesystem.device mountpoint)

variable {planStepId : Nat} {operation : NativeOperationSpec} {identity : TargetIdentityManifest}
  {target other : GrowthTarget} {line : CommandLine}

theorem Fits.unique (h : Fits identity operation target) (h' : Fits identity operation other) :
    target = other := by
  cases h with
  | partition record parent _ _ _ _ _ _ _ named =>
    cases h' with
    | partition record' parent' _ _ _ _ _ _ _ named' => grind
  | physicalVolume record _ _ start => cases h' with | physicalVolume record' _ _ start' => grind
  | logicalVolume record => cases h' with | logicalVolume record' => grind
  | ext4 record _ _ supported =>
    cases h' with
    | ext4 record' => grind
    | xfs _ _ _ supported' => simp [supported] at supported'
  | xfs record _ _ supported =>
    cases h' with
    | ext4 _ _ _ supported' => simp [supported] at supported'
    | xfs record' => grind

section Accepted

variable {device mountpoint : String → Bool}

theorem checkedAdd_eq_some_iff {a b c : Nat} :
    checkedAdd a b = some c ↔ a + b < 2 ^ 64 ∧ a + b = c := by
  unfold checkedAdd
  split <;> simp_all

/-- The line of a target that fits and whose paths pass these tests. -/
def Plans (device mountpoint : String → Bool) (planStepId : Nat) (operation : NativeOperationSpec)
    (identity : TargetIdentityManifest) (line : CommandLine) : Prop :=
  ∃ target, Fits identity operation target ∧ target.Safe device mountpoint ∧
    target.line planStepId = line

section Privileged

theorem compileExtendPartition_line_iff {partition : String}
    {startSector oldSizeSectors newSizeSectors sectorSizeBytes : Nat} :
    (∃ command, compileExtendPartition planStepId partition startSector oldSizeSectors
      newSizeSectors sectorSizeBytes identity = .ok command ∧ command.line = line) ↔
    Plans safeDevicePath safeAbsolutePath planStepId
      (.extendPartition partition startSector oldSizeSectors newSizeSectors sectorSizeBytes)
      identity line := by
  simp only [compileExtendPartition, bind_eq_ok_iff, exists_check_iff, refuse_eq_ok_iff,
    okOr_eq_ok_iff, unique_eq_ok_iff, checkedAdd_eq_some_iff, pure, Except.pure, Except.ok.injEq,
    not_or, not_and_or, not_not, ne_eq, not_lt, not_le]
  constructor
  · rintro ⟨_, ⟨geometry, record, disk, parent, ⟨hpath, hdisk⟩,
      ⟨label, start, size, sector, sectorSize, oldSize, grows⟩, number, named, device, found, _,
      ⟨representable, rfl⟩, room, rfl⟩, rfl⟩
    refine ⟨_, .partition record parent label start size sector sectorSize oldSize grows named
      found representable room, ⟨?_, ?_⟩, rfl⟩
    · simp [GrowthTarget.devices, hpath, hdisk]
    · simp [GrowthTarget.mountpoint?]
  · rintro ⟨_, ⟨record, parent, label, start, size, sector, sectorSize, oldSize, grows, named,
      found, representable, room⟩, ⟨hdevices, -⟩, rfl⟩
    simp only [GrowthTarget.devices, List.forall_mem_cons] at hdevices
    exact ⟨_, ⟨_, record, _, parent, ⟨hdevices.1, hdevices.2.1⟩,
      ⟨label, start, size, sector, sectorSize, oldSize, grows⟩, _, named, _, found, _,
      ⟨representable, rfl⟩, room, rfl⟩, rfl⟩

theorem compileResizePhysicalVolume_line_iff {pvUuid : String} {expectedPvSizeBytes : Nat} :
    (∃ command, compileResizePhysicalVolume planStepId pvUuid expectedPvSizeBytes identity =
      .ok command ∧ command.line = line) ↔
    Plans safeDevicePath safeAbsolutePath planStepId
      (.resizePhysicalVolume pvUuid expectedPvSizeBytes) identity line := by
  simp only [compileResizePhysicalVolume, bind_eq_ok_iff, exists_check_iff, refuse_eq_ok_iff,
    okOr_eq_ok_iff, unique_eq_ok_iff, checkedAdd_eq_some_iff, pure, Except.pure, Except.ok.injEq,
    not_or, not_not, not_le]
  constructor
  · rintro ⟨_, ⟨pv, record, ⟨hname, size, grows⟩, peStart, start, _, ⟨representable, rfl⟩, rfl⟩,
      rfl⟩
    refine ⟨_, .physicalVolume record size grows start representable, ⟨?_, ?_⟩, rfl⟩
    · simp [GrowthTarget.devices, hname]
    · simp [GrowthTarget.mountpoint?]
  · rintro ⟨_, hfits, ⟨hdevices, -⟩, rfl⟩
    cases hfits with
    | physicalVolume record size grows start representable =>
    have hname := hdevices _ List.mem_cons_self
    exact ⟨_, ⟨_, record, ⟨hname, size, grows⟩, _, start, _, ⟨representable, rfl⟩, rfl⟩, rfl⟩

theorem compileExtendLogicalVolume_line_iff {lvUuid : String}
    {additionalExtents expectedLvSizeBytes : Nat} :
    (∃ command, compileExtendLogicalVolume planStepId lvUuid additionalExtents expectedLvSizeBytes
      identity = .ok command ∧ command.line = line) ↔
    Plans safeDevicePath safeAbsolutePath planStepId
      (.extendLogicalVolume lvUuid additionalExtents expectedLvSizeBytes) identity line := by
  simp only [compileExtendLogicalVolume, bind_eq_ok_iff, exists_check_iff, refuse_eq_ok_iff,
    unique_eq_ok_iff, pure, Except.pure, Except.ok.injEq, not_or, not_not, not_le]
  constructor
  · rintro ⟨_, ⟨lv, record, ⟨hname, extents, size, grows⟩, rfl⟩, rfl⟩
    refine ⟨_, .logicalVolume record extents size grows, ⟨?_, ?_⟩, rfl⟩
    · simp [GrowthTarget.devices, hname]
    · simp [GrowthTarget.mountpoint?]
  · rintro ⟨_, hfits, ⟨hdevices, -⟩, rfl⟩
    cases hfits with
    | logicalVolume record extents size grows =>
    have hname := hdevices _ List.mem_cons_self
    exact ⟨_, ⟨_, record, ⟨hname, extents, size, grows⟩, rfl⟩, rfl⟩

/-- An ext4 filesystem is mounted once where it is said to be, or nowhere. -/
theorem elim_mountedOnce_iff {fsType : String} {path : Option String} :
    path.elim identity.mounts.isEmpty (mountedOnce fsType identity) = true ↔
      (∀ p ∈ path, identity.mounts.countP (isMountOf fsType p) = 1) ∧
      (path = none → identity.mounts = []) ∧ ∀ p ∈ path, safeAbsolutePath p = true := by
  cases path <;> simp [mountedOnce, and_comm]

theorem compileGrowFilesystem_line_iff {fsType : String} {path : Option String} :
    (∃ command, compileGrowFilesystem planStepId fsType path identity = .ok command ∧
      command.line = line) ↔
    Plans safeDevicePath safeAbsolutePath planStepId (.growFilesystem fsType path) identity
      line := by
  simp only [compileGrowFilesystem, bind_eq_ok_iff, exists_check_iff, refuse_eq_ok_iff,
    okOr_eq_ok_iff, not_or, not_not, ne_eq]
  constructor
  · rintro ⟨_, ⟨filesystem, record, ⟨resolved, kind, hdevice⟩, h⟩, rfl⟩
    split at h
    case isTrue supported =>
      simp only [check_eq_ok_iff, refuse_eq_ok_iff, not_not, pure, Except.pure, Except.ok.injEq,
        elim_mountedOnce_iff] at h
      obtain ⟨⟨mounted, unmounted, hsafe⟩, rfl⟩ := h
      refine ⟨_, .ext4 record resolved kind supported mounted unmounted, ⟨?_, hsafe⟩, rfl⟩
      simp [GrowthTarget.devices, hdevice]
    case isFalse =>
      split at h
      case isFalse => cases h
      case isTrue supported =>
        simp only [bind_eq_ok_iff, exists_check_iff, refuse_eq_ok_iff, okOr_eq_ok_iff, not_not,
          pure, Except.pure, Except.ok.injEq, mountedOnce, Bool.and_eq_true, beq_iff_eq] at h
        obtain ⟨mountpoint, rfl, ⟨hsafe, mounted⟩, rfl⟩ := h
        refine ⟨_, .xfs record resolved kind supported mounted, ⟨?_, ?_⟩, rfl⟩
        · simp [GrowthTarget.devices, hdevice]
        · simp [GrowthTarget.mountpoint?, hsafe]
  · rintro ⟨_, hfits, ⟨hdevices, hmount⟩, rfl⟩
    cases hfits with
    | ext4 record resolved kind supported mounted unmounted =>
      have hdevice := hdevices _ List.mem_cons_self
      refine ⟨⟨planStepId, .resize2fs, [_], none, none⟩,
        ⟨_, record, ⟨resolved, kind, hdevice⟩, ?_⟩, rfl⟩
      rw [if_pos supported, check_eq_ok_iff, refuse_eq_ok_iff, not_not, elim_mountedOnce_iff]
      exact ⟨⟨mounted, unmounted, hmount⟩, rfl⟩
    | xfs record resolved kind supported mounted =>
      have hdevice := hdevices _ List.mem_cons_self
      have hpath := hmount _ rfl
      refine ⟨⟨planStepId, .xfsGrowfs, ["-d", _], none, none⟩,
        ⟨_, record, ⟨resolved, kind, hdevice⟩, ?_⟩, rfl⟩
      rw [if_neg (by simp [supported]), if_pos supported]
      simp only [bind_eq_ok_iff, exists_check_iff, okOr_eq_ok_iff, refuse_eq_ok_iff, not_not,
        mountedOnce, Bool.and_eq_true, beq_iff_eq]
      exact ⟨_, rfl, ⟨hpath, mounted⟩, rfl⟩

/-- The privileged compiler accepts what fits and passes its own tests on paths. -/
theorem compileOperation_line_iff :
    (∃ command, compileOperation planStepId operation identity = .ok command ∧
      command.line = line) ↔
    Plans safeDevicePath safeAbsolutePath planStepId operation identity line := by
  cases operation with
  | extendPartition => exact compileExtendPartition_line_iff
  | resizePhysicalVolume => exact compileResizePhysicalVolume_line_iff
  | extendLogicalVolume => exact compileExtendLogicalVolume_line_iff
  | growFilesystem => exact compileGrowFilesystem_line_iff
  | _ =>
    constructor
    · rintro ⟨_, h, -⟩
      cases h
    · rintro ⟨_, h, -⟩
      cases h

end Privileged

namespace Disposable

theorem compilePartitionExtend_line_iff {partition : String}
    {startSector oldSizeSectors newSizeSectors sectorSizeBytes : Nat} :
    (∃ command, compilePartitionExtend planStepId partition startSector oldSizeSectors
      newSizeSectors sectorSizeBytes identity = .ok command ∧ command.line = line) ↔
    Plans safeDevicePath safeAbsolutePath planStepId
      (.extendPartition partition startSector oldSizeSectors newSizeSectors sectorSizeBytes)
      identity line := by
  simp only [compilePartitionExtend, bind_eq_ok_iff, exists_check_iff, refuse_eq_ok_iff,
    okOr_eq_ok_iff, unique_eq_ok_iff, checkedAdd_eq_some_iff, pure, Except.pure, Except.ok.injEq,
    not_or, not_and_or, not_not, ne_eq, not_lt, not_le]
  constructor
  · rintro ⟨_, ⟨geometry, record, disk, parent, ⟨hpath, hdisk⟩, label,
      ⟨start, size, sector, sectorSize, oldSize, grows⟩, number, named, device, found, _,
      ⟨representable, rfl⟩, room, rfl⟩, rfl⟩
    refine ⟨_, .partition record parent label start size sector sectorSize oldSize grows named
      found representable room, ⟨?_, ?_⟩, rfl⟩
    · simp [GrowthTarget.devices, hpath, hdisk]
    · simp [GrowthTarget.mountpoint?]
  · rintro ⟨_, ⟨record, parent, label, start, size, sector, sectorSize, oldSize, grows, named,
      found, representable, room⟩, ⟨hdevices, -⟩, rfl⟩
    simp only [GrowthTarget.devices, List.forall_mem_cons] at hdevices
    exact ⟨_, ⟨_, record, _, parent, ⟨hdevices.1, hdevices.2.1⟩, label,
      ⟨start, size, sector, sectorSize, oldSize, grows⟩, _, named, _, found, _,
      ⟨representable, rfl⟩, room, rfl⟩, rfl⟩

theorem compilePvresize_line_iff {pvUuid : String} {expectedPvSizeBytes : Nat} :
    (∃ command, compilePvresize planStepId pvUuid expectedPvSizeBytes identity = .ok command ∧
      command.line = line) ↔
    Plans safeDevicePath safeAbsolutePath planStepId
      (.resizePhysicalVolume pvUuid expectedPvSizeBytes) identity line := by
  simp only [compilePvresize, bind_eq_ok_iff, exists_check_iff, refuse_eq_ok_iff,
    okOr_eq_ok_iff, unique_eq_ok_iff, checkedAdd_eq_some_iff, pure, Except.pure, Except.ok.injEq,
    not_or, not_not, not_le]
  constructor
  · rintro ⟨_, ⟨pv, record, ⟨size, grows⟩, hname, peStart, start, _, ⟨representable, rfl⟩, rfl⟩,
      rfl⟩
    refine ⟨_, .physicalVolume record size grows start representable, ⟨?_, ?_⟩, rfl⟩
    · simp [GrowthTarget.devices, hname]
    · simp [GrowthTarget.mountpoint?]
  · rintro ⟨_, hfits, ⟨hdevices, -⟩, rfl⟩
    cases hfits with
    | physicalVolume record size grows start representable =>
    have hname := hdevices _ List.mem_cons_self
    exact ⟨_, ⟨_, record, ⟨size, grows⟩, hname, _, start, _, ⟨representable, rfl⟩, rfl⟩, rfl⟩

theorem compileLvextend_line_iff {lvUuid : String} {additionalExtents expectedLvSizeBytes : Nat} :
    (∃ command, compileLvextend planStepId lvUuid additionalExtents expectedLvSizeBytes
      identity = .ok command ∧ command.line = line) ↔
    Plans safeDevicePath safeAbsolutePath planStepId
      (.extendLogicalVolume lvUuid additionalExtents expectedLvSizeBytes) identity line := by
  simp only [compileLvextend, bind_eq_ok_iff, exists_check_iff, refuse_eq_ok_iff,
    unique_eq_ok_iff, pure, Except.pure, Except.ok.injEq, not_or, not_not, not_le]
  constructor
  · rintro ⟨_, ⟨lv, record, ⟨extents, size, grows⟩, hname, rfl⟩, rfl⟩
    refine ⟨_, .logicalVolume record extents size grows, ⟨?_, ?_⟩, rfl⟩
    · simp [GrowthTarget.devices, hname]
    · simp [GrowthTarget.mountpoint?]
  · rintro ⟨_, hfits, ⟨hdevices, -⟩, rfl⟩
    cases hfits with
    | logicalVolume record extents size grows =>
    have hname := hdevices _ List.mem_cons_self
    exact ⟨_, ⟨_, record, ⟨extents, size, grows⟩, hname, rfl⟩, rfl⟩

@[simp] theorem validateMounted_eq_ok_iff {fsType path : String} :
    validateMounted fsType identity path = .ok () ↔
      safeAbsolutePath path = true ∧ identity.mounts.countP (isMountOf fsType path) = 1 := by
  simp [validateMounted, check_eq_ok_iff]

theorem compileFilesystemGrow_line_iff {fsType : String} {path : Option String} :
    (∃ command, compileFilesystemGrow planStepId fsType path identity = .ok command ∧
      command.line = line) ↔
    Plans safeDevicePath safeAbsolutePath planStepId (.growFilesystem fsType path) identity
      line := by
  simp only [compileFilesystemGrow, bind_eq_ok_iff, exists_check_iff, refuse_eq_ok_iff,
    okOr_eq_ok_iff, not_or, not_not, ne_eq]
  constructor
  · rintro ⟨_, ⟨filesystem, record, hdevice, ⟨kind, resolved⟩, h⟩, rfl⟩
    split at h
    case isTrue supported =>
      cases path with
      | none =>
        simp only [check_eq_ok_iff, refuse_eq_ok_iff, not_not, pure, Except.pure,
          Except.ok.injEq, List.isEmpty_iff] at h
        obtain ⟨unmounted, rfl⟩ := h
        refine ⟨_, .ext4 record resolved kind supported (by simp) (fun _ => unmounted),
          ⟨?_, by simp [GrowthTarget.mountpoint?]⟩, rfl⟩
        simp [GrowthTarget.devices, hdevice]
      | some path =>
        simp only [check_eq_ok_iff, validateMounted_eq_ok_iff, pure, Except.pure,
          Except.ok.injEq] at h
        obtain ⟨⟨hsafe, mounted⟩, rfl⟩ := h
        refine ⟨_, .ext4 record resolved kind supported (by simpa using mounted) (by simp),
          ⟨?_, by simp [GrowthTarget.mountpoint?, hsafe]⟩, rfl⟩
        simp [GrowthTarget.devices, hdevice]
    case isFalse =>
      split at h
      case isFalse => cases h
      case isTrue supported =>
        simp only [bind_eq_ok_iff, exists_check_iff, okOr_eq_ok_iff, validateMounted_eq_ok_iff,
          pure, Except.pure, Except.ok.injEq] at h
        obtain ⟨path, rfl, ⟨hsafe, mounted⟩, rfl⟩ := h
        refine ⟨_, .xfs record resolved kind supported mounted, ⟨?_, ?_⟩, rfl⟩
        · simp [GrowthTarget.devices, hdevice]
        · simp [GrowthTarget.mountpoint?, hsafe]
  · rintro ⟨_, hfits, ⟨hdevices, hmount⟩, rfl⟩
    cases hfits with
    | ext4 record resolved kind supported mounted unmounted =>
      have hdevice := hdevices _ List.mem_cons_self
      refine ⟨⟨planStepId, .resize2fs, [_], none, none⟩,
        ⟨_, record, hdevice, ⟨kind, resolved⟩, ?_⟩, rfl⟩
      rw [if_pos supported]
      cases path with
      | none => exact check_eq_ok_iff.mpr ⟨by simp [unmounted rfl], rfl⟩
      | some path =>
        exact check_eq_ok_iff.mpr
          ⟨validateMounted_eq_ok_iff.mpr ⟨hmount _ rfl, mounted _ rfl⟩, rfl⟩
    | xfs record resolved kind supported mounted =>
      have hdevice := hdevices _ List.mem_cons_self
      have hpath := hmount _ rfl
      refine ⟨⟨planStepId, .xfsGrowfs, ["-d", _], none, none⟩,
        ⟨_, record, hdevice, ⟨kind, resolved⟩, ?_⟩, rfl⟩
      rw [if_neg (by simp [supported]), if_pos supported]
      simp only [bind_eq_ok_iff, exists_check_iff, okOr_eq_ok_iff, validateMounted_eq_ok_iff]
      exact ⟨_, rfl, ⟨hpath, mounted⟩, rfl⟩

/-- The disposable compiler accepts what fits and passes its own tests on paths. -/
theorem compileStep_line_iff :
    (∃ command, compileStep planStepId operation identity = .ok command ∧
      command.line = line) ↔
    Plans safeDevicePath safeAbsolutePath planStepId operation identity line := by
  cases operation with
  | extendPartition => exact compilePartitionExtend_line_iff
  | resizePhysicalVolume => exact compilePvresize_line_iff
  | extendLogicalVolume => exact compileLvextend_line_iff
  | growFilesystem => exact compileFilesystemGrow_line_iff
  | _ =>
    constructor
    · rintro ⟨_, h, -⟩
      cases h
    · rintro ⟨_, h, -⟩
      cases h

end Disposable

end Accepted

section Agreement

/-- The paths of an operation that fits are safe for both compilers, or for neither. -/
def PathsJudgedAlike (operation : NativeOperationSpec) (identity : TargetIdentityManifest) :
    Prop :=
  ∀ target, Fits identity operation target →
    (target.Safe safeDevicePath safeAbsolutePath ↔
      target.Safe Disposable.safeDevicePath Disposable.safeAbsolutePath)

theorem sameOutcome_iff_plans :
    SameOutcome planStepId operation identity ↔
      ∀ line, Plans safeDevicePath safeAbsolutePath planStepId operation identity line ↔
        Plans Disposable.safeDevicePath Disposable.safeAbsolutePath planStepId operation identity
          line := by
  rw [SameOutcome, Option.ext_iff]
  simp only [← compileOperation_line_iff, ← Disposable.compileStep_line_iff,
    Option.map_eq_some_iff, toOption_eq_some_iff]

/-- The compilers agree exactly where their tests on paths do. -/
theorem compilers_agree_iff (planStepId : Nat) (operation : NativeOperationSpec)
    (identity : TargetIdentityManifest) :
    SameOutcome planStepId operation identity ↔ PathsJudgedAlike operation identity := by
  rw [sameOutcome_iff_plans]
  constructor
  · intro h target hfits
    have planned : ∀ {device mountpoint : String → Bool},
        Plans device mountpoint planStepId operation identity (target.line planStepId) ↔
          target.Safe device mountpoint := by
      intro device mountpoint
      constructor
      · rintro ⟨other, hother, hsafe, -⟩
        rwa [hfits.unique hother]
      · intro hsafe
        exact ⟨target, hfits, hsafe, rfl⟩
    exact planned.symm.trans ((h _).trans planned)
  · intro h line
    constructor
    · rintro ⟨target, hfits, hsafe, hline⟩
      exact ⟨target, hfits, (h target hfits).mp hsafe, hline⟩
    · rintro ⟨target, hfits, hsafe, hline⟩
      exact ⟨target, hfits, (h target hfits).mpr hsafe, hline⟩

/-- On an absolute path the tests differ where it has a control character but neither a NUL nor a
parent component, or the other way round. -/
theorem safeAbsolutePath_eq_iff {path : String} (h : startsWith path "/" = true) :
    safeAbsolutePath path = Disposable.safeAbsolutePath path ↔
      (path.toList.any isControl = true ↔
        Char.ofNat 0 ∈ path.toList ∨ ['.', '.'] ∈ path.toList.splitOn '/') := by
  have hne : path ≠ "" := by
    rintro rfl
    exact absurd h (by decide)
  rw [Bool.eq_iff_iff]
  simp only [safeAbsolutePath, Disposable.safeAbsolutePath, h, Bool.and_eq_true, bne_iff_ne,
    Bool.not_eq_true', List.contains_eq_mem, decide_eq_false_iff_not, Bool.true_and, ne_eq, hne,
    not_false_eq_true, true_and, and_true]
  cases path.toList.any isControl
  · simp
  · simp only [Bool.true_eq_false, iff_false, not_and_or, not_not, true_iff]

end Agreement

section Samples

/-- An ext4 filesystem with its one mount. -/
def mountedIdentity (mountpoint : String) : TargetIdentityManifest where
  schemaVersion := 1
  target := mountpoint
  manifestDigest := "identity-test"
  resolvedDevice := "/dev/mapper/vg0-root"
  routeStatus := .supportedProfile
  routeIssueCodes := []
  devices := []
  partitions := []
  lvm := []
  filesystem := some ⟨"/dev/mapper/vg0-root", "ext4", some "test", some "fs-1", 8589934592,
    some 8589934592⟩
  mounts := [⟨mountpoint, some "/dev/mapper/vg0-root", some "ext4", ["rw"]⟩]

/-- A line break in the mountpoint is taken by the helper and refused in the rehearsal, a parent
component the other way round. -/
theorem compilers_disagree_sample :
    ¬SameOutcome 4 (.growFilesystem "ext4" (some "/srv\ndata")) (mountedIdentity "/srv\ndata") ∧
    ¬SameOutcome 4 (.growFilesystem "ext4" (some "/srv/../data"))
      (mountedIdentity "/srv/../data") := by
  unfold SameOutcome
  decide

end Samples

end StorageManager.Executor
