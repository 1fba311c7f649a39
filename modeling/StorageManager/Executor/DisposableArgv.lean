import StorageManager.Executor.PrivilegedArgv

/-!
# Arguments of the disposable executor

The second compiler of the growth commands, written for the rehearsal on loop devices. It has
its own program list, its own errors and its own tests on paths.
-/

namespace StorageManager.Executor

open Lib.Checks
open Planner

set_option autoImplicit false

inductive DisposableProgram where
  | sfdisk
  | partx
  | pvresize
  | lvextend
  | resize2fs
  | xfsGrowfs
  deriving DecidableEq

def DisposableProgram.asStr : DisposableProgram → String
  | .sfdisk => "sfdisk"
  | .partx => "partx"
  | .pvresize => "pvresize"
  | .lvextend => "lvextend"
  | .resize2fs => "resize2fs"
  | .xfsGrowfs => "xfs_growfs"

structure DisposableKernelRefreshSpec where
  program : DisposableProgram
  args : List String
  deriving DecidableEq

structure DisposableCommandSpec where
  planStepId : Nat
  program : DisposableProgram
  args : List String
  stdinPayload : Option String
  kernelRefresh : Option DisposableKernelRefreshSpec
  deriving DecidableEq

inductive DisposableArgvError where
  | unsupportedMutationProfile
  | partitionIdentityNotUnique (partition : String)
  | partitionGeometryMismatch
  | unsupportedPartitionTable
  | unsafePartitionPath
  | partitionNumberInvalid
  | partitionGrowthMismatch
  | physicalVolumeIdentityNotUnique (pvUuid : String)
  | unsafePhysicalVolumePath
  | physicalVolumeGrowthMismatch
  | physicalVolumePeStartMissing
  | logicalVolumeIdentityNotUnique (lvUuid : String)
  | unsafeLogicalVolumePath
  | logicalVolumeGrowthMismatch
  | filesystemIdentityMissing
  | filesystemIdentityMismatch
  | filesystemGrowthNotProven
  | filesystemMountNotUnique
  | unsafeFilesystemDevicePath
  | unsafeFilesystemMountpoint
  | unsupportedFilesystem (fsType : String)
  deriving DecidableEq

namespace Disposable

/-- A leading slash and no control character; the components are not looked at. -/
def safeAbsolutePath (value : String) : Bool :=
  startsWith value "/" && !value.toList.any isControl

def safeDevicePath (value : String) : Bool :=
  startsWith value "/dev/" && !value.toList.any isControl

def compilePartitionExtend (planStepId : Nat) (partition : String)
    (startSector oldSizeSectors newSizeSectors sectorSizeBytes : Nat)
    (identity : TargetIdentityManifest) : Except DisposableArgvError DisposableCommandSpec := do
  let geometry ← unique (·.partition == partition) identity.partitions
    (.partitionIdentityNotUnique partition)
  let disk ← okOr geometry.disk .partitionGeometryMismatch
  refuse (¬safeDevicePath partition ∨ ¬safeDevicePath disk) .unsafePartitionPath
  refuse (¬(geometry.tableLabel = some "gpt" ∨ geometry.tableLabel = some "dos"))
    .unsupportedPartitionTable
  refuse (geometry.startSector ≠ some startSector ∨ geometry.sizeSectors ≠ some oldSizeSectors ∨
    geometry.sectorSizeBytes ≠ some sectorSizeBytes ∨ sectorSizeBytes = 0 ∨
    oldSizeSectors = 0 ∨ newSizeSectors ≤ oldSizeSectors) .partitionGeometryMismatch
  let number ← okOr (partitionNumber partition disk) .partitionNumberInvalid
  let diskIdentity ← okOr (identity.devices.find? (·.path == disk)) .partitionGrowthMismatch
  let endSector ← okOr (checkedAdd startSector newSizeSectors) .partitionGrowthMismatch
  refuse (diskIdentity.sizeBytes / sectorSizeBytes < endSector) .partitionGrowthMismatch
  pure
    { planStepId
      program := .sfdisk
      args := ["--lock=yes", "--no-reread", "--no-tell-kernel", "-N", toString number, disk]
      stdinPayload := some s!"start={startSector}, size={newSizeSectors}\n"
      kernelRefresh := some ⟨.partx, ["--update", "--nr", toString number, disk]⟩ }

def compilePvresize (planStepId : Nat) (pvUuid : String) (expectedPvSizeBytes : Nat)
    (identity : TargetIdentityManifest) : Except DisposableArgvError DisposableCommandSpec := do
  let pv ← unique (isLvmRecord .physicalVolume pvUuid) identity.lvm
    (.physicalVolumeIdentityNotUnique pvUuid)
  refuse (expectedPvSizeBytes = 0 ∨ expectedPvSizeBytes ≤ pv.sizeBytes)
    .physicalVolumeGrowthMismatch
  refuse (¬safeDevicePath pv.name) .unsafePhysicalVolumePath
  let peStartBytes ← okOr pv.peStartBytes .physicalVolumePeStartMissing
  let rawLimitBytes ← okOr (checkedAdd expectedPvSizeBytes peStartBytes)
    .physicalVolumeGrowthMismatch
  pure
    { planStepId
      program := .pvresize
      args := ["--yes", "--setphysicalvolumesize", s!"{rawLimitBytes}B", "--", pv.name]
      stdinPayload := none
      kernelRefresh := none }

def compileLvextend (planStepId : Nat) (lvUuid : String)
    (additionalExtents expectedLvSizeBytes : Nat) (identity : TargetIdentityManifest) :
    Except DisposableArgvError DisposableCommandSpec := do
  let lv ← unique (isLvmRecord .logicalVolume lvUuid) identity.lvm
    (.logicalVolumeIdentityNotUnique lvUuid)
  refuse (additionalExtents = 0 ∨ expectedLvSizeBytes = 0 ∨ expectedLvSizeBytes ≤ lv.sizeBytes)
    .logicalVolumeGrowthMismatch
  refuse (¬safeDevicePath lv.name) .unsafeLogicalVolumePath
  pure
    { planStepId
      program := .lvextend
      args := ["--extents", s!"+{additionalExtents}", "--", lv.name]
      stdinPayload := none
      kernelRefresh := none }

/-- The closure `validate_mounted`. -/
def validateMounted (fsType : String) (identity : TargetIdentityManifest) (mountpoint : String) :
    Except DisposableArgvError Unit := do
  refuse (¬safeAbsolutePath mountpoint) .unsafeFilesystemMountpoint
  refuse (identity.mounts.countP (isMountOf fsType mountpoint) ≠ 1) .filesystemMountNotUnique

def compileFilesystemGrow (planStepId : Nat) (fsType : String) (mountpoint : Option String)
    (identity : TargetIdentityManifest) : Except DisposableArgvError DisposableCommandSpec := do
  let filesystem ← okOr identity.filesystem .filesystemIdentityMissing
  refuse (¬safeDevicePath filesystem.device) .unsafeFilesystemDevicePath
  refuse (filesystem.fsType ≠ fsType ∨ filesystem.device ≠ identity.resolvedDevice)
    .filesystemIdentityMismatch
  if fsType = "ext4" then
    match mountpoint with
    | some mountpoint => validateMounted fsType identity mountpoint
    | none => refuse (¬identity.mounts.isEmpty) .filesystemMountNotUnique
    pure
      { planStepId
        program := .resize2fs
        args := [filesystem.device]
        stdinPayload := none
        kernelRefresh := none }
  else if fsType = "xfs" then
    let mountpoint ← okOr mountpoint .filesystemMountNotUnique
    validateMounted fsType identity mountpoint
    pure
      { planStepId
        program := .xfsGrowfs
        args := ["-d", mountpoint]
        stdinPayload := none
        kernelRefresh := none }
  else .error (.unsupportedFilesystem fsType)

/-- The match on a mutation step's operation in `compile_disposable_lvm_growth_commands`. -/
def compileStep (planStepId : Nat) (operation : NativeOperationSpec)
    (identity : TargetIdentityManifest) : Except DisposableArgvError DisposableCommandSpec :=
  match operation with
  | .extendPartition partition startSector oldSizeSectors newSizeSectors sectorSizeBytes =>
    compilePartitionExtend planStepId partition startSector oldSizeSectors newSizeSectors
      sectorSizeBytes identity
  | .resizePhysicalVolume pvUuid expectedPvSizeBytes =>
    compilePvresize planStepId pvUuid expectedPvSizeBytes identity
  | .extendLogicalVolume lvUuid additionalExtents expectedLvSizeBytes =>
    compileLvextend planStepId lvUuid additionalExtents expectedLvSizeBytes identity
  | .growFilesystem fsType mountpoint => compileFilesystemGrow planStepId fsType mountpoint identity
  | _ => .error .unsupportedMutationProfile

end Disposable

end StorageManager.Executor
