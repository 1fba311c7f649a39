import StorageManager.Executor.PrivilegedProtocol
import StorageManager.Executor.PrivilegedTools

/-!
# Arguments of the privileged helper

The one command of each mutation. It is compiled against the live identity: the record the
operation names must be there once and still be as it was authorized.
-/

namespace StorageManager.Executor

open Lib.Checks
open Planner

set_option autoImplicit false

structure PrivilegedKernelRefreshSpec where
  program : PrivilegedProgram
  args : List String
  deriving DecidableEq

structure PrivilegedCommandSpec where
  planStepId : Nat
  program : PrivilegedProgram
  args : List String
  stdinPayload : Option String
  kernelRefresh : Option PrivilegedKernelRefreshSpec
  deriving DecidableEq

inductive PrivilegedArgvError where
  | protocol (source : PrivilegedHelperProtocolError)
  | partitionIdentityNotUnique
  | partitionGeometryMismatch
  | unsafePartitionPath
  | partitionNumberInvalid
  | partitionGrowthOutOfBounds
  | physicalVolumeIdentityNotUnique
  | physicalVolumeMismatch
  | logicalVolumeIdentityNotUnique
  | logicalVolumeMismatch
  | filesystemIdentityMissing
  | filesystemMismatch
  | filesystemMountMismatch
  | unsupportedOperation
  deriving DecidableEq

/-- `u64::checked_add`. -/
def checkedAdd (a b : Nat) : Option Nat := if a + b < 2 ^ 64 then some (a + b) else none

/-- `str::strip_prefix`. -/
def stripStart (value start : String) : Option (List Char) :=
  if startsWith value start then some (value.toList.drop start.toList.length) else none

/-- The digits after the disk's name; a name that ends in a digit needs a `p` between. -/
def partitionDigits (disk : String) (suffix : List Char) : Option (List Char) :=
  match suffix with
  | 'p' :: digits => some digits
  | _ => if disk.toList.getLast?.any Char.isDigit then none else some suffix

def partitionNumber (partition disk : String) : Option Nat := do
  let suffix ← stripStart partition disk
  let digits ← partitionDigits disk suffix
  if digits = [] ∨ ¬digits.all Char.isDigit then none
  else
    let number := Nat.ofDigitChars 10 digits 0
    if 0 < number ∧ number < 2 ^ 32 then some number else none

def compileExtendPartition (planStepId : Nat) (partition : String)
    (startSector oldSizeSectors newSizeSectors sectorSizeBytes : Nat)
    (identity : TargetIdentityManifest) : Except PrivilegedArgvError PrivilegedCommandSpec := do
  let geometry ← unique (·.partition == partition) identity.partitions .partitionIdentityNotUnique
  let disk ← okOr geometry.disk .partitionGeometryMismatch
  refuse (¬safeDevicePath partition ∨ ¬safeDevicePath disk) .unsafePartitionPath
  refuse (¬(geometry.tableLabel = some "gpt" ∨ geometry.tableLabel = some "dos") ∨
    geometry.startSector ≠ some startSector ∨ geometry.sizeSectors ≠ some oldSizeSectors ∨
    geometry.sectorSizeBytes ≠ some sectorSizeBytes ∨ sectorSizeBytes = 0 ∨
    oldSizeSectors = 0 ∨ newSizeSectors ≤ oldSizeSectors) .partitionGeometryMismatch
  let number ← okOr (partitionNumber partition disk) .partitionNumberInvalid
  let diskIdentity ← okOr (identity.devices.find? (·.path == disk)) .partitionGrowthOutOfBounds
  let endSector ← okOr (checkedAdd startSector newSizeSectors) .partitionGrowthOutOfBounds
  refuse (diskIdentity.sizeBytes / sectorSizeBytes < endSector) .partitionGrowthOutOfBounds
  pure
    { planStepId
      program := .sfdisk
      args := ["--lock=yes", "--no-reread", "--no-tell-kernel", "-N", toString number, disk]
      stdinPayload := some s!"start={startSector}, size={newSizeSectors}\n"
      kernelRefresh := some ⟨.partx, ["--update", "--nr", toString number, disk]⟩ }

/-- The record of this kind and UUID. -/
def isLvmRecord (kind : LvmIdentityKind) (uuid : String) (entry : LvmIdentity) : Bool :=
  entry.kind == kind && entry.uuid == some uuid

def compileResizePhysicalVolume (planStepId : Nat) (pvUuid : String) (expectedPvSizeBytes : Nat)
    (identity : TargetIdentityManifest) : Except PrivilegedArgvError PrivilegedCommandSpec := do
  let pv ← unique (isLvmRecord .physicalVolume pvUuid) identity.lvm
    .physicalVolumeIdentityNotUnique
  refuse (¬safeDevicePath pv.name ∨ expectedPvSizeBytes = 0 ∨ expectedPvSizeBytes ≤ pv.sizeBytes)
    .physicalVolumeMismatch
  let peStart ← okOr pv.peStartBytes .physicalVolumeMismatch
  let rawLimit ← okOr (checkedAdd expectedPvSizeBytes peStart) .physicalVolumeMismatch
  pure
    { planStepId
      program := .pvresize
      args := ["--yes", "--setphysicalvolumesize", s!"{rawLimit}B", "--", pv.name]
      stdinPayload := none
      kernelRefresh := none }

def compileExtendLogicalVolume (planStepId : Nat) (lvUuid : String)
    (additionalExtents expectedLvSizeBytes : Nat) (identity : TargetIdentityManifest) :
    Except PrivilegedArgvError PrivilegedCommandSpec := do
  let lv ← unique (isLvmRecord .logicalVolume lvUuid) identity.lvm .logicalVolumeIdentityNotUnique
  refuse (¬safeDevicePath lv.name ∨ additionalExtents = 0 ∨ expectedLvSizeBytes = 0 ∨
    expectedLvSizeBytes ≤ lv.sizeBytes) .logicalVolumeMismatch
  pure
    { planStepId
      program := .lvextend
      args := ["--extents", s!"+{additionalExtents}", "--", lv.name]
      stdinPayload := none
      kernelRefresh := none }

/-- The mounts of a filesystem of this type here. -/
def isMountOf (fsType target : String) (mount : MountIdentity) : Bool :=
  mount.target == target && mount.fsType == some fsType

def mountedOnce (fsType : String) (identity : TargetIdentityManifest) (expected : String) : Bool :=
  safeAbsolutePath expected && identity.mounts.countP (isMountOf fsType expected) == 1

def compileGrowFilesystem (planStepId : Nat) (fsType : String) (mountpoint : Option String)
    (identity : TargetIdentityManifest) : Except PrivilegedArgvError PrivilegedCommandSpec := do
  let filesystem ← okOr identity.filesystem .filesystemIdentityMissing
  refuse (filesystem.device ≠ identity.resolvedDevice ∨ filesystem.fsType ≠ fsType ∨
    ¬safeDevicePath filesystem.device) .filesystemMismatch
  if fsType = "ext4" then
    refuse (¬(mountpoint.elim identity.mounts.isEmpty (mountedOnce fsType identity)))
      .filesystemMountMismatch
    pure
      { planStepId
        program := .resize2fs
        args := [filesystem.device]
        stdinPayload := none
        kernelRefresh := none }
  else if fsType = "xfs" then
    let mountpoint ← okOr mountpoint .filesystemMountMismatch
    refuse (¬mountedOnce fsType identity mountpoint) .filesystemMountMismatch
    pure
      { planStepId
        program := .xfsGrowfs
        args := ["-d", mountpoint]
        stdinPayload := none
        kernelRefresh := none }
  else .error .filesystemMismatch

def compileOperation (planStepId : Nat) (operation : NativeOperationSpec)
    (identity : TargetIdentityManifest) : Except PrivilegedArgvError PrivilegedCommandSpec :=
  match operation with
  | .extendPartition partition startSector oldSizeSectors newSizeSectors sectorSizeBytes =>
    compileExtendPartition planStepId partition startSector oldSizeSectors newSizeSectors
      sectorSizeBytes identity
  | .resizePhysicalVolume pvUuid expectedPvSizeBytes =>
    compileResizePhysicalVolume planStepId pvUuid expectedPvSizeBytes identity
  | .extendLogicalVolume lvUuid additionalExtents expectedLvSizeBytes =>
    compileExtendLogicalVolume planStepId lvUuid additionalExtents expectedLvSizeBytes identity
  | .growFilesystem fsType mountpoint => compileGrowFilesystem planStepId fsType mountpoint identity
  | _ => .error .unsupportedOperation

def compilePrivilegedHelperCommand [Fingerprint] (request : PrivilegedHelperRequest)
    (liveIdentity : TargetIdentityManifest) :
    Except PrivilegedArgvError PrivilegedCommandSpec := do
  (validatePrivilegedHelperRequest request).mapError .protocol
  (validatePrivilegedHelperLiveIdentity request liveIdentity).mapError .protocol
  compileOperation request.planStepId request.operation liveIdentity

example : partitionNumber "/dev/nvme0n1p12" "/dev/nvme0n1" = some 12 := by decide

end StorageManager.Executor
