import StorageManager.Core.DeviceTree
import StorageManager.Executor.CreatePreflight
import StorageManager.Executor.CreateRuntime
import StorageManager.Executor.PrivilegedPrepared
import StorageManager.Executor.SwapHost
import StorageManager.Lib.Looking

/-!
# The mount of a created filesystem

A completed create may be mounted on an empty directory of root. The activation freezes the
filesystem by its UUID and the directory by its inode; nothing is mounted here.
-/

namespace StorageManager.Executor.Create.Mount

open StorageManager.Core
open Lib
open Lib.Checks
open Lib.Effects
open Lib.Json (ToJson toJson)
open Lib.RecordFile
open Lib.Looking (orFail)
open Swap (FileMetadata IoError pathComponents pathJoin samePath)
open Discovery (collected)

set_option autoImplicit false

structure ProductionCreateMountActivationIntent where
  schemaVersion : Nat
  mountActivationId : String
  createActivationId : String
  filesystemReceiptId : String
  journalId : String
  launchId : String
  disk : String
  partitionDevice : String
  filesystem : String
  filesystemUuid : String
  mountpoint : String
  mountpointDeviceId : Nat
  mountpointInode : Nat
  mountpointUid : Nat
  mountpointMode : Nat
  fstabSource : String
  fstabOptions : List String
  fstabDump : Nat
  fstabPass : Nat
  persistToFstab : Bool
  compileFeatureEnabled : Bool
  executionEnabled : Bool
  mountPerformed : Bool
  fstabChanged : Bool
  deriving DecidableEq

inductive ProductionCreateMountActivationError where
  | authorizationInvalid
  | filesystemBindingMismatch
  | filesystemUuidInvalid
  | unsafeMountpoint
  | mountpointNotEmpty
  | runtimeConflict
  | fstabConflict
  | io (path : String) (source : IoError)
  deriving DecidableEq

section Host

/-- What the mount asks of the host. An open file is a number. -/
inductive MountOp where
  | geteuid
  | discoverSnapshot
  | symlinkMetadata (path : String)
  /-- Does the directory have an entry? -/
  | readDir (path : String)
  | resolveTool (program : PrivilegedProgram)
  | openRead (path : String)
  | fstat (file : Nat)
  | sha256OpenFile (file expectedSize : Nat)
  | inspectElf (file : Nat)
  | openPipes
  | spawn (stage : DescriptorStage Nat)

@[reducible] def mountEnv : Env where
  Op := MountOp
  Ans
    | .geteuid => Nat
    | .discoverSnapshot => Except String HostSnapshot
    | .symlinkMetadata _ => Except IoError FileMetadata
    | .readDir _ => Except IoError Bool
    | .resolveTool _ => Except TrustedToolError TrustedToolIdentity
    | .openRead _ => Except IoError Nat
    | .fstat _ => Except IoError FileMetadata
    | .sha256OpenFile _ _ => Except IoError String
    | .inspectElf _ => Except PrivilegedLaunch.PrivilegedLaunchSpecError ElfExecutionIdentity
    | .openPipes => Except String Unit
    | .spawn _ => Except PrivilegedDescriptorExecError DescriptorExecOutcome

variable {ρ μ ε : Type}

def mountAsk (op : MountOp) : FileProc ρ mountEnv μ ε (mountEnv.Ans op) := ask (E := mountEnv) op

def statPath (io : String → IoError → ε) (path : String) : FileProc ρ mountEnv μ ε FileMetadata :=
  orFail (io path) (mountAsk (.symlinkMetadata path))

/-- Every directory on the way down, as it is now. -/
def inspectDescent (io : String → IoError → ε) (bad : FileMetadata → Bool) (refused : ε) :
    String → List String → FileProc ρ mountEnv μ ε Unit
  | _, [] => pure ()
  | current, component :: rest => do
    let here := pathJoin current component
    let metadata ← statPath io here
    Proc.lift (refuse (bad metadata) refused)
    inspectDescent io bad refused here rest

def requireEmptyDirectory (io : String → IoError → ε) (notEmpty : ε) (path : String) :
    FileProc ρ mountEnv μ ε Unit := do
  let occupied ← orFail (io path) (mountAsk (.readDir path))
  Proc.lift (refuse (occupied = true) notEmpty)

end Host

section Paths

def safeAbsolutePath (path : String) : Bool :=
  startsWith path "/" && pathComponents path ≠ [] && (pathComponents path).all (· ≠ "..")

def reservedMountpoint (path : String) : Bool :=
  ["/boot", "/dev", "/etc", "/home", "/proc", "/root", "/run", "/sys", "/tmp", "/usr", "/var"].any
    (samePath path)

/-- Is the text usable as a path argument? -/
def plainText (value : String) : Bool :=
  value ≠ "" && !value.toList.contains '\x00' && !value.toList.any isControl

def notPrivateDirectory (metadata : FileMetadata) : Bool :=
  metadata.isSymlink || !metadata.isDir || metadata.writableByOthers

def inspectSafeEmptyMountpoint {ρ μ : Type} (mountpoint : String) (requiredUid : Nat) :
    FileProc ρ mountEnv μ ProductionCreateMountActivationError FileMetadata := do
  Proc.lift (refuse (¬plainText mountpoint) .unsafeMountpoint)
  Proc.lift (refuse (¬safeAbsolutePath mountpoint ∨ reservedMountpoint mountpoint)
    .unsafeMountpoint)
  inspectDescent .io notPrivateDirectory .unsafeMountpoint "/" (pathComponents mountpoint)
  let metadata ← statPath .io mountpoint
  Proc.lift (refuse (metadata.uid ≠ requiredUid ∨ notPrivateDirectory metadata) .unsafeMountpoint)
  requireEmptyDirectory .io .mountpointNotEmpty mountpoint
  pure metadata

end Paths

section Snapshots

/-- Hyphens at their four places, hexadecimal digits elsewhere. -/
def canonicalFilesystemUuid (value : String) : Bool :=
  value.utf8ByteSize == 36 && value.toList.zipIdx.all fun c =>
    if c.2 ∈ [8, 13, 18, 23] then c.1 == '-' else (hexDigit c.1).isSome

def uuidSource (uuid : String) : String := s!"UUID={uuid}"

/-- `expected_partition_device`. -/
def expectedPartitionDevice (disk : String) : Option String :=
  if ¬startsWith disk "/dev/" ∨ disk.toList.contains '\x00' ∨
      disk.utf8ByteSize ≤ "/dev/".utf8ByteSize ∨ disk.endsWith "/" then none
  else if disk.toList.getLast?.any Char.isDigit then some s!"{disk}p1"
  else some s!"{disk}1"

/-- `["defaults", "nofail"]`. -/
def defaultFstabOptions : List String := ["defaults", "nofail"]

def expectedFstabPass (filesystem : String) : Nat := if filesystem = "ext4" then 2 else 0

variable {ε : Type}

/-- The table of the disk has one record, and it is the created partition. -/
def checkCreatedTable (create : ProductionCreateActivationIntent) (partitionDevice : String)
    (snapshot : HostSnapshot) (mismatch : ε) : Except ε Unit := do
  let table ← unique (·.device = create.disk) snapshot.partitionTables mismatch
  refuse (table.label ≠ some create.partitionTable.label ∨ table.unit ≠ some "sectors" ∨
      table.sectorSizeBytes ≠ some create.logicalSectorBytes) mismatch
  let record ← unique (fun _ => true) table.partitions mismatch
  refuse (record.node ≠ partitionDevice ∨ record.startSector ≠ create.partitionStartSector ∨
      record.sizeSectors ≠ create.partitionSectorCount) mismatch

/-- The disk and the partition of the create, when each is there once and they are what the
create left. -/
def createdDevices (create : ProductionCreateActivationIntent) (partitionDevice : String)
    (snapshot : HostSnapshot) (mismatch : ε) : Except ε (BlockDevice × BlockDevice) := do
  let nodes := flatten snapshot.storage.blockDevices
  let disk ← unique (fun n => n.device.path = some create.disk) nodes mismatch
  let partition ← unique (fun n => n.device.path = some partitionDevice) nodes mismatch
  let (disk, partition) := (disk.device, partition.device)
  refuse (¬(disk.kind = .disk ∨ disk.kind = .loop) ∨ disk.sizeBytes ≠ create.diskSizeBytes ∨
      disk.logicalSectorBytes ≠ some create.logicalSectorBytes ∨ disk.model ≠ create.diskModel ∨
      disk.serial ≠ create.diskSerial ∨ partition.kind ≠ .partition ∨
      partition.sizeBytes ≠ create.partitionSizeBytes ∨
      partition.logicalSectorBytes ≠ some create.logicalSectorBytes ∨
      partition.parentKernelName ≠ disk.kernelName ∨
      partition.filesystem.all fun fs => fs.fsType != create.filesystem) mismatch
  pure (disk, partition)

/-- `mount_source_matches`. -/
def mountSourceMatches (source : Option String) (partitionDevice uuid : String) : Bool :=
  source.any fun value => value == partitionDevice || eqIgnoreAsciiCase value (uuidSource uuid)

def mountedAlready (snapshot : HostSnapshot) (mountpoint partitionDevice uuid : String) : Bool :=
  snapshot.mounts.any fun entry =>
    entry.target == mountpoint || mountSourceMatches entry.source partitionDevice uuid

def usedAsSwap (snapshot : HostSnapshot) (partitionDevice uuid : String) : Bool :=
  snapshot.swaps.any fun entry =>
    entry.name == partitionDevice || eqIgnoreAsciiCase entry.name (uuidSource uuid)

def boundInFstab (snapshot : HostSnapshot) (mountpoint partitionDevice uuid : String) : Bool :=
  snapshot.fstab.any fun entry => entry.target == mountpoint || entry.source == partitionDevice ||
    eqIgnoreAsciiCase entry.source (uuidSource uuid)

/-- The UUID of the created filesystem, when nothing uses it yet. -/
def freshFilesystemUuid (activation : ProductionCreateActivationIntent)
    (filesystemReceipt : ProductionCreateFilesystemExecutionReceipt) (snapshot : HostSnapshot)
    (mountpoint : String) : Except ProductionCreateMountActivationError String := do
  let partitionDevice := filesystemReceipt.partitionDevice
  refuse (¬collected snapshot "partition_tables") .filesystemBindingMismatch
  checkCreatedTable activation partitionDevice snapshot .filesystemBindingMismatch
  let devices ← createdDevices activation partitionDevice snapshot .filesystemBindingMismatch
  refuse (devices.2.mountpoints ≠ []) .filesystemBindingMismatch
  let uuid ← okOr (devices.2.uuid.filter canonicalFilesystemUuid) .filesystemUuidInvalid
  refuse (mountedAlready snapshot mountpoint partitionDevice uuid ∨
      usedAsSwap snapshot partitionDevice uuid) .runtimeConflict
  refuse (boundInFstab snapshot mountpoint partitionDevice uuid) .fstabConflict
  pure uuid

end Snapshots

section Activation

variable [Fingerprint]

def ProductionCreateMountActivationIntent.expectedMountActivationId
    (a : ProductionCreateMountActivationIntent) : String :=
  fingerprint (.obj [("schema_version", toJson a.schemaVersion),
    ("create_activation_id", toJson a.createActivationId),
    ("filesystem_receipt_id", toJson a.filesystemReceiptId), ("journal_id", toJson a.journalId),
    ("launch_id", toJson a.launchId), ("disk", toJson a.disk),
    ("partition_device", toJson a.partitionDevice), ("filesystem", toJson a.filesystem),
    ("filesystem_uuid", toJson a.filesystemUuid), ("mountpoint", toJson a.mountpoint),
    ("mountpoint_device_id", toJson a.mountpointDeviceId),
    ("mountpoint_inode", toJson a.mountpointInode), ("mountpoint_uid", toJson a.mountpointUid),
    ("mountpoint_mode", toJson a.mountpointMode), ("fstab_source", toJson a.fstabSource),
    ("fstab_options", toJson a.fstabOptions), ("fstab_dump", toJson a.fstabDump),
    ("fstab_pass", toJson a.fstabPass), ("persist_to_fstab", toJson a.persistToFstab),
    ("compile_feature_enabled", toJson a.compileFeatureEnabled),
    ("execution_enabled", toJson a.executionEnabled),
    ("mount_performed", toJson a.mountPerformed), ("fstab_changed", toJson a.fstabChanged)])

def ProductionCreateMountActivationIntent.integrityMatches
    (a : ProductionCreateMountActivationIntent) : Bool :=
  a.mountActivationId == a.expectedMountActivationId

def verifyCompletedChain (activation : ProductionCreateActivationIntent)
    (filesystemReceipt : ProductionCreateFilesystemExecutionReceipt)
    (journal : ProductionCreateRuntimeJournal) :
    Except ProductionCreateMountActivationError Unit :=
  refuse (activation.schemaVersion ≠ 1 ∨ filesystemReceipt.schemaVersion ≠ 1 ∨
      journal.schemaVersion ≠ 1 ∨ ¬activation.integrityMatches ∨
      filesystemReceipt.receiptId ≠ filesystemReceipt.expectedReceiptId ∨
      ¬journal.integrityMatches ∨ ¬filesystemReceipt.partitionMappedVerified ∨
      ¬filesystemReceipt.filesystemFormatted ∨ ¬filesystemReceipt.journalCompleted ∨
      journal.phase ≠ .completed ∨ ¬journal.mutationMayHaveStarted ∨
      ¬journal.partitionTableMayHaveChanged ∨
      ¬journal.filesystemMayHaveChanged ∨ filesystemReceipt.journalId ≠ journal.journalId ∨
      filesystemReceipt.launchId ≠ journal.launchId ∨ filesystemReceipt.disk ≠ activation.disk ∨
      filesystemReceipt.disk ≠ journal.disk ∨
      filesystemReceipt.partitionDevice ≠ journal.partitionDevice ∨
      filesystemReceipt.filesystem ≠ activation.filesystem ∨
      filesystemReceipt.filesystem ≠ journal.filesystem ∨
      journal.activationId ≠ activation.activationId) .authorizationInvalid

/-- The activation of a filesystem with this UUID on this directory. -/
def mountActivationFor (activation : ProductionCreateActivationIntent)
    (filesystemReceipt : ProductionCreateFilesystemExecutionReceipt)
    (journal : ProductionCreateRuntimeJournal) (mountpoint filesystemUuid : String)
    (metadata : FileMetadata) (persistToFstab : Bool) : ProductionCreateMountActivationIntent :=
  let intent : ProductionCreateMountActivationIntent :=
    { schemaVersion := 1
      mountActivationId := ""
      createActivationId := activation.activationId
      filesystemReceiptId := filesystemReceipt.receiptId
      journalId := journal.journalId
      launchId := filesystemReceipt.launchId
      disk := activation.disk
      partitionDevice := filesystemReceipt.partitionDevice
      filesystem := activation.filesystem
      filesystemUuid := filesystemUuid
      mountpoint := mountpoint
      mountpointDeviceId := metadata.dev
      mountpointInode := metadata.ino
      mountpointUid := metadata.uid
      mountpointMode := metadata.mode
      fstabSource := uuidSource filesystemUuid
      fstabOptions := defaultFstabOptions
      fstabDump := 0
      fstabPass := expectedFstabPass activation.filesystem
      persistToFstab := persistToFstab
      compileFeatureEnabled := true
      executionEnabled := false
      mountPerformed := false
      fstabChanged := false }
  { intent with mountActivationId := intent.expectedMountActivationId }

/-- In a build that has the activation feature. -/
def sealProductionCreateMountActivationIntent {ρ μ : Type}
    (activation : ProductionCreateActivationIntent)
    (filesystemReceipt : ProductionCreateFilesystemExecutionReceipt)
    (journal : ProductionCreateRuntimeJournal) (snapshot : HostSnapshot) (mountpoint : String)
    (persistToFstab : Bool) : FileProc ρ mountEnv μ ProductionCreateMountActivationError
      ProductionCreateMountActivationIntent := do
  Proc.lift (verifyCompletedChain activation filesystemReceipt journal)
  let filesystemUuid ← Proc.lift
    (freshFilesystemUuid activation filesystemReceipt snapshot mountpoint)
  let metadata ← inspectSafeEmptyMountpoint mountpoint 0
  pure (mountActivationFor activation filesystemReceipt journal mountpoint filesystemUuid metadata
    persistToFstab)

end Activation

end StorageManager.Executor.Create.Mount
