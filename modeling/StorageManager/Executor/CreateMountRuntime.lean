import StorageManager.Executor.CreateMount

/-!
# The runtime of a mount

Before a mount the host is looked at again: the filesystem must be the frozen one and unused, and
the directory must still be the frozen inode and empty. The launch is built on the pinned mount
executable after another look at the directory. No process is spawned here.
-/

namespace StorageManager.Executor.Create.Mount

open StorageManager.Core
open Lib
open Lib.Checks
open Lib.Effects
open Lib.Json (ToJson toJson)
open Lib.RecordFile
open Lib.Looking (orFail)
open Swap (FileMetadata IoError pathComponents)
open Discovery (collected)

set_option autoImplicit false

section Records

structure ProductionCreateMountRuntimePreflightReceipt where
  schemaVersion : Nat
  receiptId : String
  mountActivationId : String
  createActivationId : String
  filesystemReceiptId : String
  journalId : String
  createLaunchId : String
  disk : String
  partitionDevice : String
  filesystem : String
  filesystemUuid : String
  mountpoint : String
  mountpointDeviceId : Nat
  mountpointInode : Nat
  mountpointUid : Nat
  mountpointMode : Nat
  fstabSource : String
  mount : TrustedToolIdentity
  runtimeReady : Bool
  executionEnabled : Bool
  processSpawned : Bool
  mountPerformed : Bool
  fstabChanged : Bool
  deriving DecidableEq

/-- The open executable and the preflight it was pinned for. -/
structure PinnedProductionCreateMountTool where
  preflightReceiptId : String
  mount : TrustedToolIdentity
  mountFile : Nat

structure ProductionCreateMountLaunchStage where
  program : PrivilegedProgram
  argv : List String
  executable : TrustedToolIdentity
  elf : ElfExecutionIdentity
  stdinLen : Nat
  stdinSha256 : Option String
  deriving DecidableEq

instance : ToJson ProductionCreateMountLaunchStage where
  toJson s := .obj [("program", toJson s.program), ("argv", toJson s.argv),
    ("executable", toJson s.executable), ("elf", toJson s.elf), ("stdin_len", toJson s.stdinLen),
    ("stdin_sha256", toJson s.stdinSha256)]

structure ProductionCreateMountRuntimeLaunchSpec where
  schemaVersion : Nat
  launchId : String
  mountActivationId : String
  preflightReceiptId : String
  disk : String
  partitionDevice : String
  filesystem : String
  filesystemUuid : String
  mountpoint : String
  fstabSource : String
  mount : ProductionCreateMountLaunchStage
  fixedPath : String
  fixedLocale : String
  descriptorExecApi : String
  requireMountpointIdentityRevalidationBeforeSpawn : Bool
  mtabWriteEnabled : Bool
  executionEnabled : Bool
  processSpawned : Bool
  mountPerformed : Bool
  fstabChanged : Bool
  deriving DecidableEq

inductive ProductionCreateMountRuntimePreflightError where
  | authorizationInvalid
  | bindingMismatch
  | collectorIncomplete
  | filesystemBindingMismatch
  | filesystemUuidMismatch
  | mountpointIdentityChanged
  | mountpointNotEmpty
  | runtimeConflict
  | fstabConflict
  | mountpointIo (path : String) (source : IoError)
  | tool (source : TrustedToolError)
  | discovery (source : String)
  deriving DecidableEq

inductive ProductionCreateMountToolLeaseError where
  | preflightInvalid
  | programMismatch
  | toolIdentityMismatch
  | io (source : IoError)
  deriving DecidableEq

inductive ProductionCreateMountRuntimeLaunchError where
  | authorizationInvalid
  | toolLease (source : ProductionCreateMountToolLeaseError)
  | mountpointIdentityChanged
  | mountpointNotEmpty
  | mountpointIo (path : String) (source : IoError)
  | embeddedNul
  | executable (source : PrivilegedLaunch.PrivilegedLaunchSpecError)
  deriving DecidableEq

variable [Fingerprint]

def ProductionCreateMountRuntimePreflightReceipt.expectedReceiptId
    (r : ProductionCreateMountRuntimePreflightReceipt) : String :=
  fingerprint (.obj [("schema_version", toJson r.schemaVersion),
    ("mount_activation_id", toJson r.mountActivationId),
    ("create_activation_id", toJson r.createActivationId),
    ("filesystem_receipt_id", toJson r.filesystemReceiptId), ("journal_id", toJson r.journalId),
    ("create_launch_id", toJson r.createLaunchId), ("disk", toJson r.disk),
    ("partition_device", toJson r.partitionDevice), ("filesystem", toJson r.filesystem),
    ("filesystem_uuid", toJson r.filesystemUuid), ("mountpoint", toJson r.mountpoint),
    ("mountpoint_device_id", toJson r.mountpointDeviceId),
    ("mountpoint_inode", toJson r.mountpointInode), ("mountpoint_uid", toJson r.mountpointUid),
    ("mountpoint_mode", toJson r.mountpointMode), ("fstab_source", toJson r.fstabSource),
    ("mount", toJson r.mount), ("runtime_ready", toJson r.runtimeReady),
    ("execution_enabled", toJson r.executionEnabled),
    ("process_spawned", toJson r.processSpawned), ("mount_performed", toJson r.mountPerformed),
    ("fstab_changed", toJson r.fstabChanged)])

def ProductionCreateMountRuntimePreflightReceipt.integrityMatches
    (r : ProductionCreateMountRuntimePreflightReceipt) : Bool :=
  r.receiptId == r.expectedReceiptId

def ProductionCreateMountRuntimeLaunchSpec.expectedLaunchId
    (l : ProductionCreateMountRuntimeLaunchSpec) : String :=
  fingerprint (.obj [("schema_version", toJson l.schemaVersion),
    ("mount_activation_id", toJson l.mountActivationId),
    ("preflight_receipt_id", toJson l.preflightReceiptId), ("disk", toJson l.disk),
    ("partition_device", toJson l.partitionDevice), ("filesystem", toJson l.filesystem),
    ("filesystem_uuid", toJson l.filesystemUuid), ("mountpoint", toJson l.mountpoint),
    ("fstab_source", toJson l.fstabSource), ("mount", toJson l.mount),
    ("fixed_path", toJson l.fixedPath), ("fixed_locale", toJson l.fixedLocale),
    ("descriptor_exec_api", toJson l.descriptorExecApi),
    ("require_mountpoint_identity_revalidation_before_spawn",
      toJson l.requireMountpointIdentityRevalidationBeforeSpawn),
    ("mtab_write_enabled", toJson l.mtabWriteEnabled),
    ("execution_enabled", toJson l.executionEnabled),
    ("process_spawned", toJson l.processSpawned), ("mount_performed", toJson l.mountPerformed),
    ("fstab_changed", toJson l.fstabChanged)])

def ProductionCreateMountRuntimeLaunchSpec.integrityMatches
    (l : ProductionCreateMountRuntimeLaunchSpec) : Bool :=
  l.launchId == l.expectedLaunchId

end Records

section Preflight

/-- `required_collectors_complete`. -/
def requiredCollectorsComplete (snapshot : HostSnapshot) : Bool :=
  ["lsblk", "partition_tables", "mounts", "fstab", "swap"].all (collected snapshot)

def notRootDirectory (metadata : FileMetadata) : Bool :=
  metadata.uid ≠ 0 || notPrivateDirectory metadata

def revalidateMountpointIdentity {ρ μ : Type} (activation : ProductionCreateMountActivationIntent) :
    FileProc ρ mountEnv μ ProductionCreateMountRuntimePreflightError Unit := do
  Proc.lift (refuse (¬plainText activation.mountpoint ∨ activation.mountpointUid ≠ 0 ∨
      activation.mountpointMode &&& 0o022 ≠ 0) .mountpointIdentityChanged)
  Proc.lift (refuse (¬safeAbsolutePath activation.mountpoint ∨
      reservedMountpoint activation.mountpoint) .mountpointIdentityChanged)
  inspectDescent .mountpointIo notRootDirectory .mountpointIdentityChanged "/"
    (pathComponents activation.mountpoint)
  let metadata ← statPath .mountpointIo activation.mountpoint
  Proc.lift (refuse (metadata.isSymlink ∨ ¬metadata.isDir ∨
      metadata.dev ≠ activation.mountpointDeviceId ∨ metadata.ino ≠ activation.mountpointInode ∨
      metadata.uid ≠ activation.mountpointUid ∨ metadata.mode ≠ activation.mountpointMode)
    .mountpointIdentityChanged)
  requireEmptyDirectory .mountpointIo .mountpointNotEmpty activation.mountpoint

def validateFreshSnapshot (create : ProductionCreateActivationIntent)
    (mount : ProductionCreateMountActivationIntent) (snapshot : HostSnapshot) :
    Except ProductionCreateMountRuntimePreflightError Unit := do
  refuse (¬requiredCollectorsComplete snapshot) .collectorIncomplete
  checkCreatedTable create mount.partitionDevice snapshot .filesystemBindingMismatch
  let devices ← createdDevices create mount.partitionDevice snapshot .filesystemBindingMismatch
  refuse (devices.1.partitionTable ≠ some create.partitionTable.label ∨
      devices.2.mountpoints ≠ []) .filesystemBindingMismatch
  refuse (devices.2.uuid.all fun uuid => !eqIgnoreAsciiCase uuid mount.filesystemUuid)
    .filesystemUuidMismatch
  refuse (mountedAlready snapshot mount.mountpoint mount.partitionDevice mount.filesystemUuid ∨
      usedAsSwap snapshot mount.partitionDevice mount.filesystemUuid) .runtimeConflict
  refuse (boundInFstab snapshot mount.mountpoint mount.partitionDevice mount.filesystemUuid)
    .fstabConflict

variable [Fingerprint] {ρ μ : Type}

def validateActivationBinding (create : ProductionCreateActivationIntent)
    (mount : ProductionCreateMountActivationIntent) :
    Except ProductionCreateMountRuntimePreflightError Unit := do
  refuse (create.schemaVersion ≠ 1 ∨ mount.schemaVersion ≠ 1 ∨ ¬create.integrityMatches ∨
      ¬mount.integrityMatches ∨ ¬create.compileFeatureEnabled ∨ ¬mount.compileFeatureEnabled ∨
      create.executionEnabled ∨ create.partitionTableChanged ∨ create.filesystemFormatted ∨
      mount.executionEnabled ∨ mount.mountPerformed ∨ mount.fstabChanged) .authorizationInvalid
  let expectedPartition ← okOr (expectedPartitionDevice create.disk) .bindingMismatch
  refuse (mount.createActivationId ≠ create.activationId ∨ mount.disk ≠ create.disk ∨
      mount.partitionDevice ≠ expectedPartition ∨ mount.filesystem ≠ create.filesystem ∨
      mount.fstabSource ≠ uuidSource mount.filesystemUuid ∨
      mount.fstabOptions ≠ defaultFstabOptions ∨ mount.fstabDump ≠ 0 ∨
      mount.fstabPass ≠ expectedFstabPass create.filesystem ∨ mount.mountpointUid ≠ 0 ∨
      mount.mountpointMode &&& 0o022 ≠ 0) .bindingMismatch

/-- The receipt of a preflight that found this executable. -/
def preflightReceiptFor (create : ProductionCreateActivationIntent)
    (activation : ProductionCreateMountActivationIntent) (mountTool : TrustedToolIdentity) :
    ProductionCreateMountRuntimePreflightReceipt :=
  let receipt : ProductionCreateMountRuntimePreflightReceipt :=
    { schemaVersion := 1
      receiptId := ""
      mountActivationId := activation.mountActivationId
      createActivationId := create.activationId
      filesystemReceiptId := activation.filesystemReceiptId
      journalId := activation.journalId
      createLaunchId := activation.launchId
      disk := activation.disk
      partitionDevice := activation.partitionDevice
      filesystem := activation.filesystem
      filesystemUuid := activation.filesystemUuid
      mountpoint := activation.mountpoint
      mountpointDeviceId := activation.mountpointDeviceId
      mountpointInode := activation.mountpointInode
      mountpointUid := activation.mountpointUid
      mountpointMode := activation.mountpointMode
      fstabSource := activation.fstabSource
      mount := mountTool
      runtimeReady := true
      executionEnabled := false
      processSpawned := false
      mountPerformed := false
      fstabChanged := false }
  { receipt with receiptId := receipt.expectedReceiptId }

/-- `prepare_from_snapshot`, in a build that has the preflight feature. -/
def prepareFromSnapshot (create : ProductionCreateActivationIntent)
    (activation : ProductionCreateMountActivationIntent) (snapshot : HostSnapshot) :
    FileProc ρ mountEnv μ ProductionCreateMountRuntimePreflightError
      ProductionCreateMountRuntimePreflightReceipt := do
  Proc.lift (validateActivationBinding create activation)
  Proc.lift (validateFreshSnapshot create activation snapshot)
  revalidateMountpointIdentity activation
  let mountTool ← orFail .tool (mountAsk (.resolveTool .mount))
  pure (preflightReceiptFor create activation mountTool)

def prepareProductionCreateMountRuntimePreflight (create : ProductionCreateActivationIntent)
    (activation : ProductionCreateMountActivationIntent) :
    FileProc ρ mountEnv μ ProductionCreateMountRuntimePreflightError
      ProductionCreateMountRuntimePreflightReceipt := do
  let snapshot ← orFail .discovery (mountAsk .discoverSnapshot)
  prepareFromSnapshot create activation snapshot

end Preflight

section Tool

variable [Fingerprint] {ρ μ : Type}

def validateMountPreflightReceipt (preflight : ProductionCreateMountRuntimePreflightReceipt) :
    Except ProductionCreateMountToolLeaseError Unit := do
  refuse (preflight.schemaVersion ≠ 1 ∨ ¬preflight.integrityMatches ∨ ¬preflight.runtimeReady ∨
      preflight.executionEnabled ∨ preflight.processSpawned ∨ preflight.mountPerformed ∨
      preflight.fstabChanged) .preflightInvalid
  refuse (preflight.mount.program ≠ .mount) .programMismatch

omit [Fingerprint] in
/-- The file is hashed only when its metadata is the frozen one. -/
def validateOpenMountTool (file : Nat) (identity : TrustedToolIdentity) :
    FileProc ρ mountEnv μ ProductionCreateMountToolLeaseError Unit := do
  let metadata ← orFail .io (mountAsk (.fstat file))
  Proc.lift (refuse (identity.program ≠ .mount) .programMismatch)
  Proc.lift (refuse (¬metadata.isFile ∨ metadata.dev ≠ identity.deviceId ∨
      metadata.ino ≠ identity.inode ∨ metadata.uid ≠ identity.uid ∨
      metadata.mode ≠ identity.mode ∨ metadata.len ≠ identity.sizeBytes) .toolIdentityMismatch)
  let sha256 ← orFail .io (mountAsk (.sha256OpenFile file identity.sizeBytes))
  Proc.lift (refuse (sha256 ≠ identity.sha256) .toolIdentityMismatch)

def pinProductionCreateMountTool (preflight : ProductionCreateMountRuntimePreflightReceipt) :
    FileProc ρ mountEnv μ ProductionCreateMountToolLeaseError PinnedProductionCreateMountTool := do
  Proc.lift (validateMountPreflightReceipt preflight)
  let file ← orFail .io (mountAsk (.openRead preflight.mount.canonicalPath))
  validateOpenMountTool file preflight.mount
  pure ⟨preflight.receiptId, preflight.mount, file⟩

def PinnedProductionCreateMountTool.revalidate (tool : PinnedProductionCreateMountTool)
    (preflight : ProductionCreateMountRuntimePreflightReceipt) :
    FileProc ρ mountEnv μ ProductionCreateMountToolLeaseError Unit := do
  Proc.lift (validateMountPreflightReceipt preflight)
  Proc.lift (refuse (tool.preflightReceiptId ≠ preflight.receiptId ∨ tool.mount ≠ preflight.mount)
    .preflightInvalid)
  validateOpenMountTool tool.mountFile tool.mount

end Tool

section Launch

def exactMountArgv (filesystem source mountpoint : String) :
    Except ProductionCreateMountRuntimeLaunchError (List String) := do
  checkAll (fun value => refuse (¬plainText value) .embeddedNul) [filesystem, source, mountpoint]
  pure ["mount", "-n", "-t", filesystem, "-o", "rw", source, mountpoint]

def mapMountpointLaunchError :
    ProductionCreateMountRuntimePreflightError → ProductionCreateMountRuntimeLaunchError
  | .mountpointNotEmpty => .mountpointNotEmpty
  | .mountpointIo path source => .mountpointIo path source
  | _ => .mountpointIdentityChanged

variable [Fingerprint] {ρ μ : Type}

def validateLaunchBinding (activation : ProductionCreateMountActivationIntent)
    (preflight : ProductionCreateMountRuntimePreflightReceipt) :
    Except ProductionCreateMountRuntimeLaunchError Unit := do
  (validateMountPreflightReceipt preflight).mapError fun _ => .authorizationInvalid
  refuse (activation.schemaVersion ≠ 1 ∨ ¬activation.integrityMatches ∨
      ¬activation.compileFeatureEnabled ∨ activation.executionEnabled ∨
      activation.mountPerformed ∨ activation.fstabChanged ∨
      preflight.mountActivationId ≠ activation.mountActivationId ∨
      preflight.createActivationId ≠ activation.createActivationId ∨
      preflight.filesystemReceiptId ≠ activation.filesystemReceiptId ∨
      preflight.journalId ≠ activation.journalId ∨
      preflight.createLaunchId ≠ activation.launchId ∨ preflight.disk ≠ activation.disk ∨
      preflight.partitionDevice ≠ activation.partitionDevice ∨
      preflight.filesystem ≠ activation.filesystem ∨
      ¬eqIgnoreAsciiCase preflight.filesystemUuid activation.filesystemUuid ∨
      preflight.mountpoint ≠ activation.mountpoint ∨
      preflight.mountpointDeviceId ≠ activation.mountpointDeviceId ∨
      preflight.mountpointInode ≠ activation.mountpointInode ∨
      preflight.mountpointUid ≠ activation.mountpointUid ∨
      preflight.mountpointMode ≠ activation.mountpointMode ∨
      preflight.fstabSource ≠ activation.fstabSource) .authorizationInvalid

/-- The launch of this stage. -/
def launchSpecFor (activation : ProductionCreateMountActivationIntent)
    (preflight : ProductionCreateMountRuntimePreflightReceipt)
    (stage : ProductionCreateMountLaunchStage) : ProductionCreateMountRuntimeLaunchSpec :=
  let launch : ProductionCreateMountRuntimeLaunchSpec :=
    { schemaVersion := 1
      launchId := ""
      mountActivationId := activation.mountActivationId
      preflightReceiptId := preflight.receiptId
      disk := activation.disk
      partitionDevice := activation.partitionDevice
      filesystem := activation.filesystem
      filesystemUuid := activation.filesystemUuid
      mountpoint := activation.mountpoint
      fstabSource := activation.fstabSource
      mount := stage
      fixedPath := fixedPath
      fixedLocale := fixedLocale
      descriptorExecApi := "fexecve"
      requireMountpointIdentityRevalidationBeforeSpawn := true
      mtabWriteEnabled := false
      executionEnabled := false
      processSpawned := false
      mountPerformed := false
      fstabChanged := false }
  { launch with launchId := launch.expectedLaunchId }

def buildProductionCreateMountRuntimeLaunchSpec
    (activation : ProductionCreateMountActivationIntent)
    (preflight : ProductionCreateMountRuntimePreflightReceipt)
    (tool : PinnedProductionCreateMountTool) :
    FileProc ρ mountEnv μ ProductionCreateMountRuntimeLaunchError
      ProductionCreateMountRuntimeLaunchSpec := do
  Proc.lift (validateLaunchBinding activation preflight)
  (tool.revalidate preflight).mapError .toolLease
  (revalidateMountpointIdentity activation).mapError mapMountpointLaunchError
  let argv ← Proc.lift
    (exactMountArgv activation.filesystem activation.fstabSource activation.mountpoint)
  let elf ← orFail .executable (mountAsk (.inspectElf tool.mountFile))
  pure (launchSpecFor activation preflight
    { program := .mount
      argv := argv
      executable := preflight.mount
      elf := elf
      stdinLen := 0
      stdinSha256 := none })

end Launch

end StorageManager.Executor.Create.Mount
