import StorageManager.Executor.CreateMountJournal
import StorageManager.Lib.Journaled

/-!
# The mount crossing

The preflight and the launch are made again and must be the supplied ones; then the journal is
Mounting, mount runs on the pinned executable, and a discovery must find the filesystem mounted
and fstab as it was. From Mounting on, whatever fails is recorded as RecoveryRequired.
-/

namespace StorageManager.Executor.Create.Mount

open StorageManager.Core
open Lib
open Lib.Checks
open Lib.Effects
open Lib.Json (toJson)
open Lib.RecordFile
open Lib.Looking (orFail)
open Create (boundedStderr)

set_option autoImplicit false

/-- `POST_MOUNT_REDISCOVERY_ATTEMPTS`. -/
def postMountRediscoveryAttempts : Nat := 20

structure ProductionCreateMountRuntimeExecutionReceipt where
  schemaVersion : Nat
  receiptId : String
  mountJournalId : String
  mountLaunchId : String
  mountActivationId : String
  partitionDevice : String
  filesystem : String
  filesystemUuid : String
  mountpoint : String
  mountedVerified : Bool
  fstabChanged : Bool
  deriving DecidableEq

/-- Where the source keeps the text of another error, the error itself is kept. -/
inductive ProductionCreateMountRuntimeExecutionError where
  | rootRequired
  | authorizationInvalid
  | journalMismatch
  | preflight (source : ProductionCreateMountRuntimePreflightError)
  | launch (source : ProductionCreateMountRuntimeLaunchError)
  | descriptor (source : PrivilegedDescriptorExecError)
  | journal (source : ProductionCreateMountRuntimeJournalError)
  | stageFailed (exitCode : Int) (stderr : List UInt8)
  | rediscovery (last : Option (String ⊕ ProductionCreateMountRuntimeExecutionError))
  | mountVerificationMismatch
  | persistentConfigChanged
  | recoveryPersistenceFailed (runtime : ProductionCreateMountRuntimeExecutionError)
      (journal : ProductionCreateMountRuntimeJournalError)

/-- The filesystem is mounted read-write on the mountpoint and nowhere else, and neither fstab
nor the swaps know it. -/
def verifyMountedSnapshot (create : ProductionCreateActivationIntent)
    (activation : ProductionCreateMountActivationIntent) (snapshot : HostSnapshot) :
    Except ProductionCreateMountRuntimeExecutionError Unit := do
  let (partitionDevice, uuid) := (activation.partitionDevice, activation.filesystemUuid)
  refuse (¬requiredCollectorsComplete snapshot) .mountVerificationMismatch
  checkCreatedTable create partitionDevice snapshot .mountVerificationMismatch
  let devices ← createdDevices create partitionDevice snapshot .mountVerificationMismatch
  refuse (devices.1.partitionTable ≠ some create.partitionTable.label ∨
      (devices.2.uuid.all fun found => !eqIgnoreAsciiCase found uuid) ∨
      devices.2.mountpoints ≠ [activation.mountpoint]) .mountVerificationMismatch
  let mounted ← unique (·.target = activation.mountpoint) snapshot.mounts
    .mountVerificationMismatch
  refuse (¬mountSourceMatches mounted.source partitionDevice uuid ∨
      mounted.fsType ≠ some activation.filesystem ∨ "rw" ∉ mounted.options ∨
      "ro" ∈ mounted.options) .mountVerificationMismatch
  refuse (∃ entry ∈ snapshot.mounts, entry.target ≠ activation.mountpoint ∧
      mountSourceMatches entry.source partitionDevice uuid = true) .mountVerificationMismatch
  refuse (boundInFstab snapshot activation.mountpoint partitionDevice uuid)
    .persistentConfigChanged
  refuse (usedAsSwap snapshot partitionDevice uuid) .mountVerificationMismatch

/-- `discover_exact_mount`, with the attempts that are left and the last failure. -/
def discoverExactMount {ρ μ : Type} (create : ProductionCreateActivationIntent)
    (activation : ProductionCreateMountActivationIntent) :
    Nat → Option (String ⊕ ProductionCreateMountRuntimeExecutionError) →
      FileProc ρ mountEnv μ ProductionCreateMountRuntimeExecutionError Unit
  | 0, last => Proc.throw (.rediscovery last)
  | attempts + 1, _ => do
    match ← mountAsk .discoverSnapshot with
    | .error e => discoverExactMount create activation attempts (some (.inl e))
    | .ok snapshot =>
      match verifyMountedSnapshot create activation snapshot with
      | .ok () => pure ()
      | .error .persistentConfigChanged => Proc.throw .persistentConfigChanged
      | .error e => discoverExactMount create activation attempts (some (.inr e))

section Crossing

variable [Fingerprint]

def ProductionCreateMountRuntimeExecutionReceipt.expectedReceiptId
    (r : ProductionCreateMountRuntimeExecutionReceipt) : String :=
  fingerprint (.obj [("schema_version", toJson r.schemaVersion),
    ("mount_journal_id", toJson r.mountJournalId), ("mount_launch_id", toJson r.mountLaunchId),
    ("mount_activation_id", toJson r.mountActivationId),
    ("partition_device", toJson r.partitionDevice), ("filesystem", toJson r.filesystem),
    ("filesystem_uuid", toJson r.filesystemUuid), ("mountpoint", toJson r.mountpoint),
    ("mounted_verified", toJson r.mountedVerified), ("fstab_changed", toJson r.fstabChanged)])

def validateStaticChain (create : ProductionCreateActivationIntent)
    (activation : ProductionCreateMountActivationIntent)
    (preflight : ProductionCreateMountRuntimePreflightReceipt)
    (launch : ProductionCreateMountRuntimeLaunchSpec)
    (journal : ProductionCreateMountRuntimeJournal) :
    Except ProductionCreateMountRuntimeExecutionError Unit := do
  refuse (create.schemaVersion ≠ 1 ∨ activation.schemaVersion ≠ 1 ∨ preflight.schemaVersion ≠ 1 ∨
      launch.schemaVersion ≠ 1 ∨ journal.schemaVersion ≠ 1 ∨ ¬create.integrityMatches ∨
      ¬activation.integrityMatches ∨ ¬preflight.integrityMatches ∨ ¬launch.integrityMatches ∨
      ¬journal.integrityMatches ∨ ¬create.compileFeatureEnabled ∨
      ¬activation.compileFeatureEnabled ∨ ¬preflight.runtimeReady ∨ create.executionEnabled ∨
      create.partitionTableChanged ∨ create.filesystemFormatted ∨ activation.executionEnabled ∨
      activation.mountPerformed ∨ activation.fstabChanged ∨ preflight.executionEnabled ∨
      preflight.processSpawned ∨ preflight.mountPerformed ∨ preflight.fstabChanged ∨
      launch.executionEnabled ∨ launch.processSpawned ∨ launch.mountPerformed ∨
      launch.fstabChanged ∨ launch.mtabWriteEnabled ∨
      ¬launch.requireMountpointIdentityRevalidationBeforeSpawn ∨ launch.mount.program ≠ .mount ∨
      journal.phase ≠ .prepared ∨ journal.mutationMayHaveStarted ∨ journal.mountMayHaveChanged ∨
      journal.fstabMayHaveChanged) .authorizationInvalid
  refuse (activation.createActivationId ≠ create.activationId ∨
      preflight.createActivationId ≠ create.activationId ∨
      preflight.mountActivationId ≠ activation.mountActivationId ∨
      launch.mountActivationId ≠ activation.mountActivationId ∨
      journal.mountActivationId ≠ activation.mountActivationId ∨
      launch.preflightReceiptId ≠ preflight.receiptId ∨
      journal.preflightReceiptId ≠ preflight.receiptId ∨ journal.launchId ≠ launch.launchId ∨
      activation.disk ≠ create.disk ∨ preflight.disk ≠ create.disk ∨ launch.disk ≠ create.disk ∨
      journal.disk ≠ create.disk ∨ activation.partitionDevice ≠ launch.partitionDevice ∨
      journal.partitionDevice ≠ activation.partitionDevice ∨
      activation.filesystem ≠ create.filesystem ∨ preflight.filesystem ≠ create.filesystem ∨
      launch.filesystem ≠ create.filesystem ∨ journal.filesystem ≠ create.filesystem ∨
      ¬eqIgnoreAsciiCase preflight.filesystemUuid activation.filesystemUuid ∨
      ¬eqIgnoreAsciiCase launch.filesystemUuid activation.filesystemUuid ∨
      ¬eqIgnoreAsciiCase journal.filesystemUuid activation.filesystemUuid ∨
      preflight.mountpoint ≠ activation.mountpoint ∨ launch.mountpoint ≠ activation.mountpoint ∨
      journal.mountpoint ≠ activation.mountpoint ∨
      journal.mountpointDeviceId ≠ activation.mountpointDeviceId ∨
      journal.mountpointInode ≠ activation.mountpointInode ∨
      journal.createActivationId ≠ activation.createActivationId ∨
      journal.filesystemReceiptId ≠ activation.filesystemReceiptId ∨
      journal.createJournalId ≠ activation.journalId ∨
      journal.createLaunchId ≠ activation.launchId) .authorizationInvalid

/-- A function of the crossing, which holds the journal in memory. -/
abbrev MountProc := FileProc ProductionCreateMountRuntimeJournal mountEnv
  ProductionCreateMountRuntimeJournal ProductionCreateMountRuntimeExecutionError

/-- `persist_recovery` after a failure. -/
def orRecovery {α : Type} (p : MountProc α) : MountProc α :=
  Journaled.orRecovery (persistProductionCreateMountRuntimeTransition .recoveryRequired)
    .recoveryPersistenceFailed p

/-- What is spawned of a launch on an open executable. -/
def ProductionCreateMountRuntimeLaunchSpec.stage (launch : ProductionCreateMountRuntimeLaunchSpec)
    (mountFile : Nat) : DescriptorStage Nat :=
  ⟨mountFile, launch.mount.program, launch.mount.argv, launch.fixedPath, launch.fixedLocale, none⟩

/-- The stage, which must exit with zero. -/
def runMountStage (tool : PinnedProductionCreateMountTool)
    (launch : ProductionCreateMountRuntimeLaunchSpec) : MountProc DescriptorExecOutcome := do
  let outcome ← orFail .descriptor (executeDescriptorStage (mountAsk .openPipes)
    (fun d => mountAsk (.spawn d)) (launch.stage tool.mountFile))
  Proc.lift (refuse (outcome.exitCode ≠ 0)
    (.stageFailed outcome.exitCode (boundedStderr outcome)))
  pure outcome

/-- The receipt of a completed crossing. -/
def executionReceiptFor (activation : ProductionCreateMountActivationIntent)
    (launch : ProductionCreateMountRuntimeLaunchSpec)
    (journal : ProductionCreateMountRuntimeJournal) :
    ProductionCreateMountRuntimeExecutionReceipt :=
  let receipt : ProductionCreateMountRuntimeExecutionReceipt :=
    { schemaVersion := 1
      receiptId := ""
      mountJournalId := journal.journalId
      mountLaunchId := launch.launchId
      mountActivationId := activation.mountActivationId
      partitionDevice := activation.partitionDevice
      filesystem := activation.filesystem
      filesystemUuid := activation.filesystemUuid
      mountpoint := activation.mountpoint
      mountedVerified := true
      fstabChanged := false }
  { receipt with receiptId := receipt.expectedReceiptId }

/-- The crossing from its durable begin on. -/
def crossMount (create : ProductionCreateActivationIntent)
    (activation : ProductionCreateMountActivationIntent)
    (launch : ProductionCreateMountRuntimeLaunchSpec) (tool : PinnedProductionCreateMountTool) :
    MountProc ProductionCreateMountRuntimeExecutionReceipt := do
  (persistProductionCreateMountRuntimeTransition .beginMount).mapError .journal
  let _ ← orRecovery (runMountStage tool launch)
  orRecovery ((persistProductionCreateMountRuntimeTransition .mountProcessSucceeded).mapError
    .journal)
  orRecovery (discoverExactMount create activation postMountRediscoveryAttempts none)
  orRecovery ((persistProductionCreateMountRuntimeTransition .mountRediscoveryVerified).mapError
    .journal)
  let journal ← Proc.get
  pure (executionReceiptFor activation launch journal)

/-- In a build that has the execution feature, by a caller that holds the host lock. -/
def executeProductionCreateMountCrossing (create : ProductionCreateActivationIntent)
    (activation : ProductionCreateMountActivationIntent)
    (preflight : ProductionCreateMountRuntimePreflightReceipt)
    (launch : ProductionCreateMountRuntimeLaunchSpec) (tool : PinnedProductionCreateMountTool) :
    MountProc ProductionCreateMountRuntimeExecutionReceipt := do
  let euid ← mountAsk .geteuid
  Proc.lift (refuse (euid ≠ 0) .rootRequired)
  let journal ← Proc.get
  Proc.lift (validateStaticChain create activation preflight launch journal)
  let persisted ← (load journal.journalId).mapError .journal
  Proc.lift (refuse (persisted ≠ journal) .journalMismatch)
  let freshPreflight ← (prepareProductionCreateMountRuntimePreflight create activation).mapError
    .preflight
  Proc.lift (refuse (freshPreflight ≠ preflight) .authorizationInvalid)
  let freshLaunch ← (buildProductionCreateMountRuntimeLaunchSpec activation freshPreflight
    tool).mapError .launch
  Proc.lift (refuse (freshLaunch ≠ launch) .authorizationInvalid)
  crossMount create activation launch tool

end Crossing

end StorageManager.Executor.Create.Mount
