import StorageManager.Core.HostSnapshot
import StorageManager.Executor.CreateJournal
import StorageManager.Lib.Journaled

/-!
# The create runtime

The two irreversible crossings of a production create: writing the partition table
and making the filesystem. What they ask of the host (user id, pinned consent and
tools, discovery, spawning) is free to answer anything.
-/

namespace StorageManager.Executor.Create

open StorageManager.Core
open Lib
open Lib.Checks (refuse)
open Lib.Effects
open Lib.Json (toJson)
open Lib.RecordFile

set_option autoImplicit false

/-- `POST_CREATE_REDISCOVERY_ATTEMPTS`. -/
def postCreateRediscoveryAttempts : Nat := 20

def fixedPath : String := "/usr/sbin:/usr/bin:/sbin:/bin"
def fixedLocale : String := "C"

structure ProductionCreatePartitionExecutionReceipt where
  schemaVersion : Nat
  receiptId : String
  journalId : String
  launchId : String
  disk : String
  partitionDevice : String
  partitionTable : String
  partitionStartSector : Nat
  partitionSectorCount : Nat
  partitionSizeBytes : Nat
  partitionMappedVerified : Bool
  filesystemFormatted : Bool
  deriving DecidableEq

structure ProductionCreateFilesystemExecutionReceipt where
  schemaVersion : Nat
  receiptId : String
  journalId : String
  launchId : String
  partitionReceiptId : String
  disk : String
  partitionDevice : String
  filesystem : String
  partitionMappedVerified : Bool
  filesystemFormatted : Bool
  journalCompleted : Bool
  deriving DecidableEq

/-- Where the source keeps the text of another error, the error itself is kept. -/
inductive ProductionCreatePartitionExecutionError where
  | rootRequired
  | authorizationInvalid
  | journalMismatch
  | consent (source : String)
  | toolLease (source : String)
  | descriptor (source : PrivilegedDescriptorExecError)
  | journal (source : ProductionCreateRuntimeJournalError)
  | stageFailed (stage : String) (exitCode : Int) (stderr : List UInt8)
  | partxMappingUnreconciled (exitCode : Int) (stderr : List UInt8)
      (rediscovery : ProductionCreatePartitionExecutionError)
  | rediscovery (last : Option (String ⊕ ProductionCreatePartitionExecutionError))
  | partitionGeometryMismatch
  | unexpectedPartitionUse
  | recoveryPersistenceFailed (runtime : ProductionCreatePartitionExecutionError)
      (journal : ProductionCreateRuntimeJournalError)

inductive ProductionCreateFilesystemExecutionError where
  | rootRequired
  | authorizationInvalid
  | partitionReceiptInvalid
  | journalMismatch
  | consent (source : String)
  | toolLease (source : String)
  | descriptor (source : PrivilegedDescriptorExecError)
  | journal (source : ProductionCreateRuntimeJournalError)
  | preFormatPartitionVerification (error : ProductionCreatePartitionExecutionError)
  | stageFailed (exitCode : Int) (stderr : List UInt8)
  | rediscovery (last : Option (String ⊕ ProductionCreateFilesystemExecutionError))
  | filesystemVerificationMismatch
  | unexpectedPartitionUse
  | recoveryPersistenceFailed (runtime : ProductionCreateFilesystemExecutionError)
      (journal : ProductionCreateRuntimeJournalError)

/-- `expected_partition_type`. -/
def CreatePartitionTablePolicy.expectedPartitionType : CreatePartitionTablePolicy → String
  | .gpt => "0FC63DAF-8483-4772-8E79-3D69D8477DE4"
  | .dos => "83"

/-- `bounded_stderr`, as bytes. -/
def boundedStderr (outcome : DescriptorExecOutcome) : List UInt8 := outcome.stderr.take 4096

/-- `str::eq_ignore_ascii_case`. -/
def eqIgnoreAsciiCase (a b : String) : Bool :=
  a.toList.map Char.toLower == b.toList.map Char.toLower

section Contract

def validateLaunchStageContract (activation : ProductionCreateActivationIntent)
    (launch : ProductionCreateRuntimeLaunchSpec) :
    Except ProductionCreatePartitionExecutionError Unit := do
  let (expectedMkfsProgram, expectedMkfs) ←
    if activation.filesystem = "ext4" then
      .ok (PrivilegedProgram.mkfsExt4, ["mkfs.ext4", "-F", launch.partitionDevice])
    else if activation.filesystem = "xfs" then
      .ok (PrivilegedProgram.mkfsXfs, ["mkfs.xfs", "-f", launch.partitionDevice])
    else .error .authorizationInvalid
  let expectedStdinSha256 := Lib.Sha256.sha256Hex launch.sfdiskScript.toUTF8.data.toList
  refuse (launch.sfdisk.program ≠ .sfdisk ∨ launch.partx.program ≠ .partx ∨
      launch.mkfs.program ≠ expectedMkfsProgram ∨
      launch.sfdisk.argv ≠
        ["sfdisk", "--lock=yes", "--no-reread", "--no-tell-kernel", activation.disk] ∨
      launch.partx.argv ≠ ["partx", "--add", "--nr", "1", activation.disk] ∨
      launch.mkfs.argv ≠ expectedMkfs ∨ launch.fixedPath ≠ fixedPath ∨
      launch.fixedLocale ≠ fixedLocale ∨ launch.descriptorExecApi ≠ "fexecve" ∨
      launch.sfdisk.stdinLen ≠ launch.sfdiskScript.utf8ByteSize ∨
      launch.sfdisk.stdinSha256 ≠ some expectedStdinSha256 ∨ launch.partx.stdinLen ≠ 0 ∨
      launch.partx.stdinSha256.isSome ∨ launch.mkfs.stdinLen ≠ 0 ∨
      launch.mkfs.stdinSha256.isSome)
    .authorizationInvalid

variable [Fingerprint]

def ProductionCreatePartitionExecutionReceipt.expectedReceiptId
    (r : ProductionCreatePartitionExecutionReceipt) : String :=
  fingerprint (.obj [("schema_version", toJson r.schemaVersion), ("journal_id", toJson r.journalId),
    ("launch_id", toJson r.launchId), ("disk", toJson r.disk),
    ("partition_device", toJson r.partitionDevice), ("partition_table", toJson r.partitionTable),
    ("partition_start_sector", toJson r.partitionStartSector),
    ("partition_sector_count", toJson r.partitionSectorCount),
    ("partition_size_bytes", toJson r.partitionSizeBytes),
    ("partition_mapped_verified", toJson r.partitionMappedVerified),
    ("filesystem_formatted", toJson r.filesystemFormatted)])

def ProductionCreatePartitionExecutionReceipt.integrityMatches
    (r : ProductionCreatePartitionExecutionReceipt) : Bool :=
  r.receiptId == r.expectedReceiptId

def ProductionCreateFilesystemExecutionReceipt.expectedReceiptId
    (r : ProductionCreateFilesystemExecutionReceipt) : String :=
  fingerprint (.obj [("schema_version", toJson r.schemaVersion), ("journal_id", toJson r.journalId),
    ("launch_id", toJson r.launchId), ("partition_receipt_id", toJson r.partitionReceiptId),
    ("disk", toJson r.disk), ("partition_device", toJson r.partitionDevice),
    ("filesystem", toJson r.filesystem),
    ("partition_mapped_verified", toJson r.partitionMappedVerified),
    ("filesystem_formatted", toJson r.filesystemFormatted),
    ("journal_completed", toJson r.journalCompleted)])

def validateCrossing (activation : ProductionCreateActivationIntent)
    (permit : ProductionCreateExecutionPermit)
    (preflight : ProductionCreateRuntimePreflightReceipt)
    (launch : ProductionCreateRuntimeLaunchSpec) (journal : ProductionCreateRuntimeJournal) :
    Except ProductionCreatePartitionExecutionError Unit := do
  refuse (activation.schemaVersion ≠ 1 ∨ permit.schemaVersion ≠ 1 ∨ preflight.schemaVersion ≠ 1 ∨
      launch.schemaVersion ≠ 1 ∨ journal.schemaVersion ≠ 1 ∨ ¬activation.integrityMatches ∨
      ¬permit.integrityMatches ∨ ¬preflight.integrityMatches ∨ ¬launch.integrityMatches ∨
      ¬journal.integrityMatches ∨ ¬activation.compileFeatureEnabled ∨
      ¬permit.compileFeatureEnabled ∨ ¬preflight.runtimeReady ∨ activation.executionEnabled ∨
      permit.mutationEnabled ∨ permit.processSpawned ∨ preflight.mutationEnabled ∨
      preflight.processSpawned ∨ launch.mutationEnabled ∨ launch.processSpawned ∨
      activation.partitionTableChanged ∨ activation.filesystemFormatted ∨
      permit.partitionTableChanged ∨ permit.filesystemFormatted ∨
      preflight.partitionTableChanged ∨ preflight.filesystemFormatted ∨
      launch.partitionTableChanged ∨ launch.filesystemFormatted ∨
      ¬launch.requirePartitionRediscoveryBeforeMkfs ∨ journal.phase ≠ .prepared ∨
      journal.mutationMayHaveStarted ∨ journal.partitionTableMayHaveChanged ∨
      journal.filesystemMayHaveChanged)
    .authorizationInvalid
  refuse (permit.activationId ≠ activation.activationId ∨
      preflight.activationId ≠ activation.activationId ∨
      launch.activationId ≠ activation.activationId ∨
      journal.activationId ≠ activation.activationId ∨
      preflight.executionPermitId ≠ permit.permitId ∨ launch.executionPermitId ≠ permit.permitId ∨
      journal.executionPermitId ≠ permit.permitId ∨
      launch.preflightReceiptId ≠ preflight.receiptId ∨
      journal.preflightReceiptId ≠ preflight.receiptId ∨ journal.launchId ≠ launch.launchId ∨
      permit.createIntentId ≠ activation.createIntentId ∨
      preflight.createIntentId ≠ activation.createIntentId ∨
      launch.createIntentId ≠ activation.createIntentId ∨
      journal.createIntentId ≠ activation.createIntentId ∨ permit.disk ≠ activation.disk ∨
      preflight.disk ≠ activation.disk ∨ launch.disk ≠ activation.disk ∨
      journal.disk ≠ activation.disk ∨ permit.partitionTable ≠ activation.partitionTable ∨
      preflight.partitionTable ≠ activation.partitionTable ∨
      launch.partitionTable ≠ activation.partitionTable ∨
      journal.partitionTable ≠ activation.partitionTable.label ∨
      permit.partitionStartSector ≠ activation.partitionStartSector ∨
      preflight.partitionStartSector ≠ activation.partitionStartSector ∨
      launch.partitionStartSector ≠ activation.partitionStartSector ∨
      journal.partitionStartSector ≠ activation.partitionStartSector ∨
      permit.partitionSectorCount ≠ activation.partitionSectorCount ∨
      preflight.partitionSectorCount ≠ activation.partitionSectorCount ∨
      launch.partitionSectorCount ≠ activation.partitionSectorCount ∨
      journal.partitionSectorCount ≠ activation.partitionSectorCount ∨
      permit.partitionSizeBytes ≠ activation.partitionSizeBytes ∨
      preflight.partitionSizeBytes ≠ activation.partitionSizeBytes ∨
      launch.partitionSizeBytes ≠ activation.partitionSizeBytes ∨
      journal.partitionSizeBytes ≠ activation.partitionSizeBytes ∨
      permit.filesystem ≠ activation.filesystem ∨ preflight.filesystem ≠ activation.filesystem ∨
      launch.filesystem ≠ activation.filesystem ∨ journal.filesystem ≠ activation.filesystem ∨
      journal.partitionDevice ≠ launch.partitionDevice)
    .authorizationInvalid
  validateLaunchStageContract activation launch

def validateFilesystemCrossing (activation : ProductionCreateActivationIntent)
    (permit : ProductionCreateExecutionPermit)
    (preflight : ProductionCreateRuntimePreflightReceipt)
    (launch : ProductionCreateRuntimeLaunchSpec)
    (partitionReceipt : ProductionCreatePartitionExecutionReceipt)
    (journal : ProductionCreateRuntimeJournal) :
    Except ProductionCreateFilesystemExecutionError Unit := do
  refuse (journal.phase ≠ .partitionMappedVerified ∨ ¬journal.mutationMayHaveStarted ∨
      ¬journal.partitionTableMayHaveChanged ∨ journal.filesystemMayHaveChanged)
    .authorizationInvalid
  let prepared := { journal with
    phase := .prepared
    mutationMayHaveStarted := false
    partitionTableMayHaveChanged := false
    filesystemMayHaveChanged := false
    events := [] }
  refuse (¬(validateCrossing activation permit preflight launch prepared).isOk)
    .authorizationInvalid
  refuse (partitionReceipt.schemaVersion ≠ 1 ∨ ¬partitionReceipt.integrityMatches ∨
      partitionReceipt.journalId ≠ journal.journalId ∨ partitionReceipt.launchId ≠ launch.launchId ∨
      partitionReceipt.disk ≠ activation.disk ∨
      partitionReceipt.partitionDevice ≠ launch.partitionDevice ∨
      partitionReceipt.partitionTable ≠ activation.partitionTable.label ∨
      partitionReceipt.partitionStartSector ≠ activation.partitionStartSector ∨
      partitionReceipt.partitionSectorCount ≠ activation.partitionSectorCount ∨
      partitionReceipt.partitionSizeBytes ≠ activation.partitionSizeBytes ∨
      ¬partitionReceipt.partitionMappedVerified ∨ partitionReceipt.filesystemFormatted)
    .partitionReceiptInvalid

end Contract

section Verification

/-- The one element with `p`, when there is exactly one. -/
def exactlyOne {α : Type} (p : α → Bool) (as : List α) : Option α :=
  match as.filter p with
  | [a] => some a
  | _ => none

def verifyPartitionSnapshot (activation : ProductionCreateActivationIntent)
    (launch : ProductionCreateRuntimeLaunchSpec) (snapshot : HostSnapshot) :
    Except ProductionCreatePartitionExecutionError Unit := do
  let label := activation.partitionTable.label
  match exactlyOne (fun c => c.component == "partition_tables") snapshot.collectors with
  | none => .error .partitionGeometryMismatch
  | some collector => refuse (collector.state ≠ .complete) .partitionGeometryMismatch
  match exactlyOne (fun t => t.device == activation.disk) snapshot.partitionTables with
  | none => .error .partitionGeometryMismatch
  | some table =>
    refuse (table.label ≠ some label ∨ table.unit ≠ some "sectors" ∨
        table.sectorSizeBytes ≠ some activation.logicalSectorBytes)
      .partitionGeometryMismatch
    match table.partitions with
    | [partition] =>
      refuse (partition.node ≠ launch.partitionDevice ∨
          partition.startSector ≠ activation.partitionStartSector ∨
          partition.sizeSectors ≠ activation.partitionSectorCount ∨
          partition.partitionType.all fun value =>
            !eqIgnoreAsciiCase value activation.partitionTable.expectedPartitionType)
        .partitionGeometryMismatch
    | _ => .error .partitionGeometryMismatch
  match exactlyOne (fun d => d.path == some activation.disk) snapshot.storage.blockDevices with
  | none => .error .partitionGeometryMismatch
  | some disk =>
    refuse (¬(disk.kind = .disk ∨ disk.kind = .loop) ∨ disk.sizeBytes ≠ activation.diskSizeBytes ∨
        disk.logicalSectorBytes ≠ some activation.logicalSectorBytes ∨
        disk.model ≠ activation.diskModel ∨ disk.serial ≠ activation.diskSerial ∨
        disk.partitionTable ≠ some label)
      .partitionGeometryMismatch
    match disk.children with
    | [child] =>
      -- `checked_mul` on u64
      let expectedSize := activation.partitionSectorCount * activation.logicalSectorBytes
      refuse (2 ^ 64 ≤ expectedSize ∨ child.path ≠ some launch.partitionDevice ∨
          child.kind ≠ .partition ∨ child.sizeBytes ≠ expectedSize ∨
          child.logicalSectorBytes ≠ some activation.logicalSectorBytes ∨
          child.parentKernelName ≠ disk.kernelName)
        .partitionGeometryMismatch
      refuse (child.filesystem.isSome ∨ child.mountpoints ≠ [] ∨
          (∃ m ∈ snapshot.mounts,
            m.source = some activation.disk ∨ m.source = some launch.partitionDevice) ∨
          (∃ e ∈ snapshot.fstab,
            e.source = activation.disk ∨ e.source = launch.partitionDevice) ∨
          ∃ e ∈ snapshot.swaps, e.name = activation.disk ∨ e.name = launch.partitionDevice)
        .unexpectedPartitionUse
    | _ => .error .partitionGeometryMismatch

/-- The first element with `p`, changed. -/
def modifyFirst {α : Type} (p : α → Bool) (f : α → α) : List α → List α
  | [] => []
  | a :: as => if p a then f a :: as else a :: modifyFirst p f as

/-- The only child of the disk loses its filesystem. -/
def withoutChildFilesystem (disk : BlockDevice) : BlockDevice :=
  { disk with children := disk.children.map fun child => { child with filesystem := none } }

def verifyFilesystemSnapshot (activation : ProductionCreateActivationIntent)
    (launch : ProductionCreateRuntimeLaunchSpec) (snapshot : HostSnapshot) :
    Except ProductionCreateFilesystemExecutionError Unit := do
  let isDisk : BlockDevice → Bool := fun d => d.path == some activation.disk
  match exactlyOne isDisk snapshot.storage.blockDevices with
  | none => .error .filesystemVerificationMismatch
  | some disk =>
    match disk.children with
    | [child] =>
      refuse (child.filesystem.all fun fs => fs.fsType != activation.filesystem)
        .filesystemVerificationMismatch
      -- the geometry is checked as if nothing had been made on the partition
      let geometrySnapshot := { snapshot with
        storage := ⟨modifyFirst isDisk withoutChildFilesystem snapshot.storage.blockDevices⟩ }
      match verifyPartitionSnapshot activation launch geometrySnapshot with
      | .ok () => .ok ()
      | .error .unexpectedPartitionUse => .error .unexpectedPartitionUse
      | .error _ => .error .filesystemVerificationMismatch
    | _ => .error .filesystemVerificationMismatch

end Verification

/-- The pinned executables of a create. -/
inductive CreateTool where
  | sfdisk
  | partx
  | mkfs
  deriving DecidableEq

/-- What a crossing asks of the host. -/
inductive CreateOp where
  | geteuid
  | revalidatePinnedConsent (activation : ProductionCreateActivationIntent)
  | revalidateTools (preflight : ProductionCreateRuntimePreflightReceipt)
  | discoverSnapshot
  | openPipes
  | spawn (stage : DescriptorStage CreateTool)

/-- Only the id of the consent receipt is used. -/
@[reducible] def createEnv : Env where
  Op := CreateOp
  Ans
    | .geteuid => Nat
    | .revalidatePinnedConsent _ => Except String String
    | .revalidateTools _ => Except String Unit
    | .discoverSnapshot => Except String HostSnapshot
    | .openPipes => Except String Unit
    | .spawn _ => Except PrivilegedDescriptorExecError DescriptorExecOutcome

/-- A function that holds the journal in memory. -/
abbrev CreateProc (ε : Type) := FileProc ProductionCreateRuntimeJournal createEnv
  ProductionCreateRuntimeJournal ε

def runDescriptor {ε : Type} (file : CreateTool) (stage : ProductionCreateLaunchStage)
    (launch : ProductionCreateRuntimeLaunchSpec) (stdinPayload : Option String) :
    CreateProc ε (Except PrivilegedDescriptorExecError DescriptorExecOutcome) :=
  executeDescriptorStage (ask (E := createEnv) .openPipes)
    (fun d => ask (E := createEnv) (.spawn d))
    ⟨file, stage.program, stage.argv, launch.fixedPath, launch.fixedLocale, stdinPayload⟩

def runStage (stage : String) (file : CreateTool) (launchStage : ProductionCreateLaunchStage)
    (launch : ProductionCreateRuntimeLaunchSpec) (stdinPayload : Option String) :
    CreateProc ProductionCreatePartitionExecutionError DescriptorExecOutcome := do
  match ← runDescriptor file launchStage launch stdinPayload with
  | .error e => Proc.throw (.descriptor e)
  | .ok outcome =>
    if outcome.exitCode ≠ 0 then
      Proc.throw (.stageFailed stage outcome.exitCode (boundedStderr outcome))
    else pure outcome

/-- The loop of `discover_exact_partition` and `discover_exact_filesystem`, with the
attempts that are left and the last failure. -/
def discoverExact {ε : Type} (verify : HostSnapshot → Except ε Unit) (unexpectedUse : ε → Bool)
    (notConverged : Option (String ⊕ ε) → ε) : Nat → Option (String ⊕ ε) → CreateProc ε Unit
  | 0, last => Proc.throw (notConverged last)
  | attempts + 1, _ => do
    match ← ask (E := createEnv) .discoverSnapshot with
    | .error e => discoverExact verify unexpectedUse notConverged attempts (some (.inl e))
    | .ok snapshot =>
      match verify snapshot with
      | .ok () => pure ()
      | .error e =>
        if unexpectedUse e then Proc.throw e
        else discoverExact verify unexpectedUse notConverged attempts (some (.inr e))

def discoverExactPartition (activation : ProductionCreateActivationIntent)
    (launch : ProductionCreateRuntimeLaunchSpec) :
    CreateProc ProductionCreatePartitionExecutionError Unit :=
  discoverExact (verifyPartitionSnapshot activation launch)
    (fun | .unexpectedPartitionUse => true | _ => false) .rediscovery
    postCreateRediscoveryAttempts none

def discoverExactFilesystem (activation : ProductionCreateActivationIntent)
    (launch : ProductionCreateRuntimeLaunchSpec) :
    CreateProc ProductionCreateFilesystemExecutionError Unit :=
  discoverExact (verifyFilesystemSnapshot activation launch)
    (fun | .unexpectedPartitionUse => true | _ => false) .rediscovery
    postCreateRediscoveryAttempts none

/-- A non-zero partx is accepted only when the exact mapping is there already. -/
def runPartxStageWithExactReconciliation (activation : ProductionCreateActivationIntent)
    (launch : ProductionCreateRuntimeLaunchSpec) :
    CreateProc ProductionCreatePartitionExecutionError DescriptorExecOutcome := do
  match ← runDescriptor .partx launch.partx launch none with
  | .error e => Proc.throw (.descriptor e)
  | .ok outcome =>
    if outcome.exitCode = 0 then pure outcome
    else
      match ← (discoverExactPartition activation launch).attempt with
      | .ok () => pure outcome
      | .error rediscovery =>
        Proc.throw (.partxMappingUnreconciled outcome.exitCode (boundedStderr outcome) rediscovery)

section Crossing

variable [Fingerprint]

/-- `persist_recovery` and `persist_filesystem_recovery`: the caller returns the error. -/
def persistRecovery {ε α : Type} (persistenceFailed : ε → ProductionCreateRuntimeJournalError → ε)
    (runtime : ε) : CreateProc ε α :=
  Journaled.persistRecovery (persistProductionCreateRuntimeTransition .recoveryRequired)
    persistenceFailed runtime

def orRecovery {ε α : Type} (persistenceFailed : ε → ProductionCreateRuntimeJournalError → ε)
    (p : CreateProc ε α) : CreateProc ε α :=
  Journaled.orRecovery (persistProductionCreateRuntimeTransition .recoveryRequired)
    persistenceFailed p

def executePartitionCrossing (activation : ProductionCreateActivationIntent)
    (launch : ProductionCreateRuntimeLaunchSpec) :
    CreateProc ProductionCreatePartitionExecutionError
      ProductionCreatePartitionExecutionReceipt := do
  (persistProductionCreateRuntimeTransition .beginPartitionTableWrite).mapError .journal
  let _ ← orRecovery .recoveryPersistenceFailed
    (runStage "sfdisk" .sfdisk launch.sfdisk launch (some launch.sfdiskScript))
  let _ ← orRecovery .recoveryPersistenceFailed
    (runPartxStageWithExactReconciliation activation launch)
  (persistProductionCreateRuntimeTransition .partitionTableWriteSucceeded).mapError .journal
  orRecovery .recoveryPersistenceFailed (discoverExactPartition activation launch)
  (persistProductionCreateRuntimeTransition .partitionRediscoveryVerified).mapError .journal
  let journal ← Proc.get
  let receipt : ProductionCreatePartitionExecutionReceipt :=
    { schemaVersion := 1
      receiptId := ""
      journalId := journal.journalId
      launchId := launch.launchId
      disk := activation.disk
      partitionDevice := launch.partitionDevice
      partitionTable := activation.partitionTable.label
      partitionStartSector := activation.partitionStartSector
      partitionSectorCount := activation.partitionSectorCount
      partitionSizeBytes := activation.partitionSizeBytes
      partitionMappedVerified := true
      filesystemFormatted := false }
  pure { receipt with receiptId := receipt.expectedReceiptId }

def runFilesystemStage (launch : ProductionCreateRuntimeLaunchSpec) :
    CreateProc ProductionCreateFilesystemExecutionError DescriptorExecOutcome := do
  match ← runDescriptor .mkfs launch.mkfs launch none with
  | .error e => Proc.throw (.descriptor e)
  | .ok outcome =>
    if outcome.exitCode ≠ 0 then
      Proc.throw (.stageFailed outcome.exitCode (boundedStderr outcome))
    else pure outcome

/-- The stored record must be the one in memory, and the pinned consent and tools must
still be the ones of the preflight. -/
def requireExact {ε : Type} (journalError : ProductionCreateRuntimeJournalError → ε)
    (mismatch : ε) : CreateProc ε Unit := do
  let journal ← Proc.get
  let persisted ← (load journal.journalId).mapError journalError
  Proc.lift (refuse (persisted ≠ journal) mismatch)

/-- `revalidate_pinned_production_create_consent` and the comparison of its receipt. -/
def requireConsent {ε : Type} (activation : ProductionCreateActivationIntent)
    (preflight : ProductionCreateRuntimePreflightReceipt) (consent : String → ε) (invalid : ε) :
    CreateProc ε Unit := do
  match ← ask (E := createEnv) (.revalidatePinnedConsent activation) with
  | .error e => Proc.throw (consent e)
  | .ok receiptId => Proc.lift (refuse (receiptId ≠ preflight.consentReceiptId) invalid)

def requireTools {ε : Type} (preflight : ProductionCreateRuntimePreflightReceipt)
    (toolLease : String → ε) : CreateProc ε Unit := do
  match ← ask (E := createEnv) (.revalidateTools preflight) with
  | .error e => Proc.throw (toolLease e)
  | .ok () => pure ()

def requireRoot {ε : Type} (rootRequired : ε) : CreateProc ε Unit := do
  let euid ← ask (E := createEnv) .geteuid
  Proc.lift (refuse (euid ≠ 0) rootRequired)

def executeProductionCreatePartitionCrossing (activation : ProductionCreateActivationIntent)
    (permit : ProductionCreateExecutionPermit)
    (preflight : ProductionCreateRuntimePreflightReceipt)
    (launch : ProductionCreateRuntimeLaunchSpec) :
    CreateProc ProductionCreatePartitionExecutionError
      ProductionCreatePartitionExecutionReceipt := do
  requireRoot .rootRequired
  let journal ← Proc.get
  Proc.lift (validateCrossing activation permit preflight launch journal)
  requireExact .journal .journalMismatch
  requireConsent activation preflight .consent .authorizationInvalid
  requireTools preflight .toolLease
  executePartitionCrossing activation launch

/-- The filesystem crossing after its fresh partition verification: consent and tools
once more, then the durable begin, mkfs and the verification of what it made. -/
def formatFilesystem (activation : ProductionCreateActivationIntent)
    (preflight : ProductionCreateRuntimePreflightReceipt)
    (launch : ProductionCreateRuntimeLaunchSpec)
    (partitionReceipt : ProductionCreatePartitionExecutionReceipt) :
    CreateProc ProductionCreateFilesystemExecutionError
      ProductionCreateFilesystemExecutionReceipt := do
  orRecovery .recoveryPersistenceFailed
    (requireConsent activation preflight .consent .authorizationInvalid)
  orRecovery .recoveryPersistenceFailed (requireTools preflight .toolLease)
  (persistProductionCreateRuntimeTransition .beginFilesystemFormat).mapError .journal
  let _ ← orRecovery .recoveryPersistenceFailed (runFilesystemStage launch)
  (persistProductionCreateRuntimeTransition .filesystemFormatSucceeded).mapError .journal
  orRecovery .recoveryPersistenceFailed (discoverExactFilesystem activation launch)
  (persistProductionCreateRuntimeTransition .filesystemRediscoveryVerified).mapError .journal
  let journal ← Proc.get
  let receipt : ProductionCreateFilesystemExecutionReceipt :=
    { schemaVersion := 1
      receiptId := ""
      journalId := journal.journalId
      launchId := launch.launchId
      partitionReceiptId := partitionReceipt.receiptId
      disk := activation.disk
      partitionDevice := launch.partitionDevice
      filesystem := activation.filesystem
      partitionMappedVerified := true
      filesystemFormatted := true
      journalCompleted := journal.phase = .completed }
  pure { receipt with receiptId := receipt.expectedReceiptId }

def executeProductionCreateFilesystemCrossing (activation : ProductionCreateActivationIntent)
    (permit : ProductionCreateExecutionPermit)
    (preflight : ProductionCreateRuntimePreflightReceipt)
    (launch : ProductionCreateRuntimeLaunchSpec)
    (partitionReceipt : ProductionCreatePartitionExecutionReceipt) :
    CreateProc ProductionCreateFilesystemExecutionError
      ProductionCreateFilesystemExecutionReceipt := do
  requireRoot .rootRequired
  let journal ← Proc.get
  Proc.lift (validateFilesystemCrossing activation permit preflight launch partitionReceipt journal)
  requireExact .journal .journalMismatch
  requireConsent activation preflight .consent .authorizationInvalid
  requireTools preflight .toolLease
  match ← (discoverExactPartition activation launch).attempt with
  | .ok () => formatFilesystem activation preflight launch partitionReceipt
  | .error e => persistRecovery .recoveryPersistenceFailed (.preFormatPartitionVerification e)

end Crossing

end StorageManager.Executor.Create
