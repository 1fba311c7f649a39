import StorageManager.Executor.CreateAuthorization
import StorageManager.Executor.JournalStore
import StorageManager.Lib.RecordFile

/-!
# The create runtime journal

The durable record of one production create, its transitions, and the store that
keeps it in one file. A transition is applied to a copy, the copy is persisted, and
only then does it become the journal in memory.
-/

namespace StorageManager.Executor.Create

open Lib.Checks (refuse checkAll)
open Lib.Effects
open Lib.Json (Value ToJson toJson toBytes)
open Lib.RecordFile

set_option autoImplicit false

/-- `MAX_CREATE_RUNTIME_JOURNAL_BYTES`. -/
def maxCreateRuntimeJournalBytes : Nat := 64 * 1024

inductive ProductionCreateRuntimePhase where
  | prepared
  | writingPartitionTable
  | partitionTableWrittenAwaitingRediscovery
  | partitionMappedVerified
  | formattingFilesystem
  | filesystemFormattedAwaitingVerification
  | completed
  | recoveryRequired
  deriving DecidableEq

inductive ProductionCreateRuntimeTransition where
  | beginPartitionTableWrite
  | partitionTableWriteSucceeded
  | partitionRediscoveryVerified
  | beginFilesystemFormat
  | filesystemFormatSucceeded
  | filesystemRediscoveryVerified
  | recoveryRequired
  deriving DecidableEq

structure ProductionCreateRuntimeJournalEvent where
  sequence : Nat
  phase : ProductionCreateRuntimePhase
  code : String
  deriving DecidableEq

structure ProductionCreateRuntimeJournal where
  schemaVersion : Nat
  journalId : String
  activationId : String
  executionPermitId : String
  preflightReceiptId : String
  launchId : String
  createIntentId : String
  disk : String
  partitionDevice : String
  partitionTable : String
  partitionStartSector : Nat
  partitionSectorCount : Nat
  partitionSizeBytes : Nat
  filesystem : String
  phase : ProductionCreateRuntimePhase
  mutationMayHaveStarted : Bool
  partitionTableMayHaveChanged : Bool
  filesystemMayHaveChanged : Bool
  events : List ProductionCreateRuntimeJournalEvent
  deriving DecidableEq

section Serialization

def ProductionCreateRuntimePhase.name : ProductionCreateRuntimePhase → String
  | .prepared => "prepared"
  | .writingPartitionTable => "writing_partition_table"
  | .partitionTableWrittenAwaitingRediscovery => "partition_table_written_awaiting_rediscovery"
  | .partitionMappedVerified => "partition_mapped_verified"
  | .formattingFilesystem => "formatting_filesystem"
  | .filesystemFormattedAwaitingVerification => "filesystem_formatted_awaiting_verification"
  | .completed => "completed"
  | .recoveryRequired => "recovery_required"

instance : ToJson ProductionCreateRuntimePhase := ⟨fun p => toJson p.name⟩

instance : ToJson ProductionCreateRuntimeJournalEvent where
  toJson e := .obj [("sequence", toJson e.sequence), ("phase", toJson e.phase),
    ("code", toJson e.code)]

instance : ToJson ProductionCreateRuntimeJournal where
  toJson j := .obj [("schema_version", toJson j.schemaVersion), ("journal_id", toJson j.journalId),
    ("activation_id", toJson j.activationId),
    ("execution_permit_id", toJson j.executionPermitId),
    ("preflight_receipt_id", toJson j.preflightReceiptId), ("launch_id", toJson j.launchId),
    ("create_intent_id", toJson j.createIntentId), ("disk", toJson j.disk),
    ("partition_device", toJson j.partitionDevice), ("partition_table", toJson j.partitionTable),
    ("partition_start_sector", toJson j.partitionStartSector),
    ("partition_sector_count", toJson j.partitionSectorCount),
    ("partition_size_bytes", toJson j.partitionSizeBytes), ("filesystem", toJson j.filesystem),
    ("phase", toJson j.phase), ("mutation_may_have_started", toJson j.mutationMayHaveStarted),
    ("partition_table_may_have_changed", toJson j.partitionTableMayHaveChanged),
    ("filesystem_may_have_changed", toJson j.filesystemMayHaveChanged),
    ("events", toJson j.events)]

end Serialization

inductive ProductionCreateRuntimeJournalError where
  | featureDisabled
  | authorizationInvalid
  | bindingMismatch
  | invalidRecord (message : String)
  | invalidTransition (source : ProductionCreateRuntimePhase)
      (transition : ProductionCreateRuntimeTransition)
  | alreadyExists (journalId : String)
  | unsafePath
  | unsafeDirectory
  | tooLarge
  | io (source : String)
  deriving DecidableEq

/-- The store's error for a refused file operation. -/
def storeFault : Fault → ProductionCreateRuntimeJournalError
  | .unsafeDirectory => .unsafeDirectory
  | .unsafePath => .unsafePath
  | .notFound => .io "entity not found"
  | .alreadyExists => .io "entity already exists"
  | .io source => .io source

/-- The error of a link over a path that is taken. -/
def linkFault (journalId : String) : Fault → ProductionCreateRuntimeJournalError
  | .alreadyExists => .alreadyExists journalId
  | fault => storeFault fault

def validateDigest (value label : String) : Except ProductionCreateRuntimeJournalError Unit :=
  refuse (¬JournalStore.isLowerHexDigest value)
    (.invalidRecord s!"{label} is not a lowercase SHA-256 hex digest")

/-- `index as u32 + 1` of the running check. -/
def sequenceOf (index : Nat) : Nat := (index % 2 ^ 32 + 1) % 2 ^ 32

/-- Are the events numbered from one on? -/
def eventsNumbered (events : List ProductionCreateRuntimeJournalEvent) : Bool :=
  (events.zipIdx.all fun e => e.1.sequence == sequenceOf e.2) &&
    events.getLast?.all fun e => e.sequence == events.length % 2 ^ 32

def transitionTarget (phase : ProductionCreateRuntimePhase)
    (transition : ProductionCreateRuntimeTransition) :
    Option (ProductionCreateRuntimePhase × String) :=
  match phase, transition with
  | .prepared, .beginPartitionTableWrite =>
    some (.writingPartitionTable, "partition-table-write-started")
  | .writingPartitionTable, .partitionTableWriteSucceeded =>
    some (.partitionTableWrittenAwaitingRediscovery, "partition-table-write-succeeded")
  | .partitionTableWrittenAwaitingRediscovery, .partitionRediscoveryVerified =>
    some (.partitionMappedVerified, "partition-rediscovery-verified")
  | .partitionMappedVerified, .beginFilesystemFormat =>
    some (.formattingFilesystem, "filesystem-format-started")
  | .formattingFilesystem, .filesystemFormatSucceeded =>
    some (.filesystemFormattedAwaitingVerification, "filesystem-format-succeeded")
  | .filesystemFormattedAwaitingVerification, .filesystemRediscoveryVerified =>
    some (.completed, "filesystem-rediscovery-verified")
  | .writingPartitionTable, .recoveryRequired
  | .partitionTableWrittenAwaitingRediscovery, .recoveryRequired
  | .partitionMappedVerified, .recoveryRequired
  | .formattingFilesystem, .recoveryRequired
  | .filesystemFormattedAwaitingVerification, .recoveryRequired =>
    some (.recoveryRequired, "recovery-required")
  | _, _ => none

section Records

variable [Fingerprint]

def ProductionCreateRuntimeJournal.expectedJournalId (j : ProductionCreateRuntimeJournal) :
    String :=
  fingerprint (.obj [("schema_version", toJson j.schemaVersion),
    ("activation_id", toJson j.activationId),
    ("execution_permit_id", toJson j.executionPermitId),
    ("preflight_receipt_id", toJson j.preflightReceiptId), ("launch_id", toJson j.launchId),
    ("create_intent_id", toJson j.createIntentId), ("disk", toJson j.disk),
    ("partition_device", toJson j.partitionDevice), ("partition_table", toJson j.partitionTable),
    ("partition_start_sector", toJson j.partitionStartSector),
    ("partition_sector_count", toJson j.partitionSectorCount),
    ("partition_size_bytes", toJson j.partitionSizeBytes), ("filesystem", toJson j.filesystem)])

def ProductionCreateRuntimeJournal.integrityMatches (j : ProductionCreateRuntimeJournal) : Bool :=
  j.journalId == j.expectedJournalId

def validateJournal (j : ProductionCreateRuntimeJournal) :
    Except ProductionCreateRuntimeJournalError Unit := do
  refuse (j.schemaVersion ≠ 1 ∨ ¬j.integrityMatches ∨ j.disk = "" ∨ ¬startsWith j.disk "/dev/" ∨
      j.partitionDevice = "" ∨ ¬startsWith j.partitionDevice "/dev/" ∨
      ¬(j.partitionTable = "gpt" ∨ j.partitionTable = "dos") ∨ j.partitionStartSector = 0 ∨
      j.partitionSectorCount = 0 ∨ j.partitionSizeBytes = 0 ∨
      ¬(j.filesystem = "ext4" ∨ j.filesystem = "xfs"))
    (.invalidRecord "journal identity or frozen create geometry is invalid")
  validateDigest j.activationId "activation ID"
  validateDigest j.executionPermitId "execution permit ID"
  validateDigest j.preflightReceiptId "preflight receipt ID"
  validateDigest j.launchId "launch ID"
  validateDigest j.createIntentId "create intent ID"
  refuse (¬eventsNumbered j.events) (.invalidRecord "journal event sequence is invalid")
  refuse ((j.phase ≠ .prepared) ≠ (j.mutationMayHaveStarted = true))
    (.invalidRecord "mutation-start flag does not match durable phase")
  refuse (j.filesystemMayHaveChanged ∧ ¬j.partitionTableMayHaveChanged)
    (.invalidRecord "filesystem mutation cannot precede partition-table mutation")

/-- The journal after the transition; the source mutates a copy, which is dropped when
the transition or the validation fails. -/
def applyTransition (j : ProductionCreateRuntimeJournal)
    (transition : ProductionCreateRuntimeTransition) :
    Except ProductionCreateRuntimeJournalError ProductionCreateRuntimeJournal := do
  match transitionTarget j.phase transition with
  | none => .error (.invalidTransition j.phase transition)
  | some (phase, code) =>
    let next := { j with
      phase := phase
      mutationMayHaveStarted := j.mutationMayHaveStarted || transition = .beginPartitionTableWrite
      partitionTableMayHaveChanged :=
        j.partitionTableMayHaveChanged || transition = .beginPartitionTableWrite
      filesystemMayHaveChanged := j.filesystemMayHaveChanged || transition = .beginFilesystemFormat
      events := j.events ++ [⟨sequenceOf j.events.length, phase, code⟩] }
    validateJournal next
    .ok next

def validateAuthorization (activation : ProductionCreateActivationIntent)
    (permit : ProductionCreateExecutionPermit)
    (preflight : ProductionCreateRuntimePreflightReceipt)
    (launch : ProductionCreateRuntimeLaunchSpec) :
    Except ProductionCreateRuntimeJournalError Unit := do
  refuse (activation.schemaVersion ≠ 1 ∨ permit.schemaVersion ≠ 1 ∨ preflight.schemaVersion ≠ 1 ∨
      launch.schemaVersion ≠ 1 ∨ ¬activation.integrityMatches ∨ ¬permit.integrityMatches ∨
      ¬preflight.integrityMatches ∨ ¬launch.integrityMatches ∨ ¬preflight.runtimeReady ∨
      activation.executionEnabled ∨ permit.mutationEnabled ∨ permit.processSpawned ∨
      preflight.mutationEnabled ∨ preflight.processSpawned ∨ launch.mutationEnabled ∨
      launch.processSpawned ∨ launch.partitionTableChanged ∨ launch.filesystemFormatted ∨
      ¬launch.requirePartitionRediscoveryBeforeMkfs)
    .authorizationInvalid
  refuse (permit.activationId ≠ activation.activationId ∨
      preflight.activationId ≠ activation.activationId ∨
      launch.activationId ≠ activation.activationId ∨
      preflight.executionPermitId ≠ permit.permitId ∨ launch.executionPermitId ≠ permit.permitId ∨
      launch.preflightReceiptId ≠ preflight.receiptId ∨
      permit.createIntentId ≠ activation.createIntentId ∨
      preflight.createIntentId ≠ activation.createIntentId ∨
      launch.createIntentId ≠ activation.createIntentId ∨ launch.disk ≠ activation.disk ∨
      launch.partitionTable ≠ activation.partitionTable ∨
      launch.partitionStartSector ≠ activation.partitionStartSector ∨
      launch.partitionSectorCount ≠ activation.partitionSectorCount ∨
      launch.partitionSizeBytes ≠ activation.partitionSizeBytes ∨
      launch.filesystem ≠ activation.filesystem)
    .bindingMismatch

/-- The Prepared record, in a build that has the journal feature. -/
def buildProductionCreateRuntimeJournal (activation : ProductionCreateActivationIntent)
    (permit : ProductionCreateExecutionPermit)
    (preflight : ProductionCreateRuntimePreflightReceipt)
    (launch : ProductionCreateRuntimeLaunchSpec) :
    Except ProductionCreateRuntimeJournalError ProductionCreateRuntimeJournal := do
  validateAuthorization activation permit preflight launch
  let unnamed : ProductionCreateRuntimeJournal :=
    { schemaVersion := 1
      journalId := ""
      activationId := activation.activationId
      executionPermitId := permit.permitId
      preflightReceiptId := preflight.receiptId
      launchId := launch.launchId
      createIntentId := activation.createIntentId
      disk := activation.disk
      partitionDevice := launch.partitionDevice
      partitionTable := activation.partitionTable.label
      partitionStartSector := activation.partitionStartSector
      partitionSectorCount := activation.partitionSectorCount
      partitionSizeBytes := activation.partitionSizeBytes
      filesystem := activation.filesystem
      phase := .prepared
      mutationMayHaveStarted := false
      partitionTableMayHaveChanged := false
      filesystemMayHaveChanged := false
      events := [] }
  let journal := { unnamed with journalId := unnamed.expectedJournalId }
  validateJournal journal
  .ok journal

end Records

/-- The bytes of the record, refused when they are too many. -/
@[irreducible] def encodeJournal (j : ProductionCreateRuntimeJournal) :
    Except ProductionCreateRuntimeJournalError (List UInt8) :=
  let bytes := toBytes (toJson j) ++ [10]
  if maxCreateRuntimeJournalBytes < bytes.length then .error .tooLarge else .ok bytes

section Store

variable [Fingerprint] {E : Env} {μ : Type}

/-- A function that works on the journal file. -/
abbrev JournalProc (E : Env) (μ : Type) :=
  FileProc ProductionCreateRuntimeJournal E μ ProductionCreateRuntimeJournalError

/-- What a loaded record must pass. The file holds one record, so the two length checks
of the source are one. -/
def checkLoaded (journalId : String) (j : ProductionCreateRuntimeJournal) : Except ProductionCreateRuntimeJournalError Unit := do
  let _ ← encodeJournal j
  refuse (j.journalId ≠ journalId)
    (.invalidRecord "journal ID does not match requested record")
  validateJournal j

/-- `ProductionCreateRuntimeJournalStore::load`. -/
def load (journalId : String) : JournalProc E μ ProductionCreateRuntimeJournal := do
  Proc.lift (validateDigest journalId "journal ID")
  let _ ← onFile storeFault (.ensureDirectory false)
  let _ ← onFile storeFault .metadata
  let journal ← readRecord storeFault
  Proc.lift (checkLoaded journalId journal)
  pure journal

def persistNew (j : ProductionCreateRuntimeJournal) : JournalProc E μ Unit := do
  Proc.lift (validateJournal j)
  let _ ← onFile storeFault (.ensureDirectory true)
  Proc.lift (validateDigest j.journalId "journal ID")
  match ← file .present with
  | .ok (some _) => Proc.throw (.alreadyExists j.journalId)
  | _ => do
    let _ ← Proc.lift (encodeJournal j)
    writeAtomicNew storeFault (linkFault j.journalId) j

def persist (j : ProductionCreateRuntimeJournal) : JournalProc E μ Unit := do
  Proc.lift (validateJournal j)
  let _ ← onFile storeFault (.ensureDirectory false)
  Proc.lift (validateDigest j.journalId "journal ID")
  let _ ← onFile storeFault .metadata
  let _ ← Proc.lift (encodeJournal j)
  writeAtomicReplace storeFault j

def persistNewProductionCreateRuntimeJournal (activation : ProductionCreateActivationIntent)
    (permit : ProductionCreateExecutionPermit)
    (preflight : ProductionCreateRuntimePreflightReceipt)
    (launch : ProductionCreateRuntimeLaunchSpec) :
    JournalProc E μ ProductionCreateRuntimeJournal := do
  let journal ← Proc.lift (buildProductionCreateRuntimeJournal activation permit preflight launch)
  persistNew journal
  pure journal

/-- The journal in memory moves only after the record was persisted. -/
def persistProductionCreateRuntimeTransition (transition : ProductionCreateRuntimeTransition) :
    JournalProc E ProductionCreateRuntimeJournal Unit :=
  persistStep (applyTransition · transition) persist

theorem persist_rewrites (j : ProductionCreateRuntimeJournal) :
    Rewrites j (persist j : JournalProc E μ Unit) := by
  unfold persist
  refine Rewrites.after (by simp) fun _ => ?_
  refine Rewrites.after (by simp) fun _ => ?_
  refine Rewrites.after (by simp) fun _ => ?_
  refine Rewrites.after (by simp) fun _ => ?_
  refine Rewrites.after (by simp) fun _ => ?_
  exact writeAtomicReplace_rewrites _ j

theorem persistNew_creates (j : ProductionCreateRuntimeJournal) :
    Creates j (persistNew j : JournalProc E μ Unit) := by
  have write : Creates j (do
      let _ ← Proc.lift (encodeJournal j)
      writeAtomicNew storeFault (linkFault j.journalId) j : JournalProc E μ Unit) :=
    Creates.after (by simp) fun _ => writeAtomicNew_creates _ _ j
  unfold persistNew
  refine Creates.after (by simp) fun _ => ?_
  refine Creates.after (by simp) fun _ => ?_
  refine Creates.after (by simp) fun _ => ?_
  refine Creates.after (by simp) fun r => ?_
  match r with
  | .ok (some _) => exact Creates.throw j _
  | .ok none => exact write
  | .error _ => exact write

/-- A loaded record is the one that is there. -/
theorem load_reads (journalId : String) : Reads (load journalId : JournalProc E μ _) := by
  unfold load
  refine Reads.after (by simp) fun _ => ?_
  refine Reads.after (by simp) fun _ => ?_
  refine Reads.after (by simp) fun _ => ?_
  exact (readRecord_reads storeFault).checked (checkLoaded journalId)

end Store

end StorageManager.Executor.Create
