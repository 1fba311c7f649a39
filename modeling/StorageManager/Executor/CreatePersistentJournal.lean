import StorageManager.Executor.CreateMountExec

/-!
# The journal of a persistent configuration update

A completed mount may be written to fstab. The durable record of that update has the same chain of
events as the record of the mount, with codes of its own.
-/

namespace StorageManager.Executor.Create.Persistent

open Lib
open Lib.Checks
open Lib.Effects
open Lib.EventChain (follow sequenceOf)
open Lib.Json (Value ToJson toJson toBytes)
open Lib.RecordFile
open Lib.RecordStore (Store)
open Mount (ProductionCreateMountActivationIntent ProductionCreateMountRuntimeExecutionReceipt
  ProductionCreateMountRuntimeJournal uuidSource defaultFstabOptions expectedFstabPass)

set_option autoImplicit false

/-- `MAX_PERSISTENT_CONFIG_JOURNAL_BYTES`. -/
def maxPersistentConfigJournalBytes : Nat := 64 * 1024

inductive ProductionCreatePersistentConfigPhase where
  | prepared
  | updatingFstab
  | fstabWrittenAwaitingVerification
  | completed
  | recoveryRequired
  deriving DecidableEq

inductive ProductionCreatePersistentConfigTransition where
  | beginPersistentConfigUpdate
  | persistentConfigWriteSucceeded
  | persistentConfigRediscoveryVerified
  | recoveryRequired
  deriving DecidableEq

abbrev ProductionCreatePersistentConfigJournalEvent :=
  EventChain.Event ProductionCreatePersistentConfigPhase

structure ProductionCreatePersistentConfigJournal where
  schemaVersion : Nat
  journalId : String
  mountActivationId : String
  mountExecutionReceiptId : String
  mountRuntimeJournalId : String
  createActivationId : String
  disk : String
  partitionDevice : String
  filesystem : String
  filesystemUuid : String
  mountpoint : String
  fstabSource : String
  fstabOptions : List String
  fstabDump : Nat
  fstabPass : Nat
  phase : ProductionCreatePersistentConfigPhase
  mutationMayHaveStarted : Bool
  persistentConfigMayHaveChanged : Bool
  events : List ProductionCreatePersistentConfigJournalEvent
  deriving DecidableEq

section Serialization

def ProductionCreatePersistentConfigPhase.name : ProductionCreatePersistentConfigPhase → String
  | .prepared => "prepared"
  | .updatingFstab => "updating_fstab"
  | .fstabWrittenAwaitingVerification => "fstab_written_awaiting_verification"
  | .completed => "completed"
  | .recoveryRequired => "recovery_required"

instance : ToJson ProductionCreatePersistentConfigPhase := ⟨fun p => toJson p.name⟩

instance : ToJson ProductionCreatePersistentConfigJournalEvent where
  toJson e := .obj [("sequence", toJson e.sequence), ("from", toJson e.source),
    ("to", toJson e.target), ("code", toJson e.code)]

instance : ToJson ProductionCreatePersistentConfigJournal where
  toJson j := .obj [("schema_version", toJson j.schemaVersion), ("journal_id", toJson j.journalId),
    ("mount_activation_id", toJson j.mountActivationId),
    ("mount_execution_receipt_id", toJson j.mountExecutionReceiptId),
    ("mount_runtime_journal_id", toJson j.mountRuntimeJournalId),
    ("create_activation_id", toJson j.createActivationId), ("disk", toJson j.disk),
    ("partition_device", toJson j.partitionDevice), ("filesystem", toJson j.filesystem),
    ("filesystem_uuid", toJson j.filesystemUuid), ("mountpoint", toJson j.mountpoint),
    ("fstab_source", toJson j.fstabSource), ("fstab_options", toJson j.fstabOptions),
    ("fstab_dump", toJson j.fstabDump), ("fstab_pass", toJson j.fstabPass),
    ("phase", toJson j.phase), ("mutation_may_have_started", toJson j.mutationMayHaveStarted),
    ("persistent_config_may_have_changed", toJson j.persistentConfigMayHaveChanged),
    ("events", toJson j.events)]

end Serialization

inductive ProductionCreatePersistentConfigJournalError where
  | authorizationInvalid
  | invalidRecord (message : String)
  | invalidTransition (source : ProductionCreatePersistentConfigPhase)
      (transition : ProductionCreatePersistentConfigTransition)
  | alreadyExists (journalId : String)
  | unsafePath
  | unsafeDirectory
  | tooLarge
  | io (source : String)
  deriving DecidableEq

/-- The store's error for a refused file operation. -/
def storeFault : Fault → ProductionCreatePersistentConfigJournalError
  | .unsafeDirectory => .unsafeDirectory
  | .unsafePath => .unsafePath
  | .notFound => .io "entity not found"
  | .alreadyExists => .io "entity already exists"
  | .io source => .io source

def eventFault : EventChain.Fault → ProductionCreatePersistentConfigJournalError
  | .brokenChain => .invalidRecord "journal event sequence or phase chain is invalid"
  | .impossibleTransition =>
    .invalidRecord "journal event contains an impossible phase transition"
  | .wrongCode => .invalidRecord "journal event code does not match its phase transition"

def validateDigest (value label : String) :
    Except ProductionCreatePersistentConfigJournalError Unit :=
  refuse (¬isSha256Hex value) (.invalidRecord s!"{label} is not a lowercase SHA-256 hex digest")

def transitionTargetForValidation (source target : ProductionCreatePersistentConfigPhase) :
    Option (ProductionCreatePersistentConfigPhase × String) :=
  match source, target with
  | .prepared, .updatingFstab => some (.updatingFstab, "persistent-config-update-started")
  | .updatingFstab, .fstabWrittenAwaitingVerification =>
    some (.fstabWrittenAwaitingVerification, "persistent-config-write-succeeded")
  | .fstabWrittenAwaitingVerification, .completed =>
    some (.completed, "persistent-config-rediscovery-verified")
  | .updatingFstab, .recoveryRequired
  | .fstabWrittenAwaitingVerification, .recoveryRequired =>
    some (.recoveryRequired, "recovery-required")
  | _, _ => none

def transitionTarget (phase : ProductionCreatePersistentConfigPhase)
    (transition : ProductionCreatePersistentConfigTransition) :
    Option (ProductionCreatePersistentConfigPhase × String) :=
  match phase, transition with
  | .prepared, .beginPersistentConfigUpdate =>
    some (.updatingFstab, "persistent-config-update-started")
  | .updatingFstab, .persistentConfigWriteSucceeded =>
    some (.fstabWrittenAwaitingVerification, "persistent-config-write-succeeded")
  | .fstabWrittenAwaitingVerification, .persistentConfigRediscoveryVerified =>
    some (.completed, "persistent-config-rediscovery-verified")
  | .updatingFstab, .recoveryRequired
  | .fstabWrittenAwaitingVerification, .recoveryRequired =>
    some (.recoveryRequired, "recovery-required")
  | _, _ => none

section Records

variable [Fingerprint]

def ProductionCreatePersistentConfigJournal.expectedJournalId
    (j : ProductionCreatePersistentConfigJournal) : String :=
  fingerprint (.obj [("schema_version", toJson j.schemaVersion),
    ("mount_activation_id", toJson j.mountActivationId),
    ("mount_execution_receipt_id", toJson j.mountExecutionReceiptId),
    ("mount_runtime_journal_id", toJson j.mountRuntimeJournalId),
    ("create_activation_id", toJson j.createActivationId), ("disk", toJson j.disk),
    ("partition_device", toJson j.partitionDevice), ("filesystem", toJson j.filesystem),
    ("filesystem_uuid", toJson j.filesystemUuid), ("mountpoint", toJson j.mountpoint),
    ("fstab_source", toJson j.fstabSource), ("fstab_options", toJson j.fstabOptions),
    ("fstab_dump", toJson j.fstabDump), ("fstab_pass", toJson j.fstabPass)])

def ProductionCreatePersistentConfigJournal.integrityMatches
    (j : ProductionCreatePersistentConfigJournal) : Bool := j.journalId == j.expectedJournalId

def validateJournal (j : ProductionCreatePersistentConfigJournal) :
    Except ProductionCreatePersistentConfigJournalError Unit := do
  refuse (j.schemaVersion ≠ 1 ∨ ¬j.integrityMatches ∨ ¬startsWith j.disk "/dev/" ∨
      ¬startsWith j.partitionDevice "/dev/" ∨ ¬(j.filesystem = "ext4" ∨ j.filesystem = "xfs") ∨
      j.filesystemUuid = "" ∨ j.mountpoint = "" ∨ ¬startsWith j.mountpoint "/" ∨
      j.fstabSource ≠ uuidSource j.filesystemUuid ∨ j.fstabOptions ≠ defaultFstabOptions ∨
      j.fstabDump ≠ 0 ∨ j.fstabPass ≠ expectedFstabPass j.filesystem)
    (.invalidRecord "journal identity or frozen persistent-config scope is invalid")
  checkAll (fun d => validateDigest d.1 d.2) [(j.mountActivationId, "mount activation ID"),
    (j.mountExecutionReceiptId, "mount execution receipt ID"),
    (j.mountRuntimeJournalId, "mount runtime journal ID"),
    (j.createActivationId, "create activation ID")]
  let phase ← (follow transitionTargetForValidation 0 .prepared j.events).mapError eventFault
  refuse (phase ≠ j.phase) (.invalidRecord "journal phase does not match its event chain")
  let mutationExpected : Bool := j.phase ≠ .prepared
  refuse (j.mutationMayHaveStarted ≠ mutationExpected ∨
      j.persistentConfigMayHaveChanged ≠ mutationExpected)
    (.invalidRecord "persistent-config mutation flags do not match durable phase")

/-- The journal after the transition; the source mutates a copy, which is dropped when the
transition or the validation fails. -/
def applyTransition (j : ProductionCreatePersistentConfigJournal)
    (transition : ProductionCreatePersistentConfigTransition) :
    Except ProductionCreatePersistentConfigJournalError ProductionCreatePersistentConfigJournal := do
  let reached ← okOr (transitionTarget j.phase transition) (.invalidTransition j.phase transition)
  let next := { j with
    phase := reached.1
    mutationMayHaveStarted := true
    persistentConfigMayHaveChanged := true
    events := j.events ++ [⟨sequenceOf j.events.length, j.phase, reached.1, reached.2⟩] }
  validateJournal next
  pure next

def validateAuthorization (create : ProductionCreateActivationIntent)
    (activation : ProductionCreateMountActivationIntent)
    (receipt : ProductionCreateMountRuntimeExecutionReceipt)
    (mountJournal : ProductionCreateMountRuntimeJournal) :
    Except ProductionCreatePersistentConfigJournalError Unit :=
  refuse (create.schemaVersion ≠ 1 ∨ activation.schemaVersion ≠ 1 ∨ receipt.schemaVersion ≠ 1 ∨
      mountJournal.schemaVersion ≠ 1 ∨ ¬create.integrityMatches ∨ ¬activation.integrityMatches ∨
      receipt.receiptId ≠ receipt.expectedReceiptId ∨ ¬mountJournal.integrityMatches ∨
      ¬activation.persistToFstab ∨ activation.executionEnabled ∨ activation.mountPerformed ∨
      activation.fstabChanged ∨ ¬receipt.mountedVerified ∨ receipt.fstabChanged ∨
      mountJournal.phase ≠ .completed ∨ ¬mountJournal.mutationMayHaveStarted ∨
      ¬mountJournal.mountMayHaveChanged ∨ mountJournal.fstabMayHaveChanged ∨
      activation.createActivationId ≠ create.activationId ∨
      receipt.mountActivationId ≠ activation.mountActivationId ∨
      receipt.mountJournalId ≠ mountJournal.journalId ∨
      receipt.mountLaunchId ≠ mountJournal.launchId ∨
      mountJournal.mountActivationId ≠ activation.mountActivationId ∨
      mountJournal.createActivationId ≠ create.activationId ∨ mountJournal.disk ≠ create.disk ∨
      mountJournal.disk ≠ activation.disk ∨
      mountJournal.partitionDevice ≠ activation.partitionDevice ∨
      mountJournal.filesystem ≠ activation.filesystem ∨
      ¬eqIgnoreAsciiCase mountJournal.filesystemUuid activation.filesystemUuid ∨
      mountJournal.mountpoint ≠ activation.mountpoint ∨
      receipt.partitionDevice ≠ activation.partitionDevice ∨
      receipt.filesystem ≠ activation.filesystem ∨
      ¬eqIgnoreAsciiCase receipt.filesystemUuid activation.filesystemUuid ∨
      receipt.mountpoint ≠ activation.mountpoint ∨
      activation.fstabSource ≠ uuidSource activation.filesystemUuid ∨
      activation.fstabOptions ≠ defaultFstabOptions ∨ activation.fstabDump ≠ 0 ∨
      activation.fstabPass ≠ expectedFstabPass activation.filesystem) .authorizationInvalid

/-- The Prepared record, in a build that has the journal feature. -/
def buildProductionCreatePersistentConfigJournal (create : ProductionCreateActivationIntent)
    (activation : ProductionCreateMountActivationIntent)
    (receipt : ProductionCreateMountRuntimeExecutionReceipt)
    (mountJournal : ProductionCreateMountRuntimeJournal) :
    Except ProductionCreatePersistentConfigJournalError
      ProductionCreatePersistentConfigJournal := do
  validateAuthorization create activation receipt mountJournal
  let unnamed : ProductionCreatePersistentConfigJournal :=
    { schemaVersion := 1
      journalId := ""
      mountActivationId := activation.mountActivationId
      mountExecutionReceiptId := receipt.receiptId
      mountRuntimeJournalId := mountJournal.journalId
      createActivationId := create.activationId
      disk := activation.disk
      partitionDevice := activation.partitionDevice
      filesystem := activation.filesystem
      filesystemUuid := activation.filesystemUuid
      mountpoint := activation.mountpoint
      fstabSource := activation.fstabSource
      fstabOptions := activation.fstabOptions
      fstabDump := activation.fstabDump
      fstabPass := activation.fstabPass
      phase := .prepared
      mutationMayHaveStarted := false
      persistentConfigMayHaveChanged := false
      events := [] }
  let journal := { unnamed with journalId := unnamed.expectedJournalId }
  validateJournal journal
  pure journal

end Records

/-- The bytes of the record, refused when they are too many. -/
@[irreducible] def encodeJournal (j : ProductionCreatePersistentConfigJournal) :
    Except ProductionCreatePersistentConfigJournalError (List UInt8) :=
  let bytes := toBytes (toJson j) ++ [10]
  if maxPersistentConfigJournalBytes < bytes.length then .error .tooLarge else .ok bytes

section Store

variable [Fingerprint] {E : Env} {μ : Type}

/-- A function that works on the journal file. -/
abbrev JournalProc (E : Env) (μ : Type) :=
  FileProc ProductionCreatePersistentConfigJournal E μ ProductionCreatePersistentConfigJournalError

/-- `ProductionCreatePersistentConfigJournalStore`. -/
def journalStore : Store ProductionCreatePersistentConfigJournal
    ProductionCreatePersistentConfigJournalError where
  validate := validateJournal
  checkName j := validateDigest j.journalId "journal ID"
  encode := encodeJournal
  fault := storeFault
  alreadyExists j := .alreadyExists j.journalId

def load (journalId : String) : JournalProc E μ ProductionCreatePersistentConfigJournal :=
  journalStore.load (validateDigest journalId "journal ID") fun j =>
    refuse (j.journalId ≠ journalId)
      (.invalidRecord "journal ID does not match requested durable record")

def persistNewProductionCreatePersistentConfigJournal (create : ProductionCreateActivationIntent)
    (activation : ProductionCreateMountActivationIntent)
    (receipt : ProductionCreateMountRuntimeExecutionReceipt)
    (mountJournal : ProductionCreateMountRuntimeJournal) :
    JournalProc E μ ProductionCreatePersistentConfigJournal := do
  let journal ← Proc.lift
    (buildProductionCreatePersistentConfigJournal create activation receipt mountJournal)
  journalStore.persistNew journal
  pure journal

/-- The journal in memory moves only after the record was persisted. -/
def persistProductionCreatePersistentConfigTransition
    (transition : ProductionCreatePersistentConfigTransition) :
    JournalProc E ProductionCreatePersistentConfigJournal Unit :=
  persistStep (applyTransition · transition) journalStore.persist

end Store

end StorageManager.Executor.Create.Persistent
