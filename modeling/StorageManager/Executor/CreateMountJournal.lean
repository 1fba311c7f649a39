import StorageManager.Executor.CreateMountRuntime
import StorageManager.Lib.EventChain
import StorageManager.Lib.RecordStore

/-!
# The journal of a mount

The durable record of one mount. Its events carry the phase they left and the one they reached,
and the validator follows them from Prepared to the phase of the record.
-/

namespace StorageManager.Executor.Create.Mount

open Lib
open Lib.Checks
open Lib.Effects
open Lib.EventChain (follow sequenceOf)
open Lib.Json (Value ToJson toJson toBytes)
open Lib.RecordFile
open Lib.RecordStore (Store)

set_option autoImplicit false

/-- `MAX_MOUNT_RUNTIME_JOURNAL_BYTES`. -/
def maxMountRuntimeJournalBytes : Nat := 64 * 1024

inductive ProductionCreateMountRuntimePhase where
  | prepared
  | mounting
  | mountedAwaitingVerification
  | completed
  | recoveryRequired
  deriving DecidableEq

inductive ProductionCreateMountRuntimeTransition where
  | beginMount
  | mountProcessSucceeded
  | mountRediscoveryVerified
  | recoveryRequired
  deriving DecidableEq

abbrev ProductionCreateMountRuntimeJournalEvent :=
  EventChain.Event ProductionCreateMountRuntimePhase

structure ProductionCreateMountRuntimeJournal where
  schemaVersion : Nat
  journalId : String
  mountActivationId : String
  preflightReceiptId : String
  launchId : String
  createActivationId : String
  filesystemReceiptId : String
  createJournalId : String
  createLaunchId : String
  disk : String
  partitionDevice : String
  filesystem : String
  filesystemUuid : String
  mountpoint : String
  mountpointDeviceId : Nat
  mountpointInode : Nat
  phase : ProductionCreateMountRuntimePhase
  mutationMayHaveStarted : Bool
  mountMayHaveChanged : Bool
  fstabMayHaveChanged : Bool
  events : List ProductionCreateMountRuntimeJournalEvent
  deriving DecidableEq

section Serialization

def ProductionCreateMountRuntimePhase.name : ProductionCreateMountRuntimePhase → String
  | .prepared => "prepared"
  | .mounting => "mounting"
  | .mountedAwaitingVerification => "mounted_awaiting_verification"
  | .completed => "completed"
  | .recoveryRequired => "recovery_required"

instance : ToJson ProductionCreateMountRuntimePhase := ⟨fun p => toJson p.name⟩

instance : ToJson ProductionCreateMountRuntimeJournalEvent where
  toJson e := .obj [("sequence", toJson e.sequence), ("from", toJson e.source),
    ("to", toJson e.target), ("code", toJson e.code)]

instance : ToJson ProductionCreateMountRuntimeJournal where
  toJson j := .obj [("schema_version", toJson j.schemaVersion), ("journal_id", toJson j.journalId),
    ("mount_activation_id", toJson j.mountActivationId),
    ("preflight_receipt_id", toJson j.preflightReceiptId), ("launch_id", toJson j.launchId),
    ("create_activation_id", toJson j.createActivationId),
    ("filesystem_receipt_id", toJson j.filesystemReceiptId),
    ("create_journal_id", toJson j.createJournalId),
    ("create_launch_id", toJson j.createLaunchId), ("disk", toJson j.disk),
    ("partition_device", toJson j.partitionDevice), ("filesystem", toJson j.filesystem),
    ("filesystem_uuid", toJson j.filesystemUuid), ("mountpoint", toJson j.mountpoint),
    ("mountpoint_device_id", toJson j.mountpointDeviceId),
    ("mountpoint_inode", toJson j.mountpointInode), ("phase", toJson j.phase),
    ("mutation_may_have_started", toJson j.mutationMayHaveStarted),
    ("mount_may_have_changed", toJson j.mountMayHaveChanged),
    ("fstab_may_have_changed", toJson j.fstabMayHaveChanged), ("events", toJson j.events)]

end Serialization

inductive ProductionCreateMountRuntimeJournalError where
  | authorizationInvalid
  | bindingMismatch
  | invalidRecord (message : String)
  | invalidTransition (source : ProductionCreateMountRuntimePhase)
      (transition : ProductionCreateMountRuntimeTransition)
  | alreadyExists (journalId : String)
  | unsafePath
  | unsafeDirectory
  | tooLarge
  | io (source : String)
  deriving DecidableEq

/-- The store's error for a refused file operation. -/
def storeFault : Fault → ProductionCreateMountRuntimeJournalError
  | .unsafeDirectory => .unsafeDirectory
  | .unsafePath => .unsafePath
  | .notFound => .io "entity not found"
  | .alreadyExists => .io "entity already exists"
  | .io source => .io source

def eventFault : EventChain.Fault → ProductionCreateMountRuntimeJournalError
  | .brokenChain => .invalidRecord "journal event sequence or phase chain is invalid"
  | .impossibleTransition =>
    .invalidRecord "journal event contains an impossible phase transition"
  | .wrongCode => .invalidRecord "journal event code does not match its phase transition"

def validateDigest (value label : String) : Except ProductionCreateMountRuntimeJournalError Unit :=
  refuse (¬isSha256Hex value) (.invalidRecord s!"{label} is not a lowercase SHA-256 hex digest")

def transitionTargetForValidation (source target : ProductionCreateMountRuntimePhase) :
    Option (ProductionCreateMountRuntimePhase × String) :=
  match source, target with
  | .prepared, .mounting => some (.mounting, "mount-started")
  | .mounting, .mountedAwaitingVerification =>
    some (.mountedAwaitingVerification, "mount-process-succeeded")
  | .mountedAwaitingVerification, .completed => some (.completed, "mount-rediscovery-verified")
  | .mounting, .recoveryRequired
  | .mountedAwaitingVerification, .recoveryRequired =>
    some (.recoveryRequired, "recovery-required")
  | _, _ => none

def transitionTarget (phase : ProductionCreateMountRuntimePhase)
    (transition : ProductionCreateMountRuntimeTransition) :
    Option (ProductionCreateMountRuntimePhase × String) :=
  match phase, transition with
  | .prepared, .beginMount => some (.mounting, "mount-started")
  | .mounting, .mountProcessSucceeded =>
    some (.mountedAwaitingVerification, "mount-process-succeeded")
  | .mountedAwaitingVerification, .mountRediscoveryVerified =>
    some (.completed, "mount-rediscovery-verified")
  | .mounting, .recoveryRequired
  | .mountedAwaitingVerification, .recoveryRequired =>
    some (.recoveryRequired, "recovery-required")
  | _, _ => none

section Records

variable [Fingerprint]

def ProductionCreateMountRuntimeJournal.expectedJournalId
    (j : ProductionCreateMountRuntimeJournal) : String :=
  fingerprint (.obj [("schema_version", toJson j.schemaVersion),
    ("mount_activation_id", toJson j.mountActivationId),
    ("preflight_receipt_id", toJson j.preflightReceiptId), ("launch_id", toJson j.launchId),
    ("create_activation_id", toJson j.createActivationId),
    ("filesystem_receipt_id", toJson j.filesystemReceiptId),
    ("create_journal_id", toJson j.createJournalId),
    ("create_launch_id", toJson j.createLaunchId), ("disk", toJson j.disk),
    ("partition_device", toJson j.partitionDevice), ("filesystem", toJson j.filesystem),
    ("filesystem_uuid", toJson j.filesystemUuid), ("mountpoint", toJson j.mountpoint),
    ("mountpoint_device_id", toJson j.mountpointDeviceId),
    ("mountpoint_inode", toJson j.mountpointInode)])

def ProductionCreateMountRuntimeJournal.integrityMatches
    (j : ProductionCreateMountRuntimeJournal) : Bool := j.journalId == j.expectedJournalId

def validateJournal (j : ProductionCreateMountRuntimeJournal) :
    Except ProductionCreateMountRuntimeJournalError Unit := do
  refuse (j.schemaVersion ≠ 1 ∨ ¬j.integrityMatches ∨ ¬startsWith j.disk "/dev/" ∨
      ¬startsWith j.partitionDevice "/dev/" ∨ ¬(j.filesystem = "ext4" ∨ j.filesystem = "xfs") ∨
      j.filesystemUuid = "" ∨ j.mountpoint = "" ∨ ¬startsWith j.mountpoint "/" ∨
      j.fstabMayHaveChanged) (.invalidRecord "journal identity or frozen mount scope is invalid")
  checkAll (fun d => validateDigest d.1 d.2) [(j.mountActivationId, "mount activation ID"),
    (j.preflightReceiptId, "preflight receipt ID"), (j.launchId, "launch ID"),
    (j.createActivationId, "create activation ID"),
    (j.filesystemReceiptId, "filesystem receipt ID"), (j.createJournalId, "create journal ID"),
    (j.createLaunchId, "create launch ID")]
  let phase ← (follow transitionTargetForValidation 0 .prepared j.events).mapError eventFault
  refuse (phase ≠ j.phase) (.invalidRecord "journal phase does not match its event chain")
  let mutationExpected : Bool := j.phase ≠ .prepared
  refuse (mutationExpected ≠ j.mutationMayHaveStarted ∨ mutationExpected ≠ j.mountMayHaveChanged)
    (.invalidRecord "mount mutation flags do not match durable phase")

/-- The journal after the transition; the source mutates a copy, which is dropped when the
transition or the validation fails. -/
def applyTransition (j : ProductionCreateMountRuntimeJournal)
    (transition : ProductionCreateMountRuntimeTransition) :
    Except ProductionCreateMountRuntimeJournalError ProductionCreateMountRuntimeJournal := do
  let reached ← okOr (transitionTarget j.phase transition) (.invalidTransition j.phase transition)
  let next := { j with
    phase := reached.1
    mutationMayHaveStarted := true
    mountMayHaveChanged := true
    events := j.events ++ [⟨sequenceOf j.events.length, j.phase, reached.1, reached.2⟩] }
  validateJournal next
  pure next

def validateAuthorization (activation : ProductionCreateMountActivationIntent)
    (preflight : ProductionCreateMountRuntimePreflightReceipt)
    (launch : ProductionCreateMountRuntimeLaunchSpec) :
    Except ProductionCreateMountRuntimeJournalError Unit := do
  refuse (activation.schemaVersion ≠ 1 ∨ preflight.schemaVersion ≠ 1 ∨ launch.schemaVersion ≠ 1 ∨
      ¬activation.integrityMatches ∨ ¬preflight.integrityMatches ∨ ¬launch.integrityMatches ∨
      ¬activation.compileFeatureEnabled ∨ ¬preflight.runtimeReady ∨ activation.executionEnabled ∨
      activation.mountPerformed ∨ activation.fstabChanged ∨ preflight.executionEnabled ∨
      preflight.processSpawned ∨ preflight.mountPerformed ∨ preflight.fstabChanged ∨
      launch.executionEnabled ∨ launch.processSpawned ∨ launch.mountPerformed ∨
      launch.fstabChanged ∨ launch.mtabWriteEnabled ∨
      ¬launch.requireMountpointIdentityRevalidationBeforeSpawn ∨ launch.mount.program ≠ .mount)
    .authorizationInvalid
  refuse (preflight.mountActivationId ≠ activation.mountActivationId ∨
      launch.mountActivationId ≠ activation.mountActivationId ∨
      launch.preflightReceiptId ≠ preflight.receiptId ∨
      preflight.createActivationId ≠ activation.createActivationId ∨
      preflight.filesystemReceiptId ≠ activation.filesystemReceiptId ∨
      preflight.journalId ≠ activation.journalId ∨
      preflight.createLaunchId ≠ activation.launchId ∨ launch.disk ≠ activation.disk ∨
      launch.partitionDevice ≠ activation.partitionDevice ∨
      launch.filesystem ≠ activation.filesystem ∨
      ¬eqIgnoreAsciiCase launch.filesystemUuid activation.filesystemUuid ∨
      launch.mountpoint ≠ activation.mountpoint ∨
      launch.fstabSource ≠ activation.fstabSource ∨
      preflight.mountpointDeviceId ≠ activation.mountpointDeviceId ∨
      preflight.mountpointInode ≠ activation.mountpointInode) .bindingMismatch

/-- The Prepared record, in a build that has the journal feature. -/
def buildProductionCreateMountRuntimeJournal (activation : ProductionCreateMountActivationIntent)
    (preflight : ProductionCreateMountRuntimePreflightReceipt)
    (launch : ProductionCreateMountRuntimeLaunchSpec) :
    Except ProductionCreateMountRuntimeJournalError ProductionCreateMountRuntimeJournal := do
  validateAuthorization activation preflight launch
  let unnamed : ProductionCreateMountRuntimeJournal :=
    { schemaVersion := 1
      journalId := ""
      mountActivationId := activation.mountActivationId
      preflightReceiptId := preflight.receiptId
      launchId := launch.launchId
      createActivationId := activation.createActivationId
      filesystemReceiptId := activation.filesystemReceiptId
      createJournalId := activation.journalId
      createLaunchId := activation.launchId
      disk := activation.disk
      partitionDevice := activation.partitionDevice
      filesystem := activation.filesystem
      filesystemUuid := activation.filesystemUuid
      mountpoint := activation.mountpoint
      mountpointDeviceId := activation.mountpointDeviceId
      mountpointInode := activation.mountpointInode
      phase := .prepared
      mutationMayHaveStarted := false
      mountMayHaveChanged := false
      fstabMayHaveChanged := false
      events := [] }
  let journal := { unnamed with journalId := unnamed.expectedJournalId }
  validateJournal journal
  pure journal

end Records

/-- The bytes of the record, refused when they are too many. -/
@[irreducible] def encodeJournal (j : ProductionCreateMountRuntimeJournal) :
    Except ProductionCreateMountRuntimeJournalError (List UInt8) :=
  let bytes := toBytes (toJson j) ++ [10]
  if maxMountRuntimeJournalBytes < bytes.length then .error .tooLarge else .ok bytes

section Store

variable [Fingerprint] {E : Env} {μ : Type}

/-- A function that works on the journal file. -/
abbrev JournalProc (E : Env) (μ : Type) :=
  FileProc ProductionCreateMountRuntimeJournal E μ ProductionCreateMountRuntimeJournalError

/-- `ProductionCreateMountRuntimeJournalStore`. -/
def journalStore :
    Store ProductionCreateMountRuntimeJournal ProductionCreateMountRuntimeJournalError where
  validate := validateJournal
  checkName j := validateDigest j.journalId "journal ID"
  encode := encodeJournal
  fault := storeFault
  alreadyExists j := .alreadyExists j.journalId

def load (journalId : String) : JournalProc E μ ProductionCreateMountRuntimeJournal :=
  journalStore.load (validateDigest journalId "journal ID") fun j =>
    refuse (j.journalId ≠ journalId)
      (.invalidRecord "journal ID does not match requested durable record")

def persistNewProductionCreateMountRuntimeJournal
    (activation : ProductionCreateMountActivationIntent)
    (preflight : ProductionCreateMountRuntimePreflightReceipt)
    (launch : ProductionCreateMountRuntimeLaunchSpec) :
    JournalProc E μ ProductionCreateMountRuntimeJournal := do
  let journal ← Proc.lift (buildProductionCreateMountRuntimeJournal activation preflight launch)
  journalStore.persistNew journal
  pure journal

/-- The journal in memory moves only after the record was persisted. -/
def persistProductionCreateMountRuntimeTransition
    (transition : ProductionCreateMountRuntimeTransition) :
    JournalProc E ProductionCreateMountRuntimeJournal Unit :=
  persistStep (applyTransition · transition) journalStore.persist

end Store

end StorageManager.Executor.Create.Mount
