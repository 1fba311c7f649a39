import StorageManager.Executor.JournalStore
import StorageManager.Executor.SwapAuthorization
import StorageManager.Lib.RecordFile

/-!
# The swap runtime journal

One durable record follows a swap replacement through three executors. Its events
form a chain of phases, which every write and every read checks again.
-/

namespace StorageManager.Executor.Swap

open Lib.Checks
open Lib.Effects
open Lib.Json (Value ToJson toJson toBytes)
open Lib.RecordFile

set_option autoImplicit false

/-- `MAX_SWAP_RUNTIME_JOURNAL_BYTES`. -/
def maxSwapRuntimeJournalBytes : Nat := 256 * 1024

inductive ProductionSwapRuntimePhase where
  | prepared
  | creatingSwapfile
  | swapfileCreated
  | formattingReplacement
  | replacementFormatted
  | activatingReplacement
  | replacementActive
  | deactivatingOldSwap
  | oldSwapDeactivated
  | updatingPersistentConfig
  | persistentConfigUpdated
  | removingPartitions
  | partitionsRemoved
  | completed
  | recoveryRequired
  deriving DecidableEq

inductive ProductionSwapRuntimeTransition where
  | beginSwapfileCreation
  | swapfileCreatedVerified
  | beginReplacementFormatting
  | replacementFormattedVerified
  | beginReplacementActivation
  | replacementActiveVerified
  | beginOldSwapDeactivation
  | oldSwapDeactivatedVerified
  | beginPersistentConfigUpdate
  | persistentConfigUpdatedVerified
  | beginPartitionRemoval
  | partitionsRemovedVerified
  | completed
  | recoveryRequired
  deriving DecidableEq

structure ProductionSwapRuntimeJournalEvent where
  sequence : Nat
  source : ProductionSwapRuntimePhase
  target : ProductionSwapRuntimePhase
  code : String
  deriving DecidableEq

structure ProductionSwapRuntimeJournal where
  schemaVersion : Nat
  journalId : String
  activationId : String
  executionPermitId : String
  preflightReceiptId : String
  launchId : String
  swapReplacementIntentId : String
  target : String
  disk : String
  retiringSwapDevice : String
  retiringSwapBytes : Nat
  retiringSwapPriority : Int
  swapfilePath : String
  swapfileMode : Nat
  phase : ProductionSwapRuntimePhase
  mutationMayHaveStarted : Bool
  persistentConfigMayHaveChanged : Bool
  partitionTableMayHaveChanged : Bool
  events : List ProductionSwapRuntimeJournalEvent
  deriving DecidableEq

section Serialization

def ProductionSwapRuntimePhase.name : ProductionSwapRuntimePhase → String
  | .prepared => "prepared"
  | .creatingSwapfile => "creating_swapfile"
  | .swapfileCreated => "swapfile_created"
  | .formattingReplacement => "formatting_replacement"
  | .replacementFormatted => "replacement_formatted"
  | .activatingReplacement => "activating_replacement"
  | .replacementActive => "replacement_active"
  | .deactivatingOldSwap => "deactivating_old_swap"
  | .oldSwapDeactivated => "old_swap_deactivated"
  | .updatingPersistentConfig => "updating_persistent_config"
  | .persistentConfigUpdated => "persistent_config_updated"
  | .removingPartitions => "removing_partitions"
  | .partitionsRemoved => "partitions_removed"
  | .completed => "completed"
  | .recoveryRequired => "recovery_required"

instance : ToJson ProductionSwapRuntimePhase := ⟨fun p => toJson p.name⟩

instance : ToJson ProductionSwapRuntimeJournalEvent where
  toJson e := .obj [("sequence", toJson e.sequence), ("from", toJson e.source),
    ("to", toJson e.target), ("code", toJson e.code)]

instance : ToJson ProductionSwapRuntimeJournal where
  toJson j := .obj [("schema_version", toJson j.schemaVersion), ("journal_id", toJson j.journalId),
    ("activation_id", toJson j.activationId),
    ("execution_permit_id", toJson j.executionPermitId),
    ("preflight_receipt_id", toJson j.preflightReceiptId), ("launch_id", toJson j.launchId),
    ("swap_replacement_intent_id", toJson j.swapReplacementIntentId), ("target", toJson j.target),
    ("disk", toJson j.disk), ("retiring_swap_device", toJson j.retiringSwapDevice),
    ("retiring_swap_bytes", toJson j.retiringSwapBytes),
    ("retiring_swap_priority", toJson j.retiringSwapPriority),
    ("swapfile_path", toJson j.swapfilePath), ("swapfile_mode", toJson j.swapfileMode),
    ("phase", toJson j.phase), ("mutation_may_have_started", toJson j.mutationMayHaveStarted),
    ("persistent_config_may_have_changed", toJson j.persistentConfigMayHaveChanged),
    ("partition_table_may_have_changed", toJson j.partitionTableMayHaveChanged),
    ("events", toJson j.events)]

end Serialization

inductive ProductionSwapRuntimeJournalError where
  | authorizationInvalid
  | bindingMismatch
  | invalidRecord (message : String)
  | invalidTransition (source target : ProductionSwapRuntimePhase)
  | alreadyExists (journalId : String)
  | notFound (journalId : String)
  | notRegularFile
  | unsafeDirectory
  | tooLarge
  | io (source : String)
  deriving DecidableEq

/-- The store's error for a refused file operation. -/
def storeFault : Fault → ProductionSwapRuntimeJournalError
  | .unsafeDirectory => .unsafeDirectory
  | .unsafePath => .notRegularFile
  | .notFound => .io "entity not found"
  | .alreadyExists => .io "entity already exists"
  | .io source => .io source

/-- The error of a record's path that is missing. -/
def recordFault (journalId : String) : Fault → ProductionSwapRuntimeJournalError
  | .notFound => .notFound journalId
  | fault => storeFault fault

/-- The error of a link over a path that is taken. -/
def linkFault (journalId : String) : Fault → ProductionSwapRuntimeJournalError
  | .alreadyExists => .alreadyExists journalId
  | fault => storeFault fault

def validateDigest (value label : String) : Except ProductionSwapRuntimeJournalError Unit :=
  refuse (¬JournalStore.isLowerHexDigest value)
    (.invalidRecord s!"{label} is not a lowercase SHA-256 digest")

/-- One safe absolute path of a record; an embedded NUL is a control character. -/
def validateAbsolutePath (value label : String) : Except ProductionSwapRuntimeJournalError Unit :=
  refuse (value = "" ∨ ¬startsWith value "/" ∨ value.toList.any isControl)
    (.invalidRecord s!"{label} is not a safe absolute path")

def transitionTarget (phase : ProductionSwapRuntimePhase)
    (transition : ProductionSwapRuntimeTransition) :
    Option (ProductionSwapRuntimePhase × String) :=
  match phase, transition with
  | .prepared, .beginSwapfileCreation => some (.creatingSwapfile, "swapfile-create-started")
  | .creatingSwapfile, .swapfileCreatedVerified =>
    some (.swapfileCreated, "swapfile-created-verified")
  | .swapfileCreated, .beginReplacementFormatting =>
    some (.formattingReplacement, "replacement-format-started")
  | .formattingReplacement, .replacementFormattedVerified =>
    some (.replacementFormatted, "replacement-formatted-verified")
  | .replacementFormatted, .beginReplacementActivation =>
    some (.activatingReplacement, "replacement-activation-started")
  | .activatingReplacement, .replacementActiveVerified =>
    some (.replacementActive, "replacement-active-verified")
  | .replacementActive, .beginOldSwapDeactivation =>
    some (.deactivatingOldSwap, "old-swap-deactivation-started")
  | .deactivatingOldSwap, .oldSwapDeactivatedVerified =>
    some (.oldSwapDeactivated, "old-swap-deactivated-verified")
  | .oldSwapDeactivated, .beginPersistentConfigUpdate =>
    some (.updatingPersistentConfig, "persistent-config-update-started")
  | .updatingPersistentConfig, .persistentConfigUpdatedVerified =>
    some (.persistentConfigUpdated, "persistent-config-updated-verified")
  | .persistentConfigUpdated, .beginPartitionRemoval =>
    some (.removingPartitions, "partition-removal-started")
  | .removingPartitions, .partitionsRemovedVerified =>
    some (.partitionsRemoved, "partitions-removed-verified")
  | .partitionsRemoved, .completed => some (.completed, "completed")
  | .creatingSwapfile, .recoveryRequired
  | .swapfileCreated, .recoveryRequired
  | .formattingReplacement, .recoveryRequired
  | .replacementFormatted, .recoveryRequired
  | .activatingReplacement, .recoveryRequired
  | .replacementActive, .recoveryRequired
  | .deactivatingOldSwap, .recoveryRequired
  | .oldSwapDeactivated, .recoveryRequired
  | .updatingPersistentConfig, .recoveryRequired
  | .persistentConfigUpdated, .recoveryRequired
  | .removingPartitions, .recoveryRequired
  | .partitionsRemoved, .recoveryRequired => some (.recoveryRequired, "recovery-required")
  | _, _ => none

def transitionPhaseHint : ProductionSwapRuntimeTransition → ProductionSwapRuntimePhase
  | .beginSwapfileCreation => .creatingSwapfile
  | .swapfileCreatedVerified => .swapfileCreated
  | .beginReplacementFormatting => .formattingReplacement
  | .replacementFormattedVerified => .replacementFormatted
  | .beginReplacementActivation => .activatingReplacement
  | .replacementActiveVerified => .replacementActive
  | .beginOldSwapDeactivation => .deactivatingOldSwap
  | .oldSwapDeactivatedVerified => .oldSwapDeactivated
  | .beginPersistentConfigUpdate => .updatingPersistentConfig
  | .persistentConfigUpdatedVerified => .persistentConfigUpdated
  | .beginPartitionRemoval => .removingPartitions
  | .partitionsRemovedVerified => .partitionsRemoved
  | .completed => .completed
  | .recoveryRequired => .recoveryRequired

/-- The transition matrix the validator writes out a second time. -/
def allowedTransition (source target : ProductionSwapRuntimePhase) (code : String) : Bool :=
  match source, target with
  | .prepared, .creatingSwapfile => code == "swapfile-create-started"
  | .creatingSwapfile, .swapfileCreated => code == "swapfile-created-verified"
  | .swapfileCreated, .formattingReplacement => code == "replacement-format-started"
  | .formattingReplacement, .replacementFormatted => code == "replacement-formatted-verified"
  | .replacementFormatted, .activatingReplacement => code == "replacement-activation-started"
  | .activatingReplacement, .replacementActive => code == "replacement-active-verified"
  | .replacementActive, .deactivatingOldSwap => code == "old-swap-deactivation-started"
  | .deactivatingOldSwap, .oldSwapDeactivated => code == "old-swap-deactivated-verified"
  | .oldSwapDeactivated, .updatingPersistentConfig => code == "persistent-config-update-started"
  | .updatingPersistentConfig, .persistentConfigUpdated =>
    code == "persistent-config-updated-verified"
  | .persistentConfigUpdated, .removingPartitions => code == "partition-removal-started"
  | .removingPartitions, .partitionsRemoved => code == "partitions-removed-verified"
  | .partitionsRemoved, .completed => code == "completed"
  | .creatingSwapfile, .recoveryRequired
  | .swapfileCreated, .recoveryRequired
  | .formattingReplacement, .recoveryRequired
  | .replacementFormatted, .recoveryRequired
  | .activatingReplacement, .recoveryRequired
  | .replacementActive, .recoveryRequired
  | .deactivatingOldSwap, .recoveryRequired
  | .oldSwapDeactivated, .recoveryRequired
  | .updatingPersistentConfig, .recoveryRequired
  | .persistentConfigUpdated, .recoveryRequired
  | .removingPartitions, .recoveryRequired
  | .partitionsRemoved, .recoveryRequired => code == "recovery-required"
  | _, _ => false

/-- The event loop of `validate_journal`, with the events already seen and the phase
they lead to. -/
def validateEvents : Nat → ProductionSwapRuntimePhase → List ProductionSwapRuntimeJournalEvent →
    Except ProductionSwapRuntimeJournalError ProductionSwapRuntimePhase
  | _, phase, [] => .ok phase
  | index, phase, event :: rest => do
    refuse (event.sequence ≠ index + 1 ∨ event.source ≠ phase ∨ event.code = "" ∨
        event.code.toList.any isControl)
      (.invalidRecord "journal event chain is invalid")
    refuse (¬allowedTransition event.source event.target event.code)
      (.invalidRecord "journal contains an impossible transition")
    validateEvents (index + 1) event.target rest

def mutationExpected (events : List ProductionSwapRuntimeJournalEvent) : Bool :=
  events.any fun e => e.target != .prepared

def persistentExpected (events : List ProductionSwapRuntimeJournalEvent) : Bool :=
  events.any fun e => [.updatingPersistentConfig, .persistentConfigUpdated, .removingPartitions,
    .partitionsRemoved, .completed].contains e.target

def partitionExpected (events : List ProductionSwapRuntimeJournalEvent) : Bool :=
  events.any fun e => [.removingPartitions, .partitionsRemoved, .completed].contains e.target

def recomputeFlags (j : ProductionSwapRuntimeJournal) : ProductionSwapRuntimeJournal :=
  { j with
    mutationMayHaveStarted := mutationExpected j.events
    persistentConfigMayHaveChanged := persistentExpected j.events
    partitionTableMayHaveChanged := partitionExpected j.events }

section Records

variable [Fingerprint]

def ProductionSwapRuntimeJournal.expectedJournalId (j : ProductionSwapRuntimeJournal) : String :=
  fingerprint (.obj [("schema_version", toJson j.schemaVersion),
    ("activation_id", toJson j.activationId),
    ("execution_permit_id", toJson j.executionPermitId),
    ("preflight_receipt_id", toJson j.preflightReceiptId), ("launch_id", toJson j.launchId),
    ("swap_replacement_intent_id", toJson j.swapReplacementIntentId), ("target", toJson j.target),
    ("disk", toJson j.disk), ("retiring_swap_device", toJson j.retiringSwapDevice),
    ("retiring_swap_bytes", toJson j.retiringSwapBytes),
    ("retiring_swap_priority", toJson j.retiringSwapPriority),
    ("swapfile_path", toJson j.swapfilePath), ("swapfile_mode", toJson j.swapfileMode)])

def ProductionSwapRuntimeJournal.integrityMatches (j : ProductionSwapRuntimeJournal) : Bool :=
  j.journalId == j.expectedJournalId

def validateJournal (j : ProductionSwapRuntimeJournal) :
    Except ProductionSwapRuntimeJournalError Unit := do
  refuse (j.schemaVersion ≠ 1) (.invalidRecord "unsupported schema version")
  checkAll (fun f => validateDigest f.1 f.2) [(j.journalId, "journal ID"),
    (j.activationId, "activation ID"), (j.executionPermitId, "execution permit ID"),
    (j.preflightReceiptId, "preflight receipt ID"), (j.launchId, "launch ID"),
    (j.swapReplacementIntentId, "swap replacement intent ID")]
  checkAll (fun f => validateAbsolutePath f.1 f.2) [(j.target, "target"), (j.disk, "disk"),
    (j.retiringSwapDevice, "retiring swap device"), (j.swapfilePath, "swapfile path")]
  refuse (j.retiringSwapBytes = 0 ∨ j.swapfileMode ≠ 0o600)
    (.invalidRecord "swap size/mode binding is invalid")
  refuse (¬j.integrityMatches)
    (.invalidRecord "journal immutable binding digest does not match contents")
  let phase ← validateEvents 0 .prepared j.events
  refuse (phase ≠ j.phase) (.invalidRecord "journal phase does not match event chain")
  refuse ((j.phase = .completed ∨ j.phase = .recoveryRequired) ∧ j.events = [])
    (.invalidRecord "terminal phase cannot exist before a runtime boundary")
  refuse (j.mutationMayHaveStarted ≠ mutationExpected j.events ∨
      j.persistentConfigMayHaveChanged ≠ persistentExpected j.events ∨
      j.partitionTableMayHaveChanged ≠ partitionExpected j.events)
    (.invalidRecord "journal risk flags do not match the durable event chain")

/-- The journal after the transition; the source mutates a copy, which is dropped when
the transition or a validation fails. -/
def applyTransition (j : ProductionSwapRuntimeJournal)
    (transition : ProductionSwapRuntimeTransition) :
    Except ProductionSwapRuntimeJournalError ProductionSwapRuntimeJournal := do
  validateJournal j
  match transitionTarget j.phase transition with
  | none => .error (.invalidTransition j.phase (transitionPhaseHint transition))
  | some (phase, code) =>
    let next := recomputeFlags { j with
      events := j.events ++ [⟨j.events.length + 1, j.phase, phase, code⟩]
      phase := phase }
    validateJournal next
    .ok next

def validateAuthorization (activation : ProductionSwapReplacementActivationIntent)
    (permit : ProductionSwapReplacementExecutionPermit)
    (preflight : ProductionSwapRuntimePreflightReceipt) (launch : ProductionSwapRuntimeLaunchSpec) :
    Except ProductionSwapRuntimeJournalError Unit := do
  refuse (activation.schemaVersion ≠ 1 ∨ permit.schemaVersion ≠ 1 ∨ preflight.schemaVersion ≠ 1 ∨
      launch.schemaVersion ≠ 1 ∨ ¬activation.integrityMatches ∨ ¬permit.integrityMatches ∨
      ¬preflight.integrityMatches ∨ ¬launch.integrityMatches ∨ ¬preflight.runtimeReady ∨
      activation.executionEnabled ∨ permit.mutationEnabled ∨ permit.processSpawned ∨
      preflight.mutationEnabled ∨ preflight.processSpawned ∨ launch.mutationEnabled ∨
      launch.processSpawned ∨ launch.swapfileCreated)
    .authorizationInvalid
  refuse (permit.activationId ≠ activation.activationId ∨
      preflight.activationId ≠ activation.activationId ∨
      launch.activationId ≠ activation.activationId ∨
      preflight.executionPermitId ≠ permit.permitId ∨ launch.executionPermitId ≠ permit.permitId ∨
      launch.preflightReceiptId ≠ preflight.receiptId ∨
      permit.swapReplacementIntentId ≠ activation.swapReplacementIntentId ∨
      preflight.swapReplacementIntentId ≠ activation.swapReplacementIntentId ∨
      launch.swapReplacementIntentId ≠ activation.swapReplacementIntentId ∨
      launch.swapfile.path ≠ activation.swapfilePath ∨
      launch.swapfile.sizeBytes ≠ activation.retiringSwapBytes ∨
      launch.swapfile.mode ≠ activation.swapfileMode ∨ ¬launch.swapfile.createNew ∨
      ¬launch.swapfile.noFollow ∨ ¬launch.swapfile.fullyAllocate ∨
      ¬launch.requireDualActiveVerificationBeforeSwapoff)
    .bindingMismatch

/-- The Prepared record, in a build that has the journal feature. -/
def buildProductionSwapRuntimeJournal (activation : ProductionSwapReplacementActivationIntent)
    (permit : ProductionSwapReplacementExecutionPermit)
    (preflight : ProductionSwapRuntimePreflightReceipt) (launch : ProductionSwapRuntimeLaunchSpec) :
    Except ProductionSwapRuntimeJournalError ProductionSwapRuntimeJournal := do
  validateAuthorization activation permit preflight launch
  let unnamed : ProductionSwapRuntimeJournal :=
    { schemaVersion := 1
      journalId := ""
      activationId := activation.activationId
      executionPermitId := permit.permitId
      preflightReceiptId := preflight.receiptId
      launchId := launch.launchId
      swapReplacementIntentId := activation.swapReplacementIntentId
      target := activation.target
      disk := activation.disk
      retiringSwapDevice := activation.retiringSwapDevice
      retiringSwapBytes := activation.retiringSwapBytes
      retiringSwapPriority := activation.retiringSwapPriority
      swapfilePath := activation.swapfilePath
      swapfileMode := activation.swapfileMode
      phase := .prepared
      mutationMayHaveStarted := false
      persistentConfigMayHaveChanged := false
      partitionTableMayHaveChanged := false
      events := [] }
  let journal := { unnamed with journalId := unnamed.expectedJournalId }
  validateJournal journal
  .ok journal

end Records

/-- The bytes of the record, refused when they are too many. -/
@[irreducible] def encodeJournal (j : ProductionSwapRuntimeJournal) :
    Except ProductionSwapRuntimeJournalError (List UInt8) :=
  let bytes := toBytes (toJson j)
  if maxSwapRuntimeJournalBytes < bytes.length then .error .tooLarge else .ok bytes

/-- The size check of a read. The file ends in a newline that `encode_journal` does not
count. -/
@[irreducible] def checkRecordSize (j : ProductionSwapRuntimeJournal) :
    Except ProductionSwapRuntimeJournalError Unit :=
  refuse (maxSwapRuntimeJournalBytes < (toBytes (toJson j)).length + 1) .tooLarge

section Store

variable [Fingerprint] {E : Env} {μ : Type}

/-- A function that works on the journal file. -/
abbrev JournalProc (E : Env) (μ : Type) :=
  FileProc ProductionSwapRuntimeJournal E μ ProductionSwapRuntimeJournalError

/-- What a loaded record must pass. The file holds one record, so the two length checks
of the source are one. -/
def checkLoaded (journalId : String) (j : ProductionSwapRuntimeJournal) : Except ProductionSwapRuntimeJournalError Unit := do
  checkRecordSize j
  refuse (j.journalId ≠ journalId)
    (.invalidRecord "journal ID does not match requested record")
  validateJournal j

/-- `ProductionSwapRuntimeJournalStore::load`. -/
def load (journalId : String) : JournalProc E μ ProductionSwapRuntimeJournal := do
  Proc.lift (validateDigest journalId "journal ID")
  let _ ← onFile storeFault (.ensureDirectory false)
  let _ ← onFile (recordFault journalId) .metadata
  let journal ← readRecord storeFault
  Proc.lift (checkLoaded journalId journal)
  pure journal

def persistNew (j : ProductionSwapRuntimeJournal) : JournalProc E μ Unit := do
  Proc.lift (validateJournal j)
  let _ ← onFile storeFault (.ensureDirectory true)
  let _ ← Proc.lift (encodeJournal j)
  Proc.lift (validateDigest j.journalId "journal ID")
  writeAtomicNew storeFault (linkFault j.journalId) j

def persist (j : ProductionSwapRuntimeJournal) : JournalProc E μ Unit := do
  Proc.lift (validateJournal j)
  let _ ← onFile storeFault (.ensureDirectory true)
  let _ ← Proc.lift (encodeJournal j)
  Proc.lift (validateDigest j.journalId "journal ID")
  let _ ← onFile (recordFault j.journalId) .metadata
  writeAtomicReplace storeFault j

def persistNewProductionSwapRuntimeJournal
    (activation : ProductionSwapReplacementActivationIntent)
    (permit : ProductionSwapReplacementExecutionPermit)
    (preflight : ProductionSwapRuntimePreflightReceipt) (launch : ProductionSwapRuntimeLaunchSpec) :
    JournalProc E μ ProductionSwapRuntimeJournal := do
  let journal ← Proc.lift (buildProductionSwapRuntimeJournal activation permit preflight launch)
  persistNew journal
  pure journal

/-- The journal in memory moves only after the record was persisted. -/
def persistProductionSwapRuntimeTransition (transition : ProductionSwapRuntimeTransition) :
    JournalProc E ProductionSwapRuntimeJournal Unit :=
  persistStep (applyTransition · transition) persist

theorem persist_rewrites (j : ProductionSwapRuntimeJournal) :
    Rewrites j (persist j : JournalProc E μ Unit) := by
  unfold persist
  refine Rewrites.after (by simp) fun _ => ?_
  refine Rewrites.after (by simp) fun _ => ?_
  refine Rewrites.after (by simp) fun _ => ?_
  refine Rewrites.after (by simp) fun _ => ?_
  refine Rewrites.after (by simp) fun _ => ?_
  exact writeAtomicReplace_rewrites _ j

theorem persistNew_creates (j : ProductionSwapRuntimeJournal) :
    Creates j (persistNew j : JournalProc E μ Unit) := by
  unfold persistNew
  refine Creates.after (by simp) fun _ => ?_
  refine Creates.after (by simp) fun _ => ?_
  refine Creates.after (by simp) fun _ => ?_
  refine Creates.after (by simp) fun _ => ?_
  exact writeAtomicNew_creates _ _ j

/-- A loaded record is the one that is there. -/
theorem load_reads (journalId : String) : Reads (load journalId : JournalProc E μ _) := by
  unfold load
  refine Reads.after (by simp) fun _ => ?_
  refine Reads.after (by simp) fun _ => ?_
  refine Reads.after (by simp) fun _ => ?_
  exact (readRecord_reads storeFault).checked (checkLoaded journalId)

end Store

end StorageManager.Executor.Swap
