import StorageManager.Executor.SwapHost

/-!
# The swap runtime executor

From the Prepared record to OldSwapDeactivated: the swapfile is created and formatted,
activated beside the old swap, and the old swap is turned off.
-/

namespace StorageManager.Executor.Swap

open StorageManager.Core
open Lib.Checks (refuse)
open Lib.Effects
open Lib.Json (toJson)
open Lib.RecordFile

set_option autoImplicit false

structure ProductionSwapRuntimeExecutionReceipt where
  schemaVersion : Nat
  receiptId : String
  journalId : String
  launchId : String
  retiringSwapDevice : String
  swapfilePath : String
  retiringReportedSwapBytes : Nat
  replacementReportedSwapBytes : Nat
  priority : Int
  oldSwapActive : Bool
  replacementSwapActive : Bool
  persistentConfigChanged : Bool
  partitionTableChanged : Bool
  deriving DecidableEq

/-- Where the source keeps the text of another error, the error itself is kept. -/
inductive ProductionSwapRuntimeExecutionError where
  | rootRequired
  | authorizationInvalid
  | journalMismatch
  | consent (source : String)
  | toolLease (source : String)
  | descriptor (source : PrivilegedDescriptorExecError)
  | journal (source : ProductionSwapRuntimeJournalError)
  | fileIo (source : IoError)
  | swapfileAllocationMismatch
  | swapSignatureMismatch
  | stageFailed (stage : String) (exitCode : Int) (stderr : List UInt8)
  | dualActiveVerificationFailed
  | oldSwapoffVerificationFailed
  | recoveryPersistenceFailed (runtime : ProductionSwapRuntimeExecutionError)
      (journal : ProductionSwapRuntimeJournalError)

abbrev RuntimeProc := SwapProc ProductionSwapRuntimeExecutionError

/-- `file.metadata()` checked against the frozen contract, and against the identity of
the created file when there is one. -/
def requireExactSwapfile (file : Nat) (identity : Option (Nat × Nat)) (bytes mode : Nat) :
    RuntimeProc FileMetadata := do
  let metadata ← orFail .fileIo (host (.fstat file))
  let allocatedBytes := metadata.blocks * 512
  Proc.lift (refuse (2 ^ 64 ≤ allocatedBytes ∨ ¬metadata.isFile ∨
      identity.any (· ≠ (metadata.dev, metadata.ino))) .swapfileAllocationMismatch)
  let euid ← host .geteuid
  Proc.lift (refuse (metadata.uid ≠ euid ∨ metadata.permissions ≠ mode ∨ metadata.nlink ≠ 1 ∨
      metadata.len ≠ bytes ∨ allocatedBytes < bytes) .swapfileAllocationMismatch)
  pure metadata

/-- The open swapfile and its identity. The length must fit an `off_t`. -/
def createExactSwapfile (path : String) (bytes mode : Nat) : RuntimeProc (Nat × Nat × Nat) := do
  let file ← orFail .fileIo (host (.createNew path mode))
  Proc.lift (refuse (2 ^ 63 ≤ bytes) .swapfileAllocationMismatch)
  orFail .fileIo (host (.fallocate file bytes))
  orFail .fileIo (host (.syncAll file))
  let metadata ← requireExactSwapfile file none bytes mode
  match pathParent path with
  | none => Proc.throw .swapfileAllocationMismatch
  | some parent => do
    let directory ← orFail .fileIo (host (.openRead parent))
    orFail .fileIo (host (.syncAll directory))
    pure (file, metadata.dev, metadata.ino)

def revalidateSwapfile (file : Nat) (identity : Nat × Nat) (bytes mode : Nat) :
    RuntimeProc Unit := do
  let _ ← requireExactSwapfile file (some identity) bytes mode
  pure ()

def verifySwapSignature (file : Nat) : RuntimeProc Unit := do
  let pageSize ← host .pageSize
  Proc.lift (refuse (pageSize ≤ 10) .swapSignatureMismatch)
  let signature ← orFail .fileIo (host (.readAt file 10 (pageSize - 10).toNat))
  Proc.lift (refuse (signature.length ≠ 10 ∨
      signature ≠ "SWAPSPACE2".toUTF8.data.toList ∧ signature ≠ "SWAP-SPACE".toUTF8.data.toList)
    .swapSignatureMismatch)

/-- `run_stage`. -/
def runStage (stage : SwapStage) (launchStage : ProductionSwapRuntimeLaunchStage)
    (launch : ProductionSwapRuntimeLaunchSpec) : RuntimeProc DescriptorExecOutcome :=
  runDescriptorStage .descriptor .stageFailed stage launchStage.program launchStage.argv
    launch.fixedPath launch.fixedLocale

/-- The single entries of both swaps, if both are there once. -/
def exactMatches (swaps : List SwapEntry) (retiring replacement : String) :
    Option (SwapEntry × SwapEntry) :=
  match swaps.filter (·.name == retiring), swaps.filter (·.name == replacement) with
  | [old], [new] => some (old, new)
  | _, _ => none

/-- `discover_swaps().map_err(|error| io::Error::other(error.to_string()))?` -/
def discoverSwaps : RuntimeProc (List SwapEntry) :=
  orFail (fun e => .fileIo (.other e)) (host .discoverSwaps)

def exactSwapEntries (retiring replacement : String) : RuntimeProc (SwapEntry × SwapEntry) := do
  let swaps ← discoverSwaps
  match exactMatches swaps retiring replacement with
  | some entries => pure entries
  | none => Proc.throw .dualActiveVerificationFailed

/-- Both swaps with the frozen priority and of one size. -/
def dualActiveVerified (journal : ProductionSwapRuntimeJournal)
    (entries : SwapEntry × SwapEntry) : Bool :=
  entries.1.priority == journal.retiringSwapPriority &&
    entries.2.priority == journal.retiringSwapPriority && entries.2.sizeBytes == entries.1.sizeBytes

/-- The single entry of the replacement when the old swap is gone and the replacement is
as it was. -/
def oldSwapoffVerified (journal : ProductionSwapRuntimeJournal) (replacementBytes : Nat)
    (swaps : List SwapEntry) : Option SwapEntry :=
  if swaps.any (·.name == journal.retiringSwapDevice) then none
  else match swaps.filter (·.name == journal.swapfilePath) with
    | [replacement] =>
      if replacement.priority ≠ journal.retiringSwapPriority ∨
          replacement.sizeBytes ≠ replacementBytes then none
      else some replacement
    | _ => none

section Crossing

variable [Fingerprint]

def ProductionSwapRuntimeExecutionReceipt.expectedReceiptId
    (r : ProductionSwapRuntimeExecutionReceipt) : String :=
  fingerprint (.obj [("schema_version", toJson r.schemaVersion), ("journal_id", toJson r.journalId),
    ("launch_id", toJson r.launchId), ("retiring_swap_device", toJson r.retiringSwapDevice),
    ("swapfile_path", toJson r.swapfilePath),
    ("retiring_reported_swap_bytes", toJson r.retiringReportedSwapBytes),
    ("replacement_reported_swap_bytes", toJson r.replacementReportedSwapBytes),
    ("priority", toJson r.priority), ("old_swap_active", toJson r.oldSwapActive),
    ("replacement_swap_active", toJson r.replacementSwapActive),
    ("persistent_config_changed", toJson r.persistentConfigChanged),
    ("partition_table_changed", toJson r.partitionTableChanged)])

def ProductionSwapRuntimeExecutionReceipt.integrityMatches
    (r : ProductionSwapRuntimeExecutionReceipt) : Bool :=
  r.receiptId == r.expectedReceiptId

def validateCrossing (activation : ProductionSwapReplacementActivationIntent)
    (permit : ProductionSwapReplacementExecutionPermit)
    (preflight : ProductionSwapRuntimePreflightReceipt) (launch : ProductionSwapRuntimeLaunchSpec)
    (journal : ProductionSwapRuntimeJournal) :
    Except ProductionSwapRuntimeExecutionError Unit := do
  refuse (activation.schemaVersion ≠ 1 ∨ permit.schemaVersion ≠ 1 ∨ preflight.schemaVersion ≠ 1 ∨
      launch.schemaVersion ≠ 1 ∨ journal.schemaVersion ≠ 1 ∨ ¬activation.integrityMatches ∨
      ¬permit.integrityMatches ∨ ¬preflight.integrityMatches ∨ ¬launch.integrityMatches ∨
      ¬journal.integrityMatches ∨ ¬preflight.runtimeReady ∨ activation.executionEnabled ∨
      permit.mutationEnabled ∨ permit.processSpawned ∨ preflight.mutationEnabled ∨
      preflight.processSpawned ∨ launch.mutationEnabled ∨ launch.processSpawned ∨
      launch.swapfileCreated ∨ journal.phase ≠ .prepared ∨ journal.mutationMayHaveStarted ∨
      journal.persistentConfigMayHaveChanged ∨ journal.partitionTableMayHaveChanged)
    .authorizationInvalid
  refuse (permit.activationId ≠ activation.activationId ∨
      preflight.activationId ≠ activation.activationId ∨
      launch.activationId ≠ activation.activationId ∨
      journal.activationId ≠ activation.activationId ∨
      preflight.executionPermitId ≠ permit.permitId ∨ launch.executionPermitId ≠ permit.permitId ∨
      journal.executionPermitId ≠ permit.permitId ∨
      launch.preflightReceiptId ≠ preflight.receiptId ∨
      journal.preflightReceiptId ≠ preflight.receiptId ∨ journal.launchId ≠ launch.launchId ∨
      journal.swapReplacementIntentId ≠ activation.swapReplacementIntentId ∨
      launch.swapReplacementIntentId ≠ activation.swapReplacementIntentId ∨
      journal.retiringSwapDevice ≠ activation.retiringSwapDevice ∨
      journal.retiringSwapBytes ≠ activation.retiringSwapBytes ∨
      journal.retiringSwapPriority ≠ activation.retiringSwapPriority ∨
      journal.swapfilePath ≠ activation.swapfilePath ∨
      journal.swapfileMode ≠ activation.swapfileMode ∨
      launch.swapfile.path ≠ activation.swapfilePath ∨
      launch.swapfile.sizeBytes ≠ activation.retiringSwapBytes ∨
      launch.swapfile.mode ≠ activation.swapfileMode ∨ ¬launch.swapfile.createNew ∨
      ¬launch.swapfile.noFollow ∨ ¬launch.swapfile.fullyAllocate ∨
      ¬launch.requireDualActiveVerificationBeforeSwapoff)
    .authorizationInvalid

/-- A transition whose failure the executor returns as it is. -/
def transition (t : ProductionSwapRuntimeTransition) : RuntimeProc Unit :=
  (persistProductionSwapRuntimeTransition t).mapError .journal

/-- The last part of `execute_mutating_runtime`: with both swaps observed active, the old
one is turned off. A failed discovery after swapoff is returned without a recovery
record. -/
def deactivateOldSwap (launch : ProductionSwapRuntimeLaunchSpec)
    (active : SwapEntry × SwapEntry) : RuntimeProc ProductionSwapRuntimeExecutionReceipt := do
  transition .beginOldSwapDeactivation
  let _ ← orRecovery .recoveryPersistenceFailed (runStage .swapoff launch.swapoff launch)
  let swaps ← discoverSwaps
  let journal ← Proc.get
  match oldSwapoffVerified journal active.2.sizeBytes swaps with
  | none => persistRecovery .recoveryPersistenceFailed .oldSwapoffVerificationFailed
  | some replacement => do
    transition .oldSwapDeactivatedVerified
    let journal ← Proc.get
    let receipt : ProductionSwapRuntimeExecutionReceipt :=
      { schemaVersion := 1
        receiptId := ""
        journalId := journal.journalId
        launchId := launch.launchId
        retiringSwapDevice := journal.retiringSwapDevice
        swapfilePath := journal.swapfilePath
        retiringReportedSwapBytes := active.1.sizeBytes
        replacementReportedSwapBytes := replacement.sizeBytes
        priority := journal.retiringSwapPriority
        oldSwapActive := false
        replacementSwapActive := true
        persistentConfigChanged := false
        partitionTableChanged := false }
    pure { receipt with receiptId := receipt.expectedReceiptId }

/-- The middle part: the formatted swapfile is activated and both swaps are observed. -/
def activateReplacement (launch : ProductionSwapRuntimeLaunchSpec) :
    RuntimeProc ProductionSwapRuntimeExecutionReceipt := do
  transition .beginReplacementActivation
  let _ ← orRecovery .recoveryPersistenceFailed (runStage .swapon launch.swapon launch)
  let journal ← Proc.get
  let active ← orRecovery .recoveryPersistenceFailed
    (exactSwapEntries journal.retiringSwapDevice journal.swapfilePath)
  if ¬dualActiveVerified journal active then
    persistRecovery .recoveryPersistenceFailed .dualActiveVerificationFailed
  else do
    transition .replacementActiveVerified
    deactivateOldSwap launch active

def executeMutatingRuntime (launch : ProductionSwapRuntimeLaunchSpec) :
    RuntimeProc ProductionSwapRuntimeExecutionReceipt := do
  let swapfile := launch.swapfile
  transition .beginSwapfileCreation
  let (file, identity) ← orRecovery .recoveryPersistenceFailed
    (createExactSwapfile swapfile.path swapfile.sizeBytes swapfile.mode)
  orRecovery .recoveryPersistenceFailed
    (revalidateSwapfile file identity swapfile.sizeBytes swapfile.mode)
  transition .swapfileCreatedVerified
  transition .beginReplacementFormatting
  let _ ← orRecovery .recoveryPersistenceFailed (runStage .mkswap launch.mkswap launch)
  orRecovery .recoveryPersistenceFailed do
    revalidateSwapfile file identity swapfile.sizeBytes swapfile.mode
    verifySwapSignature file
  transition .replacementFormattedVerified
  activateReplacement launch

def executeProductionSwapRuntimeReplacement
    (activation : ProductionSwapReplacementActivationIntent)
    (permit : ProductionSwapReplacementExecutionPermit)
    (preflight : ProductionSwapRuntimePreflightReceipt) (launch : ProductionSwapRuntimeLaunchSpec) :
    RuntimeProc ProductionSwapRuntimeExecutionReceipt := do
  requireRoot .rootRequired
  let journal ← Proc.get
  Proc.lift (validateCrossing activation permit preflight launch journal)
  requireExact .journal .journalMismatch
  let consentReceiptId ← orFail .consent (host (.revalidatePinnedConsent activation))
  Proc.lift (refuse (consentReceiptId ≠ preflight.consentReceiptId) .authorizationInvalid)
  orFail .toolLease (host (.revalidateRuntimeTools preflight))
  executeMutatingRuntime launch

end Crossing

end StorageManager.Executor.Swap
