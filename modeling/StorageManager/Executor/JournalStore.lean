import StorageManager.Lib.Checks
import StorageManager.Lib.Directory
import StorageManager.Planner.ExecutionGuard

/-!
# The durable journal record

Decoding a journal record and the validator that every loaded or stored record
passes. The JSON reader of the record types is a parameter; the writer is the
compact text followed by a line end.
-/

namespace StorageManager.Executor.JournalStore

open Lib.Checks (refuse checkAll)
open Lib.Directory (OsString Fault)
open Lib.Json (toJson toBytes)
open Planner.ExecutionGuard

set_option autoImplicit false

/-- A path under the store's directory is the name there; no name is the directory. -/
inductive JournalStoreError where
  | invalidJournalId
  | unsafeDirectory
  | notRegularFile (name : OsString)
  | alreadyExists (journalId : String)
  | notFound (journalId : String)
  | tooLarge
  | invalidRecord (message : String)
  | changedDuringInspection
  | serialization (message : String)
  | io (name : Option OsString) (source : Fault)
  deriving DecidableEq

def isLowerHexDigest (value : String) : Bool :=
  value.utf8ByteSize == 64 && value.toList.all fun c => c.isDigit || ('a' ≤ c && c ≤ 'f')

def validateJournalId (value : String) : Except JournalStoreError Unit :=
  if isLowerHexDigest value then .ok () else .error .invalidJournalId

def validateHexDigest (value label : String) : Except JournalStoreError Unit :=
  refuse (¬isLowerHexDigest value)
    (.invalidRecord s!"{label} is not a SHA-256 lowercase hexadecimal digest")

def validateHexDigests (fields : List (String × String)) : Except JournalStoreError Unit :=
  checkAll (fun f => validateHexDigest f.1 f.2) fields

def allowedTransition (source target : JournalPhase) : Bool :=
  match source, target with
  | .planned, .hostLockHeld
  | .hostLockHeld, .identityRevalidated
  | .identityRevalidated, .preconditionsVerified
  | .preconditionsVerified, .approved
  | .approved, .executing
  | .executing, .verifying
  | .verifying, .executing
  | .verifying, .completed
  | .planned, .aborted
  | .hostLockHeld, .aborted
  | .identityRevalidated, .aborted
  | .preconditionsVerified, .aborted
  | .approved, .aborted
  | .executing, .recoveryRequired
  | .verifying, .recoveryRequired => true
  | _, _ => false

/-- The event loop: sequence, chain, edge and code of each event. Returns the phase
the events lead to. -/
def validateEvents (phase : JournalPhase) (index : Nat) :
    List JournalEvent → Except JournalStoreError JournalPhase
  | [] => .ok phase
  | event :: events => do
    refuse (event.sequence ≠ index + 1)
      (.invalidRecord s!"journal event sequence is not contiguous at {index + 1}")
    refuse (event.source ≠ phase)
      (.invalidRecord s!"journal event {event.sequence} does not continue from the previous phase")
    refuse (¬allowedTransition event.source event.target)
      (.invalidRecord s!"journal event {event.sequence} contains an impossible phase transition")
    refuse (event.code = "" ∨ event.code.toList.any isControl)
      (.invalidRecord s!"journal event {event.sequence} has an invalid code")
    validateEvents event.target (index + 1) events

section Bindings

variable [Fingerprint]

/-- `crate::preconditions::journal_digest`. -/
def journalDigest (journal : OperationJournal) : String := fingerprint (toJson journal)

def isApprovalEvent (event : JournalEvent) : Bool :=
  event.source == .preconditionsVerified && event.target == .approved

/-- The record as it was when its approval was given. -/
def preconditionsRecord (journal : OperationJournal) (approvalIndex : Nat) : OperationJournal :=
  { journal with
    phase := .preconditionsVerified
    mutationMayHaveStarted := false
    approval := none
    execution := none
    verifiedBoundary := none
    events := journal.events.take approvalIndex }

def validateApprovalBinding (journal : OperationJournal) : Except JournalStoreError Unit :=
  match journal.approval, journal.events.findIdx? isApprovalEvent with
  | none, none => .ok ()
  | none, some _ =>
    .error (.invalidRecord "approved journal is missing the exact approval binding")
  | some _, none => .error
      (.invalidRecord "journal contains an approval binding without an approval transition")
  | some binding, some approvalIndex => do
    refuse (binding.schemaVersion ≠ 1) (.invalidRecord
      s!"unsupported exact approval binding schema version {binding.schemaVersion}")
    validateHexDigests
      [(binding.approvalId, "approval ID"), (binding.planId, "approval plan ID"),
        (binding.evidenceBundleId, "approval evidence bundle ID"),
        (binding.targetManifestDigest, "approval target manifest digest"),
        (binding.lockedSessionId, "approval locked session ID"),
        (binding.preconditionsJournalDigest, "approval preconditions journal digest")]
    refuse (binding.planId ≠ journal.planId)
      (.invalidRecord "approval binding plan ID does not match the journal")
    refuse (binding.targetManifestDigest ≠ journal.baselineManifestDigest)
      (.invalidRecord "approval binding target manifest does not match the journal")
    refuse (¬binding.integrityMatches)
      (.invalidRecord "approval binding fingerprint does not match its contents")
    refuse (binding.preconditionsJournalDigest ≠
        journalDigest (preconditionsRecord journal approvalIndex))
      (.invalidRecord "approval binding does not match the exact preconditions journal state")

def isExecutionEvent (event : JournalEvent) : Bool :=
  event.source == .approved && event.target == .executing

/-- The record as it was when its execution was started. -/
def approvedRecord (journal : OperationJournal) (executionIndex : Nat) : OperationJournal :=
  { journal with
    phase := .approved
    mutationMayHaveStarted := false
    execution := none
    verifiedBoundary := none
    events := journal.events.take executionIndex }

def validateExecutionBinding (journal : OperationJournal) : Except JournalStoreError Unit :=
  match journal.execution, journal.events.findIdx? isExecutionEvent with
  | none, none => .ok ()
  | none, some _ =>
    .error (.invalidRecord "executing journal is missing the exact execution binding")
  | some _, none => .error
      (.invalidRecord "journal contains an execution binding without an execution transition")
  | some binding, some executionIndex => do
    refuse (binding.schemaVersion ≠ 1) (.invalidRecord
      s!"unsupported execution binding schema version {binding.schemaVersion}")
    validateHexDigests
      [(binding.executionId, "execution ID"), (binding.journalId, "execution journal ID"),
        (binding.planId, "execution plan ID"), (binding.approvalId, "execution approval ID"),
        (binding.sourceManifestId, "execution source manifest ID"),
        (binding.nativeManifestDigest, "execution native manifest digest"),
        (binding.freshIdentityDigest, "execution fresh identity digest"),
        (binding.approvedJournalDigest, "execution approved journal digest")]
    refuse (binding.mutationStepIds = [] ∨ 0 ∈ binding.mutationStepIds
        ∨ ¬binding.mutationStepIds.Nodup)
      (.invalidRecord "execution binding mutation step sequence is invalid")
    refuse (binding.journalId ≠ journal.journalId)
      (.invalidRecord "execution binding journal ID does not match the journal")
    refuse (binding.planId ≠ journal.planId)
      (.invalidRecord "execution binding plan ID does not match the journal")
    match journal.approval with
    | none => .error (.invalidRecord "execution binding exists without an approval binding")
    | some approval =>
      refuse (binding.approvalId ≠ approval.approvalId)
        (.invalidRecord "execution binding approval ID does not match the journal")
      refuse (binding.freshIdentityDigest ≠ journal.baselineManifestDigest)
        (.invalidRecord "execution binding fresh identity does not match the journal baseline")
      refuse (¬binding.integrityMatches)
        (.invalidRecord "execution binding fingerprint does not match its contents")
      refuse (binding.approvedJournalDigest ≠ journalDigest (approvedRecord journal executionIndex))
        (.invalidRecord "execution binding does not match the exact approved journal state")

def hasCode (journal : OperationJournal) (code : String) : Bool :=
  journal.events.any fun event => event.code == code

/-- The terminal half of a verified boundary: absent before completion, present and
naming the last frozen step afterwards. -/
def validateTerminalBinding (journal : OperationJournal) (execution : ExecutionStartBinding)
    (binding : VerifiedMutationBoundaryBinding) : Except JournalStoreError Unit :=
  match binding.finalStepId, binding.finalIdentityDigest with
  | none, none =>
    refuse (binding.schemaVersion ≠ 1 ∨ hasCode journal "verification-passed-complete"
        ∨ (journal.phase = .completed ∧ execution.mutationStepIds.length > 1))
      (.invalidRecord "completed multi-step execution is missing durable terminal verification")
  | some finalStepId, some finalIdentityDigest => do
    refuse (binding.schemaVersion ≠ 2 ∨ ¬hasCode journal "verification-passed-complete"
        ∨ journal.phase ≠ .completed)
      (.invalidRecord "terminal verification binding exists without terminal completion")
    validateHexDigest finalIdentityDigest "terminal verification fresh identity digest"
    refuse (execution.mutationStepIds.getLast? ≠ some finalStepId
        ∨ binding.nextStepId ≠ finalStepId)
      (.invalidRecord
        "terminal verification step does not match the final durable mutation step")
  | _, _ => .error (.invalidRecord "terminal verification binding is incomplete")

def validateVerifiedBoundaryBinding (journal : OperationJournal) :
    Except JournalStoreError Unit :=
  match journal.verifiedBoundary, hasCode journal "verification-passed-continue" with
  | none, false => .ok ()
  | none, true => .error (.invalidRecord
      "verification continuation is missing the durable verified boundary binding")
  | some _, false => .error (.invalidRecord
      "verified boundary binding exists without a verification continuation")
  | some binding, true => do
    refuse (binding.schemaVersion ≠ 1 ∧ binding.schemaVersion ≠ 2) (.invalidRecord
      s!"unsupported verified boundary binding schema version {binding.schemaVersion}")
    validateHexDigests
      [(binding.boundaryId, "verified boundary ID"),
        (binding.executionId, "verified boundary execution ID"),
        (binding.freshIdentityDigest, "verified boundary fresh identity digest")]
    refuse (binding.completedStepId = 0 ∨ binding.nextStepId = 0
        ∨ binding.completedStepId = binding.nextStepId)
      (.invalidRecord "verified boundary step sequence is invalid")
    match journal.execution with
    | none =>
      .error (.invalidRecord "verified boundary exists without the durable execution binding")
    | some execution =>
      refuse (binding.executionId ≠ execution.executionId)
        (.invalidRecord "verified boundary execution ID does not match the journal")
      refuse (¬OperationJournal.orderedPair execution.mutationStepIds binding.completedStepId
          binding.nextStepId)
        (.invalidRecord "verified boundary steps do not match the durable execution sequence")
      refuse (¬binding.integrityMatches)
        (.invalidRecord "verified boundary fingerprint does not match its contents")
      validateTerminalBinding journal execution binding
      refuse (¬(journal.phase = .executing ∨ journal.phase = .verifying
          ∨ journal.phase = .completed ∨ journal.phase = .recoveryRequired))
        (.invalidRecord "verified boundary exists before the mutation verification boundary")

def validateJournal (journal : OperationJournal) : Except JournalStoreError Unit := do
  refuse (journal.schemaVersion ≠ 1) (.invalidRecord "unsupported journal schema version")
  validateJournalId journal.journalId
  validateHexDigest journal.planId "plan ID"
  validateHexDigest journal.baselineManifestDigest "baseline manifest digest"
  refuse (journal.target = "" ∨ journal.target.toList.any isControl)
    (.invalidRecord "journal target is empty or contains control characters")
  let phase ← validateEvents .planned 0 journal.events
  refuse (phase ≠ journal.phase) (.invalidRecord "journal phase does not match the event chain")
  let mutationExpected := journal.phase == .executing || journal.phase == .verifying
    || journal.phase == .completed || journal.phase == .recoveryRequired
  refuse (journal.mutationMayHaveStarted ≠ mutationExpected)
    (.invalidRecord "mutation boundary flag is inconsistent with the journal phase")
  validateApprovalBinding journal
  validateExecutionBinding journal
  validateVerifiedBoundaryBinding journal

end Bindings

/-- The record as serde reads it, with absent bindings read as nothing. -/
structure JournalWire where
  schemaVersion : Nat
  journalId : String
  planId : String
  target : String
  baselineManifestDigest : String
  phase : JournalPhase
  mutationMayHaveStarted : Bool
  approval : Option ExactApprovalBinding
  execution : Option ExecutionStartBinding
  verifiedBoundary : Option VerifiedMutationBoundaryBinding
  events : List JournalEvent

def JournalWire.journal (wire : JournalWire) : OperationJournal :=
  { schemaVersion := wire.schemaVersion
    journalId := wire.journalId
    planId := wire.planId
    target := wire.target
    baselineManifestDigest := wire.baselineManifestDigest
    phase := wire.phase
    mutationMayHaveStarted := wire.mutationMayHaveStarted
    approval := wire.approval
    execution := wire.execution
    verifiedBoundary := wire.verifiedBoundary
    events := wire.events }

/-- The wire fields of a journal. -/
def wireOf (j : OperationJournal) : JournalWire :=
  ⟨j.schemaVersion, j.journalId, j.planId, j.target, j.baselineManifestDigest, j.phase,
    j.mutationMayHaveStarted, j.approval, j.execution, j.verifiedBoundary, j.events⟩

/-- The bytes a journal file holds. -/
def encodeJournal (journal : OperationJournal) : List UInt8 := toBytes (toJson journal) ++ [10]

/-- `serde_json::from_slice` at the record type. -/
abbrev FromSlice := List UInt8 → Except String JournalWire

def decodeJournal [Fingerprint] (fromSlice : FromSlice) (bytes : List UInt8)
    (journalId : String) : Except JournalStoreError OperationJournal := do
  let wire ← (fromSlice bytes).mapError .serialization
  refuse (wire.journalId ≠ journalId)
    (.invalidRecord "journal ID does not match the requested durable record")
  validateJournal wire.journal
  .ok wire.journal

end StorageManager.Executor.JournalStore
