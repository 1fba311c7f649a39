import Mathlib.Data.List.Basic
import StorageManager.Executor.NativeOperation
import StorageManager.Lib.JsonDocument
import StorageManager.Planner.ExecutionGuard

/-!
# The privileged helper protocol

A request names one mutation step of an execution, the identity it was planned for and the
operation. It is built from a validated manifest, travels as JSON, and is accepted only in
the form in which it was written.
-/

namespace StorageManager.Executor

open Lib.Checks
open Lib.Json (Value ToJson toJson toBytes document)
open Planner
open Planner.ExecutionGuard

set_option autoImplicit false

def privilegedHelperProtocolVersion : Nat := 2

def maxPrivilegedHelperRequestBytes : Nat := 64 * 1024

structure PrivilegedHelperRequest where
  schemaVersion : Nat
  requestId : String
  executionId : String
  sourceManifestId : String
  nativeManifestDigest : String
  freshIdentityDigest : String
  target : String
  resolvedDevice : String
  planStepId : Nat
  operation : NativeOperationSpec
  deriving DecidableEq

inductive PrivilegedHelperProtocolError where
  | unsupportedVersion (version : Nat)
  | executionBindingIntegrityMismatch
  | executionBindingMismatch
  | unauthorizedStep (stepId : Nat)
  | stepNotUnique (stepId : Nat)
  | stepNotMutation (stepId : Nat)
  | unsafeOperationPayload
  | requestDigestMismatch
  | requestTooLarge
  | invalidJson (message : String)
  | nonCanonicalWireShape
  | freshIdentityBindingMismatch
  | liveIdentityMismatch
  | durableJournalStateMismatch
  | durableStepSequenceMismatch
  deriving DecidableEq

instance : ToJson PrivilegedHelperRequest where
  toJson r := .obj [("schema_version", toJson r.schemaVersion), ("request_id", toJson r.requestId),
    ("execution_id", toJson r.executionId), ("source_manifest_id", toJson r.sourceManifestId),
    ("native_manifest_digest", toJson r.nativeManifestDigest),
    ("fresh_identity_digest", toJson r.freshIdentityDigest), ("target", toJson r.target),
    ("resolved_device", toJson r.resolvedDevice), ("plan_step_id", toJson r.planStepId),
    ("operation", toJson r.operation)]

section Payloads

/-- An absolute path without a parent component; `Path::components` skips the others that
are not names. -/
def safeAbsolutePath (value : String) : Bool :=
  value != "" && !value.toList.contains (Char.ofNat 0) && startsWith value "/" &&
    !(value.toList.splitOn '/').contains ['.', '.']

def safeDevicePath (value : String) : Bool := safeAbsolutePath value && startsWith value "/dev/"

def operationIsSafe : NativeOperationSpec → Bool
  | .extendPartition partition startSector oldSizeSectors newSizeSectors sectorSizeBytes =>
    safeDevicePath partition && decide (0 < startSector) && decide (0 < oldSizeSectors) &&
      decide (oldSizeSectors < newSizeSectors) &&
      (sectorSizeBytes == 512 || sectorSizeBytes == 4096)
  | .resizePhysicalVolume pvUuid expectedPvSizeBytes =>
    pvUuid != "" && decide (0 < expectedPvSizeBytes)
  | .extendLogicalVolume lvUuid additionalExtents expectedLvSizeBytes =>
    lvUuid != "" && decide (0 < additionalExtents) && decide (0 < expectedLvSizeBytes)
  | .growFilesystem fsType mountpoint =>
    if fsType = "ext4" then mountpoint.all safeAbsolutePath
    else if fsType = "xfs" then mountpoint.any safeAbsolutePath
    else false
  | _ => false

end Payloads

section Requests

variable [Fingerprint]

/-- The digest of all fields but the id itself. -/
def PrivilegedHelperRequest.expectedRequestId (r : PrivilegedHelperRequest) : String :=
  fingerprint (.obj [("schema_version", toJson r.schemaVersion),
    ("execution_id", toJson r.executionId), ("source_manifest_id", toJson r.sourceManifestId),
    ("native_manifest_digest", toJson r.nativeManifestDigest),
    ("fresh_identity_digest", toJson r.freshIdentityDigest), ("target", toJson r.target),
    ("resolved_device", toJson r.resolvedDevice), ("plan_step_id", toJson r.planStepId),
    ("operation", toJson r.operation)])

/-- The request with its id. -/
def PrivilegedHelperRequest.sealed (r : PrivilegedHelperRequest) : PrivilegedHelperRequest :=
  { r with requestId := r.expectedRequestId }

/-- The one step of this number, which must be a mutation with a safe operation. -/
def authorizedStep (steps : List NativeCompiledStep) (planStepId : Nat) :
    Except PrivilegedHelperProtocolError NativeCompiledStep :=
  match steps.filter (·.planStepId == planStepId) with
  | [step] => do
    refuse (step.role ≠ .mutationCandidate) (.stepNotMutation planStepId)
    refuse (¬operationIsSafe step.operation) .unsafeOperationPayload
    pure step
  | _ => .error (.stepNotUnique planStepId)

/-- The request for a step of an execution on this identity. -/
def requestFor (execution : ExecutionStartBinding) (freshIdentity : TargetIdentityManifest)
    (step : NativeCompiledStep) : PrivilegedHelperRequest :=
  PrivilegedHelperRequest.sealed
    { schemaVersion := privilegedHelperProtocolVersion
      requestId := ""
      executionId := execution.executionId
      sourceManifestId := execution.sourceManifestId
      nativeManifestDigest := execution.nativeManifestDigest
      freshIdentityDigest := freshIdentity.manifestDigest
      target := freshIdentity.target
      resolvedDevice := freshIdentity.resolvedDevice
      planStepId := step.planStepId
      operation := step.operation }

/-- The binding is for this manifest, and its digests are digests. -/
def boundTo (validated : ValidatedNativeManifest) (execution : ExecutionStartBinding) : Bool :=
  execution.sourceManifestId == validated.manifest.sourceManifestId &&
    execution.nativeManifestDigest == validated.digest &&
    isSha256Hex execution.sourceManifestId && isSha256Hex execution.nativeManifestDigest &&
    isSha256Hex execution.freshIdentityDigest

def identityUsable (freshIdentity : TargetIdentityManifest) (expectedDigest : String) : Bool :=
  freshIdentity.manifestDigest == expectedDigest && freshIdentity.target != "" &&
    safeAbsolutePath freshIdentity.target && safeDevicePath freshIdentity.resolvedDevice

def buildPrivilegedHelperRequest (validated : ValidatedNativeManifest)
    (execution : ExecutionStartBinding) (freshIdentity : TargetIdentityManifest)
    (planStepId : Nat) : Except PrivilegedHelperProtocolError PrivilegedHelperRequest := do
  refuse (execution.schemaVersion ≠ 1 ∨ ¬execution.integrityMatches)
    .executionBindingIntegrityMismatch
  refuse (¬boundTo validated execution) .executionBindingMismatch
  refuse (¬identityUsable freshIdentity execution.freshIdentityDigest)
    .freshIdentityBindingMismatch
  refuse (planStepId ∉ execution.mutationStepIds) (.unauthorizedStep planStepId)
  let step ← authorizedStep validated.manifest.steps planStepId
  pure (requestFor execution freshIdentity step)

def validatePrivilegedHelperRequest (request : PrivilegedHelperRequest) :
    Except PrivilegedHelperProtocolError Unit := do
  refuse (request.schemaVersion ≠ privilegedHelperProtocolVersion)
    (.unsupportedVersion request.schemaVersion)
  refuse (¬isSha256Hex request.executionId ∨ ¬isSha256Hex request.sourceManifestId ∨
    ¬isSha256Hex request.nativeManifestDigest ∨ ¬isSha256Hex request.freshIdentityDigest ∨
    ¬safeAbsolutePath request.target ∨ ¬safeDevicePath request.resolvedDevice ∨
    request.planStepId = 0 ∨ ¬operationIsSafe request.operation) .unsafeOperationPayload
  refuse (request.requestId ≠ request.expectedRequestId) .requestDigestMismatch

/-- The digest the identity of this step must have, as the durable record tells. -/
def expectedIdentityDigest (journal : OperationJournal) (execution : ExecutionStartBinding)
    (position : Nat) (planStepId : Nat) : Except PrivilegedHelperProtocolError String :=
  if position = 0 then
    if journal.verifiedBoundary.isSome then .error .durableStepSequenceMismatch
    else .ok execution.freshIdentityDigest
  else
    match journal.verifiedBoundary with
    | none => .error .durableStepSequenceMismatch
    | some boundary =>
      if boundary.schemaVersion ≠ 1 ∨ ¬boundary.integrityMatches ∨
          boundary.executionId ≠ execution.executionId ∨
          some boundary.completedStepId ≠ execution.mutationStepIds[position - 1]? ∨
          boundary.nextStepId ≠ planStepId ∨ boundary.finalStepId.isSome ∨
          boundary.finalIdentityDigest.isSome then
        .error .durableStepSequenceMismatch
      else .ok boundary.freshIdentityDigest

def buildPrivilegedHelperRequestForDurableStep (validated : ValidatedNativeManifest)
    (journal : OperationJournal) (freshIdentity : TargetIdentityManifest) (planStepId : Nat) :
    Except PrivilegedHelperProtocolError PrivilegedHelperRequest :=
  if journal.phase ≠ .executing ∨ ¬journal.mutationMayHaveStarted then
    .error .durableJournalStateMismatch
  else match journal.execution with
    | none => .error .durableJournalStateMismatch
    | some execution => do
      refuse (execution.schemaVersion ≠ 1 ∨ ¬execution.integrityMatches)
        .executionBindingIntegrityMismatch
      refuse (execution.journalId ≠ journal.journalId ∨ execution.planId ≠ journal.planId ∨
        ¬boundTo validated execution) .executionBindingMismatch
      refuse (planStepId ∉ execution.mutationStepIds) (.unauthorizedStep planStepId)
      let expected ← expectedIdentityDigest journal execution
        (execution.mutationStepIds.idxOf planStepId) planStepId
      refuse (¬identityUsable freshIdentity expected) .freshIdentityBindingMismatch
      let step ← authorizedStep validated.manifest.steps planStepId
      let request := requestFor execution freshIdentity step
      validatePrivilegedHelperRequest request
      pure request

/-- serde_json as the decoder uses it: a text to a document, a document to a request. -/
structure RequestReader where
  fromSlice : List UInt8 → Except String Value
  fromValue : Value → Except String PrivilegedHelperRequest

def decodePrivilegedHelperRequest (reader : RequestReader) (input : List UInt8) :
    Except PrivilegedHelperProtocolError PrivilegedHelperRequest := do
  refuse (maxPrivilegedHelperRequestBytes < input.length) .requestTooLarge
  let raw ← (reader.fromSlice input).mapError .invalidJson
  let request ← (reader.fromValue raw).mapError .invalidJson
  refuse (raw ≠ document (toJson request)) .nonCanonicalWireShape
  validatePrivilegedHelperRequest request
  pure request

def validatePrivilegedHelperLiveIdentity (request : PrivilegedHelperRequest)
    (liveIdentity : TargetIdentityManifest) : Except PrivilegedHelperProtocolError Unit :=
  refuse (liveIdentity.manifestDigest ≠ request.freshIdentityDigest ∨
    liveIdentity.target ≠ request.target ∨ liveIdentity.resolvedDevice ≠ request.resolvedDevice)
    .liveIdentityMismatch

end Requests

end StorageManager.Executor
