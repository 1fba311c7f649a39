import Mathlib.Algebra.Group.Nat.Defs
import StorageManager.Executor.PrivilegedLaunch
import StorageManager.Executor.PrivilegedWire

/-!
# Consent to a production growth

An activation names the two mutation steps of one execution on one target. A root-owned file
consents to exactly this activation, and the execution permit joins the two with the launch of
one of the steps.
-/

namespace StorageManager.Executor

open Lib.Checks
open Lib.Json
open Planner
open Planner.ExecutionGuard

set_option autoImplicit false

section Activation

inductive ProductionMutationProfile where
  | existingSinglePvLvmFilesystem
  deriving DecidableEq

instance : ToJson ProductionMutationProfile :=
  ⟨fun | .existingSinglePvLvmFilesystem => toJson "existing_single_pv_lvm_filesystem"⟩

structure ProductionMutationActivationIntent where
  schemaVersion : Nat
  activationId : String
  profile : ProductionMutationProfile
  executionId : String
  sourceManifestId : String
  nativeManifestDigest : String
  freshIdentityDigest : String
  target : String
  resolvedDevice : String
  lvStepId : Nat
  filesystemStepId : Nat
  filesystemType : String
  filesystemMountpoint : Option String
  compileFeatureEnabled : Bool
  executionEnabled : Bool
  deriving DecidableEq

inductive ProductionActivationError where
  | featureDisabled
  | executionBindingMismatch
  | freshIdentityMismatch
  | unsupportedProfile
  | mutationSequenceMismatch
  | filesystemIdentityMismatch
  deriving DecidableEq

/-- What `exact_profile` finds in the manifest. -/
structure ExactProfile where
  lvStepId : Nat
  filesystemStepId : Nat
  lvUuid : String
  filesystemType : String
  filesystemMountpoint : Option String
  deriving DecidableEq

variable [Fingerprint]

def ProductionMutationActivationIntent.expectedActivationId
    (a : ProductionMutationActivationIntent) : String :=
  fingerprint (.arr [toJson a.schemaVersion, toJson a.profile, toJson a.executionId,
    toJson a.sourceManifestId, toJson a.nativeManifestDigest, toJson a.freshIdentityDigest,
    toJson a.target, toJson a.resolvedDevice, toJson a.lvStepId, toJson a.filesystemStepId,
    toJson a.filesystemType, toJson a.filesystemMountpoint, toJson a.compileFeatureEnabled,
    toJson a.executionEnabled])

def ProductionMutationActivationIntent.integrityMatches
    (a : ProductionMutationActivationIntent) : Bool :=
  a.activationId == a.expectedActivationId

def mutationSteps (validated : ValidatedNativeManifest) : List NativeCompiledStep :=
  validated.manifest.steps.filter (·.role = .mutationCandidate)

def exactProfile (validated : ValidatedNativeManifest) (execution : ExecutionStartBinding) :
    Except ProductionActivationError ExactProfile :=
  match mutationSteps validated with
  | [lv, filesystem] => do
    refuse (execution.mutationStepIds ≠ [lv.planStepId, filesystem.planStepId])
      .mutationSequenceMismatch
    refuse (lv.planStepId ∉ filesystem.dependsOn) .unsupportedProfile
    match lv.operation, filesystem.operation with
    | .extendLogicalVolume lvUuid _ _, .growFilesystem fsType mountpoint =>
      if (fsType = "ext4" ∨ fsType = "xfs") ∧ (fsType = "ext4" ∨ mountpoint.isSome) then
        .ok ⟨lv.planStepId, filesystem.planStepId, lvUuid, fsType, mountpoint⟩
      else .error .unsupportedProfile
    | _, _ => .error .unsupportedProfile
  | _ => .error .mutationSequenceMismatch

def validateExecutionBinding (validated : ValidatedNativeManifest)
    (execution : ExecutionStartBinding) : Except ProductionActivationError Unit :=
  refuse (execution.schemaVersion ≠ 1 ∨ ¬execution.integrityMatches ∨
    execution.sourceManifestId ≠ validated.manifest.sourceManifestId ∨
    execution.nativeManifestDigest ≠ validated.digest) .executionBindingMismatch

def validateIdentityBinding (execution : ExecutionStartBinding)
    (identity : TargetIdentityManifest) (profile : ExactProfile) :
    Except ProductionActivationError Unit := do
  refuse (identity.manifestDigest ≠ execution.freshIdentityDigest ∨
    identity.routeStatus ≠ .supportedProfile ∨ identity.target = "" ∨
    identity.resolvedDevice = "") .freshIdentityMismatch
  refuse ((identity.lvm.filter fun entry =>
      entry.kind = .logicalVolume ∧ entry.uuid = some profile.lvUuid).length ≠ 1 ∨
    (identity.lvm.filter (·.kind = .physicalVolume)).length ≠ 1 ∨
    ¬identity.lvm.any (fun entry => entry.kind = .volumeGroup ∧ entry.pvCount = some 1))
    .freshIdentityMismatch
  let filesystem ← okOr identity.filesystem .filesystemIdentityMismatch
  refuse (filesystem.device ≠ identity.resolvedDevice ∨
    filesystem.fsType ≠ profile.filesystemType ∨ filesystem.uuid = none)
    .filesystemIdentityMismatch
  match profile.filesystemMountpoint with
  | some expected =>
    refuse ((identity.mounts.filter fun mount =>
      mount.target = expected ∧ mount.fsType = some profile.filesystemType).length ≠ 1)
      .filesystemIdentityMismatch
  | none =>
    refuse (profile.filesystemType ≠ "ext4" ∨ identity.mounts ≠ []) .filesystemIdentityMismatch

def sealProductionMutationActivationIntent (compiled : Bool) (validated : ValidatedNativeManifest)
    (execution : ExecutionStartBinding) (identity : TargetIdentityManifest) :
    Except ProductionActivationError ProductionMutationActivationIntent := do
  refuse (compiled = false) .featureDisabled
  validateExecutionBinding validated execution
  let profile ← exactProfile validated execution
  validateIdentityBinding execution identity profile
  let intent : ProductionMutationActivationIntent :=
    { schemaVersion := 1
      activationId := ""
      profile := .existingSinglePvLvmFilesystem
      executionId := execution.executionId
      sourceManifestId := execution.sourceManifestId
      nativeManifestDigest := execution.nativeManifestDigest
      freshIdentityDigest := execution.freshIdentityDigest
      target := identity.target
      resolvedDevice := identity.resolvedDevice
      lvStepId := profile.lvStepId
      filesystemStepId := profile.filesystemStepId
      filesystemType := profile.filesystemType
      filesystemMountpoint := profile.filesystemMountpoint
      compileFeatureEnabled := true
      executionEnabled := false }
  pure { intent with activationId := intent.expectedActivationId }

end Activation

section Consent

def productionMutationConsentPath : String :=
  "/etc/linux-storage-manager/production-mutation-consent.json"

def productionMutationConsentPhrase : String := "I UNDERSTAND THIS WILL MODIFY STORAGE"

def operatorMutationConsentDirectory : String :=
  "/var/lib/linux-storage-manager/operator-consents"

def maxConsentBytes : Nat := 4096

structure ProductionMutationConsentDocument where
  schemaVersion : Nat
  activationId : String
  executionId : String
  target : String
  resolvedDevice : String
  consentPhrase : String
  deriving DecidableEq

instance : ToJson ProductionMutationConsentDocument where
  toJson d := .obj [("schema_version", toJson d.schemaVersion),
    ("activation_id", toJson d.activationId), ("execution_id", toJson d.executionId),
    ("target", toJson d.target), ("resolved_device", toJson d.resolvedDevice),
    ("consent_phrase", toJson d.consentPhrase)]

structure ProductionMutationConsentFileIdentity where
  deviceId : Nat
  inode : Nat
  uid : Nat
  mode : Nat
  linkCount : Nat
  sizeBytes : Nat
  sha256 : String
  deriving DecidableEq

instance : ToJson ProductionMutationConsentFileIdentity where
  toJson i := .obj [("device_id", toJson i.deviceId), ("inode", toJson i.inode),
    ("uid", toJson i.uid), ("mode", toJson i.mode), ("link_count", toJson i.linkCount),
    ("size_bytes", toJson i.sizeBytes), ("sha256", toJson i.sha256)]

structure ProductionMutationConsentReceipt where
  schemaVersion : Nat
  receiptId : String
  activationId : String
  executionId : String
  target : String
  resolvedDevice : String
  consentPath : String
  consentFile : ProductionMutationConsentFileIdentity
  consentVerified : Bool
  executionEnabled : Bool
  deriving DecidableEq

/-- What reading a consent can refuse. -/
inductive ProductionMutationConsentError where
  | storage (message : String)
  | featureDisabled
  | activationIntentInvalid
  | activationAlreadyEnabled
  | unsafeParent (path : String)
  | unsafeFile
  | invalidFileSize
  | decode (message : String)
  | nonCanonicalDocument
  | bindingMismatch
  | consentPhraseMismatch
  | io (path source : String)
  deriving DecidableEq

/-- serde_json as a consent is read: a text to a document, a document to a consent. -/
structure ConsentReader where
  fromSlice : List UInt8 → Except String Value
  fromValue : Value → Except String ProductionMutationConsentDocument

variable [Fingerprint]

def ProductionMutationConsentReceipt.expectedReceiptId
    (r : ProductionMutationConsentReceipt) : String :=
  fingerprint (.arr [toJson r.schemaVersion, toJson r.activationId, toJson r.executionId,
    toJson r.target, toJson r.resolvedDevice, toJson r.consentPath, toJson r.consentFile,
    toJson r.consentVerified, toJson r.executionEnabled])

def ProductionMutationConsentReceipt.integrityMatches
    (r : ProductionMutationConsentReceipt) : Bool :=
  r.receiptId == r.expectedReceiptId

def validateActivationIntent (intent : ProductionMutationActivationIntent) :
    Except ProductionMutationConsentError Unit := do
  refuse (¬intent.integrityMatches ∨ ¬intent.compileFeatureEnabled) .activationIntentInvalid
  refuse (intent.executionEnabled = true) .activationAlreadyEnabled

def operatorConsentPath (intent : ProductionMutationActivationIntent) :
    Except ProductionMutationConsentError String := do
  validateActivationIntent intent
  refuse (¬isSha256Hex intent.activationId) .activationIntentInvalid
  pure s!"{operatorMutationConsentDirectory}/{intent.activationId}.json"

/-- The document that consents to this activation. -/
def consentDocument (intent : ProductionMutationActivationIntent) :
    ProductionMutationConsentDocument :=
  { schemaVersion := 1
    activationId := intent.activationId
    executionId := intent.executionId
    target := intent.target
    resolvedDevice := intent.resolvedDevice
    consentPhrase := productionMutationConsentPhrase }

def validateDocument (reader : ConsentReader) (intent : ProductionMutationActivationIntent)
    (bytes : List UInt8) :
    Except ProductionMutationConsentError ProductionMutationConsentDocument := do
  refuse (bytes = [] ∨ maxConsentBytes < bytes.length) .invalidFileSize
  let raw ← (reader.fromSlice bytes).mapError .decode
  let d ← (reader.fromValue raw).mapError .decode
  refuse (raw ≠ document (toJson d)) .nonCanonicalDocument
  refuse (d.schemaVersion ≠ 1 ∨ d.activationId ≠ intent.activationId ∨
    d.executionId ≠ intent.executionId ∨ d.target ≠ intent.target ∨
    d.resolvedDevice ≠ intent.resolvedDevice) .bindingMismatch
  refuse (d.consentPhrase ≠ productionMutationConsentPhrase) .consentPhraseMismatch
  pure d

def validateFileIdentity (identity : ProductionMutationConsentFileIdentity) :
    Except ProductionMutationConsentError Unit :=
  refuse (identity.uid ≠ 0 ∨ identity.mode &&& 0o777 ≠ 0o600 ∨ identity.linkCount ≠ 1 ∨
    identity.sizeBytes = 0 ∨ maxConsentBytes < identity.sizeBytes ∨ ¬isSha256Hex identity.sha256)
    .unsafeFile

/-- The receipt for a file that consents to this activation. -/
def consentReceipt (intent : ProductionMutationActivationIntent) (consentPath : String)
    (fileIdentity : ProductionMutationConsentFileIdentity) : ProductionMutationConsentReceipt :=
  let receipt : ProductionMutationConsentReceipt :=
    { schemaVersion := 1
      receiptId := ""
      activationId := intent.activationId
      executionId := intent.executionId
      target := intent.target
      resolvedDevice := intent.resolvedDevice
      consentPath
      consentFile := fileIdentity
      consentVerified := true
      executionEnabled := false }
  { receipt with receiptId := receipt.expectedReceiptId }

def bindConsentReceipt (reader : ConsentReader) (intent : ProductionMutationActivationIntent)
    (consentPath : String) (bytes : List UInt8)
    (fileIdentity : ProductionMutationConsentFileIdentity) :
    Except ProductionMutationConsentError ProductionMutationConsentReceipt := do
  validateActivationIntent intent
  validateFileIdentity fileIdentity
  let _ ← validateDocument reader intent bytes
  pure (consentReceipt intent consentPath fileIdentity)

end Consent

section Permit

structure ProductionMutationExecutionPermit where
  schemaVersion : Nat
  permitId : String
  activationId : String
  consentReceiptId : String
  executionId : String
  profile : ProductionMutationProfile
  target : String
  resolvedDevice : String
  launchPermitId : String
  launchId : String
  planStepId : Nat
  commandDigest : String
  compileFeatureEnabled : Bool
  mutationEnabled : Bool
  processSpawned : Bool
  deriving DecidableEq

inductive ProductionMutationExecutionPermitError where
  | featureDisabled
  | activationIntentInvalid
  | consentReceiptInvalid
  | launchPermitInvalid
  | consentBindingMismatch
  | launchExecutionMismatch
  | stepOutsideActivationScope
  | upstreamAlreadyEnabled
  deriving DecidableEq

variable [Fingerprint]

def ProductionMutationExecutionPermit.expectedPermitId
    (p : ProductionMutationExecutionPermit) : String :=
  fingerprint (.arr [toJson p.schemaVersion, toJson p.activationId, toJson p.consentReceiptId,
    toJson p.executionId, toJson p.profile, toJson p.target, toJson p.resolvedDevice,
    toJson p.launchPermitId, toJson p.launchId, toJson p.planStepId, toJson p.commandDigest,
    toJson p.compileFeatureEnabled, toJson p.mutationEnabled, toJson p.processSpawned])

def ProductionMutationExecutionPermit.integrityMatches
    (p : ProductionMutationExecutionPermit) : Bool :=
  p.permitId == p.expectedPermitId

def validateActivation (activation : ProductionMutationActivationIntent) :
    Except ProductionMutationExecutionPermitError Unit := do
  refuse (activation.schemaVersion ≠ 1 ∨ ¬activation.integrityMatches ∨
    ¬activation.compileFeatureEnabled) .activationIntentInvalid
  refuse (activation.executionEnabled = true) .upstreamAlreadyEnabled

def validateConsent (activation : ProductionMutationActivationIntent)
    (consent : ProductionMutationConsentReceipt) :
    Except ProductionMutationExecutionPermitError Unit := do
  refuse (consent.schemaVersion ≠ 1 ∨ ¬consent.integrityMatches ∨ ¬consent.consentVerified)
    .consentReceiptInvalid
  refuse (consent.executionEnabled = true) .upstreamAlreadyEnabled
  refuse (consent.activationId ≠ activation.activationId ∨
    consent.executionId ≠ activation.executionId ∨ consent.target ≠ activation.target ∨
    consent.resolvedDevice ≠ activation.resolvedDevice) .consentBindingMismatch

def validateLaunchScope (activation : ProductionMutationActivationIntent)
    (launch : PrivilegedLaunchPermit) : Except ProductionMutationExecutionPermitError Unit := do
  refuse (launch.schemaVersion ≠ 1 ∨ ¬launch.integrityMatches) .launchPermitInvalid
  refuse (launch.mutationEnabled = true ∨ launch.processSpawned = true) .upstreamAlreadyEnabled
  refuse (launch.executionId ≠ activation.executionId) .launchExecutionMismatch
  refuse (launch.planStepId ≠ activation.lvStepId ∧
    launch.planStepId ≠ activation.filesystemStepId) .stepOutsideActivationScope

/-- The permit that joins the three. -/
def executionPermit (activation : ProductionMutationActivationIntent)
    (consent : ProductionMutationConsentReceipt) (launch : PrivilegedLaunchPermit) :
    ProductionMutationExecutionPermit :=
  let permit : ProductionMutationExecutionPermit :=
    { schemaVersion := 1
      permitId := ""
      activationId := activation.activationId
      consentReceiptId := consent.receiptId
      executionId := activation.executionId
      profile := activation.profile
      target := activation.target
      resolvedDevice := activation.resolvedDevice
      launchPermitId := launch.permitId
      launchId := launch.launchId
      planStepId := launch.planStepId
      commandDigest := launch.commandDigest
      compileFeatureEnabled := true
      mutationEnabled := false
      processSpawned := false }
  { permit with permitId := permit.expectedPermitId }

def sealProductionMutationExecutionPermit (compiled : Bool)
    (activation : ProductionMutationActivationIntent)
    (consent : ProductionMutationConsentReceipt) (launch : PrivilegedLaunchPermit) :
    Except ProductionMutationExecutionPermitError ProductionMutationExecutionPermit := do
  refuse (compiled = false) .featureDisabled
  validateActivation activation
  validateConsent activation consent
  validateLaunchScope activation launch
  pure (executionPermit activation consent launch)

end Permit

section Reading

instance : FromDocument ProductionMutationConsentDocument where
  fromDocument v := return {
    schemaVersion := ← readField v "schema_version"
    activationId := ← readField v "activation_id"
    executionId := ← readField v "execution_id"
    target := ← readField v "target"
    resolvedDevice := ← readField v "resolved_device"
    consentPhrase := ← readField v "consent_phrase" }
  fromDocument_document d := by
    unfold instToJsonProductionMutationConsentDocument
    simp [readField_document, List.lookup_cons]

/-- What is assumed of serde_json: it reads back what it wrote. -/
structure ConsentReader.Faithful (reader : ConsentReader) : Prop where
  fromSlice_toBytes : ∀ d : ProductionMutationConsentDocument,
    reader.fromSlice (toBytes (toJson d)) = .ok (document (toJson d))
  fromValue_document : ∀ d : ProductionMutationConsentDocument,
    reader.fromValue (document (toJson d)) = .ok d

/-- The reader of every text and every document. -/
noncomputable def consentReader : ConsentReader where
  fromSlice := parse
  fromValue v := (FromDocument.fromDocument v).elim (.error "missing field") .ok

theorem consentReader_faithful : consentReader.Faithful where
  fromSlice_toBytes d := parse_toBytes (toJson d)
  fromValue_document d := by
    unfold consentReader
    simp only [FromDocument.fromDocument_document, Option.elim_some]

end Reading

section Documents

variable {reader : ConsentReader} {intent : ProductionMutationActivationIntent}
  {bytes : List UInt8}

/-- The bytes are the one document that consents to this activation. -/
structure ConsentsTo (reader : ConsentReader) (intent : ProductionMutationActivationIntent)
    (bytes : List UInt8) : Prop where
  nonempty : bytes ≠ []
  size : bytes.length ≤ maxConsentBytes
  canonical : reader.fromSlice bytes = .ok (document (toJson (consentDocument intent)))
  typed : reader.fromValue (document (toJson (consentDocument intent))) =
    .ok (consentDocument intent)

/-- One document is accepted, and no other. -/
theorem validateDocument_eq_ok_iff {d : ProductionMutationConsentDocument} :
    validateDocument reader intent bytes = .ok d ↔
      d = consentDocument intent ∧ ConsentsTo reader intent bytes := by
  simp only [validateDocument, bind_eq_ok_iff, exists_check_iff, refuse_eq_ok_iff,
    mapError_eq_ok_iff, not_or, not_not, ne_eq, not_lt]
  constructor
  · intro h
    obtain ⟨⟨hne, hsize⟩, raw, hread, d', htyped, hcanonical, hfields, hphrase, hsame⟩ := h
    obtain ⟨hschema, hactivation, hexecution, htarget, hdevice⟩ := hfields
    have hd : d' = consentDocument intent := by
      cases d'
      simp only [consentDocument, ProductionMutationConsentDocument.mk.injEq]
      exact ⟨hschema, hactivation, hexecution, htarget, hdevice, hphrase⟩
    subst hcanonical hd
    exact ⟨(Except.ok.inj hsame).symm, hne, hsize, hread, htyped⟩
  · intro h
    obtain ⟨rfl, hne, hsize, hread, htyped⟩ := h
    exact ⟨⟨hne, hsize⟩, _, hread, _, htyped, rfl, ⟨rfl, rfl, rfl, rfl, rfl⟩, rfl, rfl⟩

variable [Fingerprint]

theorem bindConsentReceipt_eq_ok_iff {consentPath : String}
    {fileIdentity : ProductionMutationConsentFileIdentity}
    {receipt : ProductionMutationConsentReceipt} :
    bindConsentReceipt reader intent consentPath bytes fileIdentity = .ok receipt ↔
      validateActivationIntent intent = .ok () ∧ validateFileIdentity fileIdentity = .ok () ∧
        ConsentsTo reader intent bytes ∧ receipt = consentReceipt intent consentPath fileIdentity := by
  simp only [bindConsentReceipt, bind_eq_ok_iff, exists_check_iff]
  constructor
  · intro h
    obtain ⟨hactive, hfile, d, hdocument, hreceipt⟩ := h
    exact ⟨hactive, hfile, (validateDocument_eq_ok_iff.mp hdocument).2,
      (Except.ok.inj hreceipt).symm⟩
  · intro h
    obtain ⟨hactive, hfile, hconsents, rfl⟩ := h
    exact ⟨hactive, hfile, _, validateDocument_eq_ok_iff.mpr ⟨rfl, hconsents⟩, rfl⟩

end Documents

end StorageManager.Executor
