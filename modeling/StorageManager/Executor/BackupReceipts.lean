import StorageManager.Executor.LockedSession
import StorageManager.Executor.SwapHost

/-!
# Receipts of metadata backups

A session captures the backups its manifest asks for and gets a receipt, bound to the session
and its journal. A receipt is revalidated against the manifest and the files; every
difference is a blocker.
-/

namespace StorageManager.Executor.JournalStore

open Lib.Checks
open Lib.Json (Value ToJson toJson)
open Planner.ExecutionGuard
open Swap (pathComponents pathFileName pathJoin pathParent pathResolve samePath)

set_option autoImplicit false

inductive MetadataBackupKind where
  | partitionTable
  | lvmVolumeGroup
  deriving DecidableEq

structure BackupCommandSpec where
  program : String
  args : List String
  stdinPath : Option String
  stdoutPath : Option String
  mutatesStorageMetadata : Bool
  deriving DecidableEq

inductive BackupExpectedIdentity where
  | partitionTable (disk tableLabel : String) (tableId : Option String)
  | lvmVolumeGroup (vgName vgUuid : String)
  deriving DecidableEq

/-- What the capture reads of a requirement. -/
structure MetadataBackupRequirement where
  ordinal : Nat
  kind : MetadataBackupKind
  artifactPath : String
  expectedIdentity : BackupExpectedIdentity
  capture : BackupCommandSpec
  deriving DecidableEq

structure MetadataBackupManifest where
  manifestId : String
  handoffId : String
  planId : String
  targetManifestDigest : String
  artifactDirectory : String
  mutationEnabled : Bool
  ownerAcceptanceRequired : Bool
  requirements : List MetadataBackupRequirement
  deriving DecidableEq

structure BackupArtifactReceipt where
  ordinal : Nat
  kind : MetadataBackupKind
  artifactPath : String
  expectedIdentity : BackupExpectedIdentity
  deviceId : Nat
  inode : Nat
  sizeBytes : Nat
  sha256 : String
  deriving DecidableEq

structure MetadataBackupReceipt where
  schemaVersion : Nat
  receiptId : String
  manifestId : String
  handoffId : String
  planId : String
  targetManifestDigest : String
  sessionId : String
  journalId : String
  mutationEnabled : Bool
  artifacts : List BackupArtifactReceipt
  deriving DecidableEq

structure BackupReceiptRevalidation where
  receiptId : String
  manifestId : String
  handoffId : String
  planId : String
  targetManifestDigest : String
  sessionId : String
  journalId : String
  sameReceipt : Bool
  blockers : List String
  deriving DecidableEq

/-- What the tools and the file system refuse has its text only. -/
inductive BackupCaptureError where
  | sessionNotRevalidated
  | mutationEnabled
  | manifestBindingMismatch
  | artifactDirectoryMismatch
  | unsupportedCaptureCommand
  | unsafeArtifact (path : String)
  | host (message : String)
  deriving DecidableEq

def BackupCaptureError.text : BackupCaptureError → String
  | .sessionNotRevalidated =>
    "metadata backup capture requires a successfully identity-revalidated locked session"
  | .mutationEnabled => "mutation-enabled execution is forbidden in the backup capture foundation"
  | .manifestBindingMismatch => "backup manifest is not bound to the exact locked handoff"
  | .artifactDirectoryMismatch => "backup artifact directory does not match the frozen handoff"
  | .unsupportedCaptureCommand =>
    "backup capture command is not an exact supported non-mutating command"
  | .unsafeArtifact path => s!"backup artifact path is unsafe: {path}"
  | .host message => message

def backupReceiptSchemaVersion : Nat := 2

def backupDirectory : String := "/var/lib/linux-storage-manager/backups"

section Serialization

instance : ToJson MetadataBackupKind where
  toJson
    | .partitionTable => .str "partition_table"
    | .lvmVolumeGroup => .str "lvm_volume_group"

instance : ToJson BackupExpectedIdentity where
  toJson
    | .partitionTable disk tableLabel tableId => .obj [("kind", .str "partition_table"),
        ("disk", toJson disk), ("table_label", toJson tableLabel), ("table_id", toJson tableId)]
    | .lvmVolumeGroup vgName vgUuid => .obj [("kind", .str "lvm_volume_group"),
        ("vg_name", toJson vgName), ("vg_uuid", toJson vgUuid)]

instance : ToJson BackupArtifactReceipt where
  toJson a := .obj [("ordinal", toJson a.ordinal), ("kind", toJson a.kind),
    ("artifact_path", toJson a.artifactPath), ("expected_identity", toJson a.expectedIdentity),
    ("device_id", toJson a.deviceId), ("inode", toJson a.inode),
    ("size_bytes", toJson a.sizeBytes), ("sha256", toJson a.sha256)]

end Serialization

/-- `blockers.sort(); blockers.dedup()`. -/
def sortDedup (texts : List String) : List String :=
  (texts.mergeSort fun a b => decide (a ≤ b)).eraseDups

theorem sortDedup_eq_nil_iff {texts : List String} : sortDedup texts = [] ↔ texts = [] := by
  unfold sortDedup
  constructor
  · intro h
    have hsorted : texts.mergeSort (fun a b => decide (a ≤ b)) = [] := by
      cases hs : texts.mergeSort fun a b => decide (a ≤ b) with
      | nil => rfl
      | cons a as =>
        rw [hs, List.eraseDups_cons] at h
        cases h
    have hperm := (List.mergeSort_perm texts fun a b => decide (a ≤ b)).length_eq
    rw [hsorted] at hperm
    exact List.length_eq_zero_iff.mp hperm.symm
  · intro h
    rw [h, List.mergeSort_nil, List.eraseDups_nil]

/-- What the capture tools and the file system answer: an artifact has its size, its SHA-256
text, its device and its inode. -/
structure BackupFiles where
  ensureDirectory : String → Except String Unit
  existingDirectory : String → Except String Unit
  capture : MetadataBackupRequirement → String → Except String Unit
  artifact : String → Except String (Nat × String × Nat × Nat)
  syncDirectory : String → Except String Unit

def validateRequirement (requirement : MetadataBackupRequirement) :
    Except BackupCaptureError Unit := do
  refuse (requirement.capture.mutatesStorageMetadata ∨ requirement.capture.stdinPath.isSome)
    .unsupportedCaptureCommand
  match requirement.kind, requirement.expectedIdentity with
  | .partitionTable, .partitionTable disk _ _ =>
    refuse (requirement.capture.program ≠ "sfdisk" ∨
      requirement.capture.args ≠ ["--dump", disk] ∨
      requirement.capture.stdoutPath ≠ some requirement.artifactPath) .unsupportedCaptureCommand
  | .lvmVolumeGroup, .lvmVolumeGroup vgName _ =>
    refuse (requirement.capture.program ≠ "vgcfgbackup" ∨
      requirement.capture.args ≠ ["--file", requirement.artifactPath, vgName] ∨
      requirement.capture.stdoutPath.isSome) .unsupportedCaptureCommand
  | _, _ => .error .unsupportedCaptureCommand

def validateBinding (session : LockedExecutionSession) (manifest : MetadataBackupManifest) :
    Except BackupCaptureError Unit := do
  refuse (mutationEnabled ∨ manifest.mutationEnabled) .mutationEnabled
  refuse (session.journal.phase ≠ .identityRevalidated) .sessionNotRevalidated
  refuse (manifest.handoffId ≠ session.handoff.handoffId ∨
    manifest.planId ≠ session.handoff.planId ∨
    manifest.targetManifestDigest ≠ session.handoff.manifestDigest ∨
    ¬manifest.ownerAcceptanceRequired) .manifestBindingMismatch

def productionRoot (handoffId : String) : String := pathResolve backupDirectory handoffId

def attemptRoot (handoffId journalId : String) : String :=
  pathResolve (productionRoot handoffId) journalId

/-- The directory is that of the handoff or that of the attempt. -/
def isArtifactRoot (manifest : MetadataBackupManifest) (handoffId journalId : String) : Bool :=
  samePath manifest.artifactDirectory (productionRoot handoffId) ||
    samePath manifest.artifactDirectory (attemptRoot handoffId journalId)

/-- The file of a requirement in the artifact directory. -/
def artifactFile (root artifactPath : String) : Option String :=
  (pathFileName artifactPath).map (pathJoin root)

def captureRequirement (files : BackupFiles) (root : String)
    (requirement : MetadataBackupRequirement) :
    Except BackupCaptureError BackupArtifactReceipt := do
  validateRequirement requirement
  match artifactFile root requirement.artifactPath with
  | none => .error (.unsafeArtifact requirement.artifactPath)
  | some actualPath => do
    refuse ((pathParent actualPath).map pathComponents ≠ some (pathComponents root))
      (.unsafeArtifact actualPath)
    (files.capture requirement actualPath).mapError .host
    let (sizeBytes, sha256, deviceId, inode) ← (files.artifact actualPath).mapError .host
    pure
      { ordinal := requirement.ordinal
        kind := requirement.kind
        artifactPath := requirement.artifactPath
        expectedIdentity := requirement.expectedIdentity
        deviceId, inode, sizeBytes, sha256 }

/-- Does the artifact of one requirement still have its receipt? Every difference is told. -/
def artifactBlockers (files : BackupFiles) (root : String) (artifacts : List BackupArtifactReceipt)
    (requirement : MetadataBackupRequirement) : List String :=
  match validateRequirement requirement with
  | .error e => [s!"manifest requirement {requirement.ordinal} is invalid: {e.text}"]
  | .ok () =>
    match artifacts.filter (·.ordinal = requirement.ordinal) with
    | [] => [s!"receipt is missing artifact ordinal {requirement.ordinal}"]
    | _ :: _ :: _ => [s!"receipt contains duplicate artifact ordinal {requirement.ordinal}"]
    | [artifact] =>
      if artifact.kind ≠ requirement.kind ∨ artifact.artifactPath ≠ requirement.artifactPath ∨
          artifact.expectedIdentity ≠ requirement.expectedIdentity then
        [s!"receipt artifact {requirement.ordinal} does not match the frozen manifest requirement"]
      else
        match artifactFile root requirement.artifactPath with
        | none => [s!"receipt artifact {requirement.ordinal} has an unsafe path"]
        | some actualPath =>
          if (pathParent actualPath).map pathComponents ≠ some (pathComponents root) then
            [s!"receipt artifact {requirement.ordinal} escapes the artifact directory"]
          else
            match files.artifact actualPath with
            | .error e => [s!"receipt artifact {requirement.ordinal} verification failed: {e}"]
            | .ok (sizeBytes, sha256, deviceId, inode) =>
              (if deviceId ≠ artifact.deviceId ∨ inode ≠ artifact.inode then
                [s!"receipt artifact {artifact.ordinal} inode identity changed"] else []) ++
              (if sizeBytes ≠ artifact.sizeBytes then
                [s!"receipt artifact {requirement.ordinal} size changed: expected " ++
                  s!"{artifact.sizeBytes}, found {sizeBytes}"] else []) ++
              if sha256 ≠ artifact.sha256 then
                [s!"receipt artifact {requirement.ordinal} SHA-256 changed"] else []

variable [Fingerprint]

def expectedReceiptId (manifest : MetadataBackupManifest) (sessionId journalId : String)
    (artifacts : List BackupArtifactReceipt) : String :=
  fingerprint (.arr [toJson backupReceiptSchemaVersion, toJson manifest.manifestId,
    toJson manifest.handoffId, toJson manifest.planId, toJson manifest.targetManifestDigest,
    toJson sessionId, toJson journalId, toJson false, toJson artifacts])

/-- `capture_metadata_backups`. -/
def captureMetadataBackups (files : BackupFiles) (session : LockedExecutionSession)
    (manifest : MetadataBackupManifest) : Except BackupCaptureError MetadataBackupReceipt := do
  validateBinding session manifest
  refuse (¬isArtifactRoot manifest session.handoff.handoffId session.journal.journalId)
    .artifactDirectoryMismatch
  (files.ensureDirectory manifest.artifactDirectory).mapError .host
  let artifacts ←
    manifest.requirements.mapM (captureRequirement files manifest.artifactDirectory)
  (files.syncDirectory manifest.artifactDirectory).mapError .host
  pure
    { schemaVersion := backupReceiptSchemaVersion
      receiptId := expectedReceiptId manifest session.sessionId session.journal.journalId artifacts
      manifestId := manifest.manifestId
      handoffId := manifest.handoffId
      planId := manifest.planId
      targetManifestDigest := manifest.targetManifestDigest
      sessionId := session.sessionId
      journalId := session.journal.journalId
      mutationEnabled := false
      artifacts }

/-- Everything that keeps a receipt from standing for the manifest, with the artifacts in this
directory. -/
def receiptBlockers (files : BackupFiles) (root : String) (manifest : MetadataBackupManifest)
    (receipt : MetadataBackupReceipt) : List String :=
  (if manifest.mutationEnabled ∨ receipt.mutationEnabled ∨ mutationEnabled then
    ["mutation-enabled backup evidence is forbidden"] else []) ++
  (if receipt.schemaVersion ≠ backupReceiptSchemaVersion then
    ["receipt schema version is unsupported"] else []) ++
  (if receipt.manifestId ≠ manifest.manifestId ∨ receipt.handoffId ≠ manifest.handoffId ∨
      receipt.planId ≠ manifest.planId ∨
      receipt.targetManifestDigest ≠ manifest.targetManifestDigest then
    ["receipt identity does not match the exact frozen backup manifest"] else []) ++
  (if ¬isArtifactRoot manifest manifest.handoffId receipt.journalId then
    ["backup artifact directory does not match the frozen handoff"] else []) ++
  (if receipt.receiptId ≠
      expectedReceiptId manifest receipt.sessionId receipt.journalId receipt.artifacts then
    ["receipt ID does not match its serialized artifact evidence"] else []) ++
  (if receipt.artifacts.length ≠ manifest.requirements.length then
    [s!"receipt artifact count {receipt.artifacts.length} does not match manifest requirement " ++
      s!"count {manifest.requirements.length}"] else []) ++
  (match files.existingDirectory root with
    | .error e => [s!"artifact directory verification failed: {e}"]
    | .ok () => []) ++
  manifest.requirements.flatMap (artifactBlockers files root receipt.artifacts)

/-- `revalidate_metadata_backup_receipt`. -/
def revalidateMetadataBackupReceipt (files : BackupFiles) (manifest : MetadataBackupManifest)
    (receipt : MetadataBackupReceipt) : BackupReceiptRevalidation :=
  let blockers := sortDedup (receiptBlockers files manifest.artifactDirectory manifest receipt)
  { receiptId := receipt.receiptId
    manifestId := manifest.manifestId
    handoffId := manifest.handoffId
    planId := manifest.planId
    targetManifestDigest := manifest.targetManifestDigest
    sessionId := receipt.sessionId
    journalId := receipt.journalId
    sameReceipt := blockers.isEmpty
    blockers }

/-- A receipt is bound to the session that captured it, its journal and its handoff. -/
theorem captureMetadataBackups_bound {files : BackupFiles} {session : LockedExecutionSession}
    {manifest : MetadataBackupManifest} {receipt : MetadataBackupReceipt}
    (h : captureMetadataBackups files session manifest = .ok receipt) :
    receipt.sessionId = session.sessionId ∧ receipt.journalId = session.journal.journalId ∧
      receipt.planId = session.handoff.planId ∧
      receipt.targetManifestDigest = session.handoff.manifestDigest := by
  unfold captureMetadataBackups validateBinding at h
  obtain ⟨hbinding, h⟩ := check_eq_ok_iff.mp h
  obtain ⟨-, hbinding⟩ := check_eq_ok_iff.mp hbinding
  obtain ⟨-, hbinding⟩ := check_eq_ok_iff.mp hbinding
  simp only [refuse_eq_ok_iff, not_or, not_not] at hbinding
  obtain ⟨-, h⟩ := check_eq_ok_iff.mp h
  obtain ⟨-, h⟩ := check_eq_ok_iff.mp h
  obtain ⟨artifacts, -, h⟩ := bind_eq_ok_iff.mp h
  obtain ⟨-, h⟩ := check_eq_ok_iff.mp h
  rw [← Except.ok.inj h]
  exact ⟨rfl, rfl, hbinding.2.1, hbinding.2.2.1⟩

end StorageManager.Executor.JournalStore
