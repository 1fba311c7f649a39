import StorageManager.Executor.BackupManifestLaws

/-!
# Captured backups and the files they stand for

The capture writes one file for each requirement and keeps what it read of it in the receipt; the
revalidation looks for these files again. The files and directories are a map, the tools that
write into it are not known.
-/

namespace StorageManager.Executor.BackupCapture

open JournalStore
open Lib.Checks
open Lib.Sha256 (sha256Hex)
open Swap (pathComponents pathParent pathResolve samePath)

set_option autoImplicit false

section Files

inductive FileKind where
  | file
  | directory
  | symlink
  | other
  deriving DecidableEq

structure FileNode where
  kind : FileKind
  dev : Nat
  ino : Nat
  uid : Nat
  mode : Nat
  nlink : Nat
  bytes : List UInt8
  deriving DecidableEq

/-- What stands at the components of an absolute path. -/
structure FileSystem where
  node : List String → Option FileNode
  euid : Nat

def FileNode.trustedJournalFile (metadata : FileNode) (euid : Nat) : Bool :=
  metadata.kind == .file && metadata.uid == euid && metadata.mode % 0o10000 == 0o600 &&
    metadata.nlink == 1

def FileNode.trustedJournalDirectory (metadata : FileNode) (euid : Nat) (isRoot : Bool) : Bool :=
  let ownerOk := metadata.uid == 0 || metadata.uid == euid
  let safeMode := metadata.mode &&& 0o022 == 0 ||
    (!isRoot && metadata.uid == 0 && metadata.mode &&& 0o1000 != 0)
  metadata.kind == .directory && ownerOk && safeMode

def maxBackupArtifactBytes : Nat := 16 * 1024 * 1024

def unsafeDirectory (path : String) : String := s!"backup artifact directory is unsafe: {path}"

def notFound (path : String) : String :=
  s!"backup capture I/O failed at {path}: No such file or directory (os error 2)"

def symlinkMetadata (files : FileSystem) (path : String) : Except String FileNode :=
  okOr (files.node (pathComponents path)) (notFound path)

def absolutePath (components : List String) : String := "/" ++ "/".intercalate components

/-- The loop of `verify_existing_secure_directory` over the rest of the components. -/
def verifyDirectories (files : FileSystem) (path : String) :
    List String → List String → Except String Unit
  | _, [] => .ok ()
  | done, component :: rest => do
    refuse (component = "..") (unsafeDirectory path)
    let current := done ++ [component]
    let metadata ← okOr (files.node current) (notFound (absolutePath current))
    refuse (¬metadata.trustedJournalDirectory files.euid (decide (rest = [])))
      (unsafeDirectory (absolutePath current))
    verifyDirectories files path current rest

def verifyExistingSecureDirectory (files : FileSystem) (path : String) : Except String Unit := do
  refuse (¬startsWith path "/") (unsafeDirectory path)
  verifyDirectories files path [] (pathComponents path)

/-- `verify_artifact`, up to the digest. No one else changes the files in between, so the file
that is opened is the one that was looked at. -/
def readArtifact (files : FileSystem) (path : String) : Except String FileNode := do
  let metadata ← symlinkMetadata files path
  refuse (¬metadata.trustedJournalFile files.euid) (BackupCaptureError.unsafeArtifact path).text
  refuse (metadata.bytes.length = 0) "backup artifact is empty"
  refuse (maxBackupArtifactBytes < metadata.bytes.length)
    "backup artifact exceeds the maximum supported size"
  let opened ← symlinkMetadata files path
  refuse (¬opened.trustedJournalFile files.euid ∨ opened.dev ≠ metadata.dev ∨
    opened.ino ≠ metadata.ino) (BackupCaptureError.unsafeArtifact path).text
  let bytes := opened.bytes.take (maxBackupArtifactBytes + 1)
  refuse (maxBackupArtifactBytes < bytes.length)
    "backup artifact exceeds the maximum supported size"
  refuse (bytes = []) "backup artifact is empty"
  pure { opened with bytes }

def verifyArtifact (files : FileSystem) (path : String) :
    Except String (Nat × String × Nat × Nat) := do
  let read ← readArtifact files path
  pure (read.bytes.length, sha256Hex read.bytes, read.dev, read.ino)

end Files

section Capture

/-- The tools and the kernel: what they leave of the files, or why they fail. -/
structure CaptureHost where
  createDirectory : List String → FileSystem → Except String FileSystem
  syncDirectory : String → FileSystem → Except String Unit
  capturePartitionTable : String → String → FileSystem → Except BackupCaptureError FileSystem
  captureLvmMetadata : String → String → FileSystem → Except BackupCaptureError FileSystem

variable (host : CaptureHost)

def presentOrCreated (current : List String) (files : FileSystem) : Except String FileSystem :=
  match files.node current with
  | some _ => .ok files
  | none => host.createDirectory current files

/-- The loop of `ensure_secure_directory` over the rest of the components. -/
def ensureDirectories (path : String) :
    List String → List String → FileSystem → Except String FileSystem
  | _, [], files => .ok files
  | done, component :: rest, files => do
    refuse (component = "..") (unsafeDirectory path)
    let current := done ++ [component]
    let files ← presentOrCreated host current files
    let metadata ← okOr (files.node current) (notFound (absolutePath current))
    refuse (¬metadata.trustedJournalDirectory files.euid (decide (rest = [])))
      (unsafeDirectory (absolutePath current))
    host.syncDirectory (absolutePath done) files
    ensureDirectories path current rest files

def ensureSecureDirectory (path : String) (files : FileSystem) : Except String FileSystem := do
  refuse (¬startsWith path "/") (unsafeDirectory path)
  ensureDirectories host path [] (pathComponents path) files

def runCapture (requirement : MetadataBackupRequirement) (output : String) (files : FileSystem) :
    Except BackupCaptureError FileSystem :=
  match requirement.expectedIdentity with
  | .partitionTable disk _ _ => host.capturePartitionTable disk output files
  | .lvmVolumeGroup vgName _ => host.captureLvmMetadata vgName output files

/-- The receipt of an artifact, with the file as it was read for it. -/
structure CapturedArtifact where
  receipt : BackupArtifactReceipt
  read : FileNode
  deriving DecidableEq

def capturedArtifact (requirement : MetadataBackupRequirement) (read : FileNode) :
    CapturedArtifact where
  receipt :=
    { ordinal := requirement.ordinal
      kind := requirement.kind
      artifactPath := requirement.artifactPath
      expectedIdentity := requirement.expectedIdentity
      deviceId := read.dev
      inode := read.ino
      sizeBytes := read.bytes.length
      sha256 := sha256Hex read.bytes }
  read := read

def captureArtifact (root : String) (requirement : MetadataBackupRequirement)
    (files : FileSystem) : Except BackupCaptureError (CapturedArtifact × FileSystem) := do
  validateRequirement requirement
  let actualPath ← okOr (artifactFile root requirement.artifactPath)
    (.unsafeArtifact requirement.artifactPath)
  refuse ((pathParent actualPath).map pathComponents ≠ some (pathComponents root))
    (.unsafeArtifact actualPath)
  let files ← runCapture host requirement actualPath files
  let read ← (readArtifact files actualPath).mapError .host
  pure (capturedArtifact requirement read, files)

def captureArtifacts (root : String) : List MetadataBackupRequirement → FileSystem →
    Except BackupCaptureError (List CapturedArtifact × FileSystem)
  | [], files => .ok ([], files)
  | requirement :: requirements, files => do
    let (captured, files) ← captureArtifact host root requirement files
    let (rest, files) ← captureArtifacts root requirements files
    pure (captured :: rest, files)

/-- Where the artifacts are: below the directory that takes the place of the manifest's, if one
does. -/
def artifactRoot (manifest : MetadataBackupManifest) (handoffId journalId : String) :
    Option String → String
  | none => manifest.artifactDirectory
  | some root =>
    if samePath manifest.artifactDirectory (attemptRoot handoffId journalId) then
      pathResolve root journalId
    else root

/-- A receipt, the files as they were read for it, and the files as they were left. -/
structure CaptureOutcome where
  receipt : MetadataBackupReceipt
  captured : List CapturedArtifact
  files : FileSystem

variable [Fingerprint]

def captureWithRunner (files : FileSystem) (session : LockedExecutionSession)
    (manifest : MetadataBackupManifest) (rootOverride : Option String) :
    Except BackupCaptureError CaptureOutcome := do
  validateBinding session manifest
  refuse (¬isArtifactRoot manifest session.handoff.handoffId session.journal.journalId)
    .artifactDirectoryMismatch
  let root := artifactRoot manifest session.handoff.handoffId session.journal.journalId
    rootOverride
  let files ← (ensureSecureDirectory host root files).mapError .host
  let (captured, files) ← captureArtifacts host root manifest.requirements files
  (host.syncDirectory root files).mapError .host
  let artifacts := captured.map (·.receipt)
  pure
    { receipt :=
        { schemaVersion := backupReceiptSchemaVersion
          receiptId :=
            expectedReceiptId manifest session.sessionId session.journal.journalId artifacts
          manifestId := manifest.manifestId
          handoffId := manifest.handoffId
          planId := manifest.planId
          targetManifestDigest := manifest.targetManifestDigest
          sessionId := session.sessionId
          journalId := session.journal.journalId
          mutationEnabled := false
          artifacts }
      captured
      files }

/-- What the host answers while the files are these. -/
def CaptureHost.answers (files : FileSystem) : BackupFiles where
  ensureDirectory path := (ensureSecureDirectory host path files).map fun _ => ()
  existingDirectory := verifyExistingSecureDirectory files
  capture requirement path := ((runCapture host requirement path files).map fun _ => ()).mapError
    BackupCaptureError.text
  artifact := verifyArtifact files
  syncDirectory path := host.syncDirectory path files

def revalidateReceiptAtRoot (files : FileSystem) (manifest : MetadataBackupManifest)
    (receipt : MetadataBackupReceipt) (rootOverride : Option String) :
    BackupReceiptRevalidation :=
  let root := artifactRoot manifest manifest.handoffId receipt.journalId rootOverride
  let blockers := sortDedup (receiptBlockers (host.answers files) root manifest receipt)
  { receiptId := receipt.receiptId
    manifestId := manifest.manifestId
    handoffId := manifest.handoffId
    planId := manifest.planId
    targetManifestDigest := manifest.targetManifestDigest
    sessionId := receipt.sessionId
    journalId := receipt.journalId
    sameReceipt := blockers.isEmpty
    blockers }

/-- Without another directory this is the revalidation of the executor. -/
theorem revalidateReceiptAtRoot_none (files : FileSystem) (manifest : MetadataBackupManifest)
    (receipt : MetadataBackupReceipt) :
    revalidateReceiptAtRoot host files manifest receipt none =
      revalidateMetadataBackupReceipt (host.answers files) manifest receipt := rfl

end Capture

end StorageManager.Executor.BackupCapture
