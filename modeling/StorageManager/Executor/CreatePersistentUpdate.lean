import StorageManager.Executor.CreatePersistentConfig
import StorageManager.Executor.CreatePersistentJournal

/-!
# The persistent configuration update

The line of a completed mount is appended to fstab. The old bytes are backed up and synced before
the journal is UpdatingFstab; the new bytes are written to a new file beside fstab, which is
renamed over it when fstab is still the file that was read. From UpdatingFstab on, whatever fails
is recorded as RecoveryRequired.
-/

namespace StorageManager.Executor.Create.Persistent

open StorageManager.Core
open Lib
open Lib.Checks
open Lib.Effects
open Lib.Json (toJson)
open Lib.RecordFile
open Lib.Looking (orFail)
open Mount (ProductionCreateMountActivationIntent ProductionCreateMountRuntimeExecutionReceipt
  ProductionCreateMountRuntimeExecutionError ProductionCreateMountRuntimeJournal
  ProductionCreateMountRuntimeJournalError verifyMountedSnapshot)
open PersistentConfig (appendExactFstabEntry exactEntry maxFstabBytes sourceMatches
  verifyExactFstab)
open Swap (IoError pathFileName pathJoin pathParent)

set_option autoImplicit false

/-- `PRODUCTION_CREATE_FSTAB_PATH`. -/
def productionCreateFstabPath : String := "/etc/fstab"

/-- `PRODUCTION_CREATE_PERSISTENT_CONFIG_JOURNAL_DIRECTORY`. -/
def productionCreatePersistentConfigJournalDirectory : String :=
  "/var/lib/linux-storage-manager/create-persistent-config"

/-- `fs::Metadata`, with the group. -/
structure Metadata where
  isSymlink : Bool
  isFile : Bool
  isDir : Bool
  dev : Nat
  ino : Nat
  uid : Nat
  gid : Nat
  mode : Nat
  nlink : Nat
  len : Nat
  deriving DecidableEq

/-- `metadata.mode() & 0o777`. -/
def Metadata.permissions (m : Metadata) : Nat := m.mode % 0o1000

/-- `metadata.mode() & 0o022 != 0`. -/
def Metadata.writableByOthers (m : Metadata) : Bool := m.mode &&& 0o022 != 0

structure ProductionCreatePersistentConfigReceipt where
  schemaVersion : Nat
  receiptId : String
  persistentConfigJournalId : String
  mountActivationId : String
  mountExecutionReceiptId : String
  mountRuntimeJournalId : String
  fstabPath : String
  backupPath : String
  beforeSha256 : String
  afterSha256 : String
  fstabSource : String
  mountpoint : String
  filesystem : String
  fstabOptions : List String
  fstabDump : Nat
  fstabPass : Nat
  persistentConfigUpdated : Bool
  deriving DecidableEq

/-- The errors of the functions on the table are `table`; where the source keeps the text of
another error, the error itself is kept. -/
inductive ProductionCreatePersistentConfigError where
  | rootRequired
  | authorizationInvalid
  | mountJournalMismatch
  | mountJournal (source : ProductionCreateMountRuntimeJournalError)
  | persistenceJournalMismatch
  | liveMountVerification (source : ProductionCreateMountRuntimeExecutionError)
  | unsafeFstab
  | table (source : PersistentConfig.ProductionCreatePersistentConfigError)
  | backupMismatch
  | journal (source : ProductionCreatePersistentConfigJournalError)
  | io (path : String) (source : IoError)
  | discovery (source : String)
  | recoveryPersistenceFailed (runtime : ProductionCreatePersistentConfigError)
      (journal : ProductionCreatePersistentConfigJournalError)

/-- What the update asks of the host. An open file is a number; the journal of the mount lies in
a store of its own. -/
inductive PersistentOp where
  | geteuid
  | getpid
  | discoverSnapshot
  | loadMountJournal (journalId : String)
  | symlinkMetadata (path : String)
  | openRead (path : String)
  /-- `create_new`. -/
  | openNew (path : String) (mode : Nat)
  | fstat (file : Nat)
  | setPermissions (file mode : Nat)
  | writeAll (file : Nat) (bytes : List UInt8)
  | syncAll (file : Nat)
  | readToEnd (file limit : Nat)
  /-- `fs::read`. -/
  | readPath (path : String)
  | rename (source target : String)
  | removeFile (path : String)
  | syncDirectory (path : String)

@[reducible] def persistentEnv : Env where
  Op := PersistentOp
  Ans
    | .geteuid => Nat
    | .getpid => Nat
    | .discoverSnapshot => Except String HostSnapshot
    | .loadMountJournal _ =>
      Except ProductionCreateMountRuntimeJournalError ProductionCreateMountRuntimeJournal
    | .symlinkMetadata _ => Except IoError Metadata
    | .openRead _ => Except IoError Nat
    | .openNew _ _ => Except IoError Nat
    | .fstat _ => Except IoError Metadata
    | .setPermissions _ _ => Except IoError Unit
    | .writeAll _ _ => Except IoError Unit
    | .syncAll _ => Except IoError Unit
    | .readToEnd _ _ => Except IoError (List UInt8)
    | .readPath _ => Except IoError (List UInt8)
    | .rename _ _ => Except IoError Unit
    | .removeFile _ => Except IoError Unit
    | .syncDirectory _ => Except IoError Unit

/-- A function of the update, which holds the journal in memory. -/
abbrev PersistentProc := FileProc ProductionCreatePersistentConfigJournal persistentEnv
  ProductionCreatePersistentConfigJournal ProductionCreatePersistentConfigError

def askHost (op : PersistentOp) : PersistentProc (persistentEnv.Ans op) :=
  ask (E := persistentEnv) op

section Files

def symlinkMetadata (path : String) : PersistentProc Metadata :=
  orFail (.io path) (askHost (.symlinkMetadata path))

/-- `metadata_matches`. -/
def metadataMatches (current original : Metadata) : Bool :=
  current.dev == original.dev && current.ino == original.ino && current.uid == original.uid &&
    current.gid == original.gid && current.mode == original.mode &&
    current.nlink == original.nlink && current.len == original.len

def readSafeRegular (path : String) (requiredUid : Nat) :
    PersistentProc (List UInt8 × Metadata) := do
  let metadata ← symlinkMetadata path
  Proc.lift (refuse (metadata.isSymlink ∨ ¬metadata.isFile ∨ metadata.uid ≠ requiredUid ∨
      metadata.nlink ≠ 1 ∨ metadata.writableByOthers) .unsafeFstab)
  Proc.lift (refuse (metadata.len > maxFstabBytes) (.table .fstabTooLarge))
  let file ← orFail (.io path) (askHost (.openRead path))
  let opened ← orFail (.io path) (askHost (.fstat file))
  Proc.lift (refuse (¬metadataMatches opened metadata) .unsafeFstab)
  let bytes ← orFail (.io path) (askHost (.readToEnd file (maxFstabBytes + 1)))
  Proc.lift (refuse (bytes.length > maxFstabBytes) (.table .fstabTooLarge))
  pure (bytes, metadata)

/-- The path of the backup. A backup that is there must hold the bytes already. -/
def ensureBackup (root journalId : String) (before : List UInt8) (requiredUid : Nat) :
    PersistentProc String := do
  let backup := pathJoin root s!"{journalId}.fstab.backup"
  match ← askHost (.symlinkMetadata backup) with
  | .ok metadata => do
    Proc.lift (refuse (metadata.isSymlink ∨ ¬metadata.isFile ∨ metadata.uid ≠ requiredUid ∨
        metadata.permissions ≠ 0o600 ∨ metadata.nlink ≠ 1 ∨ metadata.len ≠ before.length)
      .backupMismatch)
    let existing ← orFail (.io backup) (askHost (.readPath backup))
    Proc.lift (refuse (existing ≠ before) .backupMismatch)
    pure backup
  | .error .notFound => do
    let file ← orFail (.io backup) (askHost (.openNew backup 0o600))
    orFail (.io backup) (askHost (.writeAll file before))
    orFail (.io backup) (askHost (.syncAll file))
    orFail (.io root) (askHost (.syncDirectory root))
    pure backup
  | .error source => Proc.throw (.io backup source)

/-- `str::get(..n)`, with `n` counting bytes. -/
def prefixBytes : Nat → List Char → Option (List Char)
  | 0, _ => some []
  | _ + 1, [] => none
  | n + 1, c :: cs =>
    if c.utf8Size ≤ n + 1 then (prefixBytes (n + 1 - c.utf8Size) cs).map (c :: ·) else none

/-- The new file beside fstab. -/
def replacementPath (parent fileName journalId : String) (pid : Nat) : String :=
  let suffix := ((prefixBytes 12 journalId.toList).map String.ofList).getD "invalid"
  pathJoin parent s!".{fileName}.linux-storage-manager-{suffix}-{pid}"

/-- `atomic_replace` up to the rename: the new file is complete, and the old one is as it was. -/
def stageReplacement (temp path : String) (bytes before : List UInt8) (original : Metadata)
    (requiredUid : Nat) : PersistentProc Unit := do
  let file ← orFail (.io temp) (askHost (.openNew temp original.permissions))
  orFail (.io temp) (askHost (.setPermissions file original.permissions))
  orFail (.io temp) (askHost (.writeAll file bytes))
  orFail (.io temp) (askHost (.syncAll file))
  let metadata ← orFail (.io temp) (askHost (.fstat file))
  Proc.lift (refuse (metadata.uid ≠ requiredUid ∨ metadata.permissions ≠ original.permissions ∨
      metadata.nlink ≠ 1 ∨ metadata.len ≠ bytes.length) .unsafeFstab)
  let current ← readSafeRegular path requiredUid
  Proc.lift (refuse (¬metadataMatches current.2 original ∨ current.1 ≠ before) .unsafeFstab)

/-- The closure of `atomic_replace`. -/
def installReplacement (parent temp path : String) (bytes before : List UInt8)
    (original : Metadata) (requiredUid : Nat) : PersistentProc Unit := do
  stageReplacement temp path bytes before original requiredUid
  orFail (.io path) (askHost (.rename temp path))
  orFail (.io parent) (askHost (.syncDirectory parent))

def atomicReplace (path : String) (bytes before : List UInt8) (original : Metadata)
    (requiredUid : Nat) (journalId : String) : PersistentProc Unit := do
  let parent ← Proc.lift (okOr (pathParent path) .unsafeFstab)
  let fileName ← Proc.lift (okOr (pathFileName path) .unsafeFstab)
  let parentMetadata ← symlinkMetadata parent
  Proc.lift (refuse (parentMetadata.isSymlink ∨ ¬parentMetadata.isDir ∨
      parentMetadata.uid ≠ requiredUid ∨ parentMetadata.writableByOthers) .unsafeFstab)
  let pid ← askHost .getpid
  let temp := replacementPath parent fileName journalId pid
  match ← (installReplacement parent temp path bytes before original requiredUid).attempt with
  | .ok () => pure ()
  | .error e => do
    let _ ← askHost (.removeFile temp)
    Proc.throw e

end Files

/-- The part of the activation that fstab shows. -/
def fstabScope (activation : ProductionCreateMountActivationIntent) :
    PersistentConfig.ProductionCreateMountActivationIntent where
  partitionDevice := activation.partitionDevice
  filesystem := activation.filesystem
  mountpoint := activation.mountpoint
  fstabSource := activation.fstabSource
  fstabOptions := activation.fstabOptions
  fstabDump := activation.fstabDump
  fstabPass := activation.fstabPass

section Verification

def verifyLiveWithoutPersistentConfig (create : ProductionCreateActivationIntent)
    (activation : ProductionCreateMountActivationIntent) : PersistentProc Unit := do
  let snapshot ← orFail .discovery (askHost .discoverSnapshot)
  Proc.lift ((verifyMountedSnapshot create activation snapshot).mapError .liveMountVerification)

/-- The snapshot has the entry once and no other for the mountpoint or the source, and without
the entry it is the snapshot of the mount. -/
def verifyPersistentSnapshot (create : ProductionCreateActivationIntent)
    (activation : ProductionCreateMountActivationIntent) (snapshot : HostSnapshot) :
    Except ProductionCreatePersistentConfigError Unit := do
  let scope := fstabScope activation
  refuse (snapshot.fstab.countP (exactEntry · scope) ≠ 1 ∨ snapshot.fstab.any fun entry =>
      !exactEntry entry scope && (entry.target == scope.mountpoint || sourceMatches entry scope))
    (.table .persistentConfigVerificationFailed)
  let withoutPersistentEntry := { snapshot with
    fstab := snapshot.fstab.filter fun entry => !exactEntry entry scope }
  (verifyMountedSnapshot create activation withoutPersistentEntry).mapError .liveMountVerification

def verifyLiveWithPersistentConfig (create : ProductionCreateActivationIntent)
    (activation : ProductionCreateMountActivationIntent) : PersistentProc Unit := do
  let snapshot ← orFail .discovery (askHost .discoverSnapshot)
  Proc.lift (verifyPersistentSnapshot create activation snapshot)

end Verification

section Update

variable [Fingerprint]

def ProductionCreatePersistentConfigReceipt.expectedReceiptId
    (r : ProductionCreatePersistentConfigReceipt) : String :=
  fingerprint (.obj [("schema_version", toJson r.schemaVersion),
    ("persistent_config_journal_id", toJson r.persistentConfigJournalId),
    ("mount_activation_id", toJson r.mountActivationId),
    ("mount_execution_receipt_id", toJson r.mountExecutionReceiptId),
    ("mount_runtime_journal_id", toJson r.mountRuntimeJournalId),
    ("fstab_path", toJson r.fstabPath), ("backup_path", toJson r.backupPath),
    ("before_sha256", toJson r.beforeSha256), ("after_sha256", toJson r.afterSha256),
    ("fstab_source", toJson r.fstabSource), ("mountpoint", toJson r.mountpoint),
    ("filesystem", toJson r.filesystem), ("fstab_options", toJson r.fstabOptions),
    ("fstab_dump", toJson r.fstabDump), ("fstab_pass", toJson r.fstabPass),
    ("persistent_config_updated", toJson r.persistentConfigUpdated)])

def validateBindings (create : ProductionCreateActivationIntent)
    (activation : ProductionCreateMountActivationIntent)
    (receipt : ProductionCreateMountRuntimeExecutionReceipt)
    (mountJournal : ProductionCreateMountRuntimeJournal)
    (journal : ProductionCreatePersistentConfigJournal) :
    Except ProductionCreatePersistentConfigError Unit := do
  refuse (¬activation.persistToFstab ∨ receipt.receiptId ≠ receipt.expectedReceiptId ∨
      ¬receipt.mountedVerified ∨ receipt.fstabChanged ∨ journal.phase ≠ .prepared ∨
      journal.mutationMayHaveStarted ∨ journal.persistentConfigMayHaveChanged)
    .authorizationInvalid
  let expected ← (buildProductionCreatePersistentConfigJournal create activation receipt
    mountJournal).mapError .journal
  refuse (expected ≠ journal) .authorizationInvalid

/-- `persist_recovery` after a failure. -/
def orRecovery {α : Type} (p : PersistentProc α) : PersistentProc α :=
  Journaled.orRecovery (persistProductionCreatePersistentConfigTransition .recoveryRequired)
    .recoveryPersistenceFailed p

/-- The receipt of an update from these bytes to those. -/
def receiptFor (activation : ProductionCreateMountActivationIntent)
    (receipt : ProductionCreateMountRuntimeExecutionReceipt)
    (mountJournal : ProductionCreateMountRuntimeJournal)
    (journal : ProductionCreatePersistentConfigJournal) (fstabPath backup : String)
    (before after : List UInt8) : ProductionCreatePersistentConfigReceipt :=
  let result : ProductionCreatePersistentConfigReceipt :=
    { schemaVersion := 1
      receiptId := ""
      persistentConfigJournalId := journal.journalId
      mountActivationId := activation.mountActivationId
      mountExecutionReceiptId := receipt.receiptId
      mountRuntimeJournalId := mountJournal.journalId
      fstabPath := fstabPath
      backupPath := backup
      beforeSha256 := Sha256.sha256Hex before
      afterSha256 := Sha256.sha256Hex after
      fstabSource := activation.fstabSource
      mountpoint := activation.mountpoint
      filesystem := activation.filesystem
      fstabOptions := activation.fstabOptions
      fstabDump := activation.fstabDump
      fstabPass := activation.fstabPass
      persistentConfigUpdated := true }
  { result with receiptId := result.expectedReceiptId }

/-- What is read back must be what was written, with owner, group and permissions as before. -/
def checkReadback (activation : ProductionCreateMountActivationIntent) (rewritten : List UInt8)
    (metadata : Metadata) (after : List UInt8 × Metadata) :
    Except ProductionCreatePersistentConfigError Unit := do
  refuse (after.1 ≠ rewritten ∨ after.2.uid ≠ metadata.uid ∨ after.2.gid ≠ metadata.gid ∨
      after.2.permissions ≠ metadata.permissions) (.table .persistentConfigVerificationFailed)
  (verifyExactFstab after.1 (fstabScope activation)).mapError .table

/-- The update from its durable begin on. -/
def rewriteFstab (create : ProductionCreateActivationIntent)
    (activation : ProductionCreateMountActivationIntent) (fstabPath : String)
    (before rewritten : List UInt8) (metadata : Metadata) : PersistentProc (List UInt8) := do
  let journal ← Proc.get
  (persistProductionCreatePersistentConfigTransition .beginPersistentConfigUpdate).mapError .journal
  orRecovery (atomicReplace fstabPath rewritten before metadata 0 journal.journalId)
  orRecovery ((persistProductionCreatePersistentConfigTransition
    .persistentConfigWriteSucceeded).mapError .journal)
  let after ← orRecovery (readSafeRegular fstabPath 0)
  orRecovery (Proc.lift (checkReadback activation rewritten metadata after))
  orRecovery (verifyLiveWithPersistentConfig create activation)
  orRecovery ((persistProductionCreatePersistentConfigTransition
    .persistentConfigRediscoveryVerified).mapError .journal)
  pure after.1

def updatePersistentConfigAt (create : ProductionCreateActivationIntent)
    (activation : ProductionCreateMountActivationIntent)
    (receipt : ProductionCreateMountRuntimeExecutionReceipt)
    (mountJournal : ProductionCreateMountRuntimeJournal) (root fstabPath : String) :
    PersistentProc ProductionCreatePersistentConfigReceipt := do
  let journal ← Proc.get
  Proc.lift (validateBindings create activation receipt mountJournal journal)
  let persistedMount ← orFail .mountJournal (askHost (.loadMountJournal mountJournal.journalId))
  Proc.lift (refuse (persistedMount ≠ mountJournal) .mountJournalMismatch)
  let persisted ← (load journal.journalId).mapError .journal
  Proc.lift (refuse (persisted ≠ journal) .persistenceJournalMismatch)
  verifyLiveWithoutPersistentConfig create activation
  let current ← readSafeRegular fstabPath 0
  let rewritten ← Proc.lift
    ((appendExactFstabEntry current.1 (fstabScope activation)).mapError .table)
  let backup ← ensureBackup root journal.journalId current.1 0
  let after ← rewriteFstab create activation fstabPath current.1 rewritten current.2
  let completed ← Proc.get
  pure (receiptFor activation receipt mountJournal completed fstabPath backup current.1 after)

/-- In a build that has the feature, by a caller that holds the host lock. -/
def updateProductionCreatePersistentConfig (create : ProductionCreateActivationIntent)
    (activation : ProductionCreateMountActivationIntent)
    (receipt : ProductionCreateMountRuntimeExecutionReceipt)
    (mountJournal : ProductionCreateMountRuntimeJournal) (root : String) :
    PersistentProc ProductionCreatePersistentConfigReceipt := do
  let euid ← askHost .geteuid
  Proc.lift (refuse (euid ≠ 0) .rootRequired)
  updatePersistentConfigAt create activation receipt mountJournal root productionCreateFstabPath

def revalidateProductionCreatePersistentConfigReceipt
    (activation : ProductionCreateMountActivationIntent)
    (receipt : ProductionCreatePersistentConfigReceipt) : PersistentProc Unit := do
  Proc.lift (refuse (receipt.receiptId ≠ receipt.expectedReceiptId ∨
      ¬receipt.persistentConfigUpdated ∨ receipt.mountActivationId ≠ activation.mountActivationId ∨
      receipt.fstabSource ≠ activation.fstabSource ∨ receipt.mountpoint ≠ activation.mountpoint ∨
      receipt.filesystem ≠ activation.filesystem ∨
      receipt.fstabOptions ≠ activation.fstabOptions ∨ receipt.fstabDump ≠ activation.fstabDump ∨
      receipt.fstabPass ≠ activation.fstabPass) .authorizationInvalid)
  let current ← readSafeRegular receipt.fstabPath 0
  Proc.lift (refuse (Sha256.sha256Hex current.1 ≠ receipt.afterSha256)
    (.table .persistentConfigVerificationFailed))
  Proc.lift ((verifyExactFstab current.1 (fstabScope activation)).mapError .table)

end Update

end StorageManager.Executor.Create.Persistent
