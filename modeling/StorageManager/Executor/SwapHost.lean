import StorageManager.Core.HostSnapshot
import StorageManager.Executor.SwapJournal
import StorageManager.Lib.Journaled

/-!
# What the swap executors ask of the host

The calls of the three swap executors outside their journal file: identity checks of
pinned files, discoveries, file system calls by path or descriptor, and the spawning of
a pinned tool. Their answers are free.
-/

namespace StorageManager.Executor.Swap

open StorageManager.Core
open Lib
open Lib.Checks (refuse)
open Lib.Effects
open Lib.Json (Value ToJson toJson)
open Lib.RecordFile

set_option autoImplicit false

structure ProductionSwapPartitionRemovalPreflight where
  schemaVersion : Nat
  preflightId : String
  journalId : String
  activationId : String
  persistentConfigReceiptId : String
  disk : String
  tableLabel : String
  tableId : Option String
  sectorSizeBytes : Nat
  retiringSwapDevice : String
  retiringSwapPartitionNumber : Nat
  retiringSwapStartSector : Nat
  retiringSwapSizeSectors : Nat
  extendedPartitionDevice : String
  extendedPartitionNumber : Nat
  extendedStartSector : Nat
  extendedSizeSectors : Nat
  partitionBackupPath : String
  partitionBackupSha256 : String
  mutationEnabled : Bool
  partitionTableChanged : Bool
  deriving DecidableEq

def ProductionSwapPartitionRemovalPreflight.expectedPreflightId [Fingerprint]
    (p : ProductionSwapPartitionRemovalPreflight) : String :=
  fingerprint (.obj [("schema_version", toJson p.schemaVersion), ("journal_id", toJson p.journalId),
    ("activation_id", toJson p.activationId),
    ("persistent_config_receipt_id", toJson p.persistentConfigReceiptId), ("disk", toJson p.disk),
    ("table_label", toJson p.tableLabel), ("table_id", toJson p.tableId),
    ("sector_size_bytes", toJson p.sectorSizeBytes),
    ("retiring_swap_device", toJson p.retiringSwapDevice),
    ("retiring_swap_partition_number", toJson p.retiringSwapPartitionNumber),
    ("retiring_swap_start_sector", toJson p.retiringSwapStartSector),
    ("retiring_swap_size_sectors", toJson p.retiringSwapSizeSectors),
    ("extended_partition_device", toJson p.extendedPartitionDevice),
    ("extended_partition_number", toJson p.extendedPartitionNumber),
    ("extended_start_sector", toJson p.extendedStartSector),
    ("extended_size_sectors", toJson p.extendedSizeSectors),
    ("partition_backup_path", toJson p.partitionBackupPath),
    ("partition_backup_sha256", toJson p.partitionBackupSha256),
    ("mutation_enabled", toJson p.mutationEnabled),
    ("partition_table_changed", toJson p.partitionTableChanged)])

def ProductionSwapPartitionRemovalPreflight.integrityMatches [Fingerprint]
    (p : ProductionSwapPartitionRemovalPreflight) : Bool :=
  p.preflightId == p.expectedPreflightId

/-- `io::Error`, of which the swap code tells a missing path from everything else. -/
inductive IoError where
  | notFound
  | other (source : String)
  deriving DecidableEq

/-- What the swap code looks at in `fs::Metadata`. -/
structure FileMetadata where
  isSymlink : Bool
  isFile : Bool
  isDir : Bool
  dev : Nat
  ino : Nat
  uid : Nat
  mode : Nat
  nlink : Nat
  len : Nat
  blocks : Nat
  deriving DecidableEq

/-- `metadata.mode() & 0o777`. -/
def FileMetadata.permissions (m : FileMetadata) : Nat := m.mode % 0o1000

/-- `metadata.mode() & 0o022 != 0`. -/
def FileMetadata.writableByOthers (m : FileMetadata) : Bool := m.mode &&& 0o022 != 0

/-- The descriptor stages of a swap replacement, each run by its pinned tool. -/
inductive SwapStage where
  | mkswap
  | swapon
  | swapoff
  | sfdiskDelete
  | partxDeleteRetiringSwap
  | partxDeleteExtendedContainer
  deriving DecidableEq

/-- The name a failed stage is reported under. -/
def SwapStage.label : SwapStage → String
  | .mkswap => "mkswap"
  | .swapon => "swapon"
  | .swapoff => "swapoff"
  | .sfdiskDelete => "sfdisk-delete"
  | .partxDeleteRetiringSwap => "partx-delete-retiring-swap"
  | .partxDeleteExtendedContainer => "partx-delete-extended-container"

/-- An open file is a number. -/
inductive SwapOp where
  | geteuid
  | processId
  | pageSize
  | revalidatePinnedConsent (activation : ProductionSwapReplacementActivationIntent)
  | revalidateRuntimeTools (preflight : ProductionSwapRuntimePreflightReceipt)
  | revalidateRemovalTools (preflight : ProductionSwapPartitionRemovalPreflight)
  | discoverSwaps
  | discoverSnapshot
  | sfdiskDump (disk : String)
  | symlinkMetadata (path : String)
  | createNew (path : String) (mode : Nat)
  | openRead (path : String)
  | fstat (file : Nat)
  | setPermissions (file mode : Nat)
  | fallocate (file length : Nat)
  | writeAll (file : Nat) (bytes : List UInt8)
  | syncAll (file : Nat)
  | readToEnd (file limit : Nat)
  | readAt (file length offset : Nat)
  | rename (source target : String)
  | removeFile (path : String)
  | openPipes
  | spawn (stage : DescriptorStage SwapStage)

@[reducible] def swapEnv : Env where
  Op := SwapOp
  Ans
    | .geteuid => Nat
    | .processId => Nat
    | .pageSize => Int
    | .revalidatePinnedConsent _ => Except String String
    | .revalidateRuntimeTools _ => Except String Unit
    | .revalidateRemovalTools _ => Except String Unit
    | .discoverSwaps => Except String (List SwapEntry)
    | .discoverSnapshot => Except String HostSnapshot
    | .sfdiskDump _ => Except String DescriptorExecOutcome
    | .symlinkMetadata _ => Except IoError FileMetadata
    | .createNew _ _ => Except IoError Nat
    | .openRead _ => Except IoError Nat
    | .fstat _ => Except IoError FileMetadata
    | .setPermissions _ _ => Except IoError Unit
    | .fallocate _ _ => Except IoError Unit
    | .writeAll _ _ => Except IoError Unit
    | .syncAll _ => Except IoError Unit
    | .readToEnd _ _ => Except IoError (List UInt8)
    | .readAt _ _ _ => Except IoError (List UInt8)
    | .rename _ _ => Except IoError Unit
    | .removeFile _ => Except IoError Unit
    | .openPipes => Except String Unit
    | .spawn _ => Except PrivilegedDescriptorExecError DescriptorExecOutcome

abbrev SwapLogEntry := Entry (interface ProductionSwapRuntimeJournal swapEnv)
abbrev SwapSt := St (interface ProductionSwapRuntimeJournal swapEnv)

/-- A function that holds the journal in memory. -/
abbrev SwapProc (ε : Type) := FileProc ProductionSwapRuntimeJournal swapEnv
  ProductionSwapRuntimeJournal ε

variable {ε σ α : Type}

/-- One call of the host. -/
def host (op : SwapOp) : SwapProc ε (swapEnv.Ans op) := ask (E := swapEnv) op

/-- A call whose failure is the caller's error. -/
def orFail (fault : σ → ε) (call : SwapProc ε (Except σ α)) : SwapProc ε α := do
  match ← call with
  | .ok a => pure a
  | .error e => Proc.throw (fault e)

def requireRoot (rootRequired : ε) : SwapProc ε Unit := do
  let euid ← host .geteuid
  Proc.lift (refuse (euid ≠ 0) rootRequired)

/-- The stored record must be the one in memory. -/
def requireExact [Fingerprint] (journalError : ProductionSwapRuntimeJournalError → ε)
    (mismatch : ε) : SwapProc ε Unit := do
  let journal ← Proc.get
  let persisted ← (load journal.journalId).mapError journalError
  Proc.lift (refuse (persisted ≠ journal) mismatch)

/-- `bounded_stderr`, as bytes. -/
def boundedStderr (outcome : DescriptorExecOutcome) : List UInt8 := outcome.stderr.take 4096

/-- `run_stage` of both executors, up to their error types. -/
def runDescriptorStage (descriptor : PrivilegedDescriptorExecError → ε)
    (stageFailed : String → Int → List UInt8 → ε) (stage : SwapStage)
    (program : PrivilegedProgram) (argv : List String) (fixedPath fixedLocale : String) :
    SwapProc ε DescriptorExecOutcome := do
  match ← executeDescriptorStage (host .openPipes) (fun d => host (.spawn d))
      ⟨stage, program, argv, fixedPath, fixedLocale, none⟩ with
  | .error e => Proc.throw (descriptor e)
  | .ok outcome =>
    if outcome.exitCode ≠ 0 then
      Proc.throw (stageFailed stage.label outcome.exitCode (boundedStderr outcome))
    else pure outcome

section Recovery

variable [Fingerprint]

/-- `persist_recovery` of the three executors: the caller returns the error. -/
def persistRecovery (persistenceFailed : ε → ProductionSwapRuntimeJournalError → ε) (runtime : ε) :
    SwapProc ε α :=
  Journaled.persistRecovery (persistProductionSwapRuntimeTransition .recoveryRequired)
    persistenceFailed runtime

def orRecovery (persistenceFailed : ε → ProductionSwapRuntimeJournalError → ε)
    (p : SwapProc ε α) : SwapProc ε α :=
  Journaled.orRecovery (persistProductionSwapRuntimeTransition .recoveryRequired)
    persistenceFailed p

end Recovery

/-- The components after the root. Paths are compared by them, so repeated separators and
a `.` that does not lead are dropped. -/
def pathComponents (path : String) : List String :=
  let parts := path.splitOn "/"
  (parts.head?.filter (· ≠ "")).toList ++ parts.tail.filter fun c => c ≠ "" && c ≠ "."

/-- `Path::parent`. -/
def pathParent (path : String) : Option String :=
  match (pathComponents path).dropLast with
  | [] => if pathComponents path = [] then none else some (if startsWith path "/" then "/" else "")
  | c :: cs => some ((if startsWith path "/" then "/" else "") ++ "/".intercalate (c :: cs))

/-- `Path::file_name`: the last component, unless it is `.` or `..`. -/
def pathFileName (path : String) : Option String :=
  (pathComponents path).getLast?.filter fun c => c ≠ "." && c ≠ ".."

/-- `Path::join` with a relative name. -/
def pathJoin (directory name : String) : String :=
  if directory = "" ∨ directory.endsWith "/" then directory ++ name else directory ++ "/" ++ name

/-- `Path::join`: an absolute path takes the place of the directory. -/
def pathResolve (directory path : String) : String :=
  if startsWith path "/" then path else pathJoin directory path

/-- Two paths of the same components. -/
def samePath (a b : String) : Bool :=
  startsWith a "/" == startsWith b "/" && pathComponents a == pathComponents b

@[simp] theorem samePath_self (path : String) : samePath path path = true := by simp [samePath]

end StorageManager.Executor.Swap
