import StorageManager.Executor.JournalStore

/-!
# The journal directory

Every journal has a final name; a staging name holds a record before it is published, or
the record it displaced; a history name keeps a displaced record for good. The two
writers, the loader, and the two readers of the whole directory.
-/

namespace StorageManager.Executor.JournalStore

open Lib.Checks (refuse)
open Lib.Directory
open Lib.Effects
open Lib.Json (toJson toBytes)
open Lib.RecordFile (Env)
open Planner.ExecutionGuard

set_option autoImplicit false

section Names

/-- `str::strip_prefix`. -/
def stripPrefix (start value : String) : Option String :=
  if start.toList.isPrefixOf value.toList then
    some (String.ofList (value.toList.drop start.length))
  else none

/-- `str::strip_suffix`. -/
def stripSuffix (stop value : String) : Option String :=
  if stop.toList.isSuffixOf value.toList then
    some (String.ofList (value.toList.take (value.length - stop.length)))
  else none

def splitOnceChars (sep : List Char) : List Char → Option (List Char × List Char)
  | [] => if sep = [] then some ([], []) else none
  | c :: cs =>
    if sep.isPrefixOf (c :: cs) then some ([], (c :: cs).drop sep.length)
    else (splitOnceChars sep cs).map fun parts => (c :: parts.1, parts.2)

/-- `str::split_once`: at the first place where the separator stands. -/
def splitOnce (sep value : String) : Option (String × String) :=
  (splitOnceChars sep.toList value.toList).map fun parts =>
    (String.ofList parts.1, String.ofList parts.2)

/-- A decimal number without leading zeros, below 2^64. -/
def canonicalNumber (value : String) : Option Nat :=
  if value = "" ∨ ¬value.toList.all Char.isDigit ∨ (1 < value.length ∧ value.front = '0') then none
  else
    let n := value.toList.foldl (fun n c => 10 * n + (c.toNat - '0'.toNat)) 0
    if n < 2 ^ 64 then some n else none

/-- The journal whose staging name this is. -/
def stagingJournalId (name : String) : Option String := do
  let (id, suffix) ← splitOnce ".tmp-" (← stripPrefix "." name)
  if ¬isLowerHexDigest id then none
  let (pid, sequence) ← splitOnce "-" suffix
  let _ ← canonicalNumber pid
  let _ ← canonicalNumber sequence
  if pid = "0" then none
  some id

/-- The journal, the number of events and the digest that a history name tells. -/
def historyIdentity (name : String) : Option (String × Nat × String) := do
  let (id, rest) ← splitOnce ".history-" (← stripPrefix "." name)
  if ¬isLowerHexDigest id then none
  let (sequence, digest) ← splitOnce "-" rest
  let sequence ← canonicalNumber sequence
  if ¬isLowerHexDigest digest then none
  some (id, sequence, digest)

def finalName (journalId : String) : OsString := .text (journalId ++ ".json")

def stagingName (journalId : String) (pid sequence : Nat) : OsString :=
  .text s!".{journalId}.tmp-{pid}-{sequence}"

def historyName (journalId : String) (events : Nat) (digest : String) : OsString :=
  .text s!".{journalId}.history-{events}-{digest}"

end Names

def maxJournalBytes : Nat := 1024 * 1024

/-- The process, and what the other runtime stores hold. -/
inductive StoreOp where
  | geteuid
  | processId
  | nextSequence
  | unclassifiedRuntimeEvidence

@[reducible] def storeEnv : Env where
  Op := StoreOp
  Ans
    | .geteuid => Nat
    | .processId => Nat
    | .nextSequence => Nat
    | .unclassifiedRuntimeEvidence => Except JournalStoreError (List String)

abbrev StoreProc (μ : Type) := DirProc storeEnv μ JournalStoreError

variable {μ α : Type}

def host (op : StoreOp) : StoreProc μ (storeEnv.Ans op) := ask (E := storeEnv) op

def storeFault (name : Option OsString) : Fault → JournalStoreError
  | .unsafeDirectory => .unsafeDirectory
  | .changed => .changedDuringInspection
  | fault => .io name fault

/-- A check of the directory. -/
def check (c : Check) : StoreProc μ Unit := onDir (storeFault none) (.check c)

/-- `JournalDir::open_file`. -/
def openFile (name : OsString) : StoreProc μ Node := do
  let node ← onDir (storeFault (some name)) (.openFile name)
  Proc.lift (refuse (¬node.regular) (.notRegularFile name))
  pure node

def fstat (name : OsString) (file : Node) : StoreProc μ Node :=
  onDir (storeFault (some name)) (.fstat file)

def names : StoreProc μ (List OsString) := onDir (storeFault none) .names

/-- `open_file` where any failure means that the directory changed. -/
def reopen (name : OsString) : StoreProc μ Node := do
  let live ← (openFile name).mapError fun _ => .changedDuringInspection
  fstat name live

def trustedJournalFile (metadata : Node) (euid links : Nat) : Bool :=
  metadata.regular && metadata.uid == euid && metadata.mode % 0o10000 == 0o600 &&
    metadata.nlink == links

def requireTrusted (name : OsString) (metadata : Node) (links : Nat) : StoreProc μ Unit := do
  let euid ← host .geteuid
  Proc.lift (refuse (¬trustedJournalFile metadata euid links) (.notRegularFile name))

def openFault (name : OsString) (journalId : String) : JournalStoreError → JournalStoreError
  | .io _ .notFound => .notFound journalId
  | .io _ .loop => .notRegularFile name
  | e => e

section Store

variable [Fingerprint] (fromSlice : FromSlice)

def journalContentDigest (journal : OperationJournal) : String := fingerprint (toJson journal)

def historyMatchesFinal (history final : OperationJournal) : Bool :=
  history.journalId == final.journalId && history.planId == final.planId &&
    history.target == final.target &&
    history.baselineManifestDigest == final.baselineManifestDigest &&
    (history.approval.isNone || history.approval == final.approval) &&
    (history.execution.isNone || history.execution == final.execution) &&
    history.events.isPrefixOf final.events && decide (history.events.length < final.events.length)

def loadPinnedJournal (name : OsString) (journalId : String) (allowedLinks : Nat) :
    StoreProc μ (OperationJournal × Node) := do
  Proc.lift (validateJournalId journalId)
  let file ← (openFile name).mapError (openFault name journalId)
  let metadata ← fstat name file
  requireTrusted name metadata allowedLinks
  Proc.lift (refuse (maxJournalBytes < metadata.bytes.length) .tooLarge)
  let bytes ← onDir (storeFault (some name)) (.read file (maxJournalBytes + 1))
  Proc.lift (refuse (maxJournalBytes < bytes.length) .tooLarge)
  let after ← fstat name file
  let live ← reopen name
  Proc.lift (refuse (¬metadata.sameVersion after ∨ ¬after.sameVersion live)
    .changedDuringInspection)
  let journal ← Proc.lift (decodeJournal fromSlice bytes journalId)
  pure (journal, after)

/-- A staging name and the final name that are one file. -/
def loadLinkedFromDir (stagedName : OsString) (journalId : String) :
    StoreProc μ (OperationJournal × Node) := do
  let (staged, stagedMetadata) ← loadPinnedJournal fromSlice stagedName journalId 2
  let (final, finalMetadata) ← loadPinnedJournal fromSlice (finalName journalId) journalId 2
  Proc.lift (refuse (staged ≠ final ∨ ¬stagedMetadata.sameVersion finalMetadata)
    .changedDuringInspection)
  pure (staged, stagedMetadata)

/-- The open files must still be what their names show. -/
def requireUnmoved : List (OsString × Node) → StoreProc μ Unit
  | [] => pure ()
  | (name, metadata) :: pinned => do
    let held ← fstat name metadata
    let live ← reopen name
    Proc.lift (refuse (¬metadata.sameVersion held ∨ ¬held.sameVersion live)
      .changedDuringInspection)
    requireUnmoved pinned

/-- What ends both readers: nothing may have changed since the names were read. -/
def requireStatic (initialNames : List OsString) (pinned : List (OsString × Node)) :
    StoreProc μ Unit := do
  let live ← names
  Proc.lift (refuse (initialNames ≠ live) .changedDuringInspection)
  requireUnmoved pinned
  check .liveNamespace
  check .unchanged

/-- What `all` has read so far. -/
structure Inventory where
  journals : List OperationJournal
  history : List OperationJournal
  pinned : List (OsString × Node)

/-- One turn of the loop of `all`. -/
def readEntry (name : OsString) (read : Inventory) : StoreProc μ Inventory :=
  match name.toStr? with
  | none => Proc.throw (.invalidRecord "non-UTF-8 journal directory entry")
  | some text =>
    match historyIdentity text with
    | some (id, sequence, digest) => do
      let (journal, metadata) ← loadPinnedJournal fromSlice name id 1
      Proc.lift (refuse (journal.events.length ≠ sequence ∨ journalContentDigest journal ≠ digest)
        (.invalidRecord "journal history does not match its name"))
      pure { read with
        history := read.history ++ [journal]
        pinned := read.pinned ++ [(name, metadata)] }
    | none =>
      match stripSuffix ".json" text with
      | none => Proc.throw (.invalidRecord s!"unexpected journal directory entry: {text}")
      | some id => do
        let (journal, metadata) ← loadPinnedJournal fromSlice name id 1
        pure { read with
          journals := read.journals ++ [journal]
          pinned := read.pinned ++ [(name, metadata)] }

def readEntries : List OsString → Inventory → StoreProc μ Inventory
  | [], read => pure read
  | name :: names, read => do
    let read ← readEntry fromSlice name read
    readEntries names read

/-- Every history record must lead to the current record of its journal. -/
def checkHistory (journals : List OperationJournal) :
    List OperationJournal → Except JournalStoreError Unit
  | [] => .ok ()
  | previous :: history =>
    match journals.find? (·.journalId == previous.journalId) with
    | none => .error (.invalidRecord "journal history has no current record")
    | some current => do
      refuse (¬historyMatchesFinal previous current)
        (.invalidRecord "journal history does not match the current record")
      checkHistory journals history

def sortJournals (journals : List OperationJournal) : List OperationJournal :=
  journals.mergeSort fun a b => decide (a.journalId ≤ b.journalId)

/-- Every journal of the directory; anything unexpected is an error. -/
def all : StoreProc μ (List OperationJournal) := do
  check .openDirectory
  check .watch
  let initialNames ← names
  let read ← readEntries fromSlice initialNames ⟨[], [], []⟩
  requireStatic initialNames read.pinned
  Proc.lift (checkHistory read.journals read.history)
  pure (sortJournals read.journals)

/-- Where the source keeps the text of an error, the error itself is kept. -/
inductive Problem where
  | error (source : JournalStoreError)
  | text (message : String)
  deriving DecidableEq

structure UnclassifiedJournalEvidence where
  path : OsString
  identity : Option (Nat × Nat)
  verifiedDuplicateLink : Bool
  stagedJournal : Option OperationJournal
  problem : Option Problem

structure JournalInspection where
  unfinished : List OperationJournal
  unclassified : List UnclassifiedJournalEvidence

def diagnosticEntry (path : OsString) (stagedJournal : Option OperationJournal)
    (problem : Option Problem) (verifiedDuplicateLink : Bool) (identity : Option (Nat × Nat)) :
    UnclassifiedJournalEvidence :=
  { path, identity, verifiedDuplicateLink, stagedJournal, problem }

def isUnfinished (journal : OperationJournal) : Bool :=
  !(journal.phase == .completed || journal.phase == .aborted)

/-- What `inspect` has read so far. -/
structure Findings where
  result : JournalInspection
  pinned : List (OsString × Node)
  primaries : List OperationJournal
  history : List (OsString × OperationJournal × (Nat × Nat))

def Findings.report (f : Findings) (e : UnclassifiedJournalEvidence) : Findings :=
  { f with result := { f.result with unclassified := f.result.unclassified ++ [e] } }

/-- A failure is reported, unless the directory changed. -/
def Findings.orReport (f : Findings) (name : OsString) : JournalStoreError → StoreProc μ Findings
  | .changedDuringInspection => Proc.throw .changedDuringInspection
  | e => pure (f.report (diagnosticEntry name none (some (.error e)) false none))

def inspectHistory (name : OsString) (id : String) (sequence : Nat) (digest : String)
    (f : Findings) : StoreProc μ Findings := do
  match ← (loadPinnedJournal fromSlice name id 1).attempt with
  | .error e => f.orReport name e
  | .ok (journal, metadata) =>
    let f := { f with pinned := f.pinned ++ [(name, metadata)] }
    if journal.events.length ≠ sequence ∨ journalContentDigest journal ≠ digest then
      pure (f.report (diagnosticEntry name none
        (some (.text "journal history does not match its name")) false (some metadata.identity)))
    else pure { f with history := f.history ++ [(name, journal, metadata.identity)] }

def inspectPrimary (name : OsString) (id : String) (f : Findings) : StoreProc μ Findings := do
  match ← (loadPinnedJournal fromSlice name id 1).attempt with
  | .error e => f.orReport name e
  | .ok (journal, metadata) =>
    let unfinished := if isUnfinished journal then [journal] else []
    pure { f with
      pinned := f.pinned ++ [(name, metadata)]
      primaries := f.primaries ++ [journal]
      result := { f.result with unfinished := f.result.unfinished ++ unfinished } }

/-- A staging name, alone or linked to its final name. -/
def loadStaged (name : OsString) (id : String) :
    StoreProc μ (Except JournalStoreError (OperationJournal × Node × Bool)) := do
  match ← (loadPinnedJournal fromSlice name id 1).attempt with
  | .ok (journal, metadata) => pure (.ok (journal, metadata, false))
  | .error primary =>
    match ← (loadLinkedFromDir fromSlice name id).attempt with
    | .ok (journal, metadata) => pure (.ok (journal, metadata, true))
    | .error (_ : JournalStoreError) => pure (.error primary)

def inspectOther (name : OsString) (f : Findings) : StoreProc μ Findings :=
  match name.toStr?.bind stagingJournalId with
  | none => pure (f.report (diagnosticEntry name none
      (some (.text "unrecognized journal directory entry")) false none))
  | some id => do
    match ← loadStaged fromSlice name id with
    | .error e => f.orReport name e
    | .ok (journal, metadata, duplicate) =>
      let f := { f with pinned := f.pinned ++ [(name, metadata)] }
      pure (f.report (diagnosticEntry name (some journal) none duplicate (some metadata.identity)))

/-- One turn of the loop of `inspect`. -/
def inspectEntry (name : OsString) (f : Findings) : StoreProc μ Findings :=
  match name.toStr?.bind historyIdentity with
  | some (id, sequence, digest) => inspectHistory fromSlice name id sequence digest f
  | none =>
    match name.toStr?.bind (stripSuffix ".json") with
    | some id => inspectPrimary fromSlice name id f
    | none => inspectOther fromSlice name f

def inspectEntries : List OsString → Findings → StoreProc μ Findings
  | [], f => pure f
  | name :: names, f => do
    let f ← inspectEntry fromSlice name f
    inspectEntries names f

/-- The history records that lead to no current record. -/
def orphans (primaries : List OperationJournal) (history : List (OsString × OperationJournal × (Nat × Nat))) :
    List UnclassifiedJournalEvidence :=
  (history.filter fun h => !primaries.any (historyMatchesFinal h.2.1)).map fun h =>
    diagnosticEntry h.1 none (some (.text "journal history does not match a current record")) false
      (some h.2.2)

/-- The read-only inventory: every unusual entry is reported. -/
def inspect : StoreProc μ JournalInspection := do
  check .openDirectory
  check .watch
  let initialNames ← names
  let f ← inspectEntries fromSlice initialNames ⟨⟨[], []⟩, [], [], []⟩
  requireStatic initialNames f.pinned
  let unclassified := f.result.unclassified ++ orphans f.primaries f.history
  pure { unfinished := sortJournals f.result.unfinished
         unclassified := unclassified.mergeSort fun a b => decide (a.path.bytes ≤ b.path.bytes) }

/-- `path_for`, as the name in the directory. -/
def pathFor (journalId : String) : Except JournalStoreError OsString := do
  validateJournalId journalId
  .ok (finalName journalId)

/-- `temp_path`: named after the process and its running number. -/
def tempPath (journalId : String) : StoreProc μ OsString := do
  let sequence ← host .nextSequence
  let pid ← host .processId
  pure (stagingName journalId pid sequence)

/-- `write_staged_file`: the file is made by this process and filled by its writer. A
failure leaves what is there. -/
def writeStagedFile (name : OsString) (bytes : List UInt8) : StoreProc μ Node := do
  let fault := storeFault (some name)
  onDir fault (.check .writer)
  onDir fault (.createNew name)
  let pinned ← onDir fault (.write name bytes)
  let live ← reopen name
  Proc.lift (refuse (pinned.identity ≠ live.identity) .changedDuringInspection)
  pure pinned

/-- The bytes to be staged. The line end is not counted. -/
def serializeJournal (journal : OperationJournal) : Except JournalStoreError (List UInt8) := do
  let bytes := toBytes (toJson journal)
  refuse (maxJournalBytes < bytes.length) .tooLarge
  .ok (bytes ++ [10])

def publishFault (journalId : String) : JournalStoreError → JournalStoreError
  | .io _ .alreadyExists => .alreadyExists journalId
  | e => e

def publishNew (first second : OsString) : StoreProc μ Unit :=
  onDir (storeFault none) (.publishNew first second)

/-- The first record of a journal. -/
def persistNew (journal : OperationJournal) : StoreProc μ Unit := do
  Proc.lift (validateJournal journal)
  check (.prepareDirectory true)
  check .openDirectory
  let bytes ← Proc.lift (serializeJournal journal)
  let finalName ← Proc.lift (pathFor journal.journalId)
  let tempName ← tempPath journal.journalId
  let file ← writeStagedFile tempName bytes
  let created ← fstat tempName file
  requireTrusted tempName created 1
  check .sync
  check .liveNamespace
  (publishNew tempName finalName).mapError (publishFault journal.journalId)
  let (published, opened) ← loadPinnedJournal fromSlice finalName journal.journalId 1
  let publishedIdentity ← fstat finalName opened
  Proc.lift (refuse (published ≠ journal ∨ created.identity ≠ publishedIdentity.identity)
    .changedDuringInspection)
  check .sync
  check .liveNamespace

/-- The new record continues the history of the one before it. -/
def extendsExactly (expected journal : OperationJournal) : Bool :=
  expected.journalId == journal.journalId && expected.planId == journal.planId &&
    expected.target == journal.target &&
    expected.baselineManifestDigest == journal.baselineManifestDigest &&
    expected.events.isPrefixOf journal.events &&
    decide (expected.events.length < journal.events.length)

/-- Exchange the staged record with the current one, which must not have changed. -/
def exchangeStaged (finalName tempName : OsString) (oldMetadata : Node) : StoreProc μ Unit := do
  check .sync
  check .watch
  check .unchanged
  check .liveNamespace
  let currentOld ← fstat finalName oldMetadata
  let liveOld ← reopen finalName
  Proc.lift (refuse (¬oldMetadata.sameVersion currentOld ∨ ¬currentOld.sameVersion liveOld)
    .changedDuringInspection)
  onDir (storeFault none) (.exchange tempName finalName)
  check .watch

/-- After the exchange both names must hold their records, as the very files they were. -/
def requireExchanged (expected journal : OperationJournal) (finalName tempName : OsString)
    (oldMetadata stagedMetadata : Node) : StoreProc μ Unit := do
  let (displaced, displacedFile) ← loadPinnedJournal fromSlice tempName journal.journalId 1
  let displacedMetadata ← fstat tempName displacedFile
  let (published, publishedFile) ← loadPinnedJournal fromSlice finalName journal.journalId 1
  let publishedMetadata ← fstat finalName publishedFile
  Proc.lift (refuse (displaced ≠ expected ∨ published ≠ journal ∨
      displacedMetadata.identity ≠ oldMetadata.identity ∨
      publishedMetadata.identity ≠ stagedMetadata.identity) .changedDuringInspection)
  check .sync
  check .liveNamespace
  let retained ← reopen tempName
  Proc.lift (refuse (retained.identity ≠ oldMetadata.identity) .changedDuringInspection)
  (requireTrusted tempName retained 1).mapError fun _ => .changedDuringInspection
  let finalLive ← reopen finalName
  Proc.lift (refuse (finalLive.identity ≠ stagedMetadata.identity) .changedDuringInspection)
  (requireTrusted finalName finalLive 1).mapError fun _ => .changedDuringInspection
  check .unchanged

/-- The displaced record is kept under its history name. -/
def retainDisplaced (expected journal : OperationJournal) (finalName tempName : OsString)
    (oldMetadata stagedMetadata : Node) : StoreProc μ Unit := do
  let history := historyName journal.journalId expected.events.length
    (journalContentDigest expected)
  publishNew tempName history
  check .sync
  check .liveNamespace
  let (archived, archivedFile) ← loadPinnedJournal fromSlice history journal.journalId 1
  let archivedMetadata ← fstat history archivedFile
  let (final, finalFile) ← loadPinnedJournal fromSlice finalName journal.journalId 1
  let finalMetadata ← fstat finalName finalFile
  Proc.lift (refuse (archived ≠ expected ∨ final ≠ journal ∨
      archivedMetadata.identity ≠ oldMetadata.identity ∨
      finalMetadata.identity ≠ stagedMetadata.identity) .changedDuringInspection)

/-- Replace a record, only when the exact previous one is still there. -/
def persistIfMatches (expected journal : OperationJournal) : StoreProc μ Unit := do
  Proc.lift (validateJournal expected)
  Proc.lift (validateJournal journal)
  Proc.lift (refuse (¬extendsExactly expected journal)
    (.invalidRecord "journal update does not extend the exact prior history"))
  check .openDirectory
  let finalName ← Proc.lift (pathFor journal.journalId)
  let tempName ← tempPath journal.journalId
  let (current, oldMetadata) ← loadPinnedJournal fromSlice finalName journal.journalId 1
  Proc.lift (refuse (current ≠ expected) .changedDuringInspection)
  let bytes ← Proc.lift (serializeJournal journal)
  let staged ← writeStagedFile tempName bytes
  let stagedMetadata ← fstat tempName staged
  requireTrusted tempName stagedMetadata 1
  exchangeStaged finalName tempName oldMetadata
  requireExchanged fromSlice expected journal finalName tempName oldMetadata stagedMetadata
  retainDisplaced fromSlice expected journal finalName tempName oldMetadata stagedMetadata

def load (journalId : String) : StoreProc μ OperationJournal := do
  Proc.lift (validateJournalId journalId)
  check (.prepareDirectory false)
  let name ← Proc.lift (pathFor journalId)
  check .openDirectory
  let (journal, _) ← loadPinnedJournal fromSlice name journalId 1
  check .liveNamespace
  pure journal

/-- An existing journal is only ever extended. -/
def persist (journal : OperationJournal) : StoreProc μ Unit := do
  let previous ← load fromSlice journal.journalId
  if previous = journal then do
    let _ ← Proc.lift (pathFor journal.journalId)
  else persistIfMatches fromSlice previous journal

end Store

end StorageManager.Executor.JournalStore
