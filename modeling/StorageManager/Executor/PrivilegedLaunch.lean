import StorageManager.Executor.LockedSession
import StorageManager.Executor.PrivilegedArgv

/-!
# The launch of a privileged command

The executables of a command are opened and pinned, the launch is frozen on the open files, and
a permit is sealed over it. No process is created here.
-/

namespace StorageManager.Executor

open Lib.Checks
open Lib.Json (Value ToJson toJson)

set_option autoImplicit false

section Records

instance : ToJson PrivilegedKernelRefreshSpec where
  toJson r := .obj [("program", toJson r.program), ("args", toJson r.args)]

instance : ToJson PrivilegedCommandSpec where
  toJson c := .obj [("plan_step_id", toJson c.planStepId), ("program", toJson c.program),
    ("args", toJson c.args), ("stdin_payload", toJson c.stdinPayload),
    ("kernel_refresh", toJson c.kernelRefresh)]

structure PrivilegedToolResolution where
  commandDigest : String
  primary : TrustedToolIdentity
  kernelRefresh : Option TrustedToolIdentity
  deriving DecidableEq

instance : ToJson PrivilegedToolResolution where
  toJson t := .obj [("command_digest", toJson t.commandDigest), ("primary", toJson t.primary),
    ("kernel_refresh", toJson t.kernelRefresh)]

structure PinnedToolReceipt where
  program : PrivilegedProgram
  canonicalPath : String
  deviceId : Nat
  inode : Nat
  uid : Nat
  mode : Nat
  sizeBytes : Nat
  sha256 : String
  deriving DecidableEq

instance : ToJson PinnedToolReceipt where
  toJson p := .obj [("program", toJson p.program), ("canonical_path", toJson p.canonicalPath),
    ("device_id", toJson p.deviceId), ("inode", toJson p.inode), ("uid", toJson p.uid),
    ("mode", toJson p.mode), ("size_bytes", toJson p.sizeBytes), ("sha256", toJson p.sha256)]

/-- The receipts of the executables and the open files they are about. -/
structure PinnedPrivilegedTools (τ : Type) where
  schemaVersion : Nat
  pinId : String
  authorizationId : String
  planStepId : Nat
  commandDigest : String
  toolResolutionDigest : String
  primary : PinnedToolReceipt
  kernelRefresh : Option PinnedToolReceipt
  primaryFile : τ
  kernelRefreshFile : Option τ

structure DescriptorLaunchStage where
  program : PrivilegedProgram
  argv : List String
  executable : PinnedToolReceipt
  elf : ElfExecutionIdentity
  deriving DecidableEq

instance : ToJson DescriptorLaunchStage where
  toJson s := .obj [("program", toJson s.program), ("argv", toJson s.argv),
    ("executable", toJson s.executable), ("elf", toJson s.elf)]

structure PrivilegedDescriptorLaunchSpec where
  schemaVersion : Nat
  launchId : String
  pinId : String
  authorizationId : String
  planStepId : Nat
  commandDigest : String
  primary : DescriptorLaunchStage
  kernelRefresh : Option DescriptorLaunchStage
  stdinLen : Nat
  stdinSha256 : Option String
  fixedPath : String
  fixedLocale : String
  descriptorExecApi : String
  processSpawned : Bool
  deriving DecidableEq

structure PrivilegedSpawnAuthorization where
  schemaVersion : Nat
  authorizationId : String
  executionId : String
  preparedId : String
  executionStartReceiptId : String
  planStepId : Nat
  commandDigest : String
  toolResolutionDigest : String
  deriving DecidableEq

structure PrivilegedExecutionStartReceipt where
  schemaVersion : Nat
  receiptId : String
  executionId : String
  preparedId : String
  journalId : String
  firstPlanStepId : Nat
  executingJournalDigest : String
  deriving DecidableEq

structure PrivilegedContinuationStartReceipt where
  schemaVersion : Nat
  receiptId : String
  executionId : String
  verifiedBoundaryId : String
  preparedId : String
  journalId : String
  planStepId : Nat
  liveIdentityDigest : String
  executingJournalDigest : String
  deriving DecidableEq

structure PrivilegedLaunchPermit where
  schemaVersion : Nat
  permitId : String
  executionId : String
  executionStartReceiptId : String
  authorizationId : String
  launchId : String
  planStepId : Nat
  commandDigest : String
  mutationEnabled : Bool
  processSpawned : Bool
  deriving DecidableEq

variable [Fingerprint] {τ : Type}

def PrivilegedCommandSpec.digest (c : PrivilegedCommandSpec) : String := fingerprint (toJson c)

def PrivilegedToolResolution.digest (t : PrivilegedToolResolution) : String :=
  fingerprint (toJson t)

def PinnedPrivilegedTools.expectedPinId (p : PinnedPrivilegedTools τ) : String :=
  fingerprint (.arr [toJson p.schemaVersion, toJson p.authorizationId, toJson p.planStepId,
    toJson p.commandDigest, toJson p.toolResolutionDigest, toJson p.primary,
    toJson p.kernelRefresh])

def PinnedPrivilegedTools.integrityMatches (p : PinnedPrivilegedTools τ) : Bool :=
  p.pinId == p.expectedPinId

def PrivilegedDescriptorLaunchSpec.expectedLaunchId (l : PrivilegedDescriptorLaunchSpec) : String :=
  fingerprint (.arr [toJson l.schemaVersion, toJson l.pinId, toJson l.authorizationId,
    toJson l.planStepId, toJson l.commandDigest, toJson l.primary, toJson l.kernelRefresh,
    toJson l.stdinLen, toJson l.stdinSha256, toJson l.fixedPath, toJson l.fixedLocale,
    toJson l.descriptorExecApi, toJson l.processSpawned])

def PrivilegedDescriptorLaunchSpec.integrityMatches (l : PrivilegedDescriptorLaunchSpec) : Bool :=
  l.launchId == l.expectedLaunchId

def PrivilegedSpawnAuthorization.expectedAuthorizationId (a : PrivilegedSpawnAuthorization) :
    String :=
  fingerprint (.arr [toJson a.schemaVersion, toJson a.executionId, toJson a.preparedId,
    toJson a.executionStartReceiptId, toJson a.planStepId, toJson a.commandDigest,
    toJson a.toolResolutionDigest])

def PrivilegedSpawnAuthorization.integrityMatches (a : PrivilegedSpawnAuthorization) : Bool :=
  a.authorizationId == a.expectedAuthorizationId

def PrivilegedExecutionStartReceipt.expectedReceiptId (r : PrivilegedExecutionStartReceipt) :
    String :=
  fingerprint (.arr [toJson r.schemaVersion, toJson r.executionId, toJson r.preparedId,
    toJson r.journalId, toJson r.firstPlanStepId, toJson r.executingJournalDigest])

def PrivilegedExecutionStartReceipt.integrityMatches (r : PrivilegedExecutionStartReceipt) : Bool :=
  r.receiptId == r.expectedReceiptId

def PrivilegedContinuationStartReceipt.expectedReceiptId
    (r : PrivilegedContinuationStartReceipt) : String :=
  fingerprint (.arr [toJson r.schemaVersion, toJson r.executionId, toJson r.verifiedBoundaryId,
    toJson r.preparedId, toJson r.journalId, toJson r.planStepId, toJson r.liveIdentityDigest,
    toJson r.executingJournalDigest])

def PrivilegedContinuationStartReceipt.integrityMatches
    (r : PrivilegedContinuationStartReceipt) : Bool :=
  r.receiptId == r.expectedReceiptId

def PrivilegedLaunchPermit.expectedPermitId (p : PrivilegedLaunchPermit) : String :=
  fingerprint (.arr [toJson p.schemaVersion, toJson p.executionId,
    toJson p.executionStartReceiptId, toJson p.authorizationId, toJson p.launchId,
    toJson p.planStepId, toJson p.commandDigest, toJson p.mutationEnabled,
    toJson p.processSpawned])

def PrivilegedLaunchPermit.integrityMatches (p : PrivilegedLaunchPermit) : Bool :=
  p.permitId == p.expectedPermitId

end Records

section Pin

inductive PrivilegedToolPinError where
  | authorizationIntegrityMismatch
  | authorizationCommandMismatch
  | unsafeExpectedIdentity
  | pinnedExecutableMismatch
  | io (source : String)
  deriving DecidableEq

structure ToolMetadata where
  isFile : Bool
  deviceId : Nat
  inode : Nat
  uid : Nat
  mode : Nat
  sizeBytes : Nat

/-- What the system answers about executables and the files opened on them. -/
structure ToolFiles (τ : Type) where
  openTool : String → Except String τ
  metadata : τ → Except String ToolMetadata
  contentSha256 : τ → Except String String
  /-- The first sixteen bytes. -/
  ident : τ → Except String (List UInt8)

variable {τ : Type}

def receiptFromOpenFile (files : ToolFiles τ) (file : τ) (expected : TrustedToolIdentity) :
    Except PrivilegedToolPinError PinnedToolReceipt := do
  let metadata ← (files.metadata file).mapError .io
  let sha256 ← (files.contentSha256 file).mapError .io
  refuse (¬metadata.isFile ∨ metadata.deviceId ≠ expected.deviceId ∨
    metadata.inode ≠ expected.inode ∨ metadata.uid ≠ expected.uid ∨
    metadata.mode ≠ expected.mode ∨ metadata.sizeBytes ≠ expected.sizeBytes ∨
    sha256 ≠ expected.sha256) .pinnedExecutableMismatch
  pure
    { program := expected.program
      canonicalPath := expected.canonicalPath
      deviceId := metadata.deviceId
      inode := metadata.inode
      uid := metadata.uid
      mode := metadata.mode
      sizeBytes := metadata.sizeBytes
      sha256 := sha256 }

def pinTrustedTool (files : ToolFiles τ) (expected : TrustedToolIdentity) :
    Except PrivilegedToolPinError (τ × PinnedToolReceipt) := do
  refuse (expected.uid ≠ 0 ∨ expected.mode &&& 0o111 = 0 ∨ expected.mode &&& 0o022 ≠ 0 ∨
    ¬startsWith expected.canonicalPath "/") .unsafeExpectedIdentity
  let file ← (files.openTool expected.canonicalPath).mapError .io
  let receipt ← receiptFromOpenFile files file expected
  pure (file, receipt)

/-- The tool of the refresh, where there is one. -/
def pinOptionalTool (files : ToolFiles τ) :
    Option TrustedToolIdentity → Except PrivilegedToolPinError (Option (τ × PinnedToolReceipt))
  | some identity => do
    let tool ← pinTrustedTool files identity
    pure (some tool)
  | none => .ok none

variable [Fingerprint]

def PinnedPrivilegedTools.sealed (p : PinnedPrivilegedTools τ) : PinnedPrivilegedTools τ :=
  { p with pinId := p.expectedPinId }

def pinResolvedTools (files : ToolFiles τ) (authorization : PrivilegedSpawnAuthorization)
    (command : PrivilegedCommandSpec) (tools : PrivilegedToolResolution) :
    Except PrivilegedToolPinError (PinnedPrivilegedTools τ) := do
  refuse (¬authorization.integrityMatches) .authorizationIntegrityMismatch
  refuse (authorization.planStepId ≠ command.planStepId ∨
    authorization.commandDigest ≠ command.digest ∨ tools.commandDigest ≠ command.digest ∨
    tools.digest ≠ authorization.toolResolutionDigest) .authorizationCommandMismatch
  let (primaryFile, primary) ← pinTrustedTool files tools.primary
  let kernelRefresh ← pinOptionalTool files tools.kernelRefresh
  pure (PinnedPrivilegedTools.sealed
    { schemaVersion := 1
      pinId := ""
      authorizationId := authorization.authorizationId
      planStepId := command.planStepId
      commandDigest := command.digest
      toolResolutionDigest := authorization.toolResolutionDigest
      primary := primary
      kernelRefresh := kernelRefresh.map Prod.snd
      primaryFile := primaryFile
      kernelRefreshFile := kernelRefresh.map Prod.fst })

end Pin

namespace PrivilegedLaunch

inductive PrivilegedLaunchSpecError where
  | pinIntegrityMismatch
  | pinCommandMismatch
  | pinnedDescriptorClosed
  | kernelRefreshPresenceMismatch
  | unsupportedExecutableFormat
  | embeddedNul
  | io (source : String)
  deriving DecidableEq

def fixedPath : String := "/usr/sbin:/usr/bin:/sbin:/bin"
def fixedLocale : String := "C"

variable {τ : Type}

/-- `file.metadata().is_ok()`. -/
def isOpen (files : ToolFiles τ) (file : τ) : Bool := (files.metadata file).isOk

def kernelRefreshIsOpen (files : ToolFiles τ) (pinned : PinnedPrivilegedTools τ) : Bool :=
  if pinned.kernelRefresh.isSome then pinned.kernelRefreshFile.any (isOpen files)
  else pinned.kernelRefreshFile.isNone

def elfClassOf : Option UInt8 → Except PrivilegedLaunchSpecError ElfClass
  | some 1 => .ok .elf32
  | some 2 => .ok .elf64
  | _ => .error .unsupportedExecutableFormat

def elfDataEncodingOf : Option UInt8 → Except PrivilegedLaunchSpecError ElfDataEncoding
  | some 1 => .ok .littleEndian
  | some 2 => .ok .bigEndian
  | _ => .error .unsupportedExecutableFormat

def inspectElf (files : ToolFiles τ) (file : τ) :
    Except PrivilegedLaunchSpecError ElfExecutionIdentity := do
  let ident ← (files.ident file).mapError .io
  refuse (ident.length ≠ 16 ∨ ident.take 4 ≠ [0x7f, 0x45, 0x4c, 0x46] ∨ ident[6]? ≠ some 1)
    .unsupportedExecutableFormat
  let elfClass ← elfClassOf ident[4]?
  let dataEncoding ← elfDataEncodingOf ident[5]?
  pure ⟨elfClass, dataEncoding, 1⟩

def validateText (value : String) : Except PrivilegedLaunchSpecError Unit :=
  refuse (value.toList.contains '\x00') .embeddedNul

def stage (files : ToolFiles τ) (program : PrivilegedProgram) (args : List String)
    (receipt : PinnedToolReceipt) (file : τ) :
    Except PrivilegedLaunchSpecError DescriptorLaunchStage := do
  refuse (receipt.program ≠ program ∨ ¬isOpen files file) .pinnedDescriptorClosed
  checkAll validateText args
  let elf ← inspectElf files file
  pure { program := program, argv := program.asStr :: args, executable := receipt, elf := elf }

/-- The stage of the refresh, where there is one. -/
def refreshStage (files : ToolFiles τ) (pinned : PinnedPrivilegedTools τ)
    (command : PrivilegedCommandSpec) :
    Except PrivilegedLaunchSpecError (Option DescriptorLaunchStage) :=
  match command.kernelRefresh, pinned.kernelRefresh, pinned.kernelRefreshFile with
  | some refresh, some receipt, some file => do
    let stage ← stage files refresh.program refresh.args receipt file
    pure (some stage)
  | none, none, none => .ok none
  | _, _, _ => .error .kernelRefreshPresenceMismatch

/-- The digest of the bytes on the standard input. -/
def stdinDigest (payload : String) : String :=
  Lib.Sha256.sha256Hex payload.toUTF8.data.toList

variable [Fingerprint]

/-- The launch with its id. -/
def sealed (launch : PrivilegedDescriptorLaunchSpec) : PrivilegedDescriptorLaunchSpec :=
  { launch with launchId := launch.expectedLaunchId }

def buildPrivilegedDescriptorLaunchSpec (files : ToolFiles τ) (pinned : PinnedPrivilegedTools τ)
    (command : PrivilegedCommandSpec) :
    Except PrivilegedLaunchSpecError PrivilegedDescriptorLaunchSpec := do
  refuse (¬pinned.integrityMatches) .pinIntegrityMismatch
  refuse (pinned.planStepId ≠ command.planStepId ∨ pinned.commandDigest ≠ command.digest)
    .pinCommandMismatch
  refuse (¬isOpen files pinned.primaryFile ∨ ¬kernelRefreshIsOpen files pinned)
    .pinnedDescriptorClosed
  let primary ← stage files command.program command.args pinned.primary pinned.primaryFile
  let kernelRefresh ← refreshStage files pinned command
  checkAll validateText command.stdinPayload.toList
  pure (sealed
    { schemaVersion := 1
      launchId := ""
      pinId := pinned.pinId
      authorizationId := pinned.authorizationId
      planStepId := command.planStepId
      commandDigest := command.digest
      primary := primary
      kernelRefresh := kernelRefresh
      stdinLen := (command.stdinPayload.map String.utf8ByteSize).getD 0
      stdinSha256 := command.stdinPayload.map stdinDigest
      fixedPath := fixedPath
      fixedLocale := fixedLocale
      descriptorExecApi := "fexecve"
      processSpawned := false })

end PrivilegedLaunch

section Permit

inductive PrivilegedLaunchPermitError where
  | mutationEnabled
  | executionStartIntegrityMismatch
  | continuationStartIntegrityMismatch
  | authorizationIntegrityMismatch
  | launchIntegrityMismatch
  | alreadySpawned
  | bindingMismatch
  deriving DecidableEq

variable [Fingerprint]

/-- What both seals do with the ids of a start receipt whose integrity `started` has checked. -/
def sealLaunchPermit (started : Except PrivilegedLaunchPermitError Unit)
    (executionId receiptId : String) (planStepId : Nat)
    (authorization : PrivilegedSpawnAuthorization) (launch : PrivilegedDescriptorLaunchSpec) :
    Except PrivilegedLaunchPermitError PrivilegedLaunchPermit := do
  refuse (JournalStore.mutationEnabled = true) .mutationEnabled
  started
  refuse (¬authorization.integrityMatches) .authorizationIntegrityMismatch
  refuse (¬launch.integrityMatches) .launchIntegrityMismatch
  refuse (launch.processSpawned = true) .alreadySpawned
  refuse (executionId ≠ authorization.executionId ∨
    receiptId ≠ authorization.executionStartReceiptId ∨ planStepId ≠ authorization.planStepId ∨
    authorization.authorizationId ≠ launch.authorizationId ∨
    authorization.planStepId ≠ launch.planStepId ∨
    authorization.commandDigest ≠ launch.commandDigest) .bindingMismatch
  let permit : PrivilegedLaunchPermit :=
    { schemaVersion := 1
      permitId := ""
      executionId := executionId
      executionStartReceiptId := receiptId
      authorizationId := authorization.authorizationId
      launchId := launch.launchId
      planStepId := launch.planStepId
      commandDigest := launch.commandDigest
      mutationEnabled := false
      processSpawned := false }
  pure { permit with permitId := permit.expectedPermitId }

def sealPrivilegedLaunchPermit (start : PrivilegedExecutionStartReceipt)
    (authorization : PrivilegedSpawnAuthorization) (launch : PrivilegedDescriptorLaunchSpec) :
    Except PrivilegedLaunchPermitError PrivilegedLaunchPermit :=
  sealLaunchPermit (refuse (¬start.integrityMatches) .executionStartIntegrityMismatch)
    start.executionId start.receiptId start.firstPlanStepId authorization launch

def sealPrivilegedContinuationLaunchPermit (start : PrivilegedContinuationStartReceipt)
    (authorization : PrivilegedSpawnAuthorization) (launch : PrivilegedDescriptorLaunchSpec) :
    Except PrivilegedLaunchPermitError PrivilegedLaunchPermit :=
  sealLaunchPermit (refuse (¬start.integrityMatches) .continuationStartIntegrityMismatch)
    start.executionId start.receiptId start.planStepId authorization launch

end Permit

end StorageManager.Executor
