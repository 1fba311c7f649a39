import StorageManager.Core.HostSnapshot
import StorageManager.Executor.SwapAuthorization
import StorageManager.Lib.Checks

/-!
# Before a swap replacement

The read-only evidence a replacement is preflighted with, and the launch specification
that freezes the arguments of its tools.
-/

namespace StorageManager.Executor.Swap

open StorageManager.Core
open Lib.Checks

set_option autoImplicit false

section Preflight

inductive ProductionSwapRuntimePreflightError where
  | resumeConfigured
  | retiringSwapChanged
  | persistentSwapChanged
  | destinationMountChanged
  | destinationCapacityChanged
  | swapfilePathOccupied
  deriving DecidableEq

/-- The single element of a list that satisfies the checks. -/
def exactlyOne {α : Type} (ok : α → Bool) : List α → Bool
  | [a] => ok a
  | _ => false

def validateRuntimeEvidence (activation : ProductionSwapReplacementActivationIntent)
    (snapshot : HostSnapshot) (resume : HibernationResumeEvidence) (space : FilesystemSpaceEvidence)
    (path : PathOccupancyEvidence) : Except ProductionSwapRuntimePreflightError Unit := do
  refuse resume.configured .resumeConfigured
  let swaps := snapshot.swaps.filter (·.name == activation.retiringSwapDevice)
  refuse (¬exactlyOne (fun e => e.kind == "partition" && e.sizeBytes != 0 &&
      decide (e.sizeBytes ≤ activation.retiringSwapBytes) &&
      e.priority == activation.retiringSwapPriority) swaps) .retiringSwapChanged
  let persistent := snapshot.fstab.filter fun e => e.fsType == "swap" &&
    e.source == activation.persistentSwapSource && e.target == activation.persistentSwapTarget
  refuse (¬exactlyOne (fun e => e.options == activation.persistentSwapOptions &&
      e.dump == activation.persistentSwapDump && e.pass == activation.persistentSwapPass)
    persistent) .persistentSwapChanged
  let mounts := snapshot.mounts.filter (·.target == activation.destinationMount)
  refuse (¬exactlyOne (fun m => m.fsType == some "ext4" && m.options.contains "rw" &&
      !m.options.contains "ro" && m.source != some activation.retiringSwapDevice) mounts)
    .destinationMountChanged
  refuse (space.path ≠ activation.destinationMount ∨
    space.availableBytes < activation.retiringSwapBytes) .destinationCapacityChanged
  refuse (path.path ≠ activation.swapfilePath ∨ path.present) .swapfilePathOccupied

end Preflight

section Launch

inductive ProductionSwapRuntimeLaunchError where
  | authorizationInvalid
  | bindingMismatch
  | toolLease (source : String)
  | programMismatch
  | embeddedNul
  | executable (source : String)
  deriving DecidableEq

def fixedPath : String := "/usr/sbin:/usr/bin:/sbin:/bin"
def fixedLocale : String := "C"

def validateText (value : String) : Except ProductionSwapRuntimeLaunchError Unit :=
  refuse (value.toList.contains '\x00') .embeddedNul

/-- `stage`, with what the inspection of the pinned file finds. -/
def launchStage (program : PrivilegedProgram) (args : List String)
    (identity : TrustedToolIdentity) (elf : Except String ElfExecutionIdentity) :
    Except ProductionSwapRuntimeLaunchError ProductionSwapRuntimeLaunchStage := do
  refuse (identity.program ≠ program) .programMismatch
  checkAll validateText args
  let elf ← elf.mapError .executable
  .ok { program := program, argv := program.asStr :: args, executable := identity, elf := elf }

def exactStageArgs (preflight : ProductionSwapRuntimePreflightReceipt) :
    List String × List String × List String :=
  (["--force", preflight.swapfilePath],
    ["--priority", toString preflight.retiringSwapPriority, preflight.swapfilePath],
    [preflight.retiringSwapDevice])

variable [Fingerprint]

def validateBindings (activation : ProductionSwapReplacementActivationIntent)
    (permit : ProductionSwapReplacementExecutionPermit)
    (preflight : ProductionSwapRuntimePreflightReceipt) :
    Except ProductionSwapRuntimeLaunchError Unit := do
  refuse (activation.schemaVersion ≠ 1 ∨ permit.schemaVersion ≠ 1 ∨ preflight.schemaVersion ≠ 1 ∨
      ¬activation.integrityMatches ∨ ¬permit.integrityMatches ∨ ¬preflight.integrityMatches ∨
      ¬activation.compileFeatureEnabled ∨ ¬permit.compileFeatureEnabled ∨
      ¬preflight.runtimeReady ∨ activation.executionEnabled ∨ permit.mutationEnabled ∨
      permit.processSpawned ∨ preflight.mutationEnabled ∨ preflight.processSpawned)
    .authorizationInvalid
  refuse (permit.activationId ≠ activation.activationId ∨
      preflight.activationId ≠ activation.activationId ∨
      preflight.executionPermitId ≠ permit.permitId ∨
      permit.swapReplacementIntentId ≠ activation.swapReplacementIntentId ∨
      preflight.swapReplacementIntentId ≠ activation.swapReplacementIntentId ∨
      permit.target ≠ activation.target ∨ preflight.target ≠ activation.target ∨
      permit.retiringSwapDevice ≠ activation.retiringSwapDevice ∨
      preflight.retiringSwapDevice ≠ activation.retiringSwapDevice ∨
      permit.retiringSwapBytes ≠ activation.retiringSwapBytes ∨
      preflight.retiringSwapBytes ≠ activation.retiringSwapBytes ∨
      permit.retiringSwapPriority ≠ activation.retiringSwapPriority ∨
      preflight.retiringSwapPriority ≠ activation.retiringSwapPriority ∨
      permit.swapfilePath ≠ activation.swapfilePath ∨
      preflight.swapfilePath ≠ activation.swapfilePath ∨
      permit.swapfileMode ≠ activation.swapfileMode ∨
      preflight.destinationMount ≠ activation.destinationMount ∨
      preflight.destinationAvailableBytes < activation.retiringSwapBytes)
    .bindingMismatch

/-- The launch specification, in a build that has the launch feature: `toolLease` is the
revalidation of the pinned tools, `elf` what their inspection finds. -/
def buildProductionSwapRuntimeLaunchSpec (activation : ProductionSwapReplacementActivationIntent)
    (permit : ProductionSwapReplacementExecutionPermit)
    (preflight : ProductionSwapRuntimePreflightReceipt) (toolLease : Except String Unit)
    (elf : PrivilegedProgram → Except String ElfExecutionIdentity) :
    Except ProductionSwapRuntimeLaunchError ProductionSwapRuntimeLaunchSpec := do
  validateBindings activation permit preflight
  toolLease.mapError .toolLease
  let (mkswapArgs, swaponArgs, swapoffArgs) := exactStageArgs preflight
  let mkswap ← launchStage .mkswap mkswapArgs preflight.mkswap (elf .mkswap)
  let swapon ← launchStage .swapon swaponArgs preflight.swapon (elf .swapon)
  let swapoff ← launchStage .swapoff swapoffArgs preflight.swapoff (elf .swapoff)
  let launch : ProductionSwapRuntimeLaunchSpec :=
    { schemaVersion := 1
      launchId := ""
      activationId := activation.activationId
      executionPermitId := permit.permitId
      preflightReceiptId := preflight.receiptId
      swapReplacementIntentId := activation.swapReplacementIntentId
      swapfile :=
        { path := activation.swapfilePath
          sizeBytes := activation.retiringSwapBytes
          mode := activation.swapfileMode
          createNew := true
          noFollow := true
          fullyAllocate := true }
      mkswap := mkswap
      swapon := swapon
      swapoff := swapoff
      fixedPath := fixedPath
      fixedLocale := fixedLocale
      descriptorExecApi := "fexecve"
      requireDualActiveVerificationBeforeSwapoff := true
      mutationEnabled := false
      processSpawned := false
      swapfileCreated := false }
  .ok { launch with launchId := launch.expectedLaunchId }

end Launch

end StorageManager.Executor.Swap
