import Mathlib.Data.List.DropRight
import StorageManager.Planner.CreateIntent
import StorageManager.Planner.FilesystemPolicy
import StorageManager.Planner.LayoutAlternatives

/-!
# The replacement of a tail swap partition

A swap partition at the end of a DOS disk can give way to a swapfile. The partition, the mount
that takes the swapfile and the vacancy of its path are proven apart; the intent joins them.
-/

namespace StorageManager.Planner.SwapMigration

open Core
open Extend (Blocker PlanStatus analyzeLayoutOpportunity blocked only)
open Lib.Json (Value ToJson toJson)
open Provisioning (pushBlocker)

set_option autoImplicit false

section Safety

inductive SwapMigrationSafetyStatus where
  | clearForPlanning
  | blocked
  deriving DecidableEq

structure SwapMigrationSafety where
  status : SwapMigrationSafetyStatus
  target : String
  disk : Option String
  swapDevice : Option String
  swapBytes : Option Nat
  activeSwapUsedBytes : Option Nat
  persistentSwapSource : Option String
  blockers : List Blocker
  futureChecks : List String
  deriving DecidableEq

def SwapMigrationSafety.isClearForPlanning (safety : SwapMigrationSafety) : Bool :=
  safety.status = .clearForPlanning

/-- What a safety proof adds to the blockers of what is built on it. -/
def SwapMigrationSafety.remaining (safety : SwapMigrationSafety) : List Blocker :=
  if safety.isClearForPlanning then [] else safety.blockers

def sourceMatchesDevice (source : String) (device : BlockDevice) : Bool :=
  device.path == some source || source == device.name ||
    device.uuid.any (fun uuid => source == s!"UUID={uuid}") ||
    device.partitionUuid.any (fun uuid => source == s!"PARTUUID={uuid}")

def resumeBlockers (resume : HibernationResumeEvidence) : List Blocker :=
  pushBlocker (resume.kernelResumeTargets ≠ []) "kernel-resume-target-configured"
      ("kernel command line contains resume=; swap migration is blocked until the resume " ++
        "target is explicitly reconciled") ++
    pushBlocker (resume.kernelResumeOffsets ≠ []) "kernel-resume-offset-configured"
      ("kernel command line contains resume_offset=; swapfile migration must not proceed " ++
        "without an explicit hibernation resume-offset design") ++
    pushBlocker (resume.sysfsResume.isSome = true) "sysfs-resume-device-configured"
      "the running kernel reports a nonzero /sys/power/resume device" ++
    pushBlocker (resume.sysfsResumeOffset.isSome = true) "sysfs-resume-offset-configured"
      "the running kernel reports a nonzero /sys/power/resume_offset"

/-- The one node that the path of the swap device matches. -/
def swapNode (s : HostSnapshot) (swapDevice : Option String) : Option Node :=
  swapDevice.bind fun swapDevice =>
    only ((flatten s.storage.blockDevices).filter (sourceMatchesDevice swapDevice ·.device))

def persistentMatches (s : HostSnapshot) (swapNode : Option Node) : List FstabEntry :=
  swapNode.elim [] fun node =>
    s.fstab.filter fun entry =>
      entry.fsType = "swap" && sourceMatchesDevice entry.source node.device

/-- The source of the one entry, or why there is none. -/
def persistentSwapSource : List FstabEntry → Option String × List Blocker
  | [entry] => (some entry.source, [])
  | [] => (none, [blocked "persistent-swap-entry-not-proven"
      "no unique fstab swap entry can be bound to the active tail swap partition"])
  | _ => (none, [blocked "persistent-swap-entry-ambiguous"
      "multiple fstab swap entries bind to the active tail swap partition"])

def analyzeSwapMigrationSafety (s : HostSnapshot) (resume : HibernationResumeEvidence)
    (target : String) : SwapMigrationSafety :=
  match analyzeLayoutOpportunity s target with
  | none =>
    { status := .blocked
      target
      disk := none
      swapDevice := none
      swapBytes := none
      activeSwapUsedBytes := none
      persistentSwapSource := none
      blockers := [blocked "swap-tail-layout-not-proven"
        "the exact DOS extended/logical active-swap tail layout is not proven"]
      futureChecks := [] }
  | some opportunity =>
    let swapDevice := opportunity.blockingDevices[1]?
    let persistent := persistentSwapSource (persistentMatches s (swapNode s swapDevice))
    let blockers := resumeBlockers resume ++ persistent.2
    { status := if blockers = [] then .clearForPlanning else .blocked
      target
      disk := some opportunity.disk
      swapDevice
      swapBytes := some opportunity.swapBytes
      activeSwapUsedBytes := swapDevice.bind fun device =>
        (s.swaps.find? (·.name = device)).map (·.usedBytes)
      persistentSwapSource := persistent.1
      blockers
      futureChecks := ["choose a swapfile filesystem with explicitly verified free capacity " ++
          "and swapfile support",
        "create, mkswap and swapon the replacement before deactivating the partition",
        "prove current memory/swap pressure permits safe swapoff of the old partition",
        "atomically rewrite and verify persistent swap configuration before partition removal",
        "back up partition-table, fstab and boot/resume configuration before any mutation"] }

end Safety

section Destination

inductive SwapfileDestinationStatus where
  | readyForPlanning
  | blocked
  deriving DecidableEq

structure SwapfileDestinationReadiness where
  status : SwapfileDestinationStatus
  destinationMount : String
  swapfilePath : String
  filesystemType : Option String
  availableBytes : Nat
  replacementSwapBytes : Option Nat
  blockers : List Blocker
  orderedFutureSteps : List String
  deriving DecidableEq

def SwapfileDestinationReadiness.isReadyForPlanning (readiness : SwapfileDestinationReadiness) :
    Bool := readiness.status = .readyForPlanning

def SwapfileDestinationReadiness.remaining (readiness : SwapfileDestinationReadiness) :
    List Blocker := if readiness.isReadyForPlanning then [] else readiness.blockers

def requiredToolAvailable (capabilities : HostCapabilities) (name : String) : Bool :=
  toolAvailable capabilities name

def swapfilePathForMount (mountpoint : String) : String :=
  if mountpoint = "/" then "/.linux-storage-manager.swap"
  else String.ofList (mountpoint.toList.rdropWhile (· = '/')) ++ "/.linux-storage-manager.swap"

/-- The one mount at the destination, or why there is none. -/
def destinationMounted (s : HostSnapshot) (destinationMount : String) :
    Option MountEntry × List Blocker :=
  match s.mounts.filter (·.target = destinationMount) with
  | [mount] => (some mount, [])
  | _ => (none, [blocked "swapfile-mount-not-unique"
      "replacement swapfile destination must resolve to exactly one current mount"])

def mountBlockers (safety : SwapMigrationSafety) (mount : MountEntry) : List Blocker :=
  pushBlocker ("rw" ∉ mount.options ∨ "ro" ∈ mount.options) "swapfile-destination-not-rw"
      "replacement swapfile destination must be mounted read-write" ++
    pushBlocker (mount.source = safety.swapDevice) "swapfile-destination-is-retiring-swap"
      "replacement swapfile destination cannot be the swap partition being retired"

def capacityBlockers (safety : SwapMigrationSafety) (space : FilesystemSpaceEvidence) :
    List Blocker :=
  match safety.swapBytes with
  | some required =>
    pushBlocker (space.availableBytes < required) "swapfile-capacity-insufficient"
      ("selected destination does not have enough currently available bytes for an " ++
        "equal-sized replacement swapfile")
  | none => [blocked "swapfile-required-size-unknown"
      "exact replacement swap size is not available from the migration safety proof"]

def analyzeSwapfileDestination (s : HostSnapshot) (capabilities : HostCapabilities)
    (safety : SwapMigrationSafety) (space : FilesystemSpaceEvidence) (destinationMount : String) :
    SwapfileDestinationReadiness :=
  let mounted := destinationMounted s destinationMount
  let filesystemType := mounted.1.bind (·.fsType)
  let blockers :=
    safety.remaining ++
      pushBlocker (space.path ≠ destinationMount) "swapfile-space-evidence-mismatch"
        ("filesystem-space evidence does not match the selected swapfile destination " ++
          "mount") ++
      mounted.2 ++
      pushBlocker (filesystemType ≠ some "ext4") "swapfile-filesystem-unsupported"
        "the first automatic swapfile migration profile requires an ext4 destination" ++
      mounted.1.elim [] (mountBlockers safety) ++ capacityBlockers safety space ++
      ["mkswap", "swapon", "swapoff"].flatMap fun tool =>
        pushBlocker (¬requiredToolAvailable capabilities tool) "swapfile-tool-unavailable"
          s!"required tool {tool} is unavailable or ambiguous"
  let swapfilePath := swapfilePathForMount destinationMount
  { status := if blockers = [] then .readyForPlanning else .blocked
    destinationMount
    swapfilePath
    filesystemType
    availableBytes := space.availableBytes
    replacementSwapBytes := safety.swapBytes
    blockers
    orderedFutureSteps := [s!"create a non-sparse root-owned 0600 file at {swapfilePath} with " ++
        "the exact replacement size",
      s!"run mkswap on {swapfilePath} and verify the resulting swap signature",
      s!"swapon {swapfilePath} before any attempt to deactivate the old swap partition",
      "rediscover active swap and require the replacement to be active at the intended " ++
        "priority",
      "attempt swapoff of the old partition; if it fails, keep both swaps and abort " ++
        "partition changes",
      "rewrite persistent swap configuration atomically only after the runtime replacement " ++
        "is proven",
      "remove the old swap/extended partitions only after all runtime and persistence " ++
        "checks pass"] }

end Destination

section Intent

structure SwapReplacementIntent where
  schemaVersion : Nat
  intentId : String
  executable : Bool
  status : PlanStatus
  target : String
  disk : Option String
  retiringSwapDevice : Option String
  retiringSwapBytes : Option Nat
  retiringSwapUsedBytes : Option Nat
  retiringSwapPriority : Option Int
  persistentSwapSource : Option String
  persistentSwapTarget : Option String
  persistentSwapOptions : List String
  persistentSwapDump : Option Nat
  persistentSwapPass : Option Nat
  destinationMount : String
  swapfilePath : String
  destinationFilesystem : Option String
  destinationAvailableBytes : Nat
  swapfileMode : Nat
  blockers : List Blocker
  orderedSteps : List String
  deriving DecidableEq

def SwapReplacementIntent.ready (i : SwapReplacementIntent) : Bool :=
  i.status = .preview && i.blockers.isEmpty && !i.executable

/-- `SwapReplacementIntentDigestPayload`: everything but the identifier itself. -/
def SwapReplacementIntent.payload (i : SwapReplacementIntent) : Value :=
  .obj [("schema_version", toJson i.schemaVersion), ("executable", toJson i.executable),
    ("status", toJson i.status), ("target", toJson i.target), ("disk", toJson i.disk),
    ("retiring_swap_device", toJson i.retiringSwapDevice),
    ("retiring_swap_bytes", toJson i.retiringSwapBytes),
    ("retiring_swap_used_bytes", toJson i.retiringSwapUsedBytes),
    ("retiring_swap_priority", toJson i.retiringSwapPriority),
    ("persistent_swap_source", toJson i.persistentSwapSource),
    ("persistent_swap_target", toJson i.persistentSwapTarget),
    ("persistent_swap_options", toJson i.persistentSwapOptions),
    ("persistent_swap_dump", toJson i.persistentSwapDump),
    ("persistent_swap_pass", toJson i.persistentSwapPass),
    ("destination_mount", toJson i.destinationMount), ("swapfile_path", toJson i.swapfilePath),
    ("destination_filesystem", toJson i.destinationFilesystem),
    ("destination_available_bytes", toJson i.destinationAvailableBytes),
    ("swapfile_mode", toJson i.swapfileMode), ("blockers", toJson i.blockers),
    ("ordered_steps", toJson i.orderedSteps)]

variable [Fingerprint]

def SwapReplacementIntent.expectedIntentId (i : SwapReplacementIntent) : String :=
  fingerprint i.payload

def SwapReplacementIntent.integrityMatches (i : SwapReplacementIntent) : Bool :=
  i.intentId = i.expectedIntentId

def runtimeBlockers (safety : SwapMigrationSafety) (swapEntry : Option SwapEntry) : List Blocker :=
  match swapEntry, safety.swapBytes with
  | some entry, some expectedBytes =>
    pushBlocker (entry.sizeBytes = 0 ∨ entry.sizeBytes > expectedBytes ∨
        some entry.usedBytes ≠ safety.activeSwapUsedBytes) "retiring-swap-runtime-state-changed"
      ("active swap reported size exceeds the frozen partition geometry or usage changed " ++
        "after the migration safety proof")
  | _, _ => []

/-- The one active swap of the device. -/
def retiringSwap (s : HostSnapshot) (safety : SwapMigrationSafety) : Option SwapEntry :=
  safety.swapDevice.bind fun device => only (s.swaps.filter (·.name = device))

/-- The one fstab entry with the source that the safety proof found. -/
def retiringEntry (s : HostSnapshot) (safety : SwapMigrationSafety) : Option FstabEntry :=
  safety.persistentSwapSource.bind fun source =>
    only (s.fstab.filter fun entry => entry.fsType = "swap" && entry.source = source)

def buildSwapReplacementIntent (s : HostSnapshot) (safety : SwapMigrationSafety)
    (readiness : SwapfileDestinationReadiness) (pathState : PathOccupancyEvidence) :
    SwapReplacementIntent :=
  let swapEntry := retiringSwap s safety
  let persistent := retiringEntry s safety
  let blockers :=
    safety.remaining ++ readiness.remaining ++
      pushBlocker (pathState.path ≠ readiness.swapfilePath) "swapfile-path-evidence-mismatch"
        "path occupancy evidence does not match the frozen replacement swapfile path" ++
      pushBlocker (pathState.present = true) "swapfile-path-occupied"
        ("replacement swapfile path already exists; automatic migration refuses to replace " ++
          "or reuse it") ++
      pushBlocker (readiness.replacementSwapBytes ≠ safety.swapBytes)
        "swapfile-size-binding-mismatch"
        "destination readiness no longer matches the exact retiring swap-partition size" ++
      pushBlocker (swapEntry = none) "retiring-swap-runtime-identity-mismatch"
        "the retiring active swap entry is absent or ambiguous" ++
      pushBlocker (persistent = none) "retiring-swap-persistence-identity-mismatch"
        "the persistent swap entry changed or became ambiguous after safety analysis" ++
      runtimeBlockers safety swapEntry
  let intent : SwapReplacementIntent :=
    { schemaVersion := 1
      intentId := ""
      executable := false
      status := if blockers = [] then .preview else .blocked
      target := safety.target
      disk := safety.disk
      retiringSwapDevice := safety.swapDevice
      retiringSwapBytes := safety.swapBytes
      retiringSwapUsedBytes := swapEntry.map (·.usedBytes)
      retiringSwapPriority := swapEntry.map (·.priority)
      persistentSwapSource := persistent.map (·.source)
      persistentSwapTarget := persistent.map (·.target)
      persistentSwapOptions := persistent.elim [] (·.options)
      persistentSwapDump := persistent.map (·.dump)
      persistentSwapPass := persistent.map (·.pass)
      destinationMount := readiness.destinationMount
      swapfilePath := readiness.swapfilePath
      destinationFilesystem := readiness.filesystemType
      destinationAvailableBytes := readiness.availableBytes
      swapfileMode := 0o600
      blockers
      orderedSteps := ["revalidate hibernation/resume, active swap, fstab, destination mount, " ++
          "free space and swapfile-path vacancy",
        "create the replacement swapfile with create-new semantics, exact size, no holes and " ++
          "mode 0600",
        "run mkswap and verify the replacement signature before activation",
        "activate the replacement with the frozen priority while keeping the old swap " ++
          "partition active",
        "rediscover active swap and require both old and new swap areas before any swapoff " ++
          "attempt",
        "attempt swapoff of the old partition; on failure leave the replacement active and " ++
          "make no partition-table changes",
        "after successful swapoff, atomically replace the persistent swap entry and verify " ++
          "the parsed result",
        "only after runtime and persistent replacement are proven may a later executor " ++
          "remove the old swap/extended partitions"] }
  { intent with intentId := intent.expectedIntentId }

end Intent

end StorageManager.Planner.SwapMigration
