import StorageManager.Planner.CreateSource

/-!
# Planning a creation

The preview of a new filesystem or swap: the selected source, what is allocated from it, and
the steps, or what stands in the way.
-/

namespace StorageManager.Planner.Provisioning

open Core (HostSnapshot)
open Extend (Blocker Growth PlanStatus blocked ensure)
open Lib.Checks (okOr)
open Lib.Json (Value ToJson toJson)
open Lib.Word64

set_option autoImplicit false

inductive CreatePurpose where
  | filesystem
  | swap
  deriving DecidableEq

structure CreateRequest where
  sourceId : String
  size : Growth
  purpose : CreatePurpose
  filesystem : Option String
  mountpoint : Option String
  partitionTable : Option CreatePartitionTablePolicy
  deriving DecidableEq

structure CreateAllocation where
  requestedBytes : Nat
  roundedBytes : Nat
  availableBytes : Nat
  remainingBytes : Nat
  allocationUnitBytes : Nat
  startSector : Option Nat
  sectorCount : Option Nat
  volumeGroup : Option String
  partitionTable : Option CreatePartitionTablePolicy
  deriving DecidableEq

structure CreatePlanPreview where
  schemaVersion : Nat
  planId : String
  dryRun : Bool
  executable : Bool
  status : PlanStatus
  request : CreateRequest
  source : Option ProvisioningOpportunity
  allocation : Option CreateAllocation
  blockers : List Blocker
  steps : List String
  notices : List String
  deriving DecidableEq

section Serialization

instance : ToJson CreatePartitionTablePolicy where
  toJson p := .str <| match p with
    | .gpt => "gpt"
    | .dos => "dos"

instance : ToJson CreatePurpose where
  toJson p := .str <| match p with
    | .filesystem => "filesystem"
    | .swap => "swap"

instance : ToJson CreateRequest where
  toJson r := .obj [("source_id", toJson r.sourceId), ("size", toJson r.size),
    ("purpose", toJson r.purpose), ("filesystem", toJson r.filesystem),
    ("mountpoint", toJson r.mountpoint), ("partition_table", toJson r.partitionTable)]

instance : ToJson CreateAllocation where
  toJson a := .obj [("requested_bytes", toJson a.requestedBytes),
    ("rounded_bytes", toJson a.roundedBytes), ("available_bytes", toJson a.availableBytes),
    ("remaining_bytes", toJson a.remainingBytes),
    ("allocation_unit_bytes", toJson a.allocationUnitBytes),
    ("start_sector", toJson a.startSector), ("sector_count", toJson a.sectorCount),
    ("volume_group", toJson a.volumeGroup), ("partition_table", toJson a.partitionTable)]

instance : ToJson CreatePlanPreview where
  toJson p := .obj [("schema_version", toJson p.schemaVersion), ("plan_id", toJson p.planId),
    ("dry_run", toJson p.dryRun), ("executable", toJson p.executable),
    ("status", toJson p.status), ("request", toJson p.request), ("source", toJson p.source),
    ("allocation", toJson p.allocation), ("blockers", toJson p.blockers),
    ("steps", toJson p.steps), ("notices", toJson p.notices)]

end Serialization

section Steps

def emptyCreatePlan (request : CreateRequest) : CreatePlanPreview where
  schemaVersion := 1
  planId := ""
  dryRun := true
  executable := false
  status := .blocked
  request
  source := none
  allocation := none
  blockers := []
  steps := []
  notices :=
    [("M1A Create plans are advisory only. No partition, LVM, filesystem, mount or swap " ++
        "command is executed."),
      ("A future executor must revalidate source geometry/capacity and choose " ++
        "collision-free identifiers immediately before mutation.")]

/-- The one opportunity of this identifier, or of one that begins with it when it is long. -/
def selectSource (opportunities : List ProvisioningOpportunity) (selector : String) :
    Except Blocker ProvisioningOpportunity :=
  match opportunities.filter fun o =>
      o.id = selector || (16 ≤ selector.utf8ByteSize && startsWith o.id selector) with
  | [] => .error (blocked "create-source-not-found"
      "the selected free-space source is absent from the current snapshot")
  | [source] => .ok source
  | _ => .error (blocked "create-source-ambiguous"
      "the selected free-space source is not unique")

def ProvisioningSpaceKind.onDisk : ProvisioningSpaceKind → Bool
  | .blankDisk | .diskGap | .diskTail => true
  | .lvmFreeExtents | .blockedDisk => false

/-- Whole units for the requested bytes, within what the source has. -/
def allocate (adapter : CreateSourceAdapter) (size : Growth) : Except Blocker CreateAllocation := do
  let requested := match size with
    | .byBytes bytes => bytes
    | .maxFree => adapter.availableBytes
  ensure (requested ≠ 0) "create-size-zero" "requested creation size must be greater than zero"
  let units := divCeil requested adapter.allocationUnitBytes
  let rounded ← okOr (checkedMul units adapter.allocationUnitBytes)
    (blocked "size-overflow" "requested creation size exceeds the supported range")
  ensure (rounded ≤ adapter.availableBytes) "create-insufficient-capacity"
    "allocation-unit-rounded request exceeds the selected free-space source"
  pure
    { requestedBytes := requested
      roundedBytes := rounded
      availableBytes := adapter.availableBytes
      remainingBytes := adapter.availableBytes - rounded
      allocationUnitBytes := adapter.allocationUnitBytes
      startSector := adapter.startSector
      sectorCount := if adapter.kind.onDisk then some (rounded / adapter.allocationUnitBytes)
        else none
      volumeGroup := adapter.volumeGroup
      partitionTable := adapter.partitionTable }

def mountpointUnused (s : HostSnapshot) (mountpoint : String) : Bool :=
  startsWith mountpoint "/" && !mountpoint.toList.any isControl &&
    !(s.mounts.any (·.target = mountpoint)) && !(s.fstab.any (·.target = mountpoint))

def checkPurpose (s : HostSnapshot) (request : CreateRequest) : Except Blocker Unit :=
  match request.purpose with
  | .filesystem => do
    let fsType ← okOr request.filesystem (blocked "create-filesystem-required"
      "filesystem purpose requires an explicit filesystem type")
    ensure (fsType = "ext4" ∨ fsType = "xfs") "create-filesystem-unsupported"
      "M1A Create preview supports ext4 or XFS filesystem intent"
    ensure (request.mountpoint.all (mountpointUnused s)) "create-mountpoint-invalid"
      "mountpoint must be an unused absolute path without control characters"
  | .swap => ensure (request.filesystem = none ∧ request.mountpoint = none)
      "create-swap-options-invalid"
      "swap creation does not accept filesystem or mountpoint options"

def revalidateStep : String :=
  "revalidate the complete storage snapshot and exact selected free-space source"

def allocationSteps (adapter : CreateSourceAdapter) (allocation : CreateAllocation)
    (label : String) : List String :=
  match adapter.kind with
  | .blockedDisk => []
  | .lvmFreeExtents =>
    ["create and verify LVM metadata backup",
      "create a new logical volume in " ++ adapter.volumeGroup.getD "-" ++
        s!" with {allocation.roundedBytes} bytes of extent-aligned capacity"]
  | .diskGap | .diskTail =>
    ["create and verify partition-table metadata backup",
      s!"create a new partition at sector {adapter.startSector.getD 0} using " ++
        s!"{allocation.sectorCount.getD 0} sectors ({allocation.roundedBytes} bytes)"]
  | .blankDisk =>
    ["verify " ++ adapter.disk.getD "-" ++
        " is still blank and record its pre-mutation identity baseline",
      s!"initialize a {label} partition table with 1 MiB-aligned usable geometry",
      s!"create one primary partition at sector {allocation.startSector.getD 0} using " ++
        s!"{allocation.sectorCount.getD 0} sectors ({allocation.roundedBytes} bytes)"]

def purposeSteps (request : CreateRequest) : List String :=
  match request.purpose with
  | .filesystem =>
    ["format the new block volume as " ++ request.filesystem.getD "-"] ++
      (request.mountpoint.map fun mountpoint =>
        s!"mount the new filesystem at {mountpoint} and prepare a guarded persistent mount " ++
          "entry").toList
  | .swap =>
    ["initialize the new block volume as Linux swap",
      "activate swap and prepare guarded persistent swap configuration"]

/-- The plan of an allocation. Its first two cases are refused before they get here. -/
def applyAllocation (plan : CreatePlanPreview) (adapter : CreateSourceAdapter)
    (allocation : CreateAllocation) : CreatePlanPreview :=
  match adapter.kind, allocation.partitionTable with
  | .blockedDisk, _ => { plan with
      blockers := plan.blockers ++
        [blocked "create-source-unusable" "blocked disk cannot enter a Create route"] }
  | .blankDisk, none => { plan with
      blockers := plan.blockers ++ [blocked "blank-disk-policy-required"
        "blank-disk partition-table policy disappeared before route construction"]
      steps := [revalidateStep] }
  | _, policy =>
    let label := if policy = some .dos then "DOS/MBR" else "GPT"
    { plan with
      status := .preview
      allocation := some allocation
      steps := [revalidateStep] ++ allocationSteps adapter allocation label ++
        purposeSteps plan.request ++
        ["rediscover and verify the complete resulting storage topology"] }

/-- What a source gives for a request. -/
def allocateSource (s : HostSnapshot) (request : CreateRequest)
    (source : ProvisioningOpportunity) : Except Blocker (CreateSourceAdapter × CreateAllocation) := do
  let adapter ← resolveCreateSourceAdapter s source request.partitionTable
  let allocation ← allocate adapter request.size
  checkPurpose s request
  pure (adapter, allocation)

end Steps

section Plan

/-- The plan before it has its own identifier. -/
def createPlan (s : HostSnapshot) (request : CreateRequest) : CreatePlanPreview :=
  let plan := emptyCreatePlan request
  match selectSource (listProvisioningOpportunities s) request.sourceId with
  | .error blocker => { plan with blockers := [blocker] }
  | .ok source =>
    let plan := { plan with source := some source }
    match allocateSource s request source with
    | .error blocker => { plan with blockers := [blocker] }
    | .ok (adapter, allocation) => applyAllocation plan adapter allocation

variable [Fingerprint]

def planCreate (s : HostSnapshot) (request : CreateRequest) : CreatePlanPreview :=
  let plan := createPlan s request
  { plan with planId := fingerprint (toJson plan) }

end Plan

end StorageManager.Planner.Provisioning
