import StorageManager.Core.DeviceTree
import StorageManager.Lib.Sha256
import StorageManager.Planner.FreeRanges
import StorageManager.Planner.PartitionCandidate

/-!
# Opportunities to provision

Everything on a host that a new filesystem or swap could be made of: free extents of volume
groups, blank disks, and the free ranges of partition tables. A disk whose table cannot be
trusted is listed as blocked.
-/

namespace StorageManager.Planner.Provisioning

open Core (BlockDevice HostSnapshot LvmVolumeGroup Node NodeKind PartitionTable flatten)
open Extend (isDisk)
open Lib.Json (Value ToJson toJson)
open Lib.Word64

set_option autoImplicit false

inductive ProvisioningSpaceKind where
  | blankDisk
  | diskGap
  | diskTail
  | lvmFreeExtents
  | blockedDisk
  deriving DecidableEq

/-- The derived `Debug` text of a kind. -/
def ProvisioningSpaceKind.debugText : ProvisioningSpaceKind → String
  | .blankDisk => "BlankDisk"
  | .diskGap => "DiskGap"
  | .diskTail => "DiskTail"
  | .lvmFreeExtents => "LvmFreeExtents"
  | .blockedDisk => "BlockedDisk"

structure ProvisioningOpportunity where
  id : String
  code : String
  kind : ProvisioningSpaceKind
  source : String
  disk : Option String
  volumeGroup : Option String
  availableBytes : Nat
  sectorSizeBytes : Option Nat
  startSector : Option Nat
  sectorCount : Option Nat
  advisoryOnly : Bool
  futureActions : List String
  blockers : List String
  deriving DecidableEq

section Identifiers

/-- What an identifier is the digest of. -/
def opportunityMaterial (kind : ProvisioningSpaceKind) (source : String)
    (disk volumeGroup : Option String) (startSector sectorCount : Option Nat) : String :=
  kind.debugText ++ "|" ++ source ++ "|" ++ disk.getD "-" ++ "|" ++ volumeGroup.getD "-" ++ "|" ++
    (startSector.map toString).getD "-" ++ "|" ++ (sectorCount.map toString).getD "-"

def provisioningOpportunityId (kind : ProvisioningSpaceKind) (source : String)
    (disk volumeGroup : Option String) (startSector sectorCount : Option Nat) : String :=
  "space-" ++ Lib.Sha256.sha256Hex
    (opportunityMaterial kind source disk volumeGroup startSector sectorCount).toUTF8.toList

end Identifiers

section Opportunities

def executorMissing : String :=
  "storage-mutating Create executor is not implemented in M1A"

def volumeGroupOpportunity (vg : LvmVolumeGroup) : ProvisioningOpportunity where
  id := provisioningOpportunityId .lvmFreeExtents s!"VG {vg.name}" none (some vg.name) none none
  code := "lvm-vg-free"
  kind := .lvmFreeExtents
  source := s!"VG {vg.name}"
  disk := none
  volumeGroup := some vg.name
  availableBytes := vg.freeBytes
  sectorSizeBytes := none
  startSector := none
  sectorCount := none
  advisoryOnly := true
  futureActions := ["create a new logical volume", "format it with a supported filesystem",
    "mount it and optionally persist the mount"]
  blockers := [executorMissing]

def blockedDiskOpportunity (disk : BlockDevice) (diskPath code reason : String) :
    ProvisioningOpportunity where
  id := provisioningOpportunityId .blockedDisk diskPath (some diskPath) none none none
  code
  kind := .blockedDisk
  source := diskPath
  disk := some diskPath
  volumeGroup := none
  availableBytes := 0
  sectorSizeBytes := disk.logicalSectorBytes
  startSector := none
  sectorCount := none
  advisoryOnly := true
  futureActions :=
    ["inspect and reconcile the partition table with recovery-capable tooling",
      "rediscover storage and require authoritative geometry before provisioning"]
  blockers := [reason]

def blankDiskOpportunity (disk : BlockDevice) (diskPath : String) (tablesComplete : Bool) :
    ProvisioningOpportunity where
  id := provisioningOpportunityId .blankDisk diskPath (some diskPath) none none none
  code := "blank-disk"
  kind := .blankDisk
  source := diskPath
  disk := some diskPath
  volumeGroup := none
  availableBytes := disk.sizeBytes
  sectorSizeBytes := disk.logicalSectorBytes
  startSector := none
  sectorCount := none
  advisoryOnly := true
  futureActions :=
    ["choose GPT or DOS/MBR according to host and boot constraints",
      "create a partition with validated alignment",
      "optionally build LVM, then format and mount"]
  blockers := executorMissing :: if tablesComplete then [] else
    ["authoritative partition-table discovery must complete before creation"]

def rangeKind (range : PartitionFreeRange) : ProvisioningSpaceKind :=
  if range.isTail then .diskTail else .diskGap

def rangeSource (diskPath : String) (range : PartitionFreeRange) : String :=
  if range.isTail then s!"{diskPath} tail"
  else s!"{diskPath} free sectors {range.startSector}.." ++
    toString (range.startSector + range.sectorCount - 1)

/-- A free range, where its bytes and its end can be counted. -/
def rangeOpportunity (table : PartitionTable) (diskPath : String) (sector : Nat)
    (range : PartitionFreeRange) : Option ProvisioningOpportunity := do
  guard (range.sectorCount ≠ 0)
  let availableBytes ← checkedMul range.sectorCount sector
  let _ ← checkedAdd range.startSector range.sectorCount
  some
    { id := provisioningOpportunityId (rangeKind range) (rangeSource diskPath range)
        (some diskPath) none (some range.startSector) (some range.sectorCount)
      code := if range.isTail then "disk-tail" else "disk-gap"
      kind := rangeKind range
      source := rangeSource diskPath range
      disk := some diskPath
      volumeGroup := none
      availableBytes
      sectorSizeBytes := some sector
      startSector := some range.startSector
      sectorCount := some range.sectorCount
      advisoryOnly := true
      futureActions :=
        ["create a new partition inside this verified free range",
          "optionally initialize it as an LVM PV and attach/create a VG",
          "create a filesystem, mount it and optionally persist the mount"]
      blockers := [executorMissing,
        ("partition alignment, partition-number allocation and boot constraints must be " ++
          "revalidated before creation")] ++
        if table.label = some "dos" then
          [("DOS/MBR primary-slot and extended/logical constraints must be revalidated before " ++
            "partition creation")] else [] }

end Opportunities

section Listing

/-- The partition tables were discovered: one status, and it is complete. -/
def partitionTablesComplete (s : HostSnapshot) : Bool :=
  match s.collectors.filter (·.component = "partition_tables") with
  | [status] => status.state = .complete
  | _ => false

def diskOpportunities (s : HostSnapshot) (disk : BlockDevice) : List ProvisioningOpportunity :=
  match disk.path with
  | none => []
  | some diskPath =>
    let tables := s.partitionTables.filter (·.device = diskPath)
    if tables.isEmpty ∧ disk.children.isEmpty ∧ disk.filesystem = none ∧
        disk.partitionTable = none then
      [blankDiskOpportunity disk diskPath (partitionTablesComplete s)]
    else if ¬partitionTablesComplete s then
      if tables.isEmpty then [] else
        [blockedDiskOpportunity disk diskPath "partition-table-discovery-incomplete"
          ("authoritative partition-table discovery is incomplete; provisioning geometry is " ++
            "not trusted")]
    else match tables with
      | [] => []
      | [table] => match partitionFreeRanges disk table with
        | none => [blockedDiskOpportunity disk diskPath "partition-table-geometry-unusable"
            ("partition-table label or geometry is unsupported, incomplete or internally " ++
              "inconsistent; recovery/reconciliation is required before provisioning")]
        | some freeSpace => freeSpace.ranges.filterMap
            (rangeOpportunity table diskPath freeSpace.sectorSizeBytes)
      | _ => [blockedDiskOpportunity disk diskPath "partition-table-evidence-ambiguous"
          "multiple authoritative partition-table records refer to the same disk"]

/-- By source, then by code. -/
def ProvisioningOpportunity.le (a b : ProvisioningOpportunity) : Prop :=
  a.source < b.source ∨ (a.source = b.source ∧ a.code ≤ b.code)

instance : DecidableRel ProvisioningOpportunity.le :=
  fun _ _ => inferInstanceAs (Decidable (_ ∨ _))

/-- Every opportunity, in the order of discovery. -/
def opportunities (s : HostSnapshot) : List ProvisioningOpportunity :=
  ((s.lvm.elim [] (·.volumeGroups)).filter (·.freeBytes ≠ 0)).map volumeGroupOpportunity ++
    (((flatten s.storage.blockDevices).map (·.device)).filter (isDisk ·.kind)).flatMap
      (diskOpportunities s)

def listProvisioningOpportunities (s : HostSnapshot) : List ProvisioningOpportunity :=
  (opportunities s).insertionSort ProvisioningOpportunity.le

theorem mem_listProvisioningOpportunities {s : HostSnapshot} {o : ProvisioningOpportunity} :
    o ∈ listProvisioningOpportunities s ↔ o ∈ opportunities s :=
  (List.perm_insertionSort ProvisioningOpportunity.le (opportunities s)).mem_iff

end Listing

section Serialization

instance : ToJson ProvisioningSpaceKind where
  toJson k := .str <| match k with
    | .blankDisk => "blank_disk"
    | .diskGap => "disk_gap"
    | .diskTail => "disk_tail"
    | .lvmFreeExtents => "lvm_free_extents"
    | .blockedDisk => "blocked_disk"

instance : ToJson ProvisioningOpportunity where
  toJson o := .obj [("id", toJson o.id), ("code", toJson o.code), ("kind", toJson o.kind),
    ("source", toJson o.source), ("disk", toJson o.disk), ("volume_group", toJson o.volumeGroup),
    ("available_bytes", toJson o.availableBytes),
    ("sector_size_bytes", toJson o.sectorSizeBytes), ("start_sector", toJson o.startSector),
    ("sector_count", toJson o.sectorCount), ("advisory_only", toJson o.advisoryOnly),
    ("future_actions", toJson o.futureActions), ("blockers", toJson o.blockers)]

end Serialization

end StorageManager.Planner.Provisioning
