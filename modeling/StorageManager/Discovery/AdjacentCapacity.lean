import StorageManager.Core.DeviceTree
import StorageManager.Core.PartitionType
import StorageManager.Lib.Checks
import StorageManager.Lib.Ranges
import StorageManager.Lib.Word64

/-!
# The advisory capacity behind a partition

The analysis of a snapshot reports how much space follows a partition. It wants the device
tree and the partition table to agree on every sibling, and reports nothing otherwise.
-/

namespace StorageManager.Discovery

open Core
open Lib.Checks (gather gather_eq_some_iff)
open Lib.Ranges
open Lib.Word64

set_option autoImplicit false

/-- The only element of a list. -/
def one {α : Type} : List α → Option α
  | [a] => some a
  | _ => none

@[simp] theorem one_eq_some_iff {α : Type} {as : List α} {a : α} : one as = some a ↔ as = [a] := by
  unfold one
  split <;> simp_all

/-- The device has a child of the target's path. -/
def isParent (target d : BlockDevice) : Bool :=
  d.children.any fun child => child.path.isSome && child.path == target.path

def collectParents (devices : List BlockDevice) (target : BlockDevice) : List BlockDevice :=
  (BlockDevice.foldAll (fun _ d (children : List (List BlockDevice)) =>
    (if isParent target d then [d] else []) ++ children.flatten) [] 0 devices).flatten

/-- The devices of these nodes that are parents of the target. -/
def ParentsAmong (target : BlockDevice) (parents : List BlockDevice) (nodes : List Node) : Prop :=
  parents = (nodes.map (·.device)).filter (isParent target)

theorem ParentsAmong.flatten {target : BlockDevice} {as : List (List BlockDevice)}
    {bs : List (List Node)} (h : List.Forall₂ (ParentsAmong target) as bs) :
    ParentsAmong target as.flatten bs.flatten := by
  refine flatten_rel (R := ParentsAmong target) rfl ?_ h
  rintro as bs as' bs' rfl rfl
  simp [ParentsAmong]

theorem collectParents_eq (devices : List BlockDevice) (target : BlockDevice) :
    ParentsAmong target (collectParents devices target) (flatten devices) := by
  refine ParentsAmong.flatten (BlockDevice.foldAll_rel (fun place d as bs h => ?_) [] 0 devices)
  rw [ParentsAmong, ParentsAmong.flatten h, Node.visit, List.map_cons, List.filter_cons]
  split <;> rfl

def usableBounds (table : PartitionTable) (diskSectors : Nat) : Option (Nat × Nat) := do
  let label ← table.label
  if label = "gpt" then
    let first ← table.firstLba
    let last ← table.lastLba
    let limit ← checkedAdd last 1
    if first < 2 ∨ limit ≤ first ∨ diskSectors ≤ limit then none else some (first, limit)
  else if label = "dos" then
    let limit := min diskSectors (2 ^ 32)
    if 1 < limit then some (1, limit) else none
  else none

/-- What a table's label asks of the identities of a record and its device: the UUID to
remember, where there must be one. -/
def siblingUuid (label : Option String) (record child : Option String) :
    Option (Option (List Char)) :=
  if label = some "gpt" then do
    let a ← record
    let b ← child
    if a ≠ "" ∧ eqIgnoreAsciiCase a b then some (some (asciiLower a)) else none
  else match record, child with
    | some a, some b => if eqIgnoreAsciiCase a b then some none else none
    | _, _ => some none

/-- One record agrees with the one child of its path. -/
def siblingRange (disk : BlockDevice) (table : PartitionTable) (parentName : String)
    (sector first limit : Nat) (record : PartitionRecord) :
    Option (Range × Option (List Char)) := do
  let child ← one (disk.children.filter (·.path = some record.node))
  let start ← checkedMul record.startSector sector
  let size ← checkedMul record.sizeSectors sector
  let stop ← checkedAdd record.startSector record.sizeSectors
  let childStart ← child.start512Sector
  let childStartBytes ← checkedMul childStart 512
  if child.kind ≠ .partition ∨ child.parentKernelName ≠ some parentName ∨
      child.logicalSectorBytes ≠ some sector ∨ childStartBytes ≠ start ∨ child.sizeBytes ≠ size ∨
      record.sizeSectors = 0 ∨ record.startSector < first ∨ limit < stop then none
  else
    let uuid ← siblingUuid table.label record.uuid child.partitionUuid
    some (⟨record.startSector, stop, record.node⟩, uuid)

/-- The bytes between the end of the named range and what stands behind it. -/
def capacityBehind (limit sector : Nat) (name : String) (ranges : List Range) : Option Nat := do
  let (found, next) ← behind limit name ranges
  let sectors ← checkedSub next found.stop
  checkedMul sectors sector

/-- Every record has a device under the disk, none stands twice, none overlaps. -/
def adjacentCapacityTable (disk : BlockDevice) (table : PartitionTable) (targetPath : String)
    (sector : Nat) : Option Nat := do
  let (first, limit) ← usableBounds table (disk.sizeBytes / sector)
  if disk.children.length ≠ table.partitions.length ∨ table.partitions.isEmpty then none
  else
    let parentName ← disk.kernelName
    if ¬(table.partitions.map (·.node)).Nodup then none
    else
      let siblings ← gather (siblingRange disk table parentName sector first limit)
        table.partitions
      if ¬(siblings.filterMap (·.2)).Nodup then none
      else
        let ranges := sorted (siblings.map (·.1))
        if overlaps ranges then none else capacityBehind limit sector targetPath ranges

/-- The records that are containers of logical partitions. -/
def extendedRanges (table : PartitionTable) : List Range :=
  table.partitions.filterMap fun record => do
    let kind ← record.partitionType.bind parseDosType
    let stop ← checkedAdd record.startSector record.sizeSectors
    if isExtendedType kind then some ⟨record.startSector, stop, record.node⟩ else none

/-- One child of a DOS disk: its range, and whether it stands inside a container. -/
def dosChildRange (table : PartitionTable) (sector limit : Nat) (extended : List Range)
    (child : BlockDevice) : Option (Range × Bool) := do
  let childPath ← child.path
  let record ← one (table.partitions.filter (·.node = childPath))
  let partitionType ← record.partitionType.bind parseDosType
  if partitionType = 0x00 ∨ partitionType = 0xee ∨ record.sizeSectors = 0 then none
  else
    let startBytes ← checkedMul record.startSector sector
    let stop ← checkedAdd record.startSector record.sizeSectors
    if child.logicalSectorBytes ≠ some sector then none
    else
      let childStart ← child.start512Sector
      let childStartBytes ← checkedMul childStart 512
      if childStartBytes ≠ startBytes ∨ record.startSector < 1 ∨ limit < stop then none
      else
        let inside := extended.any fun e =>
          childPath ≠ e.name && e.start ≤ record.startSector && stop ≤ e.stop
        if isExtendedType partitionType then some (⟨record.startSector, stop, childPath⟩, inside)
        else
          let sizeBytes ← checkedMul record.sizeSectors sector
          if child.sizeBytes ≠ sizeBytes then none
          else some (⟨record.startSector, stop, childPath⟩, inside)

def adjacentCapacityDosPrimary (disk : BlockDevice) (table : PartitionTable)
    (target : BlockDevice) (sector : Nat) : Option Nat := do
  let diskName ← disk.kernelName
  if target.parentKernelName ≠ some diskName then none
  else
    let limit := min (disk.sizeBytes / sector) (2 ^ 32)
    if limit ≤ 1 then none
    else
      let extended := extendedRanges table
      if 1 < extended.length then none
      else
        let children ← gather (dosChildRange table sector limit extended)
          (disk.children.filter (·.kind = .partition))
        let primary := (children.filter (!·.2)).map (·.1)
        let logical := (children.filter (·.2)).map (·.1)
        if primary.isEmpty ∨ overlaps (sorted primary) ∨ overlaps (sorted logical) then none
        else
          let targetPath ← target.path
          let capacity := capacityBehind limit sector targetPath (sorted primary)
          let targetRecord ← one (table.partitions.filter (·.node = targetPath))
          let targetType ← targetRecord.partitionType.bind parseDosType
          if isExtendedType targetType then none else capacity

/-- One collector status for the component, and it is complete. -/
def collected (s : HostSnapshot) (component : String) : Bool :=
  (one (s.collectors.filter (·.component = component))).any (·.state = .complete)

theorem collected_eq_true_iff {s : HostSnapshot} {component : String} :
    collected s component = true ↔ ∃ status,
      s.collectors.filter (·.component = component) = [status] ∧ status.state = .complete := by
  unfold collected one
  split <;> simp_all

def adjacentCapacity (s : HostSnapshot) (target : BlockDevice) : Option Nat := do
  if ¬(collected s "lsblk" ∧ collected s "partition_tables") then none
  else
    let disk ← one (collectParents s.storage.blockDevices target)
    if ¬(disk.kind = .disk ∨ disk.kind = .loop) then none
    else
      let diskPath ← disk.path
      let targetPath ← target.path
      let table ← one (s.partitionTables.filter (·.device = diskPath))
      let sector ← table.sectorSizeBytes
      if (sector ≠ 512 ∧ sector ≠ 4096) ∨ disk.logicalSectorBytes ≠ some sector ∨
          disk.sizeBytes = 0 ∨ disk.sizeBytes % sector ≠ 0 ∨ table.unit ≠ some "sectors" ∨
          table.label ≠ disk.partitionTable then none
      else if table.label = some "dos" then adjacentCapacityDosPrimary disk table target sector
      else adjacentCapacityTable disk table targetPath sector

end StorageManager.Discovery
