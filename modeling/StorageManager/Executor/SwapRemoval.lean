import StorageManager.Core.DeviceTree
import StorageManager.Core.PartitionType
import StorageManager.Executor.PrivilegedArgv
import StorageManager.Executor.SwapRuntime
import StorageManager.Lib.Word64

/-!
# Removing the retired swap partition

The retired logical swap and its extended container are removed from a DOS table. The
preflight finds both records and freezes their geometry. After the removal the table is
read again and compared with what the preflight remembered.
-/

namespace StorageManager.Executor.Swap

open StorageManager.Core (BlockDevice HostSnapshot PartitionRecord PartitionTable hexDigit u8FromHex
  trim isExtendedType flatten)
open Lib.Checks
open Lib.Word64 (checkedAdd checkedMul checkedAdd_eq_some_iff checkedMul_eq_some_iff)

set_option autoImplicit false

section Geometry

/-- The errors of the checks on the snapshot and on the backup. -/
inductive ProductionSwapPartitionRemovalPreflightError where
  | bindingMismatch
  | retiringSwapGeometryMismatch
  | extendedPartitionGeometryMismatch
  | backupMismatch
  deriving DecidableEq

structure ExactRemovalGeometry where
  tableLabel : String
  tableId : Option String
  sectorSizeBytes : Nat
  swap : PartitionRecord
  swapNumber : Nat
  extended : PartitionRecord
  extendedNumber : Nat
  deriving DecidableEq

/-- At most two hexadecimal digits, after an optional `0x`. -/
def parseDosType (raw : String) : Option Nat :=
  let value := match trim raw.toList with
    | '0' :: 'x' :: cs => cs
    | '0' :: 'X' :: cs => cs
    | cs => cs
  if value = [] ∨ 2 < value.length ∨ ¬value.all (fun c => (hexDigit c).isSome) then none
  else u8FromHex value

def contains (container child : PartitionRecord) : Bool :=
  match checkedAdd container.startSector container.sizeSectors with
  | none => false
  | some containerEnd =>
    match checkedAdd child.startSector child.sizeSectors with
    | none => false
    | some childEnd =>
      decide (child.startSector ≥ container.startSector) && decide (childEnd ≤ containerEnd)

/-- The record has the type of an extended container. -/
def isExtended (record : PartitionRecord) : Bool :=
  (parseDosType (record.partitionType.getD "")).any isExtendedType

def exactRemovalGeometry (snapshot : HostSnapshot)
    (activation : ProductionSwapReplacementActivationIntent) :
    Except ProductionSwapPartitionRemovalPreflightError ExactRemovalGeometry := do
  let table ← unique (·.device = activation.disk) snapshot.partitionTables
    .retiringSwapGeometryMismatch
  refuse (table.label ≠ some "dos") .retiringSwapGeometryMismatch
  let sector ← okOr (table.sectorSizeBytes.filter fun sector => sector = 512 || sector = 4096)
    .retiringSwapGeometryMismatch
  let swap ← unique (·.node = activation.retiringSwapDevice) table.partitions
    .retiringSwapGeometryMismatch
  refuse (parseDosType (swap.partitionType.getD "") ≠ some 0x82 ∨
      checkedMul swap.sizeSectors sector ≠ some activation.retiringSwapBytes)
    .retiringSwapGeometryMismatch
  let swapNumber ← okOr (partitionNumber swap.node activation.disk) .retiringSwapGeometryMismatch
  refuse (swapNumber < 5) .retiringSwapGeometryMismatch
  let extended ← unique (fun record => isExtended record && contains record swap) table.partitions
    .extendedPartitionGeometryMismatch
  let extendedNumber ← okOr (partitionNumber extended.node activation.disk)
    .extendedPartitionGeometryMismatch
  refuse (extendedNumber ≥ 5 ∨ extendedNumber = swapNumber) .extendedPartitionGeometryMismatch
  refuse (∃ record ∈ table.partitions, record.node ≠ extended.node ∧ record.node ≠ swap.node ∧
      contains extended record)
    .extendedPartitionGeometryMismatch
  pure
    { tableLabel := "dos", tableId := table.id, sectorSizeBytes := sector, swap := swap
      swapNumber := swapNumber, extended := extended, extendedNumber := extendedNumber }

end Geometry

section Preflight

variable [Fingerprint]

/-- The record that `prepare_production_swap_partition_removal` freezes. -/
def removalPreflight (activation : ProductionSwapReplacementActivationIntent)
    (journalId persistentReceiptId : String) (geometry : ExactRemovalGeometry)
    (backup : String × String) : ProductionSwapPartitionRemovalPreflight :=
  let result : ProductionSwapPartitionRemovalPreflight :=
    { schemaVersion := 1
      preflightId := ""
      journalId := journalId
      activationId := activation.activationId
      persistentConfigReceiptId := persistentReceiptId
      disk := activation.disk
      tableLabel := geometry.tableLabel
      tableId := geometry.tableId
      sectorSizeBytes := geometry.sectorSizeBytes
      retiringSwapDevice := geometry.swap.node
      retiringSwapPartitionNumber := geometry.swapNumber
      retiringSwapStartSector := geometry.swap.startSector
      retiringSwapSizeSectors := geometry.swap.sizeSectors
      extendedPartitionDevice := geometry.extended.node
      extendedPartitionNumber := geometry.extendedNumber
      extendedStartSector := geometry.extended.startSector
      extendedSizeSectors := geometry.extended.sizeSectors
      partitionBackupPath := backup.1
      partitionBackupSha256 := backup.2
      mutationEnabled := false
      partitionTableChanged := false }
  { result with preflightId := result.expectedPreflightId }

/-- `prepare_production_swap_partition_removal` from its discovery on. The backup of the
table is the answer of the host. -/
def prepareFromSnapshot (activation : ProductionSwapReplacementActivationIntent)
    (runtime : ProductionSwapRuntimeExecutionReceipt) (journalId persistentReceiptId : String)
    (backup : Except ProductionSwapPartitionRemovalPreflightError (String × String))
    (snapshot : HostSnapshot) : Except ProductionSwapPartitionRemovalPreflightError
      ProductionSwapPartitionRemovalPreflight := do
  refuse (∃ e ∈ snapshot.swaps, e.name = activation.retiringSwapDevice) .bindingMismatch
  let replacement ← unique (·.name = activation.swapfilePath) snapshot.swaps .bindingMismatch
  refuse (replacement.priority ≠ activation.retiringSwapPriority ∨
      replacement.sizeBytes ≠ runtime.replacementReportedSwapBytes)
    .bindingMismatch
  let geometry ← exactRemovalGeometry snapshot activation
  let backup ← backup
  pure (removalPreflight activation journalId persistentReceiptId geometry backup)

end Preflight

section PostState

inductive ProductionSwapPartitionRemovalExecutionError where
  | postStateMismatch
  deriving DecidableEq

/-- Some device of the tree has this path. -/
def storageContainsPath (devices : List BlockDevice) (path : String) : Bool :=
  (flatten devices).any fun node => node.device.path = some path

/-- `verify_post_state`, with the answers of its discovery and of the revalidation of the
persistent configuration. -/
def verifyPostState (activation : ProductionSwapReplacementActivationIntent)
    (runtime : ProductionSwapRuntimeExecutionReceipt)
    (preflight : ProductionSwapPartitionRemovalPreflight) (discovery : Except String HostSnapshot)
    (persistentConfig : Except String Unit) :
    Except ProductionSwapPartitionRemovalExecutionError Unit := do
  let snapshot ← discovery.mapError fun _ => .postStateMismatch
  let table ← unique (·.device = preflight.disk) snapshot.partitionTables .postStateMismatch
  refuse (table.label ≠ some "dos" ∨ table.id ≠ preflight.tableId ∨
      table.sectorSizeBytes ≠ some preflight.sectorSizeBytes ∨
      ∃ record ∈ table.partitions, record.node = preflight.retiringSwapDevice ∨
        record.node = preflight.extendedPartitionDevice)
    .postStateMismatch
  refuse (storageContainsPath snapshot.storage.blockDevices preflight.retiringSwapDevice ∨
      storageContainsPath snapshot.storage.blockDevices preflight.extendedPartitionDevice)
    .postStateMismatch
  refuse (∃ e ∈ snapshot.swaps, e.name = activation.retiringSwapDevice) .postStateMismatch
  let replacement ← unique (·.name = activation.swapfilePath) snapshot.swaps .postStateMismatch
  refuse (replacement.priority ≠ activation.retiringSwapPriority ∨
      replacement.sizeBytes ≠ runtime.replacementReportedSwapBytes)
    .postStateMismatch
  persistentConfig.mapError fun _ => .postStateMismatch

end PostState

end StorageManager.Executor.Swap
