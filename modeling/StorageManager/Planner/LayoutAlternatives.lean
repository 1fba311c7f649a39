import StorageManager.Planner.PartitionCandidate

/-!
# Layout alternatives

Where a DOS partition has too little space behind it, the disk's tail may lie beyond an
extended container that holds only swap. The alternative is advice: nothing plans it here.
-/

namespace StorageManager.Planner.Extend

open Core (BlockDevice HostSnapshot PartitionRecord PartitionTable flatten isExtendedType)
open Lib.Word64

set_option autoImplicit false

structure LayoutOpportunity where
  code : String
  disk : String
  target : String
  sectorSizeBytes : Nat
  maxTargetGrowthBytes : Nat
  diskTailFreeBytes : Nat
  swapBytes : Nat
  blockingDevices : List String
  deriving DecidableEq

/-- The only element of a list. -/
def only {α : Type} (items : List α) : Option α := (unique items "").toOption

/-- The device path a layout target stands for. -/
def layoutSource (s : HostSnapshot) (target : String) : Option String :=
  if startsWith target "/dev/" then some target
  else (only (s.mounts.filter (·.target = target))).bind (·.source)

/-- The one extended container behind the target, with its end. -/
def containerBehind (table : PartitionTable) (targetEnd diskSectors : Nat) :
    Option (PartitionRecord × Nat) := do
  let extended ← only (table.partitions.filter fun record =>
    (Core.parseDosType (record.partitionType.getD "")).any isExtendedType &&
      targetEnd ≤ record.startSector)
  let extendedEnd ← checkedAdd extended.startSector extended.sizeSectors
  guard (extendedEnd ≤ diskSectors)
  pure (extended, extendedEnd)

/-- The one logical partition of a container, of the type of swap. -/
def swapInside (table : PartitionTable) (extended : PartitionRecord) (extendedEnd : Nat) :
    Option PartitionRecord := do
  let record ← only (table.partitions.filter fun record =>
    record.node ≠ extended.node && extended.startSector ≤ record.startSector &&
      (checkedAdd record.startSector record.sizeSectors).any (· ≤ extendedEnd))
  let kind ← record.partitionType.bind Core.parseDosType
  guard (kind = 0x82)
  pure record

/-- The device of the swap partition, active with sizes that fit. -/
def swapConfirmed (s : HostSnapshot) (record : PartitionRecord) (parentName : String)
    (swapBytes : Nat) : Option Unit := do
  let device ← only ((flatten s.storage.blockDevices).filter fun n =>
    n.device.kind = .partition && n.device.nodeAlias record.node)
  let active ← only (s.swaps.filter fun swap => device.device.nodeAlias swap.name)
  guard (device.device.sizeBytes = swapBytes ∧
    device.device.parentKernelName = some parentName ∧
    device.device.filesystem.map (·.fsType) = some "swap" ∧ active.sizeBytes ≠ 0 ∧
    active.sizeBytes ≤ swapBytes ∧ active.usedBytes ≤ active.sizeBytes)

def analyzeLayoutOpportunity (s : HostSnapshot) (target : String) : Option LayoutOpportunity := do
  let source ← layoutSource s target
  let nodes := flatten s.storage.blockDevices
  let device ← only (nodes.filter fun n => n.device.kind = .partition && n.device.nodeAlias source)
  let parentName ← device.device.parentKernelName
  let disk ← (parentDisk nodes parentName).toOption
  let diskPath ← disk.device.path
  let targetPath ← device.device.path
  let table ← only (s.partitionTables.filter fun t => t.device = diskPath && t.label = some "dos")
  let sector ← table.sectorSizeBytes
  guard ((sector = 512 ∨ sector = 4096) ∧ disk.device.sizeBytes % sector = 0)
  let targetRecord ← table.partitions.find? (·.node = targetPath)
  let targetEnd ← checkedAdd targetRecord.startSector targetRecord.sizeSectors
  let diskSectors := disk.device.sizeBytes / sector
  let (extended, extendedEnd) ← containerBehind table targetEnd diskSectors
  let swapRecord ← swapInside table extended extendedEnd
  let swapBytes ← checkedMul swapRecord.sizeSectors sector
  swapConfirmed s swapRecord parentName swapBytes
  guard (¬table.partitions.any fun record => record.node ≠ targetRecord.node &&
    record.node ≠ extended.node && record.node ≠ swapRecord.node &&
    targetEnd ≤ record.startSector)
  let tailSectors ← checkedSub diskSectors extendedEnd
  let diskTailFreeBytes ← checkedMul tailSectors sector
  guard (diskTailFreeBytes ≠ 0)
  let reclaimableSectors ← checkedSub diskSectors targetEnd
  let reclaimableSpanBytes ← checkedMul reclaimableSectors sector
  let maxTargetGrowthBytes ← checkedSub reclaimableSpanBytes swapBytes
  guard (maxTargetGrowthBytes ≠ 0)
  pure
    { code := "migrate-tail-swap"
      disk := diskPath
      target := targetPath
      sectorSizeBytes := sector
      maxTargetGrowthBytes
      diskTailFreeBytes
      swapBytes
      blockingDevices := [extended.node, swapRecord.node] }

def detectTailSwapMigration (s : HostSnapshot) (request : ExtendRequest) :
    Option LayoutAlternative := do
  let requestedGrowthBytes ← match request.growth with
    | .byBytes bytes => some bytes
    | .maxFree => none
  guard (requestedGrowthBytes ≠ 0)
  let opportunity ← analyzeLayoutOpportunity s request.target
  let roundedRequestedBytes ← checkedMul
    (divCeil requestedGrowthBytes opportunity.sectorSizeBytes) opportunity.sectorSizeBytes
  guard (roundedRequestedBytes ≤ opportunity.maxTargetGrowthBytes)
  let requiredPartitionGrowthBytes ← checkedAdd roundedRequestedBytes opportunity.swapBytes
  let remainingRawTailBytes ←
    checkedSub opportunity.maxTargetGrowthBytes roundedRequestedBytes
  let extended ← opportunity.blockingDevices[0]?
  let swap ← opportunity.blockingDevices[1]?
  pure
    { code := opportunity.code
      summary := s!"{opportunity.diskTailFreeBytes} bytes of disk-tail capacity are separated " ++
        s!"from {opportunity.target} by DOS extended/swap layout; preserving equivalent swap " ++
        "as a swapfile can make the requested filesystem growth possible"
      disk := opportunity.disk
      target := opportunity.target
      requestedGrowthBytes
      diskTailFreeBytes := opportunity.diskTailFreeBytes
      swapBytes := opportunity.swapBytes
      requiredPartitionGrowthBytes
      remainingRawTailBytes
      blockingDevices := opportunity.blockingDevices
      steps := [s!"verify that {swap} is not used for hibernation/resume and that swap can be " ++
          "safely deactivated",
        "create and verify partition-table, fstab and resume-configuration backups",
        s!"deactivate swap on {swap}",
        s!"remove logical swap {swap} and its extended container {extended} only after swap " ++
          "migration is prepared",
        s!"extend {opportunity.target} by {requiredPartitionGrowthBytes} bytes so the " ++
          "filesystem gains the requested capacity plus room for an equivalent swapfile",
        "grow the filesystem and verify its new size",
        s!"create and activate a swapfile of {opportunity.swapBytes} bytes, update persistent " ++
          "swap configuration, and verify swap",
        "rediscover the complete storage layout and verify no unexpected raw tail or identity " ++
          "changes"] }

def detectLayoutAlternatives (s : HostSnapshot) (request : ExtendRequest) :
    List LayoutAlternative :=
  (detectTailSwapMigration s request).toList

end StorageManager.Planner.Extend
