import StorageManager.Core.DeviceTree
import StorageManager.Core.PartitionType
import StorageManager.Lib.Word64

/-!
# Reconciling the sources of a snapshot

What one tool reports is compared with what another one does: the partition tables with the
device tree, and LVM, the mounts, fstab and the swaps with both. Only a partition table that
contradicts the tree is an error.
-/

namespace StorageManager.Discovery

open StorageManager.Core
open Lib.Word64 (checkedMul)

set_option autoImplicit false

section Names

/-- `str::strip_prefix`. -/
def stripPrefix (start value : String) : Option String :=
  if start.toList.isPrefixOf value.toList then
    some (String.ofList (value.toList.drop start.length))
  else none

/-- The first device of the tree that is known by this name. -/
def findGraphAlias (s : HostSnapshot) (name : String) : Option BlockDevice :=
  ((flatten s.storage.blockDevices).map (·.device)).find? fun d =>
    d.nodeAlias name || s!"/dev/{d.name}" == name

def graphHasAlias (s : HostSnapshot) (name : String) : Bool := (findGraphAlias s name).isSome

def isBlockSource (source : String) : Bool := (stripPrefix "/dev/" source).isSome

def lvAliases (lv : LvmLogicalVolume) : List String :=
  lv.path.toList ++ [s!"/dev/mapper/{mapperName lv.vgName}-{mapperName lv.name}"]

def lvPresentInGraph (s : HostSnapshot) (lv : LvmLogicalVolume) : Bool :=
  (lvAliases lv).any (graphHasAlias s)

def sourceResolvesToGraph (s : HostSnapshot) (source : String) : Bool :=
  source = "/dev/root" || graphHasAlias s source ||
    s.lvm.any fun lvm => lvm.logicalVolumes.any fun lv =>
      (lvAliases lv).contains source && lvPresentInGraph s lv

end Names

section PartitionTables

/-- One diagnostic, where the test holds. -/
def report (condition : Prop) [Decidable condition] (code : String) (severity : DiagnosticSeverity)
    (message : String) (device : Option String) : List StorageDiagnostic :=
  if condition then [⟨code, severity, message, device⟩] else []

def isDosExtendedPartition (table : PartitionTable) (partitionType : Option String) : Bool :=
  table.label.any (eqIgnoreAsciiCase · "dos") &&
    (partitionType.bind parseDosType).any isExtendedType

/-- The starts of a record and of its device, in bytes. -/
def reconcileStart (sectorSize : Nat) (partition : PartitionRecord) (device : BlockDevice) :
    List StorageDiagnostic :=
  match device.start512Sector.bind (checkedMul · 512), checkedMul partition.startSector sectorSize with
  | some lsblkStart, some sfdiskStart =>
    report (lsblkStart ≠ sfdiskStart) "partition-start-mismatch" .error
      (s!"lsblk start offset is {lsblkStart} bytes, but sfdisk reports {sfdiskStart} bytes")
      (some partition.node)
  | none, some _ => [⟨"lsblk-partition-start-missing", .warning,
      ("sfdisk reports partition geometry, but lsblk did not provide START for the " ++
        "partition"), some partition.node⟩]
  | _, none => [⟨"partition-start-overflow", .error,
      "partition start offset could not be represented safely in bytes", some partition.node⟩]

/-- The sizes of a record and of its device, but for the container of logical partitions. -/
def reconcileSize (table : PartitionTable) (sectorSize : Nat) (partition : PartitionRecord)
    (device : BlockDevice) : List StorageDiagnostic :=
  if isDosExtendedPartition table partition.partitionType then []
  else match checkedMul partition.sizeSectors sectorSize with
    | some sfdiskSize => report (sfdiskSize ≠ device.sizeBytes) "partition-size-mismatch" .error
        (s!"lsblk reports partition size {device.sizeBytes} bytes, but sfdisk reports " ++
          s!"{sfdiskSize} bytes") (some partition.node)
    | none => [⟨"partition-size-overflow", .error,
        "partition size from sfdisk could not be represented safely in bytes",
        some partition.node⟩]

def reconcileUuid (partition : PartitionRecord) (device : BlockDevice) : List StorageDiagnostic :=
  match device.partitionUuid, partition.uuid with
  | some lsblkUuid, some sfdiskUuid =>
    report (¬eqIgnoreAsciiCase lsblkUuid sfdiskUuid) "partition-uuid-mismatch" .error
      (s!"lsblk reports PARTUUID `{lsblkUuid}`, but sfdisk reports `{sfdiskUuid}`")
      (some partition.node)
  | _, _ => []

def reconcilePartition (s : HostSnapshot) (table : PartitionTable) (sectorSize : Nat)
    (partition : PartitionRecord) : List StorageDiagnostic :=
  match findGraphAlias s partition.node with
  | none => [⟨"sfdisk-partition-not-in-lsblk", .error,
      "sfdisk reports a partition that is absent from the lsblk topology", some partition.node⟩]
  | some device => reconcileStart sectorSize partition device ++
      reconcileSize table sectorSize partition device ++ reconcileUuid partition device

/-- A partition of the disk that the table does not have. -/
def reconcileChild (table : PartitionTable) (child : BlockDevice) : List StorageDiagnostic :=
  match child.path with
  | none => []
  | some path => report (child.kind = .partition ∧ ∀ p ∈ table.partitions, p.node ≠ path)
      "lsblk-partition-not-in-sfdisk" .error
      ("lsblk reports a direct disk partition that is absent from the authoritative sfdisk " ++
        "table") (some path)

def reconcileSfdiskPartitions (s : HostSnapshot) (disk : BlockDevice) (table : PartitionTable)
    (sectorSize : Nat) : List StorageDiagnostic :=
  table.partitions.flatMap (reconcilePartition s table sectorSize) ++
    disk.children.flatMap (reconcileChild table)

def reconcileLabel (disk : BlockDevice) (table : PartitionTable) : List StorageDiagnostic :=
  match disk.partitionTable, table.label with
  | some lsblkLabel, some sfdiskLabel =>
    report (¬eqIgnoreAsciiCase lsblkLabel sfdiskLabel) "partition-table-label-mismatch" .error
      (s!"lsblk reports partition-table type `{lsblkLabel}`, but sfdisk reports " ++
        s!"`{sfdiskLabel}`") (some table.device)
  | _, _ => []

def reconcileSector (disk : BlockDevice) (table : PartitionTable) : List StorageDiagnostic :=
  match disk.logicalSectorBytes, table.sectorSizeBytes with
  | some lsblkSector, some sfdiskSector =>
    report (lsblkSector ≠ sfdiskSector) "logical-sector-size-mismatch" .error
      (s!"lsblk reports logical sector size {lsblkSector}, but sfdisk reports {sfdiskSector}")
      (some table.device)
  | _, _ => []

def reconcileTable (s : HostSnapshot) (table : PartitionTable) : List StorageDiagnostic :=
  match findGraphAlias s table.device with
  | none => [⟨"sfdisk-disk-not-in-lsblk", .error,
      "sfdisk returned a partition table for a disk that is absent from the lsblk topology",
      some table.device⟩]
  | some disk => reconcileLabel disk table ++ reconcileSector disk table ++
      match table.sectorSizeBytes with
      | none => [⟨"sfdisk-sector-size-missing", .error,
          ("sfdisk JSON did not include a sector size; authoritative byte geometry cannot be " ++
            "verified"), some table.device⟩]
      | some sectorSize => reconcileSfdiskPartitions s disk table sectorSize

def reconcilePartitionTables (s : HostSnapshot) : List StorageDiagnostic :=
  s.partitionTables.flatMap (reconcileTable s)

end PartitionTables

section References

def reconcileLvm (s : HostSnapshot) : List StorageDiagnostic :=
  match s.lvm with
  | none => []
  | some lvm =>
    (lvm.physicalVolumes.flatMap fun pv =>
      report (isBlockSource pv.name ∧ ¬graphHasAlias s pv.name) "lvm-pv-not-in-lsblk" .warning
        "LVM reports a physical volume that is not represented in the lsblk topology"
        (some pv.name)) ++
    lvm.logicalVolumes.flatMap fun lv =>
      report (¬lvPresentInGraph s lv) "lvm-lv-not-in-lsblk" .warning
        (s!"LVM reports logical volume `{lv.vgName}/{lv.name}` but no matching lsblk node was " ++
          "found") lv.path

/-- The targets that stand there more than once. The source counts them in a `HashMap`, of
which the order is not known; here they come in the order they are listed. -/
def duplicateTargets (targets : List String) : List String :=
  targets.eraseDups.filter fun target => 1 < targets.count target

def reconcileMounts (s : HostSnapshot) : List StorageDiagnostic :=
  (s.mounts.flatMap fun mount => match mount.source with
    | none => []
    | some source => report (isBlockSource source ∧ ¬sourceResolvesToGraph s source)
        "mounted-device-not-in-lsblk" .warning
        (s!"active mount `{mount.target}` references block source `{source}` that is not " ++
          "represented in the discovered topology") (some source)) ++
  let targets := s.mounts.map (·.target)
  (duplicateTargets targets).map fun target =>
    ⟨"duplicate-active-mount-target", .info,
      s!"mount target `{target}` appears {targets.count target} times in the active mount " ++
        "table; this can be intentional for over-mounts", none⟩

def reconcileEntry (s : HostSnapshot) (entry : FstabEntry) : List StorageDiagnostic :=
  match stripPrefix "UUID=" entry.source, stripPrefix "PARTUUID=" entry.source with
  | some uuid, _ =>
    report (∀ n ∈ flatten s.storage.blockDevices, n.device.uuid ≠ some uuid)
      "fstab-uuid-not-discovered" .warning
      (s!"fstab target `{entry.target}` references UUID `{uuid}` that is absent from the " ++
        "discovered block topology") (some entry.source)
  | none, some partuuid =>
    report (∀ n ∈ flatten s.storage.blockDevices, n.device.partitionUuid ≠ some partuuid)
      "fstab-partuuid-not-discovered" .warning
      (s!"fstab target `{entry.target}` references PARTUUID `{partuuid}` that is absent from " ++
        "the discovered block topology") (some entry.source)
  | none, none =>
    report (isBlockSource entry.source ∧ ¬sourceResolvesToGraph s entry.source)
      "fstab-device-not-in-lsblk" .warning
      (s!"fstab target `{entry.target}` references block source `{entry.source}` that is not " ++
        "represented in the discovered topology") (some entry.source)

def reconcileFstab (s : HostSnapshot) : List StorageDiagnostic :=
  s.fstab.flatMap (reconcileEntry s) ++
  let targets := s.fstab.map (·.target)
  ((duplicateTargets targets).filter (· ≠ "none")).map fun target =>
    ⟨"duplicate-fstab-target", .warning,
      s!"fstab contains {targets.count target} entries for target `{target}`; verify that " ++
        "the duplicate is intentional", none⟩

def reconcileSwaps (s : HostSnapshot) : List StorageDiagnostic :=
  s.swaps.flatMap fun swap =>
    report (swap.kind ≠ "file" ∧ isBlockSource swap.name ∧ ¬sourceResolvesToGraph s swap.name)
      "swap-device-not-in-lsblk" .warning
      "active block-device swap is not represented in the discovered lsblk topology"
      (some swap.name)

def reconcileSnapshot (s : HostSnapshot) : List StorageDiagnostic :=
  reconcilePartitionTables s ++ reconcileLvm s ++ reconcileMounts s ++ reconcileFstab s ++
    reconcileSwaps s

end References

section Errors

variable {s : HostSnapshot} {table : PartitionTable} {d : StorageDiagnostic}

theorem mem_report {condition : Prop} [Decidable condition] {code message : String}
    {severity : DiagnosticSeverity} {device : Option String} :
    d ∈ report condition code severity message device ↔
      condition ∧ d = ⟨code, severity, message, device⟩ := by
  unfold report
  by_cases h : condition
  · rw [if_pos h, List.mem_singleton, and_iff_right h]
  · rw [if_neg h]
    exact iff_of_false nofun fun hd => h hd.1

/-- A record or its device is what a diagnostic about a record names. -/
theorem reconcilePartition_device {sectorSize : Nat} {partition : PartitionRecord}
    (h : d ∈ reconcilePartition s table sectorSize partition) : d.device = some partition.node := by
  unfold reconcilePartition at h
  split at h
  · rw [List.mem_singleton.mp h]
  · rw [List.mem_append, List.mem_append] at h
    rcases h with (h | h) | h
    · unfold reconcileStart at h
      split at h
      · rw [(mem_report.mp h).2]
      · rw [List.mem_singleton.mp h]
      · rw [List.mem_singleton.mp h]
    · unfold reconcileSize at h
      split at h
      · cases h
      · split at h
        · rw [(mem_report.mp h).2]
        · rw [List.mem_singleton.mp h]
    · unfold reconcileUuid at h
      split at h
      · rw [(mem_report.mp h).2]
      · cases h

theorem reconcileTable_device (h : d ∈ reconcileTable s table) : d.device.isSome := by
  unfold reconcileTable at h
  split at h
  · rw [List.mem_singleton.mp h]
    rfl
  · rw [List.mem_append, List.mem_append] at h
    rcases h with (h | h) | h
    · unfold reconcileLabel at h
      split at h
      · rw [(mem_report.mp h).2]
        rfl
      · cases h
    · unfold reconcileSector at h
      split at h
      · rw [(mem_report.mp h).2]
        rfl
      · cases h
    · split at h
      · rw [List.mem_singleton.mp h]
        rfl
      · rcases List.mem_append.mp h with h | h
        · obtain ⟨partition, -, h⟩ := List.mem_flatMap.mp h
          rw [reconcilePartition_device h]
          rfl
        · obtain ⟨child, -, h⟩ := List.mem_flatMap.mp h
          unfold reconcileChild at h
          split at h
          · cases h
          · rw [(mem_report.mp h).2]
            rfl

/-- Every error is about a partition table, and it names a device. -/
theorem reconcileSnapshot_error (h : d ∈ reconcileSnapshot s) (herror : d.severity = .error) :
    ∃ table ∈ s.partitionTables, d ∈ reconcileTable s table ∧ d.device.isSome := by
  simp only [reconcileSnapshot, List.mem_append] at h
  rcases h with (((h | h) | h) | h) | h
  · obtain ⟨table, htable, h⟩ := List.mem_flatMap.mp h
    exact ⟨table, htable, h, reconcileTable_device h⟩
  all_goals exfalso
  · unfold reconcileLvm at h
    split at h
    · cases h
    · rcases List.mem_append.mp h with h | h
      all_goals
        obtain ⟨_, -, h⟩ := List.mem_flatMap.mp h
        rw [(mem_report.mp h).2] at herror
        cases herror
  · rcases List.mem_append.mp h with h | h
    · obtain ⟨mount, -, h⟩ := List.mem_flatMap.mp h
      split at h
      · cases h
      · rw [(mem_report.mp h).2] at herror
        cases herror
    · obtain ⟨_, -, rfl⟩ := List.mem_map.mp h
      cases herror
  · rcases List.mem_append.mp h with h | h
    · obtain ⟨entry, -, h⟩ := List.mem_flatMap.mp h
      unfold reconcileEntry at h
      split at h
      all_goals
        rw [(mem_report.mp h).2] at herror
        cases herror
    · obtain ⟨_, -, rfl⟩ := List.mem_map.mp h
      cases herror
  · obtain ⟨swap, -, h⟩ := List.mem_flatMap.mp h
    rw [(mem_report.mp h).2] at herror
    cases herror

end Errors

end StorageManager.Discovery
