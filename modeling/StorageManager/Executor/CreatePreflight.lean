import StorageManager.Discovery.AdjacentCapacity
import StorageManager.Executor.CreateAuthorization
import StorageManager.Lib.Checks
import StorageManager.Lib.Word64

/-!
# Before a create

The selected disk is looked at once more before any tool of a create starts: it must be
the disk that was authorized, and nothing may stand on it.
-/

namespace StorageManager.Executor.Create

open StorageManager.Core
open Discovery (collected collected_eq_true_iff)
open Lib.Checks
open Lib.Word64 (checkedAdd checkedMul checkedAdd_eq_some_iff checkedMul_eq_some_iff)

set_option autoImplicit false

/-- The errors of the checks on the snapshot. -/
inductive ProductionCreateRuntimePreflightError where
  | partitionCollectorIncomplete
  | blankDiskChanged
  | blankDiskNoLongerBlank
  deriving DecidableEq

def validateFreshBlankDisk (activation : ProductionCreateActivationIntent)
    (snapshot : HostSnapshot) : Except ProductionCreateRuntimePreflightError Unit := do
  let collector ← unique (·.component = "partition_tables") snapshot.collectors
    .partitionCollectorIncomplete
  refuse (collector.state ≠ .complete) .partitionCollectorIncomplete
  let disk ← unique (·.path = some activation.disk) snapshot.storage.blockDevices
    .blankDiskChanged
  refuse (¬(disk.kind = .disk ∨ disk.kind = .loop) ∨ disk.sizeBytes ≠ activation.diskSizeBytes ∨
      disk.logicalSectorBytes ≠ some activation.logicalSectorBytes ∨
      disk.model ≠ activation.diskModel ∨ disk.serial ≠ activation.diskSerial)
    .blankDiskChanged
  refuse (¬disk.children.isEmpty ∨ disk.filesystem.isSome ∨ disk.partitionTable.isSome ∨
      disk.mountpoints ≠ [] ∨ disk.parentKernelName.isSome ∨
      (∃ m ∈ snapshot.mounts, m.source = some activation.disk) ∨
      (∃ e ∈ snapshot.fstab, e.source = activation.disk) ∨
      (∃ e ∈ snapshot.swaps, e.name = activation.disk) ∨
      ∃ t ∈ snapshot.partitionTables, t.device = activation.disk)
    .blankDiskNoLongerBlank
  refuse (activation.logicalSectorBytes = 0) .blankDiskChanged
  let endSector ← okOr (checkedAdd activation.partitionStartSector activation.partitionSectorCount)
    .blankDiskChanged
  let diskSectors := activation.diskSizeBytes / activation.logicalSectorBytes
  refuse (activation.partitionStartSector = 0 ∨ activation.partitionSectorCount = 0 ∨
      endSector > diskSectors ∨
      checkedMul activation.partitionSectorCount activation.logicalSectorBytes ≠
        some activation.partitionSizeBytes)
    .blankDiskChanged

/-- The device is the disk that was authorized. -/
structure AuthorizedDisk (activation : ProductionCreateActivationIntent) (disk : BlockDevice) :
    Prop where
  kind : disk.kind = .disk ∨ disk.kind = .loop
  size : disk.sizeBytes = activation.diskSizeBytes
  sector : disk.logicalSectorBytes = some activation.logicalSectorBytes
  model : disk.model = activation.diskModel
  serial : disk.serial = activation.diskSerial

/-- The lists of the snapshot say nothing of the device under this name. -/
structure Unreferenced (snapshot : HostSnapshot) (name : String) : Prop where
  mounts : ∀ m ∈ snapshot.mounts, m.source ≠ some name
  fstab : ∀ e ∈ snapshot.fstab, e.source ≠ name
  swaps : ∀ e ∈ snapshot.swaps, e.name ≠ name

structure BlankDevice (disk : BlockDevice) : Prop where
  children : disk.children = []
  filesystem : disk.filesystem = none
  partitionTable : disk.partitionTable = none
  mountpoints : disk.mountpoints = []
  parent : disk.parentKernelName = none

/-- The frozen range lies on the disk behind its first sector. -/
structure FrozenRange (activation : ProductionCreateActivationIntent) : Prop where
  sector_pos : 0 < activation.logicalSectorBytes
  start_pos : 0 < activation.partitionStartSector
  count_pos : 0 < activation.partitionSectorCount
  fits : activation.partitionStartSector + activation.partitionSectorCount ≤
    activation.diskSizeBytes / activation.logicalSectorBytes
  word : activation.partitionStartSector + activation.partitionSectorCount < 2 ^ 64
  size : activation.partitionSectorCount * activation.logicalSectorBytes =
    activation.partitionSizeBytes
  sizeWord : activation.partitionSizeBytes < 2 ^ 64

/-- What an accepted snapshot shows of the selected disk. -/
structure FreshBlankDisk (activation : ProductionCreateActivationIntent)
    (snapshot : HostSnapshot) (disk : BlockDevice) : Prop where
  collector : collected snapshot "partition_tables" = true
  found : snapshot.storage.blockDevices.filter (·.path = some activation.disk) = [disk]
  authorized : AuthorizedDisk activation disk
  blank : BlankDevice disk
  unreferenced : Unreferenced snapshot activation.disk
  tables : ∀ t ∈ snapshot.partitionTables, t.device ≠ activation.disk
  range : FrozenRange activation

theorem validateFreshBlankDisk_eq_ok_iff {activation : ProductionCreateActivationIntent}
    {snapshot : HostSnapshot} :
    validateFreshBlankDisk activation snapshot = .ok () ↔
      ∃ disk, FreshBlankDisk activation snapshot disk := by
  simp only [validateFreshBlankDisk, bind_eq_ok_iff, exists_check_iff, unique_eq_ok_iff,
    refuse_eq_ok_iff, okOr_eq_ok_iff, checkedAdd_eq_some_iff, not_or, not_not, not_exists, not_and,
    ne_eq, Bool.not_eq_true, Option.isSome_eq_false_iff, Option.isNone_iff_eq_none,
    List.isEmpty_iff, gt_iff_lt, not_lt]
  constructor
  · rintro ⟨status, hstatus, hstate, disk, hfound, ⟨hkind, hsize, hsector, hmodel, hserial⟩,
      ⟨hchildren, hfs, htable, hpoints, hparent, hmounts, hfstab, hswaps, htables⟩, hzero, _,
      ⟨hword, rfl⟩, hstart, hcount, hfits, hmul⟩
    obtain ⟨hsizeWord, hbytes⟩ := checkedMul_eq_some_iff.mp hmul
    have hkind := Decidable.or_iff_not_imp_left.mpr hkind
    have hcollected := collected_eq_true_iff.mpr ⟨status, hstatus, hstate⟩
    refine ⟨disk, hcollected, hfound, ⟨hkind, hsize, hsector, hmodel, hserial⟩,
      ⟨hchildren, hfs, htable, hpoints, hparent⟩, ⟨hmounts, hfstab, hswaps⟩, htables, ?_⟩
    exact ⟨by omega, by omega, by omega, hfits, hword, hbytes, hbytes ▸ hsizeWord⟩
  · rintro ⟨disk, hcollected, hfound, ⟨hkind, hsize, hsector, hmodel, hserial⟩,
      ⟨hchildren, hfs, htable, hpoints, hparent⟩, ⟨hmounts, hfstab, hswaps⟩, htables, hrange⟩
    obtain ⟨status, hstatus, hstate⟩ := collected_eq_true_iff.mp hcollected
    have hmul := checkedMul_eq_some_iff.mpr ⟨hrange.size ▸ hrange.sizeWord, hrange.size⟩
    have hkind := Decidable.or_iff_not_imp_left.mp hkind
    exact ⟨status, hstatus, hstate, disk, hfound, ⟨hkind, hsize, hsector, hmodel, hserial⟩,
      ⟨hchildren, hfs, htable, hpoints, hparent, hmounts, hfstab, hswaps, htables⟩,
      hrange.sector_pos.ne', _, ⟨hrange.word, rfl⟩, hrange.start_pos.ne', hrange.count_pos.ne',
      hrange.fits, hmul⟩

end StorageManager.Executor.Create
