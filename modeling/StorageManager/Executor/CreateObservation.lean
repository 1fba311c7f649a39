import StorageManager.Discovery.SnapshotCollectors
import StorageManager.Executor.CreateCrossing
import StorageManager.Executor.CreatePreflight

/-!
# What the checks of a create observe

A create looks at the host twice: at the blank disk before it writes the partition
table, and at the mapped partition before it makes the filesystem. Both looks are stated
here as what an accepted snapshot shows, and compared with what the partition is and with
what the collectors reported.
-/

namespace StorageManager.Executor.Create

open StorageManager.Core
open Discovery
open Lib.Checks

set_option autoImplicit false

/-- The table of the disk lists one partition, the frozen one. -/
structure RecordedPartition (activation : ProductionCreateActivationIntent)
    (launch : ProductionCreateRuntimeLaunchSpec) (table : PartitionTable) : Prop where
  label : table.label = some activation.partitionTable.label
  unit : table.unit = some "sectors"
  sector : table.sectorSizeBytes = some activation.logicalSectorBytes
  record : ∃ record, table.partitions = [record] ∧ record.node = launch.partitionDevice ∧
    record.startSector = activation.partitionStartSector ∧
    record.sizeSectors = activation.partitionSectorCount ∧
    ∃ type, record.partitionType = some type ∧
      eqIgnoreAsciiCase type activation.partitionTable.expectedPartitionType

/-- The child of the disk, as far as it is compared with the frozen partition. -/
structure ComparedChild (activation : ProductionCreateActivationIntent)
    (launch : ProductionCreateRuntimeLaunchSpec) (disk child : BlockDevice) : Prop where
  path : child.path = some launch.partitionDevice
  kind : child.kind = .partition
  size : child.sizeBytes = activation.partitionSectorCount * activation.logicalSectorBytes
  word : activation.partitionSectorCount * activation.logicalSectorBytes < 2 ^ 64
  sector : child.logicalSectorBytes = some activation.logicalSectorBytes
  parent : child.parentKernelName = disk.kernelName

/-- What an accepted snapshot shows of the new partition. -/
structure PartitionObserved (activation : ProductionCreateActivationIntent)
    (launch : ProductionCreateRuntimeLaunchSpec) (snapshot : HostSnapshot)
    (disk child : BlockDevice) : Prop where
  collector : collected snapshot "partition_tables" = true
  table : ∃ table, snapshot.partitionTables.filter (·.device = activation.disk) = [table] ∧
    RecordedPartition activation launch table
  found : snapshot.storage.blockDevices.filter (·.path = some activation.disk) = [disk]
  authorized : AuthorizedDisk activation disk
  label : disk.partitionTable = some activation.partitionTable.label
  only : disk.children = [child]
  compared : ComparedChild activation launch disk child
  filesystem : child.filesystem = none
  mountpoints : child.mountpoints = []
  disk_unreferenced : Unreferenced snapshot activation.disk
  partition_unreferenced : Unreferenced snapshot launch.partitionDevice

/-- No mount and no swap has this name. -/
structure NotInUse (snapshot : HostSnapshot) (name : String) : Prop where
  mounts : ∀ m ∈ snapshot.mounts, m.source ≠ some name
  swaps : ∀ e ∈ snapshot.swaps, e.name ≠ name

/-- The child of the disk that the kernel knows under the name mkfs is given: it takes
the frozen bytes, it is alone, and nothing uses it under any of its names. -/
structure FrozenPartition (activation : ProductionCreateActivationIntent)
    (launch : ProductionCreateRuntimeLaunchSpec) (snapshot : HostSnapshot)
    (child : BlockDevice) : Prop where
  path : child.path = some launch.partitionDevice
  start : child.start512Sector.map (· * 512) =
    some (activation.partitionStartSector * activation.logicalSectorBytes)
  size : child.sizeBytes = activation.partitionSectorCount * activation.logicalSectorBytes
  mapped : ∀ disk ∈ snapshot.storage.blockDevices, disk.path = some activation.disk →
    disk.children = [child]
  recorded : ∀ table ∈ snapshot.partitionTables, table.device = activation.disk →
    RecordedPartition activation launch table
  filesystem : child.filesystem = none
  mountpoints : child.mountpoints = []
  unused : ∀ name, child.nodeAlias name → NotInUse snapshot name

/-- The only child of the only top-level device under the name of the disk. -/
def mappedChild (activation : ProductionCreateActivationIntent) (snapshot : HostSnapshot) :
    Option BlockDevice := do
  let disk ← one (snapshot.storage.blockDevices.filter (·.path = some activation.disk))
  one disk.children

section Observation

variable {activation : ProductionCreateActivationIntent}
  {launch : ProductionCreateRuntimeLaunchSpec} {snapshot : HostSnapshot}

theorem exactlyOne_eq_some_iff {α : Type} {p : α → Bool} {as : List α} {a : α} :
    exactlyOne p as = some a ↔ as.filter p = [a] := by
  unfold exactlyOne
  split <;> simp_all

/-- The refusal of a table whose one record is not the frozen partition. -/
theorem recordedPartition_iff {table : PartitionTable} {record : PartitionRecord}
    (hpartitions : table.partitions = [record]) :
    ¬(table.label ≠ some activation.partitionTable.label ∨ table.unit ≠ some "sectors" ∨
        table.sectorSizeBytes ≠ some activation.logicalSectorBytes) ∧
      ¬(record.node ≠ launch.partitionDevice ∨
        record.startSector ≠ activation.partitionStartSector ∨
        record.sizeSectors ≠ activation.partitionSectorCount ∨
        record.partitionType.all fun value =>
          !eqIgnoreAsciiCase value activation.partitionTable.expectedPartitionType) ↔
      RecordedPartition activation launch table := by
  simp only [ne_eq, not_or, not_not, Option.all_eq_true, not_forall, Bool.not_eq_true',
    Bool.not_eq_false]
  constructor
  · rintro ⟨⟨hlabel, hunit, hsector⟩, hnode, hstart, hsize, type, hsome, htype⟩
    exact ⟨hlabel, hunit, hsector, record, hpartitions, hnode, hstart, hsize, type, hsome, htype⟩
  · rintro ⟨hlabel, hunit, hsector, r, hr, hrecord⟩
    obtain rfl : record = r := by simpa [hpartitions] using hr
    obtain ⟨hnode, hstart, hsize, type, hsome, htype⟩ := hrecord
    exact ⟨⟨hlabel, hunit, hsector⟩, hnode, hstart, hsize, type, hsome, htype⟩

/-- The refusal of a disk that is not the authorized one or has another label. -/
theorem authorizedDisk_iff {disk : BlockDevice} {label : String} :
    ¬(¬(disk.kind = .disk ∨ disk.kind = .loop) ∨ disk.sizeBytes ≠ activation.diskSizeBytes ∨
        disk.logicalSectorBytes ≠ some activation.logicalSectorBytes ∨
        disk.model ≠ activation.diskModel ∨ disk.serial ≠ activation.diskSerial ∨
        disk.partitionTable ≠ some label) ↔
      AuthorizedDisk activation disk ∧ disk.partitionTable = some label := by
  rw [not_or, not_not]
  simp only [ne_eq, not_or, not_not]
  constructor
  · rintro ⟨hkind, hsize, hsector, hmodel, hserial, hlabel⟩
    exact ⟨⟨hkind, hsize, hsector, hmodel, hserial⟩, hlabel⟩
  · rintro ⟨⟨hkind, hsize, hsector, hmodel, hserial⟩, hlabel⟩
    exact ⟨hkind, hsize, hsector, hmodel, hserial, hlabel⟩

/-- The refusal of a child that is not compared equal. -/
theorem comparedChild_iff {disk child : BlockDevice} :
    ¬(2 ^ 64 ≤ activation.partitionSectorCount * activation.logicalSectorBytes ∨
        child.path ≠ some launch.partitionDevice ∨ child.kind ≠ .partition ∨
        child.sizeBytes ≠ activation.partitionSectorCount * activation.logicalSectorBytes ∨
        child.logicalSectorBytes ≠ some activation.logicalSectorBytes ∨
        child.parentKernelName ≠ disk.kernelName) ↔
      ComparedChild activation launch disk child := by
  simp only [ne_eq, not_or, not_not, not_le]
  constructor
  · rintro ⟨hword, hpath, hkind, hsize, hsector, hparent⟩
    exact ⟨hpath, hkind, hsize, hword, hsector, hparent⟩
  · rintro ⟨hpath, hkind, hsize, hword, hsector, hparent⟩
    exact ⟨hword, hpath, hkind, hsize, hsector, hparent⟩

/-- The refusal of a child in use, or of a disk in use. -/
theorem unused_iff {child : BlockDevice} {disk partition : String} :
    ¬(child.filesystem.isSome ∨ child.mountpoints ≠ [] ∨
        (∃ m ∈ snapshot.mounts, m.source = some disk ∨ m.source = some partition) ∨
        (∃ e ∈ snapshot.fstab, e.source = disk ∨ e.source = partition) ∨
        ∃ e ∈ snapshot.swaps, e.name = disk ∨ e.name = partition) ↔
      (child.filesystem = none ∧ child.mountpoints = []) ∧
        Unreferenced snapshot disk ∧ Unreferenced snapshot partition := by
  simp only [not_or, not_exists, not_and, ne_eq, not_not, Bool.not_eq_true,
    Option.isSome_eq_false_iff, Option.isNone_iff_eq_none]
  constructor
  · rintro ⟨hfs, hpoints, hmounts, hfstab, hswaps⟩
    exact ⟨⟨hfs, hpoints⟩, ⟨fun m hm => (hmounts m hm).1, fun e he => (hfstab e he).1,
      fun e he => (hswaps e he).1⟩, fun m hm => (hmounts m hm).2, fun e he => (hfstab e he).2,
      fun e he => (hswaps e he).2⟩
  · rintro ⟨⟨hfs, hpoints⟩, hdisk, hpartition⟩
    exact ⟨hfs, hpoints, fun m hm => ⟨hdisk.mounts m hm, hpartition.mounts m hm⟩,
      fun e he => ⟨hdisk.fstab e he, hpartition.fstab e he⟩,
      fun e he => ⟨hdisk.swaps e he, hpartition.swaps e he⟩⟩

/-- The checks in a row, with what each of them looks up. -/
theorem verifyPartitionSnapshot_checks :
    verifyPartitionSnapshot activation launch snapshot = .ok () ↔
      (∃ status, exactlyOne (fun c => c.component == "partition_tables") snapshot.collectors =
        some status ∧ status.state = .complete) ∧
      (∃ table, exactlyOne (fun t => t.device == activation.disk) snapshot.partitionTables =
        some table ∧ RecordedPartition activation launch table) ∧
      ∃ disk, exactlyOne (fun d => d.path == some activation.disk) snapshot.storage.blockDevices =
          some disk ∧
        (AuthorizedDisk activation disk ∧
          disk.partitionTable = some activation.partitionTable.label) ∧
        ∃ child, disk.children = [child] ∧ ComparedChild activation launch disk child ∧
          (child.filesystem = none ∧ child.mountpoints = []) ∧
          Unreferenced snapshot activation.disk ∧
          Unreferenced snapshot launch.partitionDevice := by
  unfold verifyPartitionSnapshot
  cases hcollector : exactlyOne (fun c => c.component == "partition_tables")
    snapshot.collectors with
  | none => simp [check_eq_ok_iff]
  | some status =>
  cases htable : exactlyOne (fun t => t.device == activation.disk) snapshot.partitionTables with
  | none => simp [check_eq_ok_iff]
  | some table =>
  cases hdisk : exactlyOne (fun d => d.path == some activation.disk)
    snapshot.storage.blockDevices with
  | none =>
    refine iff_of_false ?_ (by simp)
    simp only [check_eq_ok_iff]
    intro h
    obtain ⟨-, -, h⟩ := h
    split at h <;> cases (check_eq_ok_iff.mp h).2
  | some disk =>
  simp only [check_eq_ok_iff, refuse_eq_ok_iff, Option.some.injEq, exists_eq_left']
  cases hrecords : table.partitions with
  | nil =>
    refine iff_of_false (fun h => ?_) fun h => ?_
    · cases (check_eq_ok_iff.mp h.2.2).1
    · obtain ⟨record, hrecord, -⟩ := h.2.1.record
      rw [hrecords] at hrecord
      cases hrecord
  | cons record rest =>
  cases rest with
  | cons other rest =>
    refine iff_of_false (fun h => ?_) fun h => ?_
    · cases (check_eq_ok_iff.mp h.2.2).1
    · obtain ⟨record, hrecord, -⟩ := h.2.1.record
      rw [hrecords] at hrecord
      cases hrecord
  | nil =>
  rw [← recordedPartition_iff hrecords]
  cases hchildren : disk.children with
  | nil => simp [check_eq_ok_iff]
  | cons child rest =>
  cases rest with
  | cons other rest => simp [check_eq_ok_iff]
  | nil =>
    simp only [check_eq_ok_iff, refuse_eq_ok_iff, comparedChild_iff, unused_iff,
      authorizedDisk_iff, List.cons.injEq, and_true, exists_eq_left', not_not, ne_eq, and_assoc]

theorem verifyPartitionSnapshot_eq_ok_iff :
    verifyPartitionSnapshot activation launch snapshot = .ok () ↔
      ∃ disk child, PartitionObserved activation launch snapshot disk child := by
  rw [verifyPartitionSnapshot_checks]
  simp only [exactlyOne_eq_some_iff, beq_eq_decide]
  rw [← collected_eq_true_iff]
  constructor
  · rintro ⟨hcollected, htable, disk, hfound, ⟨hdisk, hlabel⟩, child, honly, hchild,
      ⟨hfs, hpoints⟩, hunused, hunused'⟩
    exact ⟨disk, child, hcollected, htable, hfound, hdisk, hlabel, honly, hchild, hfs, hpoints,
      hunused, hunused'⟩
  · rintro ⟨disk, child, hcollected, htable, hfound, hdisk, hlabel, honly, hchild, hfs, hpoints,
      hunused, hunused'⟩
    exact ⟨hcollected, htable, disk, hfound, ⟨hdisk, hlabel⟩, child, honly, hchild,
      ⟨hfs, hpoints⟩, hunused, hunused'⟩

theorem nodeAlias_iff {d : BlockDevice} {name : String} :
    d.nodeAlias name ↔ d.path = some name ∨ ∃ kernel, d.kernelName = some kernel ∧
      s!"/dev/{kernel}" = name := by
  simp [BlockDevice.nodeAlias, Option.any_eq_true]

/-- An accepted child is the frozen partition when the kernel starts it where the table
does. Names of the kernel are not compared either. -/
theorem verifyPartitionSnapshot_frozen_iff
    (h : verifyPartitionSnapshot activation launch snapshot = .ok ()) :
    ∃ child, mappedChild activation snapshot = some child ∧
      (FrozenPartition activation launch snapshot child ↔
        child.start512Sector.map (· * 512) =
            some (activation.partitionStartSector * activation.logicalSectorBytes) ∧
          ∀ kernel, child.kernelName = some kernel → NotInUse snapshot s!"/dev/{kernel}") := by
  obtain ⟨disk, child, o⟩ := verifyPartitionSnapshot_eq_ok_iff.mp h
  have hmapped : mappedChild activation snapshot = some child := by
    rw [mappedChild, o.found]
    exact one_eq_some_iff.mpr o.only
  refine ⟨child, hmapped, ?_, ?_⟩
  · intro frozen
    refine ⟨frozen.start, fun kernel hkernel => frozen.unused _ ?_⟩
    exact nodeAlias_iff.mpr (.inr ⟨kernel, hkernel, rfl⟩)
  · rintro ⟨hstart, hkernel⟩
    obtain ⟨table, htable, hrecorded⟩ := o.table
    have honly : ∀ d ∈ snapshot.storage.blockDevices, d.path = some activation.disk →
        d.children = [child] := by
      intro d hd hpath
      rw [eq_of_filter_eq_singleton o.found hd (decide_eq_true hpath)]
      exact o.only
    have htables : ∀ t ∈ snapshot.partitionTables, t.device = activation.disk →
        RecordedPartition activation launch t := by
      intro t ht hdevice
      rw [eq_of_filter_eq_singleton htable ht (decide_eq_true hdevice)]
      exact hrecorded
    refine ⟨o.compared.path, hstart, o.compared.size, honly, htables, o.filesystem,
      o.mountpoints, fun name hname => ?_⟩
    rcases nodeAlias_iff.mp hname with hpath | ⟨kernel, hsome, rfl⟩
    · obtain rfl : launch.partitionDevice = name := by simpa [o.compared.path] using hpath
      exact ⟨o.partition_unreferenced.mounts, o.partition_unreferenced.swaps⟩
    · exact hkernel kernel hsome

end Observation

section Collectors

/-- The two looks of a create at the host. -/
inductive CreateCheck where
  | freshBlankDisk
  | partitionMapped
  deriving DecidableEq

def CreateCheck.Accepts (activation : ProductionCreateActivationIntent)
    (launch : ProductionCreateRuntimeLaunchSpec) : CreateCheck → HostSnapshot → Prop
  | .freshBlankDisk, snapshot => validateFreshBlankDisk activation snapshot = .ok ()
  | .partitionMapped, snapshot => verifyPartitionSnapshot activation launch snapshot = .ok ()

/-- Every collector whose empty list reads as absence is reported once, as complete. -/
def Reported (snapshot : HostSnapshot) : Prop :=
  ∀ collector : Collector, collected snapshot collector.component = true

variable {activation : ProductionCreateActivationIntent}
  {launch : ProductionCreateRuntimeLaunchSpec} {check : CreateCheck}
  {snapshot after : HostSnapshot} {collector : Collector}

theorem Unreferenced.emptied {name : String} (h : Unreferenced snapshot name)
    (hemptied : Emptied collector snapshot after) : Unreferenced after name :=
  ⟨fun m hm => h.mounts m (Emptied.mem hemptied.mounts hm),
    fun e he => h.fstab e (Emptied.mem hemptied.fstab he),
    fun e he => h.swaps e (Emptied.mem hemptied.swaps he)⟩

theorem CreateCheck.Accepts.tables_collected (h : check.Accepts activation launch snapshot) :
    collected snapshot Collector.partitionTables.component = true := by
  cases check with
  | freshBlankDisk =>
    obtain ⟨disk, fresh⟩ := validateFreshBlankDisk_eq_ok_iff.mp h
    exact fresh.collector
  | partitionMapped =>
    obtain ⟨disk, child, o⟩ := verifyPartitionSnapshot_eq_ok_iff.mp h
    exact o.collector

/-- A check that accepts does so too when the lists it wants empty are emptied by a
failure. -/
theorem CreateCheck.Accepts.emptied (h : check.Accepts activation launch snapshot)
    (hemptied : Emptied collector snapshot after) (htables : collector ≠ .partitionTables) :
    check.Accepts activation launch after := by
  have hreported := hemptied.collected_other htables.symm
  have hsame : after.partitionTables = snapshot.partitionTables := by
    rw [hemptied.partitionTables, if_neg htables]
  cases check with
  | freshBlankDisk =>
    obtain ⟨disk, fresh⟩ := validateFreshBlankDisk_eq_ok_iff.mp h
    refine validateFreshBlankDisk_eq_ok_iff.mpr ⟨disk, ?_⟩
    exact ⟨hreported.trans fresh.collector, hemptied.storage ▸ fresh.found, fresh.authorized,
      fresh.blank, fresh.unreferenced.emptied hemptied, hsame ▸ fresh.tables, fresh.range⟩
  | partitionMapped =>
    obtain ⟨disk, child, o⟩ := verifyPartitionSnapshot_eq_ok_iff.mp h
    refine verifyPartitionSnapshot_eq_ok_iff.mpr ⟨disk, child, ?_⟩
    exact ⟨hreported.trans o.collector, hsame ▸ o.table, hemptied.storage ▸ o.found, o.authorized,
      o.label, o.only, o.compared, o.filesystem, o.mountpoints,
      o.disk_unreferenced.emptied hemptied, o.partition_unreferenced.emptied hemptied⟩

theorem CreateCheck.Accepts.reported_iff (h : check.Accepts activation launch snapshot) :
    Reported snapshot ↔ ∀ collector : Collector, collector ≠ .partitionTables →
      collected snapshot collector.component = true := by
  constructor
  · exact fun hreported collector _ => hreported collector
  · intro hothers collector
    by_cases htables : collector = .partitionTables
    · exact htables ▸ h.tables_collected
    · exact hothers collector htables

variable {diagnoseStorage : StorageGraph → List StorageDiagnostic}
  {reconcileSnapshot : HostSnapshot → List StorageDiagnostic} {readings : Readings}

theorem CreateCheck.Accepts.read_iff (h : check.Accepts activation launch snapshot)
    (hrun : discoverSnapshot diagnoseStorage reconcileSnapshot readings = .ok snapshot) :
    Reported snapshot ↔ readings.mounts.isOk ∧ readings.fstab.isOk ∧ readings.swaps.isOk := by
  have hcollected := discoverSnapshot_collected hrun
  obtain ⟨storage, hstorage⟩ := discoverSnapshot_storage hrun
  constructor
  · intro hreported
    exact ⟨status_state.mp ((hcollected .mounts).mp (hreported .mounts)),
      status_state.mp ((hcollected .fstab).mp (hreported .fstab)),
      status_state.mp ((hcollected .swap).mp (hreported .swap))⟩
  · rintro ⟨hmounts, hfstab, hswaps⟩ collector
    cases collector with
    | lsblk => exact (hcollected .lsblk).mpr (status_state.mpr (by rw [hstorage]; rfl))
    | partitionTables => exact h.tables_collected
    | mounts => exact (hcollected .mounts).mpr (status_state.mpr hmounts)
    | fstab => exact (hcollected .fstab).mpr (status_state.mpr hfstab)
    | swap => exact (hcollected .swap).mpr (status_state.mpr hswaps)

/-- Which failures turn an acceptance into a refusal. -/
theorem CreateCheck.Accepts.refused_iff (h : check.Accepts activation launch snapshot)
    (hrun : discoverSnapshot diagnoseStorage reconcileSnapshot readings = .ok snapshot)
    (failure : CollectorFailure) :
    (∀ after, discoverSnapshot diagnoseStorage reconcileSnapshot
        (readings.failing failure collector) = .ok after →
      ¬check.Accepts activation launch after) ↔
      collector = .lsblk ∨ collector = .partitionTables := by
  constructor
  · intro hrefused
    by_contra hother
    obtain ⟨hlsblk, htables⟩ := not_or.mp hother
    obtain ⟨after, hafter, hemptied⟩ := discoverSnapshot_failing hrun hlsblk failure
    exact hrefused after hafter (h.emptied hemptied htables)
  · rintro (rfl | rfl) after hafter haccepts
    · cases hafter
    · have hunreported := (discoverSnapshot_collected hafter .partitionTables).mp
        haccepts.tables_collected
      rw [Readings.status_failing_self] at hunreported
      exact failed_state _ _ hunreported

/-- Of the collectors only the one for partition tables is asked for. The failure of any
other one that leaves a snapshot behind goes unseen. -/
theorem accepts_reported_iff (check : CreateCheck) (activation : ProductionCreateActivationIntent)
    (launch : ProductionCreateRuntimeLaunchSpec) :
    (∀ snapshot, check.Accepts activation launch snapshot →
      (Reported snapshot ↔ ∀ collector : Collector, collector ≠ .partitionTables →
        collected snapshot collector.component = true)) ∧
    ∀ diagnoseStorage reconcileSnapshot readings snapshot,
      discoverSnapshot diagnoseStorage reconcileSnapshot readings = .ok snapshot →
      check.Accepts activation launch snapshot →
      (Reported snapshot ↔
        readings.mounts.isOk ∧ readings.fstab.isOk ∧ readings.swaps.isOk) ∧
      ∀ failure collector,
        (∀ after, discoverSnapshot diagnoseStorage reconcileSnapshot
            (readings.failing failure collector) = .ok after →
          ¬check.Accepts activation launch after) ↔
        collector = .lsblk ∨ collector = .partitionTables :=
  ⟨fun _ h => h.reported_iff, fun _ _ _ _ hrun h =>
    ⟨h.read_iff hrun, fun failure _ => h.refused_iff hrun failure⟩⟩

end Collectors

section Sample

/-- The kernel starts the mapped partition one megabyte behind the frozen start. -/
def shiftedSnapshot : HostSnapshot :=
  let shift : BlockDevice → BlockDevice := fun child => { child with start512Sector := some 4096 }
  { sampleSnapshot none with
    storage := ⟨(sampleSnapshot none).storage.blockDevices.map fun disk =>
      { disk with children := disk.children.map shift }⟩ }

theorem ok_of_isOk {ε : Type} {x : Except ε Unit} (h : x.isOk = true) : x = .ok () := by
  cases x with
  | ok u => rfl
  | error e => cases h

theorem ProductionCreateActivationIntent.integrityMatches_sealed
    (a : ProductionCreateActivationIntent) :
    { a with activationId := a.expectedActivationId }.integrityMatches = true :=
  beq_iff_eq.mpr rfl

theorem ProductionCreateRuntimeLaunchSpec.integrityMatches_sealed
    (l : ProductionCreateRuntimeLaunchSpec) :
    { l with launchId := l.expectedLaunchId }.integrityMatches = true :=
  beq_iff_eq.mpr rfl

theorem verifyPartitionSnapshot_shifted :
    verifyPartitionSnapshot sampleActivation sampleLaunch shiftedSnapshot = .ok () :=
  ok_of_isOk (by decide +kernel)

/-- The shifted partition is accepted for sealed records, and is not the frozen one. -/
theorem shifted_not_frozen : ¬∀ (activation : ProductionCreateActivationIntent)
    (launch : ProductionCreateRuntimeLaunchSpec) (snapshot : HostSnapshot),
    activation.integrityMatches → launch.integrityMatches →
    verifyPartitionSnapshot activation launch snapshot = .ok () →
    ∃ child, FrozenPartition activation launch snapshot child := by
  intro hall
  obtain ⟨child, frozen⟩ := hall sampleActivation sampleLaunch shiftedSnapshot
    (ProductionCreateActivationIntent.integrityMatches_sealed _)
    (ProductionCreateRuntimeLaunchSpec.integrityMatches_sealed _) verifyPartitionSnapshot_shifted
  have hchild := frozen.mapped _ List.mem_cons_self rfl
  have hstart := frozen.start
  obtain rfl := (List.cons.inj hchild).1
  cases hstart

theorem verifyPartitionSnapshot_sample :
    verifyPartitionSnapshot sampleActivation sampleLaunch (sampleSnapshot none) = .ok () :=
  ok_of_isOk (by decide +kernel)

theorem verifyPartitionSnapshot_frozen_iff_sample : ∃ child,
    mappedChild sampleActivation (sampleSnapshot none) = some child ∧
      (FrozenPartition sampleActivation sampleLaunch (sampleSnapshot none) child ↔
        child.start512Sector.map (· * 512) =
            some (sampleActivation.partitionStartSector * sampleActivation.logicalSectorBytes) ∧
          ∀ kernel, child.kernelName = some kernel →
            NotInUse (sampleSnapshot none) s!"/dev/{kernel}") :=
  verifyPartitionSnapshot_frozen_iff verifyPartitionSnapshot_sample

/-- The disk of the sample before its table is written, with its mounts unread. -/
def blankReadings : Readings :=
  let blank : BlockDevice → BlockDevice := fun disk =>
    { disk with children := [], partitionTable := none }
  { storage := .ok ⟨(sampleSnapshot none).storage.blockDevices.map blank⟩
    partitionTables := .ok []
    mounts := .error ⟨"failed to start findmnt", false⟩
    fstab := .ok []
    swaps := .ok []
    lvm := .error ⟨"failed to start pvs", true⟩
    filesystemPreflight := [] }

/-- The disk with its partition mapped, with its mounts unread. -/
def mappedReadings : Readings :=
  { blankReadings with
    storage := .ok (sampleSnapshot none).storage
    partitionTables := .ok (sampleSnapshot none).partitionTables }

def CreateCheck.sampleReadings : CreateCheck → Readings
  | .freshBlankDisk => blankReadings
  | .partitionMapped => mappedReadings

/-- The snapshot discovered from these readings, if there is one. -/
def sampleDiscovery (readings : Readings) : Except CollectorFailure HostSnapshot :=
  discoverSnapshot (fun _ => []) (fun _ => []) readings

theorem accepts_sample (check : CreateCheck) : ∃ snapshot,
    sampleDiscovery check.sampleReadings = .ok snapshot ∧
      check.Accepts sampleActivation sampleLaunch snapshot := by
  cases check with
  | freshBlankDisk => exact ⟨_, rfl, ok_of_isOk (by decide +kernel)⟩
  | partitionMapped => exact ⟨_, rfl, ok_of_isOk (by decide +kernel)⟩

theorem accepts_unread (check : CreateCheck) : ¬∀ readings snapshot,
    sampleDiscovery readings = .ok snapshot →
    check.Accepts sampleActivation sampleLaunch snapshot → Reported snapshot := by
  intro hall
  obtain ⟨snapshot, hrun, haccepts⟩ := accepts_sample check
  have hreported := hall _ _ hrun haccepts
  have hread := ((haccepts.read_iff hrun).mp hreported).1
  cases check <;> cases hread

/-- Both checks accept a snapshot whose mounts were not read. -/
theorem accepts_unreported :
    (¬∀ readings snapshot, sampleDiscovery readings = .ok snapshot →
      validateFreshBlankDisk sampleActivation snapshot = .ok () → Reported snapshot) ∧
    ¬∀ readings snapshot, sampleDiscovery readings = .ok snapshot →
      verifyPartitionSnapshot sampleActivation sampleLaunch snapshot = .ok () →
      Reported snapshot :=
  ⟨accepts_unread .freshBlankDisk, accepts_unread .partitionMapped⟩

theorem accepts_reported_iff_sample : ∃ snapshot,
    sampleDiscovery blankReadings = .ok snapshot ∧
    (Reported snapshot ↔ ∀ collector : Collector, collector ≠ .partitionTables →
      collected snapshot collector.component = true) ∧
    (Reported snapshot ↔ blankReadings.mounts.isOk ∧ blankReadings.fstab.isOk ∧
      blankReadings.swaps.isOk) := by
  obtain ⟨snapshot, hrun, haccepts⟩ := accepts_sample .freshBlankDisk
  have h := accepts_reported_iff .freshBlankDisk sampleActivation sampleLaunch
  exact ⟨snapshot, hrun, h.1 snapshot haccepts, (h.2 _ _ _ snapshot hrun haccepts).1⟩

end Sample

end StorageManager.Executor.Create
