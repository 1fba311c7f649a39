import StorageManager.Discovery.AdjacentCapacity

/-!
# Collectors of one discovery

A discovery reads the host with several collectors. A failed block-device collector
ends the discovery. Any other failed collector leaves an empty list behind, and only
its status tells the list from one that was read empty.
-/

namespace StorageManager.Discovery

open StorageManager.Core

set_option autoImplicit false

/-- The error of a collector: its text, and whether the program it runs is missing. -/
structure CollectorFailure where
  detail : String
  notFound : Bool
  deriving DecidableEq

/-- What the collectors of one discovery return. -/
structure Readings where
  storage : Except CollectorFailure StorageGraph
  partitionTables : Except CollectorFailure (List PartitionTable)
  mounts : Except CollectorFailure (List MountEntry)
  fstab : Except CollectorFailure (List FstabEntry)
  swaps : Except CollectorFailure (List SwapEntry)
  lvm : Except CollectorFailure LvmInventory
  filesystemPreflight : List FilesystemPreflightEvidence

def complete (component : String) : CollectorStatus := ⟨component, .complete, none⟩

def failed (component : String) (failure : CollectorFailure) : CollectorStatus :=
  ⟨component, if failure.notFound then .unavailable else .failed, some failure.detail⟩

/-- The status a collector leaves in the snapshot. -/
def status {α : Type} (component : String) : Except CollectorFailure α → CollectorStatus
  | .ok _ => complete component
  | .error failure => failed component failure

/-- The list a collector leaves in the snapshot. -/
def listed {α : Type} (reading : Except CollectorFailure (List α)) : List α :=
  reading.toOption.getD []

/-- `discover_snapshot`, over the diagnostics that `diagnose_storage` and
`reconcile_snapshot` add. -/
def discoverSnapshot (diagnoseStorage : StorageGraph → List StorageDiagnostic)
    (reconcileSnapshot : HostSnapshot → List StorageDiagnostic) (readings : Readings) :
    Except CollectorFailure HostSnapshot := do
  let storage ← readings.storage
  let snapshot : HostSnapshot :=
    { storage := storage
      partitionTables := listed readings.partitionTables
      mounts := listed readings.mounts
      fstab := listed readings.fstab
      swaps := listed readings.swaps
      lvm := readings.lvm.toOption
      filesystemPreflight := readings.filesystemPreflight
      diagnostics := diagnoseStorage storage
      collectors := [complete "lsblk", status "partition_tables" readings.partitionTables,
        status "mounts" readings.mounts, status "fstab" readings.fstab,
        status "swap" readings.swaps, status "lvm" readings.lvm,
        complete "filesystem_preflight"] }
  pure { snapshot with diagnostics := snapshot.diagnostics ++ reconcileSnapshot snapshot }

/-- The collectors whose empty list reads as absence. -/
inductive Collector where
  | lsblk
  | partitionTables
  | mounts
  | fstab
  | swap
  deriving DecidableEq

def Collector.component : Collector → String
  | .lsblk => "lsblk"
  | .partitionTables => "partition_tables"
  | .mounts => "mounts"
  | .fstab => "fstab"
  | .swap => "swap"

def Readings.status (readings : Readings) : Collector → CollectorStatus
  | .lsblk => Discovery.status "lsblk" readings.storage
  | .partitionTables => Discovery.status "partition_tables" readings.partitionTables
  | .mounts => Discovery.status "mounts" readings.mounts
  | .fstab => Discovery.status "fstab" readings.fstab
  | .swap => Discovery.status "swap" readings.swaps

/-- The same discovery, had this collector failed. -/
def Readings.failing (readings : Readings) (failure : CollectorFailure) : Collector → Readings
  | .lsblk => { readings with storage := .error failure }
  | .partitionTables => { readings with partitionTables := .error failure }
  | .mounts => { readings with mounts := .error failure }
  | .fstab => { readings with fstab := .error failure }
  | .swap => { readings with swaps := .error failure }

/-- Two snapshots that differ as a failure of this collector makes them differ: its list
is empty and its status is not complete. -/
structure Emptied (collector : Collector) (before after : HostSnapshot) : Prop where
  storage : after.storage = before.storage
  partitionTables : after.partitionTables =
    if collector = .partitionTables then [] else before.partitionTables
  mounts : after.mounts = if collector = .mounts then [] else before.mounts
  fstab : after.fstab = if collector = .fstab then [] else before.fstab
  swaps : after.swaps = if collector = .swap then [] else before.swaps
  reported : ∀ other, other ≠ collector →
    after.collectors.filter (·.component = other.component) =
      before.collectors.filter (·.component = other.component)
  unreported : collected after collector.component = false

section Failures

variable {diagnoseStorage : StorageGraph → List StorageDiagnostic}
  {reconcileSnapshot : HostSnapshot → List StorageDiagnostic} {readings : Readings}
  {snapshot : HostSnapshot} {failure : CollectorFailure}

@[simp] theorem status_component {α : Type} (component : String)
    (reading : Except CollectorFailure α) : (status component reading).component = component := by
  cases reading <;> rfl

@[simp] theorem status_ok {α : Type} (component : String) (value : α) :
    status component (.ok value) = complete component := rfl

@[simp] theorem complete_component (component : String) :
    (complete component).component = component := rfl

theorem failed_state (component : String) (failure : CollectorFailure) :
    (failed component failure).state ≠ .complete := by
  show (if failure.notFound then CollectorState.unavailable else .failed) ≠ .complete
  split <;> nofun

theorem Readings.status_failing_self (collector : Collector) :
    (readings.failing failure collector).status collector =
      failed collector.component failure := by
  cases collector <;> rfl

theorem Readings.status_failing_other {collector other : Collector} (h : other ≠ collector) :
    (readings.failing failure collector).status other = readings.status other := by
  cases collector <;> cases other <;> first | rfl | exact absurd rfl h

/-- Every collector is reported once, with its own status. -/
theorem discoverSnapshot_reported
    (h : discoverSnapshot diagnoseStorage reconcileSnapshot readings = .ok snapshot)
    (collector : Collector) :
    snapshot.collectors.filter (·.component = collector.component) =
      [readings.status collector] := by
  obtain ⟨storage, tables, mounts, fstab, swaps, lvm, preflight⟩ := readings
  cases storage with
  | error e => cases h
  | ok storage =>
    cases h
    cases collector <;>
      simp [Collector.component, Readings.status]

theorem status_state {α : Type} {component : String} {reading : Except CollectorFailure α} :
    (status component reading).state = .complete ↔ reading.isOk = true := by
  cases reading with
  | ok value => exact iff_of_true rfl rfl
  | error failure => exact iff_of_false (failed_state component failure) nofun

/-- A discovered snapshot reports a collector complete when it was. -/
theorem discoverSnapshot_collected
    (h : discoverSnapshot diagnoseStorage reconcileSnapshot readings = .ok snapshot)
    (collector : Collector) : collected snapshot collector.component = true ↔
      (readings.status collector).state = .complete := by
  rw [collected_eq_true_iff, discoverSnapshot_reported h collector]
  simp

/-- Without block devices there is no snapshot. -/
theorem discoverSnapshot_storage
    (h : discoverSnapshot diagnoseStorage reconcileSnapshot readings = .ok snapshot) :
    ∃ storage, readings.storage = .ok storage := by
  cases hread : readings.storage with
  | error e => rw [discoverSnapshot, hread] at h; cases h
  | ok storage => exact ⟨storage, rfl⟩

/-- A failure of another collector than the one for block devices changes its list and
its status, and nothing else that the checks read. -/
theorem discoverSnapshot_failing {collector : Collector}
    (h : discoverSnapshot diagnoseStorage reconcileSnapshot readings = .ok snapshot)
    (hcollector : collector ≠ .lsblk) (failure : CollectorFailure) :
    ∃ after, discoverSnapshot diagnoseStorage reconcileSnapshot
        (readings.failing failure collector) = .ok after ∧ Emptied collector snapshot after := by
  obtain ⟨storage, hstorage⟩ := discoverSnapshot_storage h
  have hafter : (readings.failing failure collector).storage = .ok storage := by
    cases collector <;> first | exact hstorage | exact absurd rfl hcollector
  have hrun : ∃ after, discoverSnapshot diagnoseStorage reconcileSnapshot
      (readings.failing failure collector) = .ok after := by
    rw [discoverSnapshot, hafter]
    exact ⟨_, rfl⟩
  obtain ⟨after, hrun⟩ := hrun
  have hbefore := discoverSnapshot_reported h
  have hreported := discoverSnapshot_reported hrun
  refine ⟨after, hrun, ?_⟩
  rw [discoverSnapshot, hstorage] at h
  rw [discoverSnapshot, hafter] at hrun
  cases h
  cases hrun
  constructor
  case reported =>
    intro other hother
    rw [hreported, hbefore, Readings.status_failing_other hother]
  case unreported =>
    rw [collected, hreported, Readings.status_failing_self]
    exact decide_eq_false (failed_state _ _)
  all_goals cases collector <;> rfl

/-- What is left of a list after a failure was there before. -/
theorem Emptied.mem {α : Type} {as bs : List α} {p : Prop} [Decidable p] {a : α}
    (h : bs = if p then [] else as) (ha : a ∈ bs) : a ∈ as := by
  rw [h] at ha
  by_cases hp : p
  · rw [if_pos hp] at ha
    cases ha
  · rwa [if_neg hp] at ha

theorem Emptied.collected_other {collector other : Collector} {before after : HostSnapshot}
    (h : Emptied collector before after) (hother : other ≠ collector) :
    collected after other.component = collected before other.component := by
  rw [collected, h.reported other hother, ← collected]

end Failures

end StorageManager.Discovery
