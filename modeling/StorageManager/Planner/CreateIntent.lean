import StorageManager.Discovery.AdjacentCapacity
import StorageManager.Planner.CreateAllocation

/-!
# The frozen intent of a blank disk

A preview of a filesystem on a blank disk is frozen against a newer snapshot, before anything
may be executed. The freezer reads the identity and the sector size of the disk again, and
compares the allocation with them.
-/

namespace StorageManager.Planner.Provisioning

open Core (BlockDevice HostSnapshot Node flatten)
open Discovery (collected one one_eq_some_iff)
open Extend (Blocker Growth PlanStatus blocked isDisk)
open Lib.Checks
open Lib.Json (Value ToJson toJson)
open Lib.Word64

set_option autoImplicit false

section Intent

structure FrozenBlankDiskFilesystemIntent where
  schemaVersion : Nat
  intentId : String
  executable : Bool
  status : PlanStatus
  createPlanId : String
  sourceId : String
  disk : String
  diskSizeBytes : Nat
  logicalSectorBytes : Nat
  diskModel : Option String
  diskSerial : Option String
  partitionTable : CreatePartitionTablePolicy
  partitionStartSector : Nat
  partitionSectorCount : Nat
  partitionSizeBytes : Nat
  filesystem : String
  mountpoint : Option String
  blockers : List Blocker
  orderedFutureSteps : List String

def FrozenBlankDiskFilesystemIntent.ready (i : FrozenBlankDiskFilesystemIntent) : Bool :=
  i.status = .preview && i.blockers.isEmpty && !i.executable

/-- `IntentDigestPayload`: everything but the identifier itself. -/
def FrozenBlankDiskFilesystemIntent.payload (i : FrozenBlankDiskFilesystemIntent) : Value :=
  .obj [("schema_version", toJson i.schemaVersion), ("executable", toJson i.executable),
    ("status", toJson i.status), ("create_plan_id", toJson i.createPlanId),
    ("source_id", toJson i.sourceId), ("disk", toJson i.disk),
    ("disk_size_bytes", toJson i.diskSizeBytes),
    ("logical_sector_bytes", toJson i.logicalSectorBytes), ("disk_model", toJson i.diskModel),
    ("disk_serial", toJson i.diskSerial), ("partition_table", toJson i.partitionTable),
    ("partition_start_sector", toJson i.partitionStartSector),
    ("partition_sector_count", toJson i.partitionSectorCount),
    ("partition_size_bytes", toJson i.partitionSizeBytes), ("filesystem", toJson i.filesystem),
    ("mountpoint", toJson i.mountpoint), ("blockers", toJson i.blockers),
    ("ordered_future_steps", toJson i.orderedFutureSteps)]

variable [Fingerprint]

def FrozenBlankDiskFilesystemIntent.expectedIntentId (i : FrozenBlankDiskFilesystemIntent) :
    String :=
  fingerprint i.payload

def FrozenBlankDiskFilesystemIntent.integrityMatches (i : FrozenBlankDiskFilesystemIntent) :
    Bool :=
  i.intentId = i.expectedIntentId

theorem FrozenBlankDiskFilesystemIntent.identified (i : FrozenBlankDiskFilesystemIntent) :
    ({ i with intentId := i.expectedIntentId } :
      FrozenBlankDiskFilesystemIntent).integrityMatches :=
  decide_eq_true rfl

end Intent

section Blockers

/-- `push_blocker`, where the test holds. -/
def pushBlocker (condition : Prop) [Decidable condition] (code message : String) : List Blocker :=
  if condition then [blocked code message] else []

@[simp] theorem pushBlocker_eq_nil_iff {condition : Prop} [Decidable condition]
    {code message : String} : pushBlocker condition code message = [] ↔ ¬condition := by
  unfold pushBlocker
  by_cases h : condition
  · rw [if_pos h]
    exact iff_of_false nofun (not_not_intro h)
  · rw [if_neg h]
    exact iff_of_true rfl h

/-- The blockers of a plan that is no unblocked preview, and one more. -/
def previewBlockers (plan : CreatePlanPreview) (code message : String) : List Blocker :=
  if plan.status ≠ .preview ∨ plan.executable ∨ plan.blockers ≠ [] then
    plan.blockers ++ [blocked code message]
  else []

@[simp] theorem previewBlockers_eq_nil_iff {plan : CreatePlanPreview} {code message : String} :
    previewBlockers plan code message = [] ↔
      plan.status = .preview ∧ ¬plan.executable ∧ plan.blockers = [] := by
  unfold previewBlockers
  by_cases h : plan.status ≠ .preview ∨ plan.executable ∨ plan.blockers ≠ []
  · rw [if_pos h]
    refine iff_of_false (List.append_ne_nil_of_right_ne_nil _ nofun) ?_
    rintro ⟨hstatus, hexecutable, hblockers⟩
    rcases h with h | h | h
    · exact h hstatus
    · exact hexecutable h
    · exact h hblockers
  · rw [if_neg h]
    push Not at h
    exact iff_of_true rfl ⟨h.1, by simpa using h.2.1, h.2.2⟩

def collectorComplete (s : HostSnapshot) (component : String) : Bool := collected s component

def CreatePlanPreview.sourceDisk (plan : CreatePlanPreview) : String :=
  (plan.source.bind (·.disk)).getD ""

def CreatePlanPreview.tablePolicy (plan : CreatePlanPreview) : Option CreatePartitionTablePolicy :=
  plan.allocation.bind (·.partitionTable)

def CreatePlanPreview.startSector (plan : CreatePlanPreview) : Option Nat :=
  plan.allocation.bind (·.startSector)

def CreatePlanPreview.sectorCount (plan : CreatePlanPreview) : Option Nat :=
  plan.allocation.bind (·.sectorCount)

end Blockers

section Freeze

variable (s : HostSnapshot) (plan : CreatePlanPreview)

/-- The one device at the path of the plan's source. -/
def blankDiskOf : Option BlockDevice :=
  (one ((flatten s.storage.blockDevices).filter
    (·.device.path = some plan.sourceDisk))).map (·.device)

/-- The device is no longer a plain disk without a table, a mount or swap. -/
def blankDiskChanged (disk : BlockDevice) : Bool :=
  !isDisk disk.kind || !disk.children.isEmpty || disk.filesystem.isSome ||
    disk.partitionTable.isSome || !disk.mountpoints.isEmpty ||
    s.partitionTables.any (·.device = plan.sourceDisk) || s.swaps.any (·.name = plan.sourceDisk)

def freshSectorBytes : Nat := ((blankDiskOf s plan).bind (·.logicalSectorBytes)).getD 0

def frozenPartitionBytes : Nat :=
  match plan.sectorCount with
  | some count => if 0 < freshSectorBytes s plan then
      (checkedMul count (freshSectorBytes s plan)).getD 0 else 0
  | none => 0

def blankDiskBlockers : List Blocker :=
  previewBlockers plan "create-preview-not-freezable"
    "only a successful non-executable create preview can be frozen" ++
  pushBlocker (plan.request.purpose ≠ .filesystem) "m2a1-purpose-unsupported"
    ("M2A1 freezes only filesystem provisioning; swap remains on its separate " ++
      "migration/create path") ++
  pushBlocker (¬(plan.request.filesystem.getD "" = "ext4" ∨
      plan.request.filesystem.getD "" = "xfs")) "m2a1-filesystem-unsupported"
    "M2A1 accepts only ext4 or XFS filesystem intent" ++
  pushBlocker (plan.request.mountpoint.isSome) "m2a1-mount-intent-deferred"
    "M2A1 freezes storage creation only; mount/fstab activation is a later M2 gate" ++
  pushBlocker (plan.source.map (·.kind) ≠ some .blankDisk) "m2a1-source-not-blank-disk"
    "M2A1 supports only an exact verified blank-disk source" ++
  pushBlocker (plan.tablePolicy = none ∨ plan.startSector = none ∨ plan.sectorCount = none)
    "m2a1-allocation-incomplete"
    "blank-disk partition policy and exact sector allocation must be frozen" ++
  pushBlocker (¬collectorComplete s "partition_tables") "partition-table-discovery-incomplete"
    ("authoritative partition-table discovery must be complete before freezing " ++
      "provisioning") ++
  pushBlocker (blankDiskOf s plan = none) "blank-disk-identity-ambiguous"
    "selected blank disk is absent or ambiguous in the fresh snapshot" ++
  pushBlocker ((blankDiskOf s plan).any (blankDiskChanged s plan)) "blank-disk-state-changed"
    "selected source is no longer a plain unpartitioned, unmounted, non-swap disk" ++
  pushBlocker (freshSectorBytes s plan = 0 ∨ plan.startSector = some 0 ∨
      plan.sectorCount = some 0) "blank-disk-geometry-invalid"
    "fresh blank-disk sector geometry is incomplete" ++
  pushBlocker (frozenPartitionBytes s plan = 0 ∨
      plan.allocation.any (·.roundedBytes ≠ frozenPartitionBytes s plan))
    "blank-disk-allocation-mismatch"
    "frozen allocation bytes no longer match exact sector geometry"

def blankDiskFutureSteps : List String :=
  ["rediscover and require the exact same blank-disk identity and geometry",
    "capture and fsync a pre-mutation blank-disk/partition-table evidence record",
    "create the selected GPT or DOS partition table using fixed non-shell argv",
    ("create exactly one partition at the frozen start/count without consuming any other " ++
      "range"),
    "rediscover authoritative partition geometry before filesystem formatting",
    "format only the newly proven partition with the frozen ext4/XFS profile",
    ("rediscover and verify filesystem identity and capacity before any mount/persistence " ++
      "step")]

/-- The intent before it has its own identifier. -/
def blankDiskIntent : FrozenBlankDiskFilesystemIntent where
  schemaVersion := 1
  intentId := ""
  executable := false
  status := if blankDiskBlockers s plan = [] then .preview else .blocked
  createPlanId := plan.planId
  sourceId := (plan.source.map (·.id)).getD ""
  disk := plan.sourceDisk
  diskSizeBytes := ((blankDiskOf s plan).map (·.sizeBytes)).getD 0
  logicalSectorBytes := freshSectorBytes s plan
  diskModel := (blankDiskOf s plan).bind (·.model)
  diskSerial := (blankDiskOf s plan).bind (·.serial)
  partitionTable := plan.tablePolicy.getD .gpt
  partitionStartSector := plan.startSector.getD 0
  partitionSectorCount := plan.sectorCount.getD 0
  partitionSizeBytes := frozenPartitionBytes s plan
  filesystem := plan.request.filesystem.getD ""
  mountpoint := plan.request.mountpoint
  blockers := blankDiskBlockers s plan
  orderedFutureSteps := blankDiskFutureSteps

def freezeBlankDiskFilesystemCreateIntent [Fingerprint] : FrozenBlankDiskFilesystemIntent :=
  { blankDiskIntent s plan with intentId := (blankDiskIntent s plan).expectedIntentId }

theorem freezeBlankDisk_integrityMatches [Fingerprint] :
    (freezeBlankDiskFilesystemCreateIntent s plan).integrityMatches :=
  (blankDiskIntent s plan).identified

end Freeze

section Window

variable {s : HostSnapshot} {disk : BlockDevice} {policy : CreatePartitionTablePolicy}
  {sector diskSectors first stop start count : Nat}

theorem policyWindow_eq_ok_iff (hsector : sector ≠ 0) :
    policyWindow policy sector diskSectors = .ok (first, stop) ↔
      PolicyWindow policy sector diskSectors first stop := by
  refine ⟨policyWindow_ok, fun h => ?_⟩
  cases policy with
  | gpt =>
    obtain ⟨hfirst, hstop⟩ := h.gpt rfl
    -- one sector holds at least one byte of the entries
    have hentries : gptEntrySectors sector ≤ gptPartitionEntryCount * gptPartitionEntrySizeBytes := by
      unfold gptEntrySectors
      rw [divCeil_le_iff (Nat.pos_of_ne_zero hsector)]
      exact Nat.le_mul_of_pos_right _ (Nat.pos_of_ne_zero hsector)
    have hsize : gptPartitionEntryCount * gptPartitionEntrySizeBytes + 2 < limit := by decide
    simp only [policyWindow, bind_eq_ok_iff, okOr_eq_ok_iff, checkedMul_eq_some_iff,
      checkedAdd_eq_some_iff, checkedSub_eq_some_iff, ceilDiv_eq_some_iff]
    refine ⟨_, ⟨by decide, rfl⟩, gptEntrySectors sector, ⟨hsector, rfl⟩, first,
      ⟨by omega, hfirst.symm⟩, gptEntrySectors sector + 1, ⟨by omega, rfl⟩, stop,
      ⟨by omega, by omega⟩, rfl⟩
  | dos =>
    obtain ⟨rfl, rfl⟩ := h.dos rfl
    rfl

/-- On a larger disk a new table leaves at least as much. -/
theorem PolicyWindow.grow {diskSectors' : Nat}
    (h : PolicyWindow policy sector diskSectors first stop) (hle : diskSectors ≤ diskSectors') :
    ∃ stop', PolicyWindow policy sector diskSectors' first stop' ∧ stop ≤ stop' := by
  cases policy with
  | gpt =>
    obtain ⟨hfirst, hstop⟩ := h.gpt rfl
    refine ⟨stop + (diskSectors' - diskSectors), ⟨fun _ => ⟨hfirst, by omega⟩, nofun, ?_⟩, by omega⟩
    have hwithin := h.within
    omega
  | dos =>
    obtain ⟨hfirst, hstop⟩ := h.dos rfl
    refine ⟨min diskSectors' (2 ^ 32), ⟨nofun, fun _ => ⟨hfirst, rfl⟩, Nat.min_le_left _ _⟩, ?_⟩
    omega

/-- What `blank_disk_geometry` computes for a disk and the table it is to get: the first
aligned sector, and the sector where the usable part ends. -/
structure UsableWindow (disk : BlockDevice) (policy : CreatePartitionTablePolicy)
    (sector start stop : Nat) : Prop where
  logical : disk.logicalSectorBytes = some sector
  geometry : 512 ≤ sector ∧ isPowerOfTwo sector ∧ 0 < disk.sizeBytes ∧ disk.sizeBytes % sector = 0
  window : ∃ first, policyWindow policy sector (disk.sizeBytes / sector) = .ok (first, stop) ∧
    alignUp first (max (divCeil createPartitionAlignmentBytes sector) 1) = some start
  room : start < stop

/-- The sectors lie in the usable window of the disk. -/
def InUsableWindow (disk : BlockDevice) (policy : CreatePartitionTablePolicy)
    (start count : Nat) : Prop :=
  ∃ sector windowStart windowStop, UsableWindow disk policy sector windowStart windowStop ∧
    windowStart ≤ start ∧ start + count ≤ windowStop

/-- The window is the one of every geometry that is computed. -/
theorem blankDiskGeometry_window {source : ProvisioningOpportunity} {geometry : BlankDiskGeometry}
    (h : blankDiskGeometry s source policy = .ok geometry) :
    ∃ path node stop, source.disk = some path ∧
      (flatten s.storage.blockDevices).filter (·.device.path = some path) = [node] ∧
      UsableWindow node.device policy geometry.sectorSizeBytes geometry.startSector stop ∧
      geometry.availableBytes = (stop - geometry.startSector) * geometry.sectorSizeBytes := by
  unfold blankDiskGeometry blankDisk at h
  simp only [bind_eq_ok_iff, exists_check_iff, Extend.ensure_eq_ok_iff, okOr_eq_ok_iff,
    Extend.unique_eq_ok_iff, checkedMul_eq_some_iff, checkedSub_eq_some_iff,
    ceilDiv_eq_some_iff] at h
  obtain ⟨_, -, -, path, hpath, _, ⟨node, hnode, -, -, -, -, hpure⟩, sector, hsector, hgeometry, _,
    ⟨-, rfl⟩, ⟨first, stop⟩, hwindow, start, haligned, hroom, _, ⟨-, rfl⟩, _, ⟨-, rfl⟩, -,
    hresult⟩ := h
  cases hpure
  cases hresult
  obtain ⟨hsize, hpower, hpositive, hwhole, -⟩ := hgeometry
  exact ⟨path, node, stop, hpath, hnode,
    ⟨hsector, ⟨hsize, hpower, hpositive, hwhole⟩, ⟨first, hwindow, haligned⟩, hroom⟩, rfl⟩

end Window

section Laws

variable {old s : HostSnapshot} {request : CreateRequest} {plan : CreatePlanPreview}

/-- The one device of this path. -/
def DeviceAt (s : HostSnapshot) (path : String) (disk : BlockDevice) : Prop :=
  ∃ node, (flatten s.storage.blockDevices).filter (·.device.path = some path) = [node] ∧
    node.device = disk

theorem blankDiskOf_eq_some_iff {disk : BlockDevice} :
    blankDiskOf s plan = some disk ↔ DeviceAt s plan.sourceDisk disk := by
  unfold blankDiskOf DeviceAt
  simp only [Option.map_eq_some_iff, one_eq_some_iff]

/-- What the freezer has checked of the plan and the fresh disk when nothing blocks. -/
structure Freezable (s : HostSnapshot) (plan : CreatePlanPreview) (source : ProvisioningOpportunity)
    (allocation : CreateAllocation) (disk : BlockDevice) (sector count : Nat) : Prop where
  preview : plan.status = .preview
  source_eq : plan.source = some source ∧ source.kind = .blankDisk
  allocation_eq : plan.allocation = some allocation
  ofDisk : blankDiskOf s plan = some disk
  logical : disk.logicalSectorBytes = some sector ∧ 0 < sector
  counted : allocation.sectorCount = some count ∧ 0 < count
  bytes : frozenPartitionBytes s plan = count * sector ∧ allocation.roundedBytes = count * sector

theorem freezable_of_blockers (h : blankDiskBlockers s plan = []) :
    ∃ source allocation disk sector count, Freezable s plan source allocation disk sector count := by
  simp only [blankDiskBlockers, List.append_eq_nil_iff, pushBlocker_eq_nil_iff,
    previewBlockers_eq_nil_iff, not_not, not_or] at h
  obtain ⟨⟨⟨⟨⟨⟨⟨⟨⟨⟨⟨hpreview, -⟩, -⟩, -⟩, -⟩, hsource⟩, hallocation⟩, -⟩, hdisk⟩, -⟩, hgeometry⟩,
    hbytes⟩ := h
  obtain ⟨source, hsource, hkind⟩ := Option.map_eq_some_iff.mp hsource
  obtain ⟨count, hcount⟩ := Option.ne_none_iff_exists'.mp hallocation.2.2
  obtain ⟨allocation, hallocated, hcounted⟩ := Option.bind_eq_some_iff.mp hcount
  obtain ⟨disk, hdisk⟩ := Option.ne_none_iff_exists'.mp hdisk
  obtain ⟨hsector, -, hsome⟩ := hgeometry
  have hfresh : freshSectorBytes s plan = disk.logicalSectorBytes.getD 0 := by
    rw [freshSectorBytes, hdisk]
    rfl
  obtain ⟨sector, hlogical⟩ : ∃ sector, disk.logicalSectorBytes = some sector := by
    cases hlogical : disk.logicalSectorBytes with
    | none =>
      rw [hfresh, hlogical] at hsector
      exact absurd rfl hsector
    | some sector => exact ⟨sector, rfl⟩
  rw [hlogical, Option.getD_some] at hfresh
  rw [hfresh] at hsector
  have hmul : frozenPartitionBytes s plan = (checkedMul count sector).getD 0 := by
    rw [frozenPartitionBytes, hcount, hfresh]
    exact if_pos (Nat.pos_of_ne_zero hsector)
  have hproduct : frozenPartitionBytes s plan = count * sector := by
    rw [hmul]
    unfold checkedMul
    by_cases hfits : count * sector < limit
    · rw [if_pos hfits]
      rfl
    · rw [hmul, checkedMul, if_neg hfits] at hbytes
      exact absurd rfl hbytes.1
  refine ⟨source, allocation, disk, sector, count, hpreview, ⟨hsource, hkind⟩, hallocated, hdisk,
    ⟨hlogical, Nat.pos_of_ne_zero hsector⟩, ⟨hcounted, ?_⟩, hproduct, ?_⟩
  · refine Nat.pos_of_ne_zero fun hzero => hsome ?_
    rw [hcount, hzero]
  · have hrounded := hbytes.2
    rw [hallocated, Option.any_some, hproduct] at hrounded
    simpa using hrounded

/-- The sectors that a preview takes of a blank disk: they begin where the window of the disk
begins, and they end in it. -/
structure TakenFromWindow (disk : BlockDevice) (policy : CreatePartitionTablePolicy)
    (allocation : CreateAllocation) (sector start count : Nat) : Prop where
  window : ∃ stop, UsableWindow disk policy sector start stop ∧ start + count ≤ stop
  allocated : allocation.partitionTable = some policy ∧ allocation.startSector = some start ∧
    allocation.sectorCount = some count
  bytes : allocation.roundedBytes = count * sector

theorem Created.takenFromWindow {source : ProvisioningOpportunity} {adapter : CreateSourceAdapter}
    {allocation : CreateAllocation} (h : Created s request plan source adapter allocation)
    (hkind : source.kind = .blankDisk) :
    ∃ disk policy sector start count, DeviceAt s plan.sourceDisk disk ∧
      TakenFromWindow disk policy allocation sector start count := by
  have hresolved := resolveCreateSourceAdapter_ok h.resolved
  rw [hkind] at hresolved
  obtain ⟨policy, path, node, sector, first, stop, start, -, blank⟩ := resolveBlankDisk_ok hresolved
  have hadapter := blank.adapter_eq
  have hsector := blank.geometry.1
  obtain ⟨count, hcount, hwithin, hcounted⟩ := h.rounded.counted (stop - start)
    (by rw [hadapter, hkind]; rfl) (by rw [hadapter]; dsimp only; omega) (by rw [hadapter])
  obtain ⟨-, -, -, hstart, -, -, hpolicy⟩ := h.rounded.rest
  have hpath : plan.sourceDisk = path := by
    rw [CreatePlanPreview.sourceDisk, h.shown.1, Option.bind_some, blank.named]
    rfl
  have hwindow := (policyWindow_eq_ok_iff (by omega)).mpr blank.window
  refine ⟨node.device, policy, sector, start, count, ⟨node, by rw [hpath]; exact blank.ofDisk, rfl⟩,
    ⟨stop, ⟨blank.logical, ⟨hsector, blank.geometry.2.1, blank.geometry.2.2.1,
      blank.geometry.2.2.2.1⟩, ⟨first, hwindow, blank.aligned⟩, blank.room⟩, ?_⟩,
    ⟨by rw [hpolicy, hadapter], by rw [hstart, hadapter], hcount⟩, ?_⟩
  · have hroom := blank.room
    omega
  · rw [hcounted.whole, hadapter]

/-- A disk of as many bytes or more, in sectors of the same length, has the same window or a
longer one. -/
theorem UsableWindow.grow {before after : BlockDevice} {policy : CreatePartitionTablePolicy}
    {sector start stop : Nat} (h : UsableWindow before policy sector start stop)
    (hsector : after.logicalSectorBytes = some sector)
    (hwhole : after.sizeBytes % sector = 0) (hsize : before.sizeBytes ≤ after.sizeBytes) :
    ∃ stop', UsableWindow after policy sector start stop' ∧ stop ≤ stop' := by
  obtain ⟨hleast, hpower, hpositive, -⟩ := h.geometry
  obtain ⟨first, hwindow, haligned⟩ := h.window
  have hzero : sector ≠ 0 := by omega
  obtain ⟨stop', hgrown, hle⟩ := ((policyWindow_eq_ok_iff hzero).mp hwindow).grow
    (Nat.div_le_div_right hsize)
  refine ⟨stop', ⟨hsector, ⟨hleast, hpower, by omega, hwhole⟩,
    ⟨first, (policyWindow_eq_ok_iff hzero).mpr hgrown, haligned⟩, ?_⟩, hle⟩
  exact h.room.trans_le hle

theorem UsableWindow.aligned {disk : BlockDevice} {policy : CreatePartitionTablePolicy}
    {sector start stop : Nat} (h : UsableWindow disk policy sector start stop) :
    start * sector % createPartitionAlignmentBytes = 0 := by
  obtain ⟨first, -, haligned⟩ := h.window
  exact aligned_bytes h.geometry.2.1 (alignUp_ok haligned).1

/-- The disk at the path is the one that was planned for, as far as its model and its serial
number tell, and it has not become smaller; it still is a whole number of sectors. -/
structure StillThere (before after : BlockDevice) : Prop where
  size : before.sizeBytes ≤ after.sizeBytes
  whole : ∀ sector, after.logicalSectorBytes = some sector → after.sizeBytes % sector = 0
  identity : after.model = before.model ∧ after.serial = before.serial

/-- The intent is right about the disk as it is now, and the disk is the one planned for. -/
structure RightAboutDisk (before after : BlockDevice) (intent : FrozenBlankDiskFilesystemIntent) :
    Prop where
  window : InUsableWindow after intent.partitionTable intent.partitionStartSector
    intent.partitionSectorCount
  aligned : intent.partitionStartSector * intent.logicalSectorBytes %
    createPartitionAlignmentBytes = 0
  bytes : intent.partitionSizeBytes = intent.partitionSectorCount * intent.logicalSectorBytes
  current : intent.diskSizeBytes = after.sizeBytes ∧
    after.logicalSectorBytes = some intent.logicalSectorBytes
  sameSector : after.logicalSectorBytes = before.logicalSectorBytes
  notShrunk : before.sizeBytes ≤ after.sizeBytes
  notSwapped : after.model = before.model ∧ after.serial = before.serial

variable [Fingerprint]

/-- A ready intent is right about its disk exactly when the disk has neither been replaced nor
become smaller since the preview. The sector size cannot have changed. -/
theorem freezeBlankDisk_right_iff
    (h : (freezeBlankDiskFilesystemCreateIntent s (planCreate old request)).ready) :
    ∃ before after,
      DeviceAt old (freezeBlankDiskFilesystemCreateIntent s (planCreate old request)).disk before ∧
      DeviceAt s (freezeBlankDiskFilesystemCreateIntent s (planCreate old request)).disk after ∧
      (RightAboutDisk before after
          (freezeBlankDiskFilesystemCreateIntent s (planCreate old request)) ↔
        StillThere before after) := by
  simp only [FrozenBlankDiskFilesystemIntent.ready, Bool.and_eq_true] at h
  obtain ⟨source, allocation, after, sector, count, frozen⟩ :=
    freezable_of_blockers (List.isEmpty_iff.mp h.1.2)
  obtain ⟨source', adapter, allocation', created⟩ := planCreate_preview frozen.preview
  obtain rfl : source = source' := Option.some.inj (frozen.source_eq.1.symm.trans created.shown.1)
  obtain rfl : allocation = allocation' :=
    Option.some.inj (frozen.allocation_eq.symm.trans created.shown.2)
  obtain ⟨before, policy, sector', start, count', hbefore, taken⟩ :=
    created.takenFromWindow frozen.source_eq.2
  obtain ⟨stop, window, hend⟩ := taken.window
  obtain rfl : count' = count := Option.some.inj (taken.allocated.2.2.symm.trans frozen.counted.1)
  -- the rounded bytes are counted in both sector sizes
  obtain rfl : sector' = sector := Nat.eq_of_mul_eq_mul_left frozen.counted.2
    (taken.bytes.symm.trans frozen.bytes.2)
  have hpolicy : (planCreate old request).tablePolicy = some policy := by
    rw [CreatePlanPreview.tablePolicy, frozen.allocation_eq]
    exact taken.allocated.1
  have hstart : (planCreate old request).startSector = some start := by
    rw [CreatePlanPreview.startSector, frozen.allocation_eq]
    exact taken.allocated.2.1
  have hcount : (planCreate old request).sectorCount = some count' := by
    rw [CreatePlanPreview.sectorCount, frozen.allocation_eq]
    exact taken.allocated.2.2
  have hfresh : freshSectorBytes s (planCreate old request) = sector' := by
    rw [freshSectorBytes, frozen.ofDisk, Option.bind_some, frozen.logical.1]
    rfl
  refine ⟨before, after, hbefore, blankDiskOf_eq_some_iff.mp frozen.ofDisk, ?_⟩
  constructor
  · intro right
    refine ⟨right.notShrunk, fun unit hunit => ?_, right.notSwapped⟩
    obtain ⟨_, _, _, now, -⟩ := right.window
    obtain rfl : unit = _ := Option.some.inj (hunit.symm.trans now.logical)
    exact now.geometry.2.2.2
  · intro there
    obtain ⟨stop', now, hlonger⟩ := window.grow frozen.logical.1
      (there.whole sector' frozen.logical.1) there.size
    refine ⟨?_, ?_, ?_, ⟨?_, ?_⟩, frozen.logical.1.trans window.logical.symm, there.size,
      there.identity⟩
    all_goals dsimp only [freezeBlankDiskFilesystemCreateIntent, blankDiskIntent]
    · rw [hpolicy, hstart, hcount]
      exact ⟨sector', start, stop', now, le_rfl, hend.trans hlonger⟩
    · rw [hstart, hfresh]
      exact now.aligned
    · rw [hcount, hfresh]
      exact frozen.bytes.1
    · rw [frozen.ofDisk]
      rfl
    · rw [hfresh]
      exact frozen.logical.1

end Laws

section Samples

/-- A host with one blank disk. -/
def blankLoopSnapshot (sizeBytes : Nat) (serial : String) : HostSnapshot where
  storage :=
    { blockDevices :=
        [{ name := "loop7", kernelName := some "loop7", path := some "/dev/loop7", kind := .loop,
           sizeBytes, start512Sector := none, logicalSectorBytes := some 512, filesystem := none,
           mountpoints := [], parentKernelName := none, model := some "loop-test",
           serial := some serial, uuid := none, partitionUuid := none, partitionTable := none,
           children := [] }] }
  partitionTables := []
  mounts := []
  fstab := []
  swaps := []
  collectors := [⟨"partition_tables", .complete, none⟩]

/-- All of the blank disk, for ext4. -/
def blankLoopRequest : CreateRequest where
  sourceId := provisioningOpportunityId .blankDisk "/dev/loop7" (some "/dev/loop7") none none none
  size := .maxFree
  purpose := .filesystem
  filesystem := some "ext4"
  mountpoint := none
  partitionTable := some .gpt

def blankLoopPlan : CreatePlanPreview :=
  planCreate (blankLoopSnapshot (64 * 1024 * 1024) "fixture-001") blankLoopRequest

theorem freezeBlankDisk_right_grown :
    ∃ before after,
      DeviceAt (blankLoopSnapshot (64 * 1024 * 1024) "fixture-001")
        (freezeBlankDiskFilesystemCreateIntent
          (blankLoopSnapshot (65 * 1024 * 1024) "fixture-001") blankLoopPlan).disk before ∧
      DeviceAt (blankLoopSnapshot (65 * 1024 * 1024) "fixture-001")
        (freezeBlankDiskFilesystemCreateIntent
          (blankLoopSnapshot (65 * 1024 * 1024) "fixture-001") blankLoopPlan).disk after ∧
      (RightAboutDisk before after (freezeBlankDiskFilesystemCreateIntent
          (blankLoopSnapshot (65 * 1024 * 1024) "fixture-001") blankLoopPlan) ↔
        StillThere before after) :=
  freezeBlankDisk_right_iff (by decide +kernel)

/-- Another disk of half the size at the same path: the intent is ready all the same, and its
sectors end behind the disk. -/
theorem freezeBlankDisk_replaced :
    (freezeBlankDiskFilesystemCreateIntent
      (blankLoopSnapshot (32 * 1024 * 1024) "fixture-002") blankLoopPlan).ready ∧
    (freezeBlankDiskFilesystemCreateIntent
      (blankLoopSnapshot (32 * 1024 * 1024) "fixture-002") blankLoopPlan).disk = "/dev/loop7" ∧
    ∀ disk, DeviceAt (blankLoopSnapshot (32 * 1024 * 1024) "fixture-002") "/dev/loop7" disk →
      ¬InUsableWindow disk .gpt
        (freezeBlankDiskFilesystemCreateIntent
          (blankLoopSnapshot (32 * 1024 * 1024) "fixture-002") blankLoopPlan).partitionStartSector
        (freezeBlankDiskFilesystemCreateIntent
          (blankLoopSnapshot (32 * 1024 * 1024) "fixture-002") blankLoopPlan).partitionSectorCount := by
  refine ⟨by decide +kernel, by decide +kernel, ?_⟩
  intro disk hdisk hwindow
  obtain ⟨node, hnode, rfl⟩ := hdisk
  have hmem := (mem_of_filter_eq_singleton hnode).1
  have hsize : node.device.sizeBytes / 512 = 65536 ∧ node.device.logicalSectorBytes = some 512 := by
    have hall : ∀ n ∈ flatten (blankLoopSnapshot (32 * 1024 * 1024) "fixture-002").storage.blockDevices,
        n.device.sizeBytes / 512 = 65536 ∧ n.device.logicalSectorBytes = some 512 := by
      decide +kernel
    exact hall node hmem
  obtain ⟨sector, start, stop, window, -, hend⟩ := hwindow
  obtain rfl : sector = 512 := Option.some.inj (window.logical.symm.trans hsize.2)
  obtain ⟨first, hfirst, -⟩ := window.window
  have hwithin := (policyWindow_ok hfirst).within
  have hpassed : 65536 <
      (freezeBlankDiskFilesystemCreateIntent
        (blankLoopSnapshot (32 * 1024 * 1024) "fixture-002") blankLoopPlan).partitionStartSector +
      (freezeBlankDiskFilesystemCreateIntent
        (blankLoopSnapshot (32 * 1024 * 1024) "fixture-002") blankLoopPlan).partitionSectorCount := by
    decide +kernel
  omega

end Samples

end StorageManager.Planner.Provisioning
