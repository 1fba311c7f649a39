import StorageManager.Planner.CreateIntent
import StorageManager.Planner.GptRecords

/-!
# The frozen intent of a GPT tail

A preview of a filesystem behind the last partition of a GPT disk is frozen against a newer
snapshot. The freezer checks the table's records again, finds the free tail again, and
records a digest of the table.
-/

namespace StorageManager.Planner.Provisioning

open Core (BlockDevice HostSnapshot Node PartitionRecord PartitionTable flatten)
open Discovery (one one_eq_some_iff)
open Extend (Blocker Growth PlanStatus blocked isDisk)
open Lib.Checks
open Lib.Json (Value ToJson toJson)
open Lib.Word64

set_option autoImplicit false

section Intent

structure FrozenGptTailDiskIdentity where
  path : String
  sizeBytes : Nat
  logicalSectorBytes : Nat
  model : Option String
  serial : Option String

structure FrozenGptTailTableIdentity where
  label : String
  id : String
  unit : String
  firstLba : Nat
  lastLba : Nat
  sectorSizeBytes : Nat
  tableSha256 : String
  existingPartitionCount : Nat

structure FrozenGptTailAllocation where
  sourceStartSector : Nat
  sourceSectorCount : Nat
  sourceSizeBytes : Nat
  partitionStartSector : Nat
  partitionSectorCount : Nat
  partitionSizeBytes : Nat

structure FrozenGptTailFilesystemIntent where
  schemaVersion : Nat
  intentId : String
  executable : Bool
  status : PlanStatus
  createPlanId : String
  sourceId : String
  disk : FrozenGptTailDiskIdentity
  gpt : FrozenGptTailTableIdentity
  allocation : FrozenGptTailAllocation
  filesystem : String
  mountpoint : Option String
  partitionSlotDeferred : Bool
  partitionTableWriteAuthorized : Bool
  filesystemFormatAuthorized : Bool
  blockers : List Blocker
  orderedFutureSteps : List String

def FrozenGptTailFilesystemIntent.ready (i : FrozenGptTailFilesystemIntent) : Bool :=
  i.status = .preview && i.blockers.isEmpty && !i.executable && i.partitionSlotDeferred &&
    !i.partitionTableWriteAuthorized && !i.filesystemFormatAuthorized

instance : ToJson FrozenGptTailDiskIdentity where
  toJson d := .obj [("path", toJson d.path), ("size_bytes", toJson d.sizeBytes),
    ("logical_sector_bytes", toJson d.logicalSectorBytes), ("model", toJson d.model),
    ("serial", toJson d.serial)]

instance : ToJson FrozenGptTailTableIdentity where
  toJson t := .obj [("label", toJson t.label), ("id", toJson t.id), ("unit", toJson t.unit),
    ("first_lba", toJson t.firstLba), ("last_lba", toJson t.lastLba),
    ("sector_size_bytes", toJson t.sectorSizeBytes), ("table_sha256", toJson t.tableSha256),
    ("existing_partition_count", toJson t.existingPartitionCount)]

instance : ToJson FrozenGptTailAllocation where
  toJson a := .obj [("source_start_sector", toJson a.sourceStartSector),
    ("source_sector_count", toJson a.sourceSectorCount),
    ("source_size_bytes", toJson a.sourceSizeBytes),
    ("partition_start_sector", toJson a.partitionStartSector),
    ("partition_sector_count", toJson a.partitionSectorCount),
    ("partition_size_bytes", toJson a.partitionSizeBytes)]

/-- `IntentDigestPayload`: everything but the identifier itself. -/
def FrozenGptTailFilesystemIntent.payload (i : FrozenGptTailFilesystemIntent) : Value :=
  .obj [("schema_version", toJson i.schemaVersion), ("executable", toJson i.executable),
    ("status", toJson i.status), ("create_plan_id", toJson i.createPlanId),
    ("source_id", toJson i.sourceId), ("disk", toJson i.disk), ("gpt", toJson i.gpt),
    ("allocation", toJson i.allocation), ("filesystem", toJson i.filesystem),
    ("mountpoint", toJson i.mountpoint),
    ("partition_slot_deferred", toJson i.partitionSlotDeferred),
    ("partition_table_write_authorized", toJson i.partitionTableWriteAuthorized),
    ("filesystem_format_authorized", toJson i.filesystemFormatAuthorized),
    ("blockers", toJson i.blockers), ("ordered_future_steps", toJson i.orderedFutureSteps)]

variable [Fingerprint]

def FrozenGptTailFilesystemIntent.expectedIntentId (i : FrozenGptTailFilesystemIntent) : String :=
  fingerprint i.payload

def FrozenGptTailFilesystemIntent.integrityMatches (i : FrozenGptTailFilesystemIntent) : Bool :=
  i.intentId = i.expectedIntentId

theorem FrozenGptTailFilesystemIntent.identified (i : FrozenGptTailFilesystemIntent) :
    ({ i with intentId := i.expectedIntentId } : FrozenGptTailFilesystemIntent).integrityMatches :=
  decide_eq_true rfl

end Intent

section Readings

variable (s : HostSnapshot) (plan : CreatePlanPreview)

/-- Not empty, and without zero bytes and control characters. -/
def safeIdentifier (value : String) : Bool :=
  value ≠ "" && !value.toUTF8.toList.contains 0 && !value.toList.any isControl

/-- The one disk at the path of the plan's source. -/
def gptDiskOf : Option BlockDevice :=
  (one ((flatten s.storage.blockDevices).filter fun n =>
    isDisk n.device.kind && n.device.path == some plan.sourceDisk)).map (·.device)

/-- The one table of this disk. -/
def gptTableOf : Option PartitionTable :=
  one (s.partitionTables.filter (·.device = plan.sourceDisk))

/-- The disk is not one with a GPT and nothing else on the whole of it. -/
def gptDiskUnfit (disk : BlockDevice) : Bool :=
  disk.sizeBytes = 0 || disk.logicalSectorBytes.isNone || disk.filesystem.isSome ||
    !disk.mountpoints.isEmpty || disk.partitionTable ≠ some "gpt" ||
    s.swaps.any (·.name = plan.sourceDisk)

/-- `u32::try_from`, or the largest number there is. -/
def partitionCount (table : PartitionTable) : Nat := min table.partitions.length (2 ^ 32 - 1)

def gptTableInvalid (table : PartitionTable) : Bool :=
  table.label ≠ some "gpt" || table.unit ≠ some "sectors" || !safeIdentifier (table.id.getD "") ||
    table.firstLba.getD 0 = 0 || table.lastLba.getD 0 < table.firstLba.getD 0 ||
    table.sectorSizeBytes.getD 0 < 512 || !isPowerOfTwo (table.sectorSizeBytes.getD 0) ||
    partitionCount table = 2 ^ 32 - 1 ||
    !validateExistingGptRecords table (table.firstLba.getD 0) (table.lastLba.getD 0)

def tableSectorBytes : Nat := ((gptTableOf s plan).bind (·.sectorSizeBytes)).getD 0

def tableLastLba : Nat := ((gptTableOf s plan).bind (·.lastLba)).getD 0

/-- The plan's source, resolved in this snapshot. -/
def tailAdapter : Option (Except Blocker CreateSourceAdapter) :=
  plan.source.map (resolveCreateSourceAdapter s · none)

def freshAdapter : Option CreateSourceAdapter := (tailAdapter s plan).bind (·.toOption)

def sourceStartSector : Nat := ((freshAdapter s plan).bind (·.startSector)).getD 0

def sourceSectorCount : Nat := ((freshAdapter s plan).bind (·.sectorCount)).getD 0

def sourceSizeBytes : Nat := ((freshAdapter s plan).map (·.availableBytes)).getD 0

def tailAdapterMismatch (adapter : CreateSourceAdapter) : Bool :=
  adapter.kind ≠ .diskTail || adapter.disk ≠ some plan.sourceDisk ||
    adapter.partitionTable.isSome || adapter.allocationUnitBytes ≠ tableSectorBytes s plan ||
    adapter.availableBytes = 0

def tailPartitionStart : Nat := plan.startSector.getD 0

def tailPartitionCount : Nat := plan.sectorCount.getD 0

def tailPartitionBytes : Nat :=
  (checkedMul (tailPartitionCount plan) (tableSectorBytes s plan)).getD 0

def tailAllocationMismatch : Bool :=
  plan.allocation.isNone || tailPartitionStart plan ≠ sourceStartSector s plan ||
    tailPartitionCount plan = 0 || sourceSectorCount s plan < tailPartitionCount plan ||
    tailPartitionBytes s plan = 0 || plan.allocation.any fun allocation =>
      allocation.roundedBytes ≠ tailPartitionBytes s plan ||
        allocation.availableBytes ≠ sourceSizeBytes s plan ||
        allocation.partitionTable.isSome || allocation.volumeGroup.isSome

def tailStartUnaligned : Bool :=
  tableSectorBytes s plan = 0 ||
    createPartitionAlignmentBytes % tableSectorBytes s plan ≠ 0 ||
    tailPartitionStart plan %
      max (createPartitionAlignmentBytes / max (tableSectorBytes s plan) 1) 1 ≠ 0

/-- The partition ends behind its source, or behind what the table may use. -/
def tailRangeInvalid : Bool :=
  match checkedAdd (sourceStartSector s plan) (sourceSectorCount s plan),
    checkedAdd (tailPartitionStart plan) (tailPartitionCount plan) with
  | some sourceEnd, some partitionEnd =>
    sourceEnd < partitionEnd || min (tableLastLba s plan + 1) (limit - 1) < partitionEnd
  | _, _ => true

end Readings

section Freeze

variable (s : HostSnapshot) (plan : CreatePlanPreview)

def gptTailBlockers : List Blocker :=
  previewBlockers plan "m2b1-preview-not-freezable"
    "only a successful non-executable Create preview can be frozen" ++
  pushBlocker (plan.request.purpose ≠ .filesystem) "m2b1-purpose-unsupported"
    "M2B1 freezes only filesystem creation inside an existing GPT tail" ++
  pushBlocker (¬(plan.request.filesystem.getD "" = "ext4" ∨
      plan.request.filesystem.getD "" = "xfs")) "m2b1-filesystem-unsupported"
    "M2B1 accepts only ext4 or XFS filesystem intent" ++
  pushBlocker plan.request.mountpoint.isSome "m2b1-mount-intent-deferred"
    "mount and persistent configuration remain a later activation gate" ++
  pushBlocker plan.request.partitionTable.isSome "m2b1-partition-policy-unexpected"
    "an existing GPT table must be preserved rather than recreated" ++
  pushBlocker (¬(collectorComplete s "lsblk" ∧ collectorComplete s "partition_tables"))
    "m2b1-discovery-incomplete"
    "complete lsblk and authoritative partition-table discovery are required" ++
  pushBlocker (plan.source.map (·.kind) ≠ some .diskTail) "m2b1-source-not-gpt-tail"
    "M2B1 accepts only an exact verified existing-disk tail free range" ++
  pushBlocker (gptDiskOf s plan = none) "m2b1-disk-identity-ambiguous"
    "selected GPT-tail disk is absent or ambiguous in fresh discovery" ++
  pushBlocker ((gptDiskOf s plan).any (gptDiskUnfit s plan)) "m2b1-disk-state-invalid"
    "selected device is not a plain GPT disk identity suitable for tail provisioning" ++
  pushBlocker (gptTableOf s plan = none) "m2b1-gpt-table-ambiguous"
    "exactly one authoritative partition table must match the selected disk" ++
  pushBlocker ((gptTableOf s plan).any gptTableInvalid) "m2b1-gpt-table-invalid"
    ("GPT label, disk identifier, sector geometry or existing partition records are " ++
      "incomplete or unsafe") ++
  pushBlocker ((gptTableOf s plan).any fun table => !table.id.any safeIdentifier)
    "m2b1-gpt-id-missing"
    "a stable non-empty GPT disk identifier is required before freezing tail creation" ++
  pushBlocker ((gptTableOf s plan).isSome && (gptDiskOf s plan).any fun disk =>
      disk.logicalSectorBytes ≠ some (tableSectorBytes s plan) ||
        disk.sizeBytes % max (tableSectorBytes s plan) 1 ≠ 0)
    "m2b1-sector-geometry-mismatch"
    "GPT and block-device logical-sector geometry do not match exactly" ++
  (match tailAdapter s plan with
    | some (.error blocker) => [blocker]
    | _ => []) ++
  pushBlocker ((freshAdapter s plan).any (tailAdapterMismatch s plan))
    "m2b1-tail-adapter-mismatch"
    "fresh Create source adapter no longer matches the exact GPT tail" ++
  pushBlocker (tailAllocationMismatch s plan) "m2b1-allocation-mismatch"
    "frozen partition allocation no longer matches exact GPT-tail sector geometry" ++
  pushBlocker (tailStartUnaligned s plan) "m2b1-tail-start-unaligned"
    "the future partition start must already be aligned to the 1 MiB Create boundary" ++
  pushBlocker (tailRangeInvalid s plan) "m2b1-tail-range-invalid"
    "future partition extent escapes the freshly verified GPT tail"

def gptTailFutureSteps : List String :=
  [("rediscover and require the exact same disk identity, GPT disk identifier, canonical " ++
      "table digest and tail geometry"),
    "capture and fsync a pre-mutation GPT partition-table backup and evidence record",
    ("resolve exactly one unused GPT partition slot from fresh trusted runtime tooling; " ++
      "partition number is deliberately not frozen by M2B1"),
    ("prepare one partition addition at the frozen tail start/count while preserving every " ++
      "pre-existing GPT entry byte-for-byte in the intended table model"),
    ("rediscover authoritative GPT geometry and prove all previous entries unchanged plus " ++
      "exactly one new partition before formatting"),
    "format only the newly proven partition with the frozen ext4/XFS profile",
    ("defer mount and persistent configuration to the existing guarded mount/persistence " ++
      "activation path")]

variable [Fingerprint]

def gptTableIdentity : FrozenGptTailTableIdentity where
  label := "gpt"
  id := ((gptTableOf s plan).bind (·.id)).getD ""
  unit := "sectors"
  firstLba := ((gptTableOf s plan).bind (·.firstLba)).getD 0
  lastLba := tableLastLba s plan
  sectorSizeBytes := tableSectorBytes s plan
  tableSha256 := ((gptTableOf s plan).map canonicalTableSha256).getD ""
  existingPartitionCount := ((gptTableOf s plan).map partitionCount).getD 0

/-- The intent before it has its own identifier. -/
def gptTailIntent : FrozenGptTailFilesystemIntent where
  schemaVersion := 1
  intentId := ""
  executable := false
  status := if gptTailBlockers s plan = [] then .preview else .blocked
  createPlanId := plan.planId
  sourceId := (plan.source.map (·.id)).getD ""
  disk :=
    { path := plan.sourceDisk
      sizeBytes := ((gptDiskOf s plan).map (·.sizeBytes)).getD 0
      logicalSectorBytes := ((gptDiskOf s plan).bind (·.logicalSectorBytes)).getD 0
      model := (gptDiskOf s plan).bind (·.model)
      serial := (gptDiskOf s plan).bind (·.serial) }
  gpt := gptTableIdentity s plan
  allocation :=
    { sourceStartSector := sourceStartSector s plan
      sourceSectorCount := sourceSectorCount s plan
      sourceSizeBytes := sourceSizeBytes s plan
      partitionStartSector := tailPartitionStart plan
      partitionSectorCount := tailPartitionCount plan
      partitionSizeBytes := tailPartitionBytes s plan }
  filesystem := plan.request.filesystem.getD ""
  mountpoint := plan.request.mountpoint
  partitionSlotDeferred := true
  partitionTableWriteAuthorized := false
  filesystemFormatAuthorized := false
  blockers := gptTailBlockers s plan
  orderedFutureSteps := gptTailFutureSteps

def freezeGptTailFilesystemCreateIntent : FrozenGptTailFilesystemIntent :=
  { gptTailIntent s plan with intentId := (gptTailIntent s plan).expectedIntentId }

theorem freezeGptTail_integrityMatches :
    (freezeGptTailFilesystemCreateIntent s plan).integrityMatches :=
  (gptTailIntent s plan).identified

end Freeze

section Laws

variable {s : HostSnapshot} {plan : CreatePlanPreview}

/-- The one disk of this path, and its one table. -/
structure TableAt (s : HostSnapshot) (path : String) (disk : BlockDevice) (table : PartitionTable) :
    Prop where
  ofDisk : ∃ node, (flatten s.storage.blockDevices).filter (fun n =>
    isDisk n.device.kind && n.device.path == some path) = [node] ∧ node.device = disk
  ofTable : s.partitionTables.filter (·.device = path) = [table]

/-- What the freezer has checked of a table that it found valid. -/
structure ValidTable (table : PartitionTable) (sector first last : Nat) : Prop where
  label : table.label = some "gpt"
  bounds : table.firstLba = some first ∧ table.lastLba = some last
  sectorSize : table.sectorSizeBytes = some sector ∧ 512 ≤ sector
  records : last + 1 < limit ∧ SoundRecords first (last + 1) table.partitions

theorem eq_some_of_getD_ne {a : Option Nat} (h : a.getD 0 ≠ 0) : a = some (a.getD 0) := by
  cases a with
  | none => exact absurd rfl h
  | some a => rfl

theorem validTable_of_not_invalid {table : PartitionTable} (h : ¬gptTableInvalid table) :
    ValidTable table (table.sectorSizeBytes.getD 0) (table.firstLba.getD 0)
      (table.lastLba.getD 0) := by
  simp only [gptTableInvalid, Bool.or_eq_true, decide_eq_true_eq, Bool.not_eq_true', not_or,
    Bool.not_eq_false, not_not, not_lt] at h
  obtain ⟨⟨⟨⟨⟨⟨⟨⟨hlabel, -⟩, -⟩, hfirst⟩, hlast⟩, hsector⟩, -⟩, -⟩, hrecords⟩ := h
  exact ⟨hlabel, ⟨eq_some_of_getD_ne hfirst, eq_some_of_getD_ne (by omega)⟩,
    ⟨eq_some_of_getD_ne (by omega), hsector⟩, validateExistingGptRecords_iff.mp hrecords⟩

/-- What the freezer has checked when nothing blocks: a valid table, the free tail found again,
and a partition at its beginning. -/
structure TailFreezable (s : HostSnapshot) (plan : CreatePlanPreview) (disk : BlockDevice)
    (table : PartitionTable) (sector first last : Nat) (source : ProvisioningOpportunity)
    (adapter : CreateSourceAdapter) : Prop where
  found : TableAt s plan.sourceDisk disk table
  valid : ValidTable table sector first last
  source_eq : plan.source = some source ∧ source.kind = .diskTail
  resolved : resolveCreateSourceAdapter s source none = .ok adapter
  start : adapter.startSector.getD 0 = tailPartitionStart plan
  count : 0 < tailPartitionCount plan ∧ tailPartitionCount plan ≤ adapter.sectorCount.getD 0
  aligned : createPartitionAlignmentBytes % sector = 0 ∧
    tailPartitionStart plan % max (createPartitionAlignmentBytes / max sector 1) 1 = 0
  intent : gptTableOf s plan = some table ∧ tableSectorBytes s plan = sector ∧
    tableLastLba s plan = last

theorem gptDiskOf_eq_some_iff {disk : BlockDevice} : gptDiskOf s plan = some disk ↔
    ∃ node, (flatten s.storage.blockDevices).filter (fun n =>
      isDisk n.device.kind && n.device.path == some plan.sourceDisk) = [node] ∧
      node.device = disk := by
  unfold gptDiskOf
  simp only [Option.map_eq_some_iff, one_eq_some_iff]

theorem tailFreezable_of_blockers (h : gptTailBlockers s plan = []) :
    ∃ disk table sector first last source adapter,
      TailFreezable s plan disk table sector first last source adapter := by
  -- the equation of a definition with so many parts is slow to make
  delta gptTailBlockers at h
  simp only [List.append_eq_nil_iff, pushBlocker_eq_nil_iff, previewBlockers_eq_nil_iff,
    not_not] at h
  obtain ⟨⟨⟨⟨⟨⟨⟨⟨⟨⟨⟨⟨⟨⟨⟨⟨⟨-, -⟩, -⟩, -⟩, -⟩, -⟩, hsource⟩, hdisk⟩, -⟩, htable⟩, hvalid⟩, -⟩, -⟩,
    hadapter⟩, -⟩, hallocation⟩, haligned⟩, -⟩ := h
  obtain ⟨source, hsource, hkind⟩ := Option.map_eq_some_iff.mp hsource
  obtain ⟨disk, hdisk⟩ := Option.ne_none_iff_exists'.mp hdisk
  obtain ⟨table, htable⟩ := Option.ne_none_iff_exists'.mp htable
  rw [htable, Option.any_some] at hvalid
  have hsector : tableSectorBytes s plan = table.sectorSizeBytes.getD 0 := by
    rw [tableSectorBytes, htable]
    rfl
  have hlast : tableLastLba s plan = table.lastLba.getD 0 := by
    rw [tableLastLba, htable]
    rfl
  have htail : tailAdapter s plan = some (resolveCreateSourceAdapter s source none) := by
    rw [tailAdapter, hsource]
    rfl
  rw [htail] at hadapter
  cases hresolved : resolveCreateSourceAdapter s source none with
  | error blocker =>
    rw [hresolved] at hadapter
    cases hadapter
  | ok adapter =>
    have hfresh : freshAdapter s plan = some adapter := by
      rw [freshAdapter, htail, hresolved]
      rfl
    simp only [tailAllocationMismatch, sourceStartSector, sourceSectorCount, hfresh,
      Option.bind_some, Bool.or_eq_true, decide_eq_true_eq, not_or, not_lt] at hallocation
    obtain ⟨⟨⟨⟨⟨-, hstart⟩, hpositive⟩, hcount⟩, -⟩, -⟩ := hallocation
    simp only [tailStartUnaligned, Bool.or_eq_true, decide_eq_true_eq, not_or, not_not,
      hsector] at haligned
    exact ⟨disk, table, _, _, _, source, adapter,
      ⟨gptDiskOf_eq_some_iff.mp hdisk, one_eq_some_iff.mp htable⟩,
      validTable_of_not_invalid hvalid, ⟨hsource, hkind⟩, hresolved, (not_not.mp hstart).symm,
      ⟨Nat.pos_of_ne_zero hpositive, hcount⟩, ⟨haligned.1.2, haligned.2⟩, htable, hsector, hlast⟩

/-- The sectors begin at a whole mebibyte, within the bounds of the table and on the disk, and
none is a record's. -/
structure SafeRange (disk : BlockDevice) (table : PartitionTable) (sector start count : Nat) :
    Prop where
  nonempty : 0 < count
  sectorSize : table.sectorSizeBytes = some sector
  aligned : start * sector % createPartitionAlignmentBytes = 0
  apart : ∀ r ∈ table.partitions,
    start + count ≤ r.startSector ∨ r.startSector + r.sizeSectors ≤ start
  bounds : ∃ first last, table.firstLba = some first ∧ table.lastLba = some last ∧
    first ≤ start ∧ start + count ≤ last + 1
  onDisk : (start + count) * sector ≤ disk.sizeBytes

theorem mul_aligned {sector start : Nat} (hdvd : createPartitionAlignmentBytes % sector = 0)
    (h : start % (createPartitionAlignmentBytes / sector) = 0) :
    start * sector % createPartitionAlignmentBytes = 0 := by
  have hwhole := Nat.div_mul_cancel (Nat.dvd_of_mod_eq_zero hdvd)
  refine Nat.mod_eq_zero_of_dvd ?_
  rw [← hwhole]
  exact Nat.mul_dvd_mul_right (Nat.dvd_of_mod_eq_zero h) sector

/-- The least alignment is of one sector; a sector that divides the alignment is no longer. -/
theorem max_alignment {sector : Nat} (hsector : 0 < sector)
    (hdvd : createPartitionAlignmentBytes % sector = 0) :
    max (createPartitionAlignmentBytes / max sector 1) 1 = createPartitionAlignmentBytes / sector := by
  have hle := Nat.le_of_dvd (by decide) (Nat.dvd_of_mod_eq_zero hdvd)
  have hpos := Nat.div_pos hle hsector
  rw [Nat.max_eq_left hsector, Nat.max_eq_left hpos]

/-- A part of a free range, from its beginning, is safe. -/
theorem safeRange_of_free {disk : BlockDevice} {table : PartitionTable} {sector first last : Nat}
    {space : PartitionFreeSpace} {range : PartitionFreeRange} {count : Nat}
    (valid : ValidTable table sector first last)
    (hfree : partitionFreeRanges disk table = some space) (hsector : space.sectorSizeBytes = sector)
    (hrange : range ∈ space.ranges) (hcount : 0 < count ∧ count ≤ range.sectorCount)
    (haligned : createPartitionAlignmentBytes % sector = 0 ∧
      range.startSector % (createPartitionAlignmentBytes / sector) = 0) :
    SafeRange disk table sector range.startSector count := by
  obtain ⟨first', stop, hwindow, lawful⟩ := partitionFreeRanges_lawful hfree
  obtain ⟨hfirst, last', hlast, hstop⟩ := usableWindow_gpt valid.label hwindow
  obtain ⟨hbegins, hends⟩ := lawful.inside range hrange
  simp only [PartitionFreeRange.span] at hbegins hends
  rw [hsector] at hstop
  refine ⟨hcount.1, valid.sectorSize.1, mul_aligned haligned.1 haligned.2, ?_,
    ⟨first', last', hfirst, hlast, hbegins, ?_⟩, ?_⟩
  · intro r hr
    have hapart := lawful.apart range hrange r hr
    simp only [PartitionFreeRange.span, recordSpan] at hapart
    omega
  · omega
  · have hsectors : range.startSector + count ≤ disk.sizeBytes / sector := by omega
    exact (Nat.mul_le_mul_right sector hsectors).trans (Nat.div_mul_le_self _ _)

theorem TailFreezable.safe {disk : BlockDevice} {table : PartitionTable} {sector first last : Nat}
    {source : ProvisioningOpportunity} {adapter : CreateSourceAdapter}
    (h : TailFreezable s plan disk table sector first last source adapter) :
    SafeRange disk table sector (tailPartitionStart plan) (tailPartitionCount plan) := by
  have hresolved := resolveCreateSourceAdapter_ok h.resolved
  rw [h.source_eq.2] at hresolved
  obtain ⟨path, node, table', ranges, sector', start, count, range⟩ := resolveRange_ok hresolved
  have hpath : plan.sourceDisk = path := by
    rw [CreatePlanPreview.sourceDisk, h.source_eq.1, Option.bind_some, range.named]
    rfl
  obtain ⟨⟨node', hnode', rfl⟩, htable'⟩ := h.found
  rw [hpath] at hnode' htable'
  obtain rfl : node = node' := List.singleton_inj.mp (range.ofDisk.symm.trans hnode')
  obtain rfl : table' = table := List.singleton_inj.mp (range.ofTable.symm.trans htable')
  have hadapter := range.adapter_eq
  have hstart := h.start
  have hcount := h.count
  rw [hadapter, Option.getD_some] at hstart hcount
  have hfreeSector := (partitionFreeRanges_sector range.free).1
  obtain rfl : sector = sector' :=
    Option.some.inj (h.valid.sectorSize.1.symm.trans hfreeSector)
  have hpositive : 0 < sector := by
    have hleast := h.valid.sectorSize.2
    omega
  have haligned := h.aligned
  rw [← hstart, max_alignment hpositive haligned.1] at haligned
  rw [← hstart]
  exact safeRange_of_free h.valid range.free rfl range.mem hcount haligned

variable [Fingerprint]

/-- The digest of the intent is the one of this table, in whatever order its records are
listed, and of no other. -/
structure DigestOf (table : PartitionTable) (digest : String) : Prop where
  same : ∀ table', SameTable table' table → canonicalTableSha256 table' = digest
  other : ∀ table', canonicalTableSha256 table' = digest → SameTable table' table ∨
    Collision (toJson (canonicalTable table')) (toJson (canonicalTable table))

/-- What a ready intent says of the disk and the table of this snapshot. -/
structure FrozenSafely (s : HostSnapshot) (intent : FrozenGptTailFilesystemIntent)
    (disk : BlockDevice) (table : PartitionTable) : Prop where
  found : TableAt s intent.disk.path disk table
  range : SafeRange disk table intent.gpt.sectorSizeBytes intent.allocation.partitionStartSector
    intent.allocation.partitionSectorCount
  digest : DigestOf table intent.gpt.tableSha256

/-- A ready intent takes a safe range of the disk as the snapshot has it, whenever the plan was
made, and its digest stands for the table and for nothing else. -/
theorem freezeGptTail_safe (h : (freezeGptTailFilesystemCreateIntent s plan).ready) :
    ∃ disk table, FrozenSafely s (freezeGptTailFilesystemCreateIntent s plan) disk table := by
  simp only [FrozenGptTailFilesystemIntent.ready, Bool.and_eq_true] at h
  obtain ⟨disk, table, sector, first, last, source, adapter, frozen⟩ :=
    tailFreezable_of_blockers (List.isEmpty_iff.mp h.1.1.1.1.2)
  obtain ⟨htable, hsector, -⟩ := frozen.intent
  have hsafe := frozen.safe
  have hdigest : (freezeGptTailFilesystemCreateIntent s plan).gpt.tableSha256 =
      canonicalTableSha256 table := by
    dsimp only [freezeGptTailFilesystemCreateIntent, gptTailIntent, gptTableIdentity]
    rw [htable]
    rfl
  refine ⟨disk, table, frozen.found, ?_, ?_⟩
  · dsimp only [freezeGptTailFilesystemCreateIntent, gptTailIntent, gptTableIdentity]
    rw [hsector]
    exact hsafe
  · rw [hdigest]
    exact ⟨fun table' hsame => canonicalTableSha256_of_same frozen.valid.records.2.named hsame,
      fun table' hequal => same_of_canonicalTableSha256 hequal⟩

end Laws

section Samples

/-- A disk of 64 MiB with a GPT of two partitions, listed by their nodes, and a free tail. -/
def gptTailSnapshot : HostSnapshot where
  storage :=
    { blockDevices :=
        [{ name := "loop7", kernelName := some "loop7", path := some "/dev/loop7", kind := .loop,
           sizeBytes := 131072 * 512, start512Sector := none, logicalSectorBytes := some 512,
           filesystem := none, mountpoints := [], parentKernelName := none,
           model := some "loop-test", serial := some "fixture-001", uuid := none,
           partitionUuid := none, partitionTable := some "gpt", children := [] }] }
  partitionTables :=
    [{ device := "/dev/loop7", label := some "gpt", id := some "12345678", unit := some "sectors",
       firstLba := some 34, lastLba := some 131038, sectorSizeBytes := some 512,
       partitions :=
         [⟨"/dev/loop7p1", 4096, 2048, some "0FC63DAF", none, none, none, none⟩,
          ⟨"/dev/loop7p2", 2048, 2048, some "0FC63DAF", none, none, none, none⟩] }]
  mounts := []
  fstab := []
  swaps := []
  collectors := [⟨"lsblk", .complete, none⟩, ⟨"partition_tables", .complete, none⟩]

/-- Four mebibytes of the tail, for ext4. -/
def gptTailRequest : CreateRequest where
  sourceId := provisioningOpportunityId .diskTail "/dev/loop7 tail" (some "/dev/loop7") none
    (some 6144) (some 124895)
  size := .byBytes (4 * 1024 * 1024)
  purpose := .filesystem
  filesystem := some "ext4"
  mountpoint := none
  partitionTable := none

theorem freezeGptTail_safe_behind : ∃ disk table, FrozenSafely gptTailSnapshot
    (freezeGptTailFilesystemCreateIntent gptTailSnapshot
      (planCreate gptTailSnapshot gptTailRequest)) disk table :=
  freezeGptTail_safe (by decide +kernel)

end Samples

end StorageManager.Planner.Provisioning
