import StorageManager.Planner.PlanCreate

/-!
# Where a creation is allocated

The facts that a source's resolution and an allocation have checked when they succeed, and
what follows for the sectors and the bytes a preview allocates.
-/

namespace StorageManager.Planner.Provisioning

open Core (BlockDevice HostSnapshot Node PartitionRecord PartitionTable flatten)
open Extend (Growth PlanStatus isDisk ensure_eq_ok_iff)
open Lib.Checks
open Lib.Word64

set_option autoImplicit false

variable {s : HostSnapshot} {request : CreateRequest} {source : ProvisioningOpportunity}
  {adapter : CreateSourceAdapter} {allocation : CreateAllocation}

section Sources

/-- A gap or a tail, found again in the table of its disk. -/
structure RangeSource (s : HostSnapshot) (source : ProvisioningOpportunity)
    (adapter : CreateSourceAdapter) (diskPath : String) (disk : Node) (table : PartitionTable)
    (ranges : List PartitionFreeRange) (sector start count : Nat) : Prop where
  named : source.disk = some diskPath
  geometry : source.sectorSizeBytes = some sector ∧ source.startSector = some start ∧
    source.sectorCount = some count ∧ source.availableBytes = count * sector
  valid : 512 ≤ sector ∧ isPowerOfTwo sector ∧ 0 < count
  ofDisk : (flatten s.storage.blockDevices).filter (fun n =>
    isDisk n.device.kind && n.device.path == some diskPath) = [disk]
  ofTable : s.partitionTables.filter (·.device = diskPath) = [table]
  free : partitionFreeRanges disk.device table = some ⟨ranges, sector⟩
  mem : ⟨start, count, source.kind = .diskTail⟩ ∈ ranges
  fits : count * sector < limit
  adapter_eq : adapter =
    { sourceId := source.id
      kind := source.kind
      disk := some diskPath
      volumeGroup := none
      allocationUnitBytes := sector
      availableBytes := count * sector
      startSector := some start
      sectorCount := some count
      partitionTable := none }

theorem eq_singleton_of_head? {α : Type} {as : List α} {a : α} (hhead : as.head? = some a)
    (hlength : as.length ≤ 1) : as = [a] := by
  match as, hhead, hlength with
  | [b], hhead, _ => exact congrArg ([·]) (Option.some.inj hhead)

theorem resolveRange_ok (h : resolveRange s source = .ok adapter) :
    ∃ diskPath disk table ranges sector start count,
      RangeSource s source adapter diskPath disk table ranges sector start count := by
  unfold resolveRange rangeOfSource at h
  simp only [bind_eq_ok_iff, exists_check_iff, ensure_eq_ok_iff, okOr_eq_ok_iff,
    checkedMul_eq_some_iff] at h
  obtain ⟨⟨diskPath, sector, start, count⟩, ⟨_, hdisk, _, hsector, _, hstart, _, hcount, hvalid,
    hrange⟩, disk, hhead, hsingle, table, htable, hsingleTable, ⟨ranges, _⟩, hfree, hsame, hmem, _,
    ⟨hfits, rfl⟩, havailable, hresult⟩ := h
  cases hrange
  cases hsame
  cases hresult
  exact ⟨diskPath, disk, table, ranges, sector, start, count, hdisk,
    ⟨hsector, hstart, hcount, havailable.symm⟩, hvalid, eq_singleton_of_head? hhead hsingle,
    eq_singleton_of_head? htable hsingleTable, hfree, hmem, hfits, rfl⟩

/-- The metadata sectors of a GPT's entries. -/
def gptEntrySectors (sector : Nat) : Nat :=
  divCeil (gptPartitionEntryCount * gptPartitionEntrySizeBytes) sector

/-- The sectors that a new table leaves to its partition. -/
structure PolicyWindow (policy : CreatePartitionTablePolicy) (sector diskSectors first stop : Nat) :
    Prop where
  gpt : policy = .gpt → first = 2 + gptEntrySectors sector ∧
    stop + (gptEntrySectors sector + 1) = diskSectors
  dos : policy = .dos → first = 1 ∧ stop = min diskSectors (2 ^ 32)
  within : stop ≤ diskSectors

theorem ceilDiv_eq_some_iff {a b c : Nat} :
    ceilDiv a b = some c ↔ b ≠ 0 ∧ divCeil a b = c := by
  unfold ceilDiv
  by_cases hzero : b = 0
  · simp [hzero]
  · simp [hzero]

theorem policyWindow_ok {policy : CreatePartitionTablePolicy} {sector diskSectors first stop : Nat}
    (h : policyWindow policy sector diskSectors = .ok (first, stop)) :
    PolicyWindow policy sector diskSectors first stop := by
  cases policy with
  | gpt =>
    simp only [policyWindow, bind_eq_ok_iff, okOr_eq_ok_iff, checkedMul_eq_some_iff,
      checkedAdd_eq_some_iff, checkedSub_eq_some_iff, ceilDiv_eq_some_iff] at h
    obtain ⟨_, ⟨-, rfl⟩, _, ⟨-, rfl⟩, _, ⟨-, rfl⟩, _, ⟨-, rfl⟩, _, ⟨hroom, rfl⟩, hresult⟩ := h
    cases hresult
    refine ⟨fun _ => ⟨rfl, ?_⟩, fun hdos => ?_, Nat.sub_le _ _⟩
    · exact Nat.sub_add_cancel hroom
    · cases hdos
  | dos =>
    cases h
    refine ⟨fun hgpt => ?_, fun _ => ⟨rfl, rfl⟩, Nat.min_le_left _ _⟩
    cases hgpt

/-- A blank disk, with the geometry of the partition it is to get. -/
structure BlankSource (s : HostSnapshot) (source : ProvisioningOpportunity)
    (adapter : CreateSourceAdapter) (policy : CreatePartitionTablePolicy) (diskPath : String)
    (disk : Node) (sector first stop start : Nat) : Prop where
  named : source.disk = some diskPath
  complete : partitionTablesComplete s
  ofDisk : (flatten s.storage.blockDevices).filter (·.device.path = some diskPath) = [disk]
  blank : isDisk disk.device.kind ∧ disk.device.children.isEmpty ∧ disk.device.filesystem = none ∧
    disk.device.partitionTable = none ∧ disk.device.mountpoints.isEmpty
  untabled : ∀ table ∈ s.partitionTables, table.device ≠ diskPath
  noSwap : ¬s.swaps.any fun swap => disk.device.nodeAlias swap.name
  clean : ¬s.diagnostics.any fun diagnostic => diagnostic.severity = .error &&
    diagnostic.device.all fun device => device = diskPath || disk.device.nodeAlias device
  logical : disk.device.logicalSectorBytes = some sector
  geometry : 512 ≤ sector ∧ isPowerOfTwo sector ∧ 0 < disk.device.sizeBytes ∧
    disk.device.sizeBytes % sector = 0 ∧ source.sectorSizeBytes = some sector ∧
    source.availableBytes = disk.device.sizeBytes
  window : PolicyWindow policy sector (disk.device.sizeBytes / sector) first stop
  aligned : alignUp first (max (divCeil createPartitionAlignmentBytes sector) 1) = some start
  room : start < stop
  fits : (stop - start) * sector < limit
  adapter_eq : adapter =
    { sourceId := source.id
      kind := source.kind
      disk := some diskPath
      volumeGroup := none
      allocationUnitBytes := sector
      availableBytes := (stop - start) * sector
      startSector := some start
      sectorCount := some (stop - start)
      partitionTable := some policy }

theorem resolveBlankDisk_ok {partitionTable : Option CreatePartitionTablePolicy}
    (h : resolveBlankDisk s source partitionTable = .ok adapter) :
    ∃ policy diskPath disk sector first stop start, partitionTable = some policy ∧
      BlankSource s source adapter policy diskPath disk sector first stop start := by
  unfold resolveBlankDisk blankDiskGeometry blankDisk at h
  simp only [bind_eq_ok_iff, exists_check_iff, ensure_eq_ok_iff, okOr_eq_ok_iff,
    Extend.unique_eq_ok_iff, checkedMul_eq_some_iff, checkedSub_eq_some_iff,
    ceilDiv_eq_some_iff] at h
  obtain ⟨policy, hpolicy, geometry, ⟨collector, hcollector, hcomplete, diskPath, hdiskPath, disk',
    ⟨disk, hdisk, hblank, htables, hswap, hclean, hpure⟩, sector, hsector, hgeometry, _, ⟨-, rfl⟩,
    ⟨first, stop⟩, hwindow, start, haligned, hroom, _, ⟨-, rfl⟩, _, ⟨hfits, rfl⟩, -, hresult⟩,
    diskPath', hdiskPath', hadapter⟩ := h
  cases hpure
  cases hresult
  cases hadapter
  obtain rfl : diskPath = diskPath' := Option.some.inj (hdiskPath.symm.trans hdiskPath')
  refine ⟨policy, diskPath, disk, sector, first, stop, start, hpolicy, hdiskPath, ?_, hdisk, hblank,
    htables, hswap, hclean, hsector, hgeometry, policyWindow_ok hwindow, haligned, hroom, hfits, ?_⟩
  · rw [partitionTablesComplete, hcollector]
    exact decide_eq_true hcomplete
  · rw [Nat.mul_div_cancel _ (by omega)]

end Sources

section Allocation

/-- Whole units of a source, as many as were asked for. -/
structure Rounded (size : Growth) (adapter : CreateSourceAdapter) (allocation : CreateAllocation) :
    Prop where
  asked : allocation.requestedBytes = match size with
    | .byBytes bytes => bytes
    | .maxFree => adapter.availableBytes
  positive : allocation.requestedBytes ≠ 0
  rounded : allocation.roundedBytes =
    divCeil allocation.requestedBytes adapter.allocationUnitBytes * adapter.allocationUnitBytes
  fits : allocation.roundedBytes < limit
  within : allocation.roundedBytes ≤ adapter.availableBytes
  rest : allocation.availableBytes = adapter.availableBytes ∧
    allocation.remainingBytes = adapter.availableBytes - allocation.roundedBytes ∧
    allocation.allocationUnitBytes = adapter.allocationUnitBytes ∧
    allocation.startSector = adapter.startSector ∧
    allocation.sectorCount = (if adapter.kind.onDisk then
      some (allocation.roundedBytes / adapter.allocationUnitBytes) else none) ∧
    allocation.volumeGroup = adapter.volumeGroup ∧
    allocation.partitionTable = adapter.partitionTable

theorem allocate_ok {size : Growth} (h : allocate adapter size = .ok allocation) :
    Rounded size adapter allocation := by
  unfold allocate at h
  simp only [bind_eq_ok_iff, exists_check_iff, ensure_eq_ok_iff, okOr_eq_ok_iff,
    checkedMul_eq_some_iff] at h
  obtain ⟨hsome, _, ⟨hfits, rfl⟩, hwithin, hresult⟩ := h
  cases hresult
  exact ⟨rfl, hsome, rfl, hfits, hwithin, rfl, rfl, rfl, rfl, rfl, rfl, rfl⟩

/-- A preview's source and what it allocates from it. -/
structure Created (s : HostSnapshot) (request : CreateRequest) (plan : CreatePlanPreview)
    (source : ProvisioningOpportunity) (adapter : CreateSourceAdapter)
    (allocation : CreateAllocation) : Prop where
  listed : source ∈ listProvisioningOpportunities s
  selected : source.id = request.sourceId ∨ startsWith source.id request.sourceId
  resolved : resolveCreateSourceAdapter s source request.partitionTable = .ok adapter
  rounded : Rounded request.size adapter allocation
  shown : plan.source = some source ∧ plan.allocation = some allocation

theorem selectSource_ok {opportunities : List ProvisioningOpportunity} {selector : String}
    (h : selectSource opportunities selector = .ok source) :
    source ∈ opportunities ∧ (source.id = selector ∨ startsWith source.id selector) := by
  unfold selectSource at h
  split at h
  · cases h
  · rename_i found hfilter
    cases h
    obtain ⟨hmem, hid⟩ := mem_of_filter_eq_singleton hfilter
    simp only [Bool.or_eq_true, Bool.and_eq_true, decide_eq_true_eq] at hid
    exact ⟨hmem, hid.imp_right And.right⟩
  · cases h

theorem applyAllocation_preview {plan : CreatePlanPreview} (hblocked : plan.status = .blocked)
    (h : (applyAllocation plan adapter allocation).status = .preview) :
    (applyAllocation plan adapter allocation).source = plan.source ∧
      (applyAllocation plan adapter allocation).allocation = some allocation := by
  unfold applyAllocation at h ⊢
  split at h
  · rw [hblocked] at h
    cases h
  · rw [hblocked] at h
    cases h
  · exact ⟨rfl, rfl⟩

theorem planCreate_preview [Fingerprint] (h : (planCreate s request).status = .preview) :
    ∃ source adapter allocation,
      Created s request (planCreate s request) source adapter allocation := by
  dsimp only [planCreate] at h ⊢
  unfold createPlan at h ⊢
  cases hsource : selectSource (listProvisioningOpportunities s) request.sourceId with
  | error blocker =>
    rw [hsource] at h
    cases h
  | ok source =>
    rw [hsource] at h
    dsimp only at h ⊢
    cases hallocate : allocateSource s request source with
    | error blocker =>
      rw [hallocate] at h
      cases h
    | ok result =>
      obtain ⟨adapter, allocation⟩ := result
      rw [hallocate] at h
      simp only [allocateSource, bind_eq_ok_iff, exists_check_iff] at hallocate
      obtain ⟨_, hresolve, _, hallocate, -, hresult⟩ := hallocate
      cases hresult
      obtain ⟨hlisted, hselected⟩ := selectSource_ok hsource
      obtain ⟨hshown, hallocation⟩ := applyAllocation_preview rfl h
      exact ⟨source, adapter, allocation, hlisted, hselected, hresolve, allocate_ok hallocate,
        hshown, hallocation⟩

theorem resolveCreateSourceAdapter_ok {partitionTable : Option CreatePartitionTablePolicy}
    (h : resolveCreateSourceAdapter s source partitionTable = .ok adapter) :
    match source.kind with
    | .blockedDisk => False
    | .lvmFreeExtents => resolveVolumeGroup s source = .ok adapter
    | .diskGap | .diskTail => resolveRange s source = .ok adapter
    | .blankDisk => resolveBlankDisk s source partitionTable = .ok adapter := by
  unfold resolveCreateSourceAdapter at h
  simp only [exists_check_iff, bind_eq_ok_iff] at h
  obtain ⟨-, h⟩ := h
  cases hkind : source.kind <;> rw [hkind] at h
  case blockedDisk => cases h
  all_goals exact h

end Allocation

section Placement

/-- The disk that a source names, the only one of its path. -/
def SourceDisk (s : HostSnapshot) (source : ProvisioningOpportunity) (disk : BlockDevice) : Prop :=
  ∃ diskPath, source.disk = some diskPath ∧ ∃ node : Node,
    (flatten s.storage.blockDevices).filter (fun n =>
      isDisk n.device.kind && n.device.path == some diskPath) = [node] ∧ node.device = disk

/-- The sectors lie in one free range of the disk's table, the one the source names. -/
def InFreeRange (s : HostSnapshot) (source : ProvisioningOpportunity) (disk : BlockDevice)
    (sector start count : Nat) : Prop :=
  ∃ table ranges range, (∃ diskPath, source.disk = some diskPath ∧
      s.partitionTables.filter (·.device = diskPath) = [table]) ∧
    partitionFreeRanges disk table = some ⟨ranges, sector⟩ ∧ range ∈ ranges ∧
    source.startSector = some range.startSector ∧ source.sectorCount = some range.sectorCount ∧
    start = range.startSector ∧ count ≤ range.sectorCount ∧
    ∀ record ∈ table.partitions, start + count ≤ record.startSector ∨
      record.startSector + record.sizeSectors ≤ start

/-- The sectors begin at a whole mebibyte, behind the table that is made and before its copy
at the end or before what a DOS table can address. -/
def InNewTable (request : CreateRequest) (disk : BlockDevice) (sector start count : Nat) : Prop :=
  start * sector % createPartitionAlignmentBytes = 0 ∧
    ∃ policy, request.partitionTable = some policy ∧
      (policy = .gpt → 2 + gptEntrySectors sector ≤ start ∧
        start + count + (gptEntrySectors sector + 1) ≤ disk.sizeBytes / sector) ∧
      (policy = .dos → 1 ≤ start ∧ start + count ≤ 2 ^ 32)

/-- The sectors a preview allocates on a disk. -/
structure Placed (s : HostSnapshot) (request : CreateRequest) (source : ProvisioningOpportunity)
    (allocation : CreateAllocation) (disk : BlockDevice) (sector start count : Nat) : Prop where
  device : SourceDisk s source disk
  allocated : allocation.allocationUnitBytes = sector ∧ allocation.startSector = some start ∧
    allocation.sectorCount = some count
  onDisk : start + count ≤ disk.sizeBytes / sector
  range : source.kind ≠ .blankDisk → InFreeRange s source disk sector start count
  blank : source.kind = .blankDisk → InNewTable request disk sector start count

/-- The bytes of an allocation: whole sectors, no fewer than asked for and not one more than
that takes, and what remains. None of the sums is out of range. -/
structure Counted (size : Growth) (allocation : CreateAllocation) (sector count : Nat) : Prop where
  whole : allocation.roundedBytes = count * sector
  fits : 0 < count ∧ allocation.roundedBytes < limit
  asked : match size with
    | .byBytes bytes => allocation.requestedBytes = bytes ∧ bytes ≤ allocation.roundedBytes ∧
      allocation.roundedBytes < bytes + sector
    | .maxFree => allocation.requestedBytes = allocation.availableBytes ∧
      allocation.roundedBytes = allocation.availableBytes
  remaining : allocation.roundedBytes ≤ allocation.availableBytes ∧
    allocation.remainingBytes = allocation.availableBytes - allocation.roundedBytes

theorem alignUp_ok {value alignment start : Nat} (h : alignUp value alignment = some start) :
    start % alignment = 0 ∧ value ≤ start := by
  unfold alignUp at h
  by_cases hzero : alignment = 0
  · rw [if_pos hzero] at h
    cases h
  rw [if_neg hzero] at h
  by_cases hmod : value % alignment = 0
  · rw [if_pos hmod] at h
    cases h
    exact ⟨hmod, le_rfl⟩
  · rw [if_neg hmod, checkedAdd_eq_some_iff] at h
    obtain ⟨-, rfl⟩ := h
    have hlt := Nat.mod_lt value (Nat.pos_of_ne_zero hzero)
    have hdiv := Nat.div_add_mod value alignment
    refine ⟨?_, Nat.le_add_right _ _⟩
    have hsum : value + (alignment - value % alignment) =
        alignment * (value / alignment + 1) := by
      rw [Nat.mul_add, Nat.mul_one]
      omega
    rw [hsum]
    exact Nat.mul_mod_right _ _

/-- A start that is aligned in sectors is aligned in bytes, however long a sector is. -/
theorem aligned_bytes {sector start : Nat} (hpower : isPowerOfTwo sector)
    (h : start % max (divCeil createPartitionAlignmentBytes sector) 1 = 0) :
    start * sector % createPartitionAlignmentBytes = 0 := by
  have hmebibyte : isPowerOfTwo createPartitionAlignmentBytes := by decide
  have hsector : 0 < sector := by
    obtain ⟨k, rfl⟩ := isPowerOfTwo_iff.mp hpower
    exact Nat.two_pow_pos k
  refine Nat.mod_eq_zero_of_dvd ?_
  rcases dvd_or_dvd hpower hmebibyte with hdvd | hdvd
  · have hunits := divCeil_mul hdvd
    have hpos : 0 < divCeil createPartitionAlignmentBytes sector := divCeil_pos hsector (by decide)
    rw [Nat.max_eq_left hpos] at h
    rw [← hunits]
    exact Nat.mul_dvd_mul_right (Nat.dvd_of_mod_eq_zero h) sector
  · exact Nat.dvd_trans hdvd (Nat.dvd_mul_left sector start)

/-- Allocated sectors are whole and no more than the source has. -/
theorem Rounded.counted {size : Growth} (h : Rounded size adapter allocation) (available : Nat)
    (hkind : adapter.kind.onDisk) (hunit : 0 < adapter.allocationUnitBytes)
    (havailable : adapter.availableBytes = available * adapter.allocationUnitBytes) :
    ∃ count, allocation.sectorCount = some count ∧ count ≤ available ∧
      Counted size allocation adapter.allocationUnitBytes count := by
  obtain ⟨hsame, hremaining, -, -, hcount, -⟩ := h.rest
  have hrounded := h.rounded
  have hpositive := h.positive
  have hwithin := h.within
  have hunits := Nat.mul_div_cancel (divCeil allocation.requestedBytes adapter.allocationUnitBytes)
    hunit
  have henough := le_divCeil_mul allocation.requestedBytes hunit
  have hsome := divCeil_pos hunit (Nat.pos_of_ne_zero hpositive)
  refine ⟨divCeil allocation.requestedBytes adapter.allocationUnitBytes, ?_, ?_, ⟨hrounded,
    ⟨hsome, h.fits⟩, ?_, ⟨by rw [hsame]; exact hwithin, by rw [hsame]; exact hremaining⟩⟩⟩
  · rw [hcount, if_pos hkind, hrounded, hunits]
  · rw [hrounded, havailable] at hwithin
    exact Nat.le_of_mul_le_mul_right hwithin hunit
  · have hasked := h.asked
    cases size with
    | byBytes bytes =>
      dsimp only at hasked ⊢
      rw [hasked] at hrounded henough
      refine ⟨hasked, by rw [hrounded]; exact henough, ?_⟩
      -- one unit less would be too little
      have hone := divCeil_pos hunit (Nat.pos_of_ne_zero (hasked ▸ hpositive))
      have hless : ¬bytes ≤ (divCeil bytes adapter.allocationUnitBytes - 1) *
          adapter.allocationUnitBytes := by
        rw [← divCeil_le_iff hunit]
        omega
      rw [Nat.sub_mul, Nat.one_mul] at hless
      omega
    | maxFree =>
      dsimp only at hasked ⊢
      rw [hasked, havailable, divCeil_mul_of_pos available hunit, ← havailable] at hrounded
      exact ⟨by rw [hsame]; exact hasked, by rw [hsame]; exact hrounded⟩

theorem RangeSource.placed {diskPath : String} {disk : Node} {table : PartitionTable}
    {ranges : List PartitionFreeRange} {sector start count : Nat}
    (h : RangeSource s source adapter diskPath disk table ranges sector start count)
    (hkind : source.kind ≠ .blankDisk ∧ source.kind.onDisk)
    (rounded : Rounded request.size adapter allocation) :
    ∃ allocated, Placed s request source allocation disk.device sector start allocated ∧
      Counted request.size allocation sector allocated := by
  have hadapter := h.adapter_eq
  have hunit : adapter.allocationUnitBytes = sector := by rw [hadapter]
  have hsector := h.valid.1
  obtain ⟨allocated, hallocated, hwithin, hcounted⟩ := rounded.counted count
    (by rw [hadapter]; exact hkind.2) (by omega) (by rw [hadapter])
  rw [hunit] at hcounted
  obtain ⟨-, -, hunit', hstart, -⟩ := rounded.rest
  obtain ⟨first, stop, hwindow, lawful⟩ := partitionFreeRanges_lawful h.free
  have hinside := (lawful.inside _ h.mem).2
  have hstop : stop ≤ disk.device.sizeBytes / sector := usableWindow_le hwindow
  simp only [PartitionFreeRange.span] at hinside
  refine ⟨allocated, ⟨⟨diskPath, h.named, disk, h.ofDisk, rfl⟩,
    ⟨hunit'.trans hunit, by rw [hstart, hadapter], hallocated⟩, by omega, fun _ => ?_,
    fun hblank => absurd hblank hkind.1⟩, hcounted⟩
  refine ⟨table, ranges, _, ⟨diskPath, h.named, h.ofTable⟩, h.free, h.mem, h.geometry.2.1,
    h.geometry.2.2.1, rfl, hwithin, fun record hrecord => ?_⟩
  have hapart := lawful.apart _ h.mem record hrecord
  simp only [PartitionFreeRange.span, recordSpan] at hapart
  omega

theorem BlankSource.placed {policy : CreatePartitionTablePolicy} {diskPath : String} {disk : Node}
    {sector first stop start : Nat}
    (h : BlankSource s source adapter policy diskPath disk sector first stop start)
    (hpolicy : request.partitionTable = some policy) (hkind : source.kind = .blankDisk)
    (rounded : Rounded request.size adapter allocation) :
    ∃ allocated, Placed s request source allocation disk.device sector start allocated ∧
      Counted request.size allocation sector allocated := by
  have hadapter := h.adapter_eq
  have hunit : adapter.allocationUnitBytes = sector := by rw [hadapter]
  have hsector := h.geometry.1
  obtain ⟨allocated, hallocated, hwithin, hcounted⟩ := rounded.counted (stop - start)
    (by rw [hadapter, hkind]; rfl) (by omega) (by rw [hadapter])
  rw [hunit] at hcounted
  obtain ⟨-, -, hunit', hstart, -⟩ := rounded.rest
  obtain ⟨haligned, hfirst⟩ := alignUp_ok h.aligned
  have hroom := h.room
  have hstop := h.window.within
  have hofDisk : (flatten s.storage.blockDevices).filter (fun n =>
      isDisk n.device.kind && n.device.path == some diskPath) = [disk] := by
    have hsplit : (flatten s.storage.blockDevices).filter (fun n =>
        isDisk n.device.kind && n.device.path == some diskPath) =
        ((flatten s.storage.blockDevices).filter (·.device.path = some diskPath)).filter
          (isDisk ·.device.kind) := by
      rw [List.filter_filter]
      refine List.filter_congr fun n _ => ?_
      rw [Bool.eq_iff_iff]
      simp
    rw [hsplit, h.ofDisk]
    exact List.filter_eq_self.mpr (List.forall_mem_singleton.mpr h.blank.1)
  refine ⟨allocated, ⟨⟨diskPath, h.named, disk, hofDisk, rfl⟩,
    ⟨hunit'.trans hunit, by rw [hstart, hadapter], hallocated⟩, by omega,
    fun hrange => absurd hkind hrange, fun _ => ⟨aligned_bytes h.geometry.2.1 haligned, policy,
    hpolicy, fun hgpt => ?_, fun hdos => ?_⟩⟩, hcounted⟩
  · obtain ⟨hfirst', hend⟩ := h.window.gpt hgpt
    omega
  · obtain ⟨hfirst', hend⟩ := h.window.dos hdos
    have hlimit : stop ≤ 2 ^ 32 := by rw [hend]; exact Nat.min_le_right _ _
    omega

theorem Created.placed {plan : CreatePlanPreview}
    (h : Created s request plan source adapter allocation) (hkind : source.kind.onDisk) :
    ∃ disk sector start count, Placed s request source allocation disk sector start count ∧
      Counted request.size allocation sector count := by
  have hresolved := resolveCreateSourceAdapter_ok h.resolved
  cases hsource : source.kind <;> rw [hsource] at hresolved hkind
  case blockedDisk => cases hkind
  case lvmFreeExtents => cases hkind
  case blankDisk =>
    obtain ⟨policy, diskPath, disk, sector, first, stop, start, hpolicy, blank⟩ :=
      resolveBlankDisk_ok hresolved
    obtain ⟨count, hplaced, hcounted⟩ := blank.placed hpolicy hsource h.rounded
    exact ⟨_, _, _, count, hplaced, hcounted⟩
  all_goals
    obtain ⟨diskPath, disk, table, ranges, sector, start, available, range⟩ :=
      resolveRange_ok hresolved
    have hondisk : source.kind ≠ .blankDisk ∧ source.kind.onDisk := by
      rw [hsource]
      exact ⟨nofun, rfl⟩
    obtain ⟨count, hplaced, hcounted⟩ := range.placed hondisk h.rounded
    exact ⟨_, _, _, count, hplaced, hcounted⟩

/-- Whatever a preview creates on a disk is allocated inside its source and on the disk, in
whole sectors, and is counted right. -/
theorem planCreate_placed [Fingerprint] (h : (planCreate s request).status = .preview) :
    ∃ source allocation, source ∈ listProvisioningOpportunities s ∧
      (planCreate s request).source = some source ∧
      (planCreate s request).allocation = some allocation ∧
      (source.kind.onDisk → ∃ disk sector start count,
        Placed s request source allocation disk sector start count ∧
        Counted request.size allocation sector count) := by
  obtain ⟨source, adapter, allocation, created⟩ := planCreate_preview h
  exact ⟨source, allocation, created.listed, created.shown.1, created.shown.2, created.placed⟩

end Placement

section DosLimit

/-- The disk of the source has a DOS table, or is to get one. -/
def OnDosTable (s : HostSnapshot) (request : CreateRequest) (source : ProvisioningOpportunity) :
    Prop :=
  if source.kind = .blankDisk then request.partitionTable = some .dos
  else ∃ diskPath table, source.disk = some diskPath ∧
    s.partitionTables.filter (·.device = diskPath) = [table] ∧ table.label = some "dos"

/-- The bytes a request asks of a source: those it names, or all there are. -/
def askedBytes (request : CreateRequest) (source : ProvisioningOpportunity) : Nat :=
  match request.size with
  | .byBytes bytes => bytes
  | .maxFree => source.availableBytes

/-- On a blank disk a DOS table's limit is kept; in a free range of such a table it is kept
by a request for no more than lies before the limit. -/
theorem Created.dos_limit_iff {plan : CreatePlanPreview}
    (h : Created s request plan source adapter allocation) (hkind : source.kind.onDisk)
    (hdos : OnDosTable s request source) :
    ∃ start count, allocation.startSector = some start ∧ allocation.sectorCount = some count ∧
      (start + count ≤ 2 ^ 32 ↔ source.kind = .blankDisk ∨
        askedBytes request source ≤ (2 ^ 32 - start) * allocation.allocationUnitBytes) := by
  by_cases hblank : source.kind = .blankDisk
  · obtain ⟨disk, sector, start, count, placed, -⟩ := h.placed hkind
    obtain ⟨-, policy, hpolicy, -, hlimit⟩ := placed.blank hblank
    rw [OnDosTable, if_pos hblank, hpolicy] at hdos
    obtain ⟨-, hend⟩ := hlimit (Option.some.inj hdos)
    exact ⟨start, count, placed.allocated.2.1, placed.allocated.2.2, iff_of_true hend (.inl hblank)⟩
  · have hresolved := resolveCreateSourceAdapter_ok h.resolved
    have hrange : resolveRange s source = .ok adapter := by
      cases hsource : source.kind <;> rw [hsource] at hresolved hkind hblank
      case blockedDisk => cases hkind
      case lvmFreeExtents => cases hkind
      case blankDisk => exact absurd rfl hblank
      all_goals exact hresolved
    obtain ⟨diskPath, disk, table, ranges, sector, start, available, range⟩ :=
      resolveRange_ok hrange
    obtain ⟨-, -, hunit, hstart, hcount, -⟩ := h.rounded.rest
    have hadapter := range.adapter_eq
    have hsector : 0 < sector := by
      have hvalid := range.valid.1
      omega
    have hrounded := h.rounded.rounded
    have hpositive := divCeil_pos hsector (Nat.pos_of_ne_zero h.rounded.positive)
    have hasked : allocation.requestedBytes = askedBytes request source := by
      rw [h.rounded.asked, askedBytes, hadapter]
      cases request.size with
      | byBytes bytes => rfl
      | maxFree => exact range.geometry.2.2.2.symm
    rw [hadapter] at hunit hstart hcount hrounded
    dsimp only at hunit hstart hcount hrounded
    rw [if_pos hkind, hrounded, Nat.mul_div_cancel _ hsector] at hcount
    refine ⟨start, _, hstart, hcount, ?_⟩
    rw [or_iff_right hblank, hunit, ← hasked, ← divCeil_le_iff hsector]
    omega

end DosLimit

section Samples

/-- A disk of so many sectors with a DOS table of one partition. -/
def dosSnapshot (diskSectors : Nat) : HostSnapshot where
  storage :=
    { blockDevices :=
        [{ name := "sda", kernelName := some "sda", path := some "/dev/sda", kind := .disk,
           sizeBytes := diskSectors * 512, start512Sector := none,
           logicalSectorBytes := some 512, filesystem := none, mountpoints := [],
           parentKernelName := none, model := none, serial := none, uuid := none,
           partitionUuid := none, partitionTable := some "dos", children := [] }] }
  partitionTables :=
    [{ device := "/dev/sda", label := some "dos", id := none, unit := some "sectors",
       firstLba := none, lastLba := none, sectorSizeBytes := some 512,
       partitions := [⟨"/dev/sda1", 2048, 6144, some "83", none, none, none, none⟩] }]
  mounts := []
  fstab := []
  swaps := []
  collectors := [⟨"partition_tables", .complete, none⟩]

/-- All of the disk behind the partition. -/
def tailRequest (diskSectors : Nat) : CreateRequest where
  sourceId := provisioningOpportunityId .diskTail "/dev/sda tail" (some "/dev/sda") none
    (some 8192) (some (diskSectors - 8192))
  size := .maxFree
  purpose := .swap
  filesystem := none
  mountpoint := none
  partitionTable := none

theorem planCreate_placed_in_tail :
    ∃ source allocation, source ∈ listProvisioningOpportunities (dosSnapshot 65536) ∧
      (planCreate (dosSnapshot 65536) (tailRequest 65536)).source = some source ∧
      (planCreate (dosSnapshot 65536) (tailRequest 65536)).allocation = some allocation ∧
      (source.kind.onDisk → ∃ disk sector start count,
        Placed (dosSnapshot 65536) (tailRequest 65536) source allocation disk sector start count ∧
        Counted .maxFree allocation sector count) :=
  planCreate_placed (by decide +kernel)

end Samples

end StorageManager.Planner.Provisioning
