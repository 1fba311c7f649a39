import StorageManager.Planner.CreateAllocation
import StorageManager.Planner.SourceIdentifiers

/-!
# Listing and resolution

What is listed as an opportunity is looked up again when it is selected. The two agree on
the place; they differ in what else they ask: the listing leaves out groups without free
space and tables that were not discovered completely, and the resolution refuses what is not
the only one of its name, what is in use, and what has no room for a partition.
-/

namespace StorageManager.Planner.Provisioning

open Core (BlockDevice HostSnapshot Node PartitionTable flatten)
open Extend (isDisk)
open Lib.Checks
open Lib.Word64

set_option autoImplicit false

variable {s : HostSnapshot} {o : ProvisioningOpportunity}

section Listed

/-- Where an opportunity of a listing comes from. -/
inductive Listed (s : HostSnapshot) : ProvisioningOpportunity → Prop
  | group {lvm : Core.LvmInventory} {vg : Core.LvmVolumeGroup} (inventory : s.lvm = some lvm)
      (known : vg ∈ lvm.volumeGroups) (free : vg.freeBytes ≠ 0) :
      Listed s (volumeGroupOpportunity vg)
  | blank {node : Node} {path : String} (known : node ∈ flatten s.storage.blockDevices)
      (disk : isDisk node.device.kind) (named : node.device.path = some path)
      (untabled : s.partitionTables.filter (·.device = path) = [])
      (unused : node.device.children.isEmpty ∧ node.device.filesystem = none ∧
        node.device.partitionTable = none) :
      Listed s (blankDiskOpportunity node.device path (partitionTablesComplete s))
  | blocked {node : Node} {path code reason : String}
      (known : node ∈ flatten s.storage.blockDevices)
      (disk : isDisk node.device.kind) (named : node.device.path = some path) :
      Listed s (blockedDiskOpportunity node.device path code reason)
  | range {node : Node} {path : String} {table : PartitionTable} {space : PartitionFreeSpace}
      {range : PartitionFreeRange} {o : ProvisioningOpportunity}
      (known : node ∈ flatten s.storage.blockDevices)
      (disk : isDisk node.device.kind) (named : node.device.path = some path)
      (complete : partitionTablesComplete s)
      (ofTable : s.partitionTables.filter (·.device = path) = [table])
      (free : partitionFreeRanges node.device table = some space) (mem : range ∈ space.ranges)
      (counted : rangeOpportunity table path space.sectorSizeBytes range = some o) :
      Listed s o

theorem diskOpportunities_listed {node : Node} (hknown : node ∈ flatten s.storage.blockDevices)
    (hdisk : isDisk node.device.kind) (h : o ∈ diskOpportunities s node.device) : Listed s o := by
  unfold diskOpportunities at h
  cases hpath : node.device.path with
  | none =>
    rw [hpath] at h
    cases h
  | some path =>
    rw [hpath] at h
    dsimp only at h
    by_cases hblank : (s.partitionTables.filter (·.device = path)).isEmpty ∧
        node.device.children.isEmpty ∧ node.device.filesystem = none ∧
        node.device.partitionTable = none
    · rw [if_pos hblank, List.mem_singleton] at h
      rw [h]
      exact .blank hknown hdisk hpath (List.isEmpty_iff.mp hblank.1) hblank.2
    · rw [if_neg hblank] at h
      by_cases hcomplete : partitionTablesComplete s = true
      · rw [if_neg (not_not.mpr hcomplete)] at h
        split at h
        · cases h
        · rename_i table htable
          split at h
          · rw [List.mem_singleton] at h
            rw [h]
            exact .blocked hknown hdisk hpath
          · rename_i space hspace
            obtain ⟨range, hmem, hcounted⟩ := List.mem_filterMap.mp h
            exact .range hknown hdisk hpath hcomplete htable hspace hmem hcounted
        · rw [List.mem_singleton] at h
          rw [h]
          exact .blocked hknown hdisk hpath
      · rw [if_pos hcomplete] at h
        split at h
        · cases h
        · rw [List.mem_singleton] at h
          rw [h]
          exact .blocked hknown hdisk hpath

theorem listed_of_mem (h : o ∈ listProvisioningOpportunities s) : Listed s o := by
  rw [mem_listProvisioningOpportunities, opportunities, List.mem_append] at h
  rcases h with h | h
  · obtain ⟨vg, hvg, rfl⟩ := List.mem_map.mp h
    obtain ⟨hvg, hfree⟩ := List.mem_filter.mp hvg
    cases hlvm : s.lvm with
    | none =>
      rw [hlvm] at hvg
      cases hvg
    | some lvm =>
      rw [hlvm] at hvg
      exact .group hlvm hvg (of_decide_eq_true hfree)
  · obtain ⟨device, hdevice, h⟩ := List.mem_flatMap.mp h
    obtain ⟨hdevice, hdisk⟩ := List.mem_filter.mp hdevice
    obtain ⟨node, hnode, rfl⟩ := List.mem_map.mp hdevice
    exact diskOpportunities_listed hnode hdisk h

theorem mem_of_disk {node : Node} (hknown : node ∈ flatten s.storage.blockDevices)
    (hdisk : isDisk node.device.kind) (h : o ∈ diskOpportunities s node.device) :
    o ∈ listProvisioningOpportunities s := by
  rw [mem_listProvisioningOpportunities, opportunities, List.mem_append]
  exact .inr (List.mem_flatMap.mpr ⟨node.device,
    List.mem_filter.mpr ⟨List.mem_map.mpr ⟨node, hknown, rfl⟩, hdisk⟩, h⟩)

theorem rangeOpportunity_eq_some_iff {table : PartitionTable} {path : String} {sector : Nat}
    {range : PartitionFreeRange} : (rangeOpportunity table path sector range).isSome ↔
      range.sectorCount ≠ 0 ∧ range.sectorCount * sector < limit ∧
        range.startSector + range.sectorCount < limit := by
  unfold rangeOpportunity
  rw [Option.isSome_iff_exists]
  simp only [Option.bind_eq_bind, Option.bind_eq_some_iff, guard_eq_some_iff,
    checkedMul_eq_some_iff, checkedAdd_eq_some_iff]
  constructor
  · rintro ⟨o, _, hcount, _, ⟨hbytes, rfl⟩, _, ⟨hend, rfl⟩, -⟩
    exact ⟨hcount, hbytes, hend⟩
  · rintro ⟨hcount, hbytes, hend⟩
    exact ⟨_, (), hcount, _, ⟨hbytes, rfl⟩, _, ⟨hend, rfl⟩, rfl⟩

/-- The fields of a listed range that its resolution reads. -/
structure RangeFields (path : String) (sector : Nat) (range : PartitionFreeRange)
    (o : ProvisioningOpportunity) : Prop where
  kind : o.kind = rangeKind range
  source : o.source = rangeSource path range
  id : o.id = provisioningOpportunityId o.kind o.source o.disk o.volumeGroup o.startSector
    o.sectorCount
  disk : o.disk = some path
  volumeGroup : o.volumeGroup = none
  sectors : o.startSector = some range.startSector ∧ o.sectorCount = some range.sectorCount
  sectorSize : o.sectorSizeBytes = some sector
  available : o.availableBytes = range.sectorCount * sector
  counted : range.sectorCount ≠ 0 ∧ range.sectorCount * sector < limit ∧
    range.startSector + range.sectorCount < limit

theorem rangeOpportunity_fields {table : PartitionTable} {path : String} {sector : Nat}
    {range : PartitionFreeRange} (h : rangeOpportunity table path sector range = some o) :
    RangeFields path sector range o := by
  have hcounted := rangeOpportunity_eq_some_iff.mp (Option.isSome_iff_exists.mpr ⟨o, h⟩)
  unfold rangeOpportunity at h
  simp only [Option.bind_eq_bind, Option.bind_eq_some_iff, guard_eq_some_iff,
    checkedMul_eq_some_iff, checkedAdd_eq_some_iff] at h
  obtain ⟨_, -, _, ⟨-, rfl⟩, _, ⟨-, rfl⟩, hresult⟩ := h
  cases hresult
  exact ⟨rfl, rfl, rfl, rfl, rfl, ⟨rfl, rfl⟩, rfl, rfl, hcounted⟩

theorem Listed.id (h : Listed s o) : o.id = provisioningOpportunityId o.kind o.source o.disk
    o.volumeGroup o.startSector o.sectorCount := by
  cases h with
  | group => rfl
  | blank => rfl
  | blocked => rfl
  | range _ _ _ _ _ _ _ counted => exact (rangeOpportunity_fields counted).id

theorem Listed.written (h : Listed s o) : Written o := by
  cases h with
  | group => exact ⟨_, rfl, rfl, rfl, rfl, rfl⟩
  | blank => exact ⟨_, rfl, rfl, rfl, rfl, rfl⟩
  | blocked => exact ⟨_, rfl, rfl, rfl, rfl, rfl⟩
  | @range _ path _ _ range _ _ _ _ _ _ _ _ counted =>
    have fields := rangeOpportunity_fields counted
    unfold Written
    rw [fields.kind, fields.source, fields.disk, fields.volumeGroup, fields.sectors.1,
      fields.sectors.2]
    unfold rangeKind rangeSource
    cases range.isTail with
    | true => exact ⟨path, rfl, rfl, rfl⟩
    | false => exact ⟨path, _, _, rfl, rfl, rfl, rfl, rfl⟩

end Listed

section Resolution

variable {adapter : CreateSourceAdapter} {policy : Option CreatePartitionTablePolicy}

/-- A new table leaves room for a partition that begins at a whole mebibyte. -/
def RoomFor (policy : CreatePartitionTablePolicy) (sector diskSectors : Nat) : Prop :=
  ∃ first stop start, policyWindow policy sector diskSectors = .ok (first, stop) ∧
    alignUp first (max (divCeil createPartitionAlignmentBytes sector) 1) = some start ∧
    start < stop

/-- What the resolution asks of a listed place beyond what the listing has asked: the only
group of its name, with a usable extent size; the only disk of its path; a blank disk out of
use, with sectors it can count and room for a partition. -/
def Resolvable (s : HostSnapshot) (o : ProvisioningOpportunity) : Prop :=
  match o.kind with
  | .blockedDisk => False
  | .lvmFreeExtents => ∃ lvm name vg extent, s.lvm = some lvm ∧ o.volumeGroup = some name ∧
      lvm.volumeGroups.filter (·.name = name) = [vg] ∧ vg.extentSizeBytes = some extent ∧
      512 ≤ extent ∧ isPowerOfTwo extent
  | .diskGap | .diskTail => ∃ path disk, o.disk = some path ∧
      (flatten s.storage.blockDevices).filter (fun n =>
        isDisk n.device.kind && n.device.path == some path) = [disk]
  | .blankDisk => partitionTablesComplete s ∧ ∃ path disk sector, o.disk = some path ∧
      (flatten s.storage.blockDevices).filter (·.device.path = some path) = [disk] ∧
      disk.device.mountpoints.isEmpty ∧
      (¬s.swaps.any fun swap => disk.device.nodeAlias swap.name) ∧
      (¬s.diagnostics.any fun diagnostic => diagnostic.severity = .error &&
        diagnostic.device.all fun device => device = path || disk.device.nodeAlias device) ∧
      disk.device.logicalSectorBytes = some sector ∧ 512 ≤ sector ∧ isPowerOfTwo sector ∧
      0 < disk.device.sizeBytes ∧ disk.device.sizeBytes % sector = 0 ∧
      ∃ policy, RoomFor policy sector (disk.device.sizeBytes / sector)

/-- The resolution of a source is the place of an opportunity: the same capacity, except on a
blank disk, where it is what a new table leaves. -/
structure Agrees (o : ProvisioningOpportunity) (adapter : CreateSourceAdapter) : Prop where
  kind : o.kind = adapter.kind
  disk : o.disk = adapter.disk
  volumeGroup : o.volumeGroup = adapter.volumeGroup
  range : o.kind ≠ .blankDisk → o.availableBytes = adapter.availableBytes ∧
    o.startSector = adapter.startSector ∧ o.sectorCount = adapter.sectorCount
  blank : o.kind = .blankDisk → ∃ start, adapter.startSector = some start ∧ 0 < start ∧
    start * adapter.allocationUnitBytes + adapter.availableBytes ≤ o.availableBytes

/-- A group that was resolved, the only one of its name. -/
structure GroupSource (s : HostSnapshot) (o : ProvisioningOpportunity)
    (adapter : CreateSourceAdapter) (lvm : Core.LvmInventory) (name : String)
    (vg : Core.LvmVolumeGroup) (extent : Nat) : Prop where
  named : o.volumeGroup = some name
  inventory : s.lvm = some lvm
  ofName : lvm.volumeGroups.filter (·.name = name) = [vg]
  extentSize : vg.extentSizeBytes = some extent
  valid : 512 ≤ extent ∧ isPowerOfTwo extent ∧ vg.freeBytes = o.availableBytes
  adapter_eq : adapter =
    { sourceId := o.id
      kind := o.kind
      disk := none
      volumeGroup := some vg.name
      allocationUnitBytes := extent
      availableBytes := vg.freeBytes
      startSector := none
      sectorCount := none
      partitionTable := none }

theorem resolveVolumeGroup_ok_iff : resolveVolumeGroup s o = .ok adapter ↔
    ∃ lvm name vg extent, GroupSource s o adapter lvm name vg extent := by
  unfold resolveVolumeGroup
  simp only [bind_eq_ok_iff, exists_check_iff, Extend.ensure_eq_ok_iff, okOr_eq_ok_iff]
  constructor
  · rintro ⟨name, hname, lvm, hlvm, vg, hhead, hsingle, extent, hextent, hvalid, hresult⟩
    cases hresult
    exact ⟨lvm, name, vg, extent, hname, hlvm, eq_singleton_of_head? hhead hsingle, hextent,
      hvalid, rfl⟩
  · rintro ⟨lvm, name, vg, extent, hname, hlvm, hvg, hextent, hvalid, rfl⟩
    exact ⟨name, hname, lvm, hlvm, vg, by rw [hvg]; rfl, by rw [hvg]; exact le_rfl, extent,
      hextent, hvalid, rfl⟩

theorem resolveCreateSourceAdapter_iff : resolveCreateSourceAdapter s o policy = .ok adapter ↔
    (o.kind = .blankDisk ∨ policy = none) ∧ match o.kind with
    | .blockedDisk => False
    | .lvmFreeExtents => resolveVolumeGroup s o = .ok adapter
    | .diskGap | .diskTail => resolveRange s o = .ok adapter
    | .blankDisk => resolveBlankDisk s o policy = .ok adapter := by
  have hpolicy : ¬(o.kind ≠ .blankDisk ∧ policy.isSome) ↔ o.kind = .blankDisk ∨ policy = none := by
    cases policy <;> simp
  unfold resolveCreateSourceAdapter
  rw [check_eq_ok_iff, Extend.ensure_eq_ok_iff, hpolicy]
  refine and_congr_right fun _ => ?_
  cases o.kind <;> simp

theorem RangeSource.ok {path : String} {disk : Node} {table : PartitionTable}
    {ranges : List PartitionFreeRange} {sector start count : Nat}
    (h : RangeSource s o adapter path disk table ranges sector start count) :
    resolveRange s o = .ok adapter := by
  obtain ⟨hsector, hstart, hcount, havailable⟩ := h.geometry
  unfold resolveRange rangeOfSource
  simp only [bind_eq_ok_iff, exists_check_iff, Extend.ensure_eq_ok_iff, okOr_eq_ok_iff,
    checkedMul_eq_some_iff]
  refine ⟨(path, sector, start, count), ⟨path, h.named, sector, hsector, start, hstart, count,
    hcount, h.valid, rfl⟩, disk, by rw [h.ofDisk]; rfl, by rw [h.ofDisk]; exact le_rfl, table,
    by rw [h.ofTable]; rfl, by rw [h.ofTable]; exact le_rfl, ⟨ranges, sector⟩, h.free, rfl, h.mem,
    count * sector, ⟨h.fits, rfl⟩, havailable.symm, ?_⟩
  rw [h.adapter_eq]
  rfl

theorem partitionTablesComplete_iff : partitionTablesComplete s ↔ ∃ status,
    s.collectors.filter (·.component = "partition_tables") = [status] ∧
      status.state = .complete := by
  unfold partitionTablesComplete
  constructor
  · intro h
    split at h
    · rename_i status hstatus
      exact ⟨status, hstatus, of_decide_eq_true h⟩
    · cases h
  · rintro ⟨status, hstatus, hstate⟩
    rw [hstatus]
    exact decide_eq_true hstate

/-- Every disk is counted in 64 bits. -/
def SizesFit (s : HostSnapshot) : Prop :=
  ∀ node ∈ flatten s.storage.blockDevices, node.device.sizeBytes < limit

instance : Decidable (SizesFit s) :=
  inferInstanceAs (Decidable (∀ node ∈ flatten s.storage.blockDevices, node.device.sizeBytes < limit))

theorem policyWindow_within {policy : CreatePartitionTablePolicy} {sector diskSectors first stop : Nat}
    (h : policyWindow policy sector diskSectors = .ok (first, stop)) : 0 < first ∧
      stop ≤ diskSectors := by
  have window := policyWindow_ok h
  refine ⟨?_, window.within⟩
  cases policy with
  | gpt =>
    have hfirst := (window.gpt rfl).1
    omega
  | dos =>
    have hfirst := (window.dos rfl).1
    omega

/-- A blank disk with room for a new table and a partition is resolved. -/
theorem resolveBlankDisk_of_room {node : Node} {path : String} {sector : Nat}
    {policy : CreatePartitionTablePolicy} {complete : Bool}
    (hfits : node.device.sizeBytes < limit)
    (hcomplete : partitionTablesComplete s)
    (hunique : (flatten s.storage.blockDevices).filter (·.device.path = some path) = [node])
    (hblank : isDisk node.device.kind ∧ node.device.children.isEmpty ∧
      node.device.filesystem = none ∧ node.device.partitionTable = none ∧
      node.device.mountpoints.isEmpty)
    (huntabled : ∀ table ∈ s.partitionTables, table.device ≠ path)
    (hswap : ¬s.swaps.any fun swap => node.device.nodeAlias swap.name)
    (hclean : ¬s.diagnostics.any fun diagnostic => diagnostic.severity = .error &&
      diagnostic.device.all fun device => device = path || node.device.nodeAlias device)
    (hsector : node.device.logicalSectorBytes = some sector)
    (hvalid : 512 ≤ sector ∧ isPowerOfTwo sector ∧ 0 < node.device.sizeBytes ∧
      node.device.sizeBytes % sector = 0)
    (hroom : RoomFor policy sector (node.device.sizeBytes / sector)) :
    ∃ adapter, resolveBlankDisk s (blankDiskOpportunity node.device path complete) (some policy) =
      .ok adapter := by
  obtain ⟨status, hstatus, hstate⟩ := partitionTablesComplete_iff.mp hcomplete
  obtain ⟨first, stop, start, hwindow, haligned, hstart⟩ := hroom
  have hstop := (policyWindow_within hwindow).2
  have hbytes : (stop - start) * sector < limit := by
    have hwhole := Nat.div_mul_le_self node.device.sizeBytes sector
    have hless := Nat.mul_le_mul_right sector ((Nat.sub_le stop start).trans hstop)
    omega
  have hpositive : 0 < (stop - start) * sector := Nat.mul_pos (by omega) (by omega)
  have hgeometry : blankDiskGeometry s (blankDiskOpportunity node.device path complete) policy =
      .ok ⟨sector, start, (stop - start) * sector⟩ := by
    unfold blankDiskGeometry blankDisk
    simp only [bind_eq_ok_iff, exists_check_iff, Extend.ensure_eq_ok_iff, okOr_eq_ok_iff,
      Extend.unique_eq_ok_iff, checkedMul_eq_some_iff, checkedSub_eq_some_iff,
      ceilDiv_eq_some_iff]
    exact ⟨status, hstatus, hstate, path, rfl, node.device, ⟨node, hunique, hblank, huntabled,
      hswap, hclean, rfl⟩, sector, hsector, ⟨hvalid.1, hvalid.2.1, hvalid.2.2.1, hvalid.2.2.2,
      hsector, rfl⟩, _, ⟨by omega, rfl⟩, (first, stop), hwindow, start, haligned, hstart,
      stop - start, ⟨by omega, rfl⟩, _, ⟨hbytes, rfl⟩, hpositive, rfl⟩
  unfold resolveBlankDisk
  rw [exists_bind_ok_iff]
  refine ⟨policy, rfl, ?_⟩
  rw [hgeometry]
  exact ⟨_, rfl⟩

/-- What was checked of a blank disk, with the room that was found on it. -/
theorem resolveBlankDisk_resolvable (hkind : o.kind = .blankDisk)
    (h : resolveBlankDisk s o policy = .ok adapter) : Resolvable s o := by
  unfold resolveBlankDisk blankDiskGeometry blankDisk at h
  simp only [bind_eq_ok_iff, exists_check_iff, Extend.ensure_eq_ok_iff, okOr_eq_ok_iff,
    Extend.unique_eq_ok_iff, checkedMul_eq_some_iff, checkedSub_eq_some_iff,
    ceilDiv_eq_some_iff] at h
  obtain ⟨policy, -, _, ⟨collector, hcollector, hcomplete, path, hpath, _,
    ⟨disk, hdisk, hblank, -, hswap, hclean, hpure⟩, sector, hsector, hgeometry, _, ⟨-, rfl⟩,
    ⟨first, stop⟩, hwindow, start, haligned, hroom, -⟩, -⟩ := h
  cases hpure
  unfold Resolvable
  rw [hkind]
  exact ⟨partitionTablesComplete_iff.mpr ⟨collector, hcollector, hcomplete⟩, path, disk, sector,
    hpath, hdisk, hblank.2.2.2.2, hswap, hclean, hsector, hgeometry.1, hgeometry.2.1,
    hgeometry.2.2.1, hgeometry.2.2.2.1, policy, first, stop, start, hwindow, haligned, hroom⟩

theorem resolved_resolvable (h : resolveCreateSourceAdapter s o policy = .ok adapter) :
    Resolvable s o := by
  obtain ⟨-, h⟩ := resolveCreateSourceAdapter_iff.mp h
  cases hkind : o.kind with
  | lvmFreeExtents =>
    rw [hkind] at h
    obtain ⟨lvm, name, vg, extent, group⟩ := resolveVolumeGroup_ok_iff.mp h
    unfold Resolvable
    rw [hkind]
    exact ⟨lvm, name, vg, extent, group.inventory, group.named, group.ofName, group.extentSize,
      group.valid.1, group.valid.2.1⟩
  | blankDisk =>
    rw [hkind] at h
    exact resolveBlankDisk_resolvable hkind h
  | diskGap =>
    rw [hkind] at h
    obtain ⟨path, disk, _, _, _, _, _, range⟩ := resolveRange_ok h
    unfold Resolvable
    rw [hkind]
    exact ⟨path, disk, range.named, range.ofDisk⟩
  | diskTail =>
    rw [hkind] at h
    obtain ⟨path, disk, _, _, _, _, _, range⟩ := resolveRange_ok h
    unfold Resolvable
    rw [hkind]
    exact ⟨path, disk, range.named, range.ofDisk⟩
  | blockedDisk =>
    rw [hkind] at h
    exact h.elim

theorem RangeSource.agrees {path : String} {disk : Node} {table : PartitionTable}
    {ranges : List PartitionFreeRange} {sector start count : Nat}
    (h : RangeSource s o adapter path disk table ranges sector start count)
    (hkind : o.kind ≠ .blankDisk) (hgroup : o.volumeGroup = none) : Agrees o adapter := by
  obtain ⟨-, hstart, hcount, havailable⟩ := h.geometry
  rw [h.adapter_eq]
  exact ⟨rfl, h.named, hgroup, fun _ => ⟨havailable, hstart, hcount⟩,
    fun hblank => absurd hblank hkind⟩

/-- What a new table leaves of a blank disk begins behind its first sector and ends on it. -/
theorem BlankSource.leaves {policy : CreatePartitionTablePolicy} {path : String} {disk : Node}
    {sector first stop start : Nat}
    (h : BlankSource s o adapter policy path disk sector first stop start) :
    0 < start ∧ start * sector + (stop - start) * sector ≤ disk.device.sizeBytes := by
  constructor
  · have hfirst := (alignUp_ok h.aligned).2
    have hwindow := h.window
    cases policy with
    | gpt =>
      have hgpt := (hwindow.gpt rfl).1
      omega
    | dos =>
      have hdos := (hwindow.dos rfl).1
      omega
  · have hroom := h.room
    have hwhole := Nat.div_mul_le_self disk.device.sizeBytes sector
    have hless := Nat.mul_le_mul_right sector h.window.within
    rw [← Nat.add_mul, Nat.add_sub_cancel' hroom.le]
    omega

/-- A source that is written as a listing writes it is resolved to its own place. -/
theorem resolved_agrees (hwritten : Written o)
    (h : resolveCreateSourceAdapter s o policy = .ok adapter) : Agrees o adapter := by
  obtain ⟨-, h⟩ := resolveCreateSourceAdapter_iff.mp h
  unfold Written at hwritten
  cases hkind : o.kind with
  | lvmFreeExtents =>
    rw [hkind] at h hwritten
    obtain ⟨lvm, name, vg, extent, group⟩ := resolveVolumeGroup_ok_iff.mp h
    obtain ⟨_, -, hdisk, -, hstart, hcount⟩ := hwritten
    have hname : vg.name = name := by
      simpa using (mem_of_filter_eq_singleton group.ofName).2
    rw [group.adapter_eq]
    refine ⟨rfl, hdisk, ?_, fun _ => ⟨group.valid.2.2.symm, hstart, hcount⟩, ?_⟩
    · rw [hname]
      exact group.named
    · intro hblank
      rw [hkind] at hblank
      cases hblank
  | blankDisk =>
    rw [hkind] at h hwritten
    obtain ⟨policy, path, disk, sector, first, stop, start, -, blank⟩ := resolveBlankDisk_ok h
    obtain ⟨_, -, -, hgroup, -⟩ := hwritten
    rw [blank.adapter_eq]
    refine ⟨rfl, blank.named, hgroup, fun hnot => absurd hkind hnot, fun _ => ⟨start, rfl, ?_⟩⟩
    rw [blank.geometry.2.2.2.2.2]
    exact blank.leaves
  | diskGap =>
    rw [hkind] at h hwritten
    obtain ⟨_, _, _, _, _, _, _, range⟩ := resolveRange_ok h
    obtain ⟨_, _, _, -, -, hgroup, -⟩ := hwritten
    exact range.agrees (by rw [hkind]; nofun) hgroup
  | diskTail =>
    rw [hkind] at h hwritten
    obtain ⟨_, _, _, _, _, _, _, range⟩ := resolveRange_ok h
    obtain ⟨_, -, -, hgroup⟩ := hwritten
    exact range.agrees (by rw [hkind]; nofun) hgroup
  | blockedDisk =>
    rw [hkind] at h
    exact h.elim

theorem rangeKind_tail (range : PartitionFreeRange) :
    decide (rangeKind range = .diskTail) = range.isTail := by
  unfold rangeKind
  cases range.isTail <;> rfl

theorem rangeKind_ne (range : PartitionFreeRange) :
    rangeKind range ≠ .blankDisk ∧ rangeKind range ≠ .blockedDisk ∧
      (rangeKind range = .diskGap ∨ rangeKind range = .diskTail) := by
  unfold rangeKind
  cases range.isTail <;> simp

/-- A listed place is resolved when it is resolvable. -/
theorem Listed.resolved (hfits : SizesFit s) (hlisted : Listed s o) (h : Resolvable s o) :
    ∃ policy adapter, resolveCreateSourceAdapter s o policy = .ok adapter := by
  cases hlisted with
  | @group lvm vg inventory known free =>
    obtain ⟨lvm', name, vg', extent, hlvm, hname, hofName, hextent, hvalid⟩ := h
    obtain rfl : lvm = lvm' := Option.some.inj (inventory.symm.trans hlvm)
    obtain rfl : vg.name = name := Option.some.inj hname
    obtain rfl : vg = vg' := eq_of_filter_eq_singleton hofName known (by simp)
    exact ⟨none, _, resolveCreateSourceAdapter_iff.mpr ⟨.inr rfl, resolveVolumeGroup_ok_iff.mpr
      ⟨lvm, vg.name, vg, extent, rfl, hlvm, hofName, hextent, ⟨hvalid.1, hvalid.2, rfl⟩, rfl⟩⟩⟩
  | @blank node path known disk named untabled unused =>
    obtain ⟨hcomplete, path', node', sector, hpath, hofPath, hmounts, hswap, hclean, hsector,
      hsize, hpower, hpositive, hwhole, policy, hroom⟩ := h
    obtain rfl : path = path' := Option.some.inj hpath
    obtain rfl : node = node' := eq_of_filter_eq_singleton hofPath known (by simp [named])
    obtain ⟨adapter, hresolved⟩ := resolveBlankDisk_of_room (hfits node known) hcomplete hofPath
      ⟨disk, unused.1, unused.2.1, unused.2.2, hmounts⟩
      (fun table htable heq => by
        have hmem : table ∈ s.partitionTables.filter (·.device = path) :=
          List.mem_filter.mpr ⟨htable, decide_eq_true heq⟩
        rw [untabled] at hmem
        cases hmem)
      hswap hclean hsector ⟨hsize, hpower, hpositive, hwhole⟩ hroom
    exact ⟨some policy, adapter, resolveCreateSourceAdapter_iff.mpr ⟨.inl rfl, hresolved⟩⟩
  | blocked => exact h.elim
  | @range node path table space range _ known disk named complete ofTable free mem counted =>
    have fields := rangeOpportunity_fields counted
    obtain ⟨hkindBlank, -, hkinds⟩ := rangeKind_ne range
    have hofDisk : ∃ path disk, o.disk = some path ∧
        (flatten s.storage.blockDevices).filter (fun n =>
          isDisk n.device.kind && n.device.path == some path) = [disk] := by
      unfold Resolvable at h
      rw [fields.kind] at h
      rcases hkinds with hkind | hkind
      · rw [hkind] at h
        exact h
      · rw [hkind] at h
        exact h
    obtain ⟨path', node', hpath, hofDisk⟩ := hofDisk
    obtain rfl : path = path' := Option.some.inj (fields.disk.symm.trans hpath)
    obtain rfl : node = node' := eq_of_filter_eq_singleton hofDisk known (by simp [disk, named])
    obtain ⟨-, hsize, hpower⟩ := partitionFreeRanges_sector free
    have hmem : ⟨range.startSector, range.sectorCount, o.kind = .diskTail⟩ ∈ space.ranges := by
      rw [fields.kind, rangeKind_tail]
      exact mem
    obtain ⟨adapter, hresolved⟩ : ∃ adapter, resolveRange s o = .ok adapter := ⟨_, RangeSource.ok
      (⟨hpath, ⟨fields.sectorSize, fields.sectors.1, fields.sectors.2, fields.available⟩,
        ⟨hsize, hpower, Nat.pos_of_ne_zero fields.counted.1⟩, hofDisk, ofTable, free, hmem,
        fields.counted.2.1, rfl⟩ : RangeSource s o _ path node table space.ranges
          space.sectorSizeBytes range.startSector range.sectorCount)⟩
    refine ⟨none, adapter, resolveCreateSourceAdapter_iff.mpr ⟨.inr rfl, ?_⟩⟩
    · rw [fields.kind]
      rcases hkinds with hkind | hkind
      · rw [hkind]
        exact hresolved
      · rw [hkind]
        exact hresolved

end Resolution

section Listing

variable {adapter : CreateSourceAdapter} {policy : Option CreatePartitionTablePolicy}

/-- The groups that are listed. -/
def freeGroups (s : HostSnapshot) : List Core.LvmVolumeGroup :=
  (s.lvm.elim [] (·.volumeGroups)).filter (·.freeBytes ≠ 0)

/-- The disks that are looked at. -/
def listedDisks (s : HostSnapshot) : List BlockDevice :=
  ((flatten s.storage.blockDevices).map (·.device)).filter (isDisk ·.kind)

/-- No two listed groups have one name, and no two disks one path. -/
structure NamedOnce (s : HostSnapshot) : Prop where
  groups : ((freeGroups s).map (·.name)).Nodup
  disks : ((listedDisks s).filterMap (·.path)).Nodup

/-- Two different texts with one digest. -/
def Collide (a b : ProvisioningOpportunity) : Prop :=
  material a ≠ material b ∧ Lib.Sha256.sha256Hex (material a).toUTF8.toList =
    Lib.Sha256.sha256Hex (material b).toUTF8.toList

theorem Listed.identified {a b : ProvisioningOpportunity} (ha : Listed s a) (hb : Listed s b)
    (h : a.id = b.id) : SamePlace a b ∨ Collide a b := by
  by_cases hsame : material a = material b
  · exact .inl (material_inj ha.written hb.written hsame)
  · rw [ha.id, hb.id] at h
    have hdigest := congrArg String.toList h
    simp only [provisioningOpportunityId, String.toList_append] at hdigest
    exact .inr ⟨hsame, String.toList_inj.mp (List.append_cancel_left hdigest)⟩

theorem mem_diskOpportunities {disk : BlockDevice} (h : o ∈ diskOpportunities s disk) :
    o.disk = disk.path ∧ o.kind ≠ .lvmFreeExtents := by
  unfold diskOpportunities at h
  cases hpath : disk.path with
  | none =>
    rw [hpath] at h
    cases h
  | some path =>
    rw [hpath] at h
    dsimp only at h
    split at h
    · rw [List.mem_singleton] at h
      rw [h]
      exact ⟨rfl, nofun⟩
    · split at h
      · split at h
        · cases h
        · rw [List.mem_singleton] at h
          rw [h]
          exact ⟨rfl, nofun⟩
      · split at h
        · cases h
        · split at h
          · rw [List.mem_singleton] at h
            rw [h]
            exact ⟨rfl, nofun⟩
          · obtain ⟨range, -, hcounted⟩ := List.mem_filterMap.mp h
            have fields := rangeOpportunity_fields hcounted
            refine ⟨fields.disk, ?_⟩
            rw [fields.kind]
            rcases (rangeKind_ne range).2.2 with hkind | hkind
            · rw [hkind]
              nofun
            · rw [hkind]
              nofun
        · rw [List.mem_singleton] at h
          rw [h]
          exact ⟨rfl, nofun⟩

/-- The places on one disk: a single one, or its free ranges, which begin at different
sectors. -/
theorem diskOpportunities_apart (disk : BlockDevice) :
    (diskOpportunities s disk).Pairwise fun a b => ¬SamePlace a b := by
  unfold diskOpportunities
  split
  · exact .nil
  · dsimp only
    split
    · exact List.pairwise_singleton _ _
    · split
      · split
        · exact .nil
        · exact List.pairwise_singleton _ _
      · split
        · exact .nil
        · split
          · exact List.pairwise_singleton _ _
          · rename_i space hspace
            obtain ⟨_, _, -, lawful⟩ := partitionFreeRanges_lawful hspace
            rw [List.pairwise_filterMap]
            refine lawful.order.imp fun {a b} hlt o ho o' ho' hsame => ?_
            have hstart := hsame.2.2.2.1
            rw [(rangeOpportunity_fields ho).sectors.1, (rangeOpportunity_fields ho').sectors.1]
              at hstart
            have hsector := Option.some.inj hstart
            simp only [PartitionFreeRange.span] at hlt
            omega
        · exact List.pairwise_singleton _ _

theorem opportunities_apart (h : NamedOnce s) :
    (opportunities s).Pairwise fun a b => ¬SamePlace a b := by
  refine List.pairwise_append.mpr ⟨?_, List.pairwise_flatMap.mpr ⟨?_, ?_⟩, ?_⟩
  · have hnames := List.pairwise_map.mp (List.nodup_iff_pairwise_ne.mp h.groups)
    refine List.pairwise_map.mpr (hnames.imp fun hne hsame => hne ?_)
    exact Option.some.inj hsame.2.2.1
  · exact fun disk _ => diskOpportunities_apart disk
  · have hpaths := List.pairwise_filterMap.mp (List.nodup_iff_pairwise_ne.mp h.disks)
    refine hpaths.imp fun {a b} hne o ho o' ho' hsame => ?_
    have hdisk := (mem_diskOpportunities ho).1
    have hdisk' := (mem_diskOpportunities ho').1
    have heq : a.path = b.path := hdisk.symm.trans (hsame.2.1.trans hdisk')
    cases hpath : a.path with
    | none =>
      unfold diskOpportunities at ho
      rw [hpath] at ho
      cases ho
    | some path => exact hne path hpath path (heq ▸ hpath) rfl
  · intro a ha b hb hsame
    obtain ⟨vg, -, rfl⟩ := List.mem_map.mp ha
    obtain ⟨disk, -, hb⟩ := List.mem_flatMap.mp hb
    exact (mem_diskOpportunities hb).2 hsame.1.symm

theorem SamePlace.symm {a b : ProvisioningOpportunity} (h : SamePlace a b) : SamePlace b a :=
  ⟨h.1.symm, h.2.1.symm, h.2.2.1.symm, h.2.2.2.1.symm, h.2.2.2.2.symm⟩

theorem listed_apart (h : NamedOnce s) :
    (listProvisioningOpportunities s).Pairwise fun a b => ¬SamePlace a b := by
  have hperm := List.perm_insertionSort ProvisioningOpportunity.le (opportunities s)
  refine (hperm.pairwise_iff ?_).mpr (opportunities_apart h)
  exact fun hne hsame => hne hsame.symm

/-- What the listing asks of a resolved place: free space of a group, and a complete discovery
of the tables for what is between their records. -/
def Findable (s : HostSnapshot) (source : ProvisioningOpportunity) : Prop :=
  match source.kind with
  | .blockedDisk => False
  | .lvmFreeExtents => source.availableBytes ≠ 0
  | .diskGap | .diskTail => partitionTablesComplete s
  | .blankDisk => True

theorem Listed.findable (h : Listed s o) (hkind : o.kind ≠ .blockedDisk) : Findable s o := by
  cases h with
  | group _ _ free => exact free
  | blank => trivial
  | blocked => exact absurd rfl hkind
  | @range _ _ _ _ range _ _ _ _ complete _ _ _ counted =>
    unfold Findable
    rw [(rangeOpportunity_fields counted).kind]
    rcases (rangeKind_ne range).2.2 with hrange | hrange
    · rw [hrange]
      exact complete
    · rw [hrange]
      exact complete

theorem diskOpportunities_blank {node : Node} {path : String}
    (hnamed : node.device.path = some path)
    (huntabled : ∀ table ∈ s.partitionTables, table.device ≠ path)
    (hunused : node.device.children.isEmpty ∧ node.device.filesystem = none ∧
      node.device.partitionTable = none) : diskOpportunities s node.device =
        [blankDiskOpportunity node.device path (partitionTablesComplete s)] := by
  have hnone : s.partitionTables.filter (·.device = path) = [] := by
    rw [List.filter_eq_nil_iff]
    exact fun table htable heq => huntabled table htable (of_decide_eq_true heq)
  unfold diskOpportunities
  rw [hnamed]
  dsimp only
  rw [hnone, if_pos ⟨rfl, hunused⟩]

theorem diskOpportunities_ranges {node : Node} {path : String} {table : PartitionTable}
    {space : PartitionFreeSpace} (hnamed : node.device.path = some path)
    (hcomplete : partitionTablesComplete s)
    (htable : s.partitionTables.filter (·.device = path) = [table])
    (hfree : partitionFreeRanges node.device table = some space) : diskOpportunities s node.device =
      space.ranges.filterMap (rangeOpportunity table path space.sectorSizeBytes) := by
  unfold diskOpportunities
  rw [hnamed]
  dsimp only
  rw [htable, if_neg (fun h => nomatch h.1), if_neg (not_not.mpr hcomplete)]
  dsimp only
  rw [hfree]

/-- A resolved group is listed when it has free space. -/
theorem GroupSource.listed {lvm : Core.LvmInventory} {name : String} {vg : Core.LvmVolumeGroup}
    {extent : Nat} {source : ProvisioningOpportunity}
    (h : GroupSource s source adapter lvm name vg extent) (hkind : source.kind = .lvmFreeExtents)
    (hfree : source.availableBytes ≠ 0) : ∃ o ∈ listProvisioningOpportunities s,
      Agrees o adapter := by
  obtain ⟨hvg, -⟩ := mem_of_filter_eq_singleton h.ofName
  have hmem : vg ∈ freeGroups s := by
    unfold freeGroups
    rw [h.inventory]
    exact List.mem_filter.mpr ⟨hvg, decide_eq_true (h.valid.2.2 ▸ hfree)⟩
  refine ⟨volumeGroupOpportunity vg, ?_, ?_⟩
  · rw [mem_listProvisioningOpportunities, opportunities, List.mem_append]
    exact .inl (List.mem_map.mpr ⟨vg, hmem, rfl⟩)
  · rw [h.adapter_eq]
    exact ⟨hkind.symm, rfl, rfl, fun _ => ⟨rfl, rfl, rfl⟩, nofun⟩

/-- A resolved range is listed when the tables were discovered completely. -/
theorem RangeSource.listed {source : ProvisioningOpportunity} {path : String} {disk : Node}
    {table : PartitionTable} {ranges : List PartitionFreeRange} {sector start count : Nat}
    (hfits : SizesFit s) (h : RangeSource s source adapter path disk table ranges sector start count)
    (hkind : source.kind = .diskGap ∨ source.kind = .diskTail)
    (hcomplete : partitionTablesComplete s) : ∃ o ∈ listProvisioningOpportunities s,
      Agrees o adapter := by
  obtain ⟨hknown, hdisk⟩ := mem_of_filter_eq_singleton h.ofDisk
  simp only [Bool.and_eq_true, beq_iff_eq] at hdisk
  obtain ⟨first, stop, hwindow, lawful⟩ := partitionFreeRanges_lawful h.free
  have hcounted : start + count < limit := by
    have hstop := (lawful.inside _ h.mem).2
    have hwithin := usableWindow_le hwindow
    have hsectors := Nat.div_le_self disk.device.sizeBytes sector
    have hsize := hfits disk hknown
    simp only [PartitionFreeRange.span] at hstop
    dsimp only at hwithin
    omega
  obtain ⟨o, ho⟩ := Option.isSome_iff_exists.mp ((@rangeOpportunity_eq_some_iff table path sector
    ⟨start, count, source.kind = .diskTail⟩).mpr ⟨h.valid.2.2.ne', h.fits, hcounted⟩)
  have fields := rangeOpportunity_fields ho
  refine ⟨o, mem_of_disk hknown hdisk.1 ?_, ?_⟩
  · rw [diskOpportunities_ranges hdisk.2 hcomplete h.ofTable h.free]
    exact List.mem_filterMap.mpr ⟨_, h.mem, ho⟩
  · have hsame : o.kind = source.kind := by
      rw [fields.kind]
      rcases hkind with hkind | hkind
      · rw [hkind]
        rfl
      · rw [hkind]
        rfl
    rw [h.adapter_eq]
    refine ⟨hsame, fields.disk, fields.volumeGroup,
      fun _ => ⟨fields.available, fields.sectors.1, fields.sectors.2⟩, ?_⟩
    intro hblank
    rw [hsame] at hblank
    rcases hkind with hkind | hkind
    · rw [hkind] at hblank
      cases hblank
    · rw [hkind] at hblank
      cases hblank

/-- A resolved blank disk is listed. -/
theorem BlankSource.listed {source : ProvisioningOpportunity} {policy : CreatePartitionTablePolicy}
    {path : String} {disk : Node} {sector first stop start : Nat}
    (h : BlankSource s source adapter policy path disk sector first stop start) :
    blankDiskOpportunity disk.device path (partitionTablesComplete s) ∈
      listProvisioningOpportunities s := by
  obtain ⟨hknown, hnamed⟩ := mem_of_filter_eq_singleton h.ofDisk
  refine mem_of_disk hknown h.blank.1 ?_
  rw [diskOpportunities_blank (of_decide_eq_true hnamed) h.untabled
    ⟨h.blank.2.1, h.blank.2.2.1, h.blank.2.2.2.1⟩]
  exact List.mem_singleton_self _

theorem resolved_listed {source : ProvisioningOpportunity} (hfits : SizesFit s)
    (h : resolveCreateSourceAdapter s source policy = .ok adapter) (hfindable : Findable s source) :
    ∃ o ∈ listProvisioningOpportunities s, Agrees o adapter := by
  obtain ⟨-, h⟩ := resolveCreateSourceAdapter_iff.mp h
  unfold Findable at hfindable
  cases hkind : source.kind with
  | lvmFreeExtents =>
    rw [hkind] at h hfindable
    obtain ⟨_, _, _, _, group⟩ := resolveVolumeGroup_ok_iff.mp h
    exact group.listed hkind hfindable
  | blankDisk =>
    rw [hkind] at h
    obtain ⟨_, path, disk, _, _, _, _, -, blank⟩ := resolveBlankDisk_ok h
    refine ⟨_, blank.listed, ?_⟩
    rw [blank.adapter_eq]
    exact ⟨hkind.symm, rfl, rfl, fun hnot => absurd rfl hnot, fun _ => ⟨_, rfl, blank.leaves⟩⟩
  | diskGap =>
    rw [hkind] at h hfindable
    obtain ⟨_, _, _, _, _, _, _, range⟩ := resolveRange_ok h
    exact range.listed hfits (.inl hkind) hfindable
  | diskTail =>
    rw [hkind] at h hfindable
    obtain ⟨_, _, _, _, _, _, _, range⟩ := resolveRange_ok h
    exact range.listed hfits (.inr hkind) hfindable
  | blockedDisk =>
    rw [hkind] at h
    exact h.elim

theorem blocked_on_disk (h : o ∈ listProvisioningOpportunities s) (hkind : o.kind = .blockedDisk) :
    ∃ node ∈ flatten s.storage.blockDevices, isDisk node.device.kind ∧
      o ∈ diskOpportunities s node.device := by
  rw [mem_listProvisioningOpportunities, opportunities, List.mem_append] at h
  rcases h with h | h
  · obtain ⟨vg, -, rfl⟩ := List.mem_map.mp h
    cases hkind
  · obtain ⟨device, hdevice, hmem⟩ := List.mem_flatMap.mp h
    obtain ⟨hdevice, hdisk⟩ := List.mem_filter.mp hdevice
    obtain ⟨node, hnode, rfl⟩ := List.mem_map.mp hdevice
    exact ⟨node, hnode, hdisk, hmem⟩

theorem RangeSource.unblocked {source : ProvisioningOpportunity} {path : String} {disk : Node}
    {table : PartitionTable} {ranges : List PartitionFreeRange} {sector start count : Nat}
    (h : RangeSource s source adapter path disk table ranges sector start count)
    (hcomplete : partitionTablesComplete s) (hmem : o ∈ listProvisioningOpportunities s)
    (hsame : o.disk = adapter.disk) : o.kind ≠ .blockedDisk := by
  intro hkind
  obtain ⟨node, hnode, hdisk, hmem⟩ := blocked_on_disk hmem hkind
  have hpath : node.device.path = some path := by
    rw [← (mem_diskOpportunities hmem).1, hsame, h.adapter_eq]
  obtain rfl : node = disk := eq_of_filter_eq_singleton h.ofDisk hnode (by simp [hdisk, hpath])
  rw [diskOpportunities_ranges hpath hcomplete h.ofTable h.free] at hmem
  obtain ⟨range, -, hcounted⟩ := List.mem_filterMap.mp hmem
  exact (rangeKind_ne range).2.1 ((rangeOpportunity_fields hcounted).kind.symm.trans hkind)

/-- The disk of a source that is listed is not listed as blocked. -/
theorem resolved_unblocked {source : ProvisioningOpportunity}
    (h : resolveCreateSourceAdapter s source policy = .ok adapter) (hfindable : Findable s source)
    (hmem : o ∈ listProvisioningOpportunities s) (hsame : o.disk = adapter.disk) :
    o.kind ≠ .blockedDisk := by
  obtain ⟨-, h⟩ := resolveCreateSourceAdapter_iff.mp h
  unfold Findable at hfindable
  cases hkind : source.kind with
  | lvmFreeExtents =>
    rw [hkind] at h
    obtain ⟨_, _, _, _, group⟩ := resolveVolumeGroup_ok_iff.mp h
    rw [group.adapter_eq] at hsame
    intro hblocked
    obtain ⟨node, -, -, hmem⟩ := blocked_on_disk hmem hblocked
    have hnone : node.device.path = none := (mem_diskOpportunities hmem).1.symm.trans hsame
    unfold diskOpportunities at hmem
    rw [hnone] at hmem
    cases hmem
  | blankDisk =>
    rw [hkind] at h
    obtain ⟨_, path, disk, _, _, _, _, -, blank⟩ := resolveBlankDisk_ok h
    intro hblocked
    obtain ⟨node, hnode, hdisk, hmem⟩ := blocked_on_disk hmem hblocked
    have hpath : node.device.path = some path := by
      rw [← (mem_diskOpportunities hmem).1, hsame, blank.adapter_eq]
    obtain rfl : node = disk := eq_of_filter_eq_singleton blank.ofDisk hnode (by simp [hpath])
    rw [diskOpportunities_blank hpath blank.untabled
      ⟨blank.blank.2.1, blank.blank.2.2.1, blank.blank.2.2.2.1⟩, List.mem_singleton] at hmem
    rw [hmem] at hblocked
    cases hblocked
  | diskGap =>
    rw [hkind] at h hfindable
    obtain ⟨_, _, _, _, _, _, _, range⟩ := resolveRange_ok h
    exact range.unblocked hfindable hmem hsame
  | diskTail =>
    rw [hkind] at h hfindable
    obtain ⟨_, _, _, _, _, _, _, range⟩ := resolveRange_ok h
    exact range.unblocked hfindable hmem hsame
  | blockedDisk =>
    rw [hkind] at h
    exact h.elim

/-- A resolved source keeps its kind, and a group its free bytes. -/
theorem resolved_source {source : ProvisioningOpportunity}
    (h : resolveCreateSourceAdapter s source policy = .ok adapter) : adapter.kind = source.kind ∧
      (source.kind = .lvmFreeExtents → adapter.availableBytes = source.availableBytes) ∧
      source.kind ≠ .blockedDisk := by
  obtain ⟨-, h⟩ := resolveCreateSourceAdapter_iff.mp h
  cases hkind : source.kind with
  | lvmFreeExtents =>
    rw [hkind] at h
    obtain ⟨_, _, _, _, group⟩ := resolveVolumeGroup_ok_iff.mp h
    rw [group.adapter_eq]
    exact ⟨hkind, fun _ => group.valid.2.2, nofun⟩
  | blankDisk =>
    rw [hkind] at h
    obtain ⟨_, _, _, _, _, _, _, -, blank⟩ := resolveBlankDisk_ok h
    rw [blank.adapter_eq]
    exact ⟨hkind, nofun, nofun⟩
  | diskGap =>
    rw [hkind] at h
    obtain ⟨_, _, _, _, _, _, _, range⟩ := resolveRange_ok h
    rw [range.adapter_eq]
    exact ⟨hkind, nofun, nofun⟩
  | diskTail =>
    rw [hkind] at h
    obtain ⟨_, _, _, _, _, _, _, range⟩ := resolveRange_ok h
    rw [range.adapter_eq]
    exact ⟨hkind, nofun, nofun⟩
  | blockedDisk =>
    rw [hkind] at h
    exact h.elim

/-- What is listed at the place of a resolved source shows that it is findable. -/
theorem findable_of_agrees {source : ProvisioningOpportunity}
    (h : resolveCreateSourceAdapter s source policy = .ok adapter) (hlisted : Listed s o)
    (hagrees : Agrees o adapter) : Findable s source := by
  obtain ⟨hkind, havailable, hblocked⟩ := resolved_source h
  have hsame : o.kind = source.kind := hagrees.kind.trans hkind
  have hfindable := hlisted.findable (hsame ▸ hblocked)
  unfold Findable at hfindable ⊢
  rw [hsame] at hfindable
  cases hk : source.kind with
  | lvmFreeExtents =>
    rw [hk] at hfindable hsame
    have hbytes := (hagrees.range (by rw [hsame]; nofun)).1
    rw [havailable hk] at hbytes
    exact hbytes ▸ hfindable
  | blankDisk => trivial
  | diskGap =>
    rw [hk] at hfindable
    exact hfindable
  | diskTail =>
    rw [hk] at hfindable
    exact hfindable
  | blockedDisk => exact hblocked hk

/-- How the listing and the resolution of a host agree. Identifiers tell places apart, two
texts with one digest aside; a listed place is resolved exactly when it is resolvable, and to
its own place; and what is resolved is listed, and its disk not as blocked, exactly when it is
findable. -/
structure ListingAgrees (s : HostSnapshot) : Prop where
  apart : NamedOnce s → (listProvisioningOpportunities s).Pairwise fun a b =>
    a.id ≠ b.id ∨ Collide a b
  identified : ∀ a ∈ listProvisioningOpportunities s, ∀ b ∈ listProvisioningOpportunities s,
    a.id = b.id → SamePlace a b ∨ Collide a b
  resolvable : ∀ o ∈ listProvisioningOpportunities s,
    (∃ policy adapter, resolveCreateSourceAdapter s o policy = .ok adapter) ↔ Resolvable s o
  agreeing : ∀ o ∈ listProvisioningOpportunities s, ∀ policy adapter,
    resolveCreateSourceAdapter s o policy = .ok adapter → Agrees o adapter
  listed : ∀ source policy adapter, resolveCreateSourceAdapter s source policy = .ok adapter →
    adapter.kind = source.kind ∧
      ((∃ o ∈ listProvisioningOpportunities s, Agrees o adapter) ↔ Findable s source)
  unblocked : ∀ source policy adapter, resolveCreateSourceAdapter s source policy = .ok adapter →
    Findable s source → ∀ o ∈ listProvisioningOpportunities s, o.disk = adapter.disk →
      o.kind ≠ .blockedDisk

theorem listing_agrees (h : SizesFit s) : ListingAgrees s where
  apart := by
    intro honce
    have hlisted := List.pairwise_of_forall_mem_list (r := fun a b => Listed s a ∧ Listed s b)
      fun a ha b hb => ⟨listed_of_mem ha, listed_of_mem hb⟩
    refine (hlisted.and (listed_apart honce)).imp fun {a b} hpair => ?_
    by_cases hid : a.id = b.id
    · exact .inr ((hpair.1.1.identified hpair.1.2 hid).resolve_left hpair.2)
    · exact .inl hid
  identified := fun a ha b hb => (listed_of_mem ha).identified (listed_of_mem hb)
  resolvable := fun o ho =>
    ⟨fun ⟨_, _, hresolved⟩ => resolved_resolvable hresolved, (listed_of_mem ho).resolved h⟩
  agreeing := fun o ho _ _ => resolved_agrees (listed_of_mem ho).written
  listed := fun source policy adapter hresolved => ⟨(resolved_source hresolved).1,
    fun ⟨_, ho, hagrees⟩ => findable_of_agrees hresolved (listed_of_mem ho) hagrees,
    resolved_listed h hresolved⟩
  unblocked := fun source policy adapter hresolved hfindable o =>
    resolved_unblocked hresolved hfindable

end Listing

section Samples

/-- A host of one blank disk. -/
def blankSnapshot : HostSnapshot where
  storage :=
    { blockDevices :=
        [{ name := "sda", kernelName := some "sda", path := some "/dev/sda", kind := .disk,
           sizeBytes := 65536 * 512, start512Sector := none, logicalSectorBytes := some 512,
           filesystem := none, mountpoints := [], parentKernelName := none, model := none,
           serial := none, uuid := none, partitionUuid := none, partitionTable := none,
           children := [] }] }
  partitionTables := []
  mounts := []
  fstab := []
  swaps := []
  collectors := [⟨"partition_tables", .complete, none⟩]

theorem listing_agrees_blank : ListingAgrees blankSnapshot := listing_agrees (by decide)

/-- A group of one name, with so many free bytes. -/
def sampleGroup (freeBytes : Nat) : Core.LvmVolumeGroup where
  name := "vg0"
  uuid := none
  sizeBytes := 2 ^ 30
  freeBytes
  pvCount := 1
  lvCount := 0
  extentSizeBytes := some (2 ^ 22)
  freeExtentCount := none
  missingPvCount := none
  attributes := none

/-- A host of volume groups. -/
def groupSnapshot (groups : List Core.LvmVolumeGroup) : HostSnapshot where
  storage := { blockDevices := [] }
  partitionTables := []
  mounts := []
  fstab := []
  swaps := []
  lvm := some { physicalVolumes := [], volumeGroups := groups, logicalVolumes := [] }
  collectors := [⟨"partition_tables", .complete, none⟩]

/-- A blank disk is listed with all of its bytes and resolved, under either table, with fewer.
Two groups of one name are listed under one identifier, and neither is resolved. A group
without free space is resolved and not listed. -/
theorem listing_differs :
    (∃ o ∈ listProvisioningOpportunities blankSnapshot,
      o.kind = .blankDisk ∧ partitionTablesComplete blankSnapshot ∧
      o.availableBytes = 65536 * 512 ∧
      (resolveCreateSourceAdapter blankSnapshot o (some .gpt)).toOption.map (·.availableBytes) =
        some ((65503 - 2048) * 512) ∧
      (resolveCreateSourceAdapter blankSnapshot o (some .dos)).toOption.map (·.availableBytes) =
        some ((65536 - 2048) * 512) ∧
      (resolveCreateSourceAdapter blankSnapshot o none).toOption = none) ∧
    (¬((listProvisioningOpportunities
        (groupSnapshot [sampleGroup (2 ^ 22), sampleGroup (2 ^ 22)])).map (·.id)).Nodup ∧
      ∀ policy, (resolveCreateSourceAdapter
        (groupSnapshot [sampleGroup (2 ^ 22), sampleGroup (2 ^ 22)])
        (volumeGroupOpportunity (sampleGroup (2 ^ 22))) policy).toOption = none) ∧
    ((resolveCreateSourceAdapter (groupSnapshot [sampleGroup 0])
        (volumeGroupOpportunity (sampleGroup 0)) none).toOption.isSome ∧
      listProvisioningOpportunities (groupSnapshot [sampleGroup 0]) = []) := by
  refine ⟨⟨_, mem_listProvisioningOpportunities.mpr (List.mem_singleton_self _), rfl, rfl, rfl, ?_,
    ?_, rfl⟩, ⟨?_, ?_⟩, rfl, rfl⟩
  · decide +kernel
  · decide +kernel
  · have hperm := List.perm_insertionSort ProvisioningOpportunity.le
      (opportunities (groupSnapshot [sampleGroup (2 ^ 22), sampleGroup (2 ^ 22)]))
    intro h
    have hnodup := (hperm.map (·.id)).nodup_iff.mp h
    exact (List.nodup_cons.mp hnodup).1 (List.mem_singleton_self _)
  · rintro (_ | policy)
    · rfl
    · rfl

end Samples

end StorageManager.Planner.Provisioning
