import StorageManager.Planner.AdvisoryRecords
import StorageManager.Planner.LayoutAlternatives

/-!
# What a layout alternative reclaims

The alternative removes the container behind a DOS partition, with the one swap partition in
it, and grows the partition over their place. The grown partition always ends on the disk;
the sectors in between are free when nothing else reaches into them.
-/

namespace StorageManager.Planner.Extend

open Core (HostSnapshot PartitionRecord PartitionTable)
open Discovery
open Lib.Checks
open Lib.Word64

set_option autoImplicit false

def endSector (r : PartitionRecord) : Nat := r.startSector + r.sizeSectors

/-- The partition, the container behind it and the swap partition inside, as the table of the
disk has them. -/
structure TailLayout (s : HostSnapshot) (disk : Core.Node) (table : PartitionTable)
    (sector : Nat) (target extended swap : PartitionRecord) : Prop where
  isDisk : isDisk disk.device.kind = true
  inTable : table ∈ s.partitionTables ∧ disk.device.path = some table.device
  label : table.label = some "dos"
  sectorSize : table.sectorSizeBytes = some sector
  common : sector = 512 ∨ sector = 4096
  whole : disk.device.sizeBytes % sector = 0
  target_mem : target ∈ table.partitions
  extended_mem : extended ∈ table.partitions
  swap_mem : swap ∈ table.partitions
  behind : endSector target ≤ extended.startSector
  inside : extended.startSector ≤ swap.startSector ∧ endSector swap ≤ endSector extended
  onDisk : endSector extended ≤ disk.device.sizeBytes / sector
  others : ∀ r ∈ table.partitions, r.node ≠ target.node → r.node ≠ extended.node →
    r.node ≠ swap.node → r.startSector < endSector target

/-- What the opportunity says of its layout. -/
structure Offers (op : LayoutOpportunity) (disk : Core.Node) (table : PartitionTable)
    (sector : Nat) (target extended swap : PartitionRecord) : Prop where
  disk_eq : op.disk = table.device
  target_eq : op.target = target.node
  sector_eq : op.sectorSizeBytes = sector
  swap_eq : op.swapBytes = swap.sizeSectors * sector
  blocking_eq : op.blockingDevices = [extended.node, swap.node]
  grows : 0 < op.maxTargetGrowthBytes
  span : op.maxTargetGrowthBytes + op.swapBytes =
    (disk.device.sizeBytes / sector - endSector target) * sector

/-- Growing the target by so many bytes keeps it on the disk, within what a DOS record can say,
and away from every record but the container and the swap partition. -/
structure GrowsFreely (disk : Core.Node) (table : PartitionTable) (sector : Nat)
    (target extended swap : PartitionRecord) (growth : Nat) : Prop where
  inDisk : endByte sector target + growth ≤ disk.device.sizeBytes
  addressable : endByte sector target + growth ≤ 2 ^ 32 * sector
  clear : ∀ r ∈ table.partitions, r ≠ extended → r ≠ swap → ∀ byte,
    endByte sector target ≤ byte → byte < endByte sector target + growth → ¬Covers sector r byte

/-- What the analysis leaves to the table: a DOS record can say where the grown partition ends,
no record in front of the target's end reaches past it, and no other record of the three
names stands behind it. -/
structure TailClear (table : PartitionTable) (target extended swap : PartitionRecord)
    (grownEnd : Nat) : Prop where
  addressable : grownEnd ≤ 2 ^ 32
  front : ∀ r ∈ table.partitions, r.startSector < endSector target →
    endSector r ≤ endSector target
  named : ∀ r ∈ table.partitions,
    r.node = target.node ∨ r.node = extended.node ∨ r.node = swap.node →
    endSector target ≤ r.startSector → r = extended ∨ r = swap ∨ r.sizeSectors = 0 ∨
      grownEnd ≤ r.startSector

section Laws

variable {s : HostSnapshot} {disk : Core.Node} {table : PartitionTable} {sector : Nat}
  {target extended swap : PartitionRecord}

theorem only_eq_some_iff {α : Type} {items : List α} {a : α} :
    only items = some a ↔ items = [a] := by
  rw [only, toOption_eq_some_iff, unique_eq_ok_iff]

/-- In whole sectors the growth is free exactly when the tail is clear. -/
theorem TailLayout.growsFreely_iff (layout : TailLayout s disk table sector target extended swap)
    {sectors : Nat} (hdisk : endSector target + sectors ≤ disk.device.sizeBytes / sector)
    (hgrows : 0 < sectors) :
    GrowsFreely disk table sector target extended swap (sectors * sector) ↔
      TailClear table target extended swap (endSector target + sectors) := by
  have hpos := sector_pos layout.common
  have hend : endByte sector target + sectors * sector = (endSector target + sectors) * sector := by
    rw [endByte, endSector, ← Nat.add_mul]
  obtain ⟨hbehind, hinside⟩ := And.intro layout.behind layout.inside
  constructor
  · rintro ⟨-, haddressable, hclear⟩
    have hsectors : ∀ r ∈ table.partitions, r ≠ extended → r ≠ swap → ∀ lba,
        endSector target ≤ lba → lba < endSector target + sectors →
        ¬(r.startSector ≤ lba ∧ lba < endSector r) :=
      fun r hr hextended hswap => (uncovered_iff hpos).mp (hclear r hr hextended hswap)
    refine ⟨?_, fun r hr hfront => ?_, fun r hr _ hfrom => ?_⟩
    · rw [hend] at haddressable
      exact Nat.le_of_mul_le_mul_right haddressable hpos
    · by_contra hreaches
      refine hsectors r hr ?_ ?_ (endSector target) le_rfl (by omega) (by omega)
      · rintro rfl
        omega
      · rintro rfl
        omega
    · by_contra hother
      push Not at hother
      obtain ⟨hextended, hswap, hsize, hwithin⟩ := hother
      refine hsectors r hr hextended hswap r.startSector hfrom hwithin ⟨le_rfl, ?_⟩
      rw [endSector]
      omega
  · rintro ⟨haddressable, hfront, hnamed⟩
    refine ⟨?_, ?_, fun r hr hextended hswap => (uncovered_iff hpos).mpr fun lba hfrom hto hcovers => ?_⟩
    · rw [hend]
      exact (Nat.mul_le_mul_right sector hdisk).trans (Nat.div_mul_le_self _ _)
    · rw [hend]
      exact Nat.mul_le_mul_right sector haddressable
    · by_cases hstart : r.startSector < endSector target
      · have hstop := hfront r hr hstart
        simp only [endSector] at hstop
        omega
      · by_cases hname : r.node = target.node ∨ r.node = extended.node ∨ r.node = swap.node
        · have hfree := hnamed r hr hname (by omega)
          simp only [endSector] at hfree
          rcases hfree with h | h | h | h
          · exact hextended h
          · exact hswap h
          · omega
          · omega
        · push Not at hname
          exact hstart (layout.others r hr hname.1 hname.2.1 hname.2.2)

theorem containerBehind_eq_some {targetEnd diskSectors stop : Nat}
    (h : containerBehind table targetEnd diskSectors = some (extended, stop)) :
    extended ∈ table.partitions ∧ targetEnd ≤ extended.startSector ∧
      stop = endSector extended ∧ stop ≤ diskSectors := by
  simp only [containerBehind, Option.bind_eq_bind, Option.bind_eq_some_iff, only_eq_some_iff,
    checkedAdd_eq_some_iff, guard_eq_some_iff, Option.pure_def, Option.some.injEq,
    Prod.mk.injEq] at h
  obtain ⟨found, hfound, _, ⟨-, rfl⟩, _, hdisk, rfl, rfl⟩ := h
  obtain ⟨hmem, hfits⟩ := mem_of_filter_eq_singleton hfound
  rw [Bool.and_eq_true] at hfits
  exact ⟨hmem, of_decide_eq_true hfits.2, rfl, hdisk⟩

theorem swapInside_eq_some {stop : Nat} (h : swapInside table extended stop = some swap) :
    swap ∈ table.partitions ∧ extended.startSector ≤ swap.startSector ∧ endSector swap ≤ stop := by
  simp only [swapInside, Option.bind_eq_bind, Option.bind_eq_some_iff, only_eq_some_iff,
    guard_eq_some_iff, Option.pure_def, Option.some.injEq] at h
  obtain ⟨found, hfound, kind, -, _, -, rfl⟩ := h
  obtain ⟨hmem, hfits⟩ := mem_of_filter_eq_singleton hfound
  rw [Bool.and_eq_true, Bool.and_eq_true, Option.any_eq_true] at hfits
  obtain ⟨⟨-, hstart⟩, _, hsum, hstop⟩ := hfits
  rw [checkedAdd_eq_some_iff] at hsum
  obtain ⟨-, rfl⟩ := hsum
  exact ⟨hmem, of_decide_eq_true hstart, of_decide_eq_true hstop⟩

/-- Where an opportunity comes from. -/
theorem tailLayout_of_opportunity {name : String} {op : LayoutOpportunity}
    (h : analyzeLayoutOpportunity s name = some op) :
    ∃ disk table sector target extended swap, TailLayout s disk table sector target extended swap ∧
      Offers op disk table sector target extended swap ∧
      ∃ parentName, swapConfirmed s swap parentName op.swapBytes = some () := by
  rw [analyzeLayoutOpportunity] at h
  -- one binding of the analysis at a time
  obtain ⟨source, -, h⟩ := Option.bind_eq_some_iff.mp h
  obtain ⟨device, -, h⟩ := Option.bind_eq_some_iff.mp h
  obtain ⟨parentName, -, h⟩ := Option.bind_eq_some_iff.mp h
  obtain ⟨disk, hdisk, h⟩ := Option.bind_eq_some_iff.mp h
  obtain ⟨diskPath, hdiskPath, h⟩ := Option.bind_eq_some_iff.mp h
  obtain ⟨targetPath, -, h⟩ := Option.bind_eq_some_iff.mp h
  obtain ⟨table, htable, h⟩ := Option.bind_eq_some_iff.mp h
  obtain ⟨sector, hsector, h⟩ := Option.bind_eq_some_iff.mp h
  obtain ⟨_, hsectors, h⟩ := Option.bind_eq_some_iff.mp h
  obtain ⟨target, htarget, h⟩ := Option.bind_eq_some_iff.mp h
  obtain ⟨_, hsum, h⟩ := Option.bind_eq_some_iff.mp h
  obtain ⟨-, rfl⟩ := checkedAdd_eq_some_iff.mp hsum
  obtain ⟨⟨extended, stop⟩, hcontainer, h⟩ := Option.bind_eq_some_iff.mp h
  obtain ⟨swap, hswap, h⟩ := Option.bind_eq_some_iff.mp h
  obtain ⟨_, hswapBytes, h⟩ := Option.bind_eq_some_iff.mp h
  obtain ⟨-, rfl⟩ := checkedMul_eq_some_iff.mp hswapBytes
  obtain ⟨_, hconfirmed, h⟩ := Option.bind_eq_some_iff.mp h
  obtain ⟨_, hothers, h⟩ := Option.bind_eq_some_iff.mp h
  obtain ⟨tail, -, h⟩ := Option.bind_eq_some_iff.mp h
  obtain ⟨tailBytes, -, h⟩ := Option.bind_eq_some_iff.mp h
  obtain ⟨_, -, h⟩ := Option.bind_eq_some_iff.mp h
  obtain ⟨_, hreclaimed, h⟩ := Option.bind_eq_some_iff.mp h
  obtain ⟨hbehind, rfl⟩ := checkedSub_eq_some_iff.mp hreclaimed
  obtain ⟨_, hspanBytes, h⟩ := Option.bind_eq_some_iff.mp h
  obtain ⟨-, rfl⟩ := checkedMul_eq_some_iff.mp hspanBytes
  obtain ⟨_, hmax, h⟩ := Option.bind_eq_some_iff.mp h
  obtain ⟨hspan, rfl⟩ := checkedSub_eq_some_iff.mp hmax
  obtain ⟨_, hgrows, h⟩ := Option.bind_eq_some_iff.mp h
  cases h
  rw [guard_eq_some_iff] at hsectors hothers hgrows
  rw [toOption_eq_some_iff, parentDisk, unique_eq_ok_iff] at hdisk
  rw [only_eq_some_iff] at htable
  obtain ⟨hextended, hafter, rfl, honDisk⟩ := containerBehind_eq_some hcontainer
  obtain ⟨hswapMem, hinside⟩ := swapInside_eq_some hswap
  obtain ⟨htableMem, hdevice⟩ := mem_of_filter_eq_singleton htable
  have hlabel : table.device = diskPath ∧ table.label = some "dos" := by
    simpa using hdevice
  obtain ⟨rfl, hlabel⟩ := hlabel
  have hdiskKind := (mem_of_filter_eq_singleton hdisk).2
  rw [Bool.and_eq_true] at hdiskKind
  refine ⟨disk, table, sector, target, extended, swap,
    ⟨hdiskKind.1, ⟨htableMem, hdiskPath⟩, hlabel, hsector, hsectors.1, hsectors.2,
      List.mem_of_find?_eq_some htarget, hextended, hswapMem, hafter, hinside, honDisk, ?_⟩,
    ⟨rfl, ?_, rfl, rfl, rfl, by simp only; omega, by simp only [endSector]; omega⟩,
    parentName, hconfirmed⟩
  · intro r hr htargetNode hextendedNode hswapNode
    simp only [List.any_eq_true, Bool.and_eq_true, decide_eq_true_eq, not_exists, not_and,
      Nat.not_le] at hothers
    exact hothers r hr ⟨⟨htargetNode, hextendedNode⟩, hswapNode⟩
  · have hnode : target.node = targetPath := by simpa using List.find?_some htarget
    exact hnode.symm

/-- A partition alternative of the by-bytes request, with the opportunity it takes. -/
theorem opportunity_of_alternative {request : ExtendRequest} {alternative : LayoutAlternative}
    (h : detectTailSwapMigration s request = some alternative) :
    ∃ bytes op, request.growth = .byBytes bytes ∧ 0 < bytes ∧
      analyzeLayoutOpportunity s request.target = some op ∧
      divCeil bytes op.sectorSizeBytes * op.sectorSizeBytes ≤ op.maxTargetGrowthBytes ∧
      alternative.disk = op.disk ∧ alternative.target = op.target ∧
      alternative.requiredPartitionGrowthBytes =
        divCeil bytes op.sectorSizeBytes * op.sectorSizeBytes + op.swapBytes := by
  unfold detectTailSwapMigration at h
  cases hgrowth : request.growth with
  | maxFree =>
    rw [hgrowth] at h
    cases h
  | byBytes bytes =>
    simp only [hgrowth, Option.bind_eq_bind, Option.bind_some] at h
    obtain ⟨_, hpositive, h⟩ := Option.bind_eq_some_iff.mp h
    obtain ⟨op, hop, h⟩ := Option.bind_eq_some_iff.mp h
    obtain ⟨_, hrounded, h⟩ := Option.bind_eq_some_iff.mp h
    obtain ⟨-, rfl⟩ := checkedMul_eq_some_iff.mp hrounded
    obtain ⟨_, hfits, h⟩ := Option.bind_eq_some_iff.mp h
    obtain ⟨_, hrequired, h⟩ := Option.bind_eq_some_iff.mp h
    obtain ⟨-, rfl⟩ := checkedAdd_eq_some_iff.mp hrequired
    obtain ⟨_, -, h⟩ := Option.bind_eq_some_iff.mp h
    obtain ⟨_, -, h⟩ := Option.bind_eq_some_iff.mp h
    obtain ⟨_, -, h⟩ := Option.bind_eq_some_iff.mp h
    cases h
    rw [guard_eq_some_iff] at hpositive hfits
    exact ⟨bytes, op, rfl, by omega, hop, hfits, rfl, rfl, rfl⟩

/-- A part of the span, in whole sectors. -/
theorem TailLayout.part_iff (layout : TailLayout s disk table sector target extended swap)
    {op : LayoutOpportunity} (offers : Offers op disk table sector target extended swap)
    {sectors : Nat} (hgrows : 0 < sectors)
    (hfits : sectors * sector ≤ op.maxTargetGrowthBytes + op.swapBytes) :
    endByte sector target + sectors * sector ≤ disk.device.sizeBytes ∧
      (GrowsFreely disk table sector target extended swap (sectors * sector) ↔
        TailClear table target extended swap (endSector target + sectors)) := by
  have hpos := sector_pos layout.common
  have hbehind := layout.behind
  have honDisk := layout.onDisk
  have hstart : extended.startSector ≤ endSector extended := Nat.le_add_right _ _
  rw [offers.span] at hfits
  have hsectors := Nat.le_of_mul_le_mul_right hfits hpos
  have hdisk : endSector target + sectors ≤ disk.device.sizeBytes / sector := by omega
  refine ⟨?_, layout.growsFreely_iff hdisk hgrows⟩
  calc endByte sector target + sectors * sector = (endSector target + sectors) * sector := by
        rw [endByte, endSector, ← Nat.add_mul]
    _ ≤ disk.device.sizeBytes / sector * sector := Nat.mul_le_mul_right sector hdisk
    _ ≤ disk.device.sizeBytes := Nat.div_mul_le_self _ _

/-- The whole span of an opportunity, and the growth an alternative needs, end on the disk. They
take nothing but the container and its swap partition exactly when the tail is clear. -/
theorem layout_growsFreely_iff :
    (∀ name op, analyzeLayoutOpportunity s name = some op →
      ∃ disk table sector target extended swap,
        TailLayout s disk table sector target extended swap ∧
        Offers op disk table sector target extended swap ∧
        endByte sector target + (op.maxTargetGrowthBytes + op.swapBytes) ≤ disk.device.sizeBytes ∧
        (GrowsFreely disk table sector target extended swap
            (op.maxTargetGrowthBytes + op.swapBytes) ↔
          TailClear table target extended swap (disk.device.sizeBytes / sector))) ∧
    ∀ request alternative, detectTailSwapMigration s request = some alternative →
      ∃ bytes disk table sector target extended swap, request.growth = .byBytes bytes ∧
        TailLayout s disk table sector target extended swap ∧
        alternative.disk = table.device ∧ alternative.target = target.node ∧
        endByte sector target + alternative.requiredPartitionGrowthBytes ≤ disk.device.sizeBytes ∧
        (GrowsFreely disk table sector target extended swap
            alternative.requiredPartitionGrowthBytes ↔
          TailClear table target extended swap
            (endSector target + (divCeil bytes sector + swap.sizeSectors))) := by
  constructor
  · intro name op h
    obtain ⟨disk, table, sector, target, extended, swap, layout, offers, -⟩ :=
      tailLayout_of_opportunity h
    have hbehind := layout.behind
    have honDisk := layout.onDisk
    have hstart : extended.startSector ≤ endSector extended := Nat.le_add_right _ _
    have hspan := offers.span
    have hgrows : 0 < disk.device.sizeBytes / sector - endSector target := by
      by_contra hnone
      rw [Nat.eq_zero_of_not_pos hnone] at hspan
      have := offers.grows
      omega
    have hpart := layout.part_iff offers hgrows (le_of_eq hspan.symm)
    rw [← hspan, Nat.add_sub_cancel' (by omega)] at hpart
    exact ⟨disk, table, sector, target, extended, swap, layout, offers, hpart⟩
  · intro request alternative h
    obtain ⟨bytes, op, hgrowth, hbytes, hop, hfits, hdisk, htarget, hrequired⟩ :=
      opportunity_of_alternative h
    obtain ⟨disk, table, sector, target, extended, swap, layout, offers, -⟩ :=
      tailLayout_of_opportunity hop
    have hpos := sector_pos layout.common
    rw [offers.sector_eq] at hfits hrequired
    have hrounded : alternative.requiredPartitionGrowthBytes =
        (divCeil bytes sector + swap.sizeSectors) * sector := by
      rw [hrequired, offers.swap_eq, Nat.add_mul]
    have hgrows : 0 < divCeil bytes sector + swap.sizeSectors :=
      Nat.add_pos_left (divCeil_pos hpos hbytes) _
    have hpart := layout.part_iff offers hgrows (by
      rw [← hrounded, hrequired]
      omega)
    rw [← hrounded] at hpart
    exact ⟨bytes, disk, table, sector, target, extended, swap, hgrowth, layout,
      hdisk.trans offers.disk_eq, htarget.trans offers.target_eq, hpart⟩

end Laws

section Samples

def tailTarget : PartitionRecord := dosRecord "/dev/sda1" 64 64

def tailContainer : PartitionRecord :=
  ⟨"/dev/sda2", 1024, 1024, some "5", none, none, none, none⟩

def tailSwap : PartitionRecord :=
  ⟨"/dev/sda5", 1032, 1000, some "82", none, none, none, none⟩

/-- A partition with an extended container behind it that holds only active swap, on a disk of
so many sectors, with more records in its table. -/
def tailSnapshot (diskSectors : Nat) (more : List PartitionRecord) : HostSnapshot where
  storage :=
    { blockDevices :=
        [{ name := "sda", kernelName := some "sda", path := some "/dev/sda", kind := .disk,
           sizeBytes := diskSectors * 512, start512Sector := none, logicalSectorBytes := some 512,
           filesystem := none, mountpoints := [], parentKernelName := none, model := none,
           serial := none, uuid := none, partitionUuid := none, partitionTable := some "dos",
           children := [dosPartition "/dev/sda1" 64 64, dosPartition "/dev/sda2" 1024 2,
             { dosPartition "/dev/sda5" 1032 1000 with filesystem := some ⟨"swap", none⟩ }] }] }
  partitionTables :=
    [{ device := "/dev/sda", label := some "dos", id := none, unit := some "sectors",
       firstLba := none, lastLba := none, sectorSizeBytes := some 512,
       partitions := [tailTarget, tailContainer, tailSwap] ++ more }]
  mounts := []
  fstab := []
  swaps := [⟨"/dev/sda5", "partition", 999 * 512, 0, -2⟩]
  collectors := []

def tailOpportunity : LayoutOpportunity where
  code := "migrate-tail-swap"
  disk := "/dev/sda"
  target := "/dev/sda1"
  sectorSizeBytes := 512
  maxTargetGrowthBytes := 2968 * 512
  diskTailFreeBytes := 2048 * 512
  swapBytes := 1000 * 512
  blockingDevices := ["/dev/sda2", "/dev/sda5"]

/-- On a disk of 4096 sectors the span behind the partition is offered. -/
theorem layout_growsFreely_tail :
    ∃ disk table sector target extended swap,
      TailLayout (tailSnapshot 4096 []) disk table sector target extended swap ∧
      (GrowsFreely disk table sector target extended swap (2968 * 512 + 1000 * 512) ↔
        TailClear table target extended swap (disk.device.sizeBytes / sector)) := by
  obtain ⟨disk, table, sector, target, extended, swap, layout, -, -, hiff⟩ :=
    (layout_growsFreely_iff (s := tailSnapshot 4096 [])).1 "/dev/sda1" tailOpportunity
      (by decide +kernel)
  exact ⟨disk, table, sector, target, extended, swap, layout, hiff⟩

/-- Behind 2^32 sectors the alternative still asks for its growth, and a record that reaches
over the target's end stays unseen. -/
theorem layout_growth_unchecked :
    (∃ alternative, detectTailSwapMigration (tailSnapshot (2 ^ 32 + 4096) [])
        ⟨"/dev/sda1", .byBytes (2 ^ 32 * 512)⟩ = some alternative ∧
      alternative.target = "/dev/sda1" ∧
      2 ^ 32 * 512 < endByte 512 tailTarget + alternative.requiredPartitionGrowthBytes) ∧
    analyzeLayoutOpportunity (tailSnapshot 4096 [dosRecord "/dev/sda3" 32 100]) "/dev/sda1" =
      some tailOpportunity ∧
    Covers 512 (dosRecord "/dev/sda3" 32 100) (endByte 512 tailTarget) := by
  refine ⟨?_, by decide +kernel, by decide, by decide⟩
  have hfound : (detectTailSwapMigration (tailSnapshot (2 ^ 32 + 4096) [])
      ⟨"/dev/sda1", .byBytes (2 ^ 32 * 512)⟩).map
        (fun a => (a.target, a.requiredPartitionGrowthBytes)) =
      some ("/dev/sda1", (2 ^ 32 + 1000) * 512) := by decide +kernel
  obtain ⟨alternative, hdetected, hpair⟩ := Option.map_eq_some_iff.mp hfound
  obtain ⟨htarget, hrequired⟩ := Prod.mk.inj hpair
  refine ⟨alternative, hdetected, htarget, ?_⟩
  rw [hrequired]
  decide

end Samples

end StorageManager.Planner.Extend
