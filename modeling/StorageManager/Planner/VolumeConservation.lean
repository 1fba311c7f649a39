import StorageManager.Planner.PlanTools

/-!
# The space a volume's growth takes

Growing a volume moves extents between the layers: the group gives free extents, or its
physical volume gains some from the device below first. What each layer gives and gets is
settled here in bytes, sectors and extents.
-/

namespace StorageManager.Planner.Extend

open Core (BlockDevice HostCapabilities HostSnapshot LvmLogicalVolume LvmPhysicalVolume
  LvmVolumeGroup)
open Lib.Checks
open Lib.Word64

set_option autoImplicit false

variable {s : HostSnapshot} {capabilities : HostCapabilities} {request : ExtendRequest}

section FreeExtents

/-- The bytes a request asks of the free space of a group. -/
def askedOfGroup (growth : Growth) (vg : LvmVolumeGroup) : Nat :=
  match growth with
  | .byBytes bytes => bytes
  | .maxFree => vg.freeBytes

/-- What a volume that grows into the free extents of its group takes, and what it stands on. -/
structure DirectGrowth (growth : Growth) (lv : LvmLogicalVolume) (vg : LvmVolumeGroup)
    (pv : LvmPhysicalVolume) (pvDevice : BlockDevice) (extent extents : Nat)
    (size : SizeChange) : Prop where
  extentSize : vg.extentSizeBytes = some extent
  asked : size.requestedGrowthBytes = askedOfGroup growth vg
  rounded : size.roundedGrowthBytes = extents * extent
  up : askedOfGroup growth vg ≤ extents * extent ∧
    extents * extent < askedOfGroup growth vg + extent
  whole : growth = .maxFree → extents * extent = vg.freeBytes
  free : extents * extent ≤ vg.freeBytes
  expected : size.expectedLvSizeBytes = lv.sizeBytes + extents * extent
  remaining : size.remainingVgFreeBytes + extents * extent = vg.freeBytes
  backed : vg.sizeBytes ≤ pv.sizeBytes ∧ pv.sizeBytes ≤ pvDevice.sizeBytes
  words : 0 < extent ∧ extents < limit ∧ extents * extent < limit ∧
    size.expectedLvSizeBytes < limit

theorem FreeExtentsPlan.directGrowth {size : SizeChange} {steps : List PlanStep}
    (plan : FreeExtentsPlan s capabilities request size steps) :
    DirectGrowth request.growth plan.lv plan.vg plan.pv plan.pvDevice.device size.extentSizeBytes
      plan.extents size := by
  have grown := plan.growth
  obtain ⟨freeExtents, -, hbounded, hfree, henough⟩ := grown.freeExtents
  have hextent : 0 < size.extentSizeBytes := by
    have := grown.extent.1
    omega
  have hasked : size.requestedGrowthBytes = askedOfGroup request.growth plan.vg := grown.requested
  have hfits : plan.extents * size.extentSizeBytes ≤ plan.vg.freeBytes := by
    rw [← hfree]
    exact Nat.mul_le_mul_right _ henough
  have hrounded := congrArg SizeChange.roundedGrowthBytes grown.size_eq
  have hexpected := congrArg SizeChange.expectedLvSizeBytes grown.size_eq
  have hremaining := congrArg SizeChange.remainingVgFreeBytes grown.size_eq
  simp only at hrounded hexpected hremaining
  refine ⟨grown.extentSize, hasked, hrounded, ⟨?_, ?_⟩, fun hmax => ?_, hfits, hexpected,
    by omega, ⟨plan.group.sizes.2.2.2.1, plan.group.sizes.2.2.1⟩, hextent, ?_, by omega, ?_⟩
  · rw [← hasked, grown.extents_eq]
    exact le_divCeil_mul _ hextent
  · rw [← hasked, grown.extents_eq]
    exact divCeil_mul_lt _ hextent
  · rw [grown.extents_eq, hasked, hmax]
    show divCeil plan.vg.freeBytes _ * _ = plan.vg.freeBytes
    rw [← hfree, divCeil_mul_of_pos _ hextent]
  · have := Nat.le_mul_of_pos_right plan.extents hextent
    omega
  · rw [hexpected]
    exact grown.fits

/-- A direct growth takes what it says from the free space of the group. The grown volume fits
into the group exactly when the group has as many extents as the volume then holds. -/
theorem direct_growth_fits_iff {size : SizeChange} {steps : List PlanStep}
    (h : buildCandidate s capabilities request = .ok (size, steps)) :
    ∃ (plan : FreeExtentsPlan s capabilities request size steps) (extent : Nat),
      DirectGrowth request.growth plan.lv plan.vg plan.pv plan.pvDevice.device extent plan.extents
        size ∧
      (size.expectedLvSizeBytes ≤ plan.vg.sizeBytes ↔
        plan.lv.sizeBytes / extent + divCeil (askedOfGroup request.growth plan.vg) extent ≤
          plan.vg.sizeBytes / extent) := by
  obtain ⟨plan⟩ := buildCandidate_ok h
  have direct := plan.directGrowth
  refine ⟨plan, size.extentSizeBytes, direct, ?_⟩
  obtain ⟨hvg, hlv⟩ := plan.growth.whole
  have hpos := direct.words.1
  have hvgEq := Nat.div_mul_cancel (Nat.dvd_of_mod_eq_zero hvg)
  have hlvEq := Nat.div_mul_cancel (Nat.dvd_of_mod_eq_zero hlv)
  have hasked := direct.asked
  rw [direct.expected, ← hasked, ← plan.growth.extents_eq]
  constructor
  · intro hfits
    refine Nat.le_of_mul_le_mul_right ?_ hpos
    rw [Nat.add_mul, hvgEq, hlvEq]
    exact hfits
  · intro hfits
    have hbytes := Nat.mul_le_mul_right size.extentSizeBytes hfits
    rwa [Nat.add_mul, hvgEq, hlvEq] at hbytes

/-- A volume of 9 MiB in a group of so many MiB with one free, on a partition of 10 MiB. -/
def groupSnapshot (groupMebibytes : Nat) : HostSnapshot :=
  { volumeSnapshot with
    lvm := some
      { physicalVolumes := [⟨"/dev/sda1", some "pv1", some "vg", groupMebibytes * 1048576, 1048576,
          some 1048576⟩]
        volumeGroups := [⟨"vg", some "vg1", groupMebibytes * 1048576, 1048576, 1, 1, some 1048576,
          some 1, some 0, some "wz--n-"⟩]
        logicalVolumes := [⟨"data", some "/dev/vg/data", some "lv1", "vg", 9437184,
          some "-wi-ao----", some "linear", some "public"⟩] } }

def groupChange : SizeChange where
  device := "/dev/mapper/vg-data"
  currentLvSizeBytes := 9437184
  requestedGrowthBytes := 1048576
  roundedGrowthBytes := 1048576
  expectedLvSizeBytes := 10485760
  extentSizeBytes := 1048576
  remainingVgFreeBytes := 0

def groupSteps : List PlanStep :=
  [step 1 .revalidateSnapshot .notApplicable,
    step 2 (.backupLvmMetadata "vg1") .reversible,
    step 3 (.extendLogicalVolume "lv1" 1 10485760) .irreversible,
    step 4 (.growFilesystem "ext4" (some "/data")) .irreversible,
    step 5 .rediscoverAndVerify .notApplicable]

theorem direct_growth_fits_ten :
    ∃ (plan : FreeExtentsPlan (groupSnapshot 10) volumeCapabilities ⟨"/data", .maxFree⟩
        groupChange groupSteps) (extent : Nat),
      DirectGrowth .maxFree plan.lv plan.vg plan.pv plan.pvDevice.device extent plan.extents
        groupChange ∧
      (groupChange.expectedLvSizeBytes ≤ plan.vg.sizeBytes ↔
        plan.lv.sizeBytes / extent + divCeil (askedOfGroup .maxFree plan.vg) extent ≤
          plan.vg.sizeBytes / extent) :=
  direct_growth_fits_iff (by decide +kernel)

/-- A group of 9 MiB that reports one free and a volume of all its nine: the preview grows the
volume to 10 MiB. -/
theorem direct_growth_over_group :
    buildCandidate (groupSnapshot 9) volumeCapabilities ⟨"/data", .maxFree⟩ =
        .ok (groupChange, groupSteps) ∧
      ∃ lvm ∈ (groupSnapshot 9).lvm, ∃ vg ∈ lvm.volumeGroups,
        vg.sizeBytes < groupChange.expectedLvSizeBytes := by
  refine ⟨by decide +kernel, _, rfl, _, List.mem_singleton_self _, by decide⟩

end FreeExtents

section Underlying

/-- The extents a route asks of the physical volume, beyond the free ones of the group. -/
def gainedExtents (route : GrowthRouteAlternative) (stack : VolumeStack) : Nat :=
  divCeil route.requestedGrowthBytes stack.extent - stack.freeExtents

/-- The bytes the partition must gain, before they are rounded up to sectors. -/
def missingBytes (route : GrowthRouteAlternative) (stack : VolumeStack) : Nat :=
  gainedExtents route stack * stack.extent - route.pvDeviceSlackBytes

/-- What a route takes from each layer. The physical volume begins so many bytes into its
device. -/
structure RouteSpace (s : HostSnapshot) (route : GrowthRouteAlternative) (stack : VolumeStack)
    (backing : Backing) (peStartBytes : Nat) : Prop where
  peStart : stack.pv.peStartBytes = some peStartBytes
  sectors : route.requiredPartitionGrowthBytes = 0 ∨ ∃ n, 0 < n ∧
    route.requiredPartitionGrowthBytes = n * route.sectorSizeBytes
  room : route.requiredPartitionGrowthBytes ≤ route.adjacentPartitionFreeBytes
  measured : 0 < route.requiredPartitionGrowthBytes →
    ∃ disk pvPath table record adjacentSectors,
      BackedAt s stack.pvDevice.device backing disk pvPath table record adjacentSectors ∧
      route.adjacentPartitionFreeBytes = adjacentSectors * route.sectorSizeBytes
  physical : stack.pv.sizeBytes + gainedExtents route stack * stack.extent + peStartBytes ≤
    stack.pvDevice.device.sizeBytes + route.requiredPartitionGrowthBytes
  extents : divCeil route.requestedGrowthBytes stack.extent ≤
    stack.freeExtents + gainedExtents route stack
  up : route.requestedGrowthBytes ≤
      divCeil route.requestedGrowthBytes stack.extent * stack.extent ∧
    divCeil route.requestedGrowthBytes stack.extent * stack.extent <
      route.requestedGrowthBytes + stack.extent
  divides : 0 < stack.extent ∧ (missingBytes route stack ≠ 0 → 0 < route.sectorSizeBytes)
  words : divCeil route.requestedGrowthBytes stack.extent < limit ∧
    divCeil (missingBytes route stack) route.sectorSizeBytes < limit ∧
    gainedExtents route stack * stack.extent < limit

theorem sectorAligned_eq_some_iff {bytes sector aligned : Nat} :
    sectorAligned bytes sector = some aligned ↔ bytes = 0 ∧ aligned = 0 ∨
      bytes ≠ 0 ∧ divCeil bytes sector * sector < limit ∧
        divCeil bytes sector * sector = aligned := by
  unfold sectorAligned
  by_cases h : bytes = 0
  · simp [h, eq_comm]
  · simp [h]

/-- A physical volume on no partition has nothing behind it. -/
theorem underlyingBacking_whole {device : BlockDevice} {backing : Backing}
    (h : underlyingBacking s device = some backing) (hkind : device.kind ≠ .partition) :
    backing.adjacentPartitionFreeBytes = 0 ∧ backing.partitionPath = none := by
  unfold underlyingBacking at h
  rw [if_neg hkind] at h
  cases h
  exact ⟨rfl, rfl⟩

variable {route : GrowthRouteAlternative} {stack : VolumeStack} {backing : Backing}

theorem RouteFacts.extent_pos (facts : RouteFacts s request route stack backing) :
    0 < stack.extent := by
  have := facts.facts.extents.1
  omega

/-- Extents that fit below a volume miss no more bytes than are free behind the partition. -/
theorem gained_sub_slack_le {gained extent slack free : Nat}
    (h : gained ≤ (slack + free) / extent) : gained * extent - slack ≤ free := by
  have hbytes := (Nat.mul_le_mul_right extent h).trans (Nat.div_mul_le_self _ _)
  omega

/-- Bytes are free only behind a partition, and its sectors are known. -/
theorem backedAt_of_free {device : BlockDevice} {missing : Nat}
    (backed : underlyingBacking s device = some backing)
    (hle : missing ≤ backing.adjacentPartitionFreeBytes) (hmissing : missing ≠ 0) :
    ∃ disk pvPath table record adjacentSectors,
      BackedAt s device backing disk pvPath table record adjacentSectors := by
  by_cases hkind : device.kind = .partition
  · exact underlyingBacking_some backed hkind
  · have hnone := (underlyingBacking_whole backed hkind).1
    omega

/-- The partition is asked for no more than is free behind it. -/
theorem RouteFacts.missing_le (facts : RouteFacts s request route stack backing) :
    missingBytes route stack ≤ backing.adjacentPartitionFreeBytes :=
  gained_sub_slack_le (Nat.sub_le_iff_le_add'.mpr facts.enough)

/-- The most a route could take is a word, in extents and in bytes. -/
theorem analyzed_bounded (h : analyzeLvmUnderlyingGrowth s request = some route)
    (facts : RouteFacts s request route stack backing) :
    (stack.freeExtents + (route.pvDeviceSlackBytes + backing.adjacentPartitionFreeBytes) /
      stack.extent) * stack.extent < limit := by
  unfold analyzeLvmUnderlyingGrowth at h
  obtain ⟨_, -, h⟩ := Option.bind_eq_some_iff.mp h
  obtain ⟨_, -, h⟩ := Option.bind_eq_some_iff.mp h
  obtain ⟨_, -, h⟩ := Option.bind_eq_some_iff.mp h
  obtain ⟨stack', hstack, h⟩ := Option.bind_eq_some_iff.mp h
  obtain ⟨slack, hslack, h⟩ := Option.bind_eq_some_iff.mp h
  obtain ⟨backing', hbacking, h⟩ := Option.bind_eq_some_iff.mp h
  obtain ⟨underlying, hunderlying, h⟩ := Option.bind_eq_some_iff.mp h
  obtain ⟨_, -, h⟩ := Option.bind_eq_some_iff.mp h
  obtain ⟨maxExtents, hmaxExtents, h⟩ := Option.bind_eq_some_iff.mp h
  obtain ⟨maxGrowth, hmaxGrowth, -⟩ := Option.bind_eq_some_iff.mp h
  obtain rfl : stack' = stack := Option.some.inj (hstack.symm.trans facts.found)
  obtain rfl : backing' = backing := Option.some.inj (hbacking.symm.trans facts.backed)
  rw [checkedSub_eq_some_iff] at hslack
  rw [checkedAdd_eq_some_iff] at hunderlying hmaxExtents
  rw [checkedMul_eq_some_iff] at hmaxGrowth
  rw [facts.slack, hslack.2, hunderlying.2, hmaxExtents.2]
  exact hmaxGrowth.1

theorem RouteFacts.space (h : analyzeLvmUnderlyingGrowth s request = some route)
    (facts : RouteFacts s request route stack backing) :
    ∃ peStartBytes, RouteSpace s route stack backing peStartBytes := by
  obtain ⟨peStartBytes, hpeStart, husable⟩ := facts.facts.usable
  obtain ⟨hpe, husable⟩ := checkedSub_eq_some_iff.mp husable
  have hextent := facts.extent_pos
  have hmissing := facts.missing_le
  have hfits : stack.pv.sizeBytes ≤ stack.usableBackingBytes := facts.facts.backing.2.2.2.2.1
  have hslack := facts.slack
  have hrequired : missingBytes route stack = 0 ∧ route.requiredPartitionGrowthBytes = 0 ∨
      missingBytes route stack ≠ 0 ∧
        divCeil (missingBytes route stack) route.sectorSizeBytes * route.sectorSizeBytes < limit ∧
        divCeil (missingBytes route stack) route.sectorSizeBytes * route.sectorSizeBytes =
          route.requiredPartitionGrowthBytes := by
    rw [facts.sector]
    exact sectorAligned_eq_some_iff.mp facts.required
  have hsector : missingBytes route stack ≠ 0 → 512 ≤ route.sectorSizeBytes := by
    intro hne
    obtain ⟨_, _, _, _, _, hbacked⟩ := backedAt_of_free facts.backed facts.missing_le hne
    rw [facts.sector]
    exact hbacked.sectorFits.1
  have hgrown : missingBytes route stack ≤ route.requiredPartitionGrowthBytes := by
    rcases hrequired with ⟨hnone, -⟩ | ⟨hne, -, hrounded⟩
    · omega
    · have := hsector hne
      rw [← hrounded]
      exact le_divCeil_mul _ (by omega)
  refine ⟨peStartBytes, hpeStart, ?_, ?_, ?_, ?_, ?_, ⟨le_divCeil_mul _ hextent,
    divCeil_mul_lt _ hextent⟩, ⟨hextent, ?_⟩, ?_⟩
  · rcases hrequired with ⟨-, hzero⟩ | ⟨hne, -, hrounded⟩
    · exact .inl hzero
    · have := hsector hne
      exact .inr ⟨_, divCeil_pos (by omega) (by omega), hrounded.symm⟩
  · rw [facts.adjacent]
    exact facts.room
  · intro hpositive
    have hne : missingBytes route stack ≠ 0 := by
      rcases hrequired with ⟨-, hzero⟩ | ⟨hne, -⟩
      · omega
      · exact hne
    obtain ⟨disk, pvPath, table, record, adjacentSectors, hbacked⟩ :=
      backedAt_of_free facts.backed facts.missing_le hne
    exact ⟨disk, pvPath, table, record, adjacentSectors, hbacked, by
      rw [facts.adjacent, facts.sector, hbacked.bytes.2]⟩
  · rw [missingBytes] at hgrown
    omega
  · rw [gainedExtents]
    omega
  · intro hne
    have := hsector hne
    omega
  · have hbounded := analyzed_bounded h facts
    have henough := Nat.mul_le_mul_right stack.extent facts.enough
    have hwhole : divCeil route.requestedGrowthBytes stack.extent ≤
        divCeil route.requestedGrowthBytes stack.extent * stack.extent :=
      Nat.le_mul_of_pos_right _ hextent
    have hgained : gainedExtents route stack * stack.extent ≤
        divCeil route.requestedGrowthBytes stack.extent * stack.extent :=
      Nat.mul_le_mul_right _ (Nat.sub_le _ _)
    refine ⟨by omega, ?_, by omega⟩
    rcases hrequired with ⟨hnone, -⟩ | ⟨hne, hword, -⟩
    · rw [hnone]
      simp [divCeil, limit]
    · have hpos := hsector hne
      have := Nat.le_mul_of_pos_right
        (divCeil (missingBytes route stack) route.sectorSizeBytes) (Nat.lt_of_lt_of_le (by decide) hpos)
      omega

/-- What a plan from below announces of the layers, in the same bytes. -/
structure PlanSpace (route : GrowthRouteAlternative) (stack : VolumeStack) (peStartBytes : Nat)
    (size : SizeChange) (partitionSize : Option PartitionSizeChange) (expectedPvSizeBytes : Nat) :
    Prop where
  physical : expectedPvSizeBytes =
    stack.pv.sizeBytes + gainedExtents route stack * stack.extent
  onPartition : ∀ p, partitionSize = some p → 0 < route.requiredPartitionGrowthBytes ∧
    p.expectedPartitionSizeBytes =
      stack.pvDevice.device.sizeBytes + route.requiredPartitionGrowthBytes ∧
    p.roundedGrowthBytes = route.requiredPartitionGrowthBytes ∧
    expectedPvSizeBytes + peStartBytes ≤ p.expectedPartitionSizeBytes
  onDevice : partitionSize = none → route.requiredPartitionGrowthBytes = 0 ∧
    expectedPvSizeBytes + peStartBytes ≤ stack.pvDevice.device.sizeBytes
  logical : size.expectedLvSizeBytes = stack.lv.sizeBytes + size.roundedGrowthBytes
  rounded : size.roundedGrowthBytes =
    divCeil route.requestedGrowthBytes stack.extent * stack.extent
  requested : size.requestedGrowthBytes = route.requestedGrowthBytes
  remaining : size.remainingVgFreeBytes + size.roundedGrowthBytes =
    stack.vg.freeBytes + gainedExtents route stack * stack.extent
  words : expectedPvSizeBytes < limit ∧ size.roundedGrowthBytes < limit ∧
    size.expectedLvSizeBytes < limit

variable {size : SizeChange} {partitionSize : Option PartitionSizeChange} {steps : List PlanStep}

/-- The partition of the plan is the one that was measured, so it grows from its device's size. -/
theorem RouteFacts.partition_grown (facts : RouteFacts s request route stack backing)
    {peStartBytes : Nat} (space : RouteSpace s route stack backing peStartBytes)
    {p : PartitionSizeChange} {operations : List (Operation × Reversibility)}
    (h : underlyingPartition s route = some (some p, operations)) :
    0 < route.requiredPartitionGrowthBytes ∧
      p.expectedPartitionSizeBytes =
        stack.pvDevice.device.sizeBytes + route.requiredPartitionGrowthBytes ∧
      p.roundedGrowthBytes = route.requiredPartitionGrowthBytes := by
  obtain ⟨table, record, label, partition, newSizeSectors, grown⟩ := underlyingPartition_some h
  obtain ⟨disk, pvPath, table', record', adjacentSectors, backed, -⟩ := space.measured grown.needed
  obtain ⟨rfl, rfl, rfl⟩ := backed.same facts grown
  have hexpected := congrArg PartitionSizeChange.expectedPartitionSizeBytes grown.size_eq
  have hrounded := congrArg PartitionSizeChange.roundedGrowthBytes grown.size_eq
  refine ⟨grown.needed, ?_, hrounded⟩
  calc p.expectedPartitionSizeBytes = newSizeSectors * route.sectorSizeBytes := hexpected
    _ = record.sizeSectors * route.sectorSizeBytes + route.requiredPartitionGrowthBytes := by
      rw [grown.grown, Nat.add_mul, Nat.div_mul_cancel (Nat.dvd_of_mod_eq_zero grown.aligned)]
    _ = stack.pvDevice.device.sizeBytes + route.requiredPartitionGrowthBytes := by
      rw [facts.sector, backed.size]

theorem UnderlyingPlan.space (plan : UnderlyingPlan s request route size partitionSize steps)
    {peStartBytes : Nat} (space : RouteSpace s route plan.stack plan.backing peStartBytes) :
    PlanSpace route plan.stack peStartBytes size partitionSize plan.expectedPvSizeBytes := by
  have hphysical := space.physical
  have hgrown : plan.expectedPvSizeBytes = plan.stack.pv.sizeBytes +
      gainedExtents route plan.stack * plan.stack.extent := plan.pvGrown
  have hrounded := congrArg SizeChange.roundedGrowthBytes plan.size_eq
  have hexpected := congrArg SizeChange.expectedLvSizeBytes plan.size_eq
  have hremaining := congrArg SizeChange.remainingVgFreeBytes plan.size_eq
  have hrequested := congrArg SizeChange.requestedGrowthBytes plan.size_eq
  simp only at hrounded hexpected hremaining hrequested
  refine ⟨hgrown, ?_, ?_, by omega, hrounded, hrequested, ?_, plan.pvFits, ?_, plan.lvFits⟩
  · rintro p rfl
    obtain ⟨hneeded, hsize, hgrowth⟩ := plan.facts.partition_grown space plan.partition
    exact ⟨hneeded, hsize, hgrowth, by omega⟩
  · rintro rfl
    have hnone := (underlyingPartition_none plan.partition).1
    exact ⟨hnone, by omega⟩
  · obtain ⟨-, -, hfree, -⟩ := plan.facts.facts.extents
    have hmore := plan.facts.more
    rw [checkedMul_eq_some_iff] at hfree
    rw [hremaining, hrounded, ← hfree.2, gainedExtents, ← Nat.add_mul, Nat.zero_add]
    congr 1
    omega
  · have := plan.lvFits
    omega

/-- Growing a volume from below conserves space: what the partition, the physical volume and the
volume gain is covered by what each layer below them has, and all of it is counted in words. -/
theorem underlying_growth_conserves (s : HostSnapshot) (request : ExtendRequest) :
    (∀ route, analyzeLvmUnderlyingGrowth s request = some route →
      ∃ stack backing peStartBytes, RouteFacts s request route stack backing ∧
        RouteSpace s route stack backing peStartBytes) ∧
    (∀ route size partitionSize steps,
      buildLvmUnderlyingGrowthCandidate s request = some (route, size, partitionSize, steps) →
      ∃ (plan : UnderlyingPlan s request route size partitionSize steps) (peStartBytes : Nat),
        RouteSpace s route plan.stack plan.backing peStartBytes ∧
        PlanSpace route plan.stack peStartBytes size partitionSize plan.expectedPvSizeBytes) ∧
    ∀ stack backing, underlyingStack s request.target = some stack →
      underlyingBacking s stack.pvDevice.device = some backing →
      0 < stack.extent ∧ (∀ n < limit, divCeil n stack.extent < limit) ∧
        (0 < backing.adjacentPartitionFreeBytes →
          0 < backing.sectorSizeBytes ∧ ∀ n < limit, divCeil n backing.sectorSizeBytes < limit) := by
  refine ⟨fun route h => ?_, fun route size partitionSize steps h => ?_,
    fun stack backing hstack hbacking => ?_⟩
  · obtain ⟨stack, backing, facts⟩ := analyzeLvmUnderlyingGrowth_some h
    obtain ⟨peStartBytes, space⟩ := facts.space h
    exact ⟨stack, backing, peStartBytes, facts, space⟩
  · obtain ⟨plan⟩ := buildLvmUnderlyingGrowthCandidate_some h
    obtain ⟨peStartBytes, space⟩ := plan.facts.space plan.analyzed
    exact ⟨plan, peStartBytes, space, plan.space space⟩
  · have hextent := (underlyingStack_some hstack).extents.1
    refine ⟨by omega, fun n hn => divCeil_lt_limit hn (by omega), fun hadjacent => ?_⟩
    by_cases hkind : stack.pvDevice.device.kind = .partition
    · obtain ⟨_, _, _, _, _, backed⟩ := underlyingBacking_some hbacking hkind
      have hsector := backed.sectorFits.1
      exact ⟨by omega, fun n hn => divCeil_lt_limit hn (by omega)⟩
    · have := (underlyingBacking_whole hbacking hkind).1
      omega

/-- The volume of a group without free extents, grown as far as the partition below allows. -/
theorem underlying_growth_conserves_sample :
    ∃ route size partitionSize steps,
      ∃ (plan : UnderlyingPlan volumeSnapshot ⟨"/data", .maxFree⟩ route size partitionSize steps)
        (peStartBytes : Nat),
        RouteSpace volumeSnapshot route plan.stack plan.backing peStartBytes ∧
        PlanSpace route plan.stack peStartBytes size partitionSize plan.expectedPvSizeBytes := by
  have hsome : (buildLvmUnderlyingGrowthCandidate volumeSnapshot
      ⟨"/data", .maxFree⟩).isSome = true := by decide +kernel
  obtain ⟨⟨route, size, partitionSize, steps⟩, hbuilt⟩ := Option.isSome_iff_exists.mp hsome
  exact ⟨route, size, partitionSize, steps,
    (underlying_growth_conserves volumeSnapshot ⟨"/data", .maxFree⟩).2.1 route size partitionSize
      steps hbuilt⟩

/-- A physical volume that begins early on its partition and ends 960 KiB before it does. -/
def slackSnapshot : HostSnapshot :=
  { volumeSnapshot with
    lvm := some
      { physicalVolumes := [⟨"/dev/sda1", some "pv1", some "vg", 9437184, 0, some 65536⟩]
        volumeGroups := [⟨"vg", some "vg1", 9437184, 0, 1, 1, some 524288, some 0, some 0,
          some "wz--n-"⟩]
        logicalVolumes := [⟨"data", some "/dev/vg/data", some "lv1", "vg", 9437184,
          some "-wi-ao----", some "linear", some "public"⟩] } }

/-- Where the physical volume has room on its partition already, the partition gains nothing. -/
theorem underlying_growth_without_partition :
    (analyzeLvmUnderlyingGrowth slackSnapshot ⟨"/data", .byBytes 524288⟩).map
        (·.requiredPartitionGrowthBytes) = some 0 ∧
      (buildLvmUnderlyingGrowthCandidate slackSnapshot ⟨"/data", .byBytes 524288⟩).map
        (·.2.2.1) = some none := by
  decide +kernel

end Underlying

end StorageManager.Planner.Extend
