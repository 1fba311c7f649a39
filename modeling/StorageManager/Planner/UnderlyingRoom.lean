import StorageManager.Planner.VolumeConservation

/-!
# How far a volume grows from below

The device under a physical volume offers a group so many extents beyond its free ones. What
is measured of it does not depend on a request; whether a growth is carried out depends on
how many of the extents it takes, and fewer are carried wherever more are.
-/

namespace StorageManager.Planner.Extend

open Core (HostSnapshot PartitionRecord PartitionTable)
open Lib.Checks
open Lib.Word64

set_option autoImplicit false

variable {s : HostSnapshot} {target : String} {stack : VolumeStack} {backing : Backing}
  {slack : Nat}

/-- The extents that the device below could give to the group. -/
def additionalExtents (stack : VolumeStack) (backing : Backing) (slack : Nat) : Nat :=
  (slack + backing.adjacentPartitionFreeBytes) / stack.extent

/-- The extents a volume could gain, the free ones of its group among them. -/
def VolumeStack.maxExtents (stack : VolumeStack) (backing : Backing) (slack : Nat) : Nat :=
  stack.freeExtents + additionalExtents stack backing slack

/-- What is measured below a volume, whatever growth is asked for. -/
structure UnderlyingRoom (s : HostSnapshot) (target : String) (stack : VolumeStack)
    (backing : Backing) (slack : Nat) : Prop where
  valid : ¬invalidTarget target
  collected : ∀ c ∈ lvmCollectors, Collected s c
  clean : ¬hasErrorDiagnostic s
  found : underlyingStack s target = some stack
  slack_eq : checkedSub stack.usableBackingBytes stack.pv.sizeBytes = some slack
  backed : underlyingBacking s stack.pvDevice.device = some backing
  fits : slack + backing.adjacentPartitionFreeBytes < limit
  offered : additionalExtents stack backing slack ≠ 0
  maxFits : stack.maxExtents backing slack * stack.extent < limit

/-- The bytes missing behind a physical volume that is to gain all but the free extents. -/
def missingFor (stack : VolumeStack) (slack extents : Nat) : Nat :=
  (extents - stack.freeExtents) * stack.extent - slack

/-- The partition under the physical volume may grow by the missing bytes, in whole sectors. -/
def PartitionCarries (s : HostSnapshot) (backing : Backing) (missing : Nat) : Prop :=
  ∃ table record partition, backing.partitionPath = some partition ∧
    s.partitionTables.filter (·.device = backing.diskPath) = [table] ∧
    table.partitions.filter (·.node = partition) = [record] ∧
    ensurePartitionRoleIsGrowable table record = .ok () ∧
    (record.sizeSectors + divCeil missing backing.sectorSizeBytes) * backing.sectorSizeBytes <
      limit

/-- Every layer carries a growth of the volume by so many extents: the records are found again
by their names, they have their UUIDs, the grown sizes are words and the partition may grow. -/
structure Carries (s : HostSnapshot) (stack : VolumeStack) (backing : Backing)
    (slack extents : Nat) : Prop where
  pvNamed : stack.lvm.physicalVolumes.filter (·.name = stack.pv.name) = [stack.pv]
  lvNamed : stack.lvm.logicalVolumes.filter
    (·.lvAlias (stack.lv.path.getD s!"/dev/{stack.lv.vgName}/{stack.lv.name}")) = [stack.lv]
  identified : stack.pv.uuid.isSome ∧ stack.vg.uuid.isSome ∧ stack.lv.uuid.isSome
  pvFits : stack.pv.sizeBytes + (extents - stack.freeExtents) * stack.extent < limit
  lvFits : stack.lv.sizeBytes + extents * stack.extent < limit
  partition : missingFor stack slack extents ≠ 0 →
    PartitionCarries s backing (missingFor stack slack extents)

section Fewer

theorem missingFor_mono {few many : Nat} (h : few ≤ many) :
    missingFor stack slack few ≤ missingFor stack slack many := by
  have hbytes := Nat.mul_le_mul_right stack.extent (Nat.sub_le_sub_right h stack.freeExtents)
  unfold missingFor
  omega

theorem PartitionCarries.fewer {few many : Nat} (hsector : 0 < backing.sectorSizeBytes)
    (h : few ≤ many) (carries : PartitionCarries s backing many) :
    PartitionCarries s backing few := by
  obtain ⟨table, record, partition, hpath, htable, hrecord, hgrowable, hfits⟩ := carries
  have hsectors : divCeil few backing.sectorSizeBytes ≤ divCeil many backing.sectorSizeBytes :=
    (divCeil_le_iff hsector).mpr (h.trans (le_divCeil_mul many hsector))
  refine ⟨table, record, partition, hpath, htable, hrecord, hgrowable, ?_⟩
  exact Nat.lt_of_le_of_lt (Nat.mul_le_mul_right _ (Nat.add_le_add_left hsectors _)) hfits

theorem UnderlyingRoom.facts (room : UnderlyingRoom s target stack backing slack) :
    StackFacts s target stack :=
  underlyingStack_some room.found

theorem UnderlyingRoom.extent_pos (room : UnderlyingRoom s target stack backing slack) :
    0 < stack.extent := by
  have hextent := room.facts.extents.1
  omega

/-- The missing bytes of what was measured are free behind the partition. -/
theorem missingFor_le {extents : Nat} (h : extents ≤ stack.maxExtents backing slack) :
    missingFor stack slack extents ≤ backing.adjacentPartitionFreeBytes := by
  have hgained : extents - stack.freeExtents ≤ additionalExtents stack backing slack := by
    unfold VolumeStack.maxExtents at h
    omega
  exact gained_sub_slack_le hgained

/-- Whatever carries a growth carries a smaller one. -/
theorem UnderlyingRoom.fewer (room : UnderlyingRoom s target stack backing slack)
    {few many : Nat} (h : few ≤ many) (hmany : many ≤ stack.maxExtents backing slack)
    (carries : Carries s stack backing slack many) : Carries s stack backing slack few := by
  have hgained := Nat.mul_le_mul_right stack.extent (Nat.sub_le_sub_right h stack.freeExtents)
  have hextents := Nat.mul_le_mul_right stack.extent h
  have hmono : missingFor stack slack few ≤ missingFor stack slack many := missingFor_mono h
  have hpv := carries.pvFits
  have hlv := carries.lvFits
  refine ⟨carries.pvNamed, carries.lvNamed, carries.identified, by omega, by omega, ?_⟩
  intro hmissing
  have hmissing' : missingFor stack slack many ≠ 0 := by omega
  obtain ⟨_, _, _, _, _, backed⟩ := backedAt_of_free room.backed (missingFor_le hmany) hmissing'
  have hsector := backed.sectorFits.1
  exact (carries.partition hmissing').fewer (by omega) hmono

end Fewer

section Routes


/-- The bytes a growth asks of the layers below, the free ones of the group among them. -/
def askedFromBelow (stack : VolumeStack) (backing : Backing) (slack : Nat) (growth : Growth) :
    Nat :=
  match growth with
  | .byBytes bytes => bytes
  | .maxFree => stack.maxExtents backing slack * stack.extent

theorem UnderlyingRoom.aligned (room : UnderlyingRoom s target stack backing slack)
    {extents : Nat} (h : extents ≤ stack.maxExtents backing slack) :
    ∃ required, sectorAligned (missingFor stack slack extents) backing.sectorSizeBytes =
        some required ∧ required ≤ backing.adjacentPartitionFreeBytes ∧
      (0 < required → ∃ path, backing.partitionPath = some path) := by
  by_cases hmissing : missingFor stack slack extents = 0
  · exact ⟨0, sectorAligned_eq_some_iff.mpr (.inl ⟨hmissing, rfl⟩), Nat.zero_le _,
      fun h => absurd h (Nat.lt_irrefl 0)⟩
  · obtain ⟨_, path, _, _, adjacentSectors, backed⟩ :=
      backedAt_of_free room.backed (missingFor_le h) hmissing
    have hsector := backed.sectorFits.1
    have hle := missingFor_le h
    -- what is free is whole sectors, so rounding up stays within it
    have hrounded : divCeil (missingFor stack slack extents) backing.sectorSizeBytes *
        backing.sectorSizeBytes ≤ backing.adjacentPartitionFreeBytes := by
      rw [← backed.bytes.2] at hle ⊢
      exact Nat.mul_le_mul_right _ ((divCeil_le_iff (by omega)).mpr hle)
    have hfits := room.fits
    exact ⟨_, sectorAligned_eq_some_iff.mpr (.inr ⟨hmissing, by omega, rfl⟩), hrounded,
      fun _ => ⟨path, backed.partitionPath⟩⟩

theorem underlyingSteps_some (stack : VolumeStack) (lvPath : String) {required : Nat}
    (h : 0 < required → ∃ path, backing.partitionPath = some path) :
    ∃ steps, underlyingSteps stack backing lvPath required = some steps := by
  unfold underlyingSteps
  by_cases hrequired : 0 < required
  · obtain ⟨path, hpath⟩ := h hrequired
    rw [if_pos hrequired, hpath]
    exact ⟨_, rfl⟩
  · rw [if_neg hrequired]
    exact ⟨_, rfl⟩

/-- A growth beyond the free extents has a route as far as the measured extents reach. -/
theorem UnderlyingRoom.analyzed (room : UnderlyingRoom s target stack backing slack)
    {growth : Growth}
    (hmore : stack.freeExtents < divCeil (askedFromBelow stack backing slack growth) stack.extent)
    (henough : divCeil (askedFromBelow stack backing slack growth) stack.extent ≤
      stack.maxExtents backing slack) :
    ∃ route, analyzeLvmUnderlyingGrowth s ⟨target, growth⟩ = some route := by
  have hextent := room.extent_pos
  have hmaxFits := room.maxFits
  have hoffered := room.offered
  obtain ⟨-, -, hfree, -⟩ := room.facts.extents
  rw [checkedMul_eq_some_iff] at hfree
  have hgrows : stack.vg.freeBytes < stack.maxExtents backing slack * stack.extent := by
    rw [← hfree.2]
    refine Nat.mul_lt_mul_of_pos_right ?_ hextent
    unfold VolumeStack.maxExtents
    omega
  have hextents : stack.maxExtents backing slack < limit :=
    Nat.lt_of_le_of_lt (Nat.le_mul_of_pos_right _ hextent) hmaxFits
  have hrequested : askedFromBelow stack backing slack growth ≠ 0 := by
    intro hzero
    rw [hzero] at hmore
    simp [divCeil] at hmore
  have hgained : (divCeil (askedFromBelow stack backing slack growth) stack.extent -
      stack.freeExtents) * stack.extent < limit :=
    Nat.lt_of_le_of_lt (Nat.mul_le_mul_right _ ((Nat.sub_le _ _).trans henough)) hmaxFits
  obtain ⟨required, hrequired, hroom, hpath⟩ := room.aligned henough
  obtain ⟨steps, hsteps⟩ := underlyingSteps_some stack
    (stack.lv.path.getD s!"/dev/{stack.lv.vgName}/{stack.lv.name}") hpath
  unfold analyzeLvmUnderlyingGrowth
  refine exists_bind_some_iff.mpr ⟨(), guard_eq_some_iff.mpr room.valid, ?_⟩
  refine exists_bind_some_iff.mpr ⟨(), toOption_eq_some_iff.mpr
    (collectorsComplete_eq_ok_iff.mpr room.collected), ?_⟩
  refine exists_bind_some_iff.mpr ⟨(), guard_eq_some_iff.mpr room.clean, ?_⟩
  refine exists_bind_some_iff.mpr ⟨stack, room.found, ?_⟩
  refine exists_bind_some_iff.mpr ⟨slack, room.slack_eq, ?_⟩
  refine exists_bind_some_iff.mpr ⟨backing, room.backed, ?_⟩
  refine exists_bind_some_iff.mpr ⟨_, checkedAdd_eq_some_iff.mpr ⟨room.fits, rfl⟩, ?_⟩
  refine exists_bind_some_iff.mpr ⟨(), guard_eq_some_iff.mpr hoffered, ?_⟩
  refine exists_bind_some_iff.mpr ⟨_, checkedAdd_eq_some_iff.mpr ⟨hextents, rfl⟩, ?_⟩
  refine exists_bind_some_iff.mpr ⟨_, checkedMul_eq_some_iff.mpr ⟨hmaxFits, rfl⟩, ?_⟩
  refine exists_bind_some_iff.mpr ⟨(), guard_eq_some_iff.mpr hgrows, ?_⟩
  refine exists_bind_some_iff.mpr ⟨(), guard_eq_some_iff.mpr hrequested, ?_⟩
  refine exists_bind_some_iff.mpr ⟨(), guard_eq_some_iff.mpr ⟨hmore, henough⟩, ?_⟩
  refine exists_bind_some_iff.mpr ⟨_, checkedSub_eq_some_iff.mpr ⟨hmore.le, rfl⟩, ?_⟩
  refine exists_bind_some_iff.mpr ⟨_, checkedMul_eq_some_iff.mpr ⟨hgained, rfl⟩, ?_⟩
  refine exists_bind_some_iff.mpr ⟨required, hrequired, ?_⟩
  refine exists_bind_some_iff.mpr ⟨(), guard_eq_some_iff.mpr hroom, ?_⟩
  exact exists_bind_some_iff.mpr ⟨steps, hsteps, _, rfl⟩

variable {request : ExtendRequest} {route : GrowthRouteAlternative}

/-- A route was found in the room that was measured for it. -/
theorem RouteFacts.underlyingRoom (h : analyzeLvmUnderlyingGrowth s request = some route)
    (facts : RouteFacts s request route stack backing) :
    UnderlyingRoom s request.target stack backing route.pvDeviceSlackBytes := by
  have hmaxFits := analyzed_bounded h facts
  unfold analyzeLvmUnderlyingGrowth at h
  obtain ⟨_, hvalid, h⟩ := Option.bind_eq_some_iff.mp h
  obtain ⟨_, -, h⟩ := Option.bind_eq_some_iff.mp h
  obtain ⟨_, hclean, h⟩ := Option.bind_eq_some_iff.mp h
  obtain ⟨stack', hstack, h⟩ := Option.bind_eq_some_iff.mp h
  obtain ⟨slack, hslack, h⟩ := Option.bind_eq_some_iff.mp h
  obtain ⟨backing', hbacking, h⟩ := Option.bind_eq_some_iff.mp h
  obtain ⟨underlying, hunderlying, h⟩ := Option.bind_eq_some_iff.mp h
  obtain ⟨_, hoffered, -⟩ := Option.bind_eq_some_iff.mp h
  obtain rfl : stack' = stack := Option.some.inj (hstack.symm.trans facts.found)
  obtain rfl : backing' = backing := Option.some.inj (hbacking.symm.trans facts.backed)
  rw [guard_eq_some_iff] at hvalid hclean hoffered
  rw [checkedAdd_eq_some_iff] at hunderlying
  obtain ⟨hfits, rfl⟩ := hunderlying
  obtain rfl : route.pvDeviceSlackBytes = slack := by
    rw [facts.slack, (checkedSub_eq_some_iff.mp hslack).2]
  exact ⟨hvalid, facts.collected, hclean, facts.found, hslack, facts.backed, hfits, hoffered,
    hmaxFits⟩

/-- The table of a measured partition has a label. -/
theorem adjacentFreeSectors_labelled {disk : Core.BlockDevice} {table : PartitionTable}
    {record : PartitionRecord} {sectors : Nat}
    (h : adjacentFreeSectors disk table record = .ok sectors) : ∃ label, table.label = some label := by
  unfold adjacentFreeSectors at h
  obtain ⟨_, -, h⟩ := bind_eq_ok_iff.mp h
  obtain ⟨label, hlabel, -⟩ := bind_eq_ok_iff.mp h
  exact ⟨label, okOr_eq_ok_iff.mp hlabel⟩

theorem RouteFacts.planned_of_carries (facts : RouteFacts s request route stack backing)
    {disk : Core.BlockDevice} {pvPath : String} {table : PartitionTable} {record : PartitionRecord}
    {adjacentSectors missing : Nat}
    (backed : BackedAt s stack.pvDevice.device backing disk pvPath table record adjacentSectors)
    (hrequired : divCeil missing backing.sectorSizeBytes * backing.sectorSizeBytes =
      route.requiredPartitionGrowthBytes)
    (carries : PartitionCarries s backing missing) :
    ∃ planned, underlyingPartition s route = some planned := by
  obtain ⟨table', record', partition, hpath, htable, hrecord, hgrowable, hfits⟩ := carries
  obtain rfl : table' = table := (List.cons.inj (htable.symm.trans backed.inTable)).1
  have hsector := backed.sectorFits.1
  have hpos : 0 < backing.sectorSizeBytes := by omega
  have hgrowth : route.requiredPartitionGrowthBytes / backing.sectorSizeBytes =
      divCeil missing backing.sectorSizeBytes := by
    rw [← hrequired, Nat.mul_div_cancel _ hpos]
  have hcurrent : record'.sizeSectors * backing.sectorSizeBytes < limit :=
    Nat.lt_of_le_of_lt (Nat.mul_le_mul_right _ (Nat.le_add_right _ _)) hfits
  have hsectors : record'.sizeSectors + divCeil missing backing.sectorSizeBytes < limit :=
    Nat.lt_of_le_of_lt (Nat.le_mul_of_pos_right _ hpos) hfits
  obtain ⟨label, hlabel⟩ := adjacentFreeSectors_labelled backed.adjacent
  have hagree : backing.sectorSizeBytes = route.sectorSizeBytes ∧
      route.requiredPartitionGrowthBytes % backing.sectorSizeBytes = 0 := by
    refine ⟨facts.sector.symm, ?_⟩
    rw [← hrequired, Nat.mul_mod_left]
  have hroom := facts.room
  rw [← facts.adjacent] at hroom
  unfold underlyingPartition
  split
  · refine exists_bind_some_iff.mpr ⟨partition, facts.partition.trans hpath, ?_⟩
    refine exists_bind_some_iff.mpr ⟨table', toOption_eq_some_iff.mpr
      (unique_eq_ok_iff.mpr (facts.disk ▸ htable)), ?_⟩
    refine exists_bind_some_iff.mpr ⟨label, hlabel, ?_⟩
    refine exists_bind_some_iff.mpr ⟨_, backed.sector, ?_⟩
    refine exists_bind_some_iff.mpr ⟨(), guard_eq_some_iff.mpr hagree, ?_⟩
    refine exists_bind_some_iff.mpr ⟨record', toOption_eq_some_iff.mpr
      (unique_eq_ok_iff.mpr hrecord), ?_⟩
    refine exists_bind_some_iff.mpr ⟨(), toOption_eq_some_iff.mpr hgrowable, ?_⟩
    rw [hgrowth]
    refine exists_bind_some_iff.mpr ⟨_, checkedAdd_eq_some_iff.mpr ⟨hsectors, rfl⟩, ?_⟩
    refine exists_bind_some_iff.mpr ⟨_, checkedMul_eq_some_iff.mpr ⟨hcurrent, rfl⟩, ?_⟩
    refine exists_bind_some_iff.mpr ⟨_, checkedMul_eq_some_iff.mpr ⟨hfits, rfl⟩, ?_⟩
    exact exists_bind_some_iff.mpr ⟨_, checkedSub_eq_some_iff.mpr ⟨hroom, rfl⟩, _, rfl⟩
  · exact ⟨_, rfl⟩

theorem RouteFacts.carries_of_planned (facts : RouteFacts s request route stack backing)
    {missing : Nat} (hpos : 0 < backing.sectorSizeBytes) (hmissing : 0 < missing)
    (hrequired : divCeil missing backing.sectorSizeBytes * backing.sectorSizeBytes =
      route.requiredPartitionGrowthBytes)
    {planned : Option PartitionSizeChange × List (Operation × Reversibility)}
    (h : underlyingPartition s route = some planned) : PartitionCarries s backing missing := by
  obtain ⟨size, operations⟩ := planned
  cases size with
  | none =>
    have hzero := (underlyingPartition_none h).1
    have hsectors := Nat.mul_pos (divCeil_pos hpos hmissing) hpos
    omega
  | some size =>
    obtain ⟨table, record, label, partition, newSizeSectors, grown⟩ := underlyingPartition_some h
    have hfits := grown.fits
    rw [grown.grown, facts.sector, ← hrequired, Nat.mul_div_cancel _ hpos] at hfits
    exact ⟨table, record, partition, facts.partition.symm.trans grown.ofRoute,
      facts.disk ▸ grown.inTable, grown.ofRecord, grown.growable, hfits⟩

/-- The partition's part of a route is planned exactly when the partition may grow so far. -/
theorem RouteFacts.planned_iff (facts : RouteFacts s request route stack backing) :
    (∃ planned, underlyingPartition s route = some planned) ↔
      (missingFor stack route.pvDeviceSlackBytes
          (divCeil route.requestedGrowthBytes stack.extent) ≠ 0 →
        PartitionCarries s backing (missingFor stack route.pvDeviceSlackBytes
          (divCeil route.requestedGrowthBytes stack.extent))) := by
  have hrequired := sectorAligned_eq_some_iff.mp facts.required
  rw [← missingFor] at hrequired
  rcases hrequired with ⟨hzero, hnone⟩ | ⟨hne, -, hrounded⟩
  · have hunneeded : ¬0 < route.requiredPartitionGrowthBytes := by omega
    unfold underlyingPartition
    rw [if_neg hunneeded]
    exact ⟨fun _ hne => absurd hzero hne, fun _ => ⟨_, rfl⟩⟩
  · obtain ⟨_, _, _, _, _, backed⟩ := backedAt_of_free facts.backed facts.missing_le hne
    have hsector := backed.sectorFits.1
    constructor
    · intro hplanned _
      obtain ⟨planned, hplanned⟩ := hplanned
      exact facts.carries_of_planned (by omega) (Nat.pos_of_ne_zero hne) hrounded hplanned
    · intro carries
      exact facts.planned_of_carries backed hrounded (carries hne)

/-- A planned growth has found the records of its stack again by their names. -/
theorem RouteFacts.named (h : analyzeLvmUnderlyingGrowth s request = some route)
    (facts : RouteFacts s request route stack backing)
    (hbuilt : ∃ candidate, buildLvmUnderlyingGrowthCandidate s request = some candidate) :
    stack.lvm.physicalVolumes.filter (·.name = stack.pv.name) = [stack.pv] ∧
      stack.lvm.logicalVolumes.filter
        (·.lvAlias (stack.lv.path.getD s!"/dev/{stack.lv.vgName}/{stack.lv.name}")) =
          [stack.lv] := by
  unfold buildLvmUnderlyingGrowthCandidate at hbuilt
  obtain ⟨route', hroute, hbuilt⟩ := exists_bind_some_iff.mp hbuilt
  obtain rfl : route = route' := Option.some.inj (h.symm.trans hroute)
  obtain ⟨lvm, hlvm, hbuilt⟩ := exists_bind_some_iff.mp hbuilt
  obtain rfl : lvm = stack.lvm := Option.some.inj (hlvm.symm.trans facts.facts.lvm)
  obtain ⟨pv, hpv, hbuilt⟩ := exists_bind_some_iff.mp hbuilt
  obtain ⟨vg, -, hbuilt⟩ := exists_bind_some_iff.mp hbuilt
  obtain ⟨lv, hlv, -⟩ := exists_bind_some_iff.mp hbuilt
  rw [toOption_eq_some_iff, unique_eq_ok_iff, facts.physicalVolume] at hpv
  rw [toOption_eq_some_iff, unique_eq_ok_iff, facts.logicalVolume] at hlv
  obtain rfl : stack.pv = pv := eq_of_filter_eq_singleton hpv
    (mem_of_filter_eq_singleton facts.facts.pv).1 (by simp)
  obtain rfl : stack.lv = lv := eq_of_filter_eq_singleton hlv
    (mem_of_filter_eq_singleton facts.facts.lv).1 (lvAlias_path _)
  exact ⟨hpv, hlv⟩

theorem RouteFacts.carries_of_built (h : analyzeLvmUnderlyingGrowth s request = some route)
    (facts : RouteFacts s request route stack backing)
    (hbuilt : ∃ candidate, buildLvmUnderlyingGrowthCandidate s request = some candidate) :
    Carries s stack backing route.pvDeviceSlackBytes
      (divCeil route.requestedGrowthBytes stack.extent) := by
  obtain ⟨hpvNamed, hlvNamed⟩ := facts.named h hbuilt
  obtain ⟨⟨route', size, partitionSize, steps⟩, hcandidate⟩ := hbuilt
  obtain ⟨plan⟩ := buildLvmUnderlyingGrowthCandidate_some hcandidate
  obtain rfl : route = route' := Option.some.inj (h.symm.trans plan.analyzed)
  have hstack : plan.stack = stack :=
    Option.some.inj (plan.facts.found.symm.trans facts.found)
  have hpvFits := plan.pvFits
  have hlvFits := plan.lvFits
  rw [plan.pvGrown, hstack] at hpvFits
  rw [congrArg SizeChange.expectedLvSizeBytes plan.size_eq, hstack] at hlvFits
  refine ⟨hpvNamed, hlvNamed, ⟨?_, ?_, ?_⟩, hpvFits, hlvFits,
    facts.planned_iff.mp ⟨_, plan.partition⟩⟩
  · rw [← hstack, plan.pv]
    rfl
  · rw [← hstack, plan.vg]
    rfl
  · rw [← hstack, plan.lv]
    rfl

theorem RouteFacts.built_of_carries (h : analyzeLvmUnderlyingGrowth s request = some route)
    (facts : RouteFacts s request route stack backing)
    (carries : Carries s stack backing route.pvDeviceSlackBytes
      (divCeil route.requestedGrowthBytes stack.extent)) :
    ∃ candidate, buildLvmUnderlyingGrowthCandidate s request = some candidate := by
  have hfree := facts.facts.freeExtents_eq
  have hmore := facts.more
  have hextent := facts.extent_pos
  obtain ⟨resolvedDevice, hresolved, hdevice⟩ := facts.facts.device
  obtain ⟨mountpoint, hmountpoint, -⟩ := facts.facts.mounted
  obtain ⟨planned, hpartition⟩ := facts.planned_iff.mpr carries.partition
  obtain ⟨hpvUuid, hvgUuid, hlvUuid⟩ := carries.identified
  obtain ⟨pvUuid, hpvUuid⟩ := Option.isSome_iff_exists.mp hpvUuid
  obtain ⟨vgUuid, hvgUuid⟩ := Option.isSome_iff_exists.mp hvgUuid
  obtain ⟨lvUuid, hlvUuid⟩ := Option.isSome_iff_exists.mp hlvUuid
  have hvg : stack.lvm.volumeGroups.filter (·.name = stack.vg.name) = [stack.vg] := by
    have hname : stack.vg.name = stack.lv.vgName := by
      simpa using (mem_of_filter_eq_singleton facts.facts.vg).2
    rw [hname]
    exact facts.facts.vg
  obtain ⟨-, -, hbytes, -⟩ := facts.facts.extents
  rw [checkedMul_eq_some_iff] at hbytes
  have hdivides : stack.extent ≠ 0 ∧ stack.vg.freeBytes % stack.extent = 0 := by
    refine ⟨by omega, ?_⟩
    rw [← hbytes.2, Nat.mul_mod_left]
  have hpvFits := carries.pvFits
  have hlvFits := carries.lvFits
  unfold buildLvmUnderlyingGrowthCandidate
  refine exists_bind_some_iff.mpr ⟨route, h, ?_⟩
  rw [facts.physicalVolume, facts.volumeGroup, facts.logicalVolume, facts.extent, facts.existing]
  dsimp only
  rw [hfree]
  refine exists_bind_some_iff.mpr ⟨_, facts.facts.lvm, ?_⟩
  refine exists_bind_some_iff.mpr ⟨_, toOption_eq_some_iff.mpr
    (unique_eq_ok_iff.mpr carries.pvNamed), ?_⟩
  refine exists_bind_some_iff.mpr ⟨_, toOption_eq_some_iff.mpr (unique_eq_ok_iff.mpr hvg), ?_⟩
  refine exists_bind_some_iff.mpr ⟨_, toOption_eq_some_iff.mpr
    (unique_eq_ok_iff.mpr carries.lvNamed), ?_⟩
  refine exists_bind_some_iff.mpr ⟨(), guard_eq_some_iff.mpr hdivides, ?_⟩
  refine exists_bind_some_iff.mpr ⟨_, checkedSub_eq_some_iff.mpr ⟨hmore.le, rfl⟩, ?_⟩
  refine exists_bind_some_iff.mpr ⟨(), guard_eq_some_iff.mpr (by omega), ?_⟩
  refine exists_bind_some_iff.mpr ⟨_, checkedMul_eq_some_iff.mpr ⟨by omega, rfl⟩, ?_⟩
  refine exists_bind_some_iff.mpr ⟨_, checkedAdd_eq_some_iff.mpr ⟨hpvFits, rfl⟩, ?_⟩
  refine exists_bind_some_iff.mpr ⟨_, checkedMul_eq_some_iff.mpr ⟨by omega, rfl⟩, ?_⟩
  refine exists_bind_some_iff.mpr ⟨_, checkedAdd_eq_some_iff.mpr ⟨hlvFits, rfl⟩, ?_⟩
  refine exists_bind_some_iff.mpr ⟨_, hresolved, ?_⟩
  refine exists_bind_some_iff.mpr ⟨_, toOption_eq_some_iff.mpr
    (unique_eq_ok_iff.mpr hdevice), ?_⟩
  refine exists_bind_some_iff.mpr ⟨_, facts.facts.filesystem, ?_⟩
  refine exists_bind_some_iff.mpr ⟨_, hmountpoint, ?_⟩
  refine exists_bind_some_iff.mpr ⟨_, hvgUuid, ?_⟩
  refine exists_bind_some_iff.mpr ⟨_, hpartition, ?_⟩
  refine exists_bind_some_iff.mpr ⟨_, hpvUuid, ?_⟩
  exact exists_bind_some_iff.mpr ⟨_, hlvUuid, _, rfl⟩

end Routes

section Requests

variable {growth : Growth} {route : GrowthRouteAlternative} {stack' : VolumeStack}
  {backing' : Backing}

/-- A target has one room: every route to it is measured in the same. -/
theorem UnderlyingRoom.same (room : UnderlyingRoom s target stack backing slack)
    (facts : RouteFacts s ⟨target, growth⟩ route stack' backing') :
    stack' = stack ∧ backing' = backing ∧ route.pvDeviceSlackBytes = slack ∧
      route.requestedGrowthBytes = askedFromBelow stack backing slack growth := by
  obtain rfl : stack' = stack := Option.some.inj (facts.found.symm.trans room.found)
  obtain rfl : backing' = backing := Option.some.inj (facts.backed.symm.trans room.backed)
  have hslack : route.pvDeviceSlackBytes = slack := by
    rw [facts.slack, (checkedSub_eq_some_iff.mp room.slack_eq).2]
  have hasked := facts.asked
  rw [hslack] at hasked
  refine ⟨rfl, rfl, hslack, hasked.trans ?_⟩
  cases growth <;> rfl

/-- A volume grows from below exactly by extents beyond the free ones that were measured and
that every layer carries. -/
theorem UnderlyingRoom.built_iff (room : UnderlyingRoom s target stack backing slack)
    (growth : Growth) {asked : Nat} (hasked : askedFromBelow stack backing slack growth = asked) :
    (∃ candidate, buildLvmUnderlyingGrowthCandidate s ⟨target, growth⟩ = some candidate) ↔
      stack.freeExtents < divCeil asked stack.extent ∧
        divCeil asked stack.extent ≤ stack.maxExtents backing slack ∧
        Carries s stack backing slack (divCeil asked stack.extent) := by
  constructor
  · intro hbuilt
    obtain ⟨⟨route, size, partitionSize, steps⟩, hcandidate⟩ := hbuilt
    obtain ⟨plan⟩ := buildLvmUnderlyingGrowthCandidate_some hcandidate
    have facts := plan.facts
    have hmore := facts.more
    have henough := facts.enough
    have hcarries := facts.carries_of_built plan.analyzed ⟨_, hcandidate⟩
    obtain ⟨hstack, hbacking, hslack, hrequested⟩ := room.same facts
    rw [hstack, hbacking, hslack, hrequested, hasked] at hcarries
    rw [hstack, hrequested, hasked] at hmore
    rw [hstack, hbacking, hslack, hrequested, hasked] at henough
    exact ⟨hmore, henough, hcarries⟩
  · rintro ⟨hmore, henough, hcarries⟩
    subst hasked
    obtain ⟨route, hroute⟩ := room.analyzed hmore henough
    obtain ⟨stack', backing', facts⟩ := analyzeLvmUnderlyingGrowth_some hroute
    obtain ⟨rfl, rfl, hslack, hrequested⟩ := room.same facts
    refine facts.built_of_carries hroute ?_
    rw [hslack, hrequested]
    exact hcarries

/-- The largest growth takes all the extents that were measured. -/
theorem UnderlyingRoom.largest_iff (room : UnderlyingRoom s target stack backing slack) :
    (∃ candidate, buildLvmUnderlyingGrowthCandidate s ⟨target, .maxFree⟩ = some candidate) ↔
      Carries s stack backing slack (stack.maxExtents backing slack) := by
  have hoffered := room.offered
  have hmore : stack.freeExtents < stack.maxExtents backing slack := by
    unfold VolumeStack.maxExtents
    omega
  rw [room.built_iff _ rfl, askedFromBelow, divCeil_mul_of_pos _ room.extent_pos]
  exact ⟨fun h => h.2.2, fun h => ⟨hmore, le_rfl, h⟩⟩

/-- Asking for the bytes of the largest growth is asking for the largest growth. -/
theorem UnderlyingRoom.largest_eq (room : UnderlyingRoom s target stack backing slack) :
    buildLvmUnderlyingGrowthCandidate s
        ⟨target, .byBytes (stack.maxExtents backing slack * stack.extent)⟩ =
      buildLvmUnderlyingGrowthCandidate s ⟨target, .maxFree⟩ := by
  have hsum := checkedAdd_eq_some_iff.mpr ⟨room.fits, rfl⟩
  have hextents : checkedAdd stack.freeExtents (additionalExtents stack backing slack) =
      some (stack.maxExtents backing slack) := by
    refine checkedAdd_eq_some_iff.mpr ⟨?_, rfl⟩
    exact Nat.lt_of_le_of_lt (Nat.le_mul_of_pos_right _ room.extent_pos) room.maxFits
  have hbytes := checkedMul_eq_some_iff.mpr ⟨room.maxFits, rfl⟩
  have hroute : analyzeLvmUnderlyingGrowth s
        ⟨target, .byBytes (stack.maxExtents backing slack * stack.extent)⟩ =
      analyzeLvmUnderlyingGrowth s ⟨target, .maxFree⟩ := by
    unfold additionalExtents at hextents
    unfold analyzeLvmUnderlyingGrowth
    simp only [room.found, room.slack_eq, room.backed, hsum, hextents, hbytes,
      Option.bind_eq_bind, Option.bind_some]
  unfold buildLvmUnderlyingGrowthCandidate
  rw [hroute]

end Requests

end StorageManager.Planner.Extend
