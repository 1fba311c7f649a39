import StorageManager.Planner.GrowthAgreement

/-!
# Where the growths of a volume agree

The largest growth of a volume is tried from below first and skips what the builder of free
extents checks. A growth by bytes meets those checks first and goes below only for a lack of
capacity. The two agree exactly where what may be grown from below is all of what is measured
there, or nothing.
-/

namespace StorageManager.Planner.Extend

open Core (BlockDevice HostCapabilities HostSnapshot LvmLogicalVolume LvmVolumeGroup Node)
open Lib.Checks
open Lib.Word64

set_option autoImplicit false

variable {s : HostSnapshot} {capabilities : HostCapabilities} {target : String}

section FreeExtents

/-- The extents of a group and its volume, as they are checked before any amount is. -/
structure CountedExtents (lv : LvmLogicalVolume) (vg : LvmVolumeGroup) (extent free : Nat) :
    Prop where
  size : vg.extentSizeBytes = some extent
  count : vg.freeExtentCount = some free
  valid : 512 ≤ extent ∧ isPowerOfTwo extent
  agree : checkedMul free extent = some vg.freeBytes ∧ vg.sizeBytes % extent = 0 ∧
    lv.sizeBytes % extent = 0

variable {device : BlockDevice} {lv : LvmLogicalVolume} {vg : LvmVolumeGroup} {extent free : Nat}

theorem CountedExtents.pos (counted : CountedExtents lv vg extent free) : 0 < extent := by
  have hextent := counted.valid.1
  omega

theorem VolumeGrowth.counted {growth : Growth} {extents : Nat} {size : SizeChange}
    (grown : VolumeGrowth device lv vg growth extents size) :
    ∃ free, CountedExtents lv vg size.extentSizeBytes free ∧ extents ≤ free := by
  obtain ⟨free, hcount, hword, hfree, henough⟩ := grown.freeExtents
  exact ⟨free, ⟨grown.extentSize, hcount, grown.extent,
    checkedMul_eq_some_iff.mpr ⟨hword, hfree⟩, grown.whole⟩, henough⟩

/-- As many extents as the group has free are granted, where the grown volume is a word. -/
theorem CountedExtents.enough (counted : CountedExtents lv vg extent free) (device : BlockDevice)
    {bytes : Nat} (hpositive : 0 < bytes) (henough : divCeil bytes extent ≤ free)
    (hfits : lv.sizeBytes + divCeil bytes extent * extent < limit) :
    ∃ grown, growVolume device lv vg (.byBytes bytes) = .ok grown := by
  have hrounded : divCeil bytes extent * extent < limit := by omega
  unfold growVolume
  refine exists_bind_ok_iff.mpr ⟨_, okOr_eq_ok_iff.mpr counted.size, ?_⟩
  refine exists_bind_ok_iff.mpr ⟨_, okOr_eq_ok_iff.mpr counted.count, ?_⟩
  refine exists_bind_ok_iff.mpr ⟨(), ensure_eq_ok_iff.mpr counted.valid, ?_⟩
  refine exists_bind_ok_iff.mpr ⟨(), ensure_eq_ok_iff.mpr counted.agree, ?_⟩
  refine exists_bind_ok_iff.mpr ⟨(), ensure_eq_ok_iff.mpr hpositive, ?_⟩
  refine exists_bind_ok_iff.mpr ⟨(), ensure_eq_ok_iff.mpr henough, ?_⟩
  refine exists_bind_ok_iff.mpr ⟨_, okOr_eq_ok_iff.mpr (checkedMul_eq_some_iff.mpr
    ⟨hrounded, rfl⟩), ?_⟩
  exact exists_bind_ok_iff.mpr ⟨_, okOr_eq_ok_iff.mpr (checkedAdd_eq_some_iff.mpr
    ⟨hfits, rfl⟩), _, rfl⟩

/-- More extents than the group has free are refused for their number. -/
theorem CountedExtents.lacking (counted : CountedExtents lv vg extent free)
    (device : BlockDevice) {bytes : Nat} (hlacking : free < divCeil bytes extent) :
    ∃ blocker, growVolume device lv vg (.byBytes bytes) = .error blocker ∧
      lacksCapacity blocker.code = true := by
  have hpositive : 0 < bytes := by
    refine Nat.pos_of_ne_zero fun hzero => ?_
    rw [hzero] at hlacking
    simp [divCeil] at hlacking
  have hsize : okOr vg.extentSizeBytes (blocked "extent-missing" "VG extent size is unknown") =
      .ok extent := okOr_eq_ok_iff.mpr counted.size
  have hcount : okOr vg.freeExtentCount
      (blocked "extent-missing" "free extent count is unknown") = .ok free :=
    okOr_eq_ok_iff.mpr counted.count
  unfold growVolume
  simp only [hsize, hcount, ensure_eq_ok_iff.mpr counted.valid,
    ensure_eq_ok_iff.mpr counted.agree, ensure_eq_ok_iff.mpr hpositive, bind, Except.bind]
  rw [ensure, refuse, if_pos (Nat.not_le.mpr hlacking)]
  exact ⟨_, rfl, by decide⟩

end FreeExtents

section Announcements

theorem lacksCapacity_iff {code : String} : lacksCapacity code = true ↔
    code = "insufficient-capacity" ∨ code = "no-growth" := by
  simp [lacksCapacity]

variable {request : ExtendRequest} {digest : String}

/-- What the builder of free extents announces, or below it the one that it falls back to. -/
theorem applyLvmOutcome_announcement {outcome : Except Blocker (SizeChange × List PlanStep)} :
    (applyLvmOutcome (emptyPlan request digest) s outcome).announcement =
      match outcome with
      | .ok candidate => some (announceVolume candidate)
      | .error blocker => if lacksCapacity blocker.code then
          (buildLvmUnderlyingGrowthCandidate s request).map announceUnderlying
        else none := by
  cases outcome with
  | ok candidate => rfl
  | error blocker =>
    dsimp only [applyLvmOutcome]
    rw [show (emptyPlan request digest).request = request from rfl]
    simp only [lacksCapacity_iff]
    split
    · cases buildLvmUnderlyingGrowthCandidate s request with
      | none => rfl
      | some candidate => rfl
    · rfl

variable [Fingerprint]

theorem byBytes_announcement {bytes : Nat}
    (h : (resolveExtendRouteAdapter s target).profile = .lvm) :
    (planExtend s capabilities ⟨target, .byBytes bytes⟩).announcement =
      match buildCandidate s capabilities ⟨target, .byBytes bytes⟩ with
      | .ok candidate => some (announceVolume candidate)
      | .error blocker => if lacksCapacity blocker.code then
          (buildLvmUnderlyingGrowthCandidate s ⟨target, .byBytes bytes⟩).map announceUnderlying
        else none := by
  obtain ⟨digest, hplan⟩ := planExtend_announcement s capabilities ⟨target, .byBytes bytes⟩
  rw [hplan, applyProfile,
    show (emptyPlan ⟨target, .byBytes bytes⟩ digest).request.target = target from rfl, h]
  exact applyLvmOutcome_announcement

/-- The largest growth comes from below where it can, and else from the free extents. -/
theorem largest_announcement
    (h : (resolveExtendRouteAdapter s target).profile = .lvm) :
    (planExtend s capabilities ⟨target, .maxFree⟩).announcement =
      ((buildLvmUnderlyingGrowthCandidate s ⟨target, .maxFree⟩).map announceUnderlying).or
        ((buildCandidate s capabilities ⟨target, .maxFree⟩).toOption.map announceVolume) := by
  obtain ⟨digest, hplan⟩ := planExtend_announcement s capabilities ⟨target, .maxFree⟩
  rw [hplan, applyProfile,
    show (emptyPlan ⟨target, .maxFree⟩ digest).request.target = target from rfl, h]
  dsimp only [applyLvm]
  rw [show (emptyPlan ⟨target, .maxFree⟩ digest).request = ⟨target, .maxFree⟩ from rfl]
  dsimp only
  cases hunder : buildLvmUnderlyingGrowthCandidate s ⟨target, .maxFree⟩ with
  | some candidate => rfl
  | none =>
    rw [Option.map_none, Option.getD_none, Option.map_none, Option.none_or,
      applyLvmOutcome_announcement, hunder]
    cases buildCandidate s capabilities ⟨target, .maxFree⟩ with
    | ok candidate => rfl
    | error blocker =>
      dsimp only
      rw [Option.map_none, ite_self]
      rfl

/-- A target on no known profile is never granted a growth. -/
theorem legacy_blocked {growth : Growth}
    (h : (resolveExtendRouteAdapter s target).profile = .legacyFailClosed) :
    (planExtend s capabilities ⟨target, growth⟩).announcement = none := by
  rw [← Option.not_isSome_iff_eq_none, PlanPreview.announcement_isSome]
  intro hstatus
  cases planExtend_chosen hstatus with
  | partition profile plan => cases h.symm.trans profile
  | freeExtents profile chosen plan => cases h.symm.trans profile
  | underlying profile chosen plan => cases h.symm.trans profile
  | whole profile plan => cases h.symm.trans profile

end Announcements

section Gates

variable {device : Node} {lv : LvmLogicalVolume} {vg : LvmVolumeGroup} {fs : Core.Filesystem}
  {extent free bytes : Nat}

/-- Of a volume that passes, the amount alone decides. -/
theorem buildCandidate_passed {growth : Growth}
    (hgates : volumeGates s capabilities target = .ok (device, lv, vg, fs)) :
    buildCandidate s capabilities ⟨target, growth⟩ =
      growVolume device.device lv vg growth >>= fun (extents, size) =>
        pure (size, freeExtentsSteps vg lv fs.fsType
          (resolveExtendRouteAdapter s target).mountpoint extents size.expectedLvSizeBytes) := by
  rw [buildCandidate_eq, hgates]
  rfl

theorem granted_of_enough [Fingerprint]
    (hprofile : (resolveExtendRouteAdapter s target).profile = .lvm)
    (hgates : volumeGates s capabilities target = .ok (device, lv, vg, fs))
    (counted : CountedExtents lv vg extent free) (hpositive : 0 < bytes)
    (henough : divCeil bytes extent ≤ free)
    (hfits : lv.sizeBytes + divCeil bytes extent * extent < limit) :
    (planExtend s capabilities ⟨target, .byBytes bytes⟩).status = .preview := by
  obtain ⟨grown, hgrown⟩ := counted.enough device.device hpositive henough hfits
  rw [← PlanPreview.announcement_isSome, byBytes_announcement hprofile,
    buildCandidate_passed hgates, hgrown]
  rfl

/-- Of a volume that passes, what its group lacks is asked from below. -/
theorem lacking_announcement [Fingerprint]
    (hprofile : (resolveExtendRouteAdapter s target).profile = .lvm)
    (hgates : volumeGates s capabilities target = .ok (device, lv, vg, fs))
    (counted : CountedExtents lv vg extent free) (hlacking : free < divCeil bytes extent) :
    (planExtend s capabilities ⟨target, .byBytes bytes⟩).announcement =
      (buildLvmUnderlyingGrowthCandidate s ⟨target, .byBytes bytes⟩).map announceUnderlying := by
  obtain ⟨blocker, hblocker, hlacks⟩ := counted.lacking device.device hlacking
  rw [byBytes_announcement hprofile, buildCandidate_passed hgates, hblocker]
  exact if_pos hlacks

/-- A volume that does not pass is granted no growth by bytes. -/
theorem passes_of_announced [Fingerprint] {announced : Announcement}
    (hprofile : (resolveExtendRouteAdapter s target).profile = .lvm)
    (h : (planExtend s capabilities ⟨target, .byBytes bytes⟩).announcement = some announced) :
    ∃ passed, volumeGates s capabilities target = .ok passed := by
  cases hgates : volumeGates s capabilities target with
  | ok passed => exact ⟨passed, rfl⟩
  | error blocker =>
    have hspared := spares_volumeGates blocker hgates
    have hblocked : buildCandidate s capabilities ⟨target, .byBytes bytes⟩ = .error blocker := by
      rw [buildCandidate_eq, hgates]
      rfl
    rw [byBytes_announcement hprofile, hblocked] at h
    dsimp only at h
    rw [hspared] at h
    cases h

end Gates

section Agreement

variable {stack : VolumeStack} {backing : Backing} {slack : Nat}

/-- Where a volume could gain one extent from below, it could gain all that were measured there,
and it passes what the builder of free extents checks. -/
def GrowthCoherent (s : HostSnapshot) (capabilities : HostCapabilities) (target : String) : Prop :=
  ∀ stack backing slack, UnderlyingRoom s target stack backing slack →
    Carries s stack backing slack (stack.freeExtents + 1) →
      Carries s stack backing slack (stack.maxExtents backing slack) ∧
        FreeExtentsChecks s capabilities stack

theorem StackFacts.counted (facts : StackFacts s target stack) :
    CountedExtents stack.lv stack.vg stack.extent stack.freeExtents := by
  obtain ⟨hextent, hpower, hagree⟩ := facts.extents
  exact ⟨facts.extentSize, facts.freeExtentCount, ⟨hextent, hpower⟩, hagree⟩

theorem UnderlyingRoom.more (room : UnderlyingRoom s target stack backing slack) :
    stack.freeExtents + 1 ≤ stack.maxExtents backing slack := by
  have hoffered := room.offered
  unfold VolumeStack.maxExtents
  omega

theorem underlyingRoom_of_built {growth : Growth} {candidate : GrowthRouteAlternative ×
      SizeChange × Option PartitionSizeChange × List PlanStep}
    (h : buildLvmUnderlyingGrowthCandidate s ⟨target, growth⟩ = some candidate) :
    ∃ stack backing slack, UnderlyingRoom s target stack backing slack := by
  obtain ⟨route, size, partitionSize, steps⟩ := candidate
  obtain ⟨plan⟩ := buildLvmUnderlyingGrowthCandidate_some h
  exact ⟨plan.stack, plan.backing, _, plan.facts.underlyingRoom plan.analyzed⟩

/-- The largest growth from below adds every extent that was measured. -/
theorem UnderlyingRoom.largest_bytes (room : UnderlyingRoom s target stack backing slack)
    {candidate : GrowthRouteAlternative × SizeChange × Option PartitionSizeChange × List PlanStep}
    (h : buildLvmUnderlyingGrowthCandidate s ⟨target, .maxFree⟩ = some candidate) :
    (announceUnderlying candidate).growthBytes = stack.maxExtents backing slack * stack.extent := by
  obtain ⟨route, size, partitionSize, steps⟩ := candidate
  obtain ⟨plan⟩ := buildLvmUnderlyingGrowthCandidate_some h
  obtain ⟨hstack, -, -, hrequested⟩ := room.same plan.facts
  show size.roundedGrowthBytes = _
  rw [congrArg SizeChange.roundedGrowthBytes plan.size_eq, hstack, hrequested, askedFromBelow]
  exact divCeil_mul ⟨_, Nat.mul_comm _ _⟩

/-- What the builder of free extents makes of the largest growth: it takes all of them. -/
structure LargestFree (s : HostSnapshot) (capabilities : HostCapabilities) (target : String)
    (candidate : SizeChange × List PlanStep) (lv : LvmLogicalVolume) (vg : LvmVolumeGroup)
    (extent free : Nat) : Prop where
  passed : ∃ device fs, volumeGates s capabilities target = .ok (device, lv, vg, fs)
  counted : CountedExtents lv vg extent free
  bytes : (announceVolume candidate).growthBytes = free * extent
  fits : lv.sizeBytes + free * extent < limit
  same : buildCandidate s capabilities ⟨target, .byBytes (free * extent)⟩ = .ok candidate

theorem buildCandidate_largest {candidate : SizeChange × List PlanStep}
    (h : buildCandidate s capabilities ⟨target, .maxFree⟩ = .ok candidate) :
    ∃ lv vg extent free, LargestFree s capabilities target candidate lv vg extent free := by
  have hbuilt := h
  rw [buildCandidate_eq] at hbuilt
  obtain ⟨⟨device, lv, vg, fs⟩, hgates, hbuilt⟩ := bind_eq_ok_iff.mp hbuilt
  obtain ⟨⟨extents, size⟩, hgrown, hresult⟩ := bind_eq_ok_iff.mp hbuilt
  have grown := growVolume_ok hgrown
  obtain ⟨free, counted, -⟩ := grown.counted
  have hfree := (checkedMul_eq_some_iff.mp counted.agree.1).2
  have hrequested : size.requestedGrowthBytes = free * size.extentSizeBytes :=
    grown.requested.trans hfree.symm
  have hextents : extents = free := by
    rw [grown.extents_eq, hrequested, divCeil_mul_of_pos _ counted.pos]
  have hfits := grown.fits
  rw [hextents] at hfits
  refine ⟨lv, vg, size.extentSizeBytes, free, ⟨device, fs, hgates⟩, counted, ?_, hfits, ?_⟩
  · rw [← Except.ok.inj hresult]
    show size.roundedGrowthBytes = _
    rw [congrArg SizeChange.roundedGrowthBytes grown.size_eq, hextents]
  · rw [← h, buildCandidate_passed hgates, buildCandidate_passed hgates, hfree]
    rfl

variable [Fingerprint] {largest : Announcement}

/-- Where the volume passes, a largest growth from below agrees with the growths by bytes. -/
theorem UnderlyingRoom.agrees (room : UnderlyingRoom s target stack backing slack)
    (hprofile : (resolveExtendRouteAdapter s target).profile = .lvm)
    (carries : Carries s stack backing slack (stack.maxExtents backing slack))
    (checks : FreeExtentsChecks s capabilities stack)
    (hsame : (buildLvmUnderlyingGrowthCandidate s ⟨target, .maxFree⟩).map announceUnderlying =
      some largest)
    (hbytes : largest.growthBytes = stack.maxExtents backing slack * stack.extent) :
    GrowthAgrees (fun growth => planExtend s capabilities ⟨target, growth⟩) largest := by
  have hpassed := room.passes checks
  have counted := room.facts.counted
  have hextent := room.extent_pos
  have hmore := room.more
  have hlvFits := carries.lvFits
  refine ⟨?_, fun bytes hpositive hless => ?_, fun bytes hmuch _ => ?_⟩
  · have hlacking : stack.freeExtents < divCeil largest.growthBytes stack.extent := by
      rw [hbytes, divCeil_mul_of_pos _ hextent]
      omega
    rw [lacking_announcement hprofile hpassed counted hlacking, hbytes, room.largest_eq, hsame]
  · have henough : divCeil bytes stack.extent ≤ stack.maxExtents backing slack := by
      rw [divCeil_le_iff hextent, ← hbytes]
      exact hless.le
    by_cases hfree : divCeil bytes stack.extent ≤ stack.freeExtents
    · have hrounded := Nat.mul_le_mul_right stack.extent henough
      exact granted_of_enough hprofile hpassed counted hpositive hfree (by omega)
    · have hlacking : stack.freeExtents < divCeil bytes stack.extent := by omega
      obtain ⟨candidate, hcandidate⟩ := (room.built_iff (.byBytes bytes) rfl).mpr
        ⟨hlacking, henough, room.fewer henough le_rfl carries⟩
      rw [← PlanPreview.announcement_isSome, lacking_announcement hprofile hpassed counted hlacking,
        hcandidate]
      rfl
  · have htoo : stack.maxExtents backing slack < divCeil bytes stack.extent := by
      rw [← Nat.not_le, divCeil_le_iff hextent, ← hbytes]
      exact Nat.not_le.mpr hmuch
    have hlacking : stack.freeExtents < divCeil bytes stack.extent := by omega
    rw [Ne, ← PlanPreview.announcement_isSome, lacking_announcement hprofile hpassed counted hlacking,
      Option.isSome_map, Option.isSome_iff_exists, room.built_iff _ rfl]
    intro hbuilt
    have henough : divCeil bytes stack.extent ≤ stack.maxExtents backing slack := hbuilt.2.1
    omega

/-- Where nothing may be grown from below, a largest growth into the free extents agrees with the
growths by bytes. -/
theorem LargestFree.agrees {candidate : SizeChange × List PlanStep} {lv : LvmLogicalVolume}
    {vg : LvmVolumeGroup} {extent free : Nat}
    (all : LargestFree s capabilities target candidate lv vg extent free)
    (hprofile : (resolveExtendRouteAdapter s target).profile = .lvm)
    (hbelow : ∀ bytes, free < divCeil bytes extent →
      buildLvmUnderlyingGrowthCandidate s ⟨target, .byBytes bytes⟩ = none) :
    GrowthAgrees (fun growth => planExtend s capabilities ⟨target, growth⟩)
      (announceVolume candidate) := by
  obtain ⟨device, fs, hpassed⟩ := all.passed
  have hpos := all.counted.pos
  have hfits := all.fits
  refine ⟨?_, fun bytes hpositive hless => ?_, fun bytes hmuch _ => ?_⟩
  · rw [all.bytes, byBytes_announcement hprofile, all.same]
  · have henough : divCeil bytes extent ≤ free := by
      rw [divCeil_le_iff hpos, ← all.bytes]
      exact hless.le
    have hrounded := Nat.mul_le_mul_right extent henough
    exact granted_of_enough hprofile hpassed all.counted hpositive henough (by omega)
  · have hlacking : free < divCeil bytes extent := by
      rw [← Nat.not_le, divCeil_le_iff hpos, ← all.bytes]
      exact Nat.not_le.mpr hmuch
    rw [Ne, ← PlanPreview.announcement_isSome,
      lacking_announcement hprofile hpassed all.counted hlacking, hbelow bytes hlacking]
    simp

/-- A largest growth into the free extents does not agree where one extent more may be had from
below: that growth by bytes is granted. -/
theorem UnderlyingRoom.disagrees (room : UnderlyingRoom s target stack backing slack)
    (hprofile : (resolveExtendRouteAdapter s target).profile = .lvm)
    (carries : Carries s stack backing slack (stack.freeExtents + 1))
    {candidate : SizeChange × List PlanStep}
    (hcandidate : buildCandidate s capabilities ⟨target, .maxFree⟩ = .ok candidate) :
    ¬GrowthAgrees (fun growth => planExtend s capabilities ⟨target, growth⟩)
      (announceVolume candidate) := by
  intro agrees
  obtain ⟨lv, vg, extent, free, all⟩ := buildCandidate_largest hcandidate
  obtain ⟨device, fs, hpassed⟩ := all.passed
  obtain ⟨rfl, rfl, rfl, rfl, checks⟩ := room.checks hpassed
  have counted := room.facts.counted
  obtain rfl : extent = stack.extent :=
    Option.some.inj (all.counted.size.symm.trans counted.size)
  obtain rfl : free = stack.freeExtents :=
    Option.some.inj (all.counted.count.symm.trans counted.count)
  have hone := divCeil_mul_add_one stack.freeExtents room.extent_pos
  have hlacking : stack.freeExtents <
      divCeil (stack.freeExtents * stack.extent + 1) stack.extent := by
    omega
  obtain ⟨below, hbelow⟩ := (room.built_iff
    (.byBytes (stack.freeExtents * stack.extent + 1)) rfl).mpr
      ⟨hlacking, hone.trans_le room.more, hone.symm ▸ carries⟩
  have hfits := all.fits
  have hpositive := checks.sizes.2.1
  have hbytes := all.bytes
  refine agrees.more (stack.freeExtents * stack.extent + 1) (by omega) (by omega) ?_
  rw [← PlanPreview.announcement_isSome, lacking_announcement hprofile hpassed counted hlacking,
    hbelow]
  rfl

/-- The plans of a volume agree exactly where what may be grown from below is coherent. -/
theorem volume_agrees_iff (hprofile : (resolveExtendRouteAdapter s target).profile = .lvm)
    (h : (planExtend s capabilities ⟨target, .maxFree⟩).announcement = some largest) :
    GrowthAgrees (fun growth => planExtend s capabilities ⟨target, growth⟩) largest ↔
      GrowthCoherent s capabilities target := by
  rw [largest_announcement hprofile] at h
  cases hbelow : buildLvmUnderlyingGrowthCandidate s ⟨target, .maxFree⟩ with
  | some candidate =>
    rw [hbelow, Option.map_some, Option.some_or] at h
    obtain ⟨stack, backing, slack, room⟩ := underlyingRoom_of_built hbelow
    have carries := room.largest_iff.mp ⟨_, hbelow⟩
    have hbytes := room.largest_bytes hbelow
    rw [Option.some.inj h] at hbytes
    constructor
    · intro agrees stack' backing' slack' room' _
      obtain ⟨⟨device, lv, vg, fs⟩, hpassed⟩ := passes_of_announced hprofile agrees.same
      exact ⟨room'.largest_iff.mp ⟨_, hbelow⟩, (room'.checks hpassed).2.2.2.2⟩
    · intro coherent
      obtain ⟨-, checks⟩ := coherent _ _ _ room (room.fewer room.more le_rfl carries)
      refine room.agrees hprofile carries checks ?_ hbytes
      rw [hbelow]
      exact h
  | none =>
    rw [hbelow, Option.map_none, Option.none_or, Option.map_eq_some_iff] at h
    obtain ⟨candidate, hcandidate, rfl⟩ := h
    rw [toOption_eq_some_iff] at hcandidate
    have hnone : ∀ {stack backing slack}, UnderlyingRoom s target stack backing slack →
        ¬Carries s stack backing slack (stack.maxExtents backing slack) := by
      intro stack backing slack room carries
      obtain ⟨found, hfound⟩ := room.largest_iff.mpr carries
      rw [hbelow] at hfound
      cases hfound
    constructor
    · intro agrees stack backing slack room carries
      exact absurd agrees (room.disagrees hprofile carries hcandidate)
    · intro coherent
      obtain ⟨lv, vg, extent, free, all⟩ := buildCandidate_largest hcandidate
      refine all.agrees hprofile fun bytes hlacking => ?_
      by_contra hsome
      obtain ⟨found, hfound⟩ := Option.ne_none_iff_exists'.mp hsome
      obtain ⟨stack, backing, slack, room⟩ := underlyingRoom_of_built hfound
      obtain ⟨hmore, henough, carries⟩ := (room.built_iff _ rfl).mp ⟨_, hfound⟩
      exact hnone room (coherent _ _ _ room (room.fewer hmore henough carries)).1

/-- The largest growth of a target agrees with its growths by bytes exactly where what may be
grown from below is coherent; partitions and whole filesystems have nothing below. -/
theorem planExtend_agrees_iff
    (h : (planExtend s capabilities ⟨target, .maxFree⟩).announcement = some largest) :
    GrowthAgrees (fun growth => planExtend s capabilities ⟨target, growth⟩) largest ↔
      GrowthCoherent s capabilities target := by
  have hother : (resolveExtendRouteAdapter s target).profile ≠ .lvm →
      GrowthCoherent s capabilities target := by
    intro hprofile stack backing slack room
    exact absurd room.facts.profile hprofile
  cases hprofile : (resolveExtendRouteAdapter s target).profile with
  | directPartition =>
    exact iff_of_true (direct_agrees hprofile h) (hother (by rw [hprofile]; decide))
  | lvm => exact volume_agrees_iff hprofile h
  | wholeBlockFilesystem =>
    exact iff_of_true (whole_agrees hprofile h) (hother (by rw [hprofile]; decide))
  | legacyFailClosed =>
    rw [legacy_blocked hprofile] at h
    cases h

end Agreement

section Samples

theorem planExtend_agrees_on_volume :
    ∃ largest, (planExtend volumeSnapshot volumeCapabilities ⟨"/data", .maxFree⟩).announcement =
        some largest ∧
      (GrowthAgrees (fun growth => planExtend volumeSnapshot volumeCapabilities ⟨"/data", growth⟩)
        largest ↔ GrowthCoherent volumeSnapshot volumeCapabilities "/data") := by
  have hsome : (planExtend volumeSnapshot volumeCapabilities
      ⟨"/data", .maxFree⟩).announcement.isSome = true := by decide +kernel
  obtain ⟨largest, hlargest⟩ := Option.isSome_iff_exists.mp hsome
  exact ⟨largest, hlargest, planExtend_agrees_iff hlargest⟩

/-- On a host that reports no tool the largest growth of a volume is granted, 20 MiB from below;
a request for the same 20 MiB is refused. -/
theorem planExtend_disagrees :
    ∃ largest, (planExtend volumeSnapshot ⟨[]⟩ ⟨"/data", .maxFree⟩).announcement = some largest ∧
      largest.growthBytes = 20971520 ∧
      (planExtend volumeSnapshot ⟨[]⟩ ⟨"/data", .byBytes 20971520⟩).status = .blocked ∧
      ¬GrowthAgrees (fun growth => planExtend volumeSnapshot ⟨[]⟩ ⟨"/data", growth⟩) largest := by
  have hmap : (planExtend volumeSnapshot ⟨[]⟩ ⟨"/data", .maxFree⟩).announcement.map
      (·.growthBytes) = some 20971520 := by decide +kernel
  have hblocked : (planExtend volumeSnapshot ⟨[]⟩ ⟨"/data", .byBytes 20971520⟩).status =
      .blocked := by decide +kernel
  obtain ⟨largest, hlargest, hbytes⟩ := Option.map_eq_some_iff.mp hmap
  refine ⟨largest, hlargest, hbytes, hblocked, fun agrees => ?_⟩
  have hsame := agrees.same
  rw [hbytes] at hsame
  have hpreview := PlanPreview.announcement_isSome.mp (Option.isSome_of_eq_some hsame)
  rw [hblocked] at hpreview
  cases hpreview

/-- A volume with one free extent, on a partition of no known type that it does not fill. -/
def untypedSnapshot : HostSnapshot :=
  { volumeSnapshot with
    partitionTables :=
      [{ device := "/dev/sda", label := some "gpt", id := some "t1", unit := some "sectors",
         firstLba := some 34, lastLba := some 65502, sectorSizeBytes := some 512,
         partitions := [⟨"/dev/sda1", 2048, 20480, none, some "p1", none, none, none⟩] }]
    lvm := some
      { physicalVolumes := [⟨"/dev/sda1", some "pv1", some "vg", 9699328, 262144, some 65536⟩]
        volumeGroups := [⟨"vg", some "vg1", 9699328, 262144, 1, 1, some 262144, some 1, some 0,
          some "wz--n-"⟩]
        logicalVolumes := [⟨"data", some "/dev/vg/data", some "lv1", "vg", 9437184,
          some "-wi-ao----", some "linear", some "public"⟩] } }

/-- The largest growth is the one free extent, for the partition may not grow as far as it has
room; one byte more is granted, from the room that the physical volume has on its partition. -/
theorem planExtend_grants_more :
    (planExtend untypedSnapshot volumeCapabilities ⟨"/data", .maxFree⟩).announcement.map
        (·.growthBytes) = some 262144 ∧
      (planExtend untypedSnapshot volumeCapabilities ⟨"/data", .byBytes 262145⟩).status =
        .preview := by
  decide +kernel

end Samples

end StorageManager.Planner.Extend
