import StorageManager.Planner.VolumeGates

/-!
# The largest growth and the growth by bytes

A request for the largest growth and one for its bytes go different ways through the planner:
a volume that may grow from below is tried below first, or only when its group has too little.
-/

namespace StorageManager.Planner.Extend

open Core (BlockDevice HostCapabilities HostSnapshot LvmLogicalVolume LvmVolumeGroup)
open Lib.Checks
open Lib.Word64

set_option autoImplicit false

variable {s : HostSnapshot} {capabilities : HostCapabilities} {target : String}

section Announcements

/-- What a preview announces: the changes of size, and the steps. -/
structure Announcement where
  sizeChange : Option SizeChange
  partitionSizeChange : Option PartitionSizeChange
  filesystemSizeChange : Option FilesystemSizeChange
  steps : List PlanStep
  deriving DecidableEq

/-- A blocked plan announces nothing. -/
def PlanPreview.announcement (plan : PlanPreview) : Option Announcement :=
  if plan.status = .preview then
    some ⟨plan.sizeChange, plan.partitionSizeChange, plan.filesystemSizeChange, plan.steps⟩
  else none

/-- The bytes the target gains: a volume's, a whole filesystem's, or a partition's. -/
def Announcement.growthBytes (announced : Announcement) : Nat :=
  match announced.sizeChange, announced.filesystemSizeChange, announced.partitionSizeChange with
  | some size, _, _ => size.roundedGrowthBytes
  | none, some size, _ => size.roundedGrowthBytes
  | none, none, some size => size.roundedGrowthBytes
  | none, none, none => 0

/-- The plans for growths by bytes agree with the plan for the largest growth: its own bytes give
what it announces, fewer are granted and more are not. -/
structure GrowthAgrees (plan : Growth → PlanPreview) (largest : Announcement) : Prop where
  same : (plan (.byBytes largest.growthBytes)).announcement = some largest
  fewer : ∀ bytes, 0 < bytes → bytes < largest.growthBytes →
    (plan (.byBytes bytes)).status = .preview
  more : ∀ bytes, largest.growthBytes < bytes → bytes < limit →
    (plan (.byBytes bytes)).status ≠ .preview

theorem PlanPreview.announcement_isSome {plan : PlanPreview} :
    plan.announcement.isSome ↔ plan.status = .preview := by
  unfold PlanPreview.announcement
  split <;> simp_all

def announcePartition (candidate : PartitionSizeChange × List PlanStep) : Announcement :=
  ⟨none, some candidate.1, none, candidate.2⟩

def announceVolume (candidate : SizeChange × List PlanStep) : Announcement :=
  ⟨some candidate.1, none, none, candidate.2⟩

def announceUnderlying (candidate : GrowthRouteAlternative × SizeChange ×
    Option PartitionSizeChange × List PlanStep) : Announcement :=
  ⟨some candidate.2.1, candidate.2.2.1, none, candidate.2.2.2⟩

def announceWhole (candidate : FilesystemSizeChange × List PlanStep) : Announcement :=
  ⟨none, none, some candidate.1, candidate.2⟩

variable {request : ExtendRequest} {digest : String}

theorem withEvidence_announcement (plan : PlanPreview) :
    (withEvidence plan s).announcement = plan.announcement := by
  unfold withEvidence
  split <;> rfl

theorem planExtend_announcement [Fingerprint] (s : HostSnapshot) (capabilities : HostCapabilities)
    (request : ExtendRequest) : ∃ digest, (planExtend s capabilities request).announcement =
      (applyProfile (emptyPlan request digest) s capabilities).announcement :=
  ⟨_, withEvidence_announcement _⟩

variable {β : Type} {plan : Growth → PlanPreview} {largest : Announcement}

/-- Plans agree where what they announce is made from amounts that agree. -/
theorem GrowthAgrees.of_map (grow : Growth → Option β) (announce : β → Announcement)
    (result : β) (hplan : ∀ growth, (plan growth).announcement = (grow growth).map announce)
    (hlargest : announce result = largest)
    (hsame : grow (.byBytes largest.growthBytes) = some result)
    (hfewer : ∀ bytes, 0 < bytes → bytes < largest.growthBytes → (grow (.byBytes bytes)).isSome)
    (hmore : ∀ bytes, largest.growthBytes < bytes → grow (.byBytes bytes) = none) :
    GrowthAgrees plan largest := by
  refine ⟨?_, fun bytes hpositive hless => ?_, fun bytes hmuch _ => ?_⟩
  · rw [hplan, hsame, Option.map_some, hlargest]
  · rw [← PlanPreview.announcement_isSome, hplan, Option.isSome_map]
    exact hfewer bytes hpositive hless
  · rw [Ne, ← PlanPreview.announcement_isSome, hplan, hmore bytes hmuch]
    simp

end Announcements

section Partition

/-- A partition past every check of its builder but those of the amount. -/
def partitionGates (s : HostSnapshot) (capabilities : HostCapabilities) (target : String) :
    Except Blocker (Core.Filesystem × String × Placed) := do
  ensure (¬invalidTarget target) "invalid-target"
    "target must be a nonempty device path or exact mountpoint"
  let (device, fs, mountpoint) ←
    partitionTarget s capabilities (resolveExtendRouteAdapter s target)
  let placed ← placePartition s device
  pure (fs, mountpoint, placed)

/-- The change and the steps of a grown partition. -/
def partitionPlan (fs : Core.Filesystem) (mountpoint : String) (placed : Placed)
    (grown : Nat × PartitionSizeChange) : Except Blocker (PartitionSizeChange × List PlanStep) := do
  let label ← okOr placed.table.label
    (blocked "partition-label-missing" "partition table label is unknown")
  pure (grown.2, partitionSteps placed label grown.1 fs.fsType mountpoint)

theorem tryBuildPartitionCandidate_eq {growth : Growth}
    (h : (resolveExtendRouteAdapter s target).profile = .directPartition) :
    tryBuildPartitionCandidate s capabilities ⟨target, growth⟩ =
      partitionGates s capabilities target >>= fun (fs, mountpoint, placed) =>
        growPartition placed growth >>= fun grown =>
          partitionPlan fs mountpoint placed grown >>= fun candidate => pure (some candidate) := by
  unfold tryBuildPartitionCandidate partitionGates partitionPlan
  simp only [h, ne_eq, not_true_eq_false, if_false, bind_assoc, pure_bind]

variable [Fingerprint]

/-- A direct partition announces what its builder makes of the amount. -/
theorem direct_announcement {growth : Growth}
    (h : (resolveExtendRouteAdapter s target).profile = .directPartition) :
    (planExtend s capabilities ⟨target, growth⟩).announcement =
      (partitionGates s capabilities target >>= fun (fs, mountpoint, placed) =>
        growPartition placed growth >>= fun grown =>
          partitionPlan fs mountpoint placed grown).toOption.map announcePartition := by
  obtain ⟨digest, hplan⟩ := planExtend_announcement s capabilities ⟨target, growth⟩
  rw [hplan, applyProfile, show (emptyPlan ⟨target, growth⟩ digest).request.target = target from rfl,
    h]
  dsimp only [applyPartitionOrLvm]
  rw [show (emptyPlan ⟨target, growth⟩ digest).request = ⟨target, growth⟩ from rfl,
    tryBuildPartitionCandidate_eq h]
  cases partitionGates s capabilities target with
  | error blocker => rfl
  | ok gates =>
    obtain ⟨fs, mountpoint, placed⟩ := gates
    dsimp only [bind, Except.bind]
    cases growPartition placed growth with
    | error blocker => rfl
    | ok grown =>
      dsimp only
      cases partitionPlan fs mountpoint placed grown with
      | error blocker => rfl
      | ok candidate => rfl

omit [Fingerprint]

variable {placed : Placed} {grown : Nat × PartitionSizeChange}

/-- The largest growth of a partition takes all the sectors that are free behind it. -/
theorem growPartition_rounded (h : growPartition placed .maxFree = .ok grown) :
    ∃ adjacentSectors,
      adjacentFreeSectors placed.disk placed.table placed.record = .ok adjacentSectors ∧
      adjacentSectors * placed.sector < limit ∧
      grown.2.roundedGrowthBytes = adjacentSectors * placed.sector := by
  obtain ⟨newSizeSectors, size⟩ := grown
  have growth := growPartition_ok h
  obtain ⟨adjacentSectors, hadjacent, hbounded, -, hrequested⟩ := growth.adjacent
  refine ⟨adjacentSectors, hadjacent, hbounded, ?_⟩
  rw [congrArg PartitionSizeChange.roundedGrowthBytes growth.size, hrequested]
  exact divCeil_mul ⟨_, Nat.mul_comm _ _⟩

theorem growPartition_largest (h : growPartition placed .maxFree = .ok grown) :
    growPartition placed (.byBytes grown.2.roundedGrowthBytes) = .ok grown := by
  obtain ⟨adjacentSectors, hadjacent, hbounded, hrounded⟩ := growPartition_rounded h
  have hbytes := checkedMul_eq_some_iff.mpr ⟨hbounded, rfl⟩
  rw [← h]
  unfold growPartition
  simp only [hadjacent, hbytes, hrounded, okOr, Option.elim, bind, Except.bind]

theorem growPartition_fewer (hsector : 0 < placed.sector)
    (h : growPartition placed .maxFree = .ok grown) {bytes : Nat} (hpositive : 0 < bytes)
    (hless : bytes < grown.2.roundedGrowthBytes) :
    ∃ smaller, growPartition placed (.byBytes bytes) = .ok smaller := by
  obtain ⟨adjacentSectors, hadjacent, hbounded, hrounded⟩ := growPartition_rounded h
  have growth := growPartition_ok h
  have hsectors : divCeil bytes placed.sector ≤ adjacentSectors := by
    rw [divCeil_le_iff hsector, ← hrounded]
    exact hless.le
  have hgrown : grown.1 = placed.record.sizeSectors + adjacentSectors := by
    have hall := congrArg PartitionSizeChange.roundedGrowthBytes growth.size
    rw [hrounded] at hall
    rw [growth.grown, Nat.eq_of_mul_eq_mul_right hsector hall]
  have hfits := growth.fits
  rw [hgrown] at hfits
  -- what fewer sectors need is below what all of them need
  have hfewer : (placed.record.sizeSectors + divCeil bytes placed.sector) * placed.sector < limit :=
    Nat.lt_of_le_of_lt (Nat.mul_le_mul_right _ (Nat.add_le_add_left hsectors _)) hfits
  have hrounded' : divCeil bytes placed.sector * placed.sector < limit :=
    Nat.lt_of_le_of_lt (Nat.mul_le_mul_right _ hsectors) hbounded
  have hsum : placed.record.sizeSectors + divCeil bytes placed.sector < limit :=
    Nat.lt_of_le_of_lt (Nat.le_mul_of_pos_right _ hsector) hfewer
  unfold growPartition
  refine exists_bind_ok_iff.mpr ⟨_, hadjacent, ?_⟩
  refine exists_bind_ok_iff.mpr ⟨_, okOr_eq_ok_iff.mpr (checkedMul_eq_some_iff.mpr
    ⟨hbounded, rfl⟩), ?_⟩
  refine exists_bind_ok_iff.mpr ⟨(), ensure_eq_ok_iff.mpr hpositive, ?_⟩
  refine exists_bind_ok_iff.mpr ⟨(), ensure_eq_ok_iff.mpr hsectors, ?_⟩
  refine exists_bind_ok_iff.mpr ⟨_, okOr_eq_ok_iff.mpr (checkedMul_eq_some_iff.mpr
    ⟨hrounded', rfl⟩), ?_⟩
  refine exists_bind_ok_iff.mpr ⟨_, okOr_eq_ok_iff.mpr (checkedAdd_eq_some_iff.mpr
    ⟨hsum, rfl⟩), ?_⟩
  exact exists_bind_ok_iff.mpr ⟨_, okOr_eq_ok_iff.mpr (checkedMul_eq_some_iff.mpr
    ⟨hfewer, rfl⟩), _, rfl⟩

theorem growPartition_more (hsector : 0 < placed.sector)
    (h : growPartition placed .maxFree = .ok grown) {bytes : Nat}
    (hmuch : grown.2.roundedGrowthBytes < bytes) {larger : Nat × PartitionSizeChange} :
    growPartition placed (.byBytes bytes) ≠ .ok larger := by
  obtain ⟨adjacentSectors, hadjacent, -, hrounded⟩ := growPartition_rounded h
  intro hlarger
  have growth := growPartition_ok hlarger
  obtain ⟨found, hfound, -, henough, hasked⟩ := growth.adjacent
  obtain rfl : adjacentSectors = found := Except.ok.inj (hadjacent.symm.trans hfound)
  have hasked : larger.2.requestedGrowthBytes = bytes := hasked
  rw [growth.grown, Nat.add_sub_cancel_left, hasked, divCeil_le_iff hsector, ← hrounded] at henough
  omega

theorem partitionGates_sector {fs : Core.Filesystem} {mountpoint : String}
    (h : partitionGates s capabilities target = .ok (fs, mountpoint, placed)) :
    0 < placed.sector := by
  unfold partitionGates at h
  simp only [bind_eq_ok_iff, exists_check_iff] at h
  obtain ⟨-, ⟨device, fs', mountpoint'⟩, -, placed', hplaced, hresult⟩ := h
  cases hresult
  have hsector := (placePartition_ok hplaced).sectorFits.1
  omega

/-- The plans of a direct partition always agree. -/
theorem direct_agrees [Fingerprint] {largest : Announcement}
    (hprofile : (resolveExtendRouteAdapter s target).profile = .directPartition)
    (h : (planExtend s capabilities ⟨target, .maxFree⟩).announcement = some largest) :
    GrowthAgrees (fun growth => planExtend s capabilities ⟨target, growth⟩) largest := by
  rw [direct_announcement hprofile, Option.map_eq_some_iff] at h
  obtain ⟨candidate, hcandidate, hlargest⟩ := h
  simp only [toOption_eq_some_iff, bind_eq_ok_iff] at hcandidate
  obtain ⟨⟨fs, mountpoint, placed⟩, hgates, grown, hgrown, hplan⟩ := hcandidate
  have hsector := partitionGates_sector hgates
  have hlabelled := hplan
  unfold partitionPlan at hlabelled
  obtain ⟨label, hlabel, hresult⟩ := bind_eq_ok_iff.mp hlabelled
  have hplanned : ∀ grown, partitionPlan fs mountpoint placed grown =
      .ok (grown.2, partitionSteps placed label grown.1 fs.fsType mountpoint) := by
    intro grown
    unfold partitionPlan
    rw [hlabel]
    rfl
  have hbytes : largest.growthBytes = grown.2.roundedGrowthBytes := by
    rw [← hlargest, ← Except.ok.inj hresult]
    rfl
  refine .of_map (fun growth => (growPartition placed growth).toOption)
    (fun grown => announcePartition
      (grown.2, partitionSteps placed label grown.1 fs.fsType mountpoint)) grown
    (fun growth => ?_) ?_ ?_ (fun bytes hpositive hless => ?_)
    (fun bytes hmuch => ?_)
  · rw [direct_announcement hprofile, hgates]
    dsimp only [bind, Except.bind]
    cases growPartition placed growth with
    | error blocker => rfl
    | ok grown =>
      dsimp only
      rw [hplanned]
      rfl
  · rw [← hlargest, ← Except.ok.inj hresult]
  · rw [hbytes, toOption_eq_some_iff]
    exact growPartition_largest hgrown
  · rw [hbytes] at hless
    obtain ⟨smaller, hsmaller⟩ := growPartition_fewer hsector hgrown hpositive hless
    rw [hsmaller]
    rfl
  · rw [hbytes] at hmuch
    cases hlarger : growPartition placed (.byBytes bytes) with
    | error blocker => rfl
    | ok larger => exact absurd hlarger (growPartition_more hsector hgrown hmuch)

end Partition

section WholeFilesystem

/-- A filesystem on a whole device past every check of its builder but those of the amount. -/
def wholeGates (s : HostSnapshot) (capabilities : HostCapabilities) (target : String) :
    Except Blocker (String × BlockDevice × Core.Filesystem × Core.MountEntry × Nat × Nat) := do
  collectorsComplete s ["lsblk", "mounts", "fstab", "swap"]
    "all whole-device filesystem preview collectors must complete"
  ensure (¬hasErrorDiagnostic s) "diagnostic-error"
    "the snapshot contains error-level diagnostics"
  let (devicePath, device, fs, mount) ←
    wholeTarget s capabilities (resolveExtendRouteAdapter s target)
  let evidence ← unique (s.filesystemPreflight.filter fun evidence =>
      evidence.device = devicePath && evidence.mountpoint = some mount.target &&
        evidence.fsType = fs.fsType) "filesystem-size-evidence-missing"
  let (blockSize, filesystemSize) ← measuredGeometry evidence device.sizeBytes
  pure (devicePath, device, fs, mount, blockSize, filesystemSize)

/-- The change and the steps of a grown filesystem. -/
def wholePlan (devicePath : String) (device : BlockDevice) (fs : Core.Filesystem)
    (mount : Core.MountEntry) (blockSize filesystemSize : Nat) (grown : Nat × Nat × Nat) :
    FilesystemSizeChange × List PlanStep :=
  ({ device := devicePath
     mountpoint := mount.target
     fsType := fs.fsType
     currentFilesystemSizeBytes := filesystemSize
     backingDeviceSizeBytes := device.sizeBytes
     requestedGrowthBytes := grown.1
     roundedGrowthBytes := grown.2.1
     expectedFilesystemSizeBytes := grown.2.2
     filesystemBlockSizeBytes := blockSize
     remainingBackingFreeBytes := device.sizeBytes - grown.2.2 },
    [step 1 .revalidateSnapshot .notApplicable,
      step 2 (.growFilesystem fs.fsType (some mount.target)) .irreversible,
      step 3 .rediscoverAndVerify .notApplicable])

theorem buildWholeFilesystemCandidate_eq {growth : Growth} :
    buildWholeFilesystemCandidate s capabilities ⟨target, growth⟩ =
      wholeGates s capabilities target >>=
        fun (devicePath, device, fs, mount, blockSize, filesystemSize) =>
          growWithin blockSize filesystemSize device.sizeBytes growth >>= fun grown =>
            pure (wholePlan devicePath device fs mount blockSize filesystemSize grown) := by
  unfold buildWholeFilesystemCandidate wholeGates wholePlan
  simp only [bind_assoc, pure_bind]

theorem whole_announcement [Fingerprint] {growth : Growth}
    (h : (resolveExtendRouteAdapter s target).profile = .wholeBlockFilesystem) :
    (planExtend s capabilities ⟨target, growth⟩).announcement =
      (buildWholeFilesystemCandidate s capabilities ⟨target, growth⟩).toOption.map
        announceWhole := by
  obtain ⟨digest, hplan⟩ := planExtend_announcement s capabilities ⟨target, growth⟩
  rw [hplan, applyProfile, show (emptyPlan ⟨target, growth⟩ digest).request.target = target from rfl,
    h]
  dsimp only
  rw [show (emptyPlan ⟨target, growth⟩ digest).request = ⟨target, growth⟩ from rfl]
  cases buildWholeFilesystemCandidate s capabilities ⟨target, growth⟩ with
  | error blocker => rfl
  | ok candidate => rfl

variable {blockSize filesystemSize deviceSize : Nat} {grown : Nat × Nat × Nat}

/-- The largest growth of a filesystem takes all the blocks of its device, counted in words. -/
theorem growWithin_words (h : growWithin blockSize filesystemSize deviceSize .maxFree = .ok grown) :
    grown.2.1 = (deviceSize - filesystemSize) / blockSize * blockSize ∧
      grown.2.1 < limit ∧ filesystemSize + grown.2.1 < limit := by
  unfold growWithin at h
  simp only [bind_eq_ok_iff, exists_check_iff, ensure_eq_ok_iff, okOr_eq_ok_iff,
    checkedMul_eq_some_iff, checkedAdd_eq_some_iff] at h
  obtain ⟨_, ⟨hword, rfl⟩, -, _, hpair, -, _, ⟨hsum, rfl⟩, -, hresult⟩ := h
  cases hpair
  cases hresult
  exact ⟨rfl, hword, hsum⟩

/-- What needs no more blocks than the largest growth takes is granted. -/
theorem growWithin_byBytes
    (h : growWithin blockSize filesystemSize deviceSize .maxFree = .ok grown) {bytes : Nat}
    (hpositive : 0 < bytes) (hle : divCeil bytes blockSize * blockSize ≤ grown.2.1) :
    growWithin blockSize filesystemSize deviceSize (.byBytes bytes) =
      .ok (bytes, divCeil bytes blockSize * blockSize,
        filesystemSize + divCeil bytes blockSize * blockSize) := by
  obtain ⟨hrounded, hword, hsum⟩ := growWithin_words h
  obtain ⟨requested, rounded, expectedSize⟩ := grown
  have growth := growWithin_ok h
  have hroom := growth.room
  have hexpected := growth.expected
  have hfits := growth.fits
  simp only at hrounded hword hsum hle
  rw [← hrounded] at hroom
  unfold growWithin
  simp only [bind_eq_ok_iff, exists_check_iff, ensure_eq_ok_iff, okOr_eq_ok_iff,
    checkedMul_eq_some_iff, checkedAdd_eq_some_iff, ← hrounded]
  exact ⟨_, ⟨hword, rfl⟩, hroom, hpositive, _, ⟨by omega, rfl⟩, _, rfl, hle, _, ⟨by omega, rfl⟩,
    by omega, rfl⟩

theorem growWithin_largest
    (h : growWithin blockSize filesystemSize deviceSize .maxFree = .ok grown) :
    growWithin blockSize filesystemSize deviceSize (.byBytes grown.2.1) = .ok grown := by
  have hbytes := (growWithin_words h).1
  have hwhole : divCeil grown.2.1 blockSize * blockSize = grown.2.1 := by
    rw [hbytes]
    exact divCeil_mul ⟨_, Nat.mul_comm _ _⟩
  obtain ⟨requested, rounded, expectedSize⟩ := grown
  have growth := growWithin_ok h
  obtain ⟨hrequested, hrounded⟩ := growth.asked
  have hroom := growth.room
  rw [← hrounded] at hroom hrequested
  rw [growWithin_byBytes h hroom hwhole.le]
  simp only at hwhole
  rw [hwhole, hrequested, growth.expected]

theorem growWithin_fewer (hblock : 0 < blockSize)
    (h : growWithin blockSize filesystemSize deviceSize .maxFree = .ok grown) {bytes : Nat}
    (hpositive : 0 < bytes) (hless : bytes < grown.2.1) :
    ∃ smaller, growWithin blockSize filesystemSize deviceSize (.byBytes bytes) = .ok smaller := by
  refine ⟨_, growWithin_byBytes h hpositive ?_⟩
  have hbytes := (growWithin_words h).1
  rw [hbytes] at hless ⊢
  exact Nat.mul_le_mul_right _ ((divCeil_le_iff hblock).mpr hless.le)

theorem growWithin_more (hblock : 0 < blockSize)
    (h : growWithin blockSize filesystemSize deviceSize .maxFree = .ok grown) {bytes : Nat}
    (hmuch : grown.2.1 < bytes) {larger : Nat × Nat × Nat} :
    growWithin blockSize filesystemSize deviceSize (.byBytes bytes) ≠ .ok larger := by
  obtain ⟨requested, rounded, expectedSize⟩ := grown
  obtain ⟨requested', rounded', expectedSize'⟩ := larger
  intro hlarger
  obtain ⟨-, hrounded⟩ := (growWithin_ok h).asked
  have growth := growWithin_ok hlarger
  obtain ⟨-, -, hlarge⟩ := growth.asked
  have henough := growth.enough
  have hup := le_divCeil_mul bytes hblock
  simp only at hmuch
  omega

theorem wholeGates_block {devicePath : String} {device : BlockDevice} {fs : Core.Filesystem}
    {mount : Core.MountEntry} (h : wholeGates s capabilities target =
      .ok (devicePath, device, fs, mount, blockSize, filesystemSize)) : 0 < blockSize := by
  unfold wholeGates at h
  simp only [bind_eq_ok_iff, exists_check_iff] at h
  obtain ⟨-, -, _, -, evidence, -, _, hgeometry, hresult⟩ := h
  cases hresult
  have hblock := (measuredGeometry_ok hgeometry).block.1
  omega

/-- The plans of a filesystem on a whole device always agree. -/
theorem whole_agrees [Fingerprint] {largest : Announcement}
    (hprofile : (resolveExtendRouteAdapter s target).profile = .wholeBlockFilesystem)
    (h : (planExtend s capabilities ⟨target, .maxFree⟩).announcement = some largest) :
    GrowthAgrees (fun growth => planExtend s capabilities ⟨target, growth⟩) largest := by
  rw [whole_announcement hprofile, buildWholeFilesystemCandidate_eq, Option.map_eq_some_iff] at h
  obtain ⟨candidate, hcandidate, hlargest⟩ := h
  simp only [toOption_eq_some_iff, bind_eq_ok_iff] at hcandidate
  obtain ⟨⟨devicePath, device, fs, mount, blockSize, filesystemSize⟩, hgates, grown, hgrown,
    hplan⟩ := hcandidate
  have hblock := wholeGates_block hgates
  obtain rfl := Except.ok.inj hplan
  have hbytes : largest.growthBytes = grown.2.1 := by
    rw [← hlargest]
    rfl
  refine .of_map
    (fun growth => (growWithin blockSize filesystemSize device.sizeBytes growth).toOption)
    (fun grown =>
      announceWhole (wholePlan devicePath device fs mount blockSize filesystemSize grown)) grown
    (fun growth => ?_) hlargest ?_ (fun bytes hpositive hless => ?_) (fun bytes hmuch => ?_)
  · rw [whole_announcement hprofile, buildWholeFilesystemCandidate_eq, hgates]
    dsimp only [bind, Except.bind]
    cases growWithin blockSize filesystemSize device.sizeBytes growth with
    | error blocker => rfl
    | ok grown => rfl
  · rw [hbytes, toOption_eq_some_iff]
    exact growWithin_largest hgrown
  · rw [hbytes] at hless
    obtain ⟨smaller, hsmaller⟩ := growWithin_fewer hblock hgrown hpositive hless
    rw [hsmaller]
    rfl
  · rw [hbytes] at hmuch
    cases hlarger : growWithin blockSize filesystemSize device.sizeBytes (.byBytes bytes) with
    | error blocker => rfl
    | ok larger => exact absurd hlarger (growWithin_more hblock hgrown hmuch)

end WholeFilesystem

end StorageManager.Planner.Extend
