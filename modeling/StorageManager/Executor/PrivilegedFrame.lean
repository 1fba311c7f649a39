import StorageManager.Executor.PrivilegedEffect

/-!
# What a verified post-state keeps

The verifier of a mutation looks at one object. What it keeps of that object, and what it lets
through beside it.
-/

namespace StorageManager.Executor

open Lib.Checks
open Planner

set_option autoImplicit false

section Objects

/-- The one record of this kind and UUID keeps its name and has grown to the size. -/
def SizeGrown (kind : LvmIdentityKind) (uuid : String) (expectedSizeBytes : Nat)
    (before fresh : TargetIdentityManifest) : Prop :=
  ∃ old new, before.lvm.filter (isLvmRecord kind uuid) = [old] ∧
    fresh.lvm.filter (isLvmRecord kind uuid) = [new] ∧ new.name = old.name ∧
    old.sizeBytes < expectedSizeBytes ∧ new.sizeBytes = expectedSizeBytes

/-- The one mount at the mountpoint is as it was; without a mountpoint there is no mount. -/
def MountKept (fsType : String) (before fresh : TargetIdentityManifest) : Option String → Prop
  | some mountpoint => ∃ mount, before.mounts.filter (isMountOf fsType mountpoint) = [mount] ∧
      fresh.mounts.filter (isMountOf fsType mountpoint) = [mount]
  | none => fsType = "ext4" ∧ before.mounts = [] ∧ fresh.mounts = []

/-- The object of the operation is as it was but for the size. -/
def ObjectGrown (operation : NativeOperationSpec) (before fresh : TargetIdentityManifest) : Prop :=
  match operation with
  | .extendPartition partition startSector _ newSizeSectors _ =>
    ∃ old oldSize, before.partitions.filter (·.partition == partition) = [old] ∧
      old.startSector = some startSector ∧ old.sizeSectors = some oldSize ∧
      oldSize < newSizeSectors ∧
      fresh.partitions.filter (·.partition == partition) =
        [{ old with sizeSectors := some newSizeSectors }]
  | .resizePhysicalVolume pvUuid expectedPvSizeBytes =>
    SizeGrown .physicalVolume pvUuid expectedPvSizeBytes before fresh
  | .extendLogicalVolume lvUuid _ expectedLvSizeBytes =>
    SizeGrown .logicalVolume lvUuid expectedLvSizeBytes before fresh
  | .growFilesystem fsType mountpoint =>
    ∃ old oldSize newSize, before.filesystem = some old ∧
      fresh.filesystem = some { old with observedFilesystemSizeBytes := some newSize } ∧
      old.device = before.resolvedDevice ∧ old.device = fresh.resolvedDevice ∧
      old.fsType = fsType ∧ old.uuid.isSome ∧ old.observedFilesystemSizeBytes = some oldSize ∧
      0 < oldSize ∧ oldSize < newSize ∧ newSize ≤ old.backingDeviceSizeBytes ∧
      MountKept fsType before fresh mountpoint
  | _ => False

variable {before fresh : TargetIdentityManifest}

theorem verifyPartition_iff {partition : String} {startSector newSizeSectors : Nat} :
    verifyPartition partition startSector newSizeSectors before fresh = true ↔
      ∃ old oldSize, before.partitions.filter (·.partition == partition) = [old] ∧
        old.startSector = some startSector ∧ old.sizeSectors = some oldSize ∧
        oldSize < newSizeSectors ∧
        fresh.partitions.filter (·.partition == partition) =
          [{ old with sizeSectors := some newSizeSectors }] := by
  unfold verifyPartition
  constructor
  · intro h
    split at h
    case h_2 => cases h
    case h_1 old new hold hnew =>
      simp only [grownPartition, Bool.and_eq_true, beq_iff_eq] at h
      obtain ⟨⟨⟨⟨⟨⟨⟨⟨hstart, hstart'⟩, hsize⟩, hgrows⟩, hdisk⟩, hlabel⟩, hid⟩, hsector⟩, huuid⟩ := h
      obtain ⟨oldSize, holdSize, hless⟩ := (Option.any_eq_true _ _).mp hgrows
      have hname : ∀ {identity : TargetIdentityManifest} {entry : PartitionGeometryIdentity},
          identity.partitions.filter (·.partition == partition) = [entry] →
            entry.partition = partition := by
        intro identity entry hentry
        exact beq_iff_eq.mp (mem_of_filter_eq_singleton hentry).2
      refine ⟨old, oldSize, hold, hstart, holdSize, of_decide_eq_true hless, ?_⟩
      rw [hnew]
      congr 1
      have hpartition := (hname hnew).trans (hname hold).symm
      cases new
      cases old
      simp_all
  · rintro ⟨old, oldSize, hold, hstart, hsize, hgrows, hfresh⟩
    rw [hold, hfresh]
    simp [grownPartition, hstart, hsize, hgrows]

theorem verifyLvmSize_iff {kind : LvmIdentityKind} {uuid : String} {expectedSizeBytes : Nat} :
    verifyLvmSize kind uuid expectedSizeBytes before fresh = true ↔
      SizeGrown kind uuid expectedSizeBytes before fresh := by
  unfold verifyLvmSize SizeGrown
  constructor
  · intro h
    split at h
    case h_2 => cases h
    case h_1 old new hold hnew =>
      simp only [Bool.and_eq_true, beq_iff_eq, decide_eq_true_eq] at h
      exact ⟨old, new, hold, hnew, h.1.1.symm, h.1.2, h.2⟩
  · rintro ⟨old, new, hold, hnew, hname, hgrows, hsize⟩
    rw [hold, hnew]
    simp [hname, hgrows, hsize]

theorem sameMounts_iff {fsType : String} {mountpoint : Option String} :
    sameMounts fsType mountpoint before fresh = true ↔
      MountKept fsType before fresh mountpoint := by
  cases mountpoint with
  | none => simp [sameMounts, MountKept, and_assoc]
  | some path =>
    simp only [sameMounts, MountKept]
    constructor
    · intro h
      split at h
      case h_2 => cases h
      case h_1 old new hold hnew =>
        obtain rfl := beq_iff_eq.mp h
        exact ⟨old, hold, hnew⟩
    · rintro ⟨mount, hold, hnew⟩
      rw [hold, hnew]
      exact beq_self_eq_true mount

theorem observedGrowth_sizes {old new : FilesystemIdentity}
    (h : observedGrowth old new = true) :
    ∃ oldSize newSize, old.observedFilesystemSizeBytes = some oldSize ∧
      new.observedFilesystemSizeBytes = some newSize ∧ 0 < oldSize ∧ oldSize < newSize ∧
      newSize ≤ new.backingDeviceSizeBytes := by
  unfold observedGrowth at h
  split at h
  case h_2 => cases h
  case h_1 oldSize newSize hold hnew =>
    simp only [Bool.and_eq_true, decide_eq_true_eq] at h
    exact ⟨oldSize, newSize, hold, hnew, h.1.1.1, h.1.2, h.2⟩

theorem verifyFilesystem_eq_true_iff {fsType : String} {mountpoint : Option String} :
    verifyFilesystem fsType mountpoint before fresh = true ↔
      ObjectGrown (.growFilesystem fsType mountpoint) before fresh := by
  unfold verifyFilesystem ObjectGrown
  constructor
  · intro h
    split at h
    case h_2 => cases h
    case h_1 old new hold hnew =>
      simp only [Bool.and_eq_true, beq_iff_eq, sameMounts_iff] at h
      obtain ⟨⟨⟨⟨⟨⟨⟨⟨⟨⟨hdevice, hdevice'⟩, hsame⟩, htype⟩, htype'⟩, huuid⟩, huuid'⟩, hversion⟩,
        hbacking⟩, hmount⟩, hgrowth⟩ := h
      obtain ⟨oldSize, newSize, hsize, hsize', hpos, hgrows, hroom⟩ := observedGrowth_sizes hgrowth
      refine ⟨old, oldSize, newSize, hold, ?_, hdevice, hsame.trans hdevice', htype, huuid, hsize,
        hpos, hgrows, hbacking ▸ hroom, hmount⟩
      rw [hnew]
      congr 1
      cases new
      cases old
      simp_all
  · rintro ⟨old, oldSize, newSize, hold, hnew, hdevice, hdevice', htype, huuid, hsize, hpos,
      hgrows, hroom, hmount⟩
    have hless : oldSize < old.backingDeviceSizeBytes := by omega
    rw [hold, hnew]
    simp [hdevice, ← hdevice', htype, huuid, hsize, hpos, hgrows, hroom, hless,
      sameMounts_iff.mpr hmount, observedGrowth]

/-- The verifier of an operation sees that its object has grown and is otherwise the same. -/
theorem verifyOperation_eq_ok_iff {operation : NativeOperationSpec} :
    verifyOperation operation before fresh = .ok () ↔ ObjectGrown operation before fresh := by
  cases operation with
  | extendPartition =>
    rw [verifyOperation, refuse_eq_ok_iff, not_not]
    exact verifyPartition_iff
  | resizePhysicalVolume =>
    rw [verifyOperation, refuse_eq_ok_iff, not_not]
    exact verifyLvmSize_iff
  | extendLogicalVolume =>
    rw [verifyOperation, refuse_eq_ok_iff, not_not]
    exact verifyLvmSize_iff
  | growFilesystem =>
    rw [verifyOperation, refuse_eq_ok_iff, not_not]
    exact verifyFilesystem_eq_true_iff
  | _ => simp [verifyOperation, ObjectGrown]

end Objects

section Frame

variable [Fingerprint] {request : PrivilegedHelperRequest} {process : PrivilegedProcessReceipt}
  {before fresh : TargetIdentityManifest} {receipt : PrivilegedLayerVerificationReceipt}

/-- What a verification receipt says about the two identities it is bound to. -/
structure LayerVerified (request : PrivilegedHelperRequest) (before fresh : TargetIdentityManifest)
    (receipt : PrivilegedLayerVerificationReceipt) : Prop where
  authorized : before.manifestDigest = request.freshIdentityDigest
  target : before.target = request.target ∧ fresh.target = before.target
  resolvedDevice : before.resolvedDevice = request.resolvedDevice ∧
    fresh.resolvedDevice = before.resolvedDevice
  object : ObjectGrown request.operation before fresh
  digests : receipt.beforeIdentityDigest = before.manifestDigest ∧
    receipt.freshIdentityDigest = fresh.manifestDigest

theorem verifyPrivilegedLayerPostState_eq_ok_iff :
    verifyPrivilegedLayerPostState request process before fresh = .ok receipt ↔
      request.WellFormed ∧ ProcessSucceeded request process ∧
        LayerVerified request before fresh receipt ∧
        receipt = layerVerificationReceipt request process before fresh := by
  simp only [verifyPrivilegedLayerPostState, check_eq_ok_iff, mapError_eq_ok_iff,
    validate_eq_ok_iff, refuse_eq_ok_iff, not_or, not_not, ne_eq, verifyOperation_eq_ok_iff, pure,
    Except.pure, Except.ok.injEq]
  constructor
  · rintro ⟨hvalid, hintegrity, hdisposition, ⟨hexecution, hstep⟩, ⟨hdigest, htarget, hdevice⟩,
      ⟨htarget', hdevice'⟩, hobject, rfl⟩
    exact ⟨hvalid, ⟨hintegrity, hdisposition, hexecution, hstep⟩,
      ⟨hdigest, ⟨htarget, htarget'⟩, ⟨hdevice, hdevice'⟩, hobject, rfl, rfl⟩, rfl⟩
  · rintro ⟨hvalid, hprocess, hverified, rfl⟩
    exact ⟨hvalid, hprocess.integrity, hprocess.disposition,
      ⟨hprocess.executionId, hprocess.planStepId⟩,
      ⟨hverified.authorized, hverified.target.1, hverified.resolvedDevice.1⟩,
      ⟨hverified.target.2, hverified.resolvedDevice.2⟩, hverified.object, rfl⟩

/-- An accepted pair keeps the target, and the object of the operation but for its size. -/
theorem layer_verified_of_accepted
    (h : verifyPrivilegedLayerPostState request process before fresh = .ok receipt) :
    LayerVerified request before fresh receipt :=
  (verifyPrivilegedLayerPostState_eq_ok_iff.mp h).2.2.1

/-- An identity without its digest and without any size. -/
def withoutSizes (identity : TargetIdentityManifest) : TargetIdentityManifest :=
  { identity with
    manifestDigest := ""
    devices := identity.devices.map ({ · with sizeBytes := 0 })
    partitions := identity.partitions.map ({ · with sizeSectors := none })
    lvm := identity.lvm.map
      ({ · with sizeBytes := 0, freeBytes := none, freeExtentCount := none })
    filesystem := identity.filesystem.map
      ({ · with backingDeviceSizeBytes := 0, observedFilesystemSizeBytes := none }) }

end Frame

section Samples

/-- The volume has grown by its extent. Another filesystem was mounted on it meanwhile, and the
partition below was moved. -/
def driftedIdentity : TargetIdentityManifest :=
  { growthIdentity with
    manifestDigest := fingerprint (.str "drifted identity")
    partitions := [⟨"/dev/sda2", some "/dev/sda", some "gpt", none, some 512, some 4096,
      some 32768, none⟩]
    lvm := growthIdentity.lvm.map (extendedLogicalVolume (fun _ => 4194304) "/dev/vg/data" 1)
    mounts := [⟨"/srv", some "/dev/vg/data", some "xfs", []⟩] }

theorem grown_sample (fresh : TargetIdentityManifest)
    (htarget : fresh.target = growthIdentity.target)
    (hdevice : fresh.resolvedDevice = growthIdentity.resolvedDevice)
    (hlvm : fresh.lvm =
      growthIdentity.lvm.map (extendedLogicalVolume (fun _ => 4194304) "/dev/vg/data" 1)) :
    ∃ receipt, verifyPrivilegedLayerPostState
      (growthRequest (.extendLogicalVolume "lv-1" 1 12582912))
      (growthProcess (.extendLogicalVolume "lv-1" 1 12582912)) growthIdentity fresh =
        .ok receipt := by
  refine ⟨_, verifyPrivilegedLayerPostState_eq_ok_iff.mpr ⟨?_, growthProcess_succeeded _, ?_, rfl⟩⟩
  · exact validate_eq_ok_iff.mp (growthRequest_valid (by decide))
  · refine ⟨rfl, ⟨rfl, htarget⟩, ⟨rfl, hdevice⟩, ?_, rfl, rfl⟩
    refine ⟨_, _, rfl, (congrArg _ hlvm).trans rfl, ?_⟩
    decide

/-- The drifted identity is accepted. -/
theorem drift_accepted_sample :
    ∃ receipt, verifyPrivilegedLayerPostState
      (growthRequest (.extendLogicalVolume "lv-1" 1 12582912))
      (growthProcess (.extendLogicalVolume "lv-1" 1 12582912)) growthIdentity driftedIdentity =
        .ok receipt ∧ withoutSizes driftedIdentity ≠ withoutSizes growthIdentity := by
  obtain ⟨receipt, h⟩ := grown_sample driftedIdentity rfl rfl rfl
  refine ⟨receipt, h, fun hsame => ?_⟩
  have hmounts := congrArg TargetIdentityManifest.mounts hsame
  exact List.cons_ne_nil _ _ hmounts

theorem layer_verified_sample :
    ∃ receipt, LayerVerified (growthRequest (.extendLogicalVolume "lv-1" 1 12582912))
      growthIdentity
      { growthIdentity with
        lvm := growthIdentity.lvm.map (extendedLogicalVolume (fun _ => 4194304) "/dev/vg/data" 1) }
      receipt := by
  obtain ⟨receipt, h⟩ := grown_sample
    { growthIdentity with
      lvm := growthIdentity.lvm.map (extendedLogicalVolume (fun _ => 4194304) "/dev/vg/data" 1) }
    rfl rfl rfl
  exact ⟨receipt, layer_verified_of_accepted h⟩

end Samples

end StorageManager.Executor
