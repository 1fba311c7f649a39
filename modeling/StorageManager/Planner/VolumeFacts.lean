import StorageManager.Planner.PlanFacts

/-!
# What the previews of volumes and whole filesystems rest on

The facts that the builder of free extents and the builder of whole filesystems have
checked when they succeed.
-/

namespace StorageManager.Planner.Extend

open Core (BlockDevice FilesystemPreflightEvidence HostCapabilities HostSnapshot LvmInventory
  LvmLogicalVolume LvmPhysicalVolume LvmVolumeGroup MountEntry Node flatten)
open Lib.Checks
open Lib.Word64

set_option autoImplicit false

variable {s : HostSnapshot} {capabilities : HostCapabilities} {request : ExtendRequest}

section FreeExtents

/-- The volume a route leads to. -/
structure VolumeTarget (s : HostSnapshot) (lvm : LvmInventory) (route : ExtendRouteAdapter)
    (device : Node) (lv : LvmLogicalVolume) : Prop where
  profile : route.profile = .lvm
  resolved : ∃ resolvedDevice, route.resolvedDevice = some resolvedDevice ∧
    (flatten s.storage.blockDevices).filter (·.device.nodeAlias resolvedDevice) = [device]
  ofDevice : lvm.logicalVolumes.filter (·.lvDevice device.device) = [lv]
  kind : device.device.kind = .lvm
  leaf : device.device.children.isEmpty
  chain : Core.supportedChain s.storage.blockDevices device true
  linear : lv.layout = some "linear" ∧ lv.role = some "public" ∧
    lv.attributes = some (expectedLvAttributes route.mountpoint)

theorem volumeTarget_ok {lvm : LvmInventory} {route : ExtendRouteAdapter} {device : Node}
    {lv : LvmLogicalVolume} (h : volumeTarget s lvm route = .ok (device, lv)) :
    VolumeTarget s lvm route device lv := by
  unfold volumeTarget at h
  simp only [bind_eq_ok_iff, exists_check_iff, ensure_eq_ok_iff, okOr_eq_ok_iff,
    unique_eq_ok_iff] at h
  obtain ⟨hprofile, resolvedDevice, hresolved, node, hnode, found, hfound, hkind, hleaf, hchain,
    hlinear, hresult⟩ := h
  cases hresult
  exact ⟨hprofile, ⟨resolvedDevice, hresolved, hnode⟩, hfound, hkind, hleaf, hchain, hlinear⟩

/-- The group of a volume, with its one physical volume and the device under it. -/
structure VolumeGroupFacts (s : HostSnapshot) (lvm : LvmInventory) (device : Node)
    (lv : LvmLogicalVolume) (vg : LvmVolumeGroup) (pv : LvmPhysicalVolume) (pvDevice : Node) :
    Prop where
  ofVolume : lvm.volumeGroups.filter (·.name = lv.vgName) = [vg]
  plain : vg.attributes = some "wz--n-" ∧ vg.missingPvCount = some 0
  single : vg.pvCount = 1
  ofGroup : lvm.physicalVolumes.filter (·.vgName = some vg.name) = [pv]
  under : (flatten s.storage.blockDevices).filter (·.device.nodeAlias pv.name) = [pvDevice]
  below : pvDevice.device.kind.isPlain ∧ Core.containsDevice pvDevice device ∧
    pvDevice.device.filesystem.map (·.fsType) = some "LVM2_member"
  identified : ∀ id ∈ [pv.uuid, vg.uuid, lv.uuid, device.device.uuid], id.any (· ≠ "")
  pvUuid : pvDevice.device.uuid = pv.uuid
  sizes : lv.sizeBytes = device.device.sizeBytes ∧ 0 < lv.sizeBytes ∧
    pv.sizeBytes ≤ pvDevice.device.sizeBytes ∧ vg.sizeBytes ≤ pv.sizeBytes ∧
    vg.freeBytes ≤ vg.sizeBytes ∧ pv.freeBytes = vg.freeBytes

theorem volumeGroup_ok {lvm : LvmInventory} {device : Node} {lv : LvmLogicalVolume}
    {vg : LvmVolumeGroup} (h : volumeGroup s lvm device lv = .ok vg) :
    ∃ pv pvDevice, VolumeGroupFacts s lvm device lv vg pv pvDevice := by
  unfold volumeGroup at h
  simp only [bind_eq_ok_iff, exists_check_iff, ensure_eq_ok_iff, unique_eq_ok_iff,
    checkAll_eq_ok_iff] at h
  obtain ⟨found, hfound, hplain, hsingle, pv, hpv, pvDevice, hpvDevice, hbelow, hids, huuid, hsizes,
    hresult⟩ := h
  cases hresult
  exact ⟨pv, pvDevice, hfound, hplain, hsingle, hpv, hpvDevice, hbelow, hids, huuid, hsizes⟩

/-- The growth of a volume by whole extents that its group has free. -/
structure VolumeGrowth (device : BlockDevice) (lv : LvmLogicalVolume) (vg : LvmVolumeGroup)
    (growth : Growth) (extents : Nat) (size : SizeChange) : Prop where
  extentSize : vg.extentSizeBytes = some size.extentSizeBytes
  freeExtents : ∃ freeExtents, vg.freeExtentCount = some freeExtents ∧
    freeExtents * size.extentSizeBytes < limit ∧
    freeExtents * size.extentSizeBytes = vg.freeBytes ∧ extents ≤ freeExtents
  extent : 512 ≤ size.extentSizeBytes ∧ isPowerOfTwo size.extentSizeBytes
  whole : vg.sizeBytes % size.extentSizeBytes = 0 ∧ lv.sizeBytes % size.extentSizeBytes = 0
  requested : size.requestedGrowthBytes = match growth with
    | .byBytes bytes => bytes
    | .maxFree => vg.freeBytes
  positive : 0 < size.requestedGrowthBytes
  extents_eq : extents = divCeil size.requestedGrowthBytes size.extentSizeBytes
  fits : lv.sizeBytes + extents * size.extentSizeBytes < limit
  size_eq : size =
    { device := device.devicePath
      currentLvSizeBytes := lv.sizeBytes
      requestedGrowthBytes := size.requestedGrowthBytes
      roundedGrowthBytes := extents * size.extentSizeBytes
      expectedLvSizeBytes := lv.sizeBytes + extents * size.extentSizeBytes
      extentSizeBytes := size.extentSizeBytes
      remainingVgFreeBytes := vg.freeBytes - extents * size.extentSizeBytes }

theorem growVolume_ok {device : BlockDevice} {lv : LvmLogicalVolume} {vg : LvmVolumeGroup}
    {growth : Growth} {extents : Nat} {size : SizeChange}
    (h : growVolume device lv vg growth = .ok (extents, size)) :
    VolumeGrowth device lv vg growth extents size := by
  unfold growVolume at h
  simp only [bind_eq_ok_iff, exists_check_iff, ensure_eq_ok_iff, okOr_eq_ok_iff,
    checkedMul_eq_some_iff, checkedAdd_eq_some_iff] at h
  obtain ⟨extent, hextent, free, hfree, hvalid, ⟨⟨hbounded, hfreeBytes⟩, hwhole⟩, hpositive, henough,
    rounded, ⟨-, rfl⟩, newSize, ⟨hfits, rfl⟩, hresult⟩ := h
  cases hresult
  exact ⟨hextent, ⟨free, hfree, hbounded, hfreeBytes, henough⟩, hvalid, hwhole, rfl, hpositive, rfl,
    hfits, rfl⟩

/-- A preview that grows a volume into the free extents of its group. -/
structure FreeExtentsPlan (s : HostSnapshot) (capabilities : HostCapabilities)
    (request : ExtendRequest) (size : SizeChange) (steps : List PlanStep) where
  lvm : LvmInventory
  device : Node
  lv : LvmLogicalVolume
  vg : LvmVolumeGroup
  pv : LvmPhysicalVolume
  pvDevice : Node
  fs : Core.Filesystem
  extents : Nat
  collected : ∀ c ∈ lvmCollectors, Collected s c
  clean : ¬hasErrorDiagnostic s
  inventory : s.lvm = some lvm
  target : VolumeTarget s lvm (resolveExtendRouteAdapter s request.target) device lv
  group : VolumeGroupFacts s lvm device lv vg pv pvDevice
  filesystem : device.device.filesystem = some fs
  known : fs.fsType = "ext4" ∨ fs.fsType = "xfs"
  mount : volumeMount s device.device lv fs.fsType
    (resolveExtendRouteAdapter s request.target).mountpoint = .ok ()
  noSwap : ¬s.swaps.any fun swap => namesVolume device.device lv swap.name
  tools : ∀ tool ∈ ["vgcfgbackup", "lvextend", growTool fs.fsType], ToolReported capabilities tool
  healthTool : fs.fsType = "ext4" → (resolveExtendRouteAdapter s request.target).mountpoint = none →
    ToolReported capabilities "e2fsck"
  growth : VolumeGrowth device.device lv vg request.growth extents size
  steps_eq : steps =
    [step 1 .revalidateSnapshot .notApplicable,
      step 2 (.backupLvmMetadata (vg.uuid.getD "")) .reversible,
      step 3 (.extendLogicalVolume (lv.uuid.getD "") extents size.expectedLvSizeBytes)
        .irreversible,
      step 4 (.growFilesystem fs.fsType (resolveExtendRouteAdapter s request.target).mountpoint)
        .irreversible,
      step 5 .rediscoverAndVerify .notApplicable]

theorem volumeTools_eq_ok_iff {fsType : String} {mountpoint : Option String} :
    volumeTools capabilities fsType mountpoint = .ok () ↔
      (∀ tool ∈ ["vgcfgbackup", "lvextend", growTool fsType], ToolReported capabilities tool) ∧
      (fsType = "ext4" → mountpoint = none → ToolReported capabilities "e2fsck") := by
  unfold volumeTools
  rw [check_eq_ok_iff, checkAll_eq_ok_iff]
  simp only [ensureTool_eq_ok_iff]
  refine and_congr_right fun _ => ?_
  by_cases h : fsType = "ext4" ∧ mountpoint = none
  · rw [if_pos h, ensureTool_eq_ok_iff]
    exact ⟨fun hr _ _ => hr, fun hr => hr h.1 h.2⟩
  · rw [if_neg h]
    exact ⟨fun _ hfs hm => absurd ⟨hfs, hm⟩ h, fun _ => rfl⟩

theorem buildCandidate_ok {size : SizeChange} {steps : List PlanStep}
    (h : buildCandidate s capabilities request = .ok (size, steps)) :
    Nonempty (FreeExtentsPlan s capabilities request size steps) := by
  unfold buildCandidate at h
  simp only [bind_eq_ok_iff, exists_check_iff, ensure_eq_ok_iff, okOr_eq_ok_iff,
    collectorsComplete_eq_ok_iff, volumeTools_eq_ok_iff] at h
  obtain ⟨hcollected, hclean, -, lvm, hlvm, ⟨device, lv⟩, htarget, vg, hgroup, fs, hfs, hknown, hmount,
    hswap, ⟨htools, hhealth⟩, ⟨extents, size'⟩, hgrowth, hresult⟩ := h
  cases hresult
  obtain ⟨pv, pvDevice, group⟩ := volumeGroup_ok hgroup
  exact ⟨⟨lvm, device, lv, vg, pv, pvDevice, fs, extents, hcollected, hclean, hlvm,
    volumeTarget_ok htarget, group, hfs, hknown, hmount, hswap, htools, hhealth,
    growVolume_ok hgrowth, rfl⟩⟩

end FreeExtents

section WholeFilesystem

/-- The whole device a route leads to, with its filesystem and its mount. -/
structure WholeTarget (s : HostSnapshot) (capabilities : HostCapabilities)
    (route : ExtendRouteAdapter) (devicePath : String) (device : BlockDevice)
    (fs : Core.Filesystem) (mount : MountEntry) : Prop where
  profile : route.profile = .wholeBlockFilesystem
  resolved : route.resolvedDevice = some devicePath ∧ ∃ node : Node,
    (flatten s.storage.blockDevices).filter (·.device.nodeAlias devicePath) = [node] ∧
    node.device = device
  kind : isDisk device.kind
  leaf : device.children.isEmpty
  filesystem : device.filesystem = some fs
  known : fs.fsType = "ext4" ∨ fs.fsType = "xfs"
  identified : device.uuid.any (· ≠ "")
  mountedAt : ∃ mountpoint, route.mountpoint = some mountpoint ∧
    s.mounts.filter (·.target = mountpoint) = [mount]
  confirmed : MountConfirmed device device.nodeAlias fs.fsType mount
  noSwap : ¬s.swaps.any fun swap => device.nodeAlias swap.name
  tool : ToolReported capabilities (growTool fs.fsType)

theorem wholeTarget_ok {route : ExtendRouteAdapter} {devicePath : String} {device : BlockDevice}
    {fs : Core.Filesystem} {mount : MountEntry}
    (h : wholeTarget s capabilities route = .ok (devicePath, device, fs, mount)) :
    WholeTarget s capabilities route devicePath device fs mount := by
  unfold wholeTarget at h
  simp only [bind_eq_ok_iff, exists_check_iff, ensure_eq_ok_iff, okOr_eq_ok_iff,
    unique_eq_ok_iff, ensureTool_eq_ok_iff] at h
  obtain ⟨hprofile, path, hpath, node, hnode, hkind, hleaf, fs', hfs, hknown, huuid, mountpoint,
    hmountpoint, mount', hmount, hconfirmed, hswap, htool, hresult⟩ := h
  cases hresult
  exact ⟨hprofile, ⟨hpath, node, hnode, rfl⟩, hkind, hleaf, hfs, hknown, huuid,
    ⟨mountpoint, hmountpoint, hmount⟩, hconfirmed, hswap, htool⟩

/-- The growth of a filesystem by whole blocks within its device. -/
structure WholeGrowth (blockSize filesystemSize deviceSize : Nat) (growth : Growth)
    (requested rounded expectedSize : Nat) : Prop where
  room : 0 < (deviceSize - filesystemSize) / blockSize * blockSize
  asked : match growth with
    | .byBytes bytes => 0 < bytes ∧ requested = bytes ∧
      rounded = divCeil bytes blockSize * blockSize
    | .maxFree => requested = (deviceSize - filesystemSize) / blockSize * blockSize ∧
      rounded = (deviceSize - filesystemSize) / blockSize * blockSize
  enough : rounded ≤ (deviceSize - filesystemSize) / blockSize * blockSize
  expected : expectedSize = filesystemSize + rounded
  fits : expectedSize ≤ deviceSize

theorem growWithin_ok {blockSize filesystemSize deviceSize requested rounded expectedSize : Nat}
    {growth : Growth}
    (h : growWithin blockSize filesystemSize deviceSize growth =
      .ok (requested, rounded, expectedSize)) :
    WholeGrowth blockSize filesystemSize deviceSize growth requested rounded expectedSize := by
  unfold growWithin at h
  cases growth with
  | byBytes bytes =>
    simp only [bind_eq_ok_iff, exists_check_iff, ensure_eq_ok_iff, okOr_eq_ok_iff,
      checkedMul_eq_some_iff, checkedAdd_eq_some_iff] at h
    obtain ⟨_, ⟨-, rfl⟩, hroom, hpositive, _, ⟨-, rfl⟩, _, hpair, henough, _, ⟨-, rfl⟩, hfits,
      hresult⟩ := h
    cases hpair
    cases hresult
    exact ⟨hroom, ⟨hpositive, rfl, rfl⟩, henough, rfl, hfits⟩
  | maxFree =>
    simp only [bind_eq_ok_iff, exists_check_iff, ensure_eq_ok_iff, okOr_eq_ok_iff,
      checkedMul_eq_some_iff, checkedAdd_eq_some_iff] at h
    obtain ⟨_, ⟨-, rfl⟩, hroom, _, hpair, henough, _, ⟨-, rfl⟩, hfits, hresult⟩ := h
    cases hpair
    cases hresult
    exact ⟨hroom, ⟨rfl, rfl⟩, henough, rfl, hfits⟩

/-- The evidence of a filesystem's geometry. -/
structure MeasuredGeometry (evidence : FilesystemPreflightEvidence) (deviceSize blockSize
    filesystemSize : Nat) : Prop where
  verified : evidence.state = .verified
  blockSizeOf : evidence.blockSizeBytes = some blockSize
  sizeOf : evidence.sizeBytes = some filesystemSize
  block : 512 ≤ blockSize ∧ isPowerOfTwo blockSize
  blocks : ∃ blockCount, evidence.blockCount = some blockCount ∧
    blockCount * blockSize < limit ∧ blockCount * blockSize = filesystemSize
  within : 0 < filesystemSize ∧ filesystemSize ≤ deviceSize

theorem measuredGeometry_ok {evidence : FilesystemPreflightEvidence} {deviceSize blockSize
    filesystemSize : Nat}
    (h : measuredGeometry evidence deviceSize = .ok (blockSize, filesystemSize)) :
    MeasuredGeometry evidence deviceSize blockSize filesystemSize := by
  unfold measuredGeometry at h
  simp only [bind_eq_ok_iff, exists_check_iff, ensure_eq_ok_iff, okOr_eq_ok_iff,
    checkedMul_eq_some_iff] at h
  obtain ⟨hstate, block, hblock, count, hcount, size, hsize, hvalid, hblocks, hwithin,
    hresult⟩ := h
  cases hresult
  exact ⟨hstate, hblock, hsize, hvalid, ⟨count, hcount, hblocks⟩, hwithin⟩

/-- A preview that grows a filesystem on a whole device. -/
structure WholePlan (s : HostSnapshot) (capabilities : HostCapabilities)
    (request : ExtendRequest) (size : FilesystemSizeChange) (steps : List PlanStep) where
  devicePath : String
  device : BlockDevice
  fs : Core.Filesystem
  mount : MountEntry
  evidence : FilesystemPreflightEvidence
  collected : ∀ c ∈ ["lsblk", "mounts", "fstab", "swap"], Collected s c
  clean : ¬hasErrorDiagnostic s
  target : WholeTarget s capabilities (resolveExtendRouteAdapter s request.target) devicePath device
    fs mount
  measured : s.filesystemPreflight.filter (fun e => e.device = devicePath &&
    e.mountpoint = some mount.target && e.fsType = fs.fsType) = [evidence]
  geometry : MeasuredGeometry evidence device.sizeBytes size.filesystemBlockSizeBytes
    size.currentFilesystemSizeBytes
  growth : WholeGrowth size.filesystemBlockSizeBytes size.currentFilesystemSizeBytes
    device.sizeBytes request.growth size.requestedGrowthBytes size.roundedGrowthBytes
    size.expectedFilesystemSizeBytes
  named : size.device = devicePath ∧ size.mountpoint = mount.target ∧ size.fsType = fs.fsType ∧
    size.backingDeviceSizeBytes = device.sizeBytes
  steps_eq : steps =
    [step 1 .revalidateSnapshot .notApplicable,
      step 2 (.growFilesystem fs.fsType (some mount.target)) .irreversible,
      step 3 .rediscoverAndVerify .notApplicable]

theorem buildWholeFilesystemCandidate_ok {size : FilesystemSizeChange} {steps : List PlanStep}
    (h : buildWholeFilesystemCandidate s capabilities request = .ok (size, steps)) :
    Nonempty (WholePlan s capabilities request size steps) := by
  unfold buildWholeFilesystemCandidate at h
  simp only [bind_eq_ok_iff, exists_check_iff, ensure_eq_ok_iff, unique_eq_ok_iff,
    collectorsComplete_eq_ok_iff] at h
  obtain ⟨hcollected, hclean, ⟨devicePath, device, fs, mount⟩, htarget, evidence, hevidence,
    ⟨blockSize, filesystemSize⟩, hgeometry, ⟨requested, rounded, expectedSize⟩, hgrowth,
    hresult⟩ := h
  cases hresult
  exact ⟨⟨devicePath, device, fs, mount, evidence, hcollected, hclean, wholeTarget_ok htarget,
    hevidence, measuredGeometry_ok hgeometry, growWithin_ok hgrowth, ⟨rfl, rfl, rfl, rfl⟩, rfl⟩⟩

end WholeFilesystem

end StorageManager.Planner.Extend
