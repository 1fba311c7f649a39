import StorageManager.Planner.PlanExtend

/-!
# What a preview rests on

A preview is made by one of four builders. Each builder that succeeds has checked a list
of facts about the snapshot; they are stated here once, for all that is proved of plans.
-/

namespace StorageManager.Planner.Extend

open Core (BlockDevice HostCapabilities HostSnapshot Node PartitionRecord PartitionTable flatten)
open Lib.Checks
open Lib.Word64

set_option autoImplicit false

section Plans

/-- What the builders announce and plan: a volume's, a partition's and a filesystem's
change, and the steps. -/
inductive Candidate (s : HostSnapshot) (capabilities : HostCapabilities)
    (request : ExtendRequest) : Option SizeChange → Option PartitionSizeChange →
    Option FilesystemSizeChange → List PlanStep → Prop
  | partition {size : PartitionSizeChange} {steps : List PlanStep}
      (built : tryBuildPartitionCandidate s capabilities request = .ok (some (size, steps))) :
      Candidate s capabilities request none (some size) none steps
  | freeExtents {size : SizeChange} {steps : List PlanStep}
      (built : buildCandidate s capabilities request = .ok (size, steps)) :
      Candidate s capabilities request (some size) none none steps
  | underlying {route : GrowthRouteAlternative} {size : SizeChange}
      {partitionSize : Option PartitionSizeChange} {steps : List PlanStep}
      (built : buildLvmUnderlyingGrowthCandidate s request =
        some (route, size, partitionSize, steps)) :
      Candidate s capabilities request (some size) partitionSize none steps
  | whole {size : FilesystemSizeChange} {steps : List PlanStep}
      (built : buildWholeFilesystemCandidate s capabilities request = .ok (size, steps)) :
      Candidate s capabilities request none none (some size) steps

variable {s : HostSnapshot} {capabilities : HostCapabilities} {request : ExtendRequest}

/-- What a plan announces was made by one builder. -/
def PlanPreview.Built (plan : PlanPreview) (s : HostSnapshot) (capabilities : HostCapabilities)
    (request : ExtendRequest) : Prop :=
  plan.status = .preview → Candidate s capabilities request plan.sizeChange
    plan.partitionSizeChange plan.filesystemSizeChange plan.steps

variable {digest : String}

theorem applyLvmOutcome_built :
    (applyLvmOutcome (emptyPlan request digest) s (buildCandidate s capabilities request)).Built s
      capabilities request := by
  intro hstatus
  cases hbuilt : buildCandidate s capabilities request with
  | ok result => exact .freeExtents hbuilt
  | error blocker =>
    rw [hbuilt] at hstatus
    dsimp only [applyLvmOutcome] at hstatus ⊢
    by_cases hcode : blocker.code = "insufficient-capacity" ∨ blocker.code = "no-growth"
    · simp only [if_pos hcode] at hstatus ⊢
      cases hunder : buildLvmUnderlyingGrowthCandidate s (emptyPlan request digest).request with
      | none =>
        rw [hunder] at hstatus
        cases hstatus
      | some candidate => exact .underlying hunder
    · simp only [if_neg hcode] at hstatus
      cases hstatus

theorem applyPartitionOrLvm_built :
    (applyPartitionOrLvm (emptyPlan request digest) s capabilities).Built s capabilities
      request := by
  unfold applyPartitionOrLvm
  rw [show (emptyPlan request digest).request = request from rfl]
  cases hbuilt : tryBuildPartitionCandidate s capabilities request with
  | ok found =>
    cases found with
    | none => exact applyLvmOutcome_built
    | some result => exact fun _ => .partition hbuilt
  | error blocker =>
    intro hstatus
    cases hstatus

theorem applyLvm_built :
    (applyLvm (emptyPlan request digest) s capabilities).Built s capabilities request := by
  unfold applyLvm
  rw [show (emptyPlan request digest).request = request from rfl]
  cases hgrowth : request.growth with
  | byBytes bytes => exact applyLvmOutcome_built
  | maxFree =>
    cases hunder : buildLvmUnderlyingGrowthCandidate s request with
    | none => exact applyLvmOutcome_built
    | some candidate => exact fun _ => .underlying hunder

theorem applyWholeFilesystemOutcome_built :
    (applyWholeFilesystemOutcome (emptyPlan request digest)
      (buildWholeFilesystemCandidate s capabilities request)).Built s capabilities request := by
  intro hstatus
  cases hbuilt : buildWholeFilesystemCandidate s capabilities request with
  | ok result => exact .whole hbuilt
  | error blocker =>
    rw [hbuilt] at hstatus
    cases hstatus

theorem applyProfile_built :
    (applyProfile (emptyPlan request digest) s capabilities).Built s capabilities request := by
  unfold applyProfile
  rw [show (emptyPlan request digest).request = request from rfl]
  cases (resolveExtendRouteAdapter s request.target).profile with
  | directPartition => exact applyPartitionOrLvm_built
  | lvm => exact applyLvm_built
  | wholeBlockFilesystem => exact applyWholeFilesystemOutcome_built
  | legacyFailClosed =>
    cases semanticLayerBlocker s request.target with
    | none => exact applyPartitionOrLvm_built
    | some blocker =>
      intro hstatus
      cases hstatus

theorem PlanPreview.Built.withEvidence {plan : PlanPreview}
    (h : plan.Built s capabilities request) :
    (withEvidence plan s).Built s capabilities request := by
  unfold Extend.withEvidence
  split
  · exact h
  · exact h

/-- A preview is the work of one builder. -/
theorem planExtend_built [Fingerprint] :
    (planExtend s capabilities request).Built s capabilities request :=
  applyProfile_built.withEvidence

end Plans

section Partition

variable {s : HostSnapshot} {capabilities : HostCapabilities} {request : ExtendRequest}

/-- The tool is reported once, as available. -/
def ToolReported (capabilities : HostCapabilities) (tool : String) : Prop :=
  ∃ capability, capabilities.tools.filter (·.name = tool) = [capability] ∧ capability.available

@[simp] theorem ensureTool_eq_ok_iff {message tool : String} :
    ensureTool capabilities message tool = .ok () ↔ ToolReported capabilities tool := by
  simp [ensureTool, ToolReported, bind_eq_ok_iff]

/-- The partition a route leads to, with what was checked of its use. -/
structure PartitionTarget (s : HostSnapshot) (capabilities : HostCapabilities)
    (route : ExtendRouteAdapter) (device : BlockDevice) (fs : Core.Filesystem)
    (mountpoint : String) : Prop where
  resolved : ∃ resolvedDevice, route.resolvedDevice = some resolvedDevice ∧
    ∃ node : Node, (flatten s.storage.blockDevices).filter (fun n =>
      n.device.kind = .partition && n.device.nodeAlias resolvedDevice) = [node] ∧
      node.device = device
  collected : ∀ c ∈ ["lsblk", "partition_tables", "mounts", "fstab", "swap"], Collected s c
  clean : ¬hasErrorDiagnostic s
  leaf : device.children.isEmpty
  filesystem : device.filesystem = some fs
  known : fs.fsType = "ext4" ∨ fs.fsType = "xfs"
  mountedAt : route.mountpoint = some mountpoint
  mounted : ∃ mount, s.mounts.filter (·.target = mountpoint) = [mount] ∧
    MountConfirmed device device.nodeAlias fs.fsType mount
  noSwap : ¬s.swaps.any fun swap => device.nodeAlias swap.name
  tools : ∀ tool ∈ ["sfdisk", growTool fs.fsType], ToolReported capabilities tool

theorem partitionTarget_ok {route : ExtendRouteAdapter} {device : BlockDevice}
    {fs : Core.Filesystem} {mountpoint : String}
    (h : partitionTarget s capabilities route = .ok (device, fs, mountpoint)) :
    PartitionTarget s capabilities route device fs mountpoint := by
  unfold partitionTarget at h
  simp only [bind_eq_ok_iff, exists_check_iff, ensure_eq_ok_iff, okOr_eq_ok_iff,
    unique_eq_ok_iff, collectorsComplete_eq_ok_iff, checkAll_eq_ok_iff,
    ensureTool_eq_ok_iff] at h
  obtain ⟨resolvedDevice, hresolved, node, hnode, hcollected, hclean, hleaf, fs', hfs, hknown,
    mountpoint', hmountpoint, mount, hmount, ⟨hconfirmed, -⟩, hswap, htools, hresult⟩ := h
  cases hresult
  exact ⟨⟨resolvedDevice, hresolved, node, hnode, rfl⟩, hcollected, hclean, hleaf, hfs, hknown,
    hmountpoint, ⟨mount, hmount, hconfirmed⟩, hswap, htools⟩

/-- The record of a partition, where the table and the device agree. -/
structure PlacedAt (s : HostSnapshot) (device : BlockDevice) (placed : Placed) : Prop where
  disk : ∃ parentName, device.parentKernelName = some parentName ∧ ∃ node : Node,
    (flatten s.storage.blockDevices).filter (fun n =>
      isDisk n.device.kind && n.device.kernelName == some parentName) = [node] ∧
    node.device = placed.disk
  diskPath : placed.disk.path = some placed.diskPath
  devicePath : device.path = some placed.devicePath
  table : s.partitionTables.filter (·.device = placed.diskPath) = [placed.table]
  sector : placed.table.sectorSizeBytes = some placed.sector
  sectorFits : 512 ≤ placed.sector ∧ isPowerOfTwo placed.sector ∧
    device.logicalSectorBytes = some placed.sector
  record : placed.table.partitions.filter (·.node = placed.devicePath) = [placed.record]
  growable : ensurePartitionRoleIsGrowable placed.table placed.record = .ok ()
  start : placed.record.startSector * placed.sector < limit ∧
    device.start512Sector.bind (checkedMul · 512) =
      some (placed.record.startSector * placed.sector)
  size : placed.record.sizeSectors * placed.sector < limit ∧
    placed.record.sizeSectors * placed.sector = device.sizeBytes

theorem placePartition_ok {device : BlockDevice} {placed : Placed}
    (h : placePartition s device = .ok placed) : PlacedAt s device placed := by
  unfold placePartition parentDisk at h
  simp only [bind_eq_ok_iff, exists_check_iff, ensure_eq_ok_iff, okOr_eq_ok_iff,
    unique_eq_ok_iff, checkedMul_eq_some_iff] at h
  obtain ⟨parentName, hparent, disk, hdisk, diskPath, hdiskPath, devicePath, hdevicePath, table,
    htable, sector, hsector, hfits, record, hrecord, hgrowable, startBytes, ⟨hstartFits, rfl⟩,
    hstart, currentSize, ⟨hsizeFits, rfl⟩, hsize, hresult⟩ := h
  cases hresult
  exact ⟨⟨parentName, hparent, disk, hdisk, rfl⟩, hdiskPath, hdevicePath, htable, hsector, hfits,
    hrecord, hgrowable, ⟨hstartFits, hstart⟩, ⟨hsizeFits, hsize⟩⟩

/-- The growth of a placed partition: as many whole sectors as were asked for, all of them
free behind it. -/
structure PartitionGrowth (placed : Placed) (growth : Growth) (newSizeSectors : Nat)
    (size : PartitionSizeChange) : Prop where
  adjacent : ∃ adjacentSectors, adjacentFreeSectors placed.disk placed.table placed.record =
      .ok adjacentSectors ∧ adjacentSectors * placed.sector < limit ∧
      newSizeSectors - placed.record.sizeSectors ≤ adjacentSectors ∧
      size.requestedGrowthBytes = match growth with
        | .byBytes bytes => bytes
        | .maxFree => adjacentSectors * placed.sector
  requested : 0 < size.requestedGrowthBytes
  grown : newSizeSectors = placed.record.sizeSectors +
    divCeil size.requestedGrowthBytes placed.sector
  fits : newSizeSectors * placed.sector < limit
  size : size =
    { device := placed.devicePath
      disk := placed.diskPath
      currentPartitionSizeBytes := placed.record.sizeSectors * placed.sector
      requestedGrowthBytes := size.requestedGrowthBytes
      roundedGrowthBytes := divCeil size.requestedGrowthBytes placed.sector * placed.sector
      expectedPartitionSizeBytes := newSizeSectors * placed.sector
      sectorSizeBytes := placed.sector
      remainingAdjacentFreeBytes := size.remainingAdjacentFreeBytes }

theorem growPartition_ok {placed : Placed} {growth : Growth} {newSizeSectors : Nat}
    {size : PartitionSizeChange} (h : growPartition placed growth = .ok (newSizeSectors, size)) :
    PartitionGrowth placed growth newSizeSectors size := by
  unfold growPartition at h
  simp only [bind_eq_ok_iff, exists_check_iff, ensure_eq_ok_iff, okOr_eq_ok_iff,
    checkedMul_eq_some_iff, checkedAdd_eq_some_iff] at h
  obtain ⟨adjacentSectors, hadjacent, adjacentBytes, ⟨hbytes, rfl⟩, hrequested, hfree, rounded,
    ⟨-, rfl⟩, newSize, ⟨-, rfl⟩, expected, ⟨hfits, rfl⟩, hresult⟩ := h
  cases hresult
  refine ⟨⟨adjacentSectors, hadjacent, hbytes, ?_, rfl⟩, hrequested, rfl, hfits, rfl⟩
  rw [Nat.add_sub_cancel_left]
  exact hfree

/-- A preview that grows the target's own partition. -/
structure PartitionPlan (s : HostSnapshot) (capabilities : HostCapabilities)
    (request : ExtendRequest) (size : PartitionSizeChange) (steps : List PlanStep) where
  device : BlockDevice
  fs : Core.Filesystem
  mountpoint : String
  placed : Placed
  newSizeSectors : Nat
  label : String
  direct : (resolveExtendRouteAdapter s request.target).profile = .directPartition
  target : PartitionTarget s capabilities (resolveExtendRouteAdapter s request.target) device fs
    mountpoint
  located : PlacedAt s device placed
  growth : PartitionGrowth placed request.growth newSizeSectors size
  labelled : placed.table.label = some label
  steps_eq : steps = partitionSteps placed label newSizeSectors fs.fsType mountpoint

theorem tryBuildPartitionCandidate_ok {size : PartitionSizeChange} {steps : List PlanStep}
    (h : tryBuildPartitionCandidate s capabilities request = .ok (some (size, steps))) :
    Nonempty (PartitionPlan s capabilities request size steps) := by
  unfold tryBuildPartitionCandidate at h
  rw [check_eq_ok_iff] at h
  obtain ⟨-, h⟩ := h
  dsimp only at h
  by_cases hprofile : (resolveExtendRouteAdapter s request.target).profile ≠ .directPartition
  · rw [if_pos hprofile] at h
    cases h
  rw [if_neg hprofile] at h
  simp only [bind_eq_ok_iff, okOr_eq_ok_iff] at h
  obtain ⟨⟨device, fs, mountpoint⟩, htarget, placed, hplaced, ⟨newSizeSectors, size'⟩, hgrown,
    label, hlabel, hresult⟩ := h
  cases hresult
  exact ⟨⟨device, fs, mountpoint, placed, newSizeSectors, label, not_not.mp hprofile,
    partitionTarget_ok htarget, placePartition_ok hplaced, growPartition_ok hgrown, hlabel, rfl⟩⟩

end Partition

section Underlying

variable {s : HostSnapshot} {request : ExtendRequest}

/-- The facts of a volume whose group can gain extents from below. -/
structure StackFacts (s : HostSnapshot) (target : String) (stack : VolumeStack) : Prop where
  lvm : s.lvm = some stack.lvm
  profile : (resolveExtendRouteAdapter s target).profile = .lvm
  device : ∃ resolvedDevice, (resolveExtendRouteAdapter s target).resolvedDevice =
    some resolvedDevice ∧
    (flatten s.storage.blockDevices).filter (·.device.nodeAlias resolvedDevice) = [stack.device]
  lv : stack.lvm.logicalVolumes.filter (·.lvDevice stack.device.device) = [stack.lv]
  linear : stack.device.device.kind = .lvm ∧ stack.device.device.children.isEmpty ∧
    Core.supportedChain s.storage.blockDevices stack.device true ∧
    stack.lv.layout = some "linear" ∧ stack.lv.role = some "public" ∧
    stack.lv.attributes = some "-wi-ao----"
  filesystem : stack.device.device.filesystem = some stack.fs
  known : stack.fs.fsType = "ext4" ∨ stack.fs.fsType = "xfs"
  mounted : ∃ mountpoint, (resolveExtendRouteAdapter s target).mountpoint = some mountpoint ∧
    s.mounts.filter (·.target = mountpoint) = [stack.mount]
  confirmed : MountConfirmed stack.device.device (namesVolume stack.device.device stack.lv)
    stack.fs.fsType stack.mount
  vg : stack.lvm.volumeGroups.filter (·.name = stack.lv.vgName) = [stack.vg]
  single : stack.vg.attributes = some "wz--n-" ∧ stack.vg.missingPvCount = some 0 ∧
    stack.vg.pvCount = 1
  extentSize : stack.vg.extentSizeBytes = some stack.extent
  freeExtentCount : stack.vg.freeExtentCount = some stack.freeExtents
  extents : 512 ≤ stack.extent ∧ isPowerOfTwo stack.extent ∧
    checkedMul stack.freeExtents stack.extent = some stack.vg.freeBytes ∧
    stack.vg.sizeBytes % stack.extent = 0 ∧ stack.lv.sizeBytes % stack.extent = 0
  pv : stack.lvm.physicalVolumes.filter (·.vgName = some stack.vg.name) = [stack.pv]
  pvDevice : (flatten s.storage.blockDevices).filter (·.device.nodeAlias stack.pv.name) =
    [stack.pvDevice]
  usable : ∃ peStartBytes, stack.pv.peStartBytes = some peStartBytes ∧
    checkedSub stack.pvDevice.device.sizeBytes peStartBytes = some stack.usableBackingBytes
  backing : stack.pvDevice.device.kind.isPlain ∧
    Core.containsDevice stack.pvDevice stack.device ∧
    stack.pvDevice.device.filesystem.map (·.fsType) = some "LVM2_member" ∧
    stack.pvDevice.device.uuid = stack.pv.uuid ∧
    stack.pv.sizeBytes ≤ stack.usableBackingBytes ∧
    stack.pv.sizeBytes % stack.extent = 0 ∧ stack.pv.freeBytes = stack.vg.freeBytes

theorem underlyingStack_some {target : String} {stack : VolumeStack}
    (h : underlyingStack s target = some stack) : StackFacts s target stack := by
  unfold underlyingStack at h
  obtain ⟨lvm, hlvm, h⟩ := Option.bind_eq_some_iff.mp h
  obtain ⟨_, hprofile, h⟩ := Option.bind_eq_some_iff.mp h
  obtain ⟨resolvedDevice, hresolved, h⟩ := Option.bind_eq_some_iff.mp h
  obtain ⟨device, hdevice, h⟩ := Option.bind_eq_some_iff.mp h
  obtain ⟨lv, hlv, h⟩ := Option.bind_eq_some_iff.mp h
  obtain ⟨_, hlinear, h⟩ := Option.bind_eq_some_iff.mp h
  obtain ⟨fs, hfs, h⟩ := Option.bind_eq_some_iff.mp h
  obtain ⟨_, hknown, h⟩ := Option.bind_eq_some_iff.mp h
  obtain ⟨mountpoint, hmountpoint, h⟩ := Option.bind_eq_some_iff.mp h
  obtain ⟨mount, hmount, h⟩ := Option.bind_eq_some_iff.mp h
  obtain ⟨_, hconfirmed, h⟩ := Option.bind_eq_some_iff.mp h
  obtain ⟨vg, hvg, h⟩ := Option.bind_eq_some_iff.mp h
  obtain ⟨_, hsingle, h⟩ := Option.bind_eq_some_iff.mp h
  obtain ⟨extent, hextent, h⟩ := Option.bind_eq_some_iff.mp h
  obtain ⟨freeExtents, hfree, h⟩ := Option.bind_eq_some_iff.mp h
  obtain ⟨_, hextents, h⟩ := Option.bind_eq_some_iff.mp h
  obtain ⟨pv, hpv, h⟩ := Option.bind_eq_some_iff.mp h
  obtain ⟨pvDevice, hpvDevice, h⟩ := Option.bind_eq_some_iff.mp h
  obtain ⟨peStart, hpeStart, h⟩ := Option.bind_eq_some_iff.mp h
  obtain ⟨usable, husable, h⟩ := Option.bind_eq_some_iff.mp h
  obtain ⟨_, hbacking, hresult⟩ := Option.bind_eq_some_iff.mp h
  cases hresult
  simp only [toOption_eq_some_iff, unique_eq_ok_iff, guard_eq_some_iff] at *
  exact ⟨hlvm, hprofile, ⟨resolvedDevice, hresolved, hdevice⟩, hlv, hlinear, hfs, hknown,
    ⟨mountpoint, hmountpoint, hmount⟩, hconfirmed, hvg, hsingle, hextent, hfree, hextents, hpv,
    hpvDevice, ⟨peStart, hpeStart, husable⟩, hbacking⟩

/-- The record of a physical volume's partition, where the table and the device agree. -/
structure BackedAt (s : HostSnapshot) (device : BlockDevice) (backing : Backing)
    (disk : BlockDevice) (pvPath : String) (table : PartitionTable) (record : PartitionRecord)
    (adjacentSectors : Nat) : Prop where
  onDisk : ∃ parentName, device.parentKernelName = some parentName ∧ ∃ node : Node,
    (flatten s.storage.blockDevices).filter (fun n =>
      isDisk n.device.kind && n.device.kernelName == some parentName) = [node] ∧
    node.device = disk
  diskPath : backing.diskPath = disk.devicePath
  path : device.path = some pvPath
  partitionPath : backing.partitionPath = some pvPath
  inTable : s.partitionTables.filter (·.device = backing.diskPath) = [table]
  sector : table.sectorSizeBytes = some backing.sectorSizeBytes
  sectorFits : 512 ≤ backing.sectorSizeBytes ∧ isPowerOfTwo backing.sectorSizeBytes ∧
    device.logicalSectorBytes = some backing.sectorSizeBytes
  ofRecord : table.partitions.filter (·.node = pvPath) = [record]
  start : device.start512Sector.bind (checkedMul · 512) =
    some (record.startSector * backing.sectorSizeBytes)
  size : record.sizeSectors * backing.sectorSizeBytes = device.sizeBytes
  adjacent : adjacentFreeSectors disk table record = .ok adjacentSectors
  bytes : adjacentSectors * backing.sectorSizeBytes < limit ∧
    adjacentSectors * backing.sectorSizeBytes = backing.adjacentPartitionFreeBytes

theorem underlyingBacking_some {device : BlockDevice} {backing : Backing}
    (h : underlyingBacking s device = some backing) (hkind : device.kind = .partition) :
    ∃ disk pvPath table record adjacentSectors,
      BackedAt s device backing disk pvPath table record adjacentSectors := by
  unfold underlyingBacking at h
  rw [if_pos hkind] at h
  obtain ⟨parentName, hparent, h⟩ := Option.bind_eq_some_iff.mp h
  obtain ⟨node, hdisk, h⟩ := Option.bind_eq_some_iff.mp h
  obtain ⟨pvPath, hpath, h⟩ := Option.bind_eq_some_iff.mp h
  obtain ⟨table, htable, h⟩ := Option.bind_eq_some_iff.mp h
  obtain ⟨sector, hsector, h⟩ := Option.bind_eq_some_iff.mp h
  obtain ⟨record, hrecord, h⟩ := Option.bind_eq_some_iff.mp h
  obtain ⟨adjacentSectors, hadjacent, h⟩ := Option.bind_eq_some_iff.mp h
  obtain ⟨adjacentBytes, hbytes, hresult⟩ := Option.bind_eq_some_iff.mp h
  cases hresult
  unfold backingRecord at hrecord
  obtain ⟨_, hfits, hrecord⟩ := Option.bind_eq_some_iff.mp hrecord
  obtain ⟨found, hfound, hrecord⟩ := Option.bind_eq_some_iff.mp hrecord
  obtain ⟨_, hsize, hrecord⟩ := Option.bind_eq_some_iff.mp hrecord
  obtain ⟨_, hstart, hrecord⟩ := Option.bind_eq_some_iff.mp hrecord
  obtain ⟨_, hagree, hresult⟩ := Option.bind_eq_some_iff.mp hrecord
  cases hresult
  unfold parentDisk at hdisk
  simp only [toOption_eq_some_iff, unique_eq_ok_iff, guard_eq_some_iff,
    checkedMul_eq_some_iff] at *
  obtain ⟨-, rfl⟩ := hsize
  obtain ⟨-, rfl⟩ := hstart
  exact ⟨node.device, pvPath, table, record, adjacentSectors, ⟨parentName, hparent, node, hdisk,
    rfl⟩, rfl, hpath, rfl, htable, hsector, hfits, hfound, hagree.2, hagree.1, hadjacent, hbytes⟩

/-- How many extents a growth route asks for, and where they come from. -/
structure RouteFacts (s : HostSnapshot) (request : ExtendRequest)
    (route : GrowthRouteAlternative) (stack : VolumeStack) (backing : Backing) : Prop where
  collected : ∀ c ∈ lvmCollectors, Collected s c
  found : underlyingStack s request.target = some stack
  facts : StackFacts s request.target stack
  backed : underlyingBacking s stack.pvDevice.device = some backing
  slack : route.pvDeviceSlackBytes = stack.usableBackingBytes - stack.pv.sizeBytes
  extent : route.extentSizeBytes = stack.extent
  existing : route.existingVgFreeBytes = stack.vg.freeBytes
  physicalVolume : route.physicalVolume = stack.pv.name
  volumeGroup : route.volumeGroup = stack.vg.name
  logicalVolume : route.logicalVolume =
    stack.lv.path.getD s!"/dev/{stack.lv.vgName}/{stack.lv.name}"
  disk : route.disk = backing.diskPath
  partition : route.partition = backing.partitionPath
  sector : route.sectorSizeBytes = backing.sectorSizeBytes
  adjacent : route.adjacentPartitionFreeBytes = backing.adjacentPartitionFreeBytes
  requested : route.requestedGrowthBytes ≠ 0
  asked : route.requestedGrowthBytes = match request.growth with
    | .byBytes bytes => bytes
    | .maxFree => (stack.freeExtents +
      (route.pvDeviceSlackBytes + backing.adjacentPartitionFreeBytes) / stack.extent) *
        stack.extent
  more : stack.freeExtents < divCeil route.requestedGrowthBytes stack.extent
  enough : divCeil route.requestedGrowthBytes stack.extent ≤ stack.freeExtents +
    (route.pvDeviceSlackBytes + backing.adjacentPartitionFreeBytes) / stack.extent
  required : sectorAligned ((divCeil route.requestedGrowthBytes stack.extent -
      stack.freeExtents) * stack.extent - route.pvDeviceSlackBytes) backing.sectorSizeBytes =
    some route.requiredPartitionGrowthBytes
  room : route.requiredPartitionGrowthBytes ≤ backing.adjacentPartitionFreeBytes

theorem analyzeLvmUnderlyingGrowth_some {route : GrowthRouteAlternative}
    (h : analyzeLvmUnderlyingGrowth s request = some route) :
    ∃ stack backing, RouteFacts s request route stack backing := by
  unfold analyzeLvmUnderlyingGrowth at h
  obtain ⟨_, -, h⟩ := Option.bind_eq_some_iff.mp h
  obtain ⟨_, hcollected, h⟩ := Option.bind_eq_some_iff.mp h
  obtain ⟨_, -, h⟩ := Option.bind_eq_some_iff.mp h
  obtain ⟨stack, hstack, h⟩ := Option.bind_eq_some_iff.mp h
  obtain ⟨slack, hslack, h⟩ := Option.bind_eq_some_iff.mp h
  obtain ⟨backing, hbacking, h⟩ := Option.bind_eq_some_iff.mp h
  obtain ⟨underlying, hunderlying, h⟩ := Option.bind_eq_some_iff.mp h
  obtain ⟨_, -, h⟩ := Option.bind_eq_some_iff.mp h
  obtain ⟨maxExtents, hmaxExtents, h⟩ := Option.bind_eq_some_iff.mp h
  obtain ⟨maxGrowth, hmaxGrowth, h⟩ := Option.bind_eq_some_iff.mp h
  obtain ⟨_, -, h⟩ := Option.bind_eq_some_iff.mp h
  obtain ⟨_, hrequested, h⟩ := Option.bind_eq_some_iff.mp h
  obtain ⟨_, hextents, h⟩ := Option.bind_eq_some_iff.mp h
  obtain ⟨newExtents, hnewExtents, h⟩ := Option.bind_eq_some_iff.mp h
  obtain ⟨pvGrowth, hpvGrowth, h⟩ := Option.bind_eq_some_iff.mp h
  obtain ⟨required, hrequired, h⟩ := Option.bind_eq_some_iff.mp h
  obtain ⟨_, hroom, h⟩ := Option.bind_eq_some_iff.mp h
  obtain ⟨steps, -, hresult⟩ := Option.bind_eq_some_iff.mp h
  cases hresult
  simp only [toOption_eq_some_iff, guard_eq_some_iff, checkedSub_eq_some_iff,
    checkedMul_eq_some_iff, checkedAdd_eq_some_iff] at *
  obtain ⟨-, rfl⟩ := hslack
  obtain ⟨-, rfl⟩ := hunderlying
  obtain ⟨-, rfl⟩ := hmaxExtents
  obtain ⟨-, rfl⟩ := hmaxGrowth
  obtain ⟨-, rfl⟩ := hnewExtents
  obtain ⟨-, rfl⟩ := hpvGrowth
  exact ⟨stack, backing, collectorsComplete_eq_ok_iff.mp hcollected, hstack,
    underlyingStack_some hstack, hbacking, rfl, rfl, rfl, rfl, rfl, rfl, rfl, rfl, rfl, rfl,
    hrequested, rfl, hextents.1, hextents.2, hrequired, hroom⟩

/-- The steps of the partition under a physical volume. -/
structure UnderlyingPartition (s : HostSnapshot) (route : GrowthRouteAlternative)
    (size : PartitionSizeChange) (operations : List (Operation × Reversibility))
    (table : PartitionTable) (record : PartitionRecord) (label partition : String)
    (newSizeSectors : Nat) : Prop where
  needed : 0 < route.requiredPartitionGrowthBytes
  ofRoute : route.partition = some partition
  inTable : s.partitionTables.filter (·.device = route.disk) = [table]
  labelled : table.label = some label
  sector : table.sectorSizeBytes = some route.sectorSizeBytes
  aligned : route.requiredPartitionGrowthBytes % route.sectorSizeBytes = 0
  ofRecord : table.partitions.filter (·.node = partition) = [record]
  growable : ensurePartitionRoleIsGrowable table record = .ok ()
  grown : newSizeSectors =
    record.sizeSectors + route.requiredPartitionGrowthBytes / route.sectorSizeBytes
  fits : newSizeSectors * route.sectorSizeBytes < limit
  size_eq : size =
    { device := partition
      disk := route.disk
      currentPartitionSizeBytes := record.sizeSectors * route.sectorSizeBytes
      requestedGrowthBytes := route.requiredPartitionGrowthBytes
      roundedGrowthBytes := route.requiredPartitionGrowthBytes
      expectedPartitionSizeBytes := newSizeSectors * route.sectorSizeBytes
      sectorSizeBytes := route.sectorSizeBytes
      remainingAdjacentFreeBytes := size.remainingAdjacentFreeBytes }
  operations_eq : operations =
    [(.backupPartitionTableMetadata route.disk label table.id, .reversible),
      (.extendPartition partition record.startSector record.sizeSectors newSizeSectors
        route.sectorSizeBytes, .irreversible)]

theorem underlyingPartition_some {route : GrowthRouteAlternative} {size : PartitionSizeChange}
    {operations : List (Operation × Reversibility)}
    (h : underlyingPartition s route = some (some size, operations)) :
    ∃ table record label partition newSizeSectors,
      UnderlyingPartition s route size operations table record label partition
        newSizeSectors := by
  unfold underlyingPartition at h
  by_cases hneeded : 0 < route.requiredPartitionGrowthBytes
  · rw [if_pos hneeded] at h
    obtain ⟨partition, hpartition, h⟩ := Option.bind_eq_some_iff.mp h
    obtain ⟨table, htable, h⟩ := Option.bind_eq_some_iff.mp h
    obtain ⟨label, hlabel, h⟩ := Option.bind_eq_some_iff.mp h
    obtain ⟨sector, hsector, h⟩ := Option.bind_eq_some_iff.mp h
    obtain ⟨_, hagree, h⟩ := Option.bind_eq_some_iff.mp h
    obtain ⟨record, hrecord, h⟩ := Option.bind_eq_some_iff.mp h
    obtain ⟨_, hgrowable, h⟩ := Option.bind_eq_some_iff.mp h
    obtain ⟨newSize, hnew, h⟩ := Option.bind_eq_some_iff.mp h
    obtain ⟨current, hcurrent, h⟩ := Option.bind_eq_some_iff.mp h
    obtain ⟨expected, hexpected, h⟩ := Option.bind_eq_some_iff.mp h
    obtain ⟨remaining, -, hresult⟩ := Option.bind_eq_some_iff.mp h
    simp only [toOption_eq_some_iff, unique_eq_ok_iff, guard_eq_some_iff,
      checkedAdd_eq_some_iff, checkedMul_eq_some_iff] at *
    obtain ⟨rfl, haligned⟩ := hagree
    obtain ⟨-, rfl⟩ := hnew
    obtain ⟨-, rfl⟩ := hcurrent
    obtain ⟨hfits, rfl⟩ := hexpected
    cases hresult
    exact ⟨table, record, label, partition, _, hneeded, hpartition, htable, hlabel, hsector,
      haligned, hrecord, hgrowable, rfl, hfits, rfl, rfl⟩
  · rw [if_neg hneeded] at h
    cases h

theorem underlyingPartition_none {route : GrowthRouteAlternative}
    {operations : List (Operation × Reversibility)}
    (h : underlyingPartition s route = some (none, operations)) :
    route.requiredPartitionGrowthBytes = 0 ∧ operations = [] := by
  unfold underlyingPartition at h
  by_cases hneeded : 0 < route.requiredPartitionGrowthBytes
  · rw [if_pos hneeded] at h
    obtain ⟨partition, -, h⟩ := Option.bind_eq_some_iff.mp h
    obtain ⟨table, -, h⟩ := Option.bind_eq_some_iff.mp h
    obtain ⟨label, -, h⟩ := Option.bind_eq_some_iff.mp h
    obtain ⟨sector, -, h⟩ := Option.bind_eq_some_iff.mp h
    obtain ⟨_, -, h⟩ := Option.bind_eq_some_iff.mp h
    obtain ⟨record, -, h⟩ := Option.bind_eq_some_iff.mp h
    obtain ⟨_, -, h⟩ := Option.bind_eq_some_iff.mp h
    obtain ⟨newSize, -, h⟩ := Option.bind_eq_some_iff.mp h
    obtain ⟨current, -, h⟩ := Option.bind_eq_some_iff.mp h
    obtain ⟨expected, -, h⟩ := Option.bind_eq_some_iff.mp h
    obtain ⟨remaining, -, hresult⟩ := Option.bind_eq_some_iff.mp h
    cases hresult
  · rw [if_neg hneeded] at h
    cases h
    exact ⟨by omega, rfl⟩

/-- The table and the record that the route is planned with are the ones it was measured on. -/
theorem BackedAt.same {route : GrowthRouteAlternative} {stack : VolumeStack} {backing : Backing}
    {size : PartitionSizeChange} {operations : List (Operation × Reversibility)}
    {device disk : BlockDevice} {table measured : PartitionTable}
    {record found : PartitionRecord} {label partition pvPath : String}
    {newSizeSectors adjacentSectors : Nat}
    (back : BackedAt s device backing disk pvPath measured found adjacentSectors)
    (facts : RouteFacts s request route stack backing)
    (under : UnderlyingPartition s route size operations table record label partition
      newSizeSectors) :
    partition = pvPath ∧ table = measured ∧ record = found := by
  have hpartition : partition = pvPath := by
    have h := facts.partition
    rw [under.ofRoute, back.partitionPath] at h
    exact Option.some.inj h
  have htable : table = measured := by
    have h := under.inTable
    rw [facts.disk, back.inTable] at h
    exact (List.cons.inj h).1.symm
  have hrecord : record = found := by
    have h := under.ofRecord
    rw [hpartition, htable, back.ofRecord] at h
    exact (List.cons.inj h).1.symm
  exact ⟨hpartition, htable, hrecord⟩

/-- A preview that grows a volume from the device under its physical volume. -/
structure UnderlyingPlan (s : HostSnapshot) (request : ExtendRequest)
    (route : GrowthRouteAlternative) (size : SizeChange)
    (partitionSize : Option PartitionSizeChange) (steps : List PlanStep) where
  stack : VolumeStack
  backing : Backing
  analyzed : analyzeLvmUnderlyingGrowth s request = some route
  facts : RouteFacts s request route stack backing
  mountpoint : String
  vgUuid : String
  pvUuid : String
  lvUuid : String
  operations : List (Operation × Reversibility)
  expectedPvSizeBytes : Nat
  mountedAt : (resolveExtendRouteAdapter s request.target).mountpoint = some mountpoint
  vg : stack.vg.uuid = some vgUuid
  pv : stack.pv.uuid = some pvUuid
  lv : stack.lv.uuid = some lvUuid
  partition : underlyingPartition s route = some (partitionSize, operations)
  pvGrown : expectedPvSizeBytes = stack.pv.sizeBytes +
    (divCeil route.requestedGrowthBytes stack.extent - stack.freeExtents) * stack.extent
  pvFits : expectedPvSizeBytes < limit
  lvFits : size.expectedLvSizeBytes < limit
  size_eq : size =
    { device := route.logicalVolume
      currentLvSizeBytes := stack.lv.sizeBytes
      requestedGrowthBytes := route.requestedGrowthBytes
      roundedGrowthBytes := divCeil route.requestedGrowthBytes stack.extent * stack.extent
      expectedLvSizeBytes := stack.lv.sizeBytes +
        divCeil route.requestedGrowthBytes stack.extent * stack.extent
      extentSizeBytes := stack.extent
      remainingVgFreeBytes := 0 }
  steps_eq : steps = numbered
    ([(.revalidateSnapshot, .notApplicable), (.backupLvmMetadata vgUuid, .reversible)] ++
      operations ++
      [(.resizePhysicalVolume pvUuid expectedPvSizeBytes, .irreversible),
        (.extendLogicalVolume lvUuid (divCeil route.requestedGrowthBytes stack.extent)
          size.expectedLvSizeBytes, .irreversible),
        (.growFilesystem stack.fs.fsType (some mountpoint), .irreversible),
        (.rediscoverAndVerify, .notApplicable)])

theorem lvAlias_path (lv : Core.LvmLogicalVolume) :
    lv.lvAlias (lv.path.getD s!"/dev/{lv.vgName}/{lv.name}") = true := by
  unfold Core.LvmLogicalVolume.lvAlias
  cases lv.path with
  | none => simp
  | some path => simp

theorem StackFacts.freeExtents_eq {target : String} {stack : VolumeStack}
    (h : StackFacts s target stack) : stack.vg.freeBytes / stack.extent = stack.freeExtents := by
  obtain ⟨hextent, -, hfree, -⟩ := h.extents
  rw [checkedMul_eq_some_iff] at hfree
  rw [← hfree.2, Nat.mul_div_cancel _ (by omega)]

theorem buildLvmUnderlyingGrowthCandidate_some {route : GrowthRouteAlternative}
    {size : SizeChange} {partitionSize : Option PartitionSizeChange} {steps : List PlanStep}
    (h : buildLvmUnderlyingGrowthCandidate s request = some (route, size, partitionSize, steps)) :
    Nonempty (UnderlyingPlan s request route size partitionSize steps) := by
  unfold buildLvmUnderlyingGrowthCandidate at h
  obtain ⟨route', hroute, h⟩ := Option.bind_eq_some_iff.mp h
  obtain ⟨lvm, hlvm, h⟩ := Option.bind_eq_some_iff.mp h
  obtain ⟨pv, hpv, h⟩ := Option.bind_eq_some_iff.mp h
  obtain ⟨vg, hvg, h⟩ := Option.bind_eq_some_iff.mp h
  obtain ⟨lv, hlv, h⟩ := Option.bind_eq_some_iff.mp h
  obtain ⟨_, -, h⟩ := Option.bind_eq_some_iff.mp h
  obtain ⟨additional, hadditional, h⟩ := Option.bind_eq_some_iff.mp h
  obtain ⟨_, -, h⟩ := Option.bind_eq_some_iff.mp h
  obtain ⟨pvGrowth, hpvGrowth, h⟩ := Option.bind_eq_some_iff.mp h
  obtain ⟨expectedPv, hexpectedPv, h⟩ := Option.bind_eq_some_iff.mp h
  obtain ⟨rounded, hrounded, h⟩ := Option.bind_eq_some_iff.mp h
  obtain ⟨expectedLv, hexpectedLv, h⟩ := Option.bind_eq_some_iff.mp h
  obtain ⟨resolvedDevice, hresolved, h⟩ := Option.bind_eq_some_iff.mp h
  obtain ⟨lvDevice, hlvDevice, h⟩ := Option.bind_eq_some_iff.mp h
  obtain ⟨fs, hfs, h⟩ := Option.bind_eq_some_iff.mp h
  obtain ⟨mountpoint, hmountpoint, h⟩ := Option.bind_eq_some_iff.mp h
  obtain ⟨vgUuid, hvgUuid, h⟩ := Option.bind_eq_some_iff.mp h
  obtain ⟨⟨partition, operations⟩, hpartition, h⟩ := Option.bind_eq_some_iff.mp h
  obtain ⟨pvUuid, hpvUuid, h⟩ := Option.bind_eq_some_iff.mp h
  obtain ⟨lvUuid, hlvUuid, hresult⟩ := Option.bind_eq_some_iff.mp h
  cases hresult
  have hroute' := hroute
  obtain ⟨stack, backing, facts⟩ := analyzeLvmUnderlyingGrowth_some hroute
  simp only [toOption_eq_some_iff, unique_eq_ok_iff, checkedSub_eq_some_iff,
    checkedMul_eq_some_iff, checkedAdd_eq_some_iff] at *
  -- the records found again by name are the ones of the stack
  obtain rfl : lvm = stack.lvm := Option.some.inj (hlvm.symm.trans facts.facts.lvm)
  obtain rfl : stack.pv = pv := eq_of_filter_eq_singleton hpv
    (mem_of_filter_eq_singleton facts.facts.pv).1 (by simp [facts.physicalVolume])
  obtain rfl : stack.vg = vg := eq_of_filter_eq_singleton hvg
    (mem_of_filter_eq_singleton facts.facts.vg).1 (by simp [facts.volumeGroup])
  obtain rfl : stack.lv = lv := eq_of_filter_eq_singleton hlv
    (mem_of_filter_eq_singleton facts.facts.lv).1
    (by rw [facts.logicalVolume]; exact lvAlias_path _)
  obtain ⟨resolved, hresolved', hdevice⟩ := facts.facts.device
  obtain rfl : resolvedDevice = resolved :=
    Option.some.inj (hresolved.symm.trans hresolved')
  obtain rfl : lvDevice = stack.device := by
    rw [hlvDevice] at hdevice
    exact (List.cons.inj hdevice).1
  obtain rfl : fs = stack.fs := Option.some.inj (hfs.symm.trans facts.facts.filesystem)
  rw [facts.extent] at hadditional hpvGrowth hrounded
  rw [facts.existing, facts.facts.freeExtents_eq] at hadditional
  obtain ⟨-, rfl⟩ := hadditional
  obtain ⟨-, rfl⟩ := hpvGrowth
  obtain ⟨hpvFits, rfl⟩ := hexpectedPv
  obtain ⟨-, rfl⟩ := hrounded
  obtain ⟨hlvFits, rfl⟩ := hexpectedLv
  refine ⟨⟨stack, backing, hroute', facts, mountpoint, vgUuid, pvUuid, lvUuid, operations, _, hmountpoint,
    hvgUuid, hpvUuid, hlvUuid, hpartition, rfl, hpvFits, hlvFits, ?_, ?_⟩⟩
  · rw [facts.extent]
  · rw [facts.extent]

end Underlying

end StorageManager.Planner.Extend
