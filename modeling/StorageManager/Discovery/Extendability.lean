import StorageManager.Discovery.AdjacentCapacity
import StorageManager.Discovery.TargetResolution

/-!
# The advisory analysis of a target

How much a target could grow, as the read-only analysis reports it: from the free extents of
its volume group, from the space behind its partition, or from the space behind the partitions
of its physical volumes.
-/

namespace StorageManager.Discovery

open Core
open Identity (ResolutionFailure resolveSource resolveTarget)
open Lib.Word64 (checkedAdd)

set_option autoImplicit false

inductive ExtendabilityStatus where
  | ready
  | needsUnderlyingResize
  | needsUnderlyingCapacity
  | needsGeometry
  | requiresMount
  | unsupportedFilesystem
  | unknown
  deriving DecidableEq

structure ExtendAnalysis where
  target : String
  device : Option String
  filesystem : Option String
  currentSizeBytes : Option Nat
  immediateGrowthBytes : Option Nat
  potentialUnderlyingGrowthBytes : Option Nat
  status : ExtendabilityStatus
  reasons : List String
  steps : List String
  deriving DecidableEq

inductive ExtendAnalysisError where
  | targetNotFound (target : String)
  deriving DecidableEq

/-- The sentence under every analysis of a device. -/
def advisoryOnly : String :=
  "Advisory only: no writes, no filesystem health check, no execution authorization. Use plan extend for the stricter nonexecutable preview."

def baseAnalysis (target : String) (device : BlockDevice) (status : ExtendabilityStatus)
    (immediateGrowthBytes potentialUnderlyingGrowthBytes : Option Nat)
    (reasons steps : List String) : ExtendAnalysis where
  target := target
  device := some device.devicePath
  filesystem := device.filesystem.map (·.fsType)
  currentSizeBytes := some device.sizeBytes
  immediateGrowthBytes := immediateGrowthBytes
  potentialUnderlyingGrowthBytes := potentialUnderlyingGrowthBytes
  status := status
  reasons := reasons ++ [advisoryOnly]
  steps := steps

section Underlying

structure UnderlyingCapacity where
  bytes : Nat
  complete : Bool
  deriving DecidableEq

/-- The sum so far, and what the physical volumes before this one were. -/
structure Survey extends UnderlyingCapacity where
  seenPvs : List String
  seenDevices : List String
  seenUuids : List String

def Survey.incomplete (v : Survey) : Survey := { v with complete := false }

/-- The device has the UUID of the physical volume, and neither its path nor the UUID came
before. A path is remembered even when the UUID is refused. -/
def Survey.identify (v : Survey) (device : BlockDevice) (pv : LvmPhysicalVolume) :
    Survey × Bool :=
  match device.path, pv.uuid with
  | some path, some uuid =>
    if uuid = "" ∨ path ∈ v.seenDevices then (v, false)
    else
      let w := { v with seenDevices := path :: v.seenDevices }
      if uuid ∈ w.seenUuids then (w, false)
      else ({ w with seenUuids := uuid :: w.seenUuids }, device.uuid == some uuid)
  | _, _ => (v, false)

def Survey.measure (s : HostSnapshot) (device : BlockDevice) (v : Survey) : Survey :=
  match adjacentCapacity s device with
  | some free =>
    match checkedAdd v.bytes free with
    | some total => { v with bytes := total }
    | none => v.incomplete
  | none => v.incomplete

def Survey.add (s : HostSnapshot) (v : Survey) (pv : LvmPhysicalVolume) : Survey :=
  if pv.name ∈ v.seenPvs then v.incomplete
  else
    let v := { v with seenPvs := pv.name :: v.seenPvs }
    match resolveSource s pv.name with
    | .error _ => v.incomplete
    | .ok node =>
      let (v, validIdentity) := v.identify node.device pv
      if node.device.kind ≠ .partition ∨ ¬validIdentity then v.incomplete
      else v.measure s node.device

def Survey.start : Survey := ⟨⟨0, true⟩, [], [], []⟩

def analyzeVgUnderlyingCapacity (s : HostSnapshot) (vgName : String) : UnderlyingCapacity :=
  match s.lvm with
  | none => ⟨0, false⟩
  | some lvm =>
    let pvs := lvm.physicalVolumes.filter (·.vgName = some vgName)
    let expectedPvs := (one (lvm.volumeGroups.filter (·.name = vgName))).map (·.pvCount)
    if pvs.isEmpty ∨ expectedPvs ≠ some pvs.length then ⟨0, false⟩
    else (pvs.foldl (Survey.add s) Survey.start).toUnderlyingCapacity

end Underlying

section Targets

/-- The growth of the logical volume out of its group has extents to give. -/
def analyzeFreeExtents (target : String) (device : BlockDevice) (fsType : String)
    (lv : LvmLogicalVolume) (vg : LvmVolumeGroup) : ExtendAnalysis :=
  let unmounted : Bool := fsType = "xfs" && device.mountpoints.isEmpty
  let status : ExtendabilityStatus := if unmounted then .requiresMount else .ready
  let reasons :=
    [s!"volume group `{vg.name}` has {vg.freeBytes} bytes of free extents available without changing the underlying partition layout"]
  let steps := [s!"use up to {vg.freeBytes} bytes of free extents from volume group `{vg.name}`",
    s!"extend logical volume `{lv.vgName}/{lv.name}`"]
  baseAnalysis target device status (some vg.freeBytes) none
    (if unmounted then reasons ++
      ["XFS growth is performed on a mounted filesystem, but this device is not currently mounted"]
      else reasons)
    ((if unmounted then steps ++ ["mount the XFS filesystem at its intended mount point"]
      else steps) ++
      [s!"grow the {fsType} filesystem", "re-discover storage and verify the resulting size"])

/-- A group without free extents: what stands behind its physical volumes. -/
def analyzeUnderlying (s : HostSnapshot) (target : String) (device : BlockDevice)
    (fsType : String) (lv : LvmLogicalVolume) (vg : LvmVolumeGroup) : ExtendAnalysis :=
  let capacity := analyzeVgUnderlyingCapacity s vg.name
  if capacity.complete ∧ 0 < capacity.bytes then
    let steps :=
      [s!"grow the LVM PV partition(s) with detected adjacent capacity (partition-table-bounded estimate: {capacity.bytes} bytes)",
        "resize the affected LVM physical volume(s)",
        s!"extend logical volume `{lv.vgName}/{lv.name}`"]
    baseAnalysis target device .needsUnderlyingResize (some 0) (some capacity.bytes)
      [s!"volume group `{vg.name}` has no free extents, but {capacity.bytes} bytes of adjacent partition capacity were detected below its PVs"]
      ((if fsType = "xfs" ∧ device.mountpoints = [] then
        steps ++ ["mount the XFS filesystem at its intended mount point"] else steps) ++
        [s!"grow the {fsType} filesystem", "re-discover storage and verify every layer"])
  else if ¬capacity.complete then
    baseAnalysis target device .needsGeometry (some 0) none
      [s!"volume group `{vg.name}` has no free extents and the lower-layer geometry could not be fully resolved"]
      ["complete lower-layer partition geometry discovery",
        "verify whether an LVM PV partition has adjacent free space"]
  else
    baseAnalysis target device .needsUnderlyingCapacity (some 0) (some 0)
      [s!"volume group `{vg.name}` has no free extents and no adjacent partition capacity was detected below its PVs"]
      ["inspect existing PV container capacity and GPT placement before adding capacity",
        "make the new capacity available to the volume group",
        s!"extend logical volume `{lv.vgName}/{lv.name}`", s!"grow the {fsType} filesystem"]

def analyzeLvmTarget (s : HostSnapshot) (target : String) (device : BlockDevice)
    (fsType : String) : ExtendAnalysis :=
  let unknown (reason : String) := baseAnalysis target device .unknown none none [reason] []
  match s.lvm with
  | none =>
    unknown "the target is an LVM device, but the LVM inventory collector is unavailable or failed"
  | some lvm =>
    match one (lvm.logicalVolumes.filter (·.lvDevice device)) with
    | none => unknown
        "lsblk identifies the target as LVM, but no unique matching logical volume was found in the LVM inventory"
    | some lv =>
      match one (lvm.volumeGroups.filter (·.name = lv.vgName)) with
      | none => unknown
          s!"logical volume `{lv.vgName}/{lv.name}` references volume group `{lv.vgName}`, but that VG is absent or duplicated in the inventory"
      | some vg =>
        if 0 < vg.freeBytes then analyzeFreeExtents target device fsType lv vg
        else analyzeUnderlying s target device fsType lv vg

def analyzePartitionTarget (s : HostSnapshot) (target : String) (device : BlockDevice)
    (fsType : String) : ExtendAnalysis :=
  match adjacentCapacity s device with
  | some bytes =>
    if 0 < bytes then
      baseAnalysis target device .needsUnderlyingResize none (some bytes)
        [s!"{bytes} bytes of adjacent capacity were detected after the target partition"]
        ["grow the partition into verified adjacent free space", s!"grow the {fsType} filesystem",
          "re-discover storage and verify the resulting size"]
    else
      baseAnalysis target device .needsUnderlyingCapacity none (some 0)
        ["no adjacent free space exists inside the reported table bounds; GPT relocation and unused capacity inside the current partition are not assessed"]
        ["inspect current container capacity and GPT placement before adding a disk; M0 does not modify either"]
  | none =>
    baseAnalysis target device .needsGeometry none none
      ["partition-table evidence is incomplete, ambiguous, unsupported or inconsistent with lsblk; no capacity is claimed"]
      ["complete lower-layer partition geometry discovery"]

/-- The analysis of the device the target was resolved to. -/
def analyzeDevice (s : HostSnapshot) (target : String) (device : BlockDevice) : ExtendAnalysis :=
  -- a contradictory snapshot yields no claim, not even of free extents
  if s.diagnostics.any (·.severity = .error) then
    baseAnalysis target device .unknown none none
      ["error-level diagnostics invalidate this advisory analysis"] []
  else match device.filesystem.map (·.fsType) with
  | none =>
    baseAnalysis target device .unknown none none
      ["no filesystem type was discovered for the target device"] []
  | some fsType =>
    if ¬(fsType = "ext4" ∨ fsType = "xfs") then
      baseAnalysis target device .unsupportedFilesystem none none
        [s!"filesystem `{fsType}` is not in the first supported grow set (ext4, XFS)"] []
    else match device.kind with
    | .lvm => analyzeLvmTarget s target device fsType
    | .partition => analyzePartitionTarget s target device fsType
    | _ =>
      baseAnalysis target device .needsGeometry none none
        ["the target is not a directly supported LVM or partition growth topology"]
        ["inspect the lower block-device layers before planning growth",
          s!"grow the {fsType} filesystem only after its block device is enlarged"]

def analyzeExtendability (s : HostSnapshot) (target : String) :
    Except ExtendAnalysisError ExtendAnalysis :=
  match resolveTarget s target with
  | .ok node => .ok (analyzeDevice s target node.device)
  | .error .notFound => .error (.targetNotFound target)
  | .error (.refused reason) => .ok
      { target := target
        device := none
        filesystem := none
        currentSizeBytes := none
        immediateGrowthBytes := none
        potentialUnderlyingGrowthBytes := none
        status := .unknown
        reasons := [reason,
          "Advisory only; no device was selected and no operations are proposed."]
        steps := [] }

end Targets

end StorageManager.Discovery
