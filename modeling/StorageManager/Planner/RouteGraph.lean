import StorageManager.Core.DeviceTree
import StorageManager.Lib.Checks
import StorageManager.Planner.TargetIdentity

/-!
# Layer routes

A target is a device path or a mountpoint. Its route is the chain of layers from the
disk to the filesystem and its mount, with an issue for every layer no proven
operation knows.
-/

namespace StorageManager.Planner

open Core
open Lib.Checks

set_option autoImplicit false

inductive RouteLayerKind where
  | disk
  | partition
  | loopDevice
  | encryption
  | raid
  | multipath
  | lvmPhysicalVolume
  | lvmVolumeGroup
  | lvmLogicalVolume
  | filesystem
  | mount
  | zram
  | rom
  | unknown
  deriving DecidableEq

inductive RouteIssueKind where
  | adapterRequired
  | blocker
  deriving DecidableEq

structure RouteLayer where
  kind : RouteLayerKind
  identity : String
  device : Option String
  sizeBytes : Option Nat
  detail : Option String
  deriving DecidableEq

structure RouteIssue where
  kind : RouteIssueKind
  code : String
  message : String
  device : Option String
  deriving DecidableEq

structure LayerRoute where
  target : String
  resolvedDevice : Option String
  mountpoint : Option String
  status : LayerRouteStatus
  layers : List RouteLayer
  issues : List RouteIssue
  deriving DecidableEq

def adapter (code message : String) (device : Option String) : RouteIssue :=
  ⟨.adapterRequired, code, message, device⟩

def blocker (code message : String) (device : Option String) : RouteIssue :=
  ⟨.blocker, code, message, device⟩

def invalidTarget (target : String) : Bool := target = "" || target.toList.any isControl

/-- The mountpoint the target names, and the device path its route starts from. -/
def routeSource (s : HostSnapshot) (target : String) : Option String × Except RouteIssue String :=
  if startsWith target "/dev/" then (none, .ok target)
  else match s.mounts.filter (·.target = target) with
    | [mount] => (some mount.target, okOr mount.source (blocker "route-mount-source-missing"
        "the selected mount has no block-device source" none))
    | [] => (none, .error (blocker "route-target-not-found"
        "no exact mountpoint or device target could be resolved" none))
    | _ => (none, .error (blocker "route-target-ambiguous"
        "more than one mount entry matches the selected target" none))

/-- Add a node that is not there yet. -/
def addNode (nodes : List Node) (node : Node) : List Node :=
  if nodes.any (·.place = node.place) then nodes else nodes ++ [node]

/-- The nodes a source names: by an alias of their own, or through a logical volume. -/
def routeCandidates (s : HostSnapshot) (source : String) : List Node :=
  let nodes := flatten s.storage.blockDevices
  let volumes := s.lvm.elim [] (·.logicalVolumes)
  let named := (volumes.filter (·.lvAlias source)).flatMap fun lv =>
    nodes.filter (lv.lvDevice ·.device)
  named.foldl addNode (nodes.filter (·.device.nodeAlias source))

def routeDevice (s : HostSnapshot) (source : String) : Except RouteIssue Node :=
  match routeCandidates s source with
  | [node] => .ok node
  | [] => .error (blocker "route-device-not-found"
      "the selected target source does not resolve to one block-device node" (some source))
  | _ => .error (blocker "route-device-ambiguous"
      "the selected target source resolves to multiple block-device nodes" (some source))

/-- The source of a mount is the device, by an alias of its own or of its logical volume. -/
def mountedFrom (s : HostSnapshot) (device : BlockDevice) (source : String) : Bool :=
  device.nodeAlias source ||
    (s.lvm.elim [] (·.logicalVolumes)).any fun lv => lv.lvDevice device && lv.lvAlias source

/-- The one place a device is mounted at, where its target was not a mountpoint already. -/
def routeMount (s : HostSnapshot) (device : BlockDevice) (mountpoint : Option String) :
    Option String × List RouteIssue :=
  match mountpoint with
  | some mountpoint => (some mountpoint, [])
  | none => match s.mounts.filter (·.source.any (mountedFrom s device)) with
    | [mount] => (some mount.target, [])
    | [] => (none, [])
    | _ => (none, [blocker "route-mount-ambiguous"
        "the resolved device is mounted at multiple active targets" (some device.devicePath)])

section Layers

def blockLayer (kind : RouteLayerKind) (device : BlockDevice) : RouteLayer where
  kind
  identity := (device.uuid.or device.partitionUuid).getD device.devicePath
  device := some device.devicePath
  sizeBytes := some device.sizeBytes
  detail := device.model

/-- What one node appends to its route: layers and issues. -/
abbrev Appended := List RouteLayer × List RouteIssue

def Appended.and (a b : Appended) : Appended := (a.1 ++ b.1, a.2 ++ b.2)

def appendVolumeGroup (lvm : LvmInventory) (vgName : String) : Appended :=
  match lvm.volumeGroups.filter (·.name = vgName) with
  | [vg] =>
    ([{ kind := .lvmVolumeGroup
        identity := vg.uuid.getD vg.name
        device := none
        sizeBytes := some vg.sizeBytes
        detail := some s!"name={vg.name} pv_count={vg.pvCount} lv_count={vg.lvCount}" }],
      (if 0 < vg.missingPvCount.getD 0 then
        [blocker "lvm-vg-partial" "volume group reports one or more missing physical volumes"
          (some vg.name)] else []) ++
      (if 1 < vg.pvCount then
        [adapter "lvm-multi-pv-adapter-required"
          "multi-PV allocation impact requires a dedicated route adapter" (some vg.name)] else []) ++
      (if vg.attributes ≠ some "wz--n-" then
        [adapter "lvm-vg-profile-adapter-required"
          "volume group is outside the proven writable/resizable local profile"
          (some vg.name)] else []))
  | [] => ([], [blocker "lvm-vg-not-resolved"
      "physical volume names a volume group that is absent from inventory" (some vgName)])
  | _ => ([], [blocker "lvm-vg-ambiguous" "volume-group identity is ambiguous" (some vgName)])

def appendLvmPvAndVg (s : HostSnapshot) (device : BlockDevice) : Appended :=
  match s.lvm with
  | none => ([], [blocker "lvm-inventory-missing"
      "LVM2 member is present but LVM inventory is unavailable" (some device.devicePath)])
  | some lvm => match lvm.physicalVolumes.filter fun pv => device.nodeAlias pv.name with
    | [pv] =>
      let layer : RouteLayer :=
        { kind := .lvmPhysicalVolume
          identity := pv.uuid.getD pv.name
          device := some pv.name
          sizeBytes := some pv.sizeBytes
          detail := pv.vgName.map fun vgName => s!"vg={vgName}" }
      Appended.and ([layer], []) (pv.vgName.elim ([], []) (appendVolumeGroup lvm))
    | [] => ([], [blocker "lvm-pv-not-resolved"
        "LVM2 member does not resolve to one discovered physical volume"
        (some device.devicePath)])
    | _ => ([], [blocker "lvm-pv-ambiguous"
        "LVM2 member resolves to multiple physical-volume records" (some device.devicePath)])

/-- The attributes of a logical volume whose growth is proven, in use or not. -/
def expectedLvAttributes (mountpoint : Option String) : String :=
  if mountpoint.isSome then "-wi-ao----" else "-wi-a-----"

def appendLvmLv (s : HostSnapshot) (device : BlockDevice) (mountpoint : Option String) : Appended :=
  match s.lvm with
  | none => ([blockLayer .lvmLogicalVolume device], [blocker "lvm-inventory-missing"
      "LVM logical-volume node is present but LVM inventory is unavailable"
      (some device.devicePath)])
  | some lvm => match lvm.logicalVolumes.filter (·.lvDevice device) with
    | [lv] =>
      ([{ kind := .lvmLogicalVolume
          identity := lv.uuid.getD lv.name
          device := some (lv.path.getD s!"/dev/{lv.vgName}/{lv.name}")
          sizeBytes := some lv.sizeBytes
          detail := some (s!"vg={lv.vgName} layout=" ++ lv.layout.getD "unknown" ++ " role=" ++
            lv.role.getD "unknown") }],
        if lv.layout ≠ some "linear" ∨ lv.role ≠ some "public" ∨
            lv.attributes ≠ some (expectedLvAttributes mountpoint) then
          [adapter "lvm-layout-adapter-required"
            (if mountpoint.isSome then
              "mounted LVM growth requires a public, linear, active and open logical volume"
            else "offline LVM growth requires a public, linear, active and not-open logical volume")
            (some device.devicePath)] else [])
    | [] => ([blockLayer .lvmLogicalVolume device], [blocker "lvm-lv-not-resolved"
        "LVM device does not resolve to one logical-volume record" (some device.devicePath)])
    | _ => ([blockLayer .lvmLogicalVolume device], [blocker "lvm-lv-ambiguous"
        "LVM device resolves to multiple logical-volume records" (some device.devicePath)])

def appendKind (s : HostSnapshot) (device : BlockDevice) (mountpoint : Option String) : Appended :=
  let path := some device.devicePath
  match device.kind with
  | .disk => ([blockLayer .disk device], [])
  | .partition => ([blockLayer .partition device], [])
  | .loop => ([blockLayer .loopDevice device], [])
  | .crypt => ([blockLayer .encryption device], [adapter "luks-adapter-required"
      "encrypted/device-mapper storage requires an explicit crypt-layer adapter" path])
  | .raid => ([blockLayer .raid device], [adapter "raid-adapter-required"
      "RAID capacity propagation requires an explicit array/member adapter" path])
  | .multipath => ([blockLayer .multipath device], [adapter "multipath-adapter-required"
      ("multipath identity, path health and capacity propagation require a dedicated " ++
        "adapter") path])
  | .lvm => appendLvmLv s device mountpoint
  | .zram => ([blockLayer .zram device], [blocker "zram-not-grow-target"
      "zram is runtime compressed memory storage, not a persistent grow target" path])
  | .rom => ([blockLayer .rom device], [blocker "rom-not-grow-target"
      "read-only media is not a grow target" path])
  | .unknown => ([blockLayer .unknown device], [blocker "unknown-layer"
      "unknown block-device layer prevents a proven mutation order" path])

def isLvmMember (device : BlockDevice) : Bool :=
  device.filesystem.any (·.fsType = "LVM2_member")

def appendBlockLayer (s : HostSnapshot) (mountpoint : Option String) (device : BlockDevice) :
    Appended :=
  (appendKind s device mountpoint).and
    (if isLvmMember device then appendLvmPvAndVg s device else ([], []))

def filesystemIssues (fsType : String) (device : BlockDevice) : List RouteIssue :=
  let path := some device.devicePath
  if fsType = "ext4" ∨ fsType = "xfs" then []
  else if fsType = "btrfs" then [adapter "btrfs-adapter-required"
    "Btrfs requires a filesystem-aware growth/provisioning adapter" path]
  else if fsType = "zfs" ∨ fsType = "zfs_member" then [adapter "zfs-adapter-required"
    "ZFS must be handled through pool/dataset semantics, not generic block resize" path]
  else [adapter "filesystem-adapter-required"
    s!"filesystem {fsType} has no proven mutation adapter" path]

def appendFilesystem (device : BlockDevice) : Appended :=
  match device.filesystem with
  | none => ([], [])
  | some filesystem =>
    if filesystem.fsType = "LVM2_member" ∨ filesystem.fsType = "swap" then ([], [])
    else ([{ kind := .filesystem
             identity := filesystem.fsType
             device := some device.devicePath
             sizeBytes := some device.sizeBytes
             detail := filesystem.version.map fun version => s!"version={version}" }],
      filesystemIssues filesystem.fsType device)

def mountLayer (device : BlockDevice) (mountpoint : String) : RouteLayer where
  kind := .mount
  identity := mountpoint
  device := some device.devicePath
  sizeBytes := none
  detail := none

end Layers

def routeStatus (issues : List RouteIssue) : LayerRouteStatus :=
  if issues.any (·.kind = .blocker) then .blocked
  else if issues.any (·.kind = .adapterRequired) then .adapterRequired
  else .supportedProfile

/-- The route of a device that was resolved, from the root of its tree. -/
def resolvedRoute (s : HostSnapshot) (target : String) (node : Node) (mountpoint : Option String) :
    LayerRoute :=
  let (mountpoint, ambiguous) := routeMount s node.device mountpoint
  let resolvedDevice := some node.device.devicePath
  match findPath s.storage.blockDevices node with
  | none =>
    { target, resolvedDevice, mountpoint, status := .blocked, layers := []
      issues := ambiguous ++ [blocker "route-parent-chain-missing"
        "the resolved device is not reachable from a storage-graph root" resolvedDevice] }
  | some path =>
    let appended := path.map (appendBlockLayer s mountpoint)
    let filesystem := appendFilesystem node.device
    let issues := ambiguous ++ appended.flatMap (·.2) ++ filesystem.2
    { target, resolvedDevice, mountpoint
      status := routeStatus issues
      layers := appended.flatMap (·.1) ++ filesystem.1 ++
        mountpoint.toList.map (mountLayer node.device)
      issues }

def analyzeLayerRoute (s : HostSnapshot) (target : String) : LayerRoute :=
  if invalidTarget target then
    ⟨target, none, none, .blocked, [], [blocker "invalid-target"
      "target must be a nonempty device path or exact mountpoint" none]⟩
  else
    let (mountpoint, source) := routeSource s target
    match source >>= routeDevice s with
    | .error issue => ⟨target, none, mountpoint, .blocked, [], [issue]⟩
    | .ok node => resolvedRoute s target node mountpoint

end StorageManager.Planner
