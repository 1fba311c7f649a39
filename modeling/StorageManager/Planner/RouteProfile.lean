import StorageManager.Planner.IdentityStability

/-!
# What a supported route promises

The status of a route is derived from its issues, so a supported route has none. What no issue
compares remains open: the group of a logical volume and that of the physical volume below it,
and the other mounts of a device that was chosen by its mount point.
-/

namespace StorageManager.Planner

open Core
open Lib.Checks

set_option autoImplicit false

section Issues

variable {s : HostSnapshot} {mountpoint : Option String} {d : BlockDevice}

theorem routeStatus_eq_supportedProfile_iff {issues : List RouteIssue} :
    routeStatus issues = .supportedProfile ↔ issues = [] := by
  cases issues with
  | nil => exact iff_of_true rfl rfl
  | cons issue issues =>
    refine iff_of_false (fun h => ?_) (List.cons_ne_nil _ _)
    unfold routeStatus at h
    cases hkind : issue.kind <;> simp [hkind] at h
    split at h <;> cases h

/-- The devices a supported route goes through. -/
def Plain (kind : NodeKind) : Prop :=
  kind = .disk ∨ kind = .partition ∨ kind = .loop ∨ kind = .lvm

/-- A node without an issue. -/
theorem appendKind_clear (h : (appendKind s d mountpoint).2 = []) : Plain d.kind := by
  unfold appendKind at h
  unfold Plain
  cases hkind : d.kind <;> rw [hkind] at h <;> simp_all

theorem appendLvmLv_clear (h : (appendLvmLv s d mountpoint).2 = []) :
    ∃ lv, (inventory s).logicalVolumes.filter (·.lvDevice d) = [lv] ∧ lv.layout = some "linear" ∧
      lv.role = some "public" := by
  unfold appendLvmLv at h
  cases hlvm : s.lvm with
  | none =>
    rw [hlvm] at h
    cases h
  | some lvm =>
    rw [hlvm] at h
    dsimp only at h
    rw [inventory, hlvm, Option.getD_some]
    split at h
    · next lv hlv =>
      refine ⟨lv, hlv, ?_⟩
      split at h
      · cases h
      · next hprofile =>
        rw [not_or, not_or, not_not, not_not] at hprofile
        exact ⟨hprofile.1, hprofile.2.1⟩
    · cases h
    · cases h

/-- A volume group without an issue. -/
structure GroupClear (s : HostSnapshot) (vgName : String) (vg : LvmVolumeGroup) : Prop where
  unique : (inventory s).volumeGroups.filter (·.name = vgName) = [vg]
  missing : vg.missingPvCount.getD 0 = 0
  count : vg.pvCount ≤ 1

theorem appendVolumeGroup_clear {lvm : LvmInventory} {vgName : String} (hlvm : s.lvm = some lvm)
    (h : (appendVolumeGroup lvm vgName).2 = []) : ∃ vg, GroupClear s vgName vg := by
  unfold appendVolumeGroup at h
  split at h
  · next vg hvg =>
    simp only [List.append_eq_nil_iff] at h
    obtain ⟨⟨hmissing, hcount⟩, -⟩ := h
    refine ⟨vg, ?_, ?_, ?_⟩
    · rw [inventory, hlvm, Option.getD_some]
      exact hvg
    · split at hmissing
      · cases hmissing
      · omega
    · split at hcount
      · cases hcount
      · omega
  · cases h
  · cases h

theorem appendLvmPvAndVg_clear (h : (appendLvmPvAndVg s d).2 = []) :
    ∃ pv, (inventory s).physicalVolumes.filter (fun pv => d.nodeAlias pv.name) = [pv] ∧
      ∀ vgName, pv.vgName = some vgName → ∃ vg, GroupClear s vgName vg := by
  unfold appendLvmPvAndVg at h
  cases hlvm : s.lvm with
  | none =>
    rw [hlvm] at h
    cases h
  | some lvm =>
    rw [hlvm] at h
    dsimp only at h
    rw [inventory, hlvm, Option.getD_some]
    split at h
    · next pv hpv =>
      refine ⟨pv, hpv, fun vgName hvg => ?_⟩
      rw [hvg] at h
      exact appendVolumeGroup_clear hlvm h
    · cases h
    · cases h

end Issues

section Profile

variable {s : HostSnapshot} {target source : String} {b : Branch}

/-- The member below a volume: the last one on the way from the root. -/
def memberBelow (front : List BlockDevice) : Option BlockDevice :=
  (front.filter isLvmMember).getLast?

/-- The mounts that refer to a device. -/
def mountsOf (s : HostSnapshot) (d : BlockDevice) : List MountEntry :=
  s.mounts.filter (·.source.any (mountedFrom s d))

/-- The group of the volume is that of the member below it, it is the only one of its name,
and this member is all of it. -/
def Backed (s : HostSnapshot) (front : List BlockDevice) (lv : LvmLogicalVolume) : Prop :=
  ∃ member pv vg, memberBelow front = some member ∧
    (inventory s).physicalVolumes.filter (fun pv => member.nodeAlias pv.name) = [pv] ∧
    pv.vgName = some lv.vgName ∧ (inventory s).volumeGroups.filter (·.name = lv.vgName) = [vg] ∧
    vg.missingPvCount = some 0 ∧ vg.pvCount = 1

/-- What a supported route promises. -/
structure Profile (s : HostSnapshot) (source : String) (b : Branch) (route : LayerRoute) : Prop where
  denoted : reached s source = [b]
  resolved : route.resolvedDevice = some b.device.devicePath
  layers : route.layers = b.path.flatMap (fun d => (appendBlockLayer s route.mountpoint d).1) ++
    (appendFilesystem b.device).1 ++ route.mountpoint.toList.map (mountLayer b.device)
  member : ∀ d ∈ b.path, isLvmMember d = true →
    ∃ pv, (inventory s).physicalVolumes.filter (fun pv => d.nodeAlias pv.name) = [pv]
  volume : ∀ d ∈ b.path, d.kind = .lvm →
    ∃ lv, (inventory s).logicalVolumes.filter (·.lvDevice d) = [lv] ∧ lv.layout = some "linear" ∧
      lv.role = some "public"
  group : ∀ front d back, b.path = front ++ d :: back → d.kind = .lvm →
    ∀ lv ∈ (inventory s).logicalVolumes, lv.lvDevice d = true → Backed s front lv
  kinds : ∀ d ∈ b.path, Plain d.kind
  mounts : (mountsOf s b.device).length ≤ 1

/-- What no issue looks at. -/
structure Coherent (s : HostSnapshot) (target : String) (b : Branch) : Prop where
  mounts : startsWith target "/dev/" = true ∨ (mountsOf s b.device).length ≤ 1
  group : ∀ front d back, b.path = front ++ d :: back → d.kind = .lvm →
    ∀ lv ∈ (inventory s).logicalVolumes, lv.lvDevice d = true → ∃ member,
      memberBelow front = some member ∧ ∀ pv ∈ (inventory s).physicalVolumes,
        member.nodeAlias pv.name = true → pv.vgName = some lv.vgName
  counted : ∀ d ∈ b.path, d.kind = .lvm → ∀ lv ∈ (inventory s).logicalVolumes,
    lv.lvDevice d = true → ∀ vg ∈ (inventory s).volumeGroups, vg.name = lv.vgName →
      vg.pvCount ≠ 0 ∧ vg.missingPvCount ≠ none

/-- A route without an issue. -/
structure Supported (s : HostSnapshot) (target source : String) (b : Branch) : Prop where
  chosen : (routeSource s target).2 = .ok source
  denoted : reached s source = [b]
  resolved : (analyzeLayerRoute s target).resolvedDevice = some b.device.devicePath
  layers : (analyzeLayerRoute s target).layers =
    b.path.flatMap (fun d => (appendBlockLayer s (analyzeLayerRoute s target).mountpoint d).1) ++
      (appendFilesystem b.device).1 ++
      (analyzeLayerRoute s target).mountpoint.toList.map (mountLayer b.device)
  clear : ∀ d ∈ b.path, (appendBlockLayer s (analyzeLayerRoute s target).mountpoint d).2 = []
  mounted : (routeMount s b.device (routeSource s target).1).2 = []

theorem reached_of_routeDevice {node : Node} (h : routeDevice s source = .ok node) :
    ∃ b, reached s source = [b] := by
  have hcandidates : routeCandidates s source = [node] := by
    unfold routeDevice at h
    split at h
    · next found hfound =>
      rw [hfound, Except.ok.inj h]
    · cases h
    · cases h
  have hperm := routeCandidates_perm s source
  rw [hcandidates, List.singleton_perm] at hperm
  obtain ⟨l, hl, -⟩ := List.map_eq_singleton_iff.mp hperm.symm
  exact ⟨l.branch, by rw [reached_eq, hl, List.map_singleton]⟩

theorem supported_of_status (h : (analyzeLayerRoute s target).status = .supportedProfile) :
    ∃ source b, Supported s target source b := by
  by_cases hvalid : invalidTarget target = true
  · unfold analyzeLayerRoute at h
    rw [if_pos hvalid] at h
    cases h
  cases hsource : (routeSource s target).2 with
  | error issue =>
    unfold analyzeLayerRoute at h
    rw [if_neg hvalid] at h
    dsimp only at h
    rw [hsource] at h
    cases h
  | ok source =>
    cases hdevice : routeDevice s source with
    | error issue =>
      unfold analyzeLayerRoute at h
      rw [if_neg hvalid] at h
      dsimp only at h
      rw [hsource] at h
      dsimp only [bind, Except.bind] at h
      rw [hdevice] at h
      cases h
    | ok node =>
      obtain ⟨b, hreached⟩ := reached_of_routeDevice hdevice
      obtain ⟨node, hnode, hpath, hroute⟩ := analyzeLayerRoute_resolved hvalid hsource hreached
      unfold resolvedRoute at hroute
      rw [hpath, hnode] at hroute
      dsimp only at hroute
      rw [hroute] at h
      have hissues := routeStatus_eq_supportedProfile_iff.mp h
      simp only [List.append_eq_nil_iff, List.flatMap_eq_nil_iff, List.mem_map] at hissues
      obtain ⟨⟨hmounted, hclear⟩, -⟩ := hissues
      refine ⟨source, b, hsource, hreached, ?_, ?_, ?_, hmounted⟩
      · rw [hroute]
      · rw [hroute]
        dsimp only
        rw [List.flatMap_map]
      · rw [hroute]
        exact fun d hd => hclear _ ⟨d, hd, rfl⟩

/-- The mounts of a device that was chosen by its path are counted. -/
theorem Supported.mounts_of_dev (h : Supported s target source b)
    (hdev : startsWith target "/dev/" = true) : (mountsOf s b.device).length ≤ 1 := by
  have hnone : (routeSource s target).1 = none := by
    unfold routeSource
    rw [if_pos hdev]
  have hmounted := h.mounted
  rw [hnone] at hmounted
  unfold routeMount at hmounted
  dsimp only at hmounted
  unfold mountsOf
  split at hmounted
  · next mount hmount =>
    rw [hmount]
    exact Nat.le_refl 1
  · next hmount =>
    rw [hmount]
    exact Nat.zero_le 1
  · cases hmounted

theorem Supported.member (h : Supported s target source b) {d : BlockDevice} (hd : d ∈ b.path)
    (hmember : isLvmMember d = true) :
    ∃ pv, (inventory s).physicalVolumes.filter (fun pv => d.nodeAlias pv.name) = [pv] ∧
      ∀ vgName, pv.vgName = some vgName → ∃ vg, GroupClear s vgName vg := by
  have hclear := h.clear d hd
  unfold appendBlockLayer Appended.and at hclear
  rw [if_pos hmember] at hclear
  exact appendLvmPvAndVg_clear (List.append_eq_nil_iff.mp hclear).2

theorem Supported.kind (h : Supported s target source b) {d : BlockDevice} (hd : d ∈ b.path) :
    (appendKind s d (analyzeLayerRoute s target).mountpoint).2 = [] := by
  have hclear := h.clear d hd
  unfold appendBlockLayer Appended.and at hclear
  exact (List.append_eq_nil_iff.mp hclear).1

theorem Supported.volume (h : Supported s target source b) {d : BlockDevice} (hd : d ∈ b.path)
    (hkind : d.kind = .lvm) : ∃ lv, (inventory s).logicalVolumes.filter (·.lvDevice d) = [lv] ∧
      lv.layout = some "linear" ∧ lv.role = some "public" := by
  have hclear := h.kind hd
  unfold appendKind at hclear
  rw [hkind] at hclear
  exact appendLvmLv_clear hclear

theorem member_of_memberBelow {front : List BlockDevice} {member : BlockDevice}
    (h : memberBelow front = some member) : member ∈ front ∧ isLvmMember member = true :=
  List.mem_filter.mp (List.mem_of_getLast? h)

/-- The group of a volume, where the records tell that it is that of the member below. -/
theorem Supported.backed (h : Supported s target source b) (hcoherent : Coherent s target b)
    {front back : List BlockDevice} {d : BlockDevice} (hpath : b.path = front ++ d :: back)
    (hkind : d.kind = .lvm) {lv : LvmLogicalVolume} (hlv : lv ∈ (inventory s).logicalVolumes)
    (hdevice : lv.lvDevice d = true) : Backed s front lv := by
  obtain ⟨member, hbelow, hgroup⟩ := hcoherent.group front d back hpath hkind lv hlv hdevice
  obtain ⟨hfront, hmember⟩ := member_of_memberBelow hbelow
  have hd : d ∈ b.path := by
    rw [hpath]
    exact List.mem_append_right front List.mem_cons_self
  have hon : member ∈ b.path := by
    rw [hpath]
    exact List.mem_append_left _ hfront
  obtain ⟨pv, hpv, hnamed⟩ := h.member hon hmember
  obtain ⟨hmem, halias⟩ := mem_of_filter_eq_singleton hpv
  have hvgName := hgroup pv hmem halias
  obtain ⟨vg, hvg⟩ := hnamed lv.vgName hvgName
  obtain ⟨hvgMem, hname⟩ := mem_of_filter_eq_singleton hvg.unique
  obtain ⟨hcount, hreported⟩ := hcoherent.counted d hd hkind lv hlv hdevice vg hvgMem
    (of_decide_eq_true hname)
  refine ⟨member, pv, vg, hbelow, hpv, hvgName, hvg.unique, ?_, ?_⟩
  · have hmissing := hvg.missing
    cases hcounted : vg.missingPvCount with
    | none => exact absurd hcounted hreported
    | some missing =>
      rw [hcounted, Option.getD_some] at hmissing
      rw [hmissing]
  · have hone := hvg.count
    omega

/-- A supported route keeps its promises exactly where the records are coherent. -/
theorem supported_route_iff (h : (analyzeLayerRoute s target).status = .supportedProfile) :
    ∃ source b, (routeSource s target).2 = .ok source ∧ reached s source = [b] ∧
      (Profile s source b (analyzeLayerRoute s target) ↔ Coherent s target b) := by
  obtain ⟨source, b, hroute⟩ := supported_of_status h
  refine ⟨source, b, hroute.chosen, hroute.denoted, fun hprofile => ?_, fun hcoherent => ?_⟩
  · refine ⟨.inr hprofile.mounts, fun front d back hpath hkind lv hlv hdevice => ?_,
      fun d hd hkind lv hlv hdevice vg hvg hname => ?_⟩
    · obtain ⟨member, pv, vg, hbelow, hpv, hvgName, -⟩ :=
        hprofile.group front d back hpath hkind lv hlv hdevice
      refine ⟨member, hbelow, fun pv' hpv' halias => ?_⟩
      rw [eq_of_filter_eq_singleton hpv hpv' halias]
      exact hvgName
    · obtain ⟨front, back, hpath⟩ := List.append_of_mem hd
      obtain ⟨member, pv, vg', -, -, -, hunique, hmissing, hcount⟩ :=
        hprofile.group front d back hpath hkind lv hlv hdevice
      rw [eq_of_filter_eq_singleton hunique hvg (decide_eq_true hname), hmissing, hcount]
      exact ⟨Nat.one_ne_zero, Option.some_ne_none 0⟩
  · refine ⟨hroute.denoted, hroute.resolved, hroute.layers, fun d hd hmember => ?_,
      fun d hd hkind => hroute.volume hd hkind, fun front d back hpath hkind lv hlv hdevice => ?_,
      fun d hd => appendKind_clear (hroute.kind hd), ?_⟩
    · obtain ⟨pv, hpv, -⟩ := hroute.member hd hmember
      exact ⟨pv, hpv⟩
    · exact hroute.backed hcoherent hpath hkind hlv hdevice
    · rcases hcoherent.mounts with hdev | hone
      · exact hroute.mounts_of_dev hdev
      · exact hone

end Profile

section Samples

def mappedDevice : BlockDevice :=
  sampleDevice "dm-0" (some "/dev/mapper/vg0-data") .lvm (some "ext4") []

def memberDevice : BlockDevice :=
  sampleDevice "sda1" (some "/dev/sda1") .partition (some "LVM2_member") [mappedDevice]

def memberDisk : BlockDevice := sampleDevice "sda" (some "/dev/sda") .disk none [memberDevice]

def mappedBranch : Branch := ⟨mappedDevice, [memberDisk, memberDevice, mappedDevice]⟩

def mappedMount (target : String) : MountEntry where
  source := some "/dev/mapper/vg0-data"
  target
  fsType := some "ext4"
  options := ["rw"]

def wholeGroup (name : String) : LvmVolumeGroup where
  name
  uuid := none
  sizeBytes := 2 ^ 20
  freeBytes := 0
  pvCount := 1
  lvCount := 1
  extentSizeBytes := none
  freeExtentCount := none
  missingPvCount := some 0
  attributes := some "wz--n-"

/-- A volume of `vg0` on a member of the given group, with the given mounts. -/
def memberHost (group : String) (targets : List String) : HostSnapshot where
  storage := { blockDevices := [memberDisk] }
  partitionTables := []
  mounts := targets.map mappedMount
  fstab := []
  swaps := []
  collectors := []
  lvm := some {
    physicalVolumes := [{ samplePv "/dev/sda1" (2 ^ 20) with vgName := some group }]
    volumeGroups := [wholeGroup "vg0", wholeGroup "vg1"]
    logicalVolumes := [{
      name := "data"
      path := none
      uuid := none
      vgName := "vg0"
      sizeBytes := 2 ^ 20
      attributes := some "-wi-ao----"
      layout := some "linear"
      role := some "public" }] }

theorem supported_route_sample : ∃ source b,
    (routeSource (memberHost "vg0" ["/data"]) "/data").2 = .ok source ∧
      reached (memberHost "vg0" ["/data"]) source = [b] ∧
      (Profile (memberHost "vg0" ["/data"]) source b
          (analyzeLayerRoute (memberHost "vg0" ["/data"]) "/data") ↔
        Coherent (memberHost "vg0" ["/data"]) "/data" b) :=
  supported_route_iff (by decide)

/-- The branch that a profile is about. -/
theorem Profile.mappedBranch {group target source : String} {targets : List String} {b : Branch}
    (h : Profile (memberHost group targets) source b
      (analyzeLayerRoute (memberHost group targets) target))
    (hresolved : (analyzeLayerRoute (memberHost group targets) target).resolvedDevice =
      some "/dev/mapper/vg0-data") : b = Planner.mappedBranch := by
  have hmem : b ∈ [⟨memberDisk, [memberDisk]⟩, ⟨memberDevice, [memberDisk, memberDevice]⟩,
      Planner.mappedBranch] := (mem_of_filter_eq_singleton h.denoted).1
  have hdevice := h.resolved.symm.trans hresolved
  simp only [List.mem_cons, List.not_mem_nil, or_false] at hmem
  rcases hmem with rfl | rfl | rfl
  · exact absurd hdevice (by decide)
  · exact absurd hdevice (by decide)
  · rfl

/-- A second mount of the device, and a volume on a member of another group: both routes are
supported. -/
theorem supported_route_fails_sample :
    ((analyzeLayerRoute (memberHost "vg0" ["/data", "/copy"]) "/data").status = .supportedProfile ∧
      ∀ source b, ¬Profile (memberHost "vg0" ["/data", "/copy"]) source b
        (analyzeLayerRoute (memberHost "vg0" ["/data", "/copy"]) "/data")) ∧
    ((analyzeLayerRoute (memberHost "vg1" ["/data"]) "/data").status = .supportedProfile ∧
      ∀ source b, ¬Profile (memberHost "vg1" ["/data"]) source b
        (analyzeLayerRoute (memberHost "vg1" ["/data"]) "/data")) := by
  refine ⟨⟨by decide, fun source b h => ?_⟩, ⟨by decide, fun source b h => ?_⟩⟩
  · have hmounts := h.mounts
    rw [h.mappedBranch rfl] at hmounts
    exact absurd hmounts (by decide)
  · have hgroup := h.group
    rw [h.mappedBranch rfl] at hgroup
    obtain ⟨member, pv, vg, -, hpv, hvgName, -⟩ :=
      hgroup [memberDisk, memberDevice] mappedDevice [] rfl rfl _ List.mem_cons_self (by decide)
    obtain ⟨hmem, -⟩ := mem_of_filter_eq_singleton hpv
    rw [List.mem_singleton.mp hmem] at hvgName
    exact absurd hvgName (by decide)

end Samples

end StorageManager.Planner
