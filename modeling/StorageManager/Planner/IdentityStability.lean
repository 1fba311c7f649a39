import StorageManager.Core.DeviceBranches
import StorageManager.Lib.Sequence
import StorageManager.Planner.IdentityCapture

/-!
# An identity in a larger host

What is captured of a target is a function of what its route touches. Whatever else a host
has, and in whichever order it is discovered, the same manifest is made, as long as the
records that the manifest sorts are told apart by what it sorts them by.
-/

namespace StorageManager.Planner

open Core
open Lib.Checks (okOr)
open Lib.Sequence

set_option autoImplicit false

variable {s s' : HostSnapshot} {d : BlockDevice} {path : List BlockDevice}

/-- The LVM objects of a host, none where no inventory was read. -/
def inventory (s : HostSnapshot) : LvmInventory := s.lvm.getD ⟨[], [], []⟩

theorem inventory_logicalVolumes (s : HostSnapshot) :
    s.lvm.elim [] (·.logicalVolumes) = (inventory s).logicalVolumes := by
  unfold inventory
  cases s.lvm <;> rfl

def isLvmDevice (d : BlockDevice) : Bool := d.kind = .lvm || isLvmMember d

/-- The same records of what lies on a path, in any order. -/
structure SameLayers (s s' : HostSnapshot) (path : List BlockDevice) : Prop where
  discovered : ∀ d ∈ path, isLvmDevice d → s'.lvm.isSome = s.lvm.isSome
  physicalVolumes : ∀ d ∈ path, ((inventory s').physicalVolumes.filter (d.nodeAlias ·.name)).Perm
    ((inventory s).physicalVolumes.filter (d.nodeAlias ·.name))
  logicalVolumes : ∀ d ∈ path, ((inventory s').logicalVolumes.filter (·.lvDevice d)).Perm
    ((inventory s).logicalVolumes.filter (·.lvDevice d))
  volumeGroups : ∀ d ∈ path, ∀ name ∈ groupNames (inventory s) d,
    ((inventory s').volumeGroups.filter (·.name = name)).Perm
      ((inventory s).volumeGroups.filter (·.name = name))
  listings : ∀ d ∈ path, (listings s' d.devicePath).Perm (listings s d.devicePath)

section Layers

theorem appendVolumeGroup_congr {lvm lvm' : LvmInventory} {vgName : String}
    (h : (lvm'.volumeGroups.filter (·.name = vgName)).Perm
      (lvm.volumeGroups.filter (·.name = vgName))) :
    appendVolumeGroup lvm' vgName = appendVolumeGroup lvm vgName := by
  unfold appendVolumeGroup
  obtain ⟨h', h⟩ | ⟨vg, h', h⟩ | ⟨_, _, _, _, _, _, h', h⟩ := perm_cases h
  · rw [h', h]
  · rw [h', h]
  · rw [h', h]

theorem SameLayers.lvm_eq (h : SameLayers s s' path) (hmem : d ∈ path) (hlvm : isLvmDevice d) :
    (s.lvm = none ∧ s'.lvm = none) ∨
      (s.lvm = some (inventory s) ∧ s'.lvm = some (inventory s')) := by
  have hsame := h.discovered d hmem hlvm
  unfold inventory
  cases hlvm : s.lvm with
  | none =>
    cases hlvm' : s'.lvm with
    | none => exact .inl ⟨rfl, rfl⟩
    | some lvm =>
      rw [hlvm, hlvm'] at hsame
      cases hsame
  | some lvm =>
    cases hlvm' : s'.lvm with
    | none =>
      rw [hlvm, hlvm'] at hsame
      cases hsame
    | some lvm' => exact .inr ⟨rfl, rfl⟩

theorem SameLayers.appendLvmPvAndVg (h : SameLayers s s' path) (hmem : d ∈ path)
    (hmember : isLvmMember d) : appendLvmPvAndVg s' d = appendLvmPvAndVg s d := by
  have hlvm : isLvmDevice d := by
    unfold isLvmDevice
    rw [hmember, Bool.or_true]
  unfold Planner.appendLvmPvAndVg
  obtain ⟨hnone, hnone'⟩ | ⟨hsome, hsome'⟩ := h.lvm_eq hmem hlvm
  · rw [hnone, hnone']
  · rw [hsome, hsome']
    dsimp only
    obtain ⟨h', hs⟩ | ⟨pv, h', hs⟩ | ⟨_, _, _, _, _, _, h', hs⟩ :=
      perm_cases (h.physicalVolumes d hmem)
    · rw [h', hs]
    · rw [h', hs]
      dsimp only
      cases hvg : pv.vgName with
      | none => rfl
      | some vgName =>
        have hgroup : vgName ∈ groupNames (inventory s) d := by
          refine List.mem_append_left _ (List.mem_filterMap.mpr ⟨pv, ?_, hvg⟩)
          unfold volumesOn
          rw [if_pos hmember, hs]
          exact List.mem_singleton_self pv
        simp only [Option.elim_some]
        rw [appendVolumeGroup_congr (h.volumeGroups d hmem vgName hgroup)]
    · rw [h', hs]

theorem SameLayers.appendLvmLv (h : SameLayers s s' path) (hmem : d ∈ path) (hkind : d.kind = .lvm)
    (mountpoint : Option String) : appendLvmLv s' d mountpoint = appendLvmLv s d mountpoint := by
  have hlvm : isLvmDevice d := by
    unfold isLvmDevice
    rw [decide_eq_true hkind, Bool.true_or]
  unfold Planner.appendLvmLv
  obtain ⟨hnone, hnone'⟩ | ⟨hsome, hsome'⟩ := h.lvm_eq hmem hlvm
  · rw [hnone, hnone']
  · rw [hsome, hsome']
    dsimp only
    obtain ⟨h', hs⟩ | ⟨lv, h', hs⟩ | ⟨_, _, _, _, _, _, h', hs⟩ :=
      perm_cases (h.logicalVolumes d hmem)
    · rw [h', hs]
    · rw [h', hs]
    · rw [h', hs]

theorem SameLayers.appendBlockLayer (h : SameLayers s s' path) (hmem : d ∈ path)
    (mountpoint : Option String) :
    appendBlockLayer s' mountpoint d = appendBlockLayer s mountpoint d := by
  have hkind : appendKind s' d mountpoint = appendKind s d mountpoint := by
    unfold appendKind
    cases hkind : d.kind with
    | lvm => exact h.appendLvmLv hmem hkind mountpoint
    | _ => rfl
  unfold Planner.appendBlockLayer
  rw [hkind]
  by_cases hmember : isLvmMember d = true
  · rw [if_pos hmember, if_pos hmember, h.appendLvmPvAndVg hmem hmember]
  · rw [if_neg hmember, if_neg hmember]

/-- The sources a device is mounted from are the names of its own volumes. -/
theorem SameLayers.mountedFrom (h : SameLayers s s' path) (hmem : d ∈ path) :
    mountedFrom s' d = mountedFrom s d := by
  funext source
  have hvolumes := (h.logicalVolumes d hmem).any_eq (f := (·.lvAlias source))
  rw [List.any_filter, List.any_filter] at hvolumes
  unfold Planner.mountedFrom
  rw [inventory_logicalVolumes, inventory_logicalVolumes, hvolumes]

end Layers

section Records

theorem partitionIdentity_congr (h : (listings s' d.devicePath).Perm (listings s d.devicePath)) :
    partitionIdentity s' d = partitionIdentity s d := by
  unfold partitionIdentity
  obtain ⟨h', h⟩ | ⟨_, h', h⟩ | ⟨_, _, _, _, _, _, h', h⟩ := perm_cases h
  · rw [h', h]
  · rw [h', h]
  · rw [h', h]

theorem SameLayers.groupNames (h : SameLayers s s' path) (hmem : d ∈ path) :
    (groupNames (inventory s') d).Perm (groupNames (inventory s) d) := by
  unfold Planner.groupNames volumesOn volumesOf
  refine List.Perm.append (List.Perm.filterMap _ ?_) (List.Perm.map _ ?_)
  · split
    · exact h.physicalVolumes d hmem
    · exact .nil
  · split
    · exact h.logicalVolumes d hmem
    · exact .nil

theorem collectLvmIdentity_inventory (s : HostSnapshot) (path : List BlockDevice) :
    collectLvmIdentity s path =
      (path.flatMap fun device => (volumesOn (inventory s) device).map pvIdentity ++
        (volumesOf (inventory s) device).map lvIdentity) ++
      (path.flatMap (Planner.groupNames (inventory s))).eraseDups.flatMap fun vgName =>
        ((inventory s).volumeGroups.filter (·.name = vgName)).map vgIdentity := by
  unfold collectLvmIdentity inventory
  cases s.lvm with
  | some lvm => rfl
  | none =>
    have hnone : ∀ device, volumesOn ⟨[], [], []⟩ device = [] ∧
        volumesOf ⟨[], [], []⟩ device = [] := by
      intro device
      unfold volumesOn volumesOf
      exact ⟨by split <;> rfl, by split <;> rfl⟩
    simp [hnone, Planner.groupNames]

theorem SameLayers.collectLvmIdentity (h : SameLayers s s' path) :
    (collectLvmIdentity s' path).Perm (collectLvmIdentity s path) := by
  rw [collectLvmIdentity_inventory, collectLvmIdentity_inventory]
  refine List.Perm.append (List.Perm.flatMap_left _ fun d hmem => ?_) ?_
  · unfold volumesOn volumesOf
    refine List.Perm.append (List.Perm.map _ ?_) (List.Perm.map _ ?_)
    · split
      · exact h.physicalVolumes d hmem
      · exact .nil
    · split
      · exact h.logicalVolumes d hmem
      · exact .nil
  · have hnames := eraseDups_perm (List.Perm.flatMap_left path fun d hmem => h.groupNames hmem)
    refine (hnames.flatMap_right _).trans (List.Perm.flatMap_left _ fun name hname => ?_)
    obtain ⟨d, hmem, hgroup⟩ := List.mem_flatMap.mp (List.mem_eraseDups.mp hname)
    exact (h.volumeGroups d hmem name hgroup).map _

theorem debugText_injective {a b : LvmIdentityKind} (h : a.debugText = b.debugText) : a = b := by
  cases a <;> cases b <;> first | rfl | exact absurd h (by decide)

theorem LvmIdentity.before_total (a b : LvmIdentity) : (a.before b || b.before a) = true := by
  unfold LvmIdentity.before
  simp only [Bool.or_eq_true, Bool.and_eq_true, decide_eq_true_eq, beq_iff_eq]
  obtain hlt | heq | hlt := lt_trichotomy a.kind.debugText b.kind.debugText
  · exact .inl (.inl hlt)
  · obtain hle | hle := le_total a.name b.name
    · exact .inl (.inr ⟨heq, hle⟩)
    · exact .inr (.inr ⟨heq.symm, hle⟩)
  · exact .inr (.inl hlt)

theorem LvmIdentity.before_trans (a b c : LvmIdentity) (hab : a.before b = true)
    (hbc : b.before c = true) : a.before c = true := by
  unfold LvmIdentity.before at *
  simp only [Bool.or_eq_true, Bool.and_eq_true, decide_eq_true_eq, beq_iff_eq] at *
  rcases hab with hab | ⟨hab, hname⟩
  · rcases hbc with hbc | ⟨hbc, -⟩
    · exact .inl (hab.trans hbc)
    · exact .inl (hbc ▸ hab)
  · rcases hbc with hbc | ⟨hbc, hname'⟩
    · exact .inl (hab ▸ hbc)
    · exact .inr ⟨hab.trans hbc, hname.trans hname'⟩

/-- Records that are sorted either way have one kind and one name. -/
theorem LvmIdentity.before_antisymm {a b : LvmIdentity} (hab : a.before b = true)
    (hba : b.before a = true) : a.kind = b.kind ∧ a.name = b.name := by
  unfold LvmIdentity.before at *
  simp only [Bool.or_eq_true, Bool.and_eq_true, decide_eq_true_eq, beq_iff_eq] at *
  rcases hab with hab | ⟨hab, hname⟩
  · rcases hba with hba | ⟨hba, -⟩
    · exact absurd hba (lt_asymm hab)
    · exact absurd hba.symm hab.ne
  · rcases hba with hba | ⟨-, hname'⟩
    · exact absurd hab.symm hba.ne
    · exact ⟨debugText_injective hab, le_antisymm hname hname'⟩

/-- No source before any, and two sources by their text. -/
def sourceLe (a b : Option String) : Bool :=
  a.all fun source => b.any fun other => decide (source ≤ other)

theorem sourceLe_total (a b : Option String) : sourceLe a b = true ∨ sourceLe b a = true := by
  cases a with
  | none => exact .inl rfl
  | some a =>
    cases b with
    | none => exact .inr rfl
    | some b => simpa [sourceLe] using le_total a b

theorem sourceLe_trans {a b c : Option String} (hab : sourceLe a b = true)
    (hbc : sourceLe b c = true) : sourceLe a c = true := by
  cases a with
  | none => rfl
  | some a =>
    cases b with
    | none => cases hab
    | some b =>
      cases c with
      | none => cases hbc
      | some c =>
        simp only [sourceLe, Option.all_some, Option.any_some, decide_eq_true_eq] at *
        exact hab.trans hbc

theorem sourceLe_antisymm {a b : Option String} (hab : sourceLe a b = true)
    (hba : sourceLe b a = true) : a = b := by
  cases a with
  | none =>
    cases b with
    | none => rfl
    | some b => cases hba
  | some a =>
    cases b with
    | none => cases hab
    | some b =>
      simp only [sourceLe, Option.all_some, Option.any_some, decide_eq_true_eq] at *
      rw [le_antisymm hab hba]

theorem MountIdentity.before_iff (a b : MountIdentity) : a.before b = true ↔
    a.target < b.target ∨ (a.target = b.target ∧ sourceLe a.source b.source = true) := by
  unfold MountIdentity.before
  rw [Bool.or_eq_true, decide_eq_true_eq, Bool.and_eq_true, beq_iff_eq]
  rfl

theorem MountIdentity.before_total (a b : MountIdentity) : (a.before b || b.before a) = true := by
  rw [Bool.or_eq_true, MountIdentity.before_iff, MountIdentity.before_iff]
  obtain hlt | heq | hlt := lt_trichotomy a.target b.target
  · exact .inl (.inl hlt)
  · obtain hle | hle := sourceLe_total a.source b.source
    · exact .inl (.inr ⟨heq, hle⟩)
    · exact .inr (.inr ⟨heq.symm, hle⟩)
  · exact .inr (.inl hlt)

theorem MountIdentity.before_trans (a b c : MountIdentity) (hab : a.before b = true)
    (hbc : b.before c = true) : a.before c = true := by
  rw [MountIdentity.before_iff] at *
  rcases hab with hab | ⟨hab, hsource⟩
  · rcases hbc with hbc | ⟨hbc, -⟩
    · exact .inl (hab.trans hbc)
    · exact .inl (hbc ▸ hab)
  · rcases hbc with hbc | ⟨hbc, hsource'⟩
    · exact .inl (hab ▸ hbc)
    · exact .inr ⟨hab.trans hbc, sourceLe_trans hsource hsource'⟩

theorem MountIdentity.before_antisymm {a b : MountIdentity} (hab : a.before b = true)
    (hba : b.before a = true) : a.target = b.target ∧ a.source = b.source := by
  rw [MountIdentity.before_iff] at *
  rcases hab with hab | ⟨hab, hsource⟩
  · rcases hba with hba | ⟨hba, -⟩
    · exact absurd hba (lt_asymm hab)
    · exact absurd hba.symm hab.ne
  · rcases hba with hba | ⟨-, hsource'⟩
    · exact absurd hab.symm hba.ne
    · exact ⟨hab, sourceLe_antisymm hsource hsource'⟩

end Records

section Routes

/-- What the source of a route names: a device by its alias, or by its logical volume. -/
def named (s : HostSnapshot) (source : String) (d : BlockDevice) : Bool :=
  d.nodeAlias source || (inventory s).logicalVolumes.any fun lv => lv.lvAlias source && lv.lvDevice d

/-- The branches that a source names. -/
def reached (s : HostSnapshot) (source : String) : List Branch :=
  (branches s.storage.blockDevices).filter (named s source ·.device)

theorem addNode_known {devices : List BlockDevice} {nodes : List Node} {node : Node}
    (hnodes : ∀ n ∈ nodes, n ∈ flatten devices) (hnode : node ∈ flatten devices) :
    nodes.any (·.place = node.place) = true ↔ node ∈ nodes := by
  rw [List.any_eq_true]
  constructor
  · rintro ⟨n, hn, hplace⟩
    rw [← node_unique (hnodes n hn) hnode (of_decide_eq_true hplace)]
    exact hn
  · exact fun h => ⟨node, h, decide_eq_true rfl⟩

/-- Adding nodes of one forest adds each that is new, once. -/
theorem foldl_addNode {devices : List BlockDevice} {nodes added : List Node}
    (hnodes : ∀ n ∈ nodes, n ∈ flatten devices) (hadded : ∀ n ∈ added, n ∈ flatten devices)
    (hnodup : nodes.Nodup) : (added.foldl addNode nodes).Nodup ∧
      ∀ n, n ∈ added.foldl addNode nodes ↔ n ∈ nodes ∨ n ∈ added := by
  induction added generalizing nodes with
  | nil => exact ⟨hnodup, fun n => by simp⟩
  | cons node added ih =>
    have hnode := hadded node List.mem_cons_self
    have hrest := fun n hn => hadded n (List.mem_cons_of_mem _ hn)
    rw [List.foldl_cons]
    unfold addNode
    by_cases hknown : nodes.any (·.place = node.place) = true
    · rw [if_pos hknown]
      have hmem := (addNode_known hnodes hnode).mp hknown
      obtain ⟨hnodup', hiff⟩ := ih hnodes hrest hnodup
      refine ⟨hnodup', fun n => (hiff n).trans ?_⟩
      rw [List.mem_cons]
      constructor
      · exact Or.imp_right .inr
      · rintro (h | rfl | h)
        · exact .inl h
        · exact .inl hmem
        · exact .inr h
    · rw [if_neg hknown]
      have hnew : node ∉ nodes := fun h => hknown ((addNode_known hnodes hnode).mpr h)
      obtain ⟨hnodup', hiff⟩ := @ih (nodes ++ [node])
        (fun n hn => by
          rcases List.mem_append.mp hn with h | h
          · exact hnodes n h
          · rw [List.mem_singleton.mp h]
            exact hnode)
        hrest (List.nodup_append.mpr ⟨hnodup, List.nodup_singleton node, fun a ha b hb => by
          rw [List.mem_singleton.mp hb]
          exact fun heq => hnew (heq ▸ ha)⟩)
      refine ⟨hnodup', fun n => (hiff n).trans ?_⟩
      rw [List.mem_append, List.mem_singleton, List.mem_cons, or_assoc]

/-- The candidates of a route are the nodes its source names, in some order. -/
theorem routeCandidates_perm (s : HostSnapshot) (source : String) : (routeCandidates s source).Perm
    (((located s.storage.blockDevices).filter (named s source ·.branch.device)).map
      Located.node) := by
  have hflat := flatten_nodup s.storage.blockDevices
  have hfiltered : ((located s.storage.blockDevices).filter (named s source ·.branch.device)).map
      Located.node = (flatten s.storage.blockDevices).filter (named s source ·.device) := by
    rw [flatten_eq, List.filter_map]
    rfl
  obtain ⟨hnodup, hiff⟩ := @foldl_addNode _
    ((flatten s.storage.blockDevices).filter (·.device.nodeAlias source))
    (((inventory s).logicalVolumes.filter (·.lvAlias source)).flatMap fun lv =>
      (flatten s.storage.blockDevices).filter (lv.lvDevice ·.device))
    (fun n hn => (List.mem_filter.mp hn).1)
    (fun n hn => by
      obtain ⟨lv, -, hn⟩ := List.mem_flatMap.mp hn
      exact (List.mem_filter.mp hn).1)
    (hflat.filter _)
  unfold routeCandidates
  dsimp only
  rw [inventory_logicalVolumes, hfiltered]
  refine (List.perm_ext_iff_of_nodup hnodup (hflat.filter _)).mpr fun n => (hiff n).trans ?_
  simp only [List.mem_filter, List.mem_flatMap, named, Bool.or_eq_true, List.any_eq_true,
    Bool.and_eq_true]
  constructor
  · rintro (⟨hn, halias⟩ | ⟨lv, ⟨hlv, halias⟩, hn, hdevice⟩)
    · exact ⟨hn, .inl halias⟩
    · exact ⟨hn, .inr ⟨lv, hlv, halias, hdevice⟩⟩
  · rintro ⟨hn, halias | ⟨lv, hlv, halias, hdevice⟩⟩
    · exact .inl ⟨hn, halias⟩
    · exact .inr ⟨lv, ⟨hlv, halias⟩, hn, hdevice⟩

theorem reached_eq (s : HostSnapshot) (source : String) : reached s source =
    ((located s.storage.blockDevices).filter (named s source ·.branch.device)).map
      Located.branch := by
  unfold reached
  rw [branches_eq, List.filter_map]
  rfl

/-- A source is routed to a node exactly when it reaches one branch, the node's. -/
theorem routeDevice_of_reached {source : String} {b : Branch} (h : reached s source = [b]) :
    ∃ node, routeDevice s source = .ok node ∧ node.device = b.device ∧
      findPath s.storage.blockDevices node = some b.path := by
  rw [reached_eq] at h
  obtain ⟨l, hl, rfl⟩ := List.map_eq_singleton_iff.mp h
  have hcandidates := routeCandidates_perm s source
  rw [hl, List.map_singleton, List.perm_singleton] at hcandidates
  have hmem : l ∈ located s.storage.blockDevices :=
    (List.mem_filter.mp (hl ▸ List.mem_singleton_self l)).1
  refine ⟨l.node, ?_, rfl, findPath_located hmem⟩
  unfold routeDevice
  rw [hcandidates]

theorem routeDevice_error {source : String}
    (h : (reached s' source).Perm (reached s source)) (hnot : ∀ b, reached s source ≠ [b]) :
    ∃ issue, routeDevice s source = .error issue ∧ routeDevice s' source = .error issue := by
  have hlength : (routeCandidates s source).length = (reached s source).length := by
    rw [(routeCandidates_perm s source).length_eq, List.length_map, reached_eq, List.length_map]
  have hlength' : (routeCandidates s' source).length = (reached s' source).length := by
    rw [(routeCandidates_perm s' source).length_eq, List.length_map, reached_eq, List.length_map]
  unfold routeDevice
  obtain ⟨h', h⟩ | ⟨b, -, h⟩ | ⟨_, _, _, _, _, _, h', h⟩ := perm_cases h
  · rw [h] at hlength
    rw [h'] at hlength'
    rw [List.length_eq_zero_iff.mp hlength, List.length_eq_zero_iff.mp hlength']
    exact ⟨_, rfl, rfl⟩
  · exact absurd h (hnot b)
  · rw [h, List.length_cons, List.length_cons] at hlength
    rw [h', List.length_cons, List.length_cons] at hlength'
    match hs : routeCandidates s source, hs' : routeCandidates s' source with
    | _ :: _ :: _, _ :: _ :: _ => exact ⟨_, rfl, rfl⟩
    | [], _ =>
      rw [hs] at hlength
      cases hlength
    | [_], _ =>
      rw [hs] at hlength
      simp at hlength
    | _, [] =>
      rw [hs'] at hlength'
      cases hlength'
    | _, [_] =>
      rw [hs'] at hlength'
      simp at hlength'

/-- The mounts of a device, and the evidence of its filesystem, in any order. -/
structure SameUsage (s s' : HostSnapshot) (mountpoint : Option String) (d : BlockDevice) :
    Prop where
  mounts : (s'.mounts.filter (·.source.any (mountedFrom s d))).Perm
    (s.mounts.filter (·.source.any (mountedFrom s d)))
  captured : (s'.mounts.filter fun mount => mountpoint.any (mount.target = ·) ||
      mount.source.any (mountedFrom s d)).Perm
    (s.mounts.filter fun mount => mountpoint.any (mount.target = ·) ||
      mount.source.any (mountedFrom s d))
  evidence : (s'.filesystemPreflight.filter (·.device = d.devicePath)).Perm
    (s.filesystemPreflight.filter (·.device = d.devicePath))

theorem routeMount_congr (hfrom : mountedFrom s' d = mountedFrom s d)
    (h : (s'.mounts.filter (·.source.any (mountedFrom s d))).Perm
      (s.mounts.filter (·.source.any (mountedFrom s d)))) (mountpoint : Option String) :
    routeMount s' d mountpoint = routeMount s d mountpoint := by
  unfold routeMount
  cases mountpoint with
  | some mountpoint => rfl
  | none =>
    rw [hfrom]
    dsimp only
    obtain ⟨h', h⟩ | ⟨_, h', h⟩ | ⟨_, _, _, _, _, _, h', h⟩ := perm_cases h
    · rw [h', h]
    · rw [h', h]
    · rw [h', h]

theorem resolvedRoute_congr {b : Branch} {node node' : Node} (target : String)
    (mountpoint : Option String) (hlayers : SameLayers s s' b.path) (hmem : b.device ∈ b.path)
    (husage : (s'.mounts.filter (·.source.any (mountedFrom s b.device))).Perm
      (s.mounts.filter (·.source.any (mountedFrom s b.device))))
    (hnode : node.device = b.device) (hnode' : node'.device = b.device)
    (hpath : findPath s.storage.blockDevices node = some b.path)
    (hpath' : findPath s'.storage.blockDevices node' = some b.path) :
    resolvedRoute s' target node' mountpoint = resolvedRoute s target node mountpoint := by
  unfold resolvedRoute
  rw [hnode, hnode', hpath, hpath', routeMount_congr (hlayers.mountedFrom hmem) husage]
  have happended : b.path.map (appendBlockLayer s' (routeMount s b.device mountpoint).1) =
      b.path.map (appendBlockLayer s (routeMount s b.device mountpoint).1) :=
    List.map_congr_left fun d hd => hlayers.appendBlockLayer hd _
  dsimp only
  rw [happended]

/-- The evidence of one device is all that is asked for the size of its filesystem. -/
theorem observedSize_congr {mountpoint : Option String} {device fsType : String}
    (h : (s'.filesystemPreflight.filter (·.device = device)).Perm
      (s.filesystemPreflight.filter (·.device = device))) :
    observedSize s' mountpoint device fsType = observedSize s mountpoint device fsType := by
  have hfilter : ∀ evidences : List FilesystemPreflightEvidence,
      evidences.filter (fun evidence => evidence.device = device && evidence.fsType = fsType &&
        mountpoint.all (evidence.mountpoint = some ·)) =
      (evidences.filter (·.device = device)).filter fun evidence => evidence.fsType = fsType &&
        mountpoint.all (evidence.mountpoint = some ·) := by
    intro evidences
    rw [List.filter_filter]
    refine congrArg (List.filter · evidences) (funext fun evidence => ?_)
    rw [Bool.and_assoc, Bool.and_comm]
  unfold observedSize
  rw [hfilter, hfilter]
  obtain ⟨h', h⟩ | ⟨_, h', h⟩ | ⟨_, _, _, _, _, _, h', h⟩ := perm_cases (h.filter _)
  · rw [h', h]
  · rw [h', h]
  · rw [h', h]

theorem filesystemIdentity_congr {mountpoint : Option String}
    (h : (s'.filesystemPreflight.filter (·.device = d.devicePath)).Perm
      (s.filesystemPreflight.filter (·.device = d.devicePath))) :
    filesystemIdentity s' mountpoint d = filesystemIdentity s mountpoint d := by
  unfold filesystemIdentity
  simp only [observedSize_congr h]

/-- The first node of a path that only one branch has. -/
theorem pathTo_of_unique {b : Branch} (h : (branches s.storage.blockDevices).filter
    (·.device.devicePath = b.device.devicePath) = [b]) :
    ∃ node, pathTo s b.device.devicePath = some (node, b.path) ∧ node.device = b.device := by
  rw [branches_eq, List.filter_map] at h
  obtain ⟨l, hl, rfl⟩ := List.map_eq_singleton_iff.mp h
  have hmem : l ∈ located s.storage.blockDevices :=
    (List.mem_filter.mp (hl ▸ List.mem_singleton_self l)).1
  have hfind : (flatten s.storage.blockDevices).find?
      (·.device.devicePath = l.branch.device.devicePath) = some l.node := by
    rw [flatten_eq, List.find?_map, ← List.head?_filter]
    exact congrArg (fun ls => (List.head? ls).map Located.node) hl
  refine ⟨l.node, ?_, rfl⟩
  unfold pathTo
  rw [hfind]
  rw [Option.bind_eq_bind, Option.bind_some, findPath_located hmem]
  rfl

end Routes

section Additions

/-- What a host may get besides. -/
structure Additions where
  blockDevices : List BlockDevice
  partitionTables : List PartitionTable
  mounts : List MountEntry
  physicalVolumes : List LvmPhysicalVolume
  volumeGroups : List LvmVolumeGroup
  logicalVolumes : List LvmLogicalVolume
  filesystemPreflight : List FilesystemPreflightEvidence

variable {added : Additions} {target : String}

/-- The second host shows all of the first and what is added, each list in any order. The rest
of a snapshot (swaps, fstab, collectors, diagnostics) may differ in any way. -/
structure Shows (s s' : HostSnapshot) (added : Additions) : Prop where
  blockDevices : s'.storage.blockDevices.Perm (s.storage.blockDevices ++ added.blockDevices)
  partitionTables : s'.partitionTables.Perm (s.partitionTables ++ added.partitionTables)
  mounts : s'.mounts.Perm (s.mounts ++ added.mounts)
  physicalVolumes : (inventory s').physicalVolumes.Perm
    ((inventory s).physicalVolumes ++ added.physicalVolumes)
  volumeGroups : (inventory s').volumeGroups.Perm
    ((inventory s).volumeGroups ++ added.volumeGroups)
  logicalVolumes : (inventory s').logicalVolumes.Perm
    ((inventory s).logicalVolumes ++ added.logicalVolumes)
  filesystemPreflight : s'.filesystemPreflight.Perm
    (s.filesystemPreflight ++ added.filesystemPreflight)

/-- The target is resolved: its source reaches one branch. -/
def OnRoute (s : HostSnapshot) (target : String) (b : Branch) : Prop :=
  ∃ source, (routeSource s target).2 = .ok source ∧ reached s source = [b]

/-- What is added has nothing to do with the branch of a target or with its mounts. -/
structure ApartFrom (s : HostSnapshot) (mountpoint : Option String) (b : Branch)
    (added : Additions) : Prop where
  blockDevices : ∀ other ∈ branches added.blockDevices,
    other.device.devicePath ≠ b.device.devicePath
  partitionTables : ∀ table ∈ added.partitionTables, ∀ record ∈ table.partitions, ∀ d ∈ b.path,
    record.node ≠ d.devicePath
  mounts : ∀ mount ∈ added.mounts, mountpoint ≠ some mount.target ∧
    ¬mount.source.any (mountedFrom s b.device)
  physicalVolumes : ∀ pv ∈ added.physicalVolumes, ∀ d ∈ b.path, ¬d.nodeAlias pv.name
  volumeGroups : ∀ vg ∈ added.volumeGroups, ∀ d ∈ b.path, vg.name ∉ groupNames (inventory s) d
  logicalVolumes : ∀ lv ∈ added.logicalVolumes, ∀ d ∈ b.path, ¬lv.lvDevice d
  filesystemPreflight : ∀ evidence ∈ added.filesystemPreflight,
    evidence.device ≠ b.device.devicePath

/-- Nothing that is added is a mount of the target, is named by its source, or touches its
branch. -/
structure Unrelated (s : HostSnapshot) (target : String) (added : Additions) : Prop where
  mounts : ¬startsWith target "/dev/" → ∀ mount ∈ added.mounts, mount.target ≠ target
  logicalVolumes : ∀ source, (routeSource s target).2 = .ok source →
    ∀ lv ∈ added.logicalVolumes, ¬lv.lvAlias source
  blockDevices : ∀ source, (routeSource s target).2 = .ok source →
    ∀ b ∈ branches added.blockDevices, ¬named s source b.device
  branch : ∀ b, OnRoute s target b →
    ApartFrom s (analyzeLayerRoute s target).mountpoint b added

/-- What a manifest looks up or sorts is told apart by its key, and an inventory that a route
looks into was read on both hosts or on neither. -/
structure ToldApart (s s' : HostSnapshot) (target : String) : Prop where
  device : ∀ b, OnRoute s target b → ((branches s.storage.blockDevices).filter
    (·.device.devicePath = b.device.devicePath)).length ≤ 1
  lvm : ∀ b, OnRoute s target b → ∀ x ∈ collectLvmIdentity s b.path,
    ∀ y ∈ collectLvmIdentity s b.path, x.kind = y.kind → x.name = y.name → x = y
  mounts : ∀ b, OnRoute s target b →
    ∀ x ∈ mountIdentities s (analyzeLayerRoute s target).mountpoint b.device,
    ∀ y ∈ mountIdentities s (analyzeLayerRoute s target).mountpoint b.device,
      x.target = y.target → x.source = y.source → x = y
  discovered : ∀ b, OnRoute s target b → b.path.any isLvmDevice → s'.lvm.isSome = s.lvm.isSome

theorem filter_perm_append {α : Type} {l l' extra : List α} {p : α → Bool}
    (h : l'.Perm (l ++ extra)) (hnone : ∀ a ∈ extra, ¬p a) :
    (l'.filter p).Perm (l.filter p) := by
  have hfiltered := h.filter p
  rwa [List.filter_append, List.filter_eq_nil_iff.mpr hnone, List.append_nil] at hfiltered

theorem Shows.branches (h : Shows s s' added) : (branches s'.storage.blockDevices).Perm
    (branches s.storage.blockDevices ++ branches added.blockDevices) := by
  rw [← branches_append]
  exact branches_perm h.blockDevices

theorem Shows.listings (h : Shows s s' added) {device : String}
    (hnone : ∀ table ∈ added.partitionTables, ∀ record ∈ table.partitions, record.node ≠ device) :
    (listings s' device).Perm (listings s device) := by
  have hlisted := h.partitionTables.filterMap fun table =>
    (table.partitions.find? (·.node = device)).map (table, ·)
  rw [List.filterMap_append] at hlisted
  have hempty : (added.partitionTables.filterMap fun table =>
      (table.partitions.find? (·.node = device)).map (table, ·)) = [] := by
    rw [List.filterMap_eq_nil_iff]
    intro table htable
    rw [Option.map_eq_none_iff, List.find?_eq_none]
    exact fun record hrecord heq => hnone table htable record hrecord (of_decide_eq_true heq)
  rwa [hempty, List.append_nil] at hlisted

theorem Shows.sameLayers {b : Branch} {mountpoint : Option String} (h : Shows s s' added)
    (hapart : ApartFrom s mountpoint b added)
    (hdiscovered : b.path.any isLvmDevice → s'.lvm.isSome = s.lvm.isSome) :
    SameLayers s s' b.path where
  discovered d hd hlvm := hdiscovered (List.any_eq_true.mpr ⟨d, hd, hlvm⟩)
  physicalVolumes d hd := filter_perm_append h.physicalVolumes fun pv hpv =>
    hapart.physicalVolumes pv hpv d hd
  logicalVolumes d hd := filter_perm_append h.logicalVolumes fun lv hlv =>
    hapart.logicalVolumes lv hlv d hd
  volumeGroups d hd _ hname := filter_perm_append h.volumeGroups fun vg hvg heq =>
    hapart.volumeGroups vg hvg d hd (of_decide_eq_true heq ▸ hname)
  listings d hd := h.listings fun table htable record hrecord =>
    hapart.partitionTables table htable record hrecord d hd

theorem Shows.sameUsage {b : Branch} {mountpoint : Option String} (h : Shows s s' added)
    (hapart : ApartFrom s mountpoint b added) : SameUsage s s' mountpoint b.device where
  mounts := filter_perm_append h.mounts fun mount hmount => (hapart.mounts mount hmount).2
  captured := by
    refine filter_perm_append h.mounts fun mount hmount hcaptured => ?_
    obtain ⟨htarget, hsource⟩ := hapart.mounts mount hmount
    rcases Bool.or_eq_true_iff.mp hcaptured with hmountpoint | hfrom
    · cases mountpoint with
      | none => cases hmountpoint
      | some mountpoint => exact htarget (congrArg some (of_decide_eq_true hmountpoint).symm)
    · exact hsource hfrom
  evidence := filter_perm_append h.filesystemPreflight fun evidence hevidence heq =>
    hapart.filesystemPreflight evidence hevidence (of_decide_eq_true heq)

theorem Shows.routeSource (h : Shows s s' added) (hunrelated : Unrelated s target added) :
    routeSource s' target = routeSource s target := by
  unfold Planner.routeSource
  by_cases hdevice : startsWith target "/dev/" = true
  · rw [if_pos hdevice, if_pos hdevice]
  · rw [if_neg hdevice, if_neg hdevice]
    have hmounts := filter_perm_append (p := (·.target = target)) h.mounts
      fun mount hmount heq => hunrelated.mounts hdevice mount hmount (of_decide_eq_true heq)
    obtain ⟨h', hs⟩ | ⟨_, h', hs⟩ | ⟨_, _, _, _, _, _, h', hs⟩ := perm_cases hmounts
    · rw [h', hs]
    · rw [h', hs]
    · rw [h', hs]

theorem Shows.reached (h : Shows s s' added) (hunrelated : Unrelated s target added)
    {source : String} (hsource : (Planner.routeSource s target).2 = .ok source) :
    (reached s' source).Perm (reached s source) := by
  have hnamed : named s' source = named s source := by
    funext d
    have hvolumes := (h.logicalVolumes.any_eq (f := fun lv => lv.lvAlias source && lv.lvDevice d))
    have hnone : added.logicalVolumes.any (fun lv => lv.lvAlias source && lv.lvDevice d) =
        false := by
      rw [List.any_eq_false]
      intro lv hlv halias
      exact hunrelated.logicalVolumes source hsource lv hlv (Bool.and_eq_true_iff.mp halias).1
    rw [List.any_append, hnone, Bool.or_false] at hvolumes
    unfold named
    rw [hvolumes]
  unfold Planner.reached
  rw [hnamed]
  exact filter_perm_append h.branches (hunrelated.blockDevices source hsource)

/-- A route that reaches one branch, on both hosts. -/
theorem analyzeLayerRoute_resolved {source : String} {b : Branch}
    (hvalid : ¬invalidTarget target) (hsource : (routeSource s target).2 = .ok source)
    (hreached : reached s source = [b]) : ∃ node, node.device = b.device ∧
      findPath s.storage.blockDevices node = some b.path ∧
      analyzeLayerRoute s target = resolvedRoute s target node (routeSource s target).1 := by
  obtain ⟨node, hnode, hdevice, hpath⟩ := routeDevice_of_reached hreached
  refine ⟨node, hdevice, hpath, ?_⟩
  unfold analyzeLayerRoute
  rw [if_neg hvalid]
  dsimp only
  rw [hsource]
  dsimp only [bind, Except.bind]
  rw [hnode]

theorem Shows.analyzeLayerRoute (h : Shows s s' added) (hunrelated : Unrelated s target added)
    (hapart : ToldApart s s' target) : analyzeLayerRoute s' target = analyzeLayerRoute s target := by
  have hsame := h.routeSource hunrelated
  by_cases hvalid : invalidTarget target = true
  · unfold Planner.analyzeLayerRoute
    rw [if_pos hvalid, if_pos hvalid]
  · cases hsource : (Planner.routeSource s target).2 with
    | error issue =>
      unfold Planner.analyzeLayerRoute
      rw [if_neg hvalid, if_neg hvalid, hsame]
      dsimp only
      rw [hsource]
      rfl
    | ok source =>
      have hreached := h.reached hunrelated hsource
      by_cases hone : ∃ b, Planner.reached s source = [b]
      · obtain ⟨b, hb⟩ := hone
        have hb' : Planner.reached s' source = [b] := List.perm_singleton.mp (hb ▸ hreached)
        have hroute : OnRoute s target b := ⟨source, hsource, hb⟩
        have hmem : b.device ∈ b.path :=
          mem_path (List.mem_filter.mp (hb ▸ List.mem_singleton_self b)).1
        obtain ⟨node, hdevice, hpath, heq⟩ := analyzeLayerRoute_resolved hvalid hsource hb
        obtain ⟨node', hdevice', hpath', heq'⟩ :=
          analyzeLayerRoute_resolved hvalid (hsame ▸ hsource) hb'
        have happart := hunrelated.branch b hroute
        rw [heq, heq', hsame]
        exact resolvedRoute_congr target _
          (h.sameLayers happart (hapart.discovered b hroute)) hmem (h.sameUsage happart).mounts
          hdevice hdevice' hpath hpath'
      · obtain ⟨issue, herror, herror'⟩ :=
          routeDevice_error hreached fun b hb => hone ⟨b, hb⟩
        unfold Planner.analyzeLayerRoute
        rw [if_neg hvalid, if_neg hvalid, hsame]
        dsimp only
        rw [hsource]
        dsimp only [bind, Except.bind]
        rw [herror, herror']

/-- Only a route that reaches one branch resolves a device, the branch's. -/
theorem onRoute_of_resolved {device : String}
    (h : (analyzeLayerRoute s target).resolvedDevice = some device) :
    ∃ b, OnRoute s target b ∧ b ∈ branches s.storage.blockDevices ∧
      b.device.devicePath = device := by
  by_cases hvalid : invalidTarget target = true
  · unfold analyzeLayerRoute at h
    rw [if_pos hvalid] at h
    cases h
  · cases hsource : (routeSource s target).2 with
    | error issue =>
      unfold analyzeLayerRoute at h
      rw [if_neg hvalid] at h
      dsimp only at h
      rw [hsource] at h
      cases h
    | ok source =>
      by_cases hone : ∃ b, reached s source = [b]
      · obtain ⟨b, hb⟩ := hone
        obtain ⟨node, hdevice, hpath, heq⟩ := analyzeLayerRoute_resolved hvalid hsource hb
        refine ⟨b, ⟨source, hsource, hb⟩, (List.mem_filter.mp (hb ▸ List.mem_singleton_self b)).1, ?_⟩
        rw [heq] at h
        unfold resolvedRoute at h
        dsimp only at h
        rw [hpath] at h
        rw [← hdevice]
        exact Option.some.inj h
      · obtain ⟨issue, herror, -⟩ :=
          routeDevice_error (.refl (reached s source)) fun b hb => hone ⟨b, hb⟩
        unfold analyzeLayerRoute at h
        rw [if_neg hvalid] at h
        dsimp only at h
        rw [hsource] at h
        dsimp only [bind, Except.bind] at h
        rw [herror] at h
        cases h

theorem ToldApart.filter_eq {b : Branch} (h : ToldApart s s' target) (hroute : OnRoute s target b)
    (hmem : b ∈ branches s.storage.blockDevices) : (branches s.storage.blockDevices).filter
      (·.device.devicePath = b.device.devicePath) = [b] := by
  have hfound : b ∈ (branches s.storage.blockDevices).filter
      (·.device.devicePath = b.device.devicePath) :=
    List.mem_filter.mpr ⟨hmem, decide_eq_true rfl⟩
  have hlength := h.device b hroute
  match hs : (branches s.storage.blockDevices).filter
      (·.device.devicePath = b.device.devicePath) with
  | [] =>
    rw [hs] at hfound
    cases hfound
  | [other] =>
    rw [hs] at hfound
    obtain rfl := List.mem_singleton.mp hfound
    exact hs
  | _ :: _ :: _ =>
    rw [hs] at hlength
    simp at hlength

variable [Fingerprint]

/-- What is captured of a target is captured again, the digest included, on every host that
shows the same in another order and with unrelated additions. -/
theorem captureTargetIdentity_stable (h : Shows s s' added) (hunrelated : Unrelated s target added)
    (hapart : ToldApart s s' target) :
    captureTargetIdentity s' target = captureTargetIdentity s target := by
  unfold captureTargetIdentity
  rw [h.analyzeLayerRoute hunrelated hapart]
  dsimp only
  cases hresolved : (analyzeLayerRoute s target).resolvedDevice with
  | none => rfl
  | some device =>
    obtain ⟨b, hroute, hmem, rfl⟩ := onRoute_of_resolved hresolved
    have happart := hunrelated.branch b hroute
    have hlayers := h.sameLayers happart (hapart.discovered b hroute)
    have husage := h.sameUsage happart
    have honly := hapart.filter_eq hroute hmem
    have honly' : (branches s'.storage.blockDevices).filter
        (·.device.devicePath = b.device.devicePath) = [b] := by
      have hperm := @filter_perm_append _ _ _ _ (fun other : Branch =>
        decide (other.device.devicePath = b.device.devicePath)) h.branches fun other hother heq =>
          happart.blockDevices other hother (of_decide_eq_true heq)
      rw [honly] at hperm
      exact List.perm_singleton.mp hperm
    obtain ⟨node, hpath, hdevice⟩ := pathTo_of_unique honly
    obtain ⟨node', hpath', hdevice'⟩ := pathTo_of_unique honly'
    have hpartitions : (b.path.filter (·.kind = .partition)).map (partitionIdentity s') =
        (b.path.filter (·.kind = .partition)).map (partitionIdentity s) :=
      List.map_congr_left fun d hd =>
        partitionIdentity_congr (hlayers.listings d (List.mem_filter.mp hd).1)
    have hlvm : (collectLvmIdentity s' b.path).mergeSort LvmIdentity.before =
        (collectLvmIdentity s b.path).mergeSort LvmIdentity.before := by
      refine (mergeSort_eq_of_perm LvmIdentity.before_trans LvmIdentity.before_total ?_
        hlayers.collectLvmIdentity.symm).symm
      intro x hx y hy hxy hyx
      obtain ⟨hkind, hname⟩ := LvmIdentity.before_antisymm hxy hyx
      exact hapart.lvm b hroute x hx y hy hkind hname
    have hmounts : mountIdentities s' (analyzeLayerRoute s target).mountpoint b.device =
        mountIdentities s (analyzeLayerRoute s target).mountpoint b.device := by
      unfold mountIdentities
      rw [hlayers.mountedFrom (mem_path hmem)]
      refine (mergeSort_eq_of_perm MountIdentity.before_trans MountIdentity.before_total ?_
        (husage.captured.map mountIdentity).symm).symm
      intro x hx y hy hxy hyx
      obtain ⟨htarget, hsource⟩ := MountIdentity.before_antisymm hxy hyx
      exact hapart.mounts b hroute x (List.mem_mergeSort.mpr hx) y (List.mem_mergeSort.mpr hy)
        htarget hsource
    simp only [okOr, Option.elim_some, bind, Except.bind, hpath, hpath', hdevice, hdevice',
      hpartitions, hlvm, hmounts, filesystemIdentity_congr husage.evidence]

end Additions

section Samples

def sampleDevice (name : String) (path : Option String) (kind : NodeKind) (fsType : Option String)
    (children : List BlockDevice) : BlockDevice where
  name
  kernelName := some name
  path
  kind
  sizeBytes := 2 ^ 30
  start512Sector := none
  logicalSectorBytes := some 512
  filesystem := fsType.map (⟨·, none⟩)
  mountpoints := []
  parentKernelName := none
  model := none
  serial := none
  uuid := none
  partitionUuid := none
  partitionTable := none
  children

def sampleDisk (fsType : String) : BlockDevice :=
  sampleDevice "sda" (some "/dev/sda") .disk none
    [sampleDevice "sda1" (some "/dev/sda1") .partition (some fsType) []]

/-- A disk without a path whose name is the path of the partition. -/
def misnamedDisk : BlockDevice := sampleDevice "/dev/sda1" none .disk none []

def otherDisk : BlockDevice := sampleDevice "sdb" (some "/dev/sdb") .disk (some "xfs") []

def sampleMount (target : String) (option : String) : MountEntry where
  source := some "/dev/sda1"
  target
  fsType := some "ext4"
  options := [option]

def samplePv (name : String) (sizeBytes : Nat) : LvmPhysicalVolume where
  name
  uuid := none
  vgName := none
  sizeBytes
  freeBytes := 0
  peStartBytes := none

def sampleHost (roots : List BlockDevice) (mounts : List MountEntry)
    (volumes : Option (List LvmPhysicalVolume)) : HostSnapshot where
  storage := { blockDevices := roots }
  partitionTables := []
  mounts
  fstab := []
  swaps := []
  collectors := []
  lvm := volumes.map (⟨·, [], []⟩)

/-- The partition mounted, and the same with another disk and its mount, found first. -/
def mountedHost : HostSnapshot := sampleHost [sampleDisk "ext4"] [sampleMount "/a" "ro"] none

def otherMount : MountEntry := { sampleMount "/b" "rw" with source := some "/dev/sdb" }

def widenedHost : HostSnapshot :=
  sampleHost [otherDisk, sampleDisk "ext4"] [otherMount, sampleMount "/a" "ro"] none

theorem mountedHost_source {source : String}
    (h : (routeSource mountedHost "/a").2 = .ok source) : source = "/dev/sda1" := by
  have hsource : (routeSource mountedHost "/a").2.toOption = some "/dev/sda1" := by decide +kernel
  rw [h] at hsource
  exact Option.some.inj hsource

/-- The branch of the mounted partition has whatever all reached branches have. -/
theorem mountedHost_onRoute {p : Branch → Prop} (h : ∀ b ∈ reached mountedHost "/dev/sda1", p b)
    (b : Branch) (hroute : OnRoute mountedHost "/a" b) : p b := by
  obtain ⟨source, hsource, hreached⟩ := hroute
  rw [mountedHost_source hsource] at hreached
  have hmem : b ∈ reached mountedHost "/dev/sda1" := by
    rw [hreached]
    exact List.mem_singleton_self b
  exact h b hmem

theorem mountedHost_captured_again :
    captureTargetIdentity widenedHost "/a" = captureTargetIdentity mountedHost "/a" := by
  refine @captureTargetIdentity_stable _ _ ⟨[otherDisk], [], [otherMount], [], [], [], []⟩ _ _
    ⟨.swap _ _ _, .nil, .swap _ _ _, .nil, .nil, .nil, .nil⟩ ⟨?_, ?_, ?_, ?_⟩ ⟨?_, ?_, ?_, ?_⟩
  · decide
  · exact fun _ _ => List.forall_mem_nil _
  · intro source hsource
    rw [mountedHost_source hsource]
    decide +kernel
  · refine mountedHost_onRoute fun b hb => ⟨?_, List.forall_mem_nil _, ?_,
      List.forall_mem_nil _, List.forall_mem_nil _, List.forall_mem_nil _, List.forall_mem_nil _⟩
    · revert b
      decide +kernel
    · revert b
      decide +kernel
  · refine mountedHost_onRoute ?_
    decide +kernel
  · refine mountedHost_onRoute ?_
    decide +kernel
  · intro b _ x hx y hy _ _
    have hone : ∀ z ∈ mountIdentities mountedHost (analyzeLayerRoute mountedHost "/a").mountpoint
        b.device, z = mountIdentity (sampleMount "/a" "ro") := by
      intro z hz
      obtain ⟨mount, hmount, rfl⟩ := List.mem_map.mp (List.mem_mergeSort.mp hz)
      rw [List.mem_singleton.mp (List.mem_filter.mp hmount).1]
    rw [hone x hx, hone y hy]
  · exact fun _ _ _ => rfl

/-- Two mounts at one place from one source, a device of another's name, and two volumes of one
name are captured in the order they are found in; and a route that looks for an inventory tells
whether there is one. -/
theorem capture_follows_order :
    captureTargetIdentity
        (sampleHost [sampleDisk "ext4"] [sampleMount "/a" "ro", sampleMount "/a" "rw"] none)
        "/dev/sda1" ≠
      captureTargetIdentity
        (sampleHost [sampleDisk "ext4"] [sampleMount "/a" "rw", sampleMount "/a" "ro"] none)
        "/dev/sda1" ∧
    captureTargetIdentity (sampleHost [sampleDisk "ext4", misnamedDisk] [] none) "/dev/sda1" ≠
      captureTargetIdentity (sampleHost [misnamedDisk, sampleDisk "ext4"] [] none) "/dev/sda1" ∧
    captureTargetIdentity (sampleHost [sampleDisk "LVM2_member"] []
        (some [samplePv "/dev/sda1" 1, samplePv "/dev/sda1" 2])) "/dev/sda1" ≠
      captureTargetIdentity (sampleHost [sampleDisk "LVM2_member"] []
        (some [samplePv "/dev/sda1" 2, samplePv "/dev/sda1" 1])) "/dev/sda1" ∧
    captureTargetIdentity (sampleHost [sampleDisk "LVM2_member"] [] none) "/dev/sda1" ≠
      captureTargetIdentity (sampleHost [sampleDisk "LVM2_member"] []
        (some [samplePv "/dev/sdb" 1])) "/dev/sda1" := by
  refine ⟨fun h => ?_, fun h => ?_, fun h => ?_, fun h => ?_⟩
  · -- ties keep the order they are found in
    have hmounts := congrArg (fun result => result.toOption.map (·.mounts)) h
    have hsame : [mountIdentity (sampleMount "/a" "ro"), mountIdentity (sampleMount "/a" "rw")] =
        [mountIdentity (sampleMount "/a" "rw"), mountIdentity (sampleMount "/a" "ro")] := by
      refine (List.mergeSort_of_pairwise ?_).symm.trans
        ((Option.some.inj hmounts).trans (List.mergeSort_of_pairwise ?_))
      · decide +kernel
      · decide +kernel
    have hoptions := congrArg List.head? (congrArg (List.map (·.options)) hsame)
    simp [mountIdentity, sampleMount] at hoptions
  · have hdevices := congrArg (fun result => result.toOption.map (·.devices)) h
    revert hdevices
    decide +kernel
  · have hlvm := congrArg (fun result => result.toOption.map (·.lvm)) h
    have hsame : [pvIdentity (samplePv "/dev/sda1" 1), pvIdentity (samplePv "/dev/sda1" 2)] =
        [pvIdentity (samplePv "/dev/sda1" 2), pvIdentity (samplePv "/dev/sda1" 1)] := by
      refine (List.mergeSort_of_pairwise ?_).symm.trans
        ((Option.some.inj hlvm).trans (List.mergeSort_of_pairwise ?_))
      · decide +kernel
      · decide +kernel
    revert hsame
    decide +kernel
  · have hcodes := congrArg (fun result => result.toOption.map (·.routeIssueCodes)) h
    have hsame : ["lvm-inventory-missing"] = ["lvm-pv-not-resolved"] := by
      refine (List.mergeSort_singleton _).symm.trans
        ((Option.some.inj hcodes).trans (List.mergeSort_singleton _))
    revert hsame
    decide

end Samples

end StorageManager.Planner
