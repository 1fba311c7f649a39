import StorageManager.Core.DeviceBranches
import StorageManager.Fingerprint
import StorageManager.Lib.Checks

/-!
# Targets of one snapshot

A target is a device path or a mount point. It resolves to a node of the tree that no other node
is taken for, and whose mount points are those of the mount table.
-/

namespace StorageManager.Discovery.Identity

open Core
open Lib.Checks

set_option autoImplicit false

inductive ResolutionFailure where
  | notFound
  | refused (reason : String)
  deriving DecidableEq

def complete (s : HostSnapshot) (component : String) : Except ResolutionFailure Unit := do
  let status ← unique (·.component = component) s.collectors
    (.refused "required collector evidence is absent or duplicated")
  refuse (status.state ≠ .complete) (.refused "required collector did not complete successfully")

def nodeAlias (device : BlockDevice) (name : String) : Bool :=
  device.path == some name || device.kernelName.any fun n =>
    n != "" && !n.toList.contains '/' && s!"/dev/{n}" == name

/-- The logical volumes with their places in the inventory: a record is compared by reference. -/
def volumes (s : HostSnapshot) : List (LvmLogicalVolume × Nat) :=
  (s.lvm.elim [] (·.logicalVolumes)).zipIdx

def nodes (s : HostSnapshot) : List Node := flatten s.storage.blockDevices

section Sources

def invalidSource (source : String) : Bool :=
  !startsWith source "/dev/" || source == "/dev/" || source.toList.any isControl ||
    source.toList.contains '[' || source.toList.contains ']'

/-- The record of the source, if it is the alias of a logical volume. -/
def sourceVolume (s : HostSnapshot) (source : String) :
    Except ResolutionFailure (Option (LvmLogicalVolume × Nat)) :=
  match (volumes s).filter (·.1.lvAlias source) with
  | [] => .ok none
  | [lv] => do
    complete s "lvm"
    .ok (some lv)
  | _ => .error (.refused "device alias matches multiple logical-volume records")

def sourceDevice (s : HostSnapshot) (source : String) (viaLvm : Option (LvmLogicalVolume × Nat)) :
    Except ResolutionFailure Node :=
  match (nodes s).filter fun n => nodeAlias n.device source || viaLvm.any (·.1.lvDevice n.device) with
  | [] => .error .notFound
  | [device] => .ok device
  | _ => .error (.refused "device source matches multiple block-device occurrences")

def checkKernelName (s : HostSnapshot) (device : BlockDevice) : Except ResolutionFailure Unit :=
  match device.kernelName with
  | none => .ok ()
  | some name => refuse (name = "" ∨ (nodes s).countP (·.device.kernelName == some name) ≠ 1)
      (.refused "kernel device identity is empty or duplicated in the snapshot")

def checkVolume (s : HostSnapshot) (viaLvm : Option (LvmLogicalVolume × Nat))
    (device : BlockDevice) : Except ResolutionFailure Unit :=
  if device.kind = .lvm then do
    complete s "lvm"
    refuse (s.lvm = none) (.refused "LVM inventory is absent")
    let lv ← unique (·.1.lvDevice device) (volumes s)
      (.refused "LVM device has missing or duplicated logical-volume identity evidence")
    refuse (viaLvm.any (·.2 ≠ lv.2))
      (.refused "direct and LVM aliases disagree on logical-volume identity")
  else refuse (viaLvm.isSome = true)
    (.refused "LVM alias conflicts with the reported block-device kind")

def resolveSource (s : HostSnapshot) (source : String) : Except ResolutionFailure Node := do
  refuse (invalidSource source = true)
    (.refused "unsupported or invalid device source; no path rewriting is performed")
  let viaLvm ← sourceVolume s source
  let device ← sourceDevice s source viaLvm
  checkKernelName s device.device
  checkVolume s viaLvm device.device
  .ok device

end Sources

section Targets

/-- A mount point of the device is mounted once, from it, and is no other device's. -/
def confirmMount (s : HostSnapshot) (device : Node) (target : String) :
    Except ResolutionFailure Unit := do
  let mount ← unique (·.target = target) s.mounts
    (.refused "device mountpoint has missing or duplicated active mount evidence")
  let owner ← unique (·.device.mountpoints.contains target) (nodes s)
    (.refused "mountpoint is claimed by multiple block-device occurrences")
  let source ← okOr mount.source (.refused "mount source is absent")
  let resolved ← (resolveSource s source).mapError fun _ =>
    .refused "active mount source is unresolved or ambiguous"
  refuse (owner.place ≠ device.place ∨ resolved.place ≠ device.place)
    (.refused "lsblk and active mount sources disagree on the target device")
  refuse (mount.fsType ≠ device.device.filesystem.map (·.fsType))
    (.refused "lsblk and active mount filesystem types disagree")
  refuse (!mount.options.contains "rw" ||
      mount.options.any fun option => option == "ro" || option == "bind" || option == "rbind")
    (.refused "read-write non-bind mount evidence is required for growth advice")

/-- A mount of the device is one of its mount points. -/
def confirmSource (s : HostSnapshot) (device : Node) (mount : MountEntry) :
    Except ResolutionFailure Unit :=
  match mount.source.map (resolveSource s) with
  | some (.ok resolved) =>
    refuse (resolved.place = device.place ∧ mount.target ∉ device.device.mountpoints)
      (.refused "active mount is absent from the target's lsblk mountpoints")
  | _ => .ok ()

def confirmMounts (s : HostSnapshot) (device : Node) : Except ResolutionFailure Unit := do
  complete s "mounts"
  checkAll (confirmMount s device) device.device.mountpoints
  checkAll (confirmSource s device) s.mounts

def mountRow (s : HostSnapshot) (target : String) : Except ResolutionFailure MountEntry :=
  match s.mounts.filter (·.target = target) with
  | [row] => .ok row
  | [] =>
    if (nodes s).any (·.device.mountpoints.contains target) then
      .error (.refused "lsblk mountpoint has no matching active mount record")
    else .error .notFound
  | _ => .error (.refused "mountpoint has multiple active mount records")

def mountDevice (s : HostSnapshot) (target : String) : Except ResolutionFailure Node := do
  complete s "mounts"
  let row ← mountRow s target
  let source ← okOr row.source (.refused "mount source is absent")
  (resolveSource s source).mapError fun _ =>
    .refused "mount source cannot be resolved uniquely from snapshot evidence"

def invalidTarget (target : String) : Bool :=
  !startsWith target "/" || target == "/dev/" || target.toList.any isControl

def targetDevice (s : HostSnapshot) (target : String) : Except ResolutionFailure Node :=
  if startsWith target "/dev/" then resolveSource s target else mountDevice s target

def resolveTarget (s : HostSnapshot) (target : String) : Except ResolutionFailure Node := do
  refuse (invalidTarget target = true)
    (.refused "target must be an absolute path without control characters")
  complete s "lsblk"
  let device ← targetDevice s target
  confirmMounts s device
  .ok device

end Targets

section Singles

theorem nodes_nodup (s : HostSnapshot) : (nodes s).Nodup := flatten_nodup _

theorem volumes_places_nodup (s : HostSnapshot) : ((volumes s).map Prod.snd).Nodup := by
  unfold volumes
  rw [List.zipIdx_map_snd]
  exact List.nodup_range'

theorem volumes_nodup (s : HostSnapshot) : (volumes s).Nodup :=
  List.Nodup.of_map Prod.snd (volumes_places_nodup s)

end Singles

section Resolution

variable {s : HostSnapshot} {source : String} {n : Node}

/-- The node has this name, by an alias of its own or of its logical volume. -/
def Carries (s : HostSnapshot) (n : Node) (name : String) : Prop :=
  nodeAlias n.device name = true ∨
    ∃ lv ∈ volumes s, lv.1.lvAlias name = true ∧ lv.1.lvDevice n.device = true

/-- What a node must be whatever names it. -/
structure Sound (s : HostSnapshot) (n : Node) : Prop where
  kernelName : checkKernelName s n.device = .ok ()
  volume : n.device.kind = .lvm → complete s "lvm" = .ok () ∧ s.lvm ≠ none ∧
    ∃ lv, (volumes s).filter (·.1.lvDevice n.device) = [lv]

variable {viaLvm : Option (LvmLogicalVolume × Nat)}

theorem sourceVolume_eq_ok_iff : sourceVolume s source = .ok viaLvm ↔
    (volumes s).filter (·.1.lvAlias source) = viaLvm.toList ∧
      (viaLvm.isSome = true → complete s "lvm" = .ok ()) := by
  unfold sourceVolume
  generalize (volumes s).filter (·.1.lvAlias source) = matching
  cases matching with
  | nil =>
    cases viaLvm with
    | none => simp
    | some lv => simp
  | cons lv rest =>
    cases rest with
    | nil =>
      rw [check_eq_ok_iff]
      cases viaLvm with
      | none => simp
      | some lv' => simp [and_comm]
    | cons second rest =>
      cases viaLvm with
      | none => simp
      | some lv' => simp

theorem sourceDevice_eq_ok_iff : sourceDevice s source viaLvm = .ok n ↔ ((nodes s).filter fun n =>
    nodeAlias n.device source || viaLvm.any (·.1.lvDevice n.device)) = [n] := by
  unfold sourceDevice
  generalize (nodes s).filter _ = candidates
  match candidates with
  | [] => simp
  | [device] => simp
  | _ :: _ :: _ => simp

theorem checkVolume_eq_ok_iff {d : BlockDevice} : checkVolume s viaLvm d = .ok () ↔
    if d.kind = .lvm then complete s "lvm" = .ok () ∧ s.lvm ≠ none ∧
      ∃ lv, (volumes s).filter (·.1.lvDevice d) = [lv] ∧ ∀ other ∈ viaLvm, other.2 = lv.2
    else viaLvm = none := by
  unfold checkVolume
  split
  · rw [check_eq_ok_iff, check_eq_ok_iff, refuse_eq_ok_iff, bind_eq_ok_iff]
    simp only [unique_eq_ok_iff, refuse_eq_ok_iff, Option.any_eq_true, decide_eq_true_eq, not_exists,
      not_and, not_not, Option.mem_def]
  · rw [refuse_eq_ok_iff, Option.not_isSome_iff_eq_none]

theorem resolveSource_ok_iff_steps : resolveSource s source = .ok n ↔ invalidSource source = false ∧
    ∃ viaLvm, sourceVolume s source = .ok viaLvm ∧ sourceDevice s source viaLvm = .ok n ∧
      checkKernelName s n.device = .ok () ∧ checkVolume s viaLvm n.device = .ok () := by
  rw [resolveSource, check_eq_ok_iff, refuse_eq_ok_iff, bind_eq_ok_iff, Bool.not_eq_true]
  refine and_congr_right fun _ => exists_congr fun viaLvm => and_congr_right fun _ => ?_
  rw [bind_eq_ok_iff]
  constructor
  · rintro ⟨device, hdevice, h⟩
    rw [check_eq_ok_iff, check_eq_ok_iff] at h
    obtain ⟨hkernel, hvolume, h⟩ := h
    obtain rfl : device = n := Except.ok.inj h
    exact ⟨hdevice, hkernel, hvolume⟩
  · rintro ⟨hdevice, hkernel, hvolume⟩
    refine ⟨n, hdevice, ?_⟩
    rw [check_eq_ok_iff, check_eq_ok_iff]
    exact ⟨hkernel, hvolume, rfl⟩

theorem eq_some_iff_of_matching (h : (volumes s).filter (·.1.lvAlias source) = viaLvm.toList)
    (lv : LvmLogicalVolume × Nat) :
    viaLvm = some lv ↔ lv ∈ volumes s ∧ lv.1.lvAlias source = true := by
  rw [← Option.mem_toList, ← h, List.mem_filter]

/-- Through the record of the source a node is named when it carries the source. -/
theorem named_iff_carries (h : (volumes s).filter (·.1.lvAlias source) = viaLvm.toList) (n : Node) :
    (nodeAlias n.device source || viaLvm.any (·.1.lvDevice n.device)) = true ↔
      Carries s n source := by
  rw [Bool.or_eq_true, Option.any_eq_true, Carries]
  refine or_congr Iff.rfl (exists_congr fun lv => ?_)
  rw [eq_some_iff_of_matching h, and_assoc]

/-- A source resolves to the sound node that alone carries it, and every record that has it as an
alias is that of the node. -/
theorem resolveSource_eq_ok_iff : resolveSource s source = .ok n ↔ invalidSource source = false ∧
    (n ∈ nodes s ∧ Carries s n source ∧ ∀ n' ∈ nodes s, Carries s n' source → n' = n) ∧
    Sound s n ∧ ∀ lv ∈ volumes s, lv.1.lvAlias source = true →
      n.device.kind = .lvm ∧ lv.1.lvDevice n.device = true := by
  rw [resolveSource_ok_iff_steps]
  refine and_congr_right fun _ => ?_
  constructor
  · rintro ⟨viaLvm, hvia, hdevice, hkernel, hvolume⟩
    obtain ⟨hmatching, hcomplete⟩ := sourceVolume_eq_ok_iff.mp hvia
    rw [sourceDevice_eq_ok_iff, filter_eq_singleton_iff (nodes_nodup s)] at hdevice
    simp only [named_iff_carries hmatching] at hdevice
    obtain ⟨⟨hn, hcarries⟩, honly⟩ := hdevice
    rw [checkVolume_eq_ok_iff] at hvolume
    refine ⟨⟨hn, hcarries, honly⟩, ⟨hkernel, fun hkind => ?_⟩, fun lv hlv halias => ?_⟩
    · rw [if_pos hkind] at hvolume
      obtain ⟨hlvm, hsome, lv, hlv, -⟩ := hvolume
      exact ⟨hlvm, hsome, lv, hlv⟩
    · have hmem := (eq_some_iff_of_matching hmatching lv).mpr ⟨hlv, halias⟩
      by_cases hkind : n.device.kind = .lvm
      · rw [if_pos hkind] at hvolume
        obtain ⟨-, -, own, hown, hsame⟩ := hvolume
        obtain ⟨hmine, hdevice⟩ := mem_of_filter_eq_singleton hown
        -- two records at one place are one record
        have hrecord : lv = own := List.inj_on_of_nodup_map (volumes_places_nodup s) hlv hmine
          (hsame lv hmem)
        rw [hrecord]
        exact ⟨hkind, hdevice⟩
      · rw [if_neg hkind] at hvolume
        rw [hvolume] at hmem
        cases hmem
  · rintro ⟨⟨hn, hcarries, honly⟩, hsound, hrecords⟩
    by_cases hvia : ∃ lv ∈ volumes s, lv.1.lvAlias source = true
    · obtain ⟨lv, hlv, halias⟩ := hvia
      obtain ⟨hkind, hdevice⟩ := hrecords lv hlv halias
      obtain ⟨hlvm, hsome, own, hown⟩ := hsound.volume hkind
      have hsame : ∀ other ∈ volumes s, other.1.lvAlias source = true → other = own := by
        intro other hother hnamed
        exact eq_of_filter_eq_singleton hown hother (hrecords other hother hnamed).2
      have hmatching : (volumes s).filter (·.1.lvAlias source) = (some lv).toList := by
        rw [Option.toList_some]
        rw [filter_eq_singleton_iff (volumes_nodup s)]
        refine ⟨⟨hlv, halias⟩, fun other hother hnamed => ?_⟩
        rw [hsame other hother hnamed, hsame lv hlv halias]
      refine ⟨some lv, sourceVolume_eq_ok_iff.mpr ⟨hmatching, fun _ => hlvm⟩, ?_, hsound.kernelName, ?_⟩
      · rw [sourceDevice_eq_ok_iff, filter_eq_singleton_iff (nodes_nodup s)]
        simp only [named_iff_carries hmatching]
        exact ⟨⟨hn, hcarries⟩, honly⟩
      · rw [checkVolume_eq_ok_iff, if_pos hkind]
        refine ⟨hlvm, hsome, own, hown, fun other hother => ?_⟩
        rw [← Option.some.inj hother, hsame lv hlv halias]
    · have hmatching : (volumes s).filter (·.1.lvAlias source) =
          (none : Option (LvmLogicalVolume × Nat)).toList := by
        refine List.filter_eq_nil_iff.mpr fun lv hlv halias => hvia ⟨lv, hlv, halias⟩
      refine ⟨none, sourceVolume_eq_ok_iff.mpr ⟨hmatching, fun h => by cases h⟩, ?_, hsound.kernelName, ?_⟩
      · rw [sourceDevice_eq_ok_iff, filter_eq_singleton_iff (nodes_nodup s)]
        simp only [named_iff_carries hmatching]
        exact ⟨⟨hn, hcarries⟩, honly⟩
      · rw [checkVolume_eq_ok_iff]
        split
        · next hkind =>
          obtain ⟨hlvm, hsome, own, hown⟩ := hsound.volume hkind
          exact ⟨hlvm, hsome, own, hown, fun other hother => by cases hother⟩
        · rfl

end Resolution

section Confirmation

variable {s : HostSnapshot} {n : Node} {target : String}

/-- What the mount table says about the mount points of a node. -/
structure Confirmed (s : HostSnapshot) (n : Node) : Prop where
  collected : complete s "mounts" = .ok ()
  mounted : ∀ target ∈ n.device.mountpoints, ∃ mount source,
    s.mounts.filter (·.target = target) = [mount] ∧ mount.source = some source ∧
      resolveSource s source = .ok n
  owned : ∀ target ∈ n.device.mountpoints, ∀ n' ∈ nodes s, target ∈ n'.device.mountpoints → n' = n
  listed : ∀ mount ∈ s.mounts, ∀ source, mount.source = some source →
    resolveSource s source = .ok n → mount.target ∈ n.device.mountpoints

theorem mem_of_resolveSource {source : String} (h : resolveSource s source = .ok n) :
    n ∈ nodes s := (resolveSource_eq_ok_iff.mp h).2.1.1

theorem confirmMount_ok (hn : n ∈ nodes s) (h : confirmMount s n target = .ok ()) :
    (∃ mount source, s.mounts.filter (·.target = target) = [mount] ∧ mount.source = some source ∧
      resolveSource s source = .ok n) ∧
    ∀ n' ∈ nodes s, target ∈ n'.device.mountpoints → n' = n := by
  obtain ⟨mount, hmount, h⟩ := bind_eq_ok_iff.mp h
  obtain ⟨owner, howner, h⟩ := bind_eq_ok_iff.mp h
  obtain ⟨source, hsource, h⟩ := bind_eq_ok_iff.mp h
  obtain ⟨resolved, hresolved, h⟩ := bind_eq_ok_iff.mp h
  obtain ⟨hplaces, -⟩ := check_eq_ok_iff.mp h
  rw [refuse_eq_ok_iff, not_or, not_not, not_not] at hplaces
  rw [unique_eq_ok_iff] at hmount howner
  rw [okOr_eq_ok_iff] at hsource
  rw [mapError_eq_ok_iff] at hresolved
  obtain rfl : resolved = n := node_unique (mem_of_resolveSource hresolved) hn hplaces.2
  obtain ⟨hmem, -⟩ := mem_of_filter_eq_singleton howner
  obtain rfl : owner = resolved := node_unique hmem hn hplaces.1
  refine ⟨⟨mount, source, hmount, hsource, hresolved⟩, fun n' hn' htarget => ?_⟩
  exact eq_of_filter_eq_singleton howner hn' (List.contains_iff_mem.mpr htarget)

theorem confirmed_of_confirmMounts (hn : n ∈ nodes s) (h : confirmMounts s n = .ok ()) :
    Confirmed s n := by
  rw [confirmMounts, check_eq_ok_iff, check_eq_ok_iff, checkAll_eq_ok_iff, checkAll_eq_ok_iff] at h
  obtain ⟨hcomplete, hmounted, hlisted⟩ := h
  refine ⟨hcomplete, fun target htarget => (confirmMount_ok hn (hmounted target htarget)).1,
    fun target htarget => (confirmMount_ok hn (hmounted target htarget)).2, ?_⟩
  intro mount hmount source hsource hresolved
  have hchecked := hlisted mount hmount
  rw [confirmSource, hsource, Option.map_some, hresolved] at hchecked
  dsimp only at hchecked
  rw [refuse_eq_ok_iff, not_and, not_not] at hchecked
  exact hchecked rfl

theorem mountDevice_eq_ok_iff : mountDevice s target = .ok n ↔ complete s "mounts" = .ok () ∧
    ∃ row source, s.mounts.filter (·.target = target) = [row] ∧ row.source = some source ∧
      resolveSource s source = .ok n := by
  have hrow : ∀ row, mountRow s target = .ok row ↔ s.mounts.filter (·.target = target) = [row] := by
    intro row
    unfold mountRow
    generalize s.mounts.filter (·.target = target) = rows
    match rows with
    | [] =>
      show (if _ then _ else _) = _ ↔ _
      split <;> simp
    | [other] => simp
    | _ :: _ :: _ => simp
  rw [mountDevice, check_eq_ok_iff, bind_eq_ok_iff]
  simp only [hrow, bind_eq_ok_iff, okOr_eq_ok_iff, mapError_eq_ok_iff, exists_and_left]

theorem resolveTarget_eq_ok_iff : resolveTarget s target = .ok n ↔ invalidTarget target = false ∧
    complete s "lsblk" = .ok () ∧
    targetDevice s target = .ok n ∧ confirmMounts s n = .ok () := by
  rw [resolveTarget, check_eq_ok_iff, check_eq_ok_iff, refuse_eq_ok_iff, Bool.not_eq_true,
    bind_eq_ok_iff]
  refine and_congr_right fun _ => and_congr_right fun _ => ?_
  constructor
  · rintro ⟨device, hdevice, h⟩
    obtain ⟨hconfirmed, h⟩ := check_eq_ok_iff.mp h
    obtain rfl : device = n := Except.ok.inj h
    exact ⟨hdevice, hconfirmed⟩
  · rintro ⟨hdevice, hconfirmed⟩
    exact ⟨n, hdevice, check_eq_ok_iff.mpr ⟨hconfirmed, rfl⟩⟩

end Confirmation

section Agreement

variable {s : HostSnapshot} {d e : Node} {m p target : String}

/-- The node has this target: as a device by an alias, or as one of its mount points. -/
def Names (s : HostSnapshot) (n : Node) (target : String) : Prop :=
  if startsWith target "/dev/" = true then Carries s n target else target ∈ n.device.mountpoints

/-- What a resolution says: the node alone has the target, and its mount points are the targets of
the mounts from it. -/
structure Resolved (s : HostSnapshot) (target : String) (n : Node) : Prop where
  known : n ∈ nodes s
  named : Names s n target
  only : ∀ n' ∈ nodes s, Names s n' target → n' = n
  mountpoints : ∀ point, point ∈ n.device.mountpoints ↔ ∃ mount ∈ s.mounts, mount.target = point ∧
    ∃ source, mount.source = some source ∧ resolveSource s source = .ok n

/-- No other node has the path, and no record of a logical volume where the node is none. -/
structure Clear (s : HostSnapshot) (n : Node) (path : String) : Prop where
  valid : invalidSource path = false
  only : ∀ n' ∈ nodes s, Carries s n' path → n' = n
  record : n.device.kind = .lvm ∨ ∀ lv ∈ volumes s, ¬lv.1.lvAlias path = true

theorem resolved_of_resolveTarget (h : resolveTarget s target = .ok e) : Resolved s target e := by
  obtain ⟨-, -, hdevice, hconfirmed⟩ := resolveTarget_eq_ok_iff.mp h
  have hsource : ∃ source, resolveSource s source = .ok e := by
    unfold targetDevice at hdevice
    split at hdevice
    · exact ⟨target, hdevice⟩
    · obtain ⟨-, -, source, -, -, hsource⟩ := mountDevice_eq_ok_iff.mp hdevice
      exact ⟨source, hsource⟩
  have hknown := mem_of_resolveSource hsource.choose_spec
  have hconfirmed := confirmed_of_confirmMounts hknown hconfirmed
  have hpoints : ∀ point, point ∈ e.device.mountpoints ↔ ∃ mount ∈ s.mounts,
      mount.target = point ∧ ∃ source, mount.source = some source ∧
        resolveSource s source = .ok e := by
    intro point
    constructor
    · intro hpoint
      obtain ⟨mount, source, hmount, hsource, hresolved⟩ := hconfirmed.mounted point hpoint
      obtain ⟨hmem, htarget⟩ := mem_of_filter_eq_singleton hmount
      exact ⟨mount, hmem, of_decide_eq_true htarget, source, hsource, hresolved⟩
    · rintro ⟨mount, hmem, rfl, source, hsource, hresolved⟩
      exact hconfirmed.listed mount hmem source hsource hresolved
  unfold targetDevice at hdevice
  split at hdevice
  · next hdev =>
    obtain ⟨-, ⟨-, hcarries, honly⟩, -⟩ := resolveSource_eq_ok_iff.mp hdevice
    have hnames : ∀ n, Names s n target ↔ Carries s n target := fun n => by
      rw [Names, if_pos hdev]
    refine ⟨hknown, (hnames e).mpr hcarries, fun n' hn' hnamed => ?_, hpoints⟩
    exact honly n' hn' ((hnames n').mp hnamed)
  · next hdev =>
    obtain ⟨-, row, source, hrow, hsource, hresolved⟩ := mountDevice_eq_ok_iff.mp hdevice
    obtain ⟨hmem, htarget⟩ := mem_of_filter_eq_singleton hrow
    have hpoint : target ∈ e.device.mountpoints :=
      (hpoints target).mpr ⟨row, hmem, of_decide_eq_true htarget, source, hsource, hresolved⟩
    have hnames : ∀ n, Names s n target ↔ target ∈ n.device.mountpoints := fun n => by
      rw [Names, if_neg hdev]
    refine ⟨hknown, (hnames e).mpr hpoint, fun n' hn' hnamed => ?_, hpoints⟩
    exact hconfirmed.owned target hpoint n' hn' ((hnames n').mp hnamed)

theorem absolute_of_dev (h : startsWith p "/dev/" = true) : startsWith p "/" = true := by
  have hdev : "/dev/".toList <+: p.toList := List.isPrefixOf_iff_prefix.mp h
  have hslash : "/".toList <+: "/dev/".toList := by decide
  exact List.isPrefixOf_iff_prefix.mpr (hslash.trans hdev)

/-- A valid source is a valid target. -/
theorem valid_target (hdev : startsWith p "/dev/" = true) (h : invalidSource p = false) :
    invalidTarget p = false := by
  simp only [invalidSource, Bool.or_eq_false_iff] at h
  obtain ⟨⟨⟨⟨-, hbare⟩, hcontrol⟩, -⟩, -⟩ := h
  rw [invalidTarget, absolute_of_dev hdev, hbare, hcontrol]
  rfl

/-- A path and a mount point of a device resolve to the device, and the path does whenever the
mount point does unless something else has the path too. -/
theorem resolution_agrees (hd : d ∈ nodes s) (hm : m ∈ d.device.mountpoints)
    (hmount : invalidTarget m = false) (hplain : ¬startsWith m "/dev/" = true)
    (hp : d.device.path = some p) (hdev : startsWith p "/dev/" = true) :
    (∀ e, resolveTarget s p = .ok e → e = d ∧ resolveTarget s m = .ok d) ∧
    (∀ e, resolveTarget s m = .ok e → e = d ∧ (resolveTarget s p = .ok d ↔ Clear s d p)) ∧
    ∀ target e, resolveTarget s target = .ok e → Resolved s target e := by
  have hcarries : Carries s d p := by
    refine .inl ?_
    rw [nodeAlias, hp, beq_self_eq_true, Bool.true_or]
  have hdirect : targetDevice s p = resolveSource s p := if_pos hdev
  have hindirect : targetDevice s m = mountDevice s m := if_neg hplain
  refine ⟨fun e he => ?_, fun e he => ?_, fun target e => resolved_of_resolveTarget⟩
  · obtain ⟨-, hlsblk, hdevice, hconfirmed⟩ := resolveTarget_eq_ok_iff.mp he
    rw [hdirect] at hdevice
    obtain ⟨-, ⟨-, -, honly⟩, -⟩ := resolveSource_eq_ok_iff.mp hdevice
    obtain rfl : d = e := honly d hd hcarries
    obtain ⟨mount, source, hrow, hsource, hresolved⟩ :=
      (confirmed_of_confirmMounts hd hconfirmed).mounted m hm
    refine ⟨rfl, resolveTarget_eq_ok_iff.mpr ⟨hmount, hlsblk, ?_, hconfirmed⟩⟩
    rw [hindirect, mountDevice_eq_ok_iff]
    exact ⟨(confirmed_of_confirmMounts hd hconfirmed).collected, mount, source, hrow, hsource, hresolved⟩
  · have hresolved := resolved_of_resolveTarget he
    have hnamed : Names s d m := by
      rw [Names, if_neg hplain]
      exact hm
    obtain rfl : d = e := hresolved.only d hd hnamed
    obtain ⟨-, hlsblk, hdevice, hconfirmed⟩ := resolveTarget_eq_ok_iff.mp he
    rw [hindirect, mountDevice_eq_ok_iff] at hdevice
    obtain ⟨-, row, source, -, -, hsource⟩ := hdevice
    obtain ⟨-, -, hsound, -⟩ := resolveSource_eq_ok_iff.mp hsource
    refine ⟨rfl, fun h => ?_, fun hclear => ?_⟩
    · obtain ⟨-, -, hpath, -⟩ := resolveTarget_eq_ok_iff.mp h
      rw [hdirect] at hpath
      obtain ⟨hvalid, ⟨-, -, honly⟩, -, hrecords⟩ := resolveSource_eq_ok_iff.mp hpath
      refine ⟨hvalid, honly, ?_⟩
      by_cases hkind : d.device.kind = .lvm
      · exact .inl hkind
      · exact .inr fun lv hlv halias => hkind (hrecords lv hlv halias).1
    · refine resolveTarget_eq_ok_iff.mpr ⟨valid_target hdev hclear.valid, hlsblk, ?_, hconfirmed⟩
      rw [hdirect, resolveSource_eq_ok_iff]
      refine ⟨hclear.valid, ⟨hd, hcarries, hclear.only⟩, hsound, fun lv hlv halias => ⟨?_, ?_⟩⟩
      · exact hclear.record.resolve_right fun hnone => hnone lv hlv halias
      · rw [LvmLogicalVolume.lvDevice, hp]
        exact halias

def sampleDevice (path kernelName : String) (mountpoints : List String) : BlockDevice where
  name := kernelName
  kernelName := some kernelName
  path := some path
  kind := .crypt
  sizeBytes := 4096
  start512Sector := none
  logicalSectorBytes := none
  filesystem := some ⟨"ext4", none⟩
  mountpoints
  parentKernelName := none
  model := none
  serial := none
  uuid := none
  partitionUuid := none
  partitionTable := none
  children := []

/-- Two mapped devices that are mounted from their kernel names; the second one has this path. -/
def sampleSnapshot (path : String) : HostSnapshot where
  storage := ⟨[sampleDevice "/dev/mapper/data" "dm-0" ["/data"], sampleDevice path "dm-1" ["/backup"]]⟩
  partitionTables := []
  mounts := [⟨some "/dev/dm-0", "/data", some "ext4", ["rw"]⟩,
    ⟨some "/dev/dm-1", "/backup", some "ext4", ["rw"]⟩]
  fstab := []
  swaps := []
  collectors := [⟨"lsblk", .complete, none⟩, ⟨"mounts", .complete, none⟩]

def sampleNode : Node := ⟨[0], sampleDevice "/dev/mapper/data" "dm-0" ["/data"]⟩

def sampleSecond (path : String) : Node := ⟨[1], sampleDevice path "dm-1" ["/backup"]⟩

/-- With one path for two devices the mount point resolves and the path does not. A path that is
the mount point of another device resolves to that one. -/
theorem resolution_disagrees_sample :
    (sampleNode ∈ nodes (sampleSnapshot "/dev/mapper/data") ∧
      sampleNode.device.path = some "/dev/mapper/data" ∧ "/data" ∈ sampleNode.device.mountpoints ∧
      resolveTarget (sampleSnapshot "/dev/mapper/data") "/data" = .ok sampleNode ∧
      resolveTarget (sampleSnapshot "/dev/mapper/data") "/dev/mapper/data" =
        .error (.refused "device source matches multiple block-device occurrences")) ∧
    (sampleSecond "/data" ∈ nodes (sampleSnapshot "/data") ∧
      (sampleSecond "/data").device.path = some "/data" ∧
      "/backup" ∈ (sampleSecond "/data").device.mountpoints ∧
      resolveTarget (sampleSnapshot "/data") "/backup" = .ok (sampleSecond "/data") ∧
      resolveTarget (sampleSnapshot "/data") "/data" = .ok sampleNode) :=
  ⟨⟨List.mem_cons_self, rfl, List.mem_cons_self, rfl, rfl⟩,
    List.mem_cons_of_mem _ List.mem_cons_self, rfl, List.mem_cons_self, rfl, rfl⟩

theorem resolution_agrees_sample :
    (∀ e, resolveTarget (sampleSnapshot "/dev/mapper/other") "/dev/mapper/data" = .ok e →
      e = sampleNode ∧
        resolveTarget (sampleSnapshot "/dev/mapper/other") "/data" = .ok sampleNode) ∧
    (∀ e, resolveTarget (sampleSnapshot "/dev/mapper/other") "/data" = .ok e → e = sampleNode ∧
      (resolveTarget (sampleSnapshot "/dev/mapper/other") "/dev/mapper/data" = .ok sampleNode ↔
        Clear (sampleSnapshot "/dev/mapper/other") sampleNode "/dev/mapper/data")) ∧
    ∀ target e, resolveTarget (sampleSnapshot "/dev/mapper/other") target = .ok e →
      Resolved (sampleSnapshot "/dev/mapper/other") target e :=
  resolution_agrees List.mem_cons_self List.mem_cons_self (by decide) (by decide) rfl (by decide)

end Agreement

end StorageManager.Discovery.Identity
