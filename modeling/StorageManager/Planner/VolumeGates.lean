import StorageManager.Planner.UnderlyingRoom

/-!
# What a volume must pass before its growth is measured

The builder of free extents checks the volume first and the amount last. The checks name no
lack of capacity; of a volume that may grow from below they ask four things more.
-/

namespace StorageManager.Planner.Extend

open Core (BlockDevice HostCapabilities HostSnapshot LvmLogicalVolume LvmVolumeGroup Node)
open Lib.Checks
open Lib.Word64

set_option autoImplicit false

variable {s : HostSnapshot} {capabilities : HostCapabilities} {target : String}

section Capacity

/-- The codes by which the builder of free extents says that it found too few of them. -/
def lacksCapacity (code : String) : Bool :=
  code = "insufficient-capacity" || code = "no-growth"

variable {α β : Type} {code : String}

/-- A computation that never stops for a lack of capacity. -/
def Spares (x : Except Blocker α) : Prop :=
  ∀ blocker, x = .error blocker → lacksCapacity blocker.code = false

theorem spares_ok {a : α} : Spares (.ok a : Except Blocker α) := by
  intro blocker h
  cases h

theorem spares_error {blocker : Blocker} (h : lacksCapacity blocker.code = false) :
    Spares (.error blocker : Except Blocker α) := by
  intro found heq
  cases heq
  exact h

theorem Spares.bind {x : Except Blocker α} {f : α → Except Blocker β} (hx : Spares x)
    (hf : ∀ a, Spares (f a)) : Spares (x >>= f) := by
  cases x with
  | error blocker => exact spares_error (hx blocker rfl)
  | ok a => exact hf a

theorem spares_ensure {p : Prop} [Decidable p] {message : String}
    (h : lacksCapacity code = false) : Spares (ensure p code message) := by
  unfold ensure refuse
  split
  · exact spares_error h
  · exact spares_ok

theorem spares_okOr {x : Option α} {message : String} (h : lacksCapacity code = false) :
    Spares (okOr x (blocked code message)) := by
  cases x with
  | none => exact spares_error h
  | some a => exact spares_ok

theorem spares_unique {items : List α} (h : lacksCapacity code = false) :
    Spares (unique items code) := by
  unfold unique
  split
  · exact spares_error h
  · exact spares_ok
  · exact spares_error h

theorem spares_checkAll {check : α → Except Blocker Unit} (h : ∀ a, Spares (check a))
    (as : List α) : Spares (checkAll check as) := by
  induction as with
  | nil => exact spares_ok
  | cons a as ih => exact (h a).bind fun _ => ih

theorem spares_ensureTool {message tool : String} :
    Spares (ensureTool capabilities message tool) :=
  (spares_unique (by decide)).bind fun _ => spares_ensure (by decide)

end Capacity

section Gates

/-- The volume of a target with its group and filesystem, past every check of the builder of
free extents but those of the amount. -/
def volumeGates (s : HostSnapshot) (capabilities : HostCapabilities) (target : String) :
    Except Blocker (Node × LvmLogicalVolume × LvmVolumeGroup × Core.Filesystem) := do
  collectorsComplete s lvmCollectors
    "all six collectors must complete for the initial preview profile"
  ensure (¬hasErrorDiagnostic s) "diagnostic-error"
    "the snapshot contains error-level diagnostics"
  ensure (¬invalidTarget target) "invalid-target"
    "target must be a nonempty device path or exact mountpoint"
  let lvm ← okOr s.lvm (blocked "lvm-missing" "LVM inventory is absent")
  let route := resolveExtendRouteAdapter s target
  let (device, lv) ← volumeTarget s lvm route
  let vg ← volumeGroup s lvm device lv
  let fs ← okOr device.device.filesystem
    (blocked "filesystem-missing" "filesystem type is absent")
  ensure (fs.fsType = "ext4" ∨ fs.fsType = "xfs") "unsupported-filesystem"
    "filesystem is unsupported; only ext4 and XFS previews are supported"
  volumeMount s device.device lv fs.fsType route.mountpoint
  ensure (¬s.swaps.any fun swap => namesVolume device.device lv swap.name) "active-swap"
    "the target is reported as active swap"
  volumeTools capabilities fs.fsType route.mountpoint
  pure (device, lv, vg, fs)

def freeExtentsSteps (vg : LvmVolumeGroup) (lv : LvmLogicalVolume) (fsType : String)
    (mountpoint : Option String) (extents expectedLvSizeBytes : Nat) : List PlanStep :=
  [step 1 .revalidateSnapshot .notApplicable,
    step 2 (.backupLvmMetadata (vg.uuid.getD "")) .reversible,
    step 3 (.extendLogicalVolume (lv.uuid.getD "") extents expectedLvSizeBytes) .irreversible,
    step 4 (.growFilesystem fsType mountpoint) .irreversible,
    step 5 .rediscoverAndVerify .notApplicable]

/-- The builder of free extents looks at the amount once the volume has passed. -/
theorem buildCandidate_eq (s : HostSnapshot) (capabilities : HostCapabilities) (target : String)
    (growth : Growth) : buildCandidate s capabilities ⟨target, growth⟩ =
      volumeGates s capabilities target >>= fun (device, lv, vg, fs) =>
        growVolume device.device lv vg growth >>= fun (extents, size) =>
          pure (size, freeExtentsSteps vg lv fs.fsType
            (resolveExtendRouteAdapter s target).mountpoint extents size.expectedLvSizeBytes) := by
  unfold buildCandidate volumeGates freeExtentsSteps
  simp only [bind_assoc, pure_bind]

theorem spares_volumeTarget {lvm : Core.LvmInventory} {route : ExtendRouteAdapter} :
    Spares (volumeTarget s lvm route) := by
  unfold volumeTarget
  refine (spares_ensure (by decide)).bind fun _ => ?_
  refine (spares_okOr (by decide)).bind fun _ => ?_
  refine (spares_unique (by decide)).bind fun _ => ?_
  refine (spares_unique (by decide)).bind fun _ => ?_
  refine (spares_ensure (by decide)).bind fun _ => ?_
  refine (spares_ensure (by decide)).bind fun _ => ?_
  refine (spares_ensure (by decide)).bind fun _ => ?_
  exact (spares_ensure (by decide)).bind fun _ => spares_ok

theorem spares_volumeGroup {lvm : Core.LvmInventory} {device : Node} {lv : LvmLogicalVolume} :
    Spares (volumeGroup s lvm device lv) := by
  unfold volumeGroup
  refine (spares_unique (by decide)).bind fun _ => ?_
  refine (spares_ensure (by decide)).bind fun _ => ?_
  refine (spares_ensure (by decide)).bind fun _ => ?_
  refine (spares_unique (by decide)).bind fun _ => ?_
  refine (spares_unique (by decide)).bind fun _ => ?_
  refine (spares_ensure (by decide)).bind fun _ => ?_
  refine (spares_checkAll (fun _ => spares_ensure (by decide)) _).bind fun _ => ?_
  refine (spares_ensure (by decide)).bind fun _ => ?_
  exact (spares_ensure (by decide)).bind fun _ => spares_ok

theorem spares_volumeMount {device : BlockDevice} {lv : LvmLogicalVolume} {fsType : String}
    {mountpoint : Option String} : Spares (volumeMount s device lv fsType mountpoint) := by
  unfold volumeMount
  cases mountpoint with
  | some mountpoint => exact (spares_unique (by decide)).bind fun _ => spares_ensure (by decide)
  | none =>
    dsimp only
    split
    · exact spares_error (by decide)
    · exact spares_ensure (by decide)

theorem spares_volumeTools {fsType : String} {mountpoint : Option String} :
    Spares (volumeTools capabilities fsType mountpoint) := by
  unfold volumeTools
  refine (spares_checkAll (fun _ => spares_ensureTool) _).bind fun _ => ?_
  split
  · exact spares_ensureTool
  · exact spares_ok

/-- A volume that does not pass is not said to lack capacity. -/
theorem spares_volumeGates : Spares (volumeGates s capabilities target) := by
  unfold volumeGates
  refine (spares_checkAll (fun _ => (spares_unique (by decide)).bind fun _ =>
    spares_ensure (by decide)) _).bind fun _ => ?_
  refine (spares_ensure (by decide)).bind fun _ => ?_
  refine (spares_ensure (by decide)).bind fun _ => ?_
  refine (spares_okOr (by decide)).bind fun _ => ?_
  refine spares_volumeTarget.bind fun _ => ?_
  refine spares_volumeGroup.bind fun _ => ?_
  refine (spares_okOr (by decide)).bind fun _ => ?_
  refine (spares_ensure (by decide)).bind fun _ => ?_
  refine spares_volumeMount.bind fun _ => ?_
  refine (spares_ensure (by decide)).bind fun _ => ?_
  exact spares_volumeTools.bind fun _ => spares_ok

end Gates

section Checks

/-- What the builder of free extents asks of a volume that may grow from below, and the builder
that grows it from below does not. -/
structure FreeExtentsChecks (s : HostSnapshot) (capabilities : HostCapabilities)
    (stack : VolumeStack) : Prop where
  identified : ∀ id ∈ [stack.pv.uuid, stack.vg.uuid, stack.lv.uuid, stack.device.device.uuid],
    id.any (· ≠ "")
  sizes : stack.lv.sizeBytes = stack.device.device.sizeBytes ∧ 0 < stack.lv.sizeBytes ∧
    stack.vg.sizeBytes ≤ stack.pv.sizeBytes ∧ stack.vg.freeBytes ≤ stack.vg.sizeBytes
  noSwap : ¬s.swaps.any fun swap => namesVolume stack.device.device stack.lv swap.name
  tools : ∀ tool ∈ ["vgcfgbackup", "lvextend", growTool stack.fs.fsType],
    ToolReported capabilities tool

variable {stack : VolumeStack} {backing : Backing} {slack : Nat}

theorem UnderlyingRoom.volumeTarget_eq (room : UnderlyingRoom s target stack backing slack) :
    volumeTarget s stack.lvm (resolveExtendRouteAdapter s target) =
      .ok (stack.device, stack.lv) := by
  have facts := room.facts
  obtain ⟨resolvedDevice, hresolved, hdevice⟩ := facts.device
  obtain ⟨mountpoint, hmountpoint, -⟩ := facts.mounted
  obtain ⟨hkind, hleaf, hchain, hlayout, hrole, hattributes⟩ := facts.linear
  have hexpected : stack.lv.attributes =
      some (expectedLvAttributes (resolveExtendRouteAdapter s target).mountpoint) := by
    rw [hattributes, hmountpoint]
    rfl
  unfold volumeTarget
  simp only [bind_eq_ok_iff, exists_check_iff, ensure_eq_ok_iff, okOr_eq_ok_iff,
    unique_eq_ok_iff]
  exact ⟨facts.profile, resolvedDevice, hresolved, _, hdevice, _, facts.lv, hkind, hleaf, hchain,
    ⟨hlayout, hrole, hexpected⟩, rfl⟩

theorem UnderlyingRoom.volumeGroup_eq (room : UnderlyingRoom s target stack backing slack)
    (checks : FreeExtentsChecks s capabilities stack) :
    volumeGroup s stack.lvm stack.device stack.lv = .ok stack.vg := by
  have facts := room.facts
  obtain ⟨hattributes, hmissing, hsingle⟩ := facts.single
  obtain ⟨hplain, hcontains, hmember, huuid, hfits, -, hfree⟩ := facts.backing
  obtain ⟨hlv, hpositive, hvg, hvgFree⟩ := checks.sizes
  obtain ⟨peStartBytes, -, husable⟩ := facts.usable
  have hdevice : stack.usableBackingBytes ≤ stack.pvDevice.device.sizeBytes := by
    rw [← (checkedSub_eq_some_iff.mp husable).2]
    exact Nat.sub_le _ _
  unfold volumeGroup
  simp only [bind_eq_ok_iff, exists_check_iff, ensure_eq_ok_iff, unique_eq_ok_iff,
    checkAll_eq_ok_iff]
  exact ⟨_, facts.vg, ⟨hattributes, hmissing⟩, hsingle, _, facts.pv, _, facts.pvDevice,
    ⟨hplain, hcontains, hmember⟩, checks.identified, huuid,
    ⟨hlv, hpositive, hfits.trans hdevice, hvg, hvgFree, hfree⟩, rfl⟩

theorem UnderlyingRoom.volumeMount_eq (room : UnderlyingRoom s target stack backing slack) :
    volumeMount s stack.device.device stack.lv stack.fs.fsType
      (resolveExtendRouteAdapter s target).mountpoint = .ok () := by
  obtain ⟨mountpoint, hmountpoint, hmount⟩ := room.facts.mounted
  have htarget : stack.mount.target = mountpoint := by
    simpa using (mem_of_filter_eq_singleton hmount).2
  rw [hmountpoint]
  simp only [volumeMount, bind_eq_ok_iff, ensure_eq_ok_iff, unique_eq_ok_iff]
  refine ⟨_, hmount, room.facts.confirmed, ?_⟩
  rw [htarget, hmount]
  rfl

/-- A volume that may grow from below and meets the four further demands passes. -/
theorem UnderlyingRoom.passes (room : UnderlyingRoom s target stack backing slack)
    (checks : FreeExtentsChecks s capabilities stack) :
    volumeGates s capabilities target = .ok (stack.device, stack.lv, stack.vg, stack.fs) := by
  obtain ⟨mountpoint, hmountpoint, -⟩ := room.facts.mounted
  have htools : volumeTools capabilities stack.fs.fsType
      (resolveExtendRouteAdapter s target).mountpoint = .ok () := by
    refine volumeTools_eq_ok_iff.mpr ⟨checks.tools, fun _ hnone => ?_⟩
    rw [hmountpoint] at hnone
    cases hnone
  unfold volumeGates
  simp only [bind_eq_ok_iff, exists_check_iff, ensure_eq_ok_iff, okOr_eq_ok_iff,
    collectorsComplete_eq_ok_iff]
  exact ⟨room.collected, room.clean, room.valid, _, room.facts.lvm, _, room.volumeTarget_eq, _,
    room.volumeGroup_eq checks, _, room.facts.filesystem, room.facts.known, room.volumeMount_eq,
    checks.noSwap, htools, rfl⟩

/-- A volume that may grow from below passes as the one it is, and meets the demands. -/
theorem UnderlyingRoom.checks (room : UnderlyingRoom s target stack backing slack)
    {device : Node} {lv : LvmLogicalVolume} {vg : LvmVolumeGroup} {fs : Core.Filesystem}
    (h : volumeGates s capabilities target = .ok (device, lv, vg, fs)) :
    device = stack.device ∧ lv = stack.lv ∧ vg = stack.vg ∧ fs = stack.fs ∧
      FreeExtentsChecks s capabilities stack := by
  unfold volumeGates at h
  simp only [bind_eq_ok_iff, exists_check_iff, ensure_eq_ok_iff, okOr_eq_ok_iff,
    volumeTools_eq_ok_iff] at h
  obtain ⟨-, -, -, lvm, hlvm, ⟨device', lv'⟩, htarget, vg', hgroup, fs', hfs, -, -, hswap,
    ⟨htools, -⟩, hresult⟩ := h
  cases hresult
  obtain rfl : lvm = stack.lvm := Option.some.inj (hlvm.symm.trans room.facts.lvm)
  have hsame := htarget.symm.trans room.volumeTarget_eq
  cases hsame
  obtain rfl : fs = stack.fs := Option.some.inj (hfs.symm.trans room.facts.filesystem)
  obtain ⟨pv, pvDevice, group⟩ := volumeGroup_ok hgroup
  obtain rfl : vg = stack.vg := (List.cons.inj (group.ofVolume.symm.trans room.facts.vg)).1
  obtain rfl : pv = stack.pv := (List.cons.inj (group.ofGroup.symm.trans room.facts.pv)).1
  obtain ⟨hlv, hpositive, -, hvg, hvgFree, -⟩ := group.sizes
  exact ⟨rfl, rfl, rfl, rfl, group.identified, ⟨hlv, hpositive, hvg, hvgFree⟩, hswap, htools⟩

end Checks

end StorageManager.Planner.Extend
