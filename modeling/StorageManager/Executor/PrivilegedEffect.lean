import StorageManager.Executor.PrivilegedVerify
import StorageManager.Executor.PrivilegedWire

/-!
# What the commands do, and what is looked for afterwards

Each command changes one record of the identity, in the way its arguments say. The verifier
accepts the result exactly when the identity was fit for it before: the extents add up to
the size that was announced, the filesystem has a UUID and its size was observed.
-/

namespace StorageManager.Executor

open Lib.Checks
open Planner

set_option autoImplicit false

section Effects

/-- `sfdisk -N number disk` with this line. -/
def resizedPartition (disk : String) (number startSector sizeSectors : Nat)
    (entry : PartitionGeometryIdentity) : PartitionGeometryIdentity :=
  if entry.disk = some disk ∧ partitionNumber entry.partition disk = some number then
    { entry with startSector := some startSector, sizeSectors := some sizeSectors }
  else entry

/-- `pvresize --setphysicalvolumesize limit name`; the size is what follows the PE start. -/
def resizedPhysicalVolume (name : String) (limit : Nat) (entry : LvmIdentity) : LvmIdentity :=
  if entry.kind = .physicalVolume ∧ entry.name = name then
    { entry with sizeBytes := limit - entry.peStartBytes.getD 0 }
  else entry

/-- `lvextend --extents +extents name`, with the extent size of the volume's group. -/
def extendedLogicalVolume (extentBytes : LvmIdentity → Nat) (name : String) (extents : Nat)
    (entry : LvmIdentity) : LvmIdentity :=
  if entry.kind = .logicalVolume ∧ entry.name = name then
    { entry with sizeBytes := entry.sizeBytes + extents * extentBytes entry }
  else entry

/-- The size a filesystem has grown to: more than it was, within its device, if there was
room. What was not observed stays unobserved. -/
def GrownWithin (filesystem : FilesystemIdentity) (size : Option Nat) : Prop :=
  match filesystem.observedFilesystemSizeBytes with
  | none => size = none
  | some old =>
    if old < filesystem.backingDeviceSizeBytes then
      ∃ new, size = some new ∧ old < new ∧ new ≤ filesystem.backingDeviceSizeBytes
    else size = some old

/-- What a command makes of an identity, beside the digest. `extentBytes` is the extent size
of the group of a logical volume, which the identity does not record. -/
def Effect (extentBytes : LvmIdentity → Nat) (command : PrivilegedCommandSpec)
    (before after : TargetIdentityManifest) : Prop :=
  match command.program with
  | .sfdisk => ∃ (number : Nat) (disk : String) (startSector sizeSectors : Nat),
      command.args = ["--lock=yes", "--no-reread", "--no-tell-kernel", "-N", toString number,
        disk] ∧
      command.stdinPayload = some s!"start={startSector}, size={sizeSectors}\n" ∧
      after = { before with
        manifestDigest := after.manifestDigest
        partitions := before.partitions.map (resizedPartition disk number startSector sizeSectors) }
  | .pvresize => ∃ (limit : Nat) (name : String),
      command.args = ["--yes", "--setphysicalvolumesize", s!"{limit}B", "--", name] ∧
      after = { before with
        manifestDigest := after.manifestDigest
        lvm := before.lvm.map (resizedPhysicalVolume name limit) }
  | .lvextend => ∃ (extents : Nat) (name : String),
      command.args = ["--extents", s!"+{extents}", "--", name] ∧
      after = { before with
        manifestDigest := after.manifestDigest
        lvm := before.lvm.map (extendedLogicalVolume extentBytes name extents) }
  | .resize2fs => ∃ (filesystem : FilesystemIdentity) (size : Option Nat),
      before.filesystem = some filesystem ∧ command.args = [filesystem.device] ∧
      GrownWithin filesystem size ∧
      after = { before with
        manifestDigest := after.manifestDigest
        filesystem := some { filesystem with observedFilesystemSizeBytes := size } }
  | .xfsGrowfs => ∃ (filesystem : FilesystemIdentity) (size : Option Nat) (mountpoint : String),
      before.filesystem = some filesystem ∧ command.args = ["-d", mountpoint] ∧
      (∃ mount ∈ before.mounts, mount.target = mountpoint) ∧ GrownWithin filesystem size ∧
      after = { before with
        manifestDigest := after.manifestDigest
        filesystem := some { filesystem with observedFilesystemSizeBytes := size } }
  | _ => False

/-- What the identity must offer for the result to be found as it was announced. -/
def Provable (extentBytes : LvmIdentity → Nat) (operation : NativeOperationSpec)
    (identity : TargetIdentityManifest) : Prop :=
  match operation with
  | .extendLogicalVolume lvUuid additionalExtents expectedLvSizeBytes =>
    ∀ lv ∈ identity.lvm, isLvmRecord .logicalVolume lvUuid lv →
      lv.sizeBytes + additionalExtents * extentBytes lv = expectedLvSizeBytes
  | .growFilesystem .. => ∃ filesystem old, identity.filesystem = some filesystem ∧
      filesystem.uuid.isSome ∧ filesystem.observedFilesystemSizeBytes = some old ∧ 0 < old ∧
      old < filesystem.backingDeviceSizeBytes
  | _ => True

end Effects

section Arguments

open Lib.Json (Follows follows_cons digits_inj)

theorem numeral_inj {m n : Nat} {r r' : List Char} (hr : Follows r) (hr' : Follows r')
    (h : (toString m).toList ++ r = (toString n).toList ++ r') : m = n ∧ r = r' := by
  have hdigits : ∀ k : Nat, (toString k).toList = Nat.toDigits 10 k := fun k => Nat.toList_repr
  rw [hdigits, hdigits] at h
  exact digits_inj hr hr' h

theorem toString_inj {m n : Nat} (h : toString m = toString n) : m = n := by
  have hnil : Follows [] := fun c hc => by cases hc
  refine (numeral_inj hnil hnil ?_).1
  rw [h]

theorem limit_inj {m n : Nat} (h : s!"{m}B" = s!"{n}B") : m = n := by
  have htext := congrArg String.toList h
  rw [String.toList_append, String.toList_append] at htext
  exact (numeral_inj (follows_cons (by decide)) (follows_cons (by decide)) htext).1

theorem extents_inj {m n : Nat} (h : s!"+{m}" = s!"+{n}") : m = n := by
  have htext := congrArg String.toList h
  rw [String.toList_append, String.toList_append] at htext
  exact toString_inj (String.toList_inj.mp (List.append_cancel_left htext))

theorem partitionLine_inj {a b c d : Nat}
    (h : s!"start={a}, size={b}
" = s!"start={c}, size={d}
") : a = c ∧ b = d := by
  have htext := congrArg String.toList h
  simp only [String.toList_append, List.append_assoc] at htext
  have hcomma : ∀ r, Follows ((toString ", size=").toList ++ r) := fun r =>
    @follows_cons ',' _ (by decide)
  have hline : Follows (toString "\n").toList := @follows_cons '\n' _ (by decide)
  obtain ⟨hstart, hrest⟩ := numeral_inj (hcomma _) (hcomma _) (List.append_cancel_left htext)
  obtain ⟨hsize, -⟩ := numeral_inj hline hline (List.append_cancel_left hrest)
  exact ⟨hstart, hsize⟩

end Arguments

section Compilation

variable {identity : TargetIdentityManifest} {command : PrivilegedCommandSpec} {planStepId : Nat}

theorem compileExtendPartition_eq_ok {partition : String}
    {startSector oldSizeSectors newSizeSectors sectorSizeBytes : Nat}
    (h : compileExtendPartition planStepId partition startSector oldSizeSectors newSizeSectors
      sectorSizeBytes identity = .ok command) :
    ∃ geometry disk number, identity.partitions.filter (·.partition == partition) = [geometry] ∧
      geometry.disk = some disk ∧ geometry.startSector = some startSector ∧
      geometry.sizeSectors = some oldSizeSectors ∧ oldSizeSectors < newSizeSectors ∧
      partitionNumber partition disk = some number ∧ command.program = .sfdisk ∧
      command.args = ["--lock=yes", "--no-reread", "--no-tell-kernel", "-N", toString number,
        disk] ∧
      command.stdinPayload = some s!"start={startSector}, size={newSizeSectors}\n" := by
  obtain ⟨geometry, hgeometry, h⟩ := bind_eq_ok_iff.mp h
  obtain ⟨disk, hdisk, h⟩ := bind_eq_ok_iff.mp h
  obtain ⟨-, h⟩ := check_eq_ok_iff.mp h
  obtain ⟨hsame, h⟩ := check_eq_ok_iff.mp h
  obtain ⟨number, hnumber, h⟩ := bind_eq_ok_iff.mp h
  obtain ⟨diskIdentity, -, h⟩ := bind_eq_ok_iff.mp h
  obtain ⟨endSector, -, h⟩ := bind_eq_ok_iff.mp h
  obtain ⟨-, h⟩ := check_eq_ok_iff.mp h
  have hcommand := Except.ok.inj h
  simp only [refuse_eq_ok_iff, not_or, not_not] at hsame
  obtain ⟨-, hstart, hsize, -, -, -, hgrows⟩ := hsame
  refine ⟨geometry, disk, number, unique_eq_ok_iff.mp hgeometry, okOr_eq_ok_iff.mp hdisk, hstart,
    hsize, Nat.lt_of_not_le hgrows, okOr_eq_ok_iff.mp hnumber, ?_⟩
  rw [← hcommand]
  exact ⟨rfl, rfl, rfl⟩

theorem compileResizePhysicalVolume_eq_ok {pvUuid : String} {expectedPvSizeBytes : Nat}
    (h : compileResizePhysicalVolume planStepId pvUuid expectedPvSizeBytes identity =
      .ok command) :
    ∃ pv peStart, identity.lvm.filter (isLvmRecord .physicalVolume pvUuid) = [pv] ∧
      pv.sizeBytes < expectedPvSizeBytes ∧ pv.peStartBytes = some peStart ∧
      command.program = .pvresize ∧
      command.args = ["--yes", "--setphysicalvolumesize", s!"{expectedPvSizeBytes + peStart}B",
        "--", pv.name] := by
  obtain ⟨pv, hpv, h⟩ := bind_eq_ok_iff.mp h
  obtain ⟨hsame, h⟩ := check_eq_ok_iff.mp h
  obtain ⟨peStart, hstart, h⟩ := bind_eq_ok_iff.mp h
  obtain ⟨rawLimit, hlimit, h⟩ := bind_eq_ok_iff.mp h
  have hcommand := Except.ok.inj h
  simp only [refuse_eq_ok_iff, not_or, not_not] at hsame
  have hsum : expectedPvSizeBytes + peStart = rawLimit := by
    have hadd := okOr_eq_ok_iff.mp hlimit
    unfold checkedAdd at hadd
    split at hadd
    · exact Option.some.inj hadd
    · cases hadd
  refine ⟨pv, peStart, unique_eq_ok_iff.mp hpv, Nat.lt_of_not_le hsame.2.2,
    okOr_eq_ok_iff.mp hstart, ?_⟩
  rw [← hcommand, hsum]
  exact ⟨rfl, rfl⟩

theorem compileExtendLogicalVolume_eq_ok {lvUuid : String}
    {additionalExtents expectedLvSizeBytes : Nat}
    (h : compileExtendLogicalVolume planStepId lvUuid additionalExtents expectedLvSizeBytes
      identity = .ok command) :
    ∃ lv, identity.lvm.filter (isLvmRecord .logicalVolume lvUuid) = [lv] ∧
      lv.sizeBytes < expectedLvSizeBytes ∧ command.program = .lvextend ∧
      command.args = ["--extents", s!"+{additionalExtents}", "--", lv.name] := by
  obtain ⟨lv, hlv, h⟩ := bind_eq_ok_iff.mp h
  obtain ⟨hsame, h⟩ := check_eq_ok_iff.mp h
  have hcommand := Except.ok.inj h
  simp only [refuse_eq_ok_iff, not_or, not_not] at hsame
  refine ⟨lv, unique_eq_ok_iff.mp hlv, Nat.lt_of_not_le hsame.2.2.2, ?_⟩
  rw [← hcommand]
  exact ⟨rfl, rfl⟩

/-- The filesystem is where the operation says: mounted once at the mountpoint, or nowhere. -/
def MountedAsAuthorized (fsType : String) (mountpoint : Option String)
    (identity : TargetIdentityManifest) : Prop :=
  match mountpoint with
  | some target => mountedOnce fsType identity target = true
  | none => fsType = "ext4" ∧ identity.mounts = []

theorem compileGrowFilesystem_eq_ok {fsType : String} {mountpoint : Option String}
    (h : compileGrowFilesystem planStepId fsType mountpoint identity = .ok command) :
    ∃ filesystem, identity.filesystem = some filesystem ∧
      filesystem.device = identity.resolvedDevice ∧ filesystem.fsType = fsType ∧
      MountedAsAuthorized fsType mountpoint identity ∧
      (command.program = .resize2fs ∧ command.args = [filesystem.device] ∨
        ∃ target, mountpoint = some target ∧ command.program = .xfsGrowfs ∧
          command.args = ["-d", target]) := by
  obtain ⟨filesystem, hfilesystem, h⟩ := bind_eq_ok_iff.mp h
  obtain ⟨hsame, h⟩ := check_eq_ok_iff.mp h
  simp only [refuse_eq_ok_iff, not_or, not_not] at hsame
  refine ⟨filesystem, okOr_eq_ok_iff.mp hfilesystem, hsame.1, hsame.2.1, ?_⟩
  by_cases hext : fsType = "ext4"
  · rw [if_pos hext] at h
    obtain ⟨hmount, h⟩ := check_eq_ok_iff.mp h
    have hcommand := Except.ok.inj h
    have hmount := not_not.mp (refuse_eq_ok_iff.mp hmount)
    refine ⟨?_, .inl ?_⟩
    · cases mountpoint with
      | none => exact ⟨hext, List.isEmpty_iff.mp hmount⟩
      | some target => exact hmount
    · rw [← hcommand]
      exact ⟨rfl, rfl⟩
  · rw [if_neg hext] at h
    by_cases hxfs : fsType = "xfs"
    · rw [if_pos hxfs] at h
      obtain ⟨target, htarget, h⟩ := bind_eq_ok_iff.mp h
      obtain ⟨hmount, h⟩ := check_eq_ok_iff.mp h
      have hcommand := Except.ok.inj h
      have hmount := not_not.mp (refuse_eq_ok_iff.mp hmount)
      rw [okOr_eq_ok_iff.mp htarget]
      refine ⟨hmount, .inr ⟨target, rfl, ?_⟩⟩
      rw [← hcommand]
      exact ⟨rfl, rfl⟩
    · rw [if_neg hxfs] at h
      cases h

end Compilation

section Verification

variable {extentBytes : LvmIdentity → Nat} {command : PrivilegedCommandSpec}
  {before after : TargetIdentityManifest} {planStepId : Nat}

/-- A change that leaves the key of every element alone changes the elements of one key. -/
theorem filter_map_of_key {α : Type} {f : α → α} {fits : α → Bool} {as : List α}
    (h : ∀ a, fits (f a) = fits a) : (as.map f).filter fits = (as.filter fits).map f := by
  rw [List.filter_map]
  exact congrArg (List.map f) (List.filter_congr fun a _ => h a)

theorem effect_keeps_target (h : Effect extentBytes command before after) :
    after.target = before.target ∧ after.resolvedDevice = before.resolvedDevice := by
  unfold Effect at h
  split at h
  · obtain ⟨_, _, _, _, _, _, h⟩ := h
    rw [h]
    exact ⟨rfl, rfl⟩
  · obtain ⟨_, _, _, h⟩ := h
    rw [h]
    exact ⟨rfl, rfl⟩
  · obtain ⟨_, _, _, h⟩ := h
    rw [h]
    exact ⟨rfl, rfl⟩
  · obtain ⟨_, _, _, _, _, h⟩ := h
    rw [h]
    exact ⟨rfl, rfl⟩
  · obtain ⟨_, _, _, _, _, _, _, h⟩ := h
    rw [h]
    exact ⟨rfl, rfl⟩
  · exact h.elim

theorem verifyPartition_grown {partition : String}
    {startSector oldSizeSectors newSizeSectors sectorSizeBytes : Nat}
    (hcompiled : compileExtendPartition planStepId partition startSector oldSizeSectors
      newSizeSectors sectorSizeBytes before = .ok command)
    (heffect : Effect extentBytes command before after) :
    verifyPartition partition startSector newSizeSectors before after = true := by
  obtain ⟨geometry, disk, number, hgeometry, hdisk, hstart, hsize, hgrows, hnumber, hprogram, hargs,
    hline⟩ := compileExtendPartition_eq_ok hcompiled
  rw [Effect, hprogram] at heffect
  obtain ⟨number', disk', start', size', hargs', hline', hafter⟩ := heffect
  rw [hargs] at hargs'
  rw [hline] at hline'
  simp only [List.cons.injEq, and_true, true_and] at hargs'
  obtain ⟨rfl, rfl⟩ := partitionLine_inj (Option.some.inj hline')
  obtain rfl := toString_inj hargs'.1
  obtain rfl := hargs'.2
  have hname : geometry.partition = partition := by
    have hmem : geometry ∈ before.partitions.filter (·.partition == partition) := by
      rw [hgeometry]
      exact List.mem_singleton_self geometry
    exact beq_iff_eq.mp (List.mem_filter.mp hmem).2
  have hkey : ∀ e : PartitionGeometryIdentity,
      ((resizedPartition disk number startSector newSizeSectors e).partition == partition) =
        (e.partition == partition) := by
    intro e
    unfold resizedPartition
    split <;> rfl
  have hfresh : after.partitions.filter (·.partition == partition) =
      [{ geometry with startSector := some startSector, sizeSectors := some newSizeSectors }] := by
    rw [hafter]
    show (before.partitions.map _).filter _ = _
    rw [filter_map_of_key hkey, hgeometry, List.map_singleton, resizedPartition,
      if_pos ⟨hdisk, by rw [hname, hnumber]⟩]
  unfold verifyPartition
  rw [hgeometry, hfresh]
  simp [grownPartition, hstart, hsize, hgrows]

theorem verifyLvmSize_eq {kind : LvmIdentityKind} {uuid : String} {expected : Nat}
    {entry : LvmIdentity} {f : LvmIdentity → LvmIdentity}
    (hkind : ∀ e, (f e).kind = e.kind) (huuid : ∀ e, (f e).uuid = e.uuid)
    (hname : ∀ e, (f e).name = e.name)
    (hentry : before.lvm.filter (isLvmRecord kind uuid) = [entry])
    (hafter : after.lvm = before.lvm.map f) (hgrows : entry.sizeBytes < expected) :
    verifyLvmSize kind uuid expected before after = true ↔ (f entry).sizeBytes = expected := by
  have hkey : ∀ e, isLvmRecord kind uuid (f e) = isLvmRecord kind uuid e := by
    intro e
    unfold isLvmRecord
    rw [hkind, huuid]
  unfold verifyLvmSize
  rw [hafter, filter_map_of_key hkey, hentry, List.map_singleton]
  simp [hname, hgrows]

theorem isLvmRecord_of_filter {kind : LvmIdentityKind} {uuid : String} {entry : LvmIdentity}
    (h : before.lvm.filter (isLvmRecord kind uuid) = [entry]) :
    entry ∈ before.lvm ∧ isLvmRecord kind uuid entry = true := by
  have hmem : entry ∈ before.lvm.filter (isLvmRecord kind uuid) := by
    rw [h]
    exact List.mem_singleton_self entry
  exact List.mem_filter.mp hmem

theorem verifyPhysicalVolume_grown {pvUuid : String} {expectedPvSizeBytes : Nat}
    (hcompiled : compileResizePhysicalVolume planStepId pvUuid expectedPvSizeBytes before =
      .ok command)
    (heffect : Effect extentBytes command before after) :
    verifyLvmSize .physicalVolume pvUuid expectedPvSizeBytes before after = true := by
  obtain ⟨pv, peStart, hpv, hgrows, hstart, hprogram, hargs⟩ :=
    compileResizePhysicalVolume_eq_ok hcompiled
  rw [Effect, hprogram] at heffect
  obtain ⟨limit, name, hargs', hafter⟩ := heffect
  rw [hargs] at hargs'
  simp only [List.cons.injEq, and_true, true_and] at hargs'
  have hlimit := limit_inj hargs'.1
  obtain ⟨-, hkind⟩ := isLvmRecord_of_filter hpv
  have hkind : pv.kind = .physicalVolume := beq_iff_eq.mp (Bool.and_eq_true_iff.mp hkind).1
  have hlvm : after.lvm = before.lvm.map (resizedPhysicalVolume name limit) := by rw [hafter]
  have hkeeps : ∀ e, (resizedPhysicalVolume name limit e).kind = e.kind ∧
      (resizedPhysicalVolume name limit e).uuid = e.uuid ∧
      (resizedPhysicalVolume name limit e).name = e.name := by
    intro e
    unfold resizedPhysicalVolume
    split <;> exact ⟨rfl, rfl, rfl⟩
  rw [verifyLvmSize_eq (fun e => (hkeeps e).1) (fun e => (hkeeps e).2.1) (fun e => (hkeeps e).2.2)
    hpv hlvm hgrows, resizedPhysicalVolume, if_pos ⟨hkind, hargs'.2⟩]
  show limit - pv.peStartBytes.getD 0 = expectedPvSizeBytes
  rw [hstart, Option.getD_some]
  omega

theorem verifyLogicalVolume_iff {lvUuid : String} {additionalExtents expectedLvSizeBytes : Nat}
    (hcompiled : compileExtendLogicalVolume planStepId lvUuid additionalExtents
      expectedLvSizeBytes before = .ok command)
    (heffect : Effect extentBytes command before after) :
    verifyLvmSize .logicalVolume lvUuid expectedLvSizeBytes before after = true ↔
      ∀ lv ∈ before.lvm, isLvmRecord .logicalVolume lvUuid lv →
        lv.sizeBytes + additionalExtents * extentBytes lv = expectedLvSizeBytes := by
  obtain ⟨lv, hlv, hgrows, hprogram, hargs⟩ := compileExtendLogicalVolume_eq_ok hcompiled
  rw [Effect, hprogram] at heffect
  obtain ⟨extents, name, hargs', hafter⟩ := heffect
  rw [hargs] at hargs'
  simp only [List.cons.injEq, and_true, true_and] at hargs'
  have hextents := extents_inj hargs'.1
  obtain ⟨hmem, hrecord⟩ := isLvmRecord_of_filter hlv
  have hkind : lv.kind = .logicalVolume := beq_iff_eq.mp (Bool.and_eq_true_iff.mp hrecord).1
  have hlvm : after.lvm = before.lvm.map (extendedLogicalVolume extentBytes name extents) := by
    rw [hafter]
  have hkeeps : ∀ e, (extendedLogicalVolume extentBytes name extents e).kind = e.kind ∧
      (extendedLogicalVolume extentBytes name extents e).uuid = e.uuid ∧
      (extendedLogicalVolume extentBytes name extents e).name = e.name := by
    intro e
    unfold extendedLogicalVolume
    split <;> exact ⟨rfl, rfl, rfl⟩
  rw [verifyLvmSize_eq (fun e => (hkeeps e).1) (fun e => (hkeeps e).2.1) (fun e => (hkeeps e).2.2)
    hlv hlvm hgrows, extendedLogicalVolume, if_pos ⟨hkind, hargs'.2⟩]
  show lv.sizeBytes + extents * extentBytes lv = expectedLvSizeBytes ↔ _
  rw [← hextents]
  constructor
  · intro hsum other hother hfits
    have honly : other ∈ before.lvm.filter (isLvmRecord .logicalVolume lvUuid) :=
      List.mem_filter.mpr ⟨hother, hfits⟩
    rw [hlv, List.mem_singleton] at honly
    rw [honly, hsum]
  · exact fun hall => hall lv hmem hrecord

/-- Growth within the device is seen exactly when the size before was known and left room. -/
theorem observedGrowth_iff {filesystem : FilesystemIdentity} {size : Option Nat}
    (h : GrownWithin filesystem size) :
    observedGrowth filesystem { filesystem with observedFilesystemSizeBytes := size } = true ↔
      ∃ old, filesystem.observedFilesystemSizeBytes = some old ∧ 0 < old ∧
        old < filesystem.backingDeviceSizeBytes := by
  unfold GrownWithin at h
  unfold observedGrowth
  cases hold : filesystem.observedFilesystemSizeBytes with
  | none => simp
  | some old =>
    simp only [hold] at h
    by_cases hroom : old < filesystem.backingDeviceSizeBytes
    · rw [if_pos hroom] at h
      obtain ⟨new, hnew, hgrows, hwithin⟩ := h
      rw [hnew]
      simp [hroom, hgrows, hwithin]
    · rw [if_neg hroom] at h
      rw [h]
      simp [hroom]

theorem sameMounts_of_authorized {fsType : String} {mountpoint : Option String}
    (h : MountedAsAuthorized fsType mountpoint before) (hmounts : after.mounts = before.mounts) :
    sameMounts fsType mountpoint before after = true := by
  unfold MountedAsAuthorized at h
  unfold sameMounts
  cases mountpoint with
  | none =>
    obtain ⟨hext, hnone⟩ := h
    simp [hmounts, hext, hnone]
  | some target =>
    have hcount := beq_iff_eq.mp (Bool.and_eq_true_iff.mp h).2
    rw [List.countP_eq_length_filter] at hcount
    obtain ⟨mount, hmount⟩ := List.length_eq_one_iff.mp hcount
    simp [hmounts, hmount]

theorem effect_grows {filesystem : FilesystemIdentity}
    (hfilesystem : before.filesystem = some filesystem)
    (hprogram : command.program = .resize2fs ∨ command.program = .xfsGrowfs)
    (heffect : Effect extentBytes command before after) :
    ∃ size, GrownWithin filesystem size ∧ after.mounts = before.mounts ∧
      after.filesystem = some { filesystem with observedFilesystemSizeBytes := size } := by
  rcases hprogram with hprogram | hprogram
  · rw [Effect, hprogram] at heffect
    obtain ⟨other, size, hother, -, hgrown, hafter⟩ := heffect
    obtain rfl := Option.some.inj (hfilesystem.symm.trans hother)
    exact ⟨size, hgrown, by rw [hafter], by rw [hafter]⟩
  · rw [Effect, hprogram] at heffect
    obtain ⟨other, size, _, hother, -, -, hgrown, hafter⟩ := heffect
    obtain rfl := Option.some.inj (hfilesystem.symm.trans hother)
    exact ⟨size, hgrown, by rw [hafter], by rw [hafter]⟩

theorem verifyFilesystem_iff {fsType : String} {mountpoint : Option String}
    (hcompiled : compileGrowFilesystem planStepId fsType mountpoint before = .ok command)
    (heffect : Effect extentBytes command before after) :
    verifyFilesystem fsType mountpoint before after = true ↔
      ∃ filesystem old, before.filesystem = some filesystem ∧ filesystem.uuid.isSome ∧
        filesystem.observedFilesystemSizeBytes = some old ∧ 0 < old ∧
        old < filesystem.backingDeviceSizeBytes := by
  obtain ⟨filesystem, hfilesystem, hdevice, htype, hmounted, hcommand⟩ :=
    compileGrowFilesystem_eq_ok hcompiled
  have hprogram : command.program = .resize2fs ∨ command.program = .xfsGrowfs := by
    rcases hcommand with ⟨hprogram, -⟩ | ⟨_, -, hprogram, -⟩
    · exact .inl hprogram
    · exact .inr hprogram
  obtain ⟨size, hgrown, hmounts, hafter⟩ := effect_grows hfilesystem hprogram heffect
  have hresolved := (effect_keeps_target heffect).2
  have hsame := sameMounts_of_authorized hmounted hmounts
  have hsizes := observedGrowth_iff hgrown
  unfold verifyFilesystem
  rw [hafter, hfilesystem]
  simp only [Bool.and_eq_true, beq_iff_eq, hsizes]
  constructor
  · rintro ⟨⟨⟨⟨⟨⟨-, huuid⟩, -⟩, -⟩, -⟩, -⟩, old, hold, hpos, hroom⟩
    exact ⟨filesystem, old, rfl, huuid, hold, hpos, hroom⟩
  · rintro ⟨other, old, hother, huuid, hold, hpos, hroom⟩
    obtain rfl := Option.some.inj hother
    have hplace : filesystem.device = after.resolvedDevice := by rw [hdevice, hresolved]
    exact ⟨⟨⟨⟨⟨⟨⟨⟨⟨⟨hdevice, hplace⟩, trivial⟩, htype⟩, htype⟩, huuid⟩, trivial⟩, trivial⟩,
      trivial⟩, hsame⟩, old, hold, hpos, hroom⟩

/-- Every compiled command can do what it says. -/
theorem exists_effect {operation : NativeOperationSpec}
    (hcompiled : compileOperation planStepId operation before = .ok command) :
    ∃ after, Effect extentBytes command before after := by
  have hgrown : ∀ filesystem, ∃ size, GrownWithin filesystem size := by
    intro filesystem
    unfold GrownWithin
    cases filesystem.observedFilesystemSizeBytes with
    | none => exact ⟨none, rfl⟩
    | some old =>
      by_cases hroom : old < filesystem.backingDeviceSizeBytes
      · simp only [if_pos hroom]
        exact ⟨_, _, rfl, hroom, Nat.le_refl _⟩
      · simp only [if_neg hroom]
        exact ⟨_, rfl⟩
  cases operation with
  | extendPartition partition startSector oldSizeSectors newSizeSectors sectorSizeBytes =>
    obtain ⟨_, disk, number, -, -, -, -, -, -, hprogram, hargs, hline⟩ :=
      compileExtendPartition_eq_ok hcompiled
    simp only [Effect, hprogram]
    exact ⟨{ before with
        partitions := before.partitions.map
          (resizedPartition disk number startSector newSizeSectors) },
      number, disk, startSector, newSizeSectors, hargs, hline, rfl⟩
  | resizePhysicalVolume pvUuid expectedPvSizeBytes =>
    obtain ⟨pv, peStart, -, -, -, hprogram, hargs⟩ := compileResizePhysicalVolume_eq_ok hcompiled
    simp only [Effect, hprogram]
    exact ⟨{ before with
        lvm := before.lvm.map (resizedPhysicalVolume pv.name (expectedPvSizeBytes + peStart)) },
      expectedPvSizeBytes + peStart, pv.name, hargs, rfl⟩
  | extendLogicalVolume lvUuid additionalExtents expectedLvSizeBytes =>
    obtain ⟨lv, -, -, hprogram, hargs⟩ := compileExtendLogicalVolume_eq_ok hcompiled
    simp only [Effect, hprogram]
    exact ⟨{ before with
        lvm := before.lvm.map (extendedLogicalVolume extentBytes lv.name additionalExtents) },
      additionalExtents, lv.name, hargs, rfl⟩
  | growFilesystem fsType mountpoint =>
    obtain ⟨filesystem, hfilesystem, -, -, hmounted, hcommand⟩ :=
      compileGrowFilesystem_eq_ok hcompiled
    obtain ⟨size, hsize⟩ := hgrown filesystem
    rcases hcommand with ⟨hprogram, hargs⟩ | ⟨target, htarget, hprogram, hargs⟩
    · simp only [Effect, hprogram]
      exact ⟨{ before with
          filesystem := some { filesystem with observedFilesystemSizeBytes := size } },
        filesystem, size, hfilesystem, hargs, hsize, rfl⟩
    · rw [htarget] at hmounted
      have hcount := beq_iff_eq.mp (Bool.and_eq_true_iff.mp hmounted).2
      obtain ⟨mount, hmem, hmount⟩ := List.countP_pos_iff.mp (hcount.symm ▸ Nat.one_pos)
      have hplace := beq_iff_eq.mp (Bool.and_eq_true_iff.mp hmount).1
      simp only [Effect, hprogram]
      exact ⟨{ before with
          filesystem := some { filesystem with observedFilesystemSizeBytes := size } },
        filesystem, size, target, hfilesystem, hargs, ⟨mount, hmem, hplace⟩, hsize, rfl⟩
  | _ => cases hcompiled

/-- The process ended well and is bound to the request. -/
structure ProcessSucceeded [Fingerprint] (request : PrivilegedHelperRequest)
    (process : PrivilegedProcessReceipt) : Prop where
  integrity : process.integrityMatches = true
  disposition : process.disposition = .rediscoveryRequired
  executionId : process.executionId = request.executionId
  planStepId : process.planStepId = request.planStepId

theorem verifyOperation_iff {operation : NativeOperationSpec}
    (hcompiled : compileOperation planStepId operation before = .ok command)
    (heffect : Effect extentBytes command before after) :
    verifyOperation operation before after = .ok () ↔ Provable extentBytes operation before := by
  cases operation with
  | extendPartition partition startSector oldSizeSectors newSizeSectors sectorSizeBytes =>
    have hverified := verifyPartition_grown hcompiled heffect
    simp [verifyOperation, Provable, hverified]
  | resizePhysicalVolume pvUuid expectedPvSizeBytes =>
    have hverified := verifyPhysicalVolume_grown hcompiled heffect
    simp [verifyOperation, Provable, hverified]
  | extendLogicalVolume lvUuid additionalExtents expectedLvSizeBytes =>
    rw [verifyOperation, refuse_eq_ok_iff, not_not, Provable]
    exact verifyLogicalVolume_iff hcompiled heffect
  | growFilesystem fsType mountpoint =>
    rw [verifyOperation, refuse_eq_ok_iff, not_not, Provable]
    exact verifyFilesystem_iff hcompiled heffect
  | _ => cases hcompiled

/-- A command that was compiled and did what it says is verified exactly when the identity
was fit for it before. -/
theorem effect_verified_iff [Fingerprint] {request : PrivilegedHelperRequest}
    {process : PrivilegedProcessReceipt}
    (hcompiled : compilePrivilegedHelperCommand request before = .ok command)
    (heffect : Effect extentBytes command before after)
    (hprocess : ProcessSucceeded request process) :
    (∃ receipt, verifyPrivilegedLayerPostState request process before after = .ok receipt) ↔
      Provable extentBytes request.operation before := by
  obtain ⟨hvalid, h⟩ := check_eq_ok_iff.mp hcompiled
  obtain ⟨hlive, hcompiled⟩ := check_eq_ok_iff.mp h
  have hlive := refuse_eq_ok_iff.mp (mapError_eq_ok_iff.mp hlive)
  have hkeeps := effect_keeps_target heffect
  rw [← verifyOperation_iff hcompiled heffect]
  constructor
  · rintro ⟨receipt, h⟩
    obtain ⟨-, h⟩ := check_eq_ok_iff.mp h
    obtain ⟨-, h⟩ := check_eq_ok_iff.mp h
    obtain ⟨-, h⟩ := check_eq_ok_iff.mp h
    obtain ⟨-, h⟩ := check_eq_ok_iff.mp h
    obtain ⟨-, h⟩ := check_eq_ok_iff.mp h
    obtain ⟨-, h⟩ := check_eq_ok_iff.mp h
    exact (check_eq_ok_iff.mp h).1
  · intro hverified
    refine ⟨layerVerificationReceipt request process before after, ?_⟩
    refine check_eq_ok_iff.mpr ⟨mapError_eq_ok_iff.mpr (mapError_eq_ok_iff.mp hvalid), ?_⟩
    refine check_eq_ok_iff.mpr ⟨refuse_eq_ok_iff.mpr (not_not.mpr hprocess.integrity), ?_⟩
    refine check_eq_ok_iff.mpr ⟨refuse_eq_ok_iff.mpr (not_not.mpr hprocess.disposition), ?_⟩
    refine check_eq_ok_iff.mpr ⟨refuse_eq_ok_iff.mpr ?_, ?_⟩
    · rintro (hne | hne)
      · exact hne hprocess.executionId
      · exact hne hprocess.planStepId
    refine check_eq_ok_iff.mpr ⟨refuse_eq_ok_iff.mpr hlive, ?_⟩
    refine check_eq_ok_iff.mpr ⟨refuse_eq_ok_iff.mpr ?_, ?_⟩
    · rintro (hne | hne)
      · exact hne hkeeps.1
      · exact hne hkeeps.2
    exact check_eq_ok_iff.mpr ⟨hverified, rfl⟩

end Verification

section Samples

/-- An unmounted filesystem on a logical volume; what it takes was not observed. -/
def growthIdentity : TargetIdentityManifest where
  schemaVersion := 1
  target := "/dev/vg/data"
  manifestDigest := fingerprint (.str "growth identity")
  resolvedDevice := "/dev/vg/data"
  routeStatus := .supportedProfile
  routeIssueCodes := []
  devices := []
  partitions := []
  lvm := [⟨.logicalVolume, "/dev/vg/data", some "lv-1", 8388608, none, none, none, none, none, none,
    none, none, none⟩]
  filesystem := some ⟨"/dev/vg/data", "ext4", none, some "fs-1", 8388608, none⟩
  mounts := []

def growthRequest (operation : NativeOperationSpec) : PrivilegedHelperRequest :=
  PrivilegedHelperRequest.sealed
    { schemaVersion := privilegedHelperProtocolVersion
      requestId := ""
      executionId := fingerprint (.str "execution")
      sourceManifestId := fingerprint (.str "source manifest")
      nativeManifestDigest := fingerprint (.str "native manifest")
      freshIdentityDigest := growthIdentity.manifestDigest
      target := "/dev/vg/data"
      resolvedDevice := "/dev/vg/data"
      planStepId := 1
      operation }

theorem growthRequest_valid {operation : NativeOperationSpec}
    (h : operationIsSafe operation = true) :
    validatePrivilegedHelperRequest (growthRequest operation) = .ok () :=
  validate_eq_ok_iff.mpr
    { schemaVersion := rfl
      executionId := Fingerprint.isSha256Hex_fingerprint _
      sourceManifestId := Fingerprint.isSha256Hex_fingerprint _
      nativeManifestDigest := Fingerprint.isSha256Hex_fingerprint _
      freshIdentityDigest := Fingerprint.isSha256Hex_fingerprint _
      target := (by decide : safeAbsolutePath "/dev/vg/data" = true)
      resolvedDevice := (by decide : safeDevicePath "/dev/vg/data" = true)
      planStepId := Nat.one_ne_zero
      operation := h
      requestId := requestId_sealed _ }

theorem growthRequest_compiled {operation : NativeOperationSpec} {command : PrivilegedCommandSpec}
    (hsafe : operationIsSafe operation = true)
    (h : compileOperation 1 operation growthIdentity = .ok command) :
    compilePrivilegedHelperCommand (growthRequest operation) growthIdentity = .ok command := by
  refine check_eq_ok_iff.mpr ⟨mapError_eq_ok_iff.mpr (growthRequest_valid hsafe), ?_⟩
  refine check_eq_ok_iff.mpr ⟨mapError_eq_ok_iff.mpr (refuse_eq_ok_iff.mpr ?_), h⟩
  rintro (hne | hne | hne) <;> exact hne rfl

def growthProcess (operation : NativeOperationSpec) : PrivilegedProcessReceipt :=
  let receipt : PrivilegedProcessReceipt :=
    { schemaVersion := 1
      receiptId := ""
      executionId := (growthRequest operation).executionId
      permitId := "permit"
      launchId := "launch"
      planStepId := 1
      commandDigest := "command"
      primaryExitCode := 0
      primaryStdoutSha256 := "stdout"
      primaryStderrSha256 := "stderr"
      primaryStdoutTruncated := false
      primaryStderrTruncated := false
      kernelRefreshExitCode := none
      kernelRefreshStdoutSha256 := none
      kernelRefreshStderrSha256 := none
      kernelRefreshStdoutTruncated := none
      kernelRefreshStderrTruncated := none
      mutationMayHaveStarted := true
      disposition := .rediscoveryRequired }
  { receipt with receiptId := receipt.expectedReceiptId }

theorem receipt_named [Fingerprint] (receipt : PrivilegedProcessReceipt) :
    ({ receipt with receiptId := receipt.expectedReceiptId } :
      PrivilegedProcessReceipt).integrityMatches = true := beq_self_eq_true _

theorem growthProcess_succeeded (operation : NativeOperationSpec) :
    ProcessSucceeded (growthRequest operation) (growthProcess operation) where
  integrity := receipt_named _
  disposition := rfl
  executionId := rfl
  planStepId := rfl

/-- One extent of 4 MiB, as announced. -/
theorem effect_verified_sample :
    ∃ receipt, verifyPrivilegedLayerPostState
      (growthRequest (.extendLogicalVolume "lv-1" 1 12582912))
      (growthProcess (.extendLogicalVolume "lv-1" 1 12582912)) growthIdentity
      { growthIdentity with
        lvm := growthIdentity.lvm.map (extendedLogicalVolume (fun _ => 4194304) "/dev/vg/data" 1) } =
      .ok receipt := by
  have hcompiled : compilePrivilegedHelperCommand
      (growthRequest (.extendLogicalVolume "lv-1" 1 12582912)) growthIdentity =
        .ok ⟨1, .lvextend, ["--extents", "+1", "--", "/dev/vg/data"], none, none⟩ :=
    growthRequest_compiled (by decide) (by decide)
  refine (effect_verified_iff hcompiled ⟨1, "/dev/vg/data", rfl, rfl⟩
    (growthProcess_succeeded _)).mpr ?_
  intro lv hlv _
  rw [List.mem_singleton.mp hlv]
  rfl

/-- The size of an unmounted filesystem is not observed, neither before nor afterwards. -/
theorem unobserved_growth_refused :
    compilePrivilegedHelperCommand (growthRequest (.growFilesystem "ext4" none)) growthIdentity =
        .ok ⟨1, .resize2fs, ["/dev/vg/data"], none, none⟩ ∧
      Effect (fun _ => 4194304) ⟨1, .resize2fs, ["/dev/vg/data"], none, none⟩ growthIdentity
        growthIdentity ∧
      ProcessSucceeded (growthRequest (.growFilesystem "ext4" none))
        (growthProcess (.growFilesystem "ext4" none)) ∧
      ¬∃ receipt, verifyPrivilegedLayerPostState (growthRequest (.growFilesystem "ext4" none))
        (growthProcess (.growFilesystem "ext4" none)) growthIdentity growthIdentity =
          .ok receipt := by
  have hcompiled : compilePrivilegedHelperCommand
      (growthRequest (.growFilesystem "ext4" none)) growthIdentity =
        .ok ⟨1, .resize2fs, ["/dev/vg/data"], none, none⟩ :=
    growthRequest_compiled (by decide) (by decide)
  have heffect : Effect (fun _ => 4194304) ⟨1, .resize2fs, ["/dev/vg/data"], none, none⟩
      growthIdentity growthIdentity := ⟨_, none, rfl, rfl, rfl, rfl⟩
  refine ⟨hcompiled, heffect, growthProcess_succeeded _, ?_⟩
  rintro ⟨receipt, h⟩
  obtain ⟨-, h⟩ := check_eq_ok_iff.mp h
  obtain ⟨-, h⟩ := check_eq_ok_iff.mp h
  obtain ⟨-, h⟩ := check_eq_ok_iff.mp h
  obtain ⟨-, h⟩ := check_eq_ok_iff.mp h
  obtain ⟨-, h⟩ := check_eq_ok_iff.mp h
  obtain ⟨-, h⟩ := check_eq_ok_iff.mp h
  cases (check_eq_ok_iff.mp h).1

end Samples

end StorageManager.Executor
