import StorageManager.Executor.BackupManifest
import StorageManager.Lib.Sequence

/-!
# Every mutation has its backup

A manifest built for a preview backs up exactly the partition tables and volume groups that
the plan names. It can be built exactly when the snapshot tells, for each of them, one
partition or one group on the way to the target that it must be.
-/

namespace StorageManager.Executor.BackupManifest

open Core (BlockDevice HostCapabilities HostSnapshot LvmInventory LvmVolumeGroup PartitionTable
  flatten)
open JournalStore (BackupExpectedIdentity LockedExecutionSession MetadataBackupKind)
open Lib.Checks
open Lib.Sequence
open Planner
open Planner.Extend (ExtendRequest planExtend)
open Planner.Handoff

set_option autoImplicit false

section Recorded

/-- The devices from the root to the one the target resolves to. -/
def targetChain (s : HostSnapshot) (target : String) : List BlockDevice :=
  ((analyzeLayerRoute s target).resolvedDevice.bind (pathTo s)).elim [] (·.2)

/-- One table lists the device, and it is this one; or no table does, and the device itself
names the disk and the label of a table without an ID. -/
def belongsTo (s : HostSnapshot) (disk tableLabel : String) (tableId : Option String)
    (device : BlockDevice) : Bool :=
  match s.partitionTables.filter fun table => table.partitions.any (·.node = device.devicePath) with
  | [] => device.parentKernelName.any (fun parent => s!"/dev/{parent}" = disk) &&
      device.partitionTable = some tableLabel && tableId = none
  | [table] => table.device = disk && table.label = some tableLabel && table.id = tableId
  | _ => false

/-- The groups that the volumes on the way to the target name. -/
def chainGroups (s : HostSnapshot) (target : String) : List LvmVolumeGroup :=
  s.lvm.elim [] fun lvm => lvm.volumeGroups.filter
    (·.name ∈ (targetChain s target).flatMap (groupNames lvm))

/-- The group is that of a volume which the target leads to. -/
def targetGroup (s : HostSnapshot) (target vgName : String) : Bool :=
  s.lvm.any fun lvm => (analyzeLayerRoute s target).resolvedDevice.any fun resolvedDevice =>
    lvm.logicalVolumes.any fun lv => lv.vgName = vgName &&
      (flatten s.storage.blockDevices).any fun node =>
        node.device.nodeAlias resolvedDevice && lv.lvDevice node.device

/-- The snapshot tells exactly one piece of metadata on the way to the target that a backup
step can mean, by names that can be written down. -/
def Recorded (s : HostSnapshot) (target : String) : Operation → Prop
  | .backupPartitionTableMetadata disk tableLabel tableId =>
    isAtom disk ∧ isAtom tableLabel ∧ (∀ id ∈ tableId, isAtom id) ∧
      ∃ partition, (targetChain s target).filter (fun device => device.kind = .partition &&
        belongsTo s disk tableLabel tableId device) = [partition]
  | .backupLvmMetadata vgUuid =>
    isAtom vgUuid ∧ ∃ vg, (chainGroups s target).filter (·.uuid = some vgUuid) = [vg] ∧
      isAtom vg.name ∧ targetGroup s target vg.name
  | _ => True

variable {s : HostSnapshot}

theorem listings_tables {partition : String} :
    (listings s partition).map (·.1) =
      s.partitionTables.filter fun table => table.partitions.any (·.node = partition) := by
  unfold listings
  induction s.partitionTables with
  | nil => rfl
  | cons table tables ih =>
    rw [List.filterMap_cons, List.filter_cons]
    cases hfound : table.partitions.find? (·.node = partition) with
    | none =>
      have hany : table.partitions.any (·.node = partition) = false :=
        List.any_eq_false.mpr (List.find?_eq_none.mp hfound)
      simpa [hany] using ih
    | some record =>
      have hany : table.partitions.any (·.node = partition) = true :=
        List.any_eq_true.mpr ⟨record, List.mem_of_find?_eq_some hfound,
          by simpa using List.find?_some hfound⟩
      simpa [hany] using ih

theorem partitionMatches_identity {disk tableLabel : String} {tableId : Option String}
    {device : BlockDevice} :
    partitionMatches disk tableLabel tableId (partitionIdentity s device) =
      belongsTo s disk tableLabel tableId device := by
  unfold belongsTo partitionIdentity
  rw [← listings_tables]
  cases listings s device.devicePath with
  | nil =>
    cases device.parentKernelName <;> cases tableId <;>
      simp [partitionMatches, Bool.beq_eq_decide_eq]
  | cons first rest =>
    cases rest with
    | nil => simp [partitionMatches, Bool.beq_eq_decide_eq]
    | cons second rest => simp [partitionMatches]

/-- Of what was collected on a path, the groups with a UUID are the group records with it. -/
theorem collectLvmIdentity_groups {path : List BlockDevice} {vgUuid : String} :
    ((collectLvmIdentity s path).filter (groupMatches vgUuid)).Perm
      (((s.lvm.elim [] fun lvm => lvm.volumeGroups.filter
        (·.name ∈ path.flatMap (groupNames lvm))).filter (·.uuid = some vgUuid)).map
          vgIdentity) := by
  unfold collectLvmIdentity
  cases s.lvm with
  | none => exact .refl _
  | some lvm =>
    -- the physical and the logical volumes are no groups
    have hvolumes : (path.flatMap fun device => (volumesOn lvm device).map pvIdentity ++
        (volumesOf lvm device).map lvIdentity).filter (groupMatches vgUuid) = [] := by
      rw [List.filter_eq_nil_iff]
      intro item hitem
      obtain ⟨device, -, hitem⟩ := List.mem_flatMap.mp hitem
      rcases List.mem_append.mp hitem with hpv | hlv
      · obtain ⟨pv, -, rfl⟩ := List.mem_map.mp hpv
        simp [groupMatches, pvIdentity]
      · obtain ⟨lv, -, rfl⟩ := List.mem_map.mp hlv
        simp [groupMatches, lvIdentity]
    have hgroups : (((path.flatMap (groupNames lvm)).eraseDups.flatMap fun vgName =>
        lvm.volumeGroups.filter (·.name = vgName))).Perm
        (lvm.volumeGroups.filter (·.name ∈ path.flatMap (groupNames lvm))) := by
      have hperm := flatMap_filter_perm LvmVolumeGroup.name lvm.volumeGroups
        (nodup_eraseDups (path.flatMap (groupNames lvm)))
      simpa only [List.mem_eraseDups] using hperm
    have hmatches : groupMatches vgUuid ∘ vgIdentity = fun vg => decide (vg.uuid = some vgUuid) := by
      funext vg
      simp [groupMatches, vgIdentity, Bool.beq_eq_decide_eq]
    rw [Option.elim_some, List.filter_append, hvolumes, List.nil_append, ← List.map_flatMap,
      List.filter_map, hmatches]
    exact ((hgroups.filter _).map _)

end Recorded

section Captured

variable [Fingerprint] {s : HostSnapshot} {target : String} {identity : TargetIdentityManifest}

theorem captureTargetIdentity_partitions (h : captureTargetIdentity s target = .ok identity) :
    identity.partitions.Perm (((targetChain s target).filter (·.kind = .partition)).map
      (partitionIdentity s)) := by
  unfold captureTargetIdentity at h
  simp only [bind_eq_ok_iff, okOr_eq_ok_iff] at h
  obtain ⟨resolvedDevice, hresolved, ⟨node, path⟩, hpath, hresult⟩ := h
  cases hresult
  rw [targetChain, hresolved, Option.bind_some, hpath]
  exact List.mergeSort_perm _ _

theorem captureTargetIdentity_lvm (h : captureTargetIdentity s target = .ok identity) :
    identity.lvm.Perm (collectLvmIdentity s (targetChain s target)) := by
  unfold captureTargetIdentity at h
  simp only [bind_eq_ok_iff, okOr_eq_ok_iff] at h
  obtain ⟨resolvedDevice, hresolved, ⟨node, path⟩, hpath, hresult⟩ := h
  cases hresult
  rw [targetChain, hresolved, Option.bind_some, hpath]
  exact List.mergeSort_perm _ _

theorem captured_partition_iff (h : captureTargetIdentity s target = .ok identity)
    (disk tableLabel : String) (tableId : Option String) (item : PartitionGeometryIdentity) :
    identity.partitions.filter (partitionMatches disk tableLabel tableId) = [item] ↔
      ∃ partition, (targetChain s target).filter (fun device => device.kind = .partition &&
        belongsTo s disk tableLabel tableId device) = [partition] ∧
          item = partitionIdentity s partition := by
  refine perm_map_singleton ?_
  have hperm := (captureTargetIdentity_partitions h).filter
    (partitionMatches disk tableLabel tableId)
  rw [List.filter_map, List.filter_filter] at hperm
  refine hperm.trans (.of_eq (congrArg _ (List.filter_congr fun device _ => ?_)))
  rw [Function.comp_apply, partitionMatches_identity, Bool.and_comm]

theorem captured_group_iff (h : captureTargetIdentity s target = .ok identity)
    (vgUuid : String) (item : LvmIdentity) :
    identity.lvm.filter (groupMatches vgUuid) = [item] ↔
      ∃ vg, (chainGroups s target).filter (·.uuid = some vgUuid) = [vg] ∧
        item = vgIdentity vg :=
  perm_map_singleton
    (((captureTargetIdentity_lvm h).filter _).trans collectLvmIdentity_groups)

/-- A table's backup step is met exactly when its names can be written down and one partition
on the way to the target is in the table. -/
theorem requirementForOperation_table_iff (h : captureTargetIdentity s target = .ok identity)
    {disk tableLabel root : String} {tableId : Option String} {ordinal : Nat}
    {requirement : MetadataBackupRequirement} :
    requirementForOperation identity (.backupPartitionTableMetadata disk tableLabel tableId) root
        ordinal = .ok (some requirement) ↔
      (isAtom disk ∧ isAtom tableLabel ∧ (∀ id ∈ tableId, isAtom id) ∧
        ∃ partition, (targetChain s target).filter (fun device => device.kind = .partition &&
          belongsTo s disk tableLabel tableId device) = [partition]) ∧
      requirement = partitionTableRequirement disk tableLabel tableId root ordinal := by
  have hatoms : (∀ id ∈ tableId.toList, isAtom id = true) ↔ ∀ id ∈ tableId, isAtom id = true := by
    simp
  simp only [requirementForOperation, validateAtom, check_eq_ok_iff, checkAll_eq_ok_iff,
    refuse_eq_ok_iff, not_not, hatoms]
  have hmatches := captured_partition_iff h disk tableLabel tableId
  cases hfound : identity.partitions.filter (partitionMatches disk tableLabel tableId) with
  | nil =>
    constructor
    · rintro ⟨-, -, -, hresult⟩
      cases hresult
    · rintro ⟨⟨-, -, -, partition, hpartition⟩, -⟩
      have hone := (hmatches _).mpr ⟨partition, hpartition, rfl⟩
      rw [hfound] at hone
      cases hone
  | cons item rest =>
    cases rest with
    | nil =>
      obtain ⟨partition, hpartition, rfl⟩ := (hmatches item).mp hfound
      have hmatch := (mem_of_filter_eq_singleton hfound).2
      simp only [partitionMatches, Bool.and_eq_true, beq_iff_eq] at hmatch
      obtain ⟨⟨-, hlabel⟩, hid⟩ := hmatch
      simp only [hlabel, hid, Option.getD_some]
      constructor
      · rintro ⟨hdisk, htable, hids, hresult⟩
        cases hresult
        exact ⟨⟨hdisk, htable, hids, partition, hpartition⟩, rfl⟩
      · rintro ⟨⟨hdisk, htable, hids, -⟩, rfl⟩
        exact ⟨hdisk, htable, hids, rfl⟩
    | cons second rest =>
      constructor
      · rintro ⟨-, -, -, hresult⟩
        cases hresult
      · rintro ⟨⟨-, -, -, partition, hpartition⟩, -⟩
        have hone := (hmatches _).mpr ⟨partition, hpartition, rfl⟩
        rw [hfound] at hone
        cases hone

/-- A group's backup step is met exactly when one group on the way to the target has its UUID,
and its names can be written down. -/
theorem requirementForOperation_group_iff (h : captureTargetIdentity s target = .ok identity)
    {vgUuid root : String} {ordinal : Nat} {requirement : MetadataBackupRequirement} :
    requirementForOperation identity (.backupLvmMetadata vgUuid) root ordinal =
        .ok (some requirement) ↔
      isAtom vgUuid ∧ ∃ vg, (chainGroups s target).filter (·.uuid = some vgUuid) = [vg] ∧
        isAtom vg.name ∧ requirement = volumeGroupRequirement vg.name vgUuid root ordinal := by
  simp only [requirementForOperation, validateAtom, check_eq_ok_iff, refuse_eq_ok_iff, not_not]
  refine and_congr_right fun _ => ?_
  have hmatches := captured_group_iff h vgUuid
  cases hfound : identity.lvm.filter (groupMatches vgUuid) with
  | nil =>
    constructor
    · intro hresult
      cases hresult
    · rintro ⟨vg, hvg, -⟩
      have hone := (hmatches _).mpr ⟨vg, hvg, rfl⟩
      rw [hfound] at hone
      cases hone
  | cons item rest =>
    cases rest with
    | nil =>
      obtain ⟨vg, hvg, rfl⟩ := (hmatches item).mp hfound
      constructor
      · intro hresult
        obtain ⟨hname, hresult⟩ := check_eq_ok_iff.mp hresult
        cases hresult
        exact ⟨vg, hvg, not_not.mp (refuse_eq_ok_iff.mp hname), rfl⟩
      · rintro ⟨vg', hvg', hname, rfl⟩
        rw [hvg] at hvg'
        cases hvg'
        exact check_eq_ok_iff.mpr ⟨refuse_eq_ok_iff.mpr (not_not.mpr hname), rfl⟩
    | cons second rest =>
      constructor
      · intro hresult
        cases hresult
      · rintro ⟨vg, hvg, -⟩
        have hone := (hmatches _).mpr ⟨vg, hvg, rfl⟩
        rw [hfound] at hone
        cases hone

end Captured

section Loop

variable {identity : TargetIdentityManifest} {root : String}

/-- The operations of a plan's backup steps. -/
def backupOperations (steps : List PlanStep) : List Operation :=
  (steps.map (·.operation)).filter fun operation => (backupKey operation).isSome

/-- One requirement for each operation, numbered on from `n`. -/
inductive Numbered (identity : TargetIdentityManifest) (root : String) :
    Nat → List Operation → List MetadataBackupRequirement → Prop
  | nil {n : Nat} : Numbered identity root n [] []
  | cons {n : Nat} {operation : Operation} {operations : List Operation}
      {requirement : MetadataBackupRequirement} {requirements : List MetadataBackupRequirement}
      (first : requirementForOperation identity operation root (n + 1) = .ok (some requirement))
      (rest : Numbered identity root (n + 1) operations requirements) :
      Numbered identity root n (operation :: operations) (requirement :: requirements)

/-- A backup step is met by a requirement, or refused. -/
theorem requirementForOperation_isSome {operation : Operation} {ordinal : Nat}
    {found : Option MetadataBackupRequirement} (hkey : (backupKey operation).isSome)
    (h : requirementForOperation identity operation root ordinal = .ok found) :
    ∃ requirement, found = some requirement := by
  cases operation with
  | backupPartitionTableMetadata disk tableLabel tableId =>
    simp only [requirementForOperation, check_eq_ok_iff] at h
    obtain ⟨-, -, -, h⟩ := h
    split at h
    · cases h
      exact ⟨_, rfl⟩
    · cases h
    · cases h
  | backupLvmMetadata vgUuid =>
    simp only [requirementForOperation, check_eq_ok_iff] at h
    obtain ⟨-, h⟩ := h
    split at h
    · obtain ⟨-, h⟩ := check_eq_ok_iff.mp h
      cases h
      exact ⟨_, rfl⟩
    · cases h
    · cases h
  | _ => cases hkey

/-- The loop meets every backup step, when no two of them go by one key. -/
theorem requirementsFrom_eq_ok_iff {steps : List PlanStep} {seen : List String}
    {required requirements : List MetadataBackupRequirement}
    (hfresh : ∀ operation ∈ backupOperations steps, ∀ key ∈ backupKey operation, key ∉ seen)
    (hdistinct : ((backupOperations steps).map backupKey).Nodup) :
    requirementsFrom identity root seen required steps = .ok requirements ↔
      ∃ added, requirements = required ++ added ∧
        Numbered identity root required.length (backupOperations steps) added := by
  induction steps generalizing seen required with
  | nil =>
    rw [requirementsFrom]
    constructor
    · intro h
      cases h
      exact ⟨[], (List.append_nil _).symm, .nil⟩
    · rintro ⟨added, rfl, hadded⟩
      cases hadded
      rw [List.append_nil]
  | cons step steps ih =>
    cases hkey : backupKey step.operation with
    | none =>
      have hskip : backupOperations (step :: steps) = backupOperations steps := by
        simp [backupOperations, hkey]
      rw [hskip] at hfresh hdistinct ⊢
      rw [requirementsFrom, hkey]
      exact ih hfresh hdistinct
    | some key =>
      have htake : backupOperations (step :: steps) =
          step.operation :: backupOperations steps := by
        simp [backupOperations, hkey]
      rw [htake, List.map_cons, List.nodup_cons] at hdistinct
      rw [htake] at hfresh ⊢
      have hnew : key ∉ seen := hfresh _ List.mem_cons_self key hkey
      have hrest : ∀ operation ∈ backupOperations steps, ∀ other ∈ backupKey operation,
          other ∉ key :: seen := by
        intro operation hmem other hother
        rw [List.mem_cons, not_or]
        refine ⟨?_, hfresh _ (List.mem_cons_of_mem _ hmem) other hother⟩
        rintro rfl
        exact hdistinct.1 (List.mem_map.mpr ⟨operation, hmem, hother.trans hkey.symm⟩)
      rw [requirementsFrom, hkey]
      dsimp only
      rw [if_neg hnew, bind_eq_ok_iff]
      constructor
      · rintro ⟨found, hfound, h⟩
        obtain ⟨requirement, rfl⟩ := requirementForOperation_isSome (by rw [hkey]; rfl) hfound
        obtain ⟨added, rfl, hadded⟩ := (ih hrest hdistinct.2).mp h
        refine ⟨requirement :: added, by simp, .cons hfound ?_⟩
        simpa using hadded
      · rintro ⟨added, rfl, hadded⟩
        cases hadded with
        | cons hfirst hadded =>
          rename_i requirement added
          refine ⟨some requirement, hfirst, (ih hrest hdistinct.2).mpr ⟨added, by simp, ?_⟩⟩
          simpa using hadded

end Loop

section Artifacts

variable {root : String}

theorem twoDigits_toList (n : Nat) : (twoDigits n).toList =
    if n < 10 then '0' :: Nat.toDigits 10 n else Nat.toDigits 10 n := by
  have hdigits : n.repr.toList = Nat.toDigits 10 n := Nat.toList_repr
  unfold twoDigits
  split
  · rw [show s!"0{n}" = "0" ++ n.repr from rfl, String.toList_append, hdigits]
    rfl
  · exact hdigits

theorem ofDigitChars_twoDigits (n : Nat) :
    Nat.ofDigitChars 10 (twoDigits n).toList 0 = n := by
  rw [twoDigits_toList]
  split
  · rw [Nat.ofDigitChars_cons]
    exact Nat.ofDigitChars_ten_toDigits
  · exact Nat.ofDigitChars_ten_toDigits

theorem isDigit_of_mem_twoDigits {n : Nat} {c : Char} (h : c ∈ (twoDigits n).toList) :
    c.isDigit = true := by
  have hmem : c = '0' ∨ c ∈ Nat.toDigits 10 n := by
    rw [twoDigits_toList] at h
    split at h
    · exact List.mem_cons.mp h
    · exact .inr h
  rcases hmem with rfl | hmem
  · decide
  · exact Nat.isDigit_of_mem_toDigits (by decide) (by decide) hmem

/-- An artifact's name tells its ordinal. -/
theorem artifactPath_ordinal {m n : Nat} {a b : String}
    (h : artifactPath root m a = artifactPath root n b) : m = n := by
  have hname : s!"{twoDigits m}-{a}" = s!"{twoDigits n}-{b}" := by
    unfold artifactPath Swap.pathJoin at h
    split at h
    · exact String.append_right_inj _ |>.mp h
    · exact String.append_right_inj _ |>.mp h
  have hsplit : ∀ (k : Nat) (suffix : String), (s!"{twoDigits k}-{suffix}".toList).takeWhile
      Char.isDigit = (twoDigits k).toList := by
    intro k suffix
    have hlist : s!"{twoDigits k}-{suffix}".toList =
        (twoDigits k).toList ++ '-' :: suffix.toList := by
      rw [show s!"{twoDigits k}-{suffix}" = twoDigits k ++ "-" ++ suffix from rfl,
        String.toList_append, String.toList_append, List.append_assoc]
      rfl
    rw [hlist, List.takeWhile_append_of_pos fun c hc => isDigit_of_mem_twoDigits hc]
    simp
  rw [← ofDigitChars_twoDigits m, ← hsplit m a, hname, hsplit n b, ofDigitChars_twoDigits]

end Artifacts

section Coverage

variable {identity : TargetIdentityManifest} {root : String}

/-- The requirement asks for what the backup step names. -/
def Names (s : HostSnapshot) (target : String) (operation : Operation)
    (requirement : MetadataBackupRequirement) : Prop :=
  match operation with
  | .backupPartitionTableMetadata disk tableLabel tableId =>
    requirement.kind = .partitionTable ∧
      requirement.expectedIdentity = .partitionTable disk tableLabel tableId
  | .backupLvmMetadata vgUuid =>
    requirement.kind = .lvmVolumeGroup ∧ ∃ vgName, targetGroup s target vgName ∧
      requirement.expectedIdentity = .lvmVolumeGroup vgName vgUuid
  | _ => False

/-- The metadata that a backup step copies. -/
def backupKind : Operation → Option MetadataBackupKind
  | .backupPartitionTableMetadata _ _ _ => some .partitionTable
  | .backupLvmMetadata _ => some .lvmVolumeGroup
  | _ => none

/-- The metadata that a step changes. -/
def mutatedMetadata : Operation → Option MetadataBackupKind
  | .extendPartition _ _ _ _ _ => some .partitionTable
  | .resizePhysicalVolume _ _ | .extendLogicalVolume _ _ _ => some .lvmVolumeGroup
  | _ => none

/-- A plan's steps before the first that changes this metadata. -/
def stepsBefore (kind : MetadataBackupKind) (steps : List PlanStep) : List PlanStep :=
  steps.takeWhile (mutatedMetadata ·.operation ≠ some kind)

/-- One requirement for each table and each group that the backup steps name, and the change of
any metadata only after the step that its requirement is for. -/
structure BackedUp (s : HostSnapshot) (target : String) (steps : List PlanStep)
    (manifest : MetadataBackupManifest) : Prop where
  ordinals : manifest.requirements.map (·.ordinal) =
    List.range' 1 manifest.requirements.length
  paths : (manifest.requirements.map (·.artifactPath)).Nodup
  asked : ∀ operation ∈ backupOperations steps,
    ∃! requirement, requirement ∈ manifest.requirements ∧ Names s target operation requirement
  named : ∀ requirement ∈ manifest.requirements,
    ∃ operation ∈ backupOperations steps, Names s target operation requirement
  covered : ∀ step ∈ steps, ∀ kind, mutatedMetadata step.operation = some kind →
    ∃ backup ∈ stepsBefore kind steps, ∃ requirement ∈ manifest.requirements,
      requirement.kind = kind ∧ Names s target backup.operation requirement

/-- What a requirement made for an operation asks for, whoever its group belongs to. -/
def Describes (operation : Operation) (requirement : MetadataBackupRequirement) : Prop :=
  match operation with
  | .backupPartitionTableMetadata disk tableLabel tableId =>
    requirement.expectedIdentity = .partitionTable disk tableLabel tableId
  | .backupLvmMetadata vgUuid =>
    ∃ vgName, requirement.expectedIdentity = .lvmVolumeGroup vgName vgUuid
  | _ => False

theorem Names.describes {s : HostSnapshot} {target : String} {operation : Operation}
    {requirement : MetadataBackupRequirement} (h : Names s target operation requirement) :
    Describes operation requirement := by
  cases operation with
  | backupPartitionTableMetadata disk tableLabel tableId => exact h.2
  | backupLvmMetadata vgUuid =>
    obtain ⟨-, vgName, -, hidentity⟩ := h
    exact ⟨vgName, hidentity⟩
  | _ => exact h

theorem Names.kind {s : HostSnapshot} {target : String} {operation : Operation}
    {requirement : MetadataBackupRequirement} {kind : MetadataBackupKind}
    (h : Names s target operation requirement) (hkind : backupKind operation = some kind) :
    requirement.kind = kind := by
  cases operation with
  | backupPartitionTableMetadata disk tableLabel tableId =>
    cases hkind
    exact h.1
  | backupLvmMetadata vgUuid =>
    cases hkind
    exact h.1
  | _ => cases hkind

/-- A requirement tells the operation it was made for. -/
theorem Describes.unique {operation other : Operation} {requirement : MetadataBackupRequirement}
    (h : Describes operation requirement) (h' : Describes other requirement) :
    operation = other := by
  cases operation with
  | backupPartitionTableMetadata disk tableLabel tableId =>
    cases other with
    | backupPartitionTableMetadata disk' tableLabel' tableId' =>
      cases h.symm.trans h'
      rfl
    | backupLvmMetadata vgUuid =>
      obtain ⟨vgName, h'⟩ := h'
      cases h.symm.trans h'
    | _ => exact h'.elim
  | backupLvmMetadata vgUuid =>
    obtain ⟨vgName, h⟩ := h
    cases other with
    | backupPartitionTableMetadata disk tableLabel tableId => cases h.symm.trans h'
    | backupLvmMetadata vgUuid' =>
      obtain ⟨vgName', h'⟩ := h'
      cases h.symm.trans h'
      rfl
    | _ => exact h'.elim
  | _ => exact h.elim

/-- What is made for an operation: its number, its file and what it describes, with a command
that the capture accepts. -/
structure Made (root : String) (ordinal : Nat) (operation : Operation)
    (requirement : MetadataBackupRequirement) : Prop where
  ordinal_eq : requirement.ordinal = ordinal
  path : ∃ suffix, requirement.artifactPath = artifactPath root ordinal suffix
  describes : Describes operation requirement
  capturable : JournalStore.validateRequirement requirement.toMetadataBackupRequirement = .ok ()

theorem partitionTableRequirement_made {disk tableLabel : String} {tableId : Option String}
    {ordinal : Nat} : Made root ordinal (.backupPartitionTableMetadata disk tableLabel tableId)
      (partitionTableRequirement disk tableLabel tableId root ordinal) where
  ordinal_eq := rfl
  path := ⟨_, rfl⟩
  describes := rfl
  capturable := by simp [JournalStore.validateRequirement, check_eq_ok_iff,
    partitionTableRequirement]

theorem volumeGroupRequirement_made {vgName vgUuid : String} {ordinal : Nat} :
    Made root ordinal (.backupLvmMetadata vgUuid)
      (volumeGroupRequirement vgName vgUuid root ordinal) where
  ordinal_eq := rfl
  path := ⟨_, rfl⟩
  describes := ⟨vgName, rfl⟩
  capturable := by simp [JournalStore.validateRequirement, check_eq_ok_iff,
    volumeGroupRequirement]

theorem requirementForOperation_made {operation : Operation} {ordinal : Nat}
    {requirement : MetadataBackupRequirement}
    (h : requirementForOperation identity operation root ordinal = .ok (some requirement)) :
    Made root ordinal operation requirement := by
  cases operation with
  | backupPartitionTableMetadata disk tableLabel tableId =>
    simp only [requirementForOperation, check_eq_ok_iff] at h
    obtain ⟨-, -, -, h⟩ := h
    split at h
    · rename_i item hfound
      have hmatch := (mem_of_filter_eq_singleton hfound).2
      simp only [partitionMatches, Bool.and_eq_true, beq_iff_eq] at hmatch
      obtain ⟨⟨-, hlabel⟩, hid⟩ := hmatch
      rw [hlabel, hid] at h
      cases h
      exact partitionTableRequirement_made
    · cases h
    · cases h
  | backupLvmMetadata vgUuid =>
    simp only [requirementForOperation, check_eq_ok_iff] at h
    obtain ⟨-, h⟩ := h
    split at h
    · obtain ⟨-, h⟩ := check_eq_ok_iff.mp h
      cases h
      exact volumeGroupRequirement_made
    · cases h
    · cases h
  | _ => cases h

theorem Numbered.mem {n : Nat} {operations : List Operation}
    {requirements : List MetadataBackupRequirement}
    (h : Numbered identity root n operations requirements) {requirement : MetadataBackupRequirement}
    (hmem : requirement ∈ requirements) : ∃ operation ∈ operations, ∃ ordinal,
      requirementForOperation identity operation root ordinal = .ok (some requirement) := by
  induction h with
  | nil => cases hmem
  | cons first _ ih =>
    rcases List.mem_cons.mp hmem with rfl | hmem
    · exact ⟨_, List.mem_cons_self, _, first⟩
    · obtain ⟨operation, hoperation, ordinal, hmade⟩ := ih hmem
      exact ⟨operation, List.mem_cons_of_mem _ hoperation, ordinal, hmade⟩

theorem Numbered.exists_of_mem {n : Nat} {operations : List Operation}
    {requirements : List MetadataBackupRequirement}
    (h : Numbered identity root n operations requirements) {operation : Operation}
    (hmem : operation ∈ operations) : ∃ requirement ∈ requirements, ∃ ordinal,
      requirementForOperation identity operation root ordinal = .ok (some requirement) := by
  induction h with
  | nil => cases hmem
  | cons first _ ih =>
    rcases List.mem_cons.mp hmem with rfl | hmem
    · exact ⟨_, List.mem_cons_self, _, first⟩
    · obtain ⟨requirement, hrequirement, ordinal, hmade⟩ := ih hmem
      exact ⟨requirement, List.mem_cons_of_mem _ hrequirement, ordinal, hmade⟩

theorem Numbered.intro {operations : List Operation} (n : Nat)
    (h : ∀ operation ∈ operations, ∀ ordinal, ∃ requirement,
      requirementForOperation identity operation root ordinal = .ok (some requirement)) :
    ∃ requirements, Numbered identity root n operations requirements := by
  induction operations generalizing n with
  | nil => exact ⟨[], .nil⟩
  | cons operation operations ih =>
    obtain ⟨requirement, hfirst⟩ := h operation List.mem_cons_self (n + 1)
    obtain ⟨requirements, hrest⟩ := ih (n + 1) fun other hmem =>
      h other (List.mem_cons_of_mem _ hmem)
    exact ⟨requirement :: requirements, .cons hfirst hrest⟩

theorem Numbered.ordinals {n : Nat} {operations : List Operation}
    {requirements : List MetadataBackupRequirement}
    (h : Numbered identity root n operations requirements) :
    requirements.map (·.ordinal) = List.range' (n + 1) requirements.length := by
  induction h with
  | nil => rfl
  | cons first _ ih =>
    rw [List.map_cons, ih, (requirementForOperation_made first).ordinal_eq, List.length_cons,
      List.range'_succ]

/-- Each file is named after the ordinal of its requirement. -/
theorem Numbered.path {n : Nat} {operations : List Operation}
    {requirements : List MetadataBackupRequirement}
    (h : Numbered identity root n operations requirements) {requirement : MetadataBackupRequirement}
    (hmem : requirement ∈ requirements) :
    ∃ suffix, requirement.artifactPath = artifactPath root requirement.ordinal suffix := by
  obtain ⟨operation, -, ordinal, hmade⟩ := h.mem hmem
  have made := requirementForOperation_made hmade
  rw [made.ordinal_eq]
  exact made.path

theorem Numbered.paths {n : Nat} {operations : List Operation}
    {requirements : List MetadataBackupRequirement}
    (h : Numbered identity root n operations requirements) :
    (requirements.map (·.artifactPath)).Nodup := by
  have hordinals : (requirements.map (·.ordinal)).Nodup := by
    rw [h.ordinals]
    exact List.nodup_range'
  rw [List.Nodup, List.pairwise_map] at hordinals ⊢
  refine hordinals.imp_of_mem fun {first second} hfirst hsecond hne heq => hne ?_
  obtain ⟨suffix, hpath⟩ := h.path hfirst
  obtain ⟨suffix', hpath'⟩ := h.path hsecond
  rw [hpath, hpath'] at heq
  exact artifactPath_ordinal heq

/-- Over operations without repetitions, one requirement describes one operation. -/
theorem Numbered.unique {n : Nat} {operations : List Operation}
    {requirements : List MetadataBackupRequirement}
    (h : Numbered identity root n operations requirements) (hdistinct : operations.Nodup)
    {operation : Operation} {first second : MetadataBackupRequirement}
    (hfirst : first ∈ requirements) (hsecond : second ∈ requirements)
    (hdescribes : Describes operation first) (hdescribes' : Describes operation second) :
    first = second := by
  induction h with
  | nil => cases hfirst
  | @cons _ asked _ requirement requirements made rest ih =>
    obtain ⟨hnew, hdistinct⟩ := List.nodup_cons.mp hdistinct
    have hlater : ∀ later ∈ requirements, Describes operation later →
        ¬Describes operation requirement := by
      intro later hmem hlater hhead
      obtain ⟨other, hother, ordinal, hmade⟩ := rest.mem hmem
      have hsame : other = operation :=
        (requirementForOperation_made hmade).describes.unique hlater
      have hsame' : asked = operation :=
        (requirementForOperation_made made).describes.unique hhead
      rw [hsame', ← hsame] at hnew
      exact hnew hother
    rcases List.mem_cons.mp hfirst with hfirst | hfirst
    · rcases List.mem_cons.mp hsecond with hsecond | hsecond
      · rw [hfirst, hsecond]
      · rw [hfirst] at hdescribes
        exact (hlater second hsecond hdescribes' hdescribes).elim
    · rcases List.mem_cons.mp hsecond with hsecond | hsecond
      · rw [hsecond] at hdescribes'
        exact (hlater first hfirst hdescribes hdescribes').elim
      · exact ih hdistinct hfirst hsecond

end Coverage

section Plans

/-- The backup steps go by different keys, and stand before the changes of their metadata. -/
structure Guarded (steps : List PlanStep) : Prop where
  distinct : ((backupOperations steps).map backupKey).Nodup
  before : ∀ step ∈ steps, ∀ kind, mutatedMetadata step.operation = some kind →
    ∃ backup ∈ stepsBefore kind steps, backup.operation ∈ backupOperations steps ∧
      backupKind backup.operation = some kind

theorem backupKey_ne (disk tableLabel vgUuid : String) (tableId : Option String) :
    backupKey (.backupLvmMetadata vgUuid) ≠
      backupKey (.backupPartitionTableMetadata disk tableLabel tableId) := by
  intro h
  have htext := congrArg String.toList (Option.some.inj h)
  rw [show s!"lvm-vg:{vgUuid}" = "lvm-vg:" ++ vgUuid from rfl,
    show s!"partition-table:{disk}" = "partition-table:" ++ disk from rfl,
    String.toList_append, String.toList_append] at htext
  exact absurd (List.cons.inj htext).1 (by decide)

variable {s : HostSnapshot} {capabilities : HostCapabilities} {request : ExtendRequest}

open Extend

theorem PartitionPlan.guarded {size : PartitionSizeChange} {steps : List PlanStep}
    (plan : PartitionPlan s capabilities request size steps) : Guarded steps := by
  rw [plan.steps_eq, partitionSteps]
  constructor
  · simp [backupOperations, backupKey, step]
  · simp [backupOperations, backupKey, backupKind, step, stepsBefore, mutatedMetadata]

theorem FreeExtentsPlan.guarded {size : SizeChange} {steps : List PlanStep}
    (plan : FreeExtentsPlan s capabilities request size steps) : Guarded steps := by
  rw [plan.steps_eq]
  constructor
  · simp [backupOperations, backupKey, step]
  · simp [backupOperations, backupKey, backupKind, step, stepsBefore, mutatedMetadata]

theorem WholePlan.guarded {size : FilesystemSizeChange} {steps : List PlanStep}
    (plan : WholePlan s capabilities request size steps) : Guarded steps := by
  rw [plan.steps_eq]
  constructor
  · simp [backupOperations, backupKey, step]
  · simp [step, mutatedMetadata]

theorem UnderlyingPlan.guarded {route : GrowthRouteAlternative} {size : SizeChange}
    {partitionSize : Option PartitionSizeChange} {steps : List PlanStep}
    (plan : UnderlyingPlan s request route size partitionSize steps) : Guarded steps := by
  rw [plan.steps_eq]
  cases partitionSize with
  | none =>
    obtain ⟨-, hnone⟩ := underlyingPartition_none plan.partition
    rw [hnone]
    constructor
    · simp [backupOperations, backupKey, numbered, step]
    · simp [backupOperations, backupKey, backupKind, numbered, step, stepsBefore, mutatedMetadata]
  | some size' =>
    obtain ⟨table, record, label, partition, newSizeSectors, under⟩ :=
      underlyingPartition_some plan.partition
    rw [under.operations_eq]
    constructor
    · have hne := backupKey_ne route.disk label plan.vgUuid table.id
      simpa [backupOperations, backupKey, numbered, step] using hne
    · simp [backupOperations, backupKey, backupKind, numbered, step, stepsBefore, mutatedMetadata]

/-- In every preview, metadata changes only after its backup. -/
theorem planExtend_guarded [Fingerprint]
    (h : (planExtend s capabilities request).status = .preview) :
    Guarded (planExtend s capabilities request).steps := by
  cases planExtend_chosen h with
  | partition _ plan => exact PartitionPlan.guarded plan
  | freeExtents _ _ plan => exact FreeExtentsPlan.guarded plan
  | underlying _ _ plan => exact UnderlyingPlan.guarded plan
  | whole _ plan => exact WholePlan.guarded plan

end Plans

section Manifest

variable [Fingerprint] {s : HostSnapshot} {capabilities : HostCapabilities}
  {request : ExtendRequest} {handoff : FrozenExecutionHandoff}
  {identity : TargetIdentityManifest} {target root : String}

/-- A backup step is met by a requirement that asks for what it names exactly when the snapshot
tells what that is. -/
theorem names_iff_recorded (h : captureTargetIdentity s target = .ok identity)
    {operation : Operation} (hkey : (backupKey operation).isSome) {ordinal : Nat} :
    (∃ requirement, requirementForOperation identity operation root ordinal =
        .ok (some requirement) ∧ Names s target operation requirement) ↔
      Recorded s target operation := by
  cases operation with
  | backupPartitionTableMetadata disk tableLabel tableId =>
    constructor
    · rintro ⟨requirement, hmade, -⟩
      exact ((requirementForOperation_table_iff h).mp hmade).1
    · intro hrecorded
      exact ⟨_, (requirementForOperation_table_iff h).mpr ⟨hrecorded, rfl⟩, rfl, rfl⟩
  | backupLvmMetadata vgUuid =>
    constructor
    · rintro ⟨requirement, hmade, -, vgName, hgroup, hidentity⟩
      obtain ⟨hatom, vg, hvg, hname, rfl⟩ := (requirementForOperation_group_iff h).mp hmade
      cases hidentity
      exact ⟨hatom, vg, hvg, hname, hgroup⟩
    · rintro ⟨hatom, vg, hvg, hname, hgroup⟩
      exact ⟨_, (requirementForOperation_group_iff h).mpr ⟨hatom, vg, hvg, hname, rfl⟩, rfl,
        vg.name, hgroup, rfl⟩
  | _ => cases hkey

/-- A ready handoff passes every check before the loop over its steps. -/
theorem buildMetadataBackupManifest_ok_iff (frozen : Frozen s capabilities request handoff)
    (hready : handoff.status ≠ .blocked) {requirements : List MetadataBackupRequirement} :
    (∃ manifest, buildMetadataBackupManifest handoff = .ok manifest ∧
        manifest.requirements = requirements) ↔
      requirementsFrom handoff.targetIdentity
        (Swap.pathJoin JournalStore.backupDirectory handoff.handoffId) [] [] handoff.plan.steps =
          .ok requirements := by
  have hplan : isSha256Hex handoff.plan.planId = true := by
    rw [frozen.plan]
    exact Fingerprint.isSha256Hex_fingerprint _
  have hdigest := captureTargetIdentity_digest frozen.captured
  unfold buildMetadataBackupManifest buildMetadataBackupManifestAt validateDigest
  simp only [bind_eq_ok_iff, exists_check_iff, refuse_eq_ok_iff, frozen.closed.1, frozen.closed.2,
    frozen.identified, hplan, hdigest, hready, not_true_eq_false, not_false_eq_true,
    Bool.false_eq_true, true_and]
  constructor
  · rintro ⟨manifest, ⟨found, hfound, hresult⟩, rfl⟩
    cases hresult
    exact hfound
  · intro hfound
    exact ⟨_, ⟨requirements, hfound, rfl⟩, rfl⟩

/-- The requirements of a ready preview's manifest are one for each of its backup steps. -/
theorem built_iff_numbered (frozen : Frozen s capabilities request handoff)
    (hready : handoff.status ≠ .blocked) {requirements : List MetadataBackupRequirement} :
    (∃ manifest, buildMetadataBackupManifest handoff = .ok manifest ∧
        manifest.requirements = requirements) ↔
      Numbered handoff.targetIdentity
        (Swap.pathJoin JournalStore.backupDirectory handoff.handoffId) 0
        (backupOperations (planExtend s capabilities request).steps) requirements := by
  have guarded := planExtend_guarded frozen.preview
  rw [buildMetadataBackupManifest_ok_iff frozen hready, frozen.plan,
    requirementsFrom_eq_ok_iff (by simp) guarded.distinct]
  simp

/-- The manifest of a ready preview backs up all that the plan changes exactly when the
snapshot tells, for each backup step, the one thing on the way to the target it can mean. -/
theorem buildMetadataBackupManifest_backedUp_iff
    (hfrozen : buildFrozenExecutionHandoff s capabilities (planExtend s capabilities request) =
      .ok handoff)
    (hready : handoff.status ≠ .blocked) :
    (∃ manifest, buildMetadataBackupManifest handoff = .ok manifest ∧
        BackedUp s request.target (planExtend s capabilities request).steps manifest) ↔
      ∀ operation ∈ backupOperations (planExtend s capabilities request).steps,
        Recorded s request.target operation := by
  have frozen := buildFrozenExecutionHandoff_ok hfrozen
  have guarded := planExtend_guarded frozen.preview
  have hnodup := guarded.distinct.of_map
  have hkeys : ∀ operation ∈ backupOperations (planExtend s capabilities request).steps,
      (backupKey operation).isSome := fun operation hmem => (List.mem_filter.mp hmem).2
  constructor
  · rintro ⟨manifest, hbuilt, backedUp⟩ operation hmem
    have numbered := (built_iff_numbered frozen hready).mp ⟨manifest, hbuilt, rfl⟩
    obtain ⟨requirement, hrequirement, ordinal, hmade⟩ := numbered.exists_of_mem hmem
    -- what was made for the step is what a step names, and it is this step
    obtain ⟨other, -, hnames⟩ := backedUp.named requirement hrequirement
    have hsame' := hnames.describes.unique (requirementForOperation_made hmade).describes
    rw [hsame'] at hnames
    exact (names_iff_recorded frozen.captured (hkeys _ hmem)).mp ⟨requirement, hmade, hnames⟩
  · intro hrecorded
    have hmet : ∀ operation ∈ backupOperations (planExtend s capabilities request).steps,
        ∀ ordinal, ∃ requirement, requirementForOperation handoff.targetIdentity operation
          (Swap.pathJoin JournalStore.backupDirectory handoff.handoffId) ordinal =
            .ok (some requirement) ∧ Names s request.target operation requirement :=
      fun operation hmem _ =>
        (names_iff_recorded frozen.captured (hkeys _ hmem)).mpr (hrecorded _ hmem)
    obtain ⟨requirements, numbered⟩ := Numbered.intro 0 fun operation hmem ordinal =>
      (hmet operation hmem ordinal).imp fun _ hmade => hmade.1
    obtain ⟨manifest, hbuilt, rfl⟩ := (built_iff_numbered frozen hready).mpr numbered
    have hnamed : ∀ requirement ∈ manifest.requirements, ∃ operation ∈
        backupOperations (planExtend s capabilities request).steps,
        Names s request.target operation requirement := by
      intro requirement hrequirement
      obtain ⟨operation, hmem, ordinal, hmade⟩ := numbered.mem hrequirement
      obtain ⟨requirement', hmade', hnames⟩ := hmet operation hmem ordinal
      rw [hmade] at hmade'
      cases hmade'
      exact ⟨operation, hmem, hnames⟩
    have hasked : ∀ operation ∈ backupOperations (planExtend s capabilities request).steps,
        ∃ requirement ∈ manifest.requirements, Names s request.target operation requirement := by
      intro operation hmem
      obtain ⟨requirement, hrequirement, ordinal, hmade⟩ := numbered.exists_of_mem hmem
      obtain ⟨requirement', hmade', hnames⟩ := hmet operation hmem ordinal
      rw [hmade] at hmade'
      cases hmade'
      exact ⟨requirement, hrequirement, hnames⟩
    refine ⟨manifest, hbuilt, numbered.ordinals, numbered.paths, ?_, hnamed, ?_⟩
    · intro operation hmem
      obtain ⟨requirement, hrequirement, hnames⟩ := hasked operation hmem
      refine ⟨requirement, ⟨hrequirement, hnames⟩, fun other ⟨hother, hnames'⟩ => ?_⟩
      exact numbered.unique hnodup hother hrequirement hnames'.describes hnames.describes
    · intro step hstep kind hkind
      obtain ⟨backup, hbackup, hmem, hbackupKind⟩ := guarded.before step hstep kind hkind
      obtain ⟨requirement, hrequirement, hnames⟩ := hasked backup.operation hmem
      exact ⟨backup, hbackup, requirement, hrequirement, hnames.kind hbackupKind, hnames⟩

end Manifest

section Capture

variable {identity : TargetIdentityManifest} {root : String} {handoff : FrozenExecutionHandoff}

/-- Whatever the steps are, the loop only adds what was made for one of them. -/
theorem requirementsFrom_forall {p : MetadataBackupRequirement → Prop}
    (hmade : ∀ operation ordinal requirement, requirementForOperation identity operation root
      ordinal = .ok (some requirement) → p requirement)
    {steps : List PlanStep} {seen : List String}
    {required requirements : List MetadataBackupRequirement}
    (hrequired : ∀ requirement ∈ required, p requirement)
    (h : requirementsFrom identity root seen required steps = .ok requirements) :
    ∀ requirement ∈ requirements, p requirement := by
  induction steps generalizing seen required with
  | nil =>
    cases h
    exact hrequired
  | cons step steps ih =>
    rw [requirementsFrom] at h
    split at h
    · exact ih hrequired h
    · split at h
      · exact ih hrequired h
      · obtain ⟨found, hfound, h⟩ := bind_eq_ok_iff.mp h
        refine ih (fun requirement hmem => ?_) h
        rcases List.mem_append.mp hmem with hmem | hmem
        · exact hrequired requirement hmem
        · rw [Option.mem_toList.mp hmem] at hfound
          exact hmade _ _ requirement hfound

/-- The loop counts what it adds. -/
theorem requirementsFrom_ordinals {steps : List PlanStep} {seen : List String}
    {required requirements : List MetadataBackupRequirement}
    (hrequired : required.map (·.ordinal) = List.range' 1 required.length)
    (h : requirementsFrom identity root seen required steps = .ok requirements) :
    requirements.map (·.ordinal) = List.range' 1 requirements.length := by
  induction steps generalizing seen required with
  | nil =>
    cases h
    exact hrequired
  | cons step steps ih =>
    rw [requirementsFrom] at h
    split at h
    · exact ih hrequired h
    · split at h
      · exact ih hrequired h
      · obtain ⟨found, hfound, h⟩ := bind_eq_ok_iff.mp h
        refine ih ?_ h
        cases found with
        | none => rwa [Option.toList_none, List.append_nil]
        | some requirement =>
          have hordinal := (requirementForOperation_made hfound).ordinal_eq
          rw [Option.toList_some, List.map_append, hrequired, List.length_append,
            List.length_singleton, List.range'_concat, List.map_singleton, hordinal]
          congr 2
          omega

variable [Fingerprint]

theorem buildMetadataBackupManifestAt_ok {manifest : MetadataBackupManifest}
    (h : buildMetadataBackupManifestAt handoff root = .ok manifest) :
    manifest.handoffId = handoff.handoffId ∧ manifest.planId = handoff.plan.planId ∧
      manifest.targetManifestDigest = handoff.targetIdentity.manifestDigest ∧
      manifest.artifactDirectory = root ∧ manifest.mutationEnabled = false ∧
      manifest.ownerAcceptanceRequired = true ∧
      requirementsFrom handoff.targetIdentity root [] [] handoff.plan.steps =
        .ok manifest.requirements := by
  unfold buildMetadataBackupManifestAt at h
  simp only [bind_eq_ok_iff, exists_check_iff] at h
  obtain ⟨-, -, -, -, -, -, requirements, hrequirements, hresult⟩ := h
  cases hresult
  exact ⟨rfl, rfl, rfl, rfl, rfl, rfl, hrequirements⟩

theorem buildMetadataBackupManifestAt_handoffId {manifest : MetadataBackupManifest}
    (h : buildMetadataBackupManifestAt handoff root = .ok manifest) :
    isSha256Hex handoff.handoffId = true := by
  unfold buildMetadataBackupManifestAt at h
  simp only [bind_eq_ok_iff, exists_check_iff] at h
  obtain ⟨-, -, -, hdigest, -⟩ := h
  exact not_not.mp (refuse_eq_ok_iff.mp hdigest)

omit [Fingerprint] in
/-- A digest is no absolute path. -/
theorem productionRoot_of_digest {handoffId : String} (h : isSha256Hex handoffId = true) :
    JournalStore.productionRoot handoffId = Swap.pathJoin JournalStore.backupDirectory handoffId := by
  rw [JournalStore.productionRoot, Swap.pathResolve, if_neg]
  intro hslash
  obtain ⟨rest, hrest⟩ := List.isPrefixOf_iff_prefix.mp hslash
  have hmem : '/' ∈ handoffId.toList := by
    rw [← hrest]
    exact List.mem_cons_self
  have hdigit := List.all_eq_true.mp (Bool.and_eq_true_iff.mp h).2 '/' hmem
  exact absurd hdigit (by decide)

/-- Every requirement of a manifest is one that the capture runs. -/
theorem buildMetadataBackupManifestAt_capturable {manifest : MetadataBackupManifest}
    (h : buildMetadataBackupManifestAt handoff root = .ok manifest) :
    ∀ requirement ∈ manifest.forCapture.requirements,
      JournalStore.validateRequirement requirement = .ok () := by
  obtain ⟨-, -, -, -, -, -, hrequirements⟩ := buildMetadataBackupManifestAt_ok h
  intro requirement hmem
  obtain ⟨made, hmade, rfl⟩ := List.mem_map.mp hmem
  exact requirementsFrom_forall
    (p := fun made => JournalStore.validateRequirement made.toMetadataBackupRequirement = .ok ())
    (fun _ _ _ hmade => (requirementForOperation_made hmade).capturable) (by simp) hrequirements
    made hmade

theorem buildMetadataBackupManifestAt_ordinals {manifest : MetadataBackupManifest}
    (h : buildMetadataBackupManifestAt handoff root = .ok manifest) :
    (manifest.forCapture.requirements.map (·.ordinal)).Nodup := by
  obtain ⟨-, -, -, -, -, -, hrequirements⟩ := buildMetadataBackupManifestAt_ok h
  have hordinals : manifest.requirements.map (·.ordinal) =
      List.range' 1 manifest.requirements.length := requirementsFrom_ordinals rfl hrequirements
  rw [MetadataBackupManifest.forCapture, List.map_map]
  refine (congrArg List.Nodup hordinals).mpr ?_
  exact List.nodup_range'

/-- The handoff as a session holds it. -/
def forSession (handoff : FrozenExecutionHandoff)
    (hguard : handoff.guard.planId = handoff.plan.planId) :
    JournalStore.FrozenExecutionHandoff where
  handoffId := handoff.handoffId
  mutationEnabled := handoff.mutationEnabled
  status := match handoff.status with
    | .futureExecutorGatesRequired => .futureExecutorGatesRequired
    | .blocked => .blocked
  planId := handoff.plan.planId
  capabilitiesDigest := handoff.capabilitiesDigest
  manifestDigest := handoff.targetIdentity.manifestDigest
  guard := handoff.guard.toExecutionGuardPlan
  guard_planId := hguard

/-- The manifest of a session's own handoff is bound to the session, and goes where the capture
lets it go. -/
theorem buildMetadataBackupManifest_bound {manifest : MetadataBackupManifest}
    {session : LockedExecutionSession} {hguard : handoff.guard.planId = handoff.plan.planId}
    (hbuilt : buildMetadataBackupManifest handoff = .ok manifest)
    (hsession : session.handoff = forSession handoff hguard)
    (hphase : session.journal.phase = .identityRevalidated) :
    JournalStore.validateBinding session manifest.forCapture = .ok () ∧
      JournalStore.isArtifactRoot manifest.forCapture session.handoff.handoffId
        session.journal.journalId = true := by
  obtain ⟨hid, hplan, hdigest, hroot, hmutation, howner, -⟩ :=
    buildMetadataBackupManifestAt_ok hbuilt
  constructor
  · simp only [JournalStore.validateBinding, check_eq_ok_iff, refuse_eq_ok_iff,
      MetadataBackupManifest.forCapture, hsession, forSession, hphase, hid, hplan, hdigest,
      hmutation, howner]
    simp [JournalStore.mutationEnabled]
  · have hproduction :=
      productionRoot_of_digest (buildMetadataBackupManifestAt_handoffId hbuilt)
    simp only [JournalStore.isArtifactRoot, MetadataBackupManifest.forCapture, hsession, forSession,
      hroot, hproduction, Swap.samePath_self, Bool.true_or]

end Capture

section Samples

open Extend (volumeCapabilities volumeSnapshot)

/-- The volume with a clean filesystem, and with more tables than that of its disk. -/
def measuredVolume (tables : List PartitionTable) : HostSnapshot :=
  { volumeSnapshot with
    partitionTables := volumeSnapshot.partitionTables ++ tables,
    filesystemPreflight :=
      [{ device := "/dev/mapper/vg-data", mountpoint := some "/data", fsType := "ext4",
         fsVersion := none, state := .verified, filesystemState := some "clean",
         revision := some "1 (dynamic)", features := ["has_journal", "extent"],
         blockSizeBytes := some 4096, blockCount := some 2304, sizeBytes := some 9437184,
         growCheckPassed := none, detail := none }] }

/-- The table of another disk that lists the partition as well. -/
def strayTable : PartitionTable where
  device := "/dev/sdb"
  label := some "dos"
  id := some "t2"
  unit := some "sectors"
  firstLba := none
  lastLba := none
  sectorSizeBytes := some 512
  partitions := [⟨"/dev/sda1", 2048, 2048, none, none, none, none, none⟩]

/-- The largest growth of the volume, with a ready handoff. -/
theorem measuredVolume_handoff (tables : List PartitionTable)
    (hpreview : (planExtend (measuredVolume tables) volumeCapabilities
      ⟨"/data", .maxFree⟩).status = .preview)
    (hpath : ((analyzeLayerRoute (measuredVolume tables) "/data").resolvedDevice.bind
      (pathTo (measuredVolume tables))).isSome)
    (hroute : (analyzeLayerRoute (measuredVolume tables) "/data").status = .supportedProfile)
    (hdecision : filesystemBlockers (decideFilesystemGrowth (measuredVolume tables)
      volumeCapabilities "/data") = []) :
    ∃ handoff, buildFrozenExecutionHandoff (measuredVolume tables) volumeCapabilities
      (planExtend (measuredVolume tables) volumeCapabilities ⟨"/data", .maxFree⟩) = .ok handoff ∧
      handoff.status ≠ .blocked := by
  obtain ⟨identity, hcaptured⟩ := captureTargetIdentity_exists hpath
  obtain ⟨handoff, hfrozen⟩ := buildFrozenExecutionHandoff_planExtend hpreview hcaptured
  exact ⟨handoff, hfrozen, (buildFrozenExecutionHandoff_ok hfrozen).ready_iff.mpr
    ⟨hroute, hdecision⟩⟩

theorem backedUp_where_recorded :
    ∃ handoff, buildFrozenExecutionHandoff (measuredVolume []) volumeCapabilities
        (planExtend (measuredVolume []) volumeCapabilities ⟨"/data", .maxFree⟩) = .ok handoff ∧
      ∃ manifest, buildMetadataBackupManifest handoff = .ok manifest ∧
        BackedUp (measuredVolume []) "/data"
          (planExtend (measuredVolume []) volumeCapabilities ⟨"/data", .maxFree⟩).steps
            manifest := by
  obtain ⟨handoff, hfrozen, hready⟩ := measuredVolume_handoff []
    (by decide +kernel) (by decide +kernel) (by decide +kernel) (by decide +kernel)
  refine ⟨handoff, hfrozen, (buildMetadataBackupManifest_backedUp_iff hfrozen hready).mpr ?_⟩
  have hbackups : backupOperations (planExtend (measuredVolume []) volumeCapabilities
      ⟨"/data", .maxFree⟩).steps =
        [.backupLvmMetadata "vg1", .backupPartitionTableMetadata "/dev/sda" "gpt" (some "t1")] := by
    decide +kernel
  rw [hbackups, List.forall_mem_cons, List.forall_mem_singleton]
  constructor
  · exact ⟨by decide, ⟨"vg", some "vg1", 9437184, 0, 1, 1, some 1048576, some 0, some 0,
      some "wz--n-"⟩, by decide +kernel, by decide, by decide +kernel⟩
  · exact ⟨by decide, by decide, by decide, List.length_eq_one_iff.mp (by decide +kernel)⟩

/-- Where a second table lists the partition, a preview and a ready handoff are made all the
same, and no manifest can be. -/
theorem ready_without_manifest :
    (planExtend (measuredVolume [strayTable]) volumeCapabilities
        ⟨"/data", .maxFree⟩).status = .preview ∧
      ∃ handoff, buildFrozenExecutionHandoff (measuredVolume [strayTable]) volumeCapabilities
          (planExtend (measuredVolume [strayTable]) volumeCapabilities
            ⟨"/data", .maxFree⟩) = .ok handoff ∧
        handoff.status ≠ .blocked ∧
        ¬∃ manifest, buildMetadataBackupManifest handoff = .ok manifest := by
  obtain ⟨handoff, hfrozen, hready⟩ := measuredVolume_handoff [strayTable]
    (by decide +kernel) (by decide +kernel) (by decide +kernel) (by decide +kernel)
  have frozen := buildFrozenExecutionHandoff_ok hfrozen
  refine ⟨frozen.preview, handoff, hfrozen, hready, ?_⟩
  rintro ⟨manifest, hbuilt⟩
  have numbered := (built_iff_numbered frozen hready).mp ⟨manifest, hbuilt, rfl⟩
  have htable : Operation.backupPartitionTableMetadata "/dev/sda" "gpt" (some "t1") ∈
      backupOperations (planExtend (measuredVolume [strayTable]) volumeCapabilities
        ⟨"/data", .maxFree⟩).steps := by
    decide +kernel
  obtain ⟨requirement, -, ordinal, hmade⟩ := numbered.exists_of_mem htable
  obtain ⟨⟨-, -, -, hone⟩, -⟩ := (requirementForOperation_table_iff frozen.captured).mp hmade
  exact absurd (List.length_eq_one_iff.mpr hone) (by decide +kernel)

end Samples

end StorageManager.Executor.BackupManifest
