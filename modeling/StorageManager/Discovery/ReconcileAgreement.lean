import StorageManager.Discovery.Reconcile
import StorageManager.Lib.Pairing

/-!
# What a reconciled snapshot agrees on

A snapshot without an error agrees on every number that both tools report. That the records of a
table and the partitions of its disk are one to one is more, and takes more of the snapshot.
-/

namespace StorageManager.Discovery

open StorageManager.Core
open Lib.Word64 (checkedMul limit)
open Lib.Pairing

set_option autoImplicit false

section Agreement

/-- The devices of the tree, each before its children. -/
def graphNodes (s : HostSnapshot) : List BlockDevice :=
  (flatten s.storage.blockDevices).map (·.device)

/-- The device is known by this name to the search in the tree. -/
def knownAs (name : String) (d : BlockDevice) : Bool :=
  d.nodeAlias name || s!"/dev/{d.name}" == name

def NoError (ds : List StorageDiagnostic) : Prop := ∀ d ∈ ds, d.severity ≠ .error

/-- A record and a device do not contradict each other. -/
structure RecordAgrees (table : PartitionTable) (sectorSize : Nat) (r : PartitionRecord)
    (d : BlockDevice) : Prop where
  start_fits : r.startSector * sectorSize < limit
  start : ∀ start ∈ d.start512Sector, start * 512 < limit → start * 512 = r.startSector * sectorSize
  size : isDosExtendedPartition table r.partitionType = false →
    r.sizeSectors * sectorSize < limit ∧ r.sizeSectors * sectorSize = d.sizeBytes
  uuid : ∀ a ∈ d.partitionUuid, ∀ b ∈ r.uuid, eqIgnoreAsciiCase a b = true

/-- A table and the first device of its name do not contradict each other. -/
structure TableAgrees (s : HostSnapshot) (table : PartitionTable) (disk : BlockDevice)
    (sectorSize : Nat) : Prop where
  device : findGraphAlias s table.device = some disk
  sector : table.sectorSizeBytes = some sectorSize
  label : ∀ a ∈ disk.partitionTable, ∀ b ∈ table.label, eqIgnoreAsciiCase a b = true
  sectors : ∀ bytes ∈ disk.logicalSectorBytes, bytes = sectorSize
  records : ∀ r ∈ table.partitions, ∃ d, findGraphAlias s r.node = some d ∧
    RecordAgrees table sectorSize r d
  children : ∀ child ∈ disk.children, child.kind = .partition → ∀ path ∈ child.path,
    ∃ r ∈ table.partitions, r.node = path

/-- The whole law: one device for the table, and the records one to one with its partitions. -/
structure TableSound (s : HostSnapshot) (table : PartitionTable) (disk : BlockDevice)
    (sectorSize : Nat) : Prop where
  device : (graphNodes s).filter (knownAs table.device) = [disk]
  kind : disk.kind = .disk ∨ disk.kind = .loop
  records : ∀ r ∈ table.partitions, ∃ child ∈ disk.children, child.kind = .partition ∧
    (graphNodes s).filter (knownAs r.node) = [child] ∧
    child.start512Sector.map (· * 512) = some (r.startSector * sectorSize) ∧
    (isDosExtendedPartition table r.partitionType = false →
      child.sizeBytes = r.sizeSectors * sectorSize)
  apart : table.partitions.Pairwise fun r q =>
    ∀ d ∈ graphNodes s, ¬(knownAs r.node d = true ∧ knownAs q.node d = true)
  children : ∀ child ∈ disk.children, child.kind = .partition →
    table.partitions.countP (knownAs ·.node child) = 1

/-- What the reconciliation does not ask for. -/
structure TableResolved (s : HostSnapshot) (table : PartitionTable) (disk : BlockDevice) :
    Prop where
  names : ∀ name ∈ table.device :: table.partitions.map (·.node),
    (graphNodes s).countP (knownAs name) ≤ 1
  kind : disk.kind = .disk ∨ disk.kind = .loop
  starts : ∀ r ∈ table.partitions, ∀ d, findGraphAlias s r.node = some d →
    ∃ start ∈ d.start512Sector, start * 512 < limit
  pathless : ∀ child ∈ disk.children, child.kind = .partition → child.path = none →
    ∃ r ∈ table.partitions, knownAs r.node child = true
  fewer : table.partitions.length ≤ disk.children.countP (·.kind = .partition)

end Agreement

section Clean

variable {s : HostSnapshot} {table : PartitionTable} {sectorSize : Nat} {r : PartitionRecord}
  {disk d child : BlockDevice} {name : String}

@[simp] theorem noError_nil : NoError [] := nofun

@[simp] theorem noError_append {ds es : List StorageDiagnostic} :
    NoError (ds ++ es) ↔ NoError ds ∧ NoError es := List.forall_mem_append

@[simp] theorem noError_singleton {diagnostic : StorageDiagnostic} :
    NoError [diagnostic] ↔ diagnostic.severity ≠ .error := List.forall_mem_singleton

@[simp] theorem noError_flatMap {α : Type} {f : α → List StorageDiagnostic} {as : List α} :
    NoError (as.flatMap f) ↔ ∀ a ∈ as, NoError (f a) := by
  simp only [NoError, List.mem_flatMap]
  exact ⟨fun h a ha d hd => h d ⟨a, ha, hd⟩, fun h d ⟨a, ha, hd⟩ => h a ha d hd⟩

@[simp] theorem noError_report {condition : Prop} [Decidable condition] {code message : String}
    {device : Option String} :
    NoError (report condition code .error message device) ↔ ¬condition := by
  simp [NoError, mem_report]

theorem reconcileStart_noError_iff : NoError (reconcileStart sectorSize r d) ↔
    r.startSector * sectorSize < limit ∧
      ∀ start ∈ d.start512Sector, start * 512 < limit →
        start * 512 = r.startSector * sectorSize := by
  unfold reconcileStart
  split
  case h_1 lsblkStart sfdiskStart hlsblk hsfdisk =>
    obtain ⟨start, hstart, hfits, rfl⟩ := by
      simpa only [Option.bind_eq_some_iff, Lib.Word64.checkedMul_eq_some_iff] using hlsblk
    obtain ⟨hlimit, rfl⟩ := Lib.Word64.checkedMul_eq_some_iff.mp hsfdisk
    rw [noError_report, not_not, hstart]
    constructor
    · intro heq
      refine ⟨hlimit, fun other hother _ => ?_⟩
      rwa [← Option.some.inj hother]
    · intro h
      exact h.2 start rfl hfits
  case h_2 sfdiskStart hlsblk hsfdisk =>
    obtain ⟨hlimit, rfl⟩ := Lib.Word64.checkedMul_eq_some_iff.mp hsfdisk
    refine iff_of_true (by simp) ⟨hlimit, fun start hstart hfits => ?_⟩
    -- the start would have been read
    rw [Option.mem_def.mp hstart, Option.bind_some, checkedMul, if_pos hfits] at hlsblk
    cases hlsblk
  case h_3 hsfdisk =>
    refine iff_of_false (by simp) fun h => ?_
    rw [checkedMul, if_pos h.1] at hsfdisk
    cases hsfdisk

theorem reconcileSize_noError_iff : NoError (reconcileSize table sectorSize r d) ↔
    (isDosExtendedPartition table r.partitionType = false →
      r.sizeSectors * sectorSize < limit ∧ r.sizeSectors * sectorSize = d.sizeBytes) := by
  unfold reconcileSize
  split
  case isTrue h => simp [h]
  case isFalse h =>
    rw [Bool.not_eq_true] at h
    rw [forall_prop_of_true h]
    split
    case h_1 sfdiskSize hsfdisk =>
      obtain ⟨hlimit, rfl⟩ := Lib.Word64.checkedMul_eq_some_iff.mp hsfdisk
      rw [noError_report, not_not, and_iff_right hlimit]
    case h_2 hsfdisk =>
      refine iff_of_false (by simp) fun hsize => ?_
      rw [checkedMul, if_pos hsize.1] at hsfdisk
      cases hsfdisk

theorem reconcileUuid_noError_iff : NoError (reconcileUuid r d) ↔
    ∀ a ∈ d.partitionUuid, ∀ b ∈ r.uuid, eqIgnoreAsciiCase a b = true := by
  unfold reconcileUuid
  split
  case h_1 ha hb => simp [ha, hb]
  case h_2 h =>
    refine iff_of_true noError_nil fun a ha b hb => ?_
    exact (h a b ha hb).elim

theorem reconcilePartition_noError_iff : NoError (reconcilePartition s table sectorSize r) ↔
    ∃ d, findGraphAlias s r.node = some d ∧ RecordAgrees table sectorSize r d := by
  unfold reconcilePartition
  split
  case h_1 hnone => simp [hnone]
  case h_2 d hsome =>
    simp only [noError_append, reconcileStart_noError_iff, reconcileSize_noError_iff,
      reconcileUuid_noError_iff, hsome, Option.some.injEq, exists_eq_left']
    constructor
    · rintro ⟨⟨⟨hfits, hstart⟩, hsize⟩, huuid⟩
      exact ⟨hfits, hstart, hsize, huuid⟩
    · intro h
      exact ⟨⟨⟨h.start_fits, h.start⟩, h.size⟩, h.uuid⟩

theorem reconcileChild_noError_iff : NoError (reconcileChild table child) ↔
    (child.kind = .partition → ∀ path ∈ child.path, ∃ r ∈ table.partitions, r.node = path) := by
  unfold reconcileChild
  split
  case h_1 hnone => simp [hnone]
  case h_2 path hsome => simp [hsome]

theorem reconcileLabel_noError_iff : NoError (reconcileLabel disk table) ↔
    ∀ a ∈ disk.partitionTable, ∀ b ∈ table.label, eqIgnoreAsciiCase a b = true := by
  unfold reconcileLabel
  split
  case h_1 ha hb => simp [ha, hb]
  case h_2 h =>
    refine iff_of_true noError_nil fun a ha b hb => ?_
    exact (h a b ha hb).elim

theorem reconcileSector_noError_iff (h : table.sectorSizeBytes = some sectorSize) :
    NoError (reconcileSector disk table) ↔
      ∀ bytes ∈ disk.logicalSectorBytes, bytes = sectorSize := by
  unfold reconcileSector
  cases hdisk : disk.logicalSectorBytes with
  | none => simp
  | some bytes => simp [h]

theorem reconcileTable_noError_iff : NoError (reconcileTable s table) ↔
    ∃ disk sectorSize, TableAgrees s table disk sectorSize := by
  unfold reconcileTable
  split
  case h_1 hnone =>
    refine iff_of_false (by simp) ?_
    rintro ⟨disk, sectorSize, h⟩
    exact absurd (hnone.symm.trans h.device) nofun
  case h_2 disk hdisk =>
    cases hsector : table.sectorSizeBytes with
    | none =>
      refine iff_of_false (by simp) ?_
      rintro ⟨other, sectorSize, h⟩
      exact absurd (hsector.symm.trans h.sector) nofun
    | some sectorSize =>
      simp only [noError_append, reconcileLabel_noError_iff, reconcileSector_noError_iff hsector,
        reconcileSfdiskPartitions, noError_flatMap, reconcilePartition_noError_iff,
        reconcileChild_noError_iff]
      constructor
      · rintro ⟨⟨hlabel, hsectors⟩, hrecords, hchildren⟩
        exact ⟨disk, sectorSize, hdisk, hsector, hlabel, hsectors, hrecords, hchildren⟩
      · rintro ⟨other, bytes, h⟩
        cases Option.some.inj (hdisk.symm.trans h.device)
        cases Option.some.inj (hsector.symm.trans h.sector)
        exact ⟨⟨h.label, h.sectors⟩, h.records, h.children⟩

/-- A snapshot is reconciled without an error exactly when no two numbers contradict each other. -/
theorem reconcileSnapshot_noError_iff : NoError (reconcileSnapshot s) ↔
    ∀ table ∈ s.partitionTables, ∃ disk sectorSize, TableAgrees s table disk sectorSize := by
  simp only [← reconcileTable_noError_iff]
  constructor
  · intro h table htable d hd
    refine h d ?_
    simp only [reconcileSnapshot, List.mem_append]
    exact .inl (.inl (.inl (.inl (List.mem_flatMap.mpr ⟨table, htable, hd⟩))))
  · intro h d hd herror
    obtain ⟨table, htable, hmem, -⟩ := reconcileSnapshot_error hd herror
    exact h table htable d hmem herror

end Clean

section Soundness

variable {s : HostSnapshot} {table : PartitionTable} {sectorSize : Nat} {r : PartitionRecord}
  {disk d child : BlockDevice} {name : String}

theorem findGraphAlias_eq (s : HostSnapshot) (name : String) :
    findGraphAlias s name = (graphNodes s).find? (knownAs name) := rfl

/-- What the search finds is the only device of the name, when there is no second. -/
theorem filter_knownAs (h : findGraphAlias s name = some d)
    (hone : (graphNodes s).countP (knownAs name) ≤ 1) :
    (graphNodes s).filter (knownAs name) = [d] := by
  rw [findGraphAlias_eq, ← List.head?_filter] at h
  rw [List.countP_eq_length_filter] at hone
  obtain ⟨rest, hrest⟩ := List.head?_eq_some_iff.mp h
  rw [hrest, List.length_cons] at hone
  have hnil : rest = [] := List.eq_nil_of_length_eq_zero (by omega)
  rw [hrest, hnil]

theorem findGraphAlias_of_filter (h : (graphNodes s).filter (knownAs name) = [d]) :
    findGraphAlias s name = some d := by
  rw [findGraphAlias_eq, ← List.head?_filter, h, List.head?_cons]

theorem countP_knownAs (h : (graphNodes s).filter (knownAs name) = [d]) :
    (graphNodes s).countP (knownAs name) = 1 := by
  rw [List.countP_eq_length_filter, h, List.length_singleton]

theorem children_graphNodes (h : disk ∈ graphNodes s) : disk.children.Sublist (graphNodes s) := by
  obtain ⟨node, hnode, rfl⟩ := List.mem_map.mp h
  exact children_sublist hnode

theorem mem_graphNodes (h : findGraphAlias s name = some d) : d ∈ graphNodes s := by
  rw [findGraphAlias_eq] at h
  exact List.mem_of_find?_eq_some h

/-- The partitions that stand directly below the disk. -/
def directPartitions (disk : BlockDevice) : List BlockDevice :=
  disk.children.filter (·.kind = .partition)

theorem mem_directPartitions :
    child ∈ directPartitions disk ↔ child ∈ disk.children ∧ child.kind = .partition := by
  simp [directPartitions]

theorem directPartitions_graphNodes (h : findGraphAlias s table.device = some disk) :
    (directPartitions disk).Sublist (graphNodes s) :=
  List.filter_sublist.trans (children_graphNodes (mem_graphNodes h))

/-- The names are as the law asks, and nothing is left out: then the pairing is one to one. -/
theorem TableAgrees.one_to_one (h : TableAgrees s table disk sectorSize)
    (hresolved : TableResolved s table disk) :
    (∀ r ∈ table.partitions, (directPartitions disk).countP (knownAs r.node) = 1) ∧
      ∀ child ∈ directPartitions disk, table.partitions.countP (knownAs ·.node child) = 1 := by
  apply Lib.Pairing.one_to_one (R := fun (r : PartitionRecord) child => knownAs r.node child)
  · intro child hchild
    obtain ⟨hmem, hkind⟩ := mem_directPartitions.mp hchild
    cases hpath : child.path with
    | none => exact hresolved.pathless child hmem hkind hpath
    | some path =>
      obtain ⟨r, hr, rfl⟩ := h.children child hmem hkind path hpath
      refine ⟨r, hr, ?_⟩
      simp [knownAs, BlockDevice.nodeAlias, hpath]
  · intro r hr
    have hone := hresolved.names r.node (.tail _ (List.mem_map_of_mem hr))
    exact Nat.le_trans (directPartitions_graphNodes h.device).countP_le hone
  · have hlength : (directPartitions disk).length = disk.children.countP (·.kind = .partition) :=
      List.countP_eq_length_filter.symm
    rw [hlength]
    exact hresolved.fewer

theorem TableAgrees.sound (h : TableAgrees s table disk sectorSize)
    (hresolved : TableResolved s table disk) : TableSound s table disk sectorSize := by
  obtain ⟨hrecords, hchildren⟩ := h.one_to_one hresolved
  have honly : ∀ r ∈ table.partitions, ∀ d, findGraphAlias s r.node = some d →
      (graphNodes s).filter (knownAs r.node) = [d] := by
    intro r hr d hd
    exact filter_knownAs hd (hresolved.names r.node (.tail _ (List.mem_map_of_mem hr)))
  have hdenoted : ∀ r ∈ table.partitions, ∀ d, findGraphAlias s r.node = some d →
      d ∈ directPartitions disk := by
    intro r hr d hd
    have hpos : 0 < (directPartitions disk).countP (knownAs r.node) := by
      rw [hrecords r hr]
      exact Nat.one_pos
    obtain ⟨child, hchild, hknown⟩ := List.countP_pos_iff.mp hpos
    have hmem : child ∈ (graphNodes s).filter (knownAs r.node) :=
      List.mem_filter.mpr ⟨(directPartitions_graphNodes h.device).subset hchild, hknown⟩
    rw [honly r hr d hd, List.mem_singleton] at hmem
    rwa [← hmem]
  refine ⟨?_, hresolved.kind, ?_, ?_, ?_⟩
  · exact filter_knownAs h.device (hresolved.names table.device List.mem_cons_self)
  · intro r hr
    obtain ⟨d, hd, hagrees⟩ := h.records r hr
    obtain ⟨hchild, hkind⟩ := mem_directPartitions.mp (hdenoted r hr d hd)
    obtain ⟨start, hstart, hfits⟩ := hresolved.starts r hr d hd
    refine ⟨d, hchild, hkind, honly r hr d hd, ?_, fun hplain => (hagrees.size hplain).2.symm⟩
    rw [Option.mem_def.mp hstart, Option.map_some, hagrees.start start hstart hfits]
  · rw [List.pairwise_iff_getElem]
    intro i j hi hj hij d hd hknown
    have hr : table.partitions[i] ∈ table.partitions := List.getElem_mem hi
    obtain ⟨child, hchild, -⟩ := h.records _ hr
    have hsame : d ∈ (graphNodes s).filter (knownAs table.partitions[i].node) :=
      List.mem_filter.mpr ⟨hd, hknown.1⟩
    rw [honly _ hr child hchild, List.mem_singleton] at hsame
    have hone := hchildren d (hsame ▸ hdenoted _ hr child hchild)
    exact List.pairwise_iff_getElem.mp (pairwise_of_countP_le_one (Nat.le_of_eq hone)) i j hi hj hij hknown
  · intro child hchild hkind
    exact hchildren child (mem_directPartitions.mpr ⟨hchild, hkind⟩)

theorem TableAgrees.resolved (h : TableAgrees s table disk sectorSize)
    (hsound : TableSound s table disk sectorSize) : TableResolved s table disk := by
  refine ⟨?_, hsound.kind, ?_, ?_, ?_⟩
  · intro name hname
    rcases List.mem_cons.mp hname with rfl | hname
    · exact Nat.le_of_eq (countP_knownAs hsound.device)
    · obtain ⟨r, hr, rfl⟩ := List.mem_map.mp hname
      obtain ⟨child, -, -, hfilter, -⟩ := hsound.records r hr
      exact Nat.le_of_eq (countP_knownAs hfilter)
  · intro r hr d hd
    obtain ⟨child, -, -, hfilter, hstart, -⟩ := hsound.records r hr
    obtain ⟨found, hfound, hagrees⟩ := h.records r hr
    cases Option.some.inj (hd.symm.trans (findGraphAlias_of_filter hfilter))
    obtain ⟨start, hmem, heq⟩ := Option.map_eq_some_iff.mp hstart
    refine ⟨start, hmem, ?_⟩
    rw [heq]
    exact hagrees.start_fits
  · intro child hchild hkind _
    have hpos : 0 < table.partitions.countP (knownAs ·.node child) := by
      rw [hsound.children child hchild hkind]
      exact Nat.one_pos
    exact List.countP_pos_iff.mp hpos
  · have hrecords : ∀ r ∈ table.partitions,
        (directPartitions disk).countP (knownAs r.node) = 1 := by
      intro r hr
      obtain ⟨child, hchild, hkind, hfilter, -⟩ := hsound.records r hr
      have hknown : knownAs r.node child = true := by
        have hmem : child ∈ (graphNodes s).filter (knownAs r.node) := by
          rw [hfilter]
          exact List.mem_cons_self
        exact (List.mem_filter.mp hmem).2
      have hle : (directPartitions disk).countP (knownAs r.node) ≤ 1 := by
        rw [← countP_knownAs hfilter]
        exact (directPartitions_graphNodes h.device).countP_le
      have hpos : 0 < (directPartitions disk).countP (knownAs r.node) :=
        List.countP_pos_iff.mpr ⟨child, mem_directPartitions.mpr ⟨hchild, hkind⟩, hknown⟩
      omega
    have hchildren : ∀ child ∈ directPartitions disk,
        table.partitions.countP (knownAs ·.node child) = 1 := by
      intro child hchild
      obtain ⟨hmem, hkind⟩ := mem_directPartitions.mp hchild
      exact hsound.children child hmem hkind
    have hlength := length_eq (R := fun (r : PartitionRecord) child => knownAs r.node child)
      hrecords hchildren
    rw [List.countP_eq_length_filter]
    exact Nat.le_of_eq hlength

/-- Without an error the numbers of both tools agree; that the records and the partitions are one
to one takes, and takes only, what the reconciliation does not ask for. -/
theorem reconciled_sound_iff (hclean : NoError (reconcileSnapshot s))
    (htable : table ∈ s.partitionTables) :
    ∃ disk sectorSize, TableAgrees s table disk sectorSize ∧
      (TableSound s table disk sectorSize ↔ TableResolved s table disk) := by
  obtain ⟨disk, sectorSize, h⟩ := reconcileSnapshot_noError_iff.mp hclean table htable
  exact ⟨disk, sectorSize, h, h.resolved, h.sound⟩

end Soundness

section Samples

def samplePartition (name : String) (start : Option Nat) : BlockDevice where
  name := name
  kernelName := some name
  path := some s!"/dev/{name}"
  kind := .partition
  sizeBytes := 2097152
  start512Sector := start
  logicalSectorBytes := some 512
  filesystem := none
  mountpoints := []
  parentKernelName := none
  model := none
  serial := none
  uuid := none
  partitionUuid := none
  partitionTable := none
  children := []

def sampleDisk (name : String) (partitions : List BlockDevice) : BlockDevice :=
  { samplePartition name none with
    kind := .disk
    sizeBytes := 16777216
    partitionTable := some "gpt"
    children := partitions }

def sampleTable (nodes : List String) : PartitionTable where
  device := "/dev/sda"
  label := some "gpt"
  id := none
  unit := none
  firstLba := some 34
  lastLba := some 32734
  sectorSizeBytes := some 512
  partitions := nodes.map fun node => ⟨node, 2048, 4096, none, none, none, none, none⟩

/-- Two disks with one partition each, and the table of the first. -/
def sampleSnapshot (start : Option Nat) (nodes : List String) : HostSnapshot where
  storage := ⟨[sampleDisk "sda" [samplePartition "sda1" start],
    sampleDisk "sdb" [samplePartition "sdb1" (some 2048)]]⟩
  partitionTables := [sampleTable nodes]
  mounts := []
  fstab := []
  swaps := []
  collectors := []

theorem sampleSnapshot_disk (start : Option Nat) (nodes : List String) :
    (graphNodes (sampleSnapshot start nodes)).filter (knownAs (sampleTable nodes).device) =
      [sampleDisk "sda" [samplePartition "sda1" start]] := rfl

theorem sample_clean : NoError (reconcileSnapshot (sampleSnapshot (some 2048) ["/dev/sda1"])) := by
  unfold NoError
  decide

theorem reconciled_sound_sample :
    ∃ disk sectorSize,
      TableAgrees (sampleSnapshot (some 2048) ["/dev/sda1"]) (sampleTable ["/dev/sda1"]) disk
        sectorSize ∧
      (TableSound (sampleSnapshot (some 2048) ["/dev/sda1"]) (sampleTable ["/dev/sda1"]) disk
        sectorSize ↔
        TableResolved (sampleSnapshot (some 2048) ["/dev/sda1"]) (sampleTable ["/dev/sda1"])
          disk) :=
  reconciled_sound_iff sample_clean List.mem_cons_self

/-- A start that only one tool reports, two records of one partition, a record of another disk's
partition: none of them is an error. -/
theorem accepted_unsound_sample :
    (NoError (reconcileSnapshot (sampleSnapshot none ["/dev/sda1"])) ∧
      ∀ disk sectorSize, ¬TableSound (sampleSnapshot none ["/dev/sda1"])
        (sampleTable ["/dev/sda1"]) disk sectorSize) ∧
    (NoError (reconcileSnapshot (sampleSnapshot (some 2048) ["/dev/sda1", "/dev/sda1"])) ∧
      ∀ disk sectorSize, ¬TableSound (sampleSnapshot (some 2048) ["/dev/sda1", "/dev/sda1"])
        (sampleTable ["/dev/sda1", "/dev/sda1"]) disk sectorSize) ∧
    (NoError (reconcileSnapshot (sampleSnapshot (some 2048) ["/dev/sda1", "/dev/sdb1"])) ∧
      ∀ disk sectorSize, ¬TableSound (sampleSnapshot (some 2048) ["/dev/sda1", "/dev/sdb1"])
        (sampleTable ["/dev/sda1", "/dev/sdb1"]) disk sectorSize) := by
  refine ⟨⟨?_, fun disk sectorSize h => ?_⟩, ⟨?_, fun disk sectorSize h => ?_⟩,
    ⟨?_, fun disk sectorSize h => ?_⟩⟩
  · unfold NoError
    decide
  · cases (sampleSnapshot_disk none _).symm.trans h.device
    obtain ⟨child, hchild, -, -, hstart, -⟩ := h.records _ List.mem_cons_self
    rw [List.mem_singleton.mp hchild] at hstart
    cases hstart
  · unfold NoError
    decide
  · cases (sampleSnapshot_disk _ _).symm.trans h.device
    have hone := h.children _ List.mem_cons_self rfl
    exact absurd hone (by decide)
  · unfold NoError
    decide
  · cases (sampleSnapshot_disk _ _).symm.trans h.device
    obtain ⟨child, hchild, -, hfilter, -⟩ := h.records _ (.tail _ List.mem_cons_self)
    rw [List.mem_singleton.mp hchild] at hfilter
    have hname := congrArg (List.map (·.name)) hfilter
    exact absurd hname (by decide)

end Samples

end StorageManager.Discovery
