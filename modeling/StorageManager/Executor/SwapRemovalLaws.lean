import Mathlib.Data.List.Nodup
import Mathlib.Data.List.Perm.Basic
import StorageManager.Executor.SwapRemoval

/-!
# What a removal frees, and what its verification remembers

The records of the table are ranges of sectors that anyone may have written. The
geometry check compares names and containment, and the post-state check compares names
only. Both are measured here against the whole table.
-/

namespace StorageManager.Executor.Swap

open StorageManager.Core (BlockDevice HostSnapshot PartitionRecord PartitionTable)
open Lib.Checks
open Lib.Word64 (checkedAdd checkedAdd_eq_some_iff checkedAdd_eq_none_iff limit)

set_option autoImplicit false

section Sectors

/-- The sectors of a record, its end computed without wrap-around. -/
def Holds (record : PartitionRecord) (p : Nat) : Prop :=
  record.startSector ≤ p ∧ p < record.startSector + record.sizeSectors

instance (record : PartitionRecord) (p : Nat) : Decidable (Holds record p) :=
  inferInstanceAs (Decidable (_ ∧ _))

/-- The record has sectors inside the container and sectors outside of it. -/
def Straddles (record container : PartitionRecord) : Prop :=
  (∃ p, Holds record p ∧ Holds container p) ∧ ∃ p, Holds record p ∧ ¬Holds container p

variable {container record : PartitionRecord}

theorem contains_iff : contains container record = true ↔
    container.startSector + container.sizeSectors < limit ∧
      container.startSector ≤ record.startSector ∧
      record.startSector + record.sizeSectors ≤ container.startSector + container.sizeSectors := by
  unfold contains
  cases hcontainer : checkedAdd container.startSector container.sizeSectors with
  | none =>
    refine iff_of_false nofun ?_
    rintro ⟨hword, -⟩
    exact checkedAdd_eq_none_iff.mp hcontainer hword
  | some stop =>
    obtain ⟨hword, rfl⟩ := checkedAdd_eq_some_iff.mp hcontainer
    cases hrecord : checkedAdd record.startSector record.sizeSectors with
    | none =>
      refine iff_of_false nofun ?_
      rintro ⟨-, -, hle⟩
      exact checkedAdd_eq_none_iff.mp hrecord (lt_of_le_of_lt hle hword)
    | some stop' =>
      obtain ⟨-, rfl⟩ := checkedAdd_eq_some_iff.mp hrecord
      simp only [Bool.and_eq_true, decide_eq_true_eq]
      exact ⟨fun h => ⟨hword, h⟩, fun h => h.2⟩

theorem Holds.of_contains (h : contains container record = true) {p : Nat} (hp : Holds record p) :
    Holds container p := by
  obtain ⟨-, hstart, hstop⟩ := contains_iff.mp h
  obtain ⟨hlow, hhigh⟩ := hp
  constructor <;> omega

/-- A record that is not contained shares no sector with the container, or straddles it. -/
theorem disjoint_of_not_contains (hword : container.startSector + container.sizeSectors < limit)
    (hcontains : contains container record = false) (hstraddles : ¬Straddles record container)
    (p : Nat) : ¬(Holds record p ∧ Holds container p) := by
  rintro ⟨hrecord, hcontainer⟩
  -- with one sector inside, every sector of the record is inside
  have hinside : ∀ q, Holds record q → Holds container q := by
    intro q hq
    by_contra hnot
    exact hstraddles ⟨⟨p, hrecord, hcontainer⟩, q, hq, hnot⟩
  have hfirst := hinside record.startSector ⟨le_rfl, by unfold Holds at hrecord; omega⟩
  have hlast := hinside (record.startSector + record.sizeSectors - 1)
    (by unfold Holds at hrecord ⊢; omega)
  have htrue : contains container record = true := by
    refine contains_iff.mpr ⟨hword, hfirst.1, ?_⟩
    have hlt := hlast.2
    omega
  rw [htrue] at hcontains
  cases hcontains

end Sectors

section Geometry

variable {snapshot : HostSnapshot} {activation : ProductionSwapReplacementActivationIntent}
  {geometry : ExactRemovalGeometry}

/-- What an accepted geometry says of the table it was found in. -/
structure Located (activation : ProductionSwapReplacementActivationIntent)
    (snapshot : HostSnapshot) (table : PartitionTable) (geometry : ExactRemovalGeometry) :
    Prop where
  found : snapshot.partitionTables.filter (·.device = activation.disk) = [table]
  dos : table.label = some "dos"
  sector : table.sectorSizeBytes = some geometry.sectorSizeBytes
  swap : table.partitions.filter (·.node = activation.retiringSwapDevice) = [geometry.swap]
  swapNumber : partitionNumber geometry.swap.node activation.disk = some geometry.swapNumber
  extended : table.partitions.filter (fun record => isExtended record &&
    contains record geometry.swap) = [geometry.extended]
  extendedNumber : partitionNumber geometry.extended.node activation.disk =
    some geometry.extendedNumber
  numbers : geometry.extendedNumber ≠ geometry.swapNumber
  alone : ∀ record ∈ table.partitions, record.node ≠ geometry.extended.node →
    record.node ≠ geometry.swap.node → contains geometry.extended record = false
  label : geometry.tableLabel = "dos"
  id : geometry.tableId = table.id

theorem exactRemovalGeometry_ok (h : exactRemovalGeometry snapshot activation = .ok geometry) :
    ∃ table, Located activation snapshot table geometry := by
  simp only [exactRemovalGeometry, bind_eq_ok_iff, exists_check_iff, unique_eq_ok_iff,
    refuse_eq_ok_iff, okOr_eq_ok_iff, not_or, not_not, not_exists, not_and, ne_eq,
    Bool.not_eq_true, Option.filter_eq_some_iff] at h
  obtain ⟨table, htable, hlabel, sector, ⟨hsector, -⟩, swap, hswap, -, swapNumber, hswapNumber, -,
    extended, hextended, extendedNumber, hextendedNumber, ⟨-, hnumbers⟩, halone, h⟩ := h
  cases h
  exact ⟨table, htable, hlabel, hsector, hswap, hswapNumber, hextended, hextendedNumber, hnumbers,
    halone, rfl, rfl⟩

theorem Located.swap_mem {table : PartitionTable} (l : Located activation snapshot table geometry) :
    geometry.swap ∈ table.partitions ∧ geometry.swap.node = activation.retiringSwapDevice := by
  obtain ⟨hmem, hnode⟩ := mem_of_filter_eq_singleton l.swap
  exact ⟨hmem, of_decide_eq_true hnode⟩

theorem Located.extended_mem {table : PartitionTable}
    (l : Located activation snapshot table geometry) :
    geometry.extended ∈ table.partitions ∧ isExtended geometry.extended = true ∧
      contains geometry.extended geometry.swap = true := by
  obtain ⟨hmem, hfits⟩ := mem_of_filter_eq_singleton l.extended
  exact ⟨hmem, Bool.and_eq_true_iff.mp hfits⟩

/-- Deleting the two records frees the sectors of the container and none that another
record of the table uses. -/
structure FreesContainer (activation : ProductionSwapReplacementActivationIntent)
    (snapshot : HostSnapshot) (geometry : ExactRemovalGeometry) : Prop where
  names : ∀ table ∈ snapshot.partitionTables, table.device = activation.disk →
    (table.partitions.map (·.node)).Nodup
  recorded : ∀ table ∈ snapshot.partitionTables, table.device = activation.disk →
    geometry.swap ∈ table.partitions ∧ geometry.extended ∈ table.partitions
  inside : ∀ p, Holds geometry.swap p → Holds geometry.extended p
  reclaimed : ∀ p, Holds geometry.swap p ∨ Holds geometry.extended p ↔
    geometry.extended.startSector ≤ p ∧
      p < geometry.extended.startSector + geometry.extended.sizeSectors
  apart : ∀ table ∈ snapshot.partitionTables, table.device = activation.disk →
    ∀ record ∈ table.partitions, record ≠ geometry.extended → record ≠ geometry.swap →
      ∀ p, ¬(Holds record p ∧ Holds geometry.extended p)

/-- An extended container of the table around the retiring swap. -/
def IsContainer (activation : ProductionSwapReplacementActivationIntent) (table : PartitionTable)
    (container : PartitionRecord) : Prop :=
  container ∈ table.partitions ∧ isExtended container = true ∧
    ∃ swap ∈ table.partitions, swap.node = activation.retiringSwapDevice ∧
      contains container swap = true

/-- No two records of the disk share a name, and none of them stands across an end of a
container around the retiring swap. -/
structure Uncrossed (activation : ProductionSwapReplacementActivationIntent)
    (snapshot : HostSnapshot) : Prop where
  names : ∀ table ∈ snapshot.partitionTables, table.device = activation.disk →
    (table.partitions.map (·.node)).Nodup
  ends : ∀ table ∈ snapshot.partitionTables, table.device = activation.disk →
    ∀ container, IsContainer activation table container →
      ∀ record ∈ table.partitions, ¬Straddles record container

theorem Located.container {table : PartitionTable} (l : Located activation snapshot table geometry)
    {container : PartitionRecord} (h : IsContainer activation table container) :
    container = geometry.extended := by
  obtain ⟨hmem, htype, swap, hswap, hnode, hcontains⟩ := h
  obtain rfl : swap = geometry.swap :=
    eq_of_filter_eq_singleton l.swap hswap (decide_eq_true hnode)
  exact eq_of_filter_eq_singleton l.extended hmem (Bool.and_eq_true_iff.mpr ⟨htype, hcontains⟩)

/-- The check of names and containment frees the container alone exactly when names are
distinct and no record stands across its ends. -/
theorem exactRemovalGeometry_frees_iff
    (h : exactRemovalGeometry snapshot activation = .ok geometry) :
    FreesContainer activation snapshot geometry ↔ Uncrossed activation snapshot := by
  obtain ⟨table, l⟩ := exactRemovalGeometry_ok h
  obtain ⟨hswap, hswapNode⟩ := l.swap_mem
  obtain ⟨hextended, htype, hcontains⟩ := l.extended_mem
  have hsame : ∀ t ∈ snapshot.partitionTables, t.device = activation.disk → t = table :=
    fun t ht hdevice => eq_of_filter_eq_singleton l.found ht (decide_eq_true hdevice)
  constructor
  · intro frees
    refine ⟨frees.names, fun t ht hdevice container hcontainer record hrecord => ?_⟩
    obtain rfl := hsame t ht hdevice
    obtain rfl := l.container hcontainer
    rintro ⟨⟨p, hp⟩, q, hq, houtside⟩
    by_cases hext : record = geometry.extended
    · exact houtside (hext ▸ hq)
    by_cases hsw : record = geometry.swap
    · exact houtside (frees.inside q (hsw ▸ hq))
    · exact frees.apart t ht hdevice record hrecord hext hsw p hp
  · intro uncrossed
    refine ⟨uncrossed.names, ?_, fun p hp => hp.of_contains hcontains, ?_, ?_⟩
    · intro t ht hdevice
      obtain rfl := hsame t ht hdevice
      exact ⟨hswap, hextended⟩
    · exact fun p => ⟨fun hp => hp.elim (Holds.of_contains hcontains) id, .inr⟩
    · intro t ht hdevice record hrecord hext hsw
      obtain rfl := hsame t ht hdevice
      have hnames := List.inj_on_of_nodup_map (uncrossed.names t ht hdevice)
      have houtside := l.alone record hrecord (fun hnode => hext (hnames hrecord hextended hnode))
        fun hnode => hsw (hnames hrecord hswap hnode)
      have hends := uncrossed.ends t ht hdevice geometry.extended
        ⟨hextended, htype, geometry.swap, hswap, hswapNode, hcontains⟩ record hrecord
      exact disjoint_of_not_contains (contains_iff.mp hcontains).1 houtside hends

end Geometry

section Records

/-- Two elements that are each picked out by a test, and the rest of the list. -/
theorem perm_of_filters {α : Type} {p q : α → Bool} {as : List α} {a b : α}
    (ha : as.filter p = [a]) (hb : as.filter q = [b]) (hapart : ∀ x, q x = true → p x = false) :
    as.Perm (a :: b :: as.filter fun x => !p x && !q x) := by
  have hp := List.filter_append_perm p as
  have hq := List.filter_append_perm q (as.filter fun x => !p x)
  rw [ha, List.singleton_append] at hp
  have hboth : (as.filter fun x => !p x).filter q = [b] := by
    rw [List.filter_filter, ← hb]
    refine List.filter_congr fun x _ => ?_
    by_cases hx : q x = true
    · simp [hx, hapart x hx]
    · simp [hx]
  have hrest : (as.filter fun x => !p x).filter (fun x => !q x) =
      as.filter fun x => !p x && !q x := by
    rw [List.filter_filter]
    exact List.filter_congr fun x _ => Bool.and_comm _ _
  rw [hboth, List.singleton_append, hrest] at hq
  exact hp.symm.trans (hq.symm.cons a)

/-- What a record is compared in. -/
def compared (record : PartitionRecord) : String × Nat × Nat × Option String × Option Bool :=
  (record.node, record.startSector, record.sizeSectors, record.partitionType, record.bootable)

/-- The table after the removal is the table before it without the two frozen records. -/
structure RemovedExactly (preflight : ProductionSwapPartitionRemovalPreflight)
    (before after : PartitionTable) : Prop where
  label : after.label = before.label
  id : after.id = before.id
  records : ∃ swap extended rest, before.partitions.Perm (swap :: extended :: rest) ∧
    (swap.node = preflight.retiringSwapDevice ∧
      swap.startSector = preflight.retiringSwapStartSector ∧
      swap.sizeSectors = preflight.retiringSwapSizeSectors) ∧
    (extended.node = preflight.extendedPartitionDevice ∧
      extended.startSector = preflight.extendedStartSector ∧
      extended.sizeSectors = preflight.extendedSizeSectors) ∧
    (after.partitions.map compared).Perm (rest.map compared)

/-- The record bears neither of the two removed names. -/
def isOther (preflight : ProductionSwapPartitionRemovalPreflight) (record : PartitionRecord) :
    Bool :=
  !decide (record.node = preflight.retiringSwapDevice) &&
    !decide (record.node = preflight.extendedPartitionDevice)

/-- Only the removed container bore its name, and under all other names the two tables
list the same records. -/
structure OthersUntouched (preflight : ProductionSwapPartitionRemovalPreflight)
    (before after : PartitionTable) : Prop where
  named : (before.partitions.filter (·.node = preflight.extendedPartitionDevice)).length = 1
  same : ((after.partitions.filter (isOther preflight)).map compared).Perm
    ((before.partitions.filter (isOther preflight)).map compared)

end Records

section Frame

variable {preflight : ProductionSwapPartitionRemovalPreflight}
  {geometry : ExactRemovalGeometry} {before after : PartitionTable}

/-- The preflight remembers both records of the geometry. -/
structure Remembers (preflight : ProductionSwapPartitionRemovalPreflight)
    (geometry : ExactRemovalGeometry) : Prop where
  swap : preflight.retiringSwapDevice = geometry.swap.node ∧
    preflight.retiringSwapStartSector = geometry.swap.startSector ∧
    preflight.retiringSwapSizeSectors = geometry.swap.sizeSectors
  extended : preflight.extendedPartitionDevice = geometry.extended.node ∧
    preflight.extendedStartSector = geometry.extended.startSector ∧
    preflight.extendedSizeSectors = geometry.extended.sizeSectors
  names : geometry.extended.node ≠ geometry.swap.node

/-- The rest of a removal bears none of the removed names, as nothing afterwards does. -/
theorem RemovedExactly.othersUntouched (m : Remembers preflight geometry)
    (hothers : ∀ record ∈ after.partitions, isOther preflight record = true)
    (h : RemovedExactly preflight before after) : OthersUntouched preflight before after := by
  obtain ⟨-, -, swap, extended, rest, hperm, ⟨hswap, -⟩, ⟨hextended, -⟩, hsame⟩ := h
  have hrest : ∀ record ∈ rest, isOther preflight record = true := by
    intro record hrecord
    obtain ⟨kept, hkept, heq⟩ := List.mem_map.mp
      (hsame.mem_iff.mpr (List.mem_map_of_mem hrecord))
    have hnode : kept.node = record.node := congrArg Prod.fst heq
    have hkeptOther := hothers kept hkept
    rw [isOther, hnode] at hkeptOther
    exact hkeptOther
  have hne : preflight.retiringSwapDevice ≠ preflight.extendedPartitionDevice := by
    rw [m.swap.1, m.extended.1]
    exact m.names.symm
  constructor
  · have hnone : rest.filter (·.node = preflight.extendedPartitionDevice) = [] := by
      refine List.filter_eq_nil_iff.mpr fun record hrecord => ?_
      have hother := hrest record hrecord
      simp only [isOther, Bool.and_eq_true, Bool.not_eq_true', decide_eq_false_iff_not] at hother
      simpa using hother.2
    have hcount := (hperm.filter (·.node = preflight.extendedPartitionDevice)).length_eq
    rw [List.filter_cons_of_neg (by simp [hswap, hne]),
      List.filter_cons_of_pos (by simp [hextended]), hnone] at hcount
    exact hcount
  · have hfilter := hperm.filter (isOther preflight)
    rw [List.filter_cons_of_neg (by simp [isOther, hswap]),
      List.filter_cons_of_neg (by simp [isOther, hextended]),
      List.filter_eq_self.mpr hrest] at hfilter
    rw [List.filter_eq_self.mpr hothers]
    exact hsame.trans (hfilter.symm.map compared)

/-- Where only the others are left untouched, the two remembered records are what is gone. -/
theorem OthersUntouched.removedExactly (m : Remembers preflight geometry)
    (hswap : before.partitions.filter (·.node = preflight.retiringSwapDevice) = [geometry.swap])
    (hextended : geometry.extended ∈ before.partitions)
    (hothers : ∀ record ∈ after.partitions, isOther preflight record = true)
    (hlabel : after.label = before.label) (hid : after.id = before.id)
    (h : OthersUntouched preflight before after) : RemovedExactly preflight before after := by
  obtain ⟨extended, hone⟩ := List.length_eq_one_iff.mp h.named
  obtain rfl : geometry.extended = extended :=
    eq_of_filter_eq_singleton hone hextended (decide_eq_true m.extended.1.symm)
  have hapart : ∀ record : PartitionRecord,
      decide (record.node = preflight.extendedPartitionDevice) = true →
      decide (record.node = preflight.retiringSwapDevice) = false := by
    intro record hnode
    rw [decide_eq_true_eq, m.extended.1] at hnode
    rw [decide_eq_false_iff_not, m.swap.1, hnode]
    exact m.names
  have hperm := perm_of_filters hswap hone hapart
  have hsame := h.same
  rw [List.filter_eq_self.mpr hothers] at hsame
  exact ⟨hlabel, hid, geometry.swap, geometry.extended, _, hperm,
    ⟨m.swap.1.symm, m.swap.2.1.symm, m.swap.2.2.symm⟩,
    ⟨m.extended.1.symm, m.extended.2.1.symm, m.extended.2.2.symm⟩, hsame⟩

end Frame

section PostState

variable {activation : ProductionSwapReplacementActivationIntent}
  {runtime : ProductionSwapRuntimeExecutionReceipt} {journalId persistentReceiptId : String}
  {backup : Except ProductionSwapPartitionRemovalPreflightError (String × String)}
  {pre fresh : HostSnapshot} {preflight : ProductionSwapPartitionRemovalPreflight}
  {persistentConfig : Except String Unit}

/-- What an accepted snapshot shows of the table. -/
theorem verifyPostState_ok
    (h : verifyPostState activation runtime preflight (.ok fresh) persistentConfig = .ok ()) :
    ∃ after, fresh.partitionTables.filter (·.device = preflight.disk) = [after] ∧
      after.label = some "dos" ∧ after.id = preflight.tableId ∧
      ∀ record ∈ after.partitions, isOther preflight record = true := by
  simp only [verifyPostState, bind_eq_ok_iff, exists_check_iff, mapError_eq_ok_iff,
    unique_eq_ok_iff, refuse_eq_ok_iff, not_or, not_not, ne_eq, not_exists, not_and] at h
  obtain ⟨_, hsnapshot, after, hafter, ⟨hlabel, hid, -, hnames⟩, -⟩ := h
  cases hsnapshot
  refine ⟨after, hafter, hlabel, hid, fun record hrecord => ?_⟩
  simpa [isOther] using hnames record hrecord

variable [Fingerprint]

/-- What the preflight remembers of the table before the removal. -/
theorem prepareFromSnapshot_ok (h : prepareFromSnapshot activation runtime journalId
    persistentReceiptId backup pre = .ok preflight) :
    ∃ geometry table, Located activation pre table geometry ∧ Remembers preflight geometry ∧
      preflight.disk = activation.disk ∧ preflight.tableId = table.id := by
  simp only [prepareFromSnapshot, bind_eq_ok_iff, exists_check_iff] at h
  obtain ⟨-, _, -, -, geometry, hgeometry, backup', -, h⟩ := h
  obtain ⟨table, l⟩ := exactRemovalGeometry_ok hgeometry
  cases h
  refine ⟨geometry, table, l, ⟨⟨rfl, rfl, rfl⟩, ⟨rfl, rfl, rfl⟩, fun hnode => ?_⟩, rfl, l.id⟩
  -- one name has one number
  have hnumber := l.extendedNumber
  rw [hnode, l.swapNumber] at hnumber
  exact l.numbers (Option.some.inj hnumber).symm

/-- The verification of the table remembers names only: every other record must be found
untouched for the two tables to differ by the removal alone. -/
theorem verifyPostState_removed_iff
    (hpre : prepareFromSnapshot activation runtime journalId persistentReceiptId backup pre =
      .ok preflight)
    (hpost : verifyPostState activation runtime preflight (.ok fresh) persistentConfig = .ok ()) :
    ∃ before after, pre.partitionTables.filter (·.device = preflight.disk) = [before] ∧
      fresh.partitionTables.filter (·.device = preflight.disk) = [after] ∧
      (RemovedExactly preflight before after ↔ OthersUntouched preflight before after) := by
  obtain ⟨geometry, before, l, m, hdisk, hid⟩ := prepareFromSnapshot_ok hpre
  obtain ⟨after, hafter, hlabel, hid', hothers⟩ := verifyPostState_ok hpost
  have hswap := l.swap
  rw [← l.swap_mem.2, ← m.swap.1] at hswap
  refine ⟨before, after, hdisk ▸ l.found, hafter, ?_⟩
  constructor
  · exact RemovedExactly.othersUntouched m hothers
  · exact OthersUntouched.removedExactly m hswap l.extended_mem.1 hothers
      (hlabel.trans l.dos.symm) (hid'.trans hid)

end PostState

section Sample

/-- An activation that retires the logical swap `/dev/sda5`. -/
def removalActivation : ProductionSwapReplacementActivationIntent :=
  let a : ProductionSwapReplacementActivationIntent :=
    { schemaVersion := 1, activationId := "", profile := .tailSwapPartitionToExt4Swapfile
      swapReplacementIntentId := "intent", target := "/data", disk := "/dev/sda"
      retiringSwapDevice := "/dev/sda5", retiringSwapBytes := 67108864
      retiringSwapPriority := 7, persistentSwapSource := "UUID=old-swap"
      persistentSwapTarget := "none", persistentSwapOptions := ["sw", "pri=7"]
      persistentSwapDump := 0, persistentSwapPass := 0, destinationMount := "/data"
      swapfilePath := "/data/.linux-storage-manager.swap", destinationFilesystem := "ext4"
      destinationAvailableBytes := 268435456, swapfileMode := 0o600
      compileFeatureEnabled := true, executionEnabled := false }
  { a with activationId := a.expectedActivationId }

def dosRecord (node : String) (startSector sizeSectors : Nat) (type : String) : PartitionRecord :=
  ⟨node, startSector, sizeSectors, some type, none, none, none, some false⟩

/-- The disk with these records in its table, and with the replacement swap active. -/
def dosSnapshot (records : List PartitionRecord) : HostSnapshot where
  storage := ⟨[]⟩
  partitionTables := [⟨"/dev/sda", some "dos", some "0x12345678", some "sectors", none, none,
    some 512, records⟩]
  mounts := []
  fstab := []
  swaps := [⟨"/data/.linux-storage-manager.swap", "file", 67104768, 0, 7⟩]
  collectors := []

def dataRecord (sizeSectors : Nat) : PartitionRecord := dosRecord "/dev/sda1" 2048 sizeSectors "83"
def extendedRecord : PartitionRecord := dosRecord "/dev/sda2" 704048 140000 "05"
def swapRecord5 : PartitionRecord := dosRecord "/dev/sda5" 706096 131072 "82"

def dosGeometry : ExactRemovalGeometry :=
  ⟨"dos", some "0x12345678", 512, swapRecord5, 5, extendedRecord, 2⟩

/-- The data partition ends a thousand sectors behind the start of the container. -/
def crossedSnapshot : HostSnapshot :=
  dosSnapshot [dataRecord 703000, extendedRecord, swapRecord5]

theorem exactRemovalGeometry_crossed :
    exactRemovalGeometry crossedSnapshot removalActivation = .ok dosGeometry := by
  decide +kernel

theorem ProductionSwapReplacementActivationIntent.integrityMatches_sealed
    (a : ProductionSwapReplacementActivationIntent) :
    { a with activationId := a.expectedActivationId }.integrityMatches = true :=
  beq_iff_eq.mpr rfl

/-- Sectors of the data partition are freed with the container. -/
theorem crossed_frees_data : ¬∀ (snapshot : HostSnapshot)
    (activation : ProductionSwapReplacementActivationIntent) (geometry : ExactRemovalGeometry),
    activation.integrityMatches → exactRemovalGeometry snapshot activation = .ok geometry →
    FreesContainer activation snapshot geometry := by
  intro hall
  have frees := hall crossedSnapshot removalActivation dosGeometry
    (ProductionSwapReplacementActivationIntent.integrityMatches_sealed _)
    exactRemovalGeometry_crossed
  refine frees.apart _ (List.mem_singleton_self _) rfl (dataRecord 703000) List.mem_cons_self
    (by decide) (by decide) 704048 ?_
  decide

theorem exactRemovalGeometry_frees_iff_crossed :
    FreesContainer removalActivation crossedSnapshot dosGeometry ↔
      Uncrossed removalActivation crossedSnapshot :=
  exactRemovalGeometry_frees_iff exactRemovalGeometry_crossed

def replacementReceipt : ProductionSwapRuntimeExecutionReceipt where
  schemaVersion := 1
  receiptId := ""
  journalId := "journal"
  launchId := "launch"
  retiringSwapDevice := "/dev/sda5"
  swapfilePath := "/data/.linux-storage-manager.swap"
  retiringReportedSwapBytes := 67104768
  replacementReportedSwapBytes := 67104768
  priority := 7
  oldSwapActive := false
  replacementSwapActive := true
  persistentConfigChanged := false
  partitionTableChanged := false

/-- The table before the removal, and a table after it whose data partition was halved. -/
def wholeSnapshot : HostSnapshot := dosSnapshot [dataRecord 700000, extendedRecord, swapRecord5]

def halvedSnapshot : HostSnapshot := dosSnapshot [dataRecord 350000]

def dosPreflight : ProductionSwapPartitionRemovalPreflight :=
  removalPreflight removalActivation "journal" "receipt" dosGeometry ("backup.sfdisk", "digest")

theorem prepareFromSnapshot_whole :
    prepareFromSnapshot removalActivation replacementReceipt "journal" "receipt"
      (.ok ("backup.sfdisk", "digest")) wholeSnapshot = .ok dosPreflight := by
  have hgeometry : exactRemovalGeometry wholeSnapshot removalActivation = .ok dosGeometry := by
    decide +kernel
  unfold prepareFromSnapshot
  rw [hgeometry]
  rfl

theorem verifyPostState_halved :
    verifyPostState removalActivation replacementReceipt dosPreflight (.ok halvedSnapshot)
      (.ok ()) = .ok () := rfl

/-- A verified removal after which the data partition is half as long. -/
theorem halved_data_verified : ¬∀ (pre fresh : HostSnapshot)
    (preflight : ProductionSwapPartitionRemovalPreflight) (before after : PartitionTable),
    prepareFromSnapshot removalActivation replacementReceipt "journal" "receipt"
      (.ok ("backup.sfdisk", "digest")) pre = .ok preflight →
    verifyPostState removalActivation replacementReceipt preflight (.ok fresh) (.ok ()) = .ok () →
    before ∈ pre.partitionTables → before.device = preflight.disk →
    after ∈ fresh.partitionTables → after.device = preflight.disk →
    RemovedExactly preflight before after := by
  intro hall
  have removed := hall wholeSnapshot halvedSnapshot dosPreflight _ _ prepareFromSnapshot_whole
    verifyPostState_halved List.mem_cons_self rfl List.mem_cons_self rfl
  have untouched := removed.othersUntouched
    (⟨⟨rfl, rfl, rfl⟩, ⟨rfl, rfl, rfl⟩, by decide⟩ : Remembers dosPreflight dosGeometry)
    (by decide)
  have hsame := untouched.same
  revert hsame
  decide

theorem verifyPostState_removed_iff_halved : ∃ before after,
    wholeSnapshot.partitionTables.filter (·.device = dosPreflight.disk) = [before] ∧
      halvedSnapshot.partitionTables.filter (·.device = dosPreflight.disk) = [after] ∧
      (RemovedExactly dosPreflight before after ↔ OthersUntouched dosPreflight before after) :=
  verifyPostState_removed_iff prepareFromSnapshot_whole verifyPostState_halved

end Sample

end StorageManager.Executor.Swap
