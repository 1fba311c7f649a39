import StorageManager.Lib.JsonText
import StorageManager.Lib.Word64
import StorageManager.Planner.SnapshotJson
import Mathlib.Data.List.Sort

/-!
# The records of a GPT

A GPT is trusted with a new partition behind its last one only when its records are named
apart and do not overlap, and it is known again by the digest of a form that does not depend
on the order the records are listed in.
-/

namespace StorageManager.Planner.Provisioning

open Core (PartitionRecord PartitionTable)
open Lib.Json (LawfulToJson NeverNull Value toJson)
open Lib.Word64

set_option autoImplicit false

section Order

/-- By start, then by node. -/
def recordLe (a b : PartitionRecord) : Prop :=
  a.startSector < b.startSector ∨ (a.startSector = b.startSector ∧ a.node ≤ b.node)

instance : DecidableRel recordLe := fun _ _ => inferInstanceAs (Decidable (_ ∨ _))

instance : Std.Total recordLe where
  total a b := by
    rcases Nat.lt_trichotomy a.startSector b.startSector with h | h | h
    · exact .inl (.inl h)
    · exact (String.le_total a.node b.node).imp (fun hle => .inr ⟨h, hle⟩)
        (fun hle => .inr ⟨h.symm, hle⟩)
    · exact .inr (.inl h)

instance : IsTrans PartitionRecord recordLe where
  trans a b c hab hbc := by
    rcases hab with hab | ⟨hab, hnode⟩
    · refine .inl ?_
      rcases hbc with hbc | ⟨hbc, -⟩ <;> omega
    · rcases hbc with hbc | ⟨hbc, hnode'⟩
      · exact .inl (by omega)
      · exact .inr ⟨by omega, String.le_trans hnode hnode'⟩

theorem node_eq_of_recordLe {a b : PartitionRecord} (hab : recordLe a b) (hba : recordLe b a) :
    a.node = b.node := by
  rcases hab with hab | ⟨heq, hab⟩
  · rcases hba with hba | ⟨hba, -⟩ <;> omega
  · rcases hba with hba | ⟨-, hba⟩
    · omega
    · exact String.le_antisymm hab hba

def sortedRecords (records : List PartitionRecord) : List PartitionRecord :=
  records.insertionSort recordLe

theorem sortedRecords_perm (records : List PartitionRecord) :
    (sortedRecords records).Perm records :=
  List.perm_insertionSort recordLe records

theorem sortedRecords_pairwise (records : List PartitionRecord) :
    (sortedRecords records).Pairwise recordLe :=
  List.pairwise_insertionSort recordLe records

end Order

section Scan

/-- The records in order: each has a node not seen before, and begins behind the one before
it. -/
def scanRecords (first limit : Nat) : List String → Nat → List PartitionRecord → Bool
  | _, _, [] => true
  | nodes, previousEnd, record :: rest =>
    match checkedAdd record.startSector record.sizeSectors with
    | none => false
    | some stop =>
      if record.node = "" ∨ record.node ∈ nodes ∨ record.sizeSectors = 0 ∨
          record.startSector < first ∨ limit < stop ∨ record.startSector < previousEnd then false
      else scanRecords first limit (record.node :: nodes) stop rest

def validateExistingGptRecords (table : PartitionTable) (firstLba lastLba : Nat) : Bool :=
  match checkedAdd lastLba 1 with
  | none => false
  | some limit => scanRecords firstLba limit [] firstLba (sortedRecords table.partitions)

def RecordsApart (a b : PartitionRecord) : Prop :=
  a.startSector + a.sizeSectors ≤ b.startSector ∨ b.startSector + b.sizeSectors ≤ a.startSector

/-- Every record has a node of its own and sectors of its own, all within the bounds. -/
structure SoundRecords (first limit : Nat) (records : List PartitionRecord) : Prop where
  each : ∀ r ∈ records, r.node ≠ "" ∧ 0 < r.sizeSectors ∧ first ≤ r.startSector ∧
    r.startSector + r.sizeSectors ≤ limit
  named : records.Pairwise fun a b => a.node ≠ b.node
  apart : records.Pairwise RecordsApart

variable {first limit' : Nat}

theorem scanRecords_iff (hlimit : limit' < limit) {nodes : List String} {previousEnd : Nat}
    {records : List PartitionRecord} :
    scanRecords first limit' nodes previousEnd records ↔
      (∀ r ∈ records, (r.node ≠ "" ∧ 0 < r.sizeSectors ∧ first ≤ r.startSector ∧
        r.startSector + r.sizeSectors ≤ limit') ∧ r.node ∉ nodes ∧
        previousEnd ≤ r.startSector) ∧
      records.Pairwise (fun a b => a.node ≠ b.node) ∧
      records.Pairwise fun a b => a.startSector + a.sizeSectors ≤ b.startSector := by
  induction records generalizing nodes previousEnd with
  | nil => simp [scanRecords]
  | cons r rest ih =>
    have hstep : scanRecords first limit' nodes previousEnd (r :: rest) ↔
        (((r.node ≠ "" ∧ 0 < r.sizeSectors ∧ first ≤ r.startSector ∧
          r.startSector + r.sizeSectors ≤ limit') ∧ r.node ∉ nodes ∧
          previousEnd ≤ r.startSector) ∧
        scanRecords first limit' (r.node :: nodes) (r.startSector + r.sizeSectors) rest) := by
      by_cases hfits : r.startSector + r.sizeSectors < limit
      · have hadd : checkedAdd r.startSector r.sizeSectors =
            some (r.startSector + r.sizeSectors) := checkedAdd_eq_some_iff.mpr ⟨hfits, rfl⟩
        rw [scanRecords, hadd]
        dsimp only
        split
        · rename_i hbad
          refine iff_of_false nofun ?_
          rintro ⟨⟨⟨hnode, hsize, hfirst, hstop⟩, hfresh, hbehind⟩, -⟩
          rcases hbad with hbad | hbad | hbad | hbad | hbad | hbad
          · exact hnode hbad
          · exact hfresh hbad
          all_goals omega
        · rename_i hgood
          push Not at hgood
          obtain ⟨hnode, hfresh, hsize, hfirst, hstop, hbehind⟩ := hgood
          exact ⟨fun h => ⟨⟨⟨hnode, Nat.pos_of_ne_zero hsize, hfirst, hstop⟩, hfresh, hbehind⟩, h⟩,
            And.right⟩
      · have hadd : checkedAdd r.startSector r.sizeSectors = none :=
          checkedAdd_eq_none_iff.mpr hfits
        rw [scanRecords, hadd]
        refine iff_of_false nofun ?_
        rintro ⟨⟨⟨-, -, -, hstop⟩, -⟩, -⟩
        omega
    rw [hstep, ih, List.forall_mem_cons, List.pairwise_cons, List.pairwise_cons]
    constructor
    · rintro ⟨hr, hrest, hnodes, happart⟩
      refine ⟨⟨hr, fun a ha => ?_⟩, ⟨fun a ha heq => ?_, hnodes⟩, fun a ha => (hrest a ha).2.2,
        happart⟩
      · obtain ⟨hsound, hfresh, hbehind⟩ := hrest a ha
        exact ⟨hsound, fun h => hfresh (List.mem_cons_of_mem _ h), by omega⟩
      · exact (hrest a ha).2.1 (heq ▸ List.mem_cons_self)
    · rintro ⟨⟨hr, hrest⟩, ⟨hnode, hnodes⟩, hbehind, happart⟩
      refine ⟨hr, fun a ha => ⟨(hrest a ha).1, ?_, hbehind a ha⟩, hnodes, happart⟩
      rw [List.mem_cons, not_or]
      exact ⟨(hnode a ha).symm, (hrest a ha).2.1⟩

theorem SoundRecords.perm {records records' : List PartitionRecord}
    (h : SoundRecords first limit' records) (hperm : records'.Perm records) :
    SoundRecords first limit' records' :=
  ⟨fun r hr => h.each r (hperm.mem_iff.mp hr),
    (hperm.pairwise_iff fun hne => Ne.symm hne).mpr h.named,
    (hperm.pairwise_iff fun hapart => Or.symm hapart).mpr h.apart⟩

/-- The records are accepted exactly when they are sound, in whatever order they are listed. -/
theorem validateExistingGptRecords_iff {table : PartitionTable} {firstLba lastLba : Nat} :
    validateExistingGptRecords table firstLba lastLba ↔
      lastLba + 1 < limit ∧ SoundRecords firstLba (lastLba + 1) table.partitions := by
  have hsorted := sortedRecords_pairwise table.partitions
  have hperm := sortedRecords_perm table.partitions
  unfold validateExistingGptRecords
  by_cases hlast : lastLba + 1 < limit
  · have hadd : checkedAdd lastLba 1 = some (lastLba + 1) :=
      checkedAdd_eq_some_iff.mpr ⟨hlast, rfl⟩
    rw [hadd]
    dsimp only
    rw [scanRecords_iff hlast, and_iff_right hlast]
    constructor
    · rintro ⟨heach, hnamed, happart⟩
      have sorted : SoundRecords firstLba (lastLba + 1) (sortedRecords table.partitions) :=
        ⟨fun r hr => (heach r hr).1, hnamed, happart.imp .inl⟩
      exact sorted.perm hperm.symm
    · intro sound
      have sorted := sound.perm hperm
      refine ⟨fun r hr => ⟨sorted.each r hr, nofun, (sorted.each r hr).2.2.1⟩, sorted.named, ?_⟩
      refine (hsorted.and sorted.apart).imp_of_mem ?_
      intro a b ha hb hab
      -- the one that starts first does not reach the other
      have hsize := (sorted.each b hb).2.1
      obtain ⟨hle, happart⟩ := hab
      rcases happart with happart | happart
      · exact happart
      · rcases hle with hlt | ⟨heq, -⟩ <;> omega
  · have hadd : checkedAdd lastLba 1 = none := checkedAdd_eq_none_iff.mpr hlast
    rw [hadd]
    exact iff_of_false nofun fun h => hlast h.1

end Scan

section Digest

/-- `CanonicalTable`: the table with its records in order. -/
def canonicalTable (table : PartitionTable) : PartitionTable :=
  { table with partitions := sortedRecords table.partitions }

def canonicalTableSha256 [Fingerprint] (table : PartitionTable) : String :=
  fingerprint (toJson (canonicalTable table))

instance : LawfulToJson PartitionRecord where
  inj {a b} h := by
    have hfields := Value.obj.inj h
    simp only [List.cons.injEq, Prod.mk.injEq, true_and, and_true] at hfields
    obtain ⟨hnode, hstart, hsize, htype, huuid, hname, hattrs, hbootable⟩ := hfields
    cases a
    cases b
    congr
    · exact LawfulToJson.inj hnode
    · exact LawfulToJson.inj hstart
    · exact LawfulToJson.inj hsize
    · exact LawfulToJson.inj htype
    · exact LawfulToJson.inj huuid
    · exact LawfulToJson.inj hname
    · exact LawfulToJson.inj hattrs
    · exact LawfulToJson.inj hbootable

instance : LawfulToJson PartitionTable where
  inj {a b} h := by
    have hfields := Value.obj.inj h
    simp only [List.cons.injEq, Prod.mk.injEq, true_and, and_true] at hfields
    obtain ⟨hdevice, hlabel, hid, hunit, hfirst, hlast, hsector, hpartitions⟩ := hfields
    cases a
    cases b
    congr
    · exact LawfulToJson.inj hdevice
    · exact LawfulToJson.inj hlabel
    · exact LawfulToJson.inj hid
    · exact LawfulToJson.inj hunit
    · exact LawfulToJson.inj hfirst
    · exact LawfulToJson.inj hlast
    · exact LawfulToJson.inj hsector
    · exact LawfulToJson.inj hpartitions

/-- One table, its records listed in any order. -/
structure SameTable (a b : PartitionTable) : Prop where
  device : a.device = b.device
  label : a.label = b.label
  id : a.id = b.id
  unit : a.unit = b.unit
  bounds : a.firstLba = b.firstLba ∧ a.lastLba = b.lastLba
  sectorSize : a.sectorSizeBytes = b.sectorSizeBytes
  records : a.partitions.Perm b.partitions

/-- Records of different nodes have one order. -/
theorem sortedRecords_eq_of_perm {records records' : List PartitionRecord}
    (hnamed : records.Pairwise fun a b => a.node ≠ b.node) (hperm : records'.Perm records) :
    sortedRecords records' = sortedRecords records := by
  have hsorted : (sortedRecords records').Perm (sortedRecords records) :=
    ((sortedRecords_perm records').trans hperm).trans (sortedRecords_perm records).symm
  have hinj : ∀ a ∈ records, ∀ b ∈ records, a.node = b.node → a = b := by
    have hnodup : (records.map (·.node)).Nodup := List.pairwise_map.mpr hnamed
    exact fun a ha b hb => List.inj_on_of_nodup_map hnodup ha hb
  refine List.Perm.eq_of_pairwise ?_ (sortedRecords_pairwise _) (sortedRecords_pairwise _) hsorted
  intro a b ha hb hab hba
  have ha' := hperm.mem_iff.mp ((sortedRecords_perm records').mem_iff.mp ha)
  have hb' := (sortedRecords_perm records).mem_iff.mp hb
  exact hinj a ha' b hb' (node_eq_of_recordLe hab hba)

theorem canonicalTable_eq_of_same {table table' : PartitionTable}
    (hnamed : table.partitions.Pairwise fun a b => a.node ≠ b.node)
    (h : SameTable table' table) : canonicalTable table' = canonicalTable table := by
  have hrecords := sortedRecords_eq_of_perm hnamed h.records
  unfold canonicalTable
  rw [hrecords]
  cases table
  cases table'
  obtain ⟨rfl, rfl, rfl, rfl, ⟨rfl, rfl⟩, rfl, -⟩ := h
  rfl

theorem same_of_canonicalTable_eq {table table' : PartitionTable}
    (h : canonicalTable table' = canonicalTable table) : SameTable table' table := by
  simp only [canonicalTable, PartitionTable.mk.injEq] at h
  obtain ⟨hdevice, hlabel, hid, hunit, hfirst, hlast, hsector, hrecords⟩ := h
  refine ⟨hdevice, hlabel, hid, hunit, ⟨hfirst, hlast⟩, hsector, ?_⟩
  exact (sortedRecords_perm _).symm.trans (hrecords ▸ sortedRecords_perm _)

variable [Fingerprint] {table table' : PartitionTable}

/-- The digest does not depend on the order of records with nodes of their own. -/
theorem canonicalTableSha256_of_same
    (hnamed : table.partitions.Pairwise fun a b => a.node ≠ b.node)
    (h : SameTable table' table) : canonicalTableSha256 table' = canonicalTableSha256 table := by
  unfold canonicalTableSha256
  rw [canonicalTable_eq_of_same hnamed h]

/-- The digest of a table that differs in anything but this order is another, unless two
texts have one digest. -/
theorem same_of_canonicalTableSha256 (h : canonicalTableSha256 table' = canonicalTableSha256 table) :
    SameTable table' table ∨
      Collision (toJson (canonicalTable table')) (toJson (canonicalTable table)) := by
  by_cases heq : toJson (canonicalTable table') = toJson (canonicalTable table)
  · exact .inl (same_of_canonicalTable_eq (LawfulToJson.inj heq))
  · exact .inr ⟨heq, h⟩

end Digest

/-- A collision is one of SHA-256: of two different texts. -/
theorem serdeSha256_collision_iff {v w : Value} : @Collision serdeSha256 v w ↔
    Lib.Json.toBytes v ≠ Lib.Json.toBytes w ∧
      Lib.Sha256.sha256Hex (Lib.Json.toBytes v) = Lib.Sha256.sha256Hex (Lib.Json.toBytes w) :=
  and_congr_left' (not_congr Lib.Json.toBytes_inj).symm

end StorageManager.Planner.Provisioning
