import StorageManager.Discovery.Extendability
import StorageManager.Planner.AdvisoryRecords

/-!
# The capacity an analysis adds up

A volume group can grow behind several of its physical volumes at once. The analysis adds up
what it measures behind each of them, and these runs share no byte.
-/

namespace StorageManager.Planner.Extend

open Core (BlockDevice DiagnosticSeverity HostSnapshot LvmInventory LvmLogicalVolume
  LvmPhysicalVolume LvmVolumeGroup PartitionRecord PartitionTable isExtendedType)
open Discovery
open Discovery.Identity (resolveSource resolveTarget)
open Lib.Checks
open Lib.Ranges
open Lib.Word64

set_option autoImplicit false

section Runs

variable {s : HostSnapshot} {d d' disk : BlockDevice} {table table' : PartitionTable}
  {sector sector' : Nat} {record record' : PartitionRecord}

/-- The ranges the analysis lays out on a disk: all records of a GPT, and in a DOS table the
listed partitions outside the container. -/
def LaidOut (disk : BlockDevice) (table : PartitionTable) (sector : Nat) (range : Range) : Prop :=
  if table.label = some "dos" then
    ∃ child ∈ listedPartitions disk, ∃ r,
      Recorded table sector (dosLimit (disk.sizeBytes / sector)) child r ∧
      insideContainer (extendedRanges table) r = false ∧ range = recordRange r
  else range ∈ table.partitions.map recordRange

/-- The free run behind a record ends at `next`. -/
structure RunBehind (disk : BlockDevice) (table : PartitionTable) (sector : Nat)
    (record : PartitionRecord) (next : Nat) : Prop where
  sizes : ∀ range, LaidOut disk table sector range → range.start < range.stop
  run : ∃ limit ranges, (∀ range, range ∈ ranges ↔ LaidOut disk table sector range) ∧
    ranges.Pairwise Disjoint ∧
    behind limit record.node (sorted ranges) = some (recordRange record, next)

theorem Listed.same (h : Listed s d disk table sector) (h' : Listed s d' disk table' sector') :
    table' = table ∧ sector' = sector := by
  obtain ⟨path, hpath, htable⟩ := h.tabled
  obtain ⟨path', hpath', htable'⟩ := h'.tabled
  obtain rfl : path = path' := Option.some.inj (hpath.symm.trans hpath')
  obtain rfl : table = table' := List.singleton_inj.mp (htable.symm.trans htable')
  exact ⟨rfl, Option.some.inj (h'.sectorSize.symm.trans h.sectorSize)⟩

theorem RunBehind.apart {next next' : Nat} (h : RunBehind disk table sector record next)
    (h' : RunBehind disk table sector record' next') (hnode : record.node ≠ record'.node) :
    next ≤ record'.startSector ∨ next' ≤ record.startSector := by
  obtain ⟨limit, ranges, hranges, hpairs, hbehind⟩ := h.run
  obtain ⟨limit', ranges', hranges', hpairs', hbehind'⟩ := h'.run
  have hsame : ∀ range, range ∈ ranges ↔ range ∈ ranges' := fun range =>
    (hranges range).trans (hranges' range).symm
  have hne : recordRange record' ≠ recordRange record := fun heq =>
    hnode (congrArg Range.name heq).symm
  exact runs_apart hsame (fun range hrange => h.sizes range ((hranges range).mp hrange)) hpairs
    hpairs' hbehind hbehind' hne

/-- A capacity is measured over a free run. -/
theorem adjacentCapacity_run {bytes : Nat} (h : adjacentCapacity s d = some bytes) :
    ∃ disk table sector record next, Advised s d bytes disk table sector record ∧
      RunBehind disk table sector record next ∧
      endByte sector record + bytes = next * sector := by
  have whole : ∀ {sector stop next : Nat}, stop ≤ next →
      stop * sector + (next - stop) * sector = next * sector := by
    intro sector stop next hstop
    rw [← Nat.add_mul]
    congr 1
    omega
  obtain ⟨-, disk, table, sector, path, listed, hpath, h⟩ := adjacentCapacity_eq_some_iff.mp h
  by_cases hlabel : table.label = some "dos"
  · rw [if_pos hlabel] at h
    obtain ⟨record, hadvised, -⟩ := dos_advised listed hpath hlabel h
    obtain ⟨record', next, rfl, hrecord, hdos, hstop, hbytes⟩ := dosAdvised hpath h
    have hnode : record.node = record'.node :=
      Option.some.inj (hadvised.path.symm.trans hpath)
    have hfilter := hadvised.ofRecord
    rw [hnode, hrecord] at hfilter
    obtain rfl : record' = record := List.singleton_inj.mp hfilter
    refine ⟨disk, table, sector, record', next, hadvised, ⟨?_, ?_⟩, ?_⟩
    · intro range hrange
      rw [LaidOut, if_pos hlabel] at hrange
      obtain ⟨child, -, r, hr, -, rfl⟩ := hrange
      exact hr.fits.size
    · obtain ⟨ranges, hranges, hpairs, hbehind⟩ := hdos.run
      refine ⟨_, ranges, fun range => ?_, hpairs, hbehind⟩
      rw [LaidOut, if_pos hlabel]
      exact hranges range
    · rw [hbytes, endByte]
      exact whole hstop
  · rw [if_neg hlabel] at h
    have hgpt := adjacentCapacityTable_label h hlabel
    obtain ⟨record, hadvised, -⟩ := gpt_advised listed hpath hgpt h
    obtain rfl : path = record.node := Option.some.inj (hpath.symm.trans hadvised.path)
    obtain ⟨-, sectors, hfree, hbytes⟩ := (adjacentCapacityTable_eq_some_iff hgpt).mp h
    obtain ⟨first, last, -, -, -, hfits, hpairs, found, next, hbehind, hstop, rfl⟩ :=
      adjacentFreeGpt_eq_ok_iff.mp hfree
    -- the range that was found is the record's
    obtain ⟨before, after, hsplit, hname, -⟩ := behind_eq_some hbehind
    have hfound : found ∈ table.partitions.map recordRange := mem_sorted.mp (hsplit ▸ by simp)
    obtain ⟨r, hr, rfl⟩ := List.mem_map.mp hfound
    obtain rfl : r = record :=
      eq_of_filter_eq_singleton hadvised.ofRecord hr (decide_eq_true hname)
    refine ⟨disk, table, sector, r, next, hadvised, ⟨?_, _, table.partitions.map recordRange, ?_,
      hpairs, hbehind⟩, ?_⟩
    · intro range hrange
      rw [LaidOut, if_neg hlabel] at hrange
      obtain ⟨q, hq, rfl⟩ := List.mem_map.mp hrange
      exact (hfits q hq).size
    · intro range
      rw [LaidOut, if_neg hlabel]
    · obtain ⟨-, rfl⟩ := checkedMul_eq_some_iff.mp hbytes
      exact whole hstop

end Runs

/-- A free run that an analysis counts, in bytes of its disk. -/
structure Share where
  device : BlockDevice
  disk : BlockDevice
  start : Nat
  bytes : Nat

/-- The bytes of the share were measured behind its device. -/
structure Share.Measured (s : HostSnapshot) (share : Share) : Prop where
  capacity : adjacentCapacity s share.device = some share.bytes
  advised : ∃ table sector record,
    Advised s share.device share.bytes share.disk table sector record ∧
      share.start = endByte sector record

/-- Two shares of one disk have no byte in common. -/
def Share.Apart (a b : Share) : Prop :=
  a.disk = b.disk → a.start + a.bytes ≤ b.start ∨ b.start + b.bytes ≤ a.start

/-- The share is what the analysis counts for the physical volume. -/
structure Backs (s : HostSnapshot) (pv : LvmPhysicalVolume) (share : Share) : Prop where
  resolved : ∃ n, resolveSource s pv.name = .ok n ∧ n.device = share.device
  kind : share.device.kind = .partition
  uuid : ∃ uuid, uuid ≠ "" ∧ pv.uuid = some uuid ∧ share.device.uuid = some uuid
  measured : share.Measured s

section Shares

variable {s : HostSnapshot} {a b share : Share}

theorem exists_measured {d : BlockDevice} {bytes : Nat} (h : adjacentCapacity s d = some bytes) :
    ∃ share : Share, share.device = d ∧ share.bytes = bytes ∧ share.Measured s := by
  obtain ⟨disk, table, sector, record, next, hadvised, -, -⟩ := adjacentCapacity_run h
  exact ⟨⟨d, disk, endByte sector record, bytes⟩, rfl, rfl, h, table, sector, record, hadvised,
    rfl⟩

/-- A share ends where the run behind its record does. -/
theorem Share.Measured.run (h : share.Measured s) : ∃ table sector record next,
    Listed s share.device share.disk table sector ∧ share.device.path = some record.node ∧
      RunBehind share.disk table sector record next ∧
      share.start = (record.startSector + record.sizeSectors) * sector ∧
      share.start + share.bytes = next * sector := by
  obtain ⟨table, sector, record, hadvised, hstart⟩ := h.advised
  obtain ⟨disk, table', sector', record', next, hadvised', hrun, hends⟩ :=
    adjacentCapacity_run h.capacity
  obtain rfl : disk = share.disk := by
    have hparent := hadvised'.listed.parent
    rw [hadvised.listed.parent] at hparent
    exact (List.singleton_inj.mp hparent).symm
  obtain ⟨rfl, rfl⟩ := hadvised.listed.same hadvised'.listed
  have hnode : record'.node = record.node :=
    Option.some.inj (hadvised'.path.symm.trans hadvised.path)
  have hrecord := hadvised'.ofRecord
  rw [hnode, hadvised.ofRecord] at hrecord
  obtain rfl : record = record' := List.singleton_inj.mp hrecord
  exact ⟨table', sector', record, next, hadvised'.listed, hadvised'.path, hrun, hstart,
    hstart ▸ hends⟩

theorem Share.Measured.apart (ha : a.Measured s) (hb : b.Measured s)
    (hpath : a.device.path ≠ b.device.path) : a.Apart b := by
  intro hdisk
  obtain ⟨table, sector, record, next, hlisted, hnode, hrun, hstart, hends⟩ := ha.run
  obtain ⟨table', sector', record', next', hlisted', hnode', hrun', hstart', hends'⟩ := hb.run
  rw [← hdisk] at hlisted' hrun'
  obtain ⟨rfl, rfl⟩ := hlisted.same hlisted'
  have hne : record.node ≠ record'.node := by
    rintro heq
    rw [hnode, hnode', heq] at hpath
    exact hpath rfl
  rcases hrun.apart hrun' hne with hbefore | hbehind
  · left
    calc a.start + a.bytes = next * sector' := hends
      _ ≤ (record'.startSector + record'.sizeSectors) * sector' :=
        Nat.mul_le_mul_right sector' (by omega)
      _ = b.start := hstart'.symm
  · right
    calc b.start + b.bytes = next' * sector' := hends'
      _ ≤ (record.startSector + record.sizeSectors) * sector' :=
        Nat.mul_le_mul_right sector' (by omega)
      _ = a.start := hstart.symm

theorem pairwise_apart {shares : List Share} (hmeasured : ∀ share ∈ shares, share.Measured s)
    (hpaths : (shares.map (·.device.path)).Nodup) : shares.Pairwise Share.Apart := by
  have hne : shares.Pairwise fun a b => a.device.path ≠ b.device.path := List.pairwise_map.mp hpaths
  refine hne.imp_of_mem ?_
  intro a b ha hb hab
  exact (hmeasured a ha).apart (hmeasured b hb) hab

end Shares

section Surveys

variable {s : HostSnapshot} {v : Survey} {pv : LvmPhysicalVolume} {share : Share}

/-- Names that are different from each other and from those seen before. -/
def Fresh (seen : List String) (names : List (Option String)) : Prop :=
  names.Nodup ∧ ∀ name ∈ seen, some name ∉ names

theorem fresh_cons {seen : List String} {name : String} {names : List (Option String)} :
    Fresh seen (some name :: names) ↔ name ∉ seen ∧ Fresh (name :: seen) names := by
  simp only [Fresh, List.nodup_cons, List.mem_cons, not_or, forall_eq_or_imp, Option.some.injEq]
  constructor
  · rintro ⟨⟨hname, hnodup⟩, hseen⟩
    exact ⟨fun h => (hseen name h).1 rfl, hnodup, hname, fun x hx => (hseen x hx).2⟩
  · rintro ⟨hseen, hnodup, hname, hnames⟩
    exact ⟨⟨hname, hnodup⟩, fun x hx => ⟨fun heq => hseen (heq ▸ hx), hnames x hx⟩⟩

theorem identify_eq_true_iff {d : BlockDevice} {w : Survey} :
    v.identify d pv = (w, true) ↔ ∃ path uuid, d.path = some path ∧ pv.uuid = some uuid ∧
      uuid ≠ "" ∧ path ∉ v.seenDevices ∧ uuid ∉ v.seenUuids ∧ d.uuid = some uuid ∧
      w = { v with seenDevices := path :: v.seenDevices, seenUuids := uuid :: v.seenUuids } := by
  unfold Survey.identify
  cases d.path with
  | none => simp
  | some path =>
  cases pv.uuid with
  | none => simp
  | some uuid =>
  dsimp only
  by_cases hrefused : uuid = "" ∨ path ∈ v.seenDevices
  · rw [if_pos hrefused]
    refine iff_of_false (by simp) ?_
    rintro ⟨_, _, hpath, huuid, hempty, hseen, -⟩
    cases hpath
    cases huuid
    exact hrefused.elim hempty hseen
  · rw [if_neg hrefused]
    rw [not_or] at hrefused
    by_cases hseen : uuid ∈ v.seenUuids
    · rw [if_pos hseen]
      refine iff_of_false (by simp) ?_
      rintro ⟨_, _, -, huuid, -, -, hfresh, -⟩
      cases huuid
      exact hfresh hseen
    · rw [if_neg hseen, Prod.mk.injEq, beq_iff_eq]
      constructor
      · rintro ⟨rfl, hsame⟩
        exact ⟨path, uuid, rfl, rfl, hrefused.1, hrefused.2, hseen, hsame, rfl⟩
      · rintro ⟨_, _, hpath, huuid, -, -, -, hsame, rfl⟩
        cases hpath
        cases huuid
        exact ⟨rfl, hsame⟩

/-- One physical volume that the survey counts. -/
structure Counts (s : HostSnapshot) (v : Survey) (pv : LvmPhysicalVolume) (share : Share)
    (path uuid : String) : Prop where
  backs : Backs s pv share
  located : share.device.path = some path
  identified : pv.uuid = some uuid
  name_fresh : pv.name ∉ v.seenPvs
  path_fresh : path ∉ v.seenDevices
  uuid_fresh : uuid ∉ v.seenUuids
  word : v.bytes + share.bytes < limit

/-- The survey after a physical volume it counts. -/
def counted (v : Survey) (pv : LvmPhysicalVolume) (share : Share) (path uuid : String) : Survey :=
  { v with
    bytes := v.bytes + share.bytes
    seenPvs := pv.name :: v.seenPvs
    seenDevices := path :: v.seenDevices
    seenUuids := uuid :: v.seenUuids }

theorem Counts.add_eq {path uuid : String} (h : Counts s v pv share path uuid) :
    v.add s pv = counted v pv share path uuid := by
  obtain ⟨n, hresolved, hdevice⟩ := h.backs.resolved
  obtain ⟨uuid', hne, hpv, huuid⟩ := h.backs.uuid
  obtain rfl : uuid = uuid' := Option.some.inj (h.identified.symm.trans hpv)
  have hidentified : ({ v with seenPvs := pv.name :: v.seenPvs } : Survey).identify n.device pv =
      ({ v with
        seenPvs := pv.name :: v.seenPvs
        seenDevices := path :: v.seenDevices
        seenUuids := uuid :: v.seenUuids }, true) := by
    rw [hdevice]
    exact identify_eq_true_iff.mpr ⟨path, uuid, h.located, h.identified, hne, h.path_fresh,
      h.uuid_fresh, huuid, rfl⟩
  have hsum : checkedAdd v.bytes share.bytes = some (v.bytes + share.bytes) :=
    checkedAdd_eq_some_iff.mpr ⟨h.word, rfl⟩
  unfold Survey.add
  rw [if_neg h.name_fresh, hresolved]
  dsimp only
  rw [hidentified]
  dsimp only
  rw [if_neg (by simp [hdevice, h.backs.kind]), Survey.measure, hdevice, h.backs.measured.capacity]
  dsimp only
  rw [hsum]
  rfl

/-- A volume the survey does not count makes it incomplete. -/
theorem exists_counts (h : (v.add s pv).complete = true) :
    ∃ share path uuid, Counts s v pv share path uuid := by
  unfold Survey.add at h
  split at h
  · cases h
  next hname =>
  cases hresolved : resolveSource s pv.name with
  | error e =>
    rw [hresolved] at h
    cases h
  | ok n =>
  rw [hresolved] at h
  dsimp only at h
  generalize hidentify : Survey.identify _ n.device pv = identified at h
  obtain ⟨w, valid⟩ := identified
  dsimp only at h
  split at h
  · cases h
  next hvalid =>
  simp only [not_or, ne_eq, not_not, Bool.not_eq_true, Bool.not_eq_false] at hvalid
  obtain ⟨hkind, rfl⟩ := hvalid
  obtain ⟨path, uuid, hpath, hpv, hne, hpaths, huuids, hsame, rfl⟩ :=
    identify_eq_true_iff.mp hidentify
  unfold Survey.measure at h
  split at h
  next free hfree =>
    split at h
    next total htotal =>
      obtain ⟨share, hdevice, hbytes, hmeasured⟩ := exists_measured hfree
      obtain ⟨hword, -⟩ := checkedAdd_eq_some_iff.mp htotal
      refine ⟨share, path, uuid, ⟨⟨n, hresolved, hdevice.symm⟩, hdevice ▸ hkind,
        ⟨uuid, hne, hpv, hdevice ▸ hsame⟩, hmeasured⟩, hdevice ▸ hpath, hpv, hname, hpaths, huuids,
        ?_⟩
      rw [hbytes]
      exact hword
    · cases h
  · cases h

/-- What a complete survey counted: one share for each physical volume, under different names,
paths and UUIDs, with a sum that fits. -/
structure Surveyed (s : HostSnapshot) (v : Survey) (pvs : List LvmPhysicalVolume)
    (shares : List Share) : Prop where
  backs : List.Forall₂ (Backs s) pvs shares
  names : Fresh v.seenPvs (pvs.map (some ·.name))
  paths : Fresh v.seenDevices (shares.map (·.device.path))
  uuids : Fresh v.seenUuids (pvs.map (·.uuid))
  word : v.bytes + (shares.map (·.bytes)).sum < limit

theorem surveyed_cons_iff {pvs : List LvmPhysicalVolume} {shares : List Share} {path uuid : String}
    (hpath : share.device.path = some path) (huuid : pv.uuid = some uuid) :
    Surveyed s v (pv :: pvs) (share :: shares) ↔ Counts s v pv share path uuid ∧
      Surveyed s (counted v pv share path uuid) pvs shares := by
  constructor
  · rintro ⟨hbacks, hnames, hpaths, huuids, hword⟩
    cases hbacks with
    | cons hback hbacks =>
    rw [List.map_cons, fresh_cons] at hnames
    rw [List.map_cons, hpath, fresh_cons] at hpaths
    rw [List.map_cons, huuid, fresh_cons] at huuids
    rw [List.map_cons, List.sum_cons] at hword
    refine ⟨⟨hback, hpath, huuid, hnames.1, hpaths.1, huuids.1, by omega⟩, hbacks, hnames.2,
      hpaths.2, huuids.2, ?_⟩
    show v.bytes + share.bytes + (shares.map (·.bytes)).sum < limit
    omega
  · rintro ⟨hcounts, hbacks, hnames, hpaths, huuids, hword⟩
    have hword : v.bytes + share.bytes + (shares.map (·.bytes)).sum < limit := hword
    refine ⟨.cons hcounts.backs hbacks, ?_, ?_, ?_, ?_⟩
    · rw [List.map_cons, fresh_cons]
      exact ⟨hcounts.name_fresh, hnames⟩
    · rw [List.map_cons, hpath, fresh_cons]
      exact ⟨hcounts.path_fresh, hpaths⟩
    · rw [List.map_cons, huuid, fresh_cons]
      exact ⟨hcounts.uuid_fresh, huuids⟩
    · rw [List.map_cons, List.sum_cons]
      omega

/-- A survey cannot become complete again. -/
theorem complete_of_foldl {pvs : List LvmPhysicalVolume} :
    ∀ {v : Survey}, (pvs.foldl (Survey.add s) v).complete = true → v.complete = true := by
  induction pvs with
  | nil => exact fun h => h
  | cons pv pvs ih =>
    intro v h
    have hadd := ih h
    obtain ⟨share, path, uuid, hcounts⟩ := exists_counts hadd
    rw [hcounts.add_eq] at hadd
    exact hadd

/-- The sum of a survey that stays complete. The induction is on the physical volumes. -/
theorem survey_eq_iff {pvs : List LvmPhysicalVolume} {b : Nat} :
    ∀ {v : Survey}, v.bytes < limit → v.complete = true →
      ((pvs.foldl (Survey.add s) v).toUnderlyingCapacity = ⟨b, true⟩ ↔
        ∃ shares, Surveyed s v pvs shares ∧ b = v.bytes + (shares.map (·.bytes)).sum) := by
  induction pvs with
  | nil =>
    intro v hv hcomplete
    constructor
    · intro h
      refine ⟨[], ⟨.nil, ⟨List.nodup_nil, by simp⟩, ⟨List.nodup_nil, by simp⟩,
        ⟨List.nodup_nil, by simp⟩, hv⟩, ?_⟩
      exact (congrArg UnderlyingCapacity.bytes h).symm
    · rintro ⟨shares, hsurveyed, rfl⟩
      cases hsurveyed.backs
      show v.toUnderlyingCapacity = ⟨v.bytes, true⟩
      rw [← hcomplete]
  | cons pv pvs ih =>
    intro v hv hcomplete
    constructor
    · intro h
      have hadd : (v.add s pv).complete = true :=
        complete_of_foldl (congrArg UnderlyingCapacity.complete h)
      obtain ⟨share, path, uuid, hcounts⟩ := exists_counts hadd
      rw [List.foldl_cons, hcounts.add_eq] at h
      obtain ⟨shares, hsurveyed, rfl⟩ :=
        (ih (v := counted v pv share path uuid) hcounts.word hcomplete).mp h
      refine ⟨share :: shares,
        (surveyed_cons_iff hcounts.located hcounts.identified).mpr ⟨hcounts, hsurveyed⟩, ?_⟩
      rw [List.map_cons, List.sum_cons]
      exact Nat.add_assoc _ _ _
    · rintro ⟨shares, hsurveyed, rfl⟩
      cases hsurveyed.backs with
      | @cons _ share _ shares hback _ =>
      obtain ⟨uuid, -, huuid, -⟩ := hback.uuid
      obtain ⟨_, _, record, hadvised, -⟩ := hback.measured.advised
      obtain ⟨hcounts, hrest⟩ := (surveyed_cons_iff hadvised.path huuid).mp hsurveyed
      rw [List.foldl_cons, hcounts.add_eq]
      refine (ih (v := counted v pv share record.node uuid) hcounts.word hcomplete).mpr
        ⟨shares, hrest, ?_⟩
      rw [List.map_cons, List.sum_cons]
      exact (Nat.add_assoc _ _ _).symm

end Surveys

section Claims

variable {s : HostSnapshot} {target : String} {d : BlockDevice} {shares : List Share} {b : Nat}

/-- What is counted below a device: the run behind its partition, or the runs behind all the
physical volumes of its full volume group. -/
inductive Counted (s : HostSnapshot) (d : BlockDevice) : List Share → Prop
  | partition {share : Share} (kind : d.kind = .partition) (device : share.device = d)
      (measured : share.Measured s) : Counted s d [share]
  | group {lvm : LvmInventory} {lv : LvmLogicalVolume} {vg : LvmVolumeGroup}
      {shares : List Share} (kind : d.kind = .lvm) (inventory : s.lvm = some lvm)
      (volume : lvm.logicalVolumes.filter (·.lvDevice d) = [lv])
      (group : lvm.volumeGroups.filter (·.name = lv.vgName) = [vg])
      (full : vg.freeBytes = 0) (present : shares ≠ []) (all : vg.pvCount = shares.length)
      (surveyed : Surveyed s Survey.start
        (lvm.physicalVolumes.filter (·.vgName = some vg.name)) shares) : Counted s d shares

theorem Counted.measured (h : Counted s d shares) : ∀ share ∈ shares, share.Measured s := by
  cases h with
  | partition kind device measured =>
    intro share hshare
    rw [List.mem_singleton.mp hshare]
    exact measured
  | group kind inventory volume group full present all surveyed =>
    intro share hshare
    obtain ⟨pv, -, hbacks⟩ := exists_left_of_forall₂ surveyed.backs hshare
    exact hbacks.measured

theorem Counted.paths (h : Counted s d shares) : (shares.map (·.device.path)).Nodup := by
  cases h with
  | partition kind device measured => exact List.nodup_singleton _
  | group kind inventory volume group full present all surveyed => exact surveyed.paths.1

theorem partition_potential_iff {fsType : String} :
    (analyzePartitionTarget s target d fsType).potentialUnderlyingGrowthBytes = some b ↔
      adjacentCapacity s d = some b := by
  unfold analyzePartitionTarget
  cases adjacentCapacity s d with
  | none => simp [baseAnalysis]
  | some bytes =>
    by_cases hbytes : 0 < bytes
    · simp [hbytes, baseAnalysis]
    · obtain rfl : bytes = 0 := by omega
      simp [baseAnalysis]

theorem underlying_potential_iff {fsType : String} {lv : LvmLogicalVolume} {vg : LvmVolumeGroup} :
    (analyzeUnderlying s target d fsType lv vg).potentialUnderlyingGrowthBytes = some b ↔
      analyzeVgUnderlyingCapacity s vg.name = ⟨b, true⟩ := by
  unfold analyzeUnderlying
  obtain ⟨bytes, complete⟩ := analyzeVgUnderlyingCapacity s vg.name
  cases complete with
  | false => simp [baseAnalysis]
  | true =>
    by_cases hbytes : 0 < bytes
    · simp [hbytes, baseAnalysis]
    · obtain rfl : bytes = 0 := by omega
      simp [baseAnalysis]

theorem lvm_potential_iff {fsType : String} :
    (analyzeLvmTarget s target d fsType).potentialUnderlyingGrowthBytes = some b ↔
      ∃ lvm lv vg, s.lvm = some lvm ∧ lvm.logicalVolumes.filter (·.lvDevice d) = [lv] ∧
        lvm.volumeGroups.filter (·.name = lv.vgName) = [vg] ∧ vg.freeBytes = 0 ∧
        analyzeVgUnderlyingCapacity s vg.name = ⟨b, true⟩ := by
  simp only [← one_eq_some_iff]
  unfold analyzeLvmTarget
  cases hlvm : s.lvm with
  | none => simp [baseAnalysis]
  | some lvm =>
  dsimp only
  cases hlv : one (lvm.logicalVolumes.filter (·.lvDevice d)) with
  | none =>
    refine iff_of_false (by simp [baseAnalysis]) ?_
    rintro ⟨_, lv, -, hinventory, hvolume, -⟩
    cases hinventory
    rw [hlv] at hvolume
    cases hvolume
  | some lv =>
  dsimp only
  cases hvg : one (lvm.volumeGroups.filter (·.name = lv.vgName)) with
  | none =>
    refine iff_of_false (by simp [baseAnalysis]) ?_
    rintro ⟨_, _, vg, hinventory, hvolume, hgroup, -⟩
    cases hinventory
    rw [hlv] at hvolume
    cases hvolume
    rw [hvg] at hgroup
    cases hgroup
  | some vg =>
  dsimp only
  have unique : (∃ lvm' lv' vg', some lvm = some lvm' ∧
      one (lvm'.logicalVolumes.filter (·.lvDevice d)) = some lv' ∧
      one (lvm'.volumeGroups.filter (·.name = lv'.vgName)) = some vg' ∧ vg'.freeBytes = 0 ∧
      analyzeVgUnderlyingCapacity s vg'.name = ⟨b, true⟩) ↔
      vg.freeBytes = 0 ∧ analyzeVgUnderlyingCapacity s vg.name = ⟨b, true⟩ := by
    constructor
    · rintro ⟨_, lv', vg', hinventory, hvolume, hgroup, h⟩
      cases hinventory
      obtain rfl : lv = lv' := Option.some.inj (hlv.symm.trans hvolume)
      obtain rfl : vg = vg' := Option.some.inj (hvg.symm.trans hgroup)
      exact h
    · exact fun h => ⟨lvm, lv, vg, rfl, hlv, hvg, h⟩
  rw [unique]
  by_cases hfree : 0 < vg.freeBytes
  · rw [if_pos hfree]
    refine iff_of_false (by simp [analyzeFreeExtents, baseAnalysis]) ?_
    rintro ⟨hzero, -⟩
    omega
  · rw [if_neg hfree, underlying_potential_iff]
    have hzero : vg.freeBytes = 0 := by omega
    simp [hzero]

theorem group_capacity_iff {lvm : LvmInventory} {vg : LvmVolumeGroup} (hlvm : s.lvm = some lvm)
    (hvg : lvm.volumeGroups.filter (·.name = vg.name) = [vg]) :
    analyzeVgUnderlyingCapacity s vg.name = ⟨b, true⟩ ↔ ∃ shares, shares ≠ [] ∧
      vg.pvCount = shares.length ∧ Surveyed s Survey.start
        (lvm.physicalVolumes.filter (·.vgName = some vg.name)) shares ∧
      b = (shares.map (·.bytes)).sum := by
  unfold analyzeVgUnderlyingCapacity
  rw [hlvm]
  dsimp only
  rw [hvg]
  split
  next hrefused =>
    refine iff_of_false (by simp) ?_
    rintro ⟨shares, hsome, hall, hsurveyed, -⟩
    have hlength := hsurveyed.backs.length_eq
    rcases hrefused with hempty | hcount
    · rw [List.isEmpty_iff.mp hempty] at hlength
      exact hsome (List.length_eq_zero_iff.mp hlength.symm)
    · refine hcount (congrArg some ?_)
      rw [hlength]
      exact hall
  next haccepted =>
    obtain ⟨hsome, hcount⟩ := not_or.mp haccepted
    rw [survey_eq_iff (by decide) rfl]
    constructor
    · rintro ⟨shares, hsurveyed, rfl⟩
      have hlength := hsurveyed.backs.length_eq
      refine ⟨shares, ?_, ?_, hsurveyed, Nat.zero_add _⟩
      · rintro rfl
        exact hsome (List.isEmpty_iff.mpr (List.length_eq_zero_iff.mp hlength))
      · rw [← hlength]
        exact Option.some.inj (not_not.mp hcount)
    · rintro ⟨shares, -, -, hsurveyed, rfl⟩
      exact ⟨shares, hsurveyed, (Nat.zero_add _).symm⟩

/-- What the analysis of a device announces below it. -/
theorem device_potential_iff :
    (analyzeDevice s target d).potentialUnderlyingGrowthBytes = some b ↔
      (∀ e ∈ s.diagnostics, e.severity ≠ .error) ∧
      (∃ fs, d.filesystem = some fs ∧ (fs.fsType = "ext4" ∨ fs.fsType = "xfs")) ∧
      ∃ shares, Counted s d shares ∧ b = (shares.map (·.bytes)).sum := by
  unfold analyzeDevice
  by_cases herror : s.diagnostics.any (·.severity = .error) = true
  · rw [if_pos herror]
    obtain ⟨e, he, hsevere⟩ := List.any_eq_true.mp herror
    refine iff_of_false (by simp [baseAnalysis]) ?_
    rintro ⟨hclean, -⟩
    exact hclean e he (of_decide_eq_true hsevere)
  rw [if_neg herror]
  have hclean : ∀ e ∈ s.diagnostics, e.severity ≠ .error := by
    intro e he hsevere
    exact herror (List.any_eq_true.mpr ⟨e, he, decide_eq_true hsevere⟩)
  cases hfs : d.filesystem with
  | none => simp [baseAnalysis]
  | some fs =>
  dsimp only [Option.map_some]
  by_cases hsupported : fs.fsType = "ext4" ∨ fs.fsType = "xfs"
  swap
  · rw [if_pos hsupported]
    refine iff_of_false (by simp [baseAnalysis]) ?_
    rintro ⟨-, ⟨_, hsame, hfs⟩, -⟩
    cases hsame
    exact hsupported hfs
  rw [if_neg (not_not.mpr hsupported)]
  have hcounted : (∀ e ∈ s.diagnostics, e.severity ≠ .error) ∧
      (∃ fs', some fs = some fs' ∧ (fs'.fsType = "ext4" ∨ fs'.fsType = "xfs")) ∧
      (∃ shares, Counted s d shares ∧ b = (shares.map (·.bytes)).sum) ↔
      ∃ shares, Counted s d shares ∧ b = (shares.map (·.bytes)).sum :=
    ⟨fun h => h.2.2, fun h => ⟨hclean, ⟨fs, rfl, hsupported⟩, h⟩⟩
  rw [hcounted]
  cases hkind : d.kind
  case partition =>
    rw [partition_potential_iff]
    constructor
    · intro h
      obtain ⟨share, hdevice, hbytes, hmeasured⟩ := exists_measured h
      exact ⟨[share], .partition hkind hdevice hmeasured, by simp [hbytes]⟩
    · rintro ⟨shares, hshares, rfl⟩
      cases hshares with
      | partition kind device measured =>
        rw [← device, List.map_singleton, List.sum_singleton]
        exact measured.capacity
      | group kind => simp [hkind] at kind
  case lvm =>
    rw [lvm_potential_iff]
    constructor
    · rintro ⟨lvm, lv, vg, hlvm, hlv, hvg, hfull, h⟩
      have hname : vg.name = lv.vgName := by simpa using (mem_of_filter_eq_singleton hvg).2
      have hown : lvm.volumeGroups.filter (·.name = vg.name) = [vg] := hname ▸ hvg
      obtain ⟨shares, hsome, hall, hsurveyed, hsum⟩ := (group_capacity_iff hlvm hown).mp h
      exact ⟨shares, .group hkind hlvm hlv hvg hfull hsome hall hsurveyed, hsum⟩
    · rintro ⟨shares, hshares, hsum⟩
      cases hshares with
      | partition kind => simp [hkind] at kind
      | @group lvm lv vg _ kind inventory volume group full present all surveyed =>
        have hname : vg.name = lv.vgName := by simpa using (mem_of_filter_eq_singleton group).2
        refine ⟨lvm, lv, vg, inventory, volume, group, full, ?_⟩
        rw [← hname] at group
        exact (group_capacity_iff inventory group).mpr ⟨shares, present, all, surveyed, hsum⟩
  all_goals
    refine iff_of_false (by simp [baseAnalysis]) ?_
    rintro ⟨shares, hshares, -⟩
    cases hshares with
    | partition kind => simp [hkind] at kind
    | group kind => simp [hkind] at kind

/-- The analysis announces `b` bytes below its target exactly when it resolved the target to a
device with a supported filesystem, no error contradicts the snapshot, and `b` is the sum of
the runs behind the partitions below the device. No byte is in two of these runs. -/
theorem underlying_growth_iff :
    (∃ a, analyzeExtendability s target = .ok a ∧ a.potentialUnderlyingGrowthBytes = some b) ↔
      ∃ n, resolveTarget s target = .ok n ∧ (∀ e ∈ s.diagnostics, e.severity ≠ .error) ∧
        (∃ fs, n.device.filesystem = some fs ∧ (fs.fsType = "ext4" ∨ fs.fsType = "xfs")) ∧
        ∃ shares, Counted s n.device shares ∧ b = (shares.map (·.bytes)).sum ∧
          shares.Pairwise Share.Apart := by
  have hdevice : ∀ n : Core.Node,
      (analyzeDevice s target n.device).potentialUnderlyingGrowthBytes = some b ↔
        (∀ e ∈ s.diagnostics, e.severity ≠ .error) ∧
        (∃ fs, n.device.filesystem = some fs ∧ (fs.fsType = "ext4" ∨ fs.fsType = "xfs")) ∧
        ∃ shares, Counted s n.device shares ∧ b = (shares.map (·.bytes)).sum ∧
          shares.Pairwise Share.Apart := by
    intro n
    rw [device_potential_iff]
    refine and_congr_right fun _ => and_congr_right fun _ => exists_congr fun shares => ?_
    refine and_congr_right fun hcounted => ?_
    exact (and_iff_left (pairwise_apart hcounted.measured hcounted.paths)).symm
  unfold analyzeExtendability
  constructor
  · rintro ⟨a, ha, hb⟩
    split at ha
    next n hresolved =>
      cases ha
      exact ⟨n, hresolved, (hdevice n).mp hb⟩
    · cases ha
    · cases ha
      cases hb
  · rintro ⟨n, hresolved, h⟩
    rw [hresolved]
    exact ⟨_, rfl, (hdevice n).mpr h⟩

end Claims

end StorageManager.Planner.Extend
