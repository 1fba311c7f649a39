import Mathlib.Data.List.Chain
import StorageManager.Executor.JournalAcceptance
import StorageManager.Executor.JournalEncoding
import StorageManager.Executor.JournalNames

/-!
# The committed records

A ledger lists the records that were committed for each journal, the last one first. The
directory represents a ledger when the final names hold the last records and every
displaced record is still there. A writer that is lost or refused anywhere commits its
record or leaves the ledger as it was.
-/

namespace StorageManager.Executor.JournalStore

open Lib.Checks
open Lib.Directory
open Lib.Effects
open Planner.ExecutionGuard

set_option autoImplicit false

abbrev Ledger := String → List OperationJournal

/-- One more record was committed. -/
def Ledger.push (L : Ledger) (journal : OperationJournal) : Ledger :=
  Function.update L journal.journalId (journal :: L journal.journalId)

section Represents

variable [Fingerprint]

/-- Where a displaced record is kept. -/
def KeptUnder (journal : OperationJournal) (name : OsString) : Prop :=
  (∃ pid sequence, name = stagingName journal.journalId pid sequence) ∨
    name = historyName journal.journalId journal.events.length (journalContentDigest journal)

structure Represents (L : Ledger) (d : Dir) : Prop where
  valid : ∀ id, ∀ j ∈ L id, ValidRecord j ∧ j.journalId = id
  chain : ∀ id, (L id).IsChain fun newer older => extendsExactly older newer = true
  final : ∀ id, (d.lookup (finalName id)).map Node.bytes = (L id).head?.map encodeJournal
  kept : ∀ id, ∀ j ∈ (L id).tail, ∃ name node, KeptUnder j name ∧ d.lookup name = some node ∧
    node.bytes = encodeJournal j

variable {L : Ledger} {d : Dir} {j k : OperationJournal} {name : OsString} {node : Node}

theorem KeptUnder.ne_final (h : KeptUnder j name) (id : String) : name ≠ finalName id := by
  rcases h with ⟨pid, sequence, rfl⟩ | rfl
  · exact stagingName_ne_finalName _ _ _ _
  · exact historyName_ne_finalName (Fingerprint.isSha256Hex_fingerprint _) _ _ _

/-- The empty directory. -/
theorem represents_nil : Represents (fun _ => []) ∅ where
  valid _ _ h := by cases h
  chain _ := .nil
  final _ := by rw [AList.lookup_empty]; rfl
  kept _ _ h := by cases h

/-- A new name beside the final names changes nothing. -/
theorem Represents.insert (h : Represents L d) (hnew : d.lookup name = none)
    (hother : ∀ id, name ≠ finalName id) : Represents L (d.insert name node) where
  valid := h.valid
  chain := h.chain
  final id := by rw [AList.lookup_insert_ne (hother id).symm, h.final]
  kept id j hj := by
    obtain ⟨kept, file, hkept, hlookup, hbytes⟩ := h.kept id j hj
    have hne : kept ≠ name := by
      rintro rfl
      rw [hnew] at hlookup
      cases hlookup
    exact ⟨kept, file, hkept, by rw [AList.lookup_insert_ne hne, hlookup], hbytes⟩

/-- A record that extends the last one has taken its final name, and the last one is
still there. -/
theorem Represents.push {d' : Dir} (h : Represents L d) (hvalid : ValidRecord j)
    (hextends : ∀ e ∈ (L j.journalId).head?, extendsExactly e j = true)
    (hfinal : d'.lookup (finalName j.journalId) = some node) (hbytes : node.bytes = encodeJournal j)
    (hothers : ∀ id, id ≠ j.journalId → d'.lookup (finalName id) = d.lookup (finalName id))
    (hdisplaced : ∀ e ∈ (L j.journalId).head?, ∃ name node, KeptUnder e name ∧
      d'.lookup name = some node ∧ node.bytes = encodeJournal e)
    (hsame : ∀ name node, (∀ id, name ≠ finalName id) → d.lookup name = some node →
      d'.lookup name = some node) : Represents (L.push j) d' := by
  have hnew : L.push j j.journalId = j :: L j.journalId := Function.update_self ..
  have hold : ∀ id, id ≠ j.journalId → L.push j id = L id := fun id hid =>
    Function.update_of_ne hid ..
  have hstays : ∀ e ∈ (L e.journalId).tail, ∃ name node, KeptUnder e name ∧
      d'.lookup name = some node ∧ node.bytes = encodeJournal e := by
    intro e he
    obtain ⟨name, node, hkept, hlookup, hnode⟩ := h.kept _ e he
    exact ⟨name, node, hkept, hsame name node hkept.ne_final hlookup, hnode⟩
  constructor
  · intro id e he
    by_cases hid : id = j.journalId
    · subst hid
      rw [hnew] at he
      rcases List.mem_cons.mp he with rfl | he
      · exact ⟨hvalid, rfl⟩
      · exact h.valid _ e he
    · rw [hold id hid] at he
      exact h.valid id e he
  · intro id
    by_cases hid : id = j.journalId
    · subst hid
      rw [hnew]
      exact List.isChain_cons.mpr ⟨hextends, h.chain _⟩
    · rw [hold id hid]
      exact h.chain id
  · intro id
    by_cases hid : id = j.journalId
    · subst hid
      rw [hnew, hfinal, List.head?_cons, Option.map_some, Option.map_some, hbytes]
    · rw [hold id hid, hothers id hid]
      exact h.final id
  · intro id e he
    by_cases hid : id = j.journalId
    · subst hid
      rw [hnew, List.tail_cons] at he
      cases hlist : L j.journalId with
      | nil =>
        rw [hlist] at he
        cases he
      | cons last older =>
        rw [hlist] at he
        rcases List.mem_cons.mp he with rfl | he
        · exact hdisplaced e (by rw [hlist]; rfl)
        · have hmem : e ∈ L j.journalId := by
            rw [hlist]
            exact List.mem_cons_of_mem _ he
          refine hstays e ?_
          rw [(h.valid _ e hmem).2, hlist]
          exact he
    · rw [hold id hid] at he
      have hmem := List.mem_of_mem_tail he
      refine hstays e ?_
      rw [(h.valid id e hmem).2]
      exact he

/-- A displaced record goes on to its history name. -/
theorem Represents.retain (h : Represents L d) (hlookup : d.lookup name = some node)
    (hbytes : node.bytes = encodeJournal k) (hother : ∀ id, name ≠ finalName id)
    (hfree : d.lookup (historyName k.journalId k.events.length (journalContentDigest k)) = none) :
    Represents L ((d.erase name).insert
      (historyName k.journalId k.events.length (journalContentDigest k)) node) := by
  have hhistory : ∀ id, historyName k.journalId k.events.length (journalContentDigest k) ≠
      finalName id := KeptUnder.ne_final (.inr rfl)
  refine ⟨h.valid, h.chain, fun id => ?_, fun id j hj => ?_⟩
  · rw [AList.lookup_insert_ne (hhistory id).symm, AList.lookup_erase_ne (hother id).symm, h.final]
  · obtain ⟨kept, file, hkept, hfound, hfile⟩ := h.kept id j hj
    by_cases hmoved : kept = name
    · subst hmoved
      rw [hlookup] at hfound
      obtain rfl := Option.some.inj hfound
      -- the record that moved is the one the history name is made for
      obtain rfl : j = k := encodeJournal_inj.mp (hfile.symm.trans hbytes)
      exact ⟨_, node, .inr rfl, AList.lookup_insert _, hbytes⟩
    · have hne : kept ≠ historyName k.journalId k.events.length (journalContentDigest k) := by
        rintro rfl
        rw [hfree] at hfound
        cases hfound
      exact ⟨kept, file, hkept, by rw [AList.lookup_insert_ne hne, AList.lookup_erase_ne hmoved,
        hfound], hfile⟩

end Represents

section Looking

variable {μ : Type} {d : Dir}

theorem check_sees (c : Check) : Sees d (check c : StoreProc μ Unit) fun _ => True :=
  sees_onDir trivial fun _ _ _ => trivial

theorem names_sees : Sees d (names : StoreProc μ _) (· = DirOp.sortNames d.keys) := by
  refine sees_onDir trivial fun c a ha => ?_
  cases c with
  | some f => cases ha
  | none => exact (Except.ok.inj ha).symm

theorem fstat_sees (name : OsString) (node : Node) :
    Sees d (fstat name node : StoreProc μ _) (· = node) := by
  refine sees_onDir trivial fun c a ha => ?_
  cases c with
  | some f => cases ha
  | none => exact (Except.ok.inj ha).symm

theorem openFile_sees (name : OsString) :
    Sees d (openFile name : StoreProc μ _) fun node => d.lookup name = some node := by
  have hopen : Sees d (onDir (storeFault (some name)) (.openFile name) : StoreProc μ Node)
      fun node => d.lookup name = some node := by
    refine sees_onDir trivial fun c a ha => ?_
    cases c with
    | some f => cases ha
    | none =>
      have hfound : (d.lookup name).elim (Except.error Fault.notFound) Except.ok = .ok a := ha
      cases hlookup : d.lookup name with
      | none =>
        rw [hlookup] at hfound
        cases hfound
      | some node =>
        rw [hlookup] at hfound
        rw [Except.ok.inj hfound]
  exact hopen.bind fun node hnode => (Sees.lifted _).bind fun _ _ => .pure hnode

theorem reopen_sees (name : OsString) :
    Sees d (reopen name : StoreProc μ _) fun node => d.lookup name = some node :=
  (openFile_sees name).mapError.bind fun live hlive => (fstat_sees name live).imp fun node hnode => by
    rw [hnode]
    exact hlive

theorem requireTrusted_sees (name : OsString) (metadata : Node) (links : Nat) :
    Sees d (requireTrusted name metadata links : StoreProc μ _) fun _ => True :=
  Sees.bind (Sees.ask fun _ => trivial) fun _ _ => .lift fun _ _ => trivial

variable [Fingerprint] {fromSlice : FromSlice}

/-- A record that was loaded is what the file of that name holds. -/
theorem loadPinnedJournal_sees (name : OsString) (journalId : String) (links : Nat) :
    Sees d (loadPinnedJournal fromSlice name journalId links : StoreProc μ _) fun r =>
      d.lookup name = some r.2 ∧ r.2.bytes.length ≤ maxJournalBytes ∧
        decodeJournal fromSlice r.2.bytes journalId = .ok r.1 := by
  refine (Sees.lifted _).bind fun _ _ => ?_
  refine (openFile_sees name).mapError.bind fun file hfile => ?_
  refine (fstat_sees name file).bind fun metadata hmetadata => ?_
  subst hmetadata
  refine (requireTrusted_sees name metadata links).bind fun _ _ => ?_
  refine (Sees.lifted _).bind fun _ hsize => ?_
  have hlength : metadata.bytes.length ≤ maxJournalBytes := by
    rw [refuse_eq_ok_iff] at hsize
    omega
  have hread : Sees d (onDir (storeFault (some name)) (.read metadata (maxJournalBytes + 1)) :
      StoreProc μ _) (· = metadata.bytes) := by
    refine sees_onDir trivial fun c a ha => ?_
    cases c with
    | some f => cases ha
    | none =>
      rw [← Except.ok.inj ha]
      exact List.take_of_length_le (by omega)
  refine hread.bind fun bytes hbytes => ?_
  subst hbytes
  refine (Sees.lifted _).bind fun _ _ => ?_
  refine (fstat_sees name metadata).bind fun after hafter => ?_
  subst hafter
  refine (reopen_sees name).bind fun live _ => ?_
  refine (Sees.lifted _).bind fun _ _ => ?_
  exact (Sees.lifted _).bind fun journal hdecoded => .pure ⟨hfile, hlength, hdecoded⟩

end Looking

section Writing

variable {μ : Type} {d : Dir} {R : Dir → Prop}

/-- A staged file is new, and nothing else changes. -/
theorem writeStagedFile_leads (name : OsString) (bytes : List UInt8) (hR : R d)
    (hnew : d.lookup name = none → ∀ node, R (d.insert name node)) :
    Leads d (writeStagedFile name bytes : StoreProc μ _)
      (fun node d' => d.lookup name = none ∧ d' = d.insert name node ∧ node.bytes = bytes) R := by
  have hwriter : Sees d (onDir (storeFault (some name)) (.check .writer) : StoreProc μ _)
      fun _ => True := sees_onDir trivial fun _ _ _ => trivial
  have hcreate : Leads d (onDir (storeFault (some name)) (.createNew name) : StoreProc μ _)
      (fun _ d' => d.lookup name = none ∧ ∃ node, d' = d.insert name node) R :=
    Leads.createNew hR fun hlookup node => ⟨hlookup, node, rfl⟩
  refine hwriter.andThen hR fun _ _ => hcreate.bind ?_
  rintro _ d' ⟨hlookup, node, rfl⟩
  have hwrite : Leads (d.insert name node)
      (onDir (storeFault (some name)) (.write name bytes) : StoreProc μ _)
      (fun file d' => d' = d.insert name file ∧ file.bytes = bytes) R := by
    refine Leads.write (AList.lookup_insert d) (hnew hlookup node) (fun n => ?_) ?_
    · rw [AList.insert_insert]
      exact hnew hlookup _
    · rw [AList.insert_insert]
      exact ⟨rfl, rfl⟩
  refine hwrite.bind ?_
  rintro file d' ⟨rfl, hbytes⟩
  have hR' := hnew hlookup file
  refine (reopen_sees name).andThen hR' fun live _ => Leads.bind (Leads.lift (fun _ _ => rfl) hR') ?_
  rintro _ d' rfl
  exact Leads.pure ⟨hlookup, rfl, hbytes⟩

theorem serializeJournal_ok {j : OperationJournal} {bytes : List UInt8}
    (h : serializeJournal j = .ok bytes) : bytes = encodeJournal j := by
  obtain ⟨-, h⟩ := check_eq_ok_iff.mp h
  exact (Except.ok.inj h).symm

theorem pathFor_ok {id : String} {name : OsString} (h : pathFor id = .ok name) :
    name = finalName id := by
  obtain ⟨-, h⟩ := check_eq_ok_iff.mp h
  exact (Except.ok.inj h).symm

theorem tempPath_sees (id : String) : Sees d (tempPath id : StoreProc μ _) fun name =>
    ∃ pid sequence, name = stagingName id pid sequence := by
  have hask : ∀ op, Sees d (host op : StoreProc μ _) fun _ => True := fun op =>
    Sees.ask fun _ => trivial
  exact (hask .nextSequence).bind fun sequence _ => (hask .processId).bind fun pid _ =>
    .pure ⟨pid, sequence, rfl⟩

variable [Fingerprint] {fromSlice : FromSlice} {L : Ledger}

/-- The ledger before or after the call. -/
def Between (L : Ledger) (j : OperationJournal) (d : Dir) : Prop :=
  Represents L d ∨ Represents (L.push j) d

theorem staged_represents {j : OperationJournal} {name : OsString} (h : Represents L d)
    (hname : ∃ pid sequence, name = stagingName j.journalId pid sequence)
    (hlookup : d.lookup name = none) (node : Node) : Represents L (d.insert name node) := by
  obtain ⟨pid, sequence, rfl⟩ := hname
  exact h.insert hlookup fun id => stagingName_ne_finalName _ _ _ _

/-- The first record of a journal takes its final name. -/
theorem Represents.publish {j : OperationJournal} {temp : OsString} {node : Node}
    (h : Represents L d) (hvalid : ValidRecord j)
    (htemp : ∃ pid sequence, temp = stagingName j.journalId pid sequence)
    (hnew : d.lookup temp = none)
    (hfree : (d.insert temp node).lookup (finalName j.journalId) = none)
    (hnode : node.bytes = encodeJournal j) :
    Represents (L.push j)
      (((d.insert temp node).erase temp).insert (finalName j.journalId) node) := by
  obtain ⟨pid, sequence, rfl⟩ := htemp
  have hother : ∀ id, finalName id ≠ stagingName j.journalId pid sequence := fun id =>
    (stagingName_ne_finalName _ _ _ _).symm
  rw [AList.lookup_insert_ne (hother _)] at hfree
  have hnone : (L j.journalId).head? = none := by
    have hfinal := h.final j.journalId
    rw [hfree, Option.map_none] at hfinal
    exact Option.map_eq_none_iff.mp hfinal.symm
  refine h.push hvalid ?_ (AList.lookup_insert _) hnode ?_ ?_ ?_
  · rw [hnone]
    intro e he
    cases he
  · intro id hid
    have hne : finalName id ≠ finalName j.journalId := fun hsame => hid (finalName_inj.mp hsame)
    rw [AList.lookup_insert_ne hne, AList.lookup_erase_ne (hother id),
      AList.lookup_insert_ne (hother id)]
  · rw [hnone]
    intro e he
    cases he
  · intro name file hname hlookup
    have hne : name ≠ stagingName j.journalId pid sequence := by
      rintro rfl
      rw [hnew] at hlookup
      cases hlookup
    rw [AList.lookup_insert_ne (hname _), AList.lookup_erase_ne hne, AList.lookup_insert_ne hne,
      hlookup]

/-- A record that extends the current one takes its place; the current one is kept under
the staging name. -/
theorem Represents.exchange {j e : OperationJournal} {temp : OsString} {node old : Node}
    (h : Represents L d) (hvalid : ValidRecord j) (hextends : extendsExactly e j = true)
    (htemp : ∃ pid sequence, temp = stagingName j.journalId pid sequence)
    (hnew : d.lookup temp = none) (hlast : (L j.journalId).head? = some e)
    (hold : d.lookup (finalName j.journalId) = some old) (hnode : node.bytes = encodeJournal j) :
    Represents (L.push j)
      (((d.insert temp node).insert temp old).insert (finalName j.journalId) node) := by
  obtain ⟨pid, sequence, rfl⟩ := htemp
  have hother : ∀ id, finalName id ≠ stagingName j.journalId pid sequence := fun id =>
    (stagingName_ne_finalName _ _ _ _).symm
  have hbytes : old.bytes = encodeJournal e := by
    have hfinal := h.final j.journalId
    rw [hold, hlast] at hfinal
    exact Option.some.inj hfinal
  have hid : e.journalId = j.journalId := (h.valid _ e (List.mem_of_mem_head? hlast)).2
  refine h.push hvalid ?_ (AList.lookup_insert _) hnode ?_ ?_ ?_
  · intro e' he'
    rw [hlast] at he'
    rw [← Option.mem_some_iff.mp he']
    exact hextends
  · intro id hne
    have hne' : finalName id ≠ finalName j.journalId := fun hsame => hne (finalName_inj.mp hsame)
    rw [AList.lookup_insert_ne hne', AList.lookup_insert_ne (hother id),
      AList.lookup_insert_ne (hother id)]
  · intro e' he'
    rw [hlast] at he'
    obtain rfl := Option.mem_some_iff.mp he'
    refine ⟨stagingName j.journalId pid sequence, old, .inl ⟨pid, sequence, by rw [hid]⟩, ?_, hbytes⟩
    rw [AList.lookup_insert_ne (hother _).symm, AList.lookup_insert]
  · intro name file hname hlookup
    have hne : name ≠ stagingName j.journalId pid sequence := by
      rintro rfl
      rw [hnew] at hlookup
      cases hlookup
    rw [AList.lookup_insert_ne (hname _), AList.lookup_insert_ne hne, AList.lookup_insert_ne hne,
      hlookup]

theorem persistNew_commits (h : Represents L d) (j : OperationJournal) :
    Leads d (persistNew fromSlice j : StoreProc μ _) (fun _ d' => Represents (L.push j) d')
      (Between L j) := by
  unfold persistNew
  have hbefore : Between L j d := .inl h
  refine (Sees.lifted _).andThen hbefore fun _ hvalid => ?_
  refine (check_sees _).andThen hbefore fun _ _ => (check_sees _).andThen hbefore fun _ _ => ?_
  refine (Sees.lifted _).andThen hbefore fun bytes hbytes => ?_
  refine (Sees.lifted _).andThen hbefore fun final hfinal => ?_
  refine (tempPath_sees _).andThen hbefore fun temp htemp => ?_
  rw [serializeJournal_ok hbytes, pathFor_ok hfinal]
  refine (writeStagedFile_leads temp _ hbefore fun hnew node =>
    .inl (staged_represents h htemp hnew node)).bind ?_
  rintro node d' ⟨hnew, rfl, hnode⟩
  have hstaged : Between L j (d.insert temp node) := .inl (staged_represents h htemp hnew node)
  refine (fstat_sees _ _).andThen hstaged fun created _ => ?_
  refine (requireTrusted_sees _ _ _).andThen hstaged fun _ _ => ?_
  refine (check_sees _).andThen hstaged fun _ _ => (check_sees _).andThen hstaged fun _ _ => ?_
  have hpublish : Leads (d.insert temp node)
      (publishNew temp (finalName j.journalId) : StoreProc μ _)
      (fun _ d' => Represents (L.push j) d') (Between L j) := by
    refine Leads.publishNew (AList.lookup_insert d) hstaged fun hfree => ?_
    exact h.publish (validateJournal_eq_ok_iff.mp hvalid) htemp hnew hfree hnode
  refine hpublish.mapError.bind fun _ d' hd' => ?_
  have hafter : Between L j d' := .inr hd'
  refine (loadPinnedJournal_sees _ _ _).andThen hafter fun loaded _ => ?_
  refine (fstat_sees _ _).andThen hafter fun _ _ => (Sees.lifted _).andThen hafter fun _ _ => ?_
  exact (check_sees _).andThen hafter fun _ _ => (check_sees _).mono (fun _ _ h => by
    rw [h.1]
    exact hd') fun _ h => by
    rw [h]
    exact hafter

/-- What the final name shows is the last committed record. -/
theorem Represents.current {e : OperationJournal} {id : String} {file : Node}
    (faithful : Faithful fromSlice) (h : Represents L d)
    (hlookup : d.lookup (finalName id) = some file)
    (hdecoded : decodeJournal fromSlice file.bytes id = .ok e) : (L id).head? = some e := by
  have hfinal := h.final id
  rw [hlookup, Option.map_some] at hfinal
  obtain ⟨last, hlast, hbytes⟩ := Option.map_eq_some_iff.mp hfinal.symm
  obtain ⟨hvalid, hid⟩ := h.valid id last (List.mem_of_mem_head? hlast)
  have hread := decodeJournal_encodeJournal hvalid (faithful last)
  rw [hbytes, hid, hdecoded] at hread
  rw [hlast, Except.ok.inj hread]

omit [Fingerprint] in
theorem exchangeStaged_leads {final temp : OsString} {node old : Node}
    (htemp : d.lookup temp = some node) (hfinal : d.lookup final = some old) (hR : R d)
    (hR' : R ((d.insert temp old).insert final node)) :
    Leads d (exchangeStaged final temp old : StoreProc μ _)
      (fun _ d' => d' = (d.insert temp old).insert final node) R := by
  unfold exchangeStaged
  refine (check_sees _).andThen hR fun _ _ => (check_sees _).andThen hR fun _ _ => ?_
  refine (check_sees _).andThen hR fun _ _ => (check_sees _).andThen hR fun _ _ => ?_
  refine (fstat_sees _ _).andThen hR fun _ _ => (reopen_sees _).andThen hR fun _ _ => ?_
  refine (Sees.lifted _).andThen hR fun _ _ => ?_
  have hexchange : Leads d (onDir (storeFault none) (.exchange temp final) : StoreProc μ _)
      (fun _ d' => d' = (d.insert temp old).insert final node) R :=
    Leads.exchange htemp hfinal hR rfl
  refine hexchange.bind ?_
  rintro _ d' rfl
  refine (check_sees _).mono (fun _ _ h => h.1) fun d' h => ?_
  rw [h]
  exact hR'

theorem requireExchanged_sees (expected journal : OperationJournal) (final temp : OsString)
    (old staged : Node) :
    Sees d (requireExchanged fromSlice expected journal final temp old staged : StoreProc μ _)
      fun _ => True := by
  unfold requireExchanged
  refine (loadPinnedJournal_sees _ _ _).bind fun _ _ => (fstat_sees _ _).bind fun _ _ => ?_
  refine (loadPinnedJournal_sees _ _ _).bind fun _ _ => (fstat_sees _ _).bind fun _ _ => ?_
  refine (Sees.lifted _).bind fun _ _ => (check_sees _).bind fun _ _ => ?_
  refine (check_sees _).bind fun _ _ => (reopen_sees _).bind fun _ _ => ?_
  refine (Sees.lifted _).bind fun _ _ => (requireTrusted_sees _ _ _).mapError.bind fun _ _ => ?_
  refine (reopen_sees _).bind fun _ _ => (Sees.lifted _).bind fun _ _ => ?_
  exact (requireTrusted_sees _ _ _).mapError.bind fun _ _ => check_sees _

theorem retainDisplaced_leads {e j : OperationJournal} {final temp : OsString} {old staged : Node}
    (h : Represents L d) (hid : e.journalId = j.journalId) (htemp : d.lookup temp = some old)
    (hbytes : old.bytes = encodeJournal e) (hother : ∀ id, temp ≠ finalName id) :
    Leads d (retainDisplaced fromSlice e j final temp old staged : StoreProc μ _)
      (fun _ d' => Represents L d') (Represents L) := by
  unfold retainDisplaced
  rw [← hid]
  have hpublish : Leads d
      (publishNew temp (historyName e.journalId e.events.length (journalContentDigest e)) :
        StoreProc μ _) (fun _ d' => Represents L d') (Represents L) :=
    Leads.publishNew htemp h fun hfree => h.retain htemp hbytes hother hfree
  refine hpublish.bind fun _ d' hd' => ?_
  refine (check_sees _).andThen hd' fun _ _ => (check_sees _).andThen hd' fun _ _ => ?_
  refine (loadPinnedJournal_sees _ _ _).andThen hd' fun _ _ => (fstat_sees _ _).andThen hd' fun _ _ => ?_
  refine (loadPinnedJournal_sees _ _ _).andThen hd' fun _ _ => (fstat_sees _ _).andThen hd' fun _ _ => ?_
  exact Leads.lift (fun _ _ => hd') hd'

theorem persistIfMatches_commits (faithful : Faithful fromSlice) (h : Represents L d)
    (e j : OperationJournal) :
    Leads d (persistIfMatches fromSlice e j : StoreProc μ _) (fun _ d' => Represents (L.push j) d')
      (Between L j) := by
  unfold persistIfMatches
  have hbefore : Between L j d := .inl h
  refine (Sees.lifted _).andThen hbefore fun _ _ => ?_
  refine (Sees.lifted _).andThen hbefore fun _ hvalid => ?_
  refine (Sees.lifted _).andThen hbefore fun _ hextends => ?_
  rw [refuse_eq_ok_iff, not_not] at hextends
  refine (check_sees _).andThen hbefore fun _ _ => ?_
  refine (Sees.lifted _).andThen hbefore fun final hfinal => ?_
  rw [pathFor_ok hfinal]
  refine (tempPath_sees _).andThen hbefore fun temp htemp => ?_
  refine (loadPinnedJournal_sees _ _ _).andThen hbefore fun loaded hloaded => ?_
  obtain ⟨current, old⟩ := loaded
  obtain ⟨hold, -, hdecoded⟩ := hloaded
  refine (Sees.lifted _).andThen hbefore fun _ hsame => ?_
  rw [refuse_eq_ok_iff, not_not] at hsame
  have hlast := h.current faithful hold hdecoded
  rw [hsame] at hlast
  refine (Sees.lifted _).andThen hbefore fun bytes hbytes => ?_
  rw [serializeJournal_ok hbytes]
  refine (writeStagedFile_leads temp _ hbefore fun hnew node =>
    .inl (staged_represents h htemp hnew node)).bind ?_
  rintro node d' ⟨hnew, rfl, hnode⟩
  have hstaged : Between L j (d.insert temp node) := .inl (staged_represents h htemp hnew node)
  refine (fstat_sees _ _).andThen hstaged fun stagedMetadata _ => ?_
  refine (requireTrusted_sees _ _ _).andThen hstaged fun _ _ => ?_
  have hother : ∀ id, temp ≠ finalName id := by
    obtain ⟨pid, sequence, rfl⟩ := htemp
    exact fun id => stagingName_ne_finalName _ _ _ _
  have hdone := h.exchange (validateJournal_eq_ok_iff.mp hvalid) hextends htemp hnew hlast hold hnode
  have holdStaged : (d.insert temp node).lookup (finalName j.journalId) = some old := by
    rw [AList.lookup_insert_ne (hother _).symm, hold]
  refine (exchangeStaged_leads (AList.lookup_insert d) holdStaged hstaged (.inr hdone)).bind ?_
  rintro _ d' rfl
  have hafter : Between L j (((d.insert temp node).insert temp old).insert
      (finalName j.journalId) node) := .inr hdone
  refine (requireExchanged_sees _ _ _ _ _ _).andThen hafter fun _ _ => ?_
  have hbytes : old.bytes = encodeJournal e := by
    have hfinal := h.final j.journalId
    rw [hold, hlast] at hfinal
    exact Option.some.inj hfinal
  have hid : e.journalId = j.journalId := (h.valid _ e (List.mem_of_mem_head? hlast)).2
  have hlookup : (((d.insert temp node).insert temp old).insert (finalName j.journalId) node).lookup
      temp = some old := by
    rw [AList.lookup_insert_ne (hother _), AList.lookup_insert]
  exact (retainDisplaced_leads hdone hid hlookup hbytes hother).mono (fun _ _ h => h) fun _ => .inr

end Writing

end StorageManager.Executor.JournalStore
