import StorageManager.Executor.JournalLedger

/-!
# The journal store across crashes

Calls of the two writers follow one another, each refused or lost anywhere. The ledger
only grows, by the records of the calls, and `all` returns its last records or fails.
-/

namespace StorageManager.Executor.JournalStore

open Lib.Checks
open Lib.Directory
open Lib.Effects
open Planner.ExecutionGuard

set_option autoImplicit false

section Reading

/-- The names that `all` takes for current records. -/
def isPrimaryName (name : OsString) : Bool :=
  match name.toStr? with
  | none => false
  | some text => (historyIdentity text).isNone && (stripSuffix ".json" text).isSome

theorem isPrimaryName_finalName {id : String} (hid : isLowerHexDigest id = true) :
    isPrimaryName (finalName id) = true := by
  show ((historyIdentity (id ++ ".json")).isNone && (stripSuffix ".json" (id ++ ".json")).isSome) = true
  rw [historyIdentity_finalName hid, stripSuffix_eq_some_iff.mpr rfl]
  rfl

variable {μ : Type} {d : Dir} [Fingerprint] {fromSlice : FromSlice}

/-- The file under the final name of a journal holds it. -/
def Shown (fromSlice : FromSlice) (d : Dir) (j : OperationJournal) : Prop :=
  ∃ node, d.lookup (finalName j.journalId) = some node ∧
    decodeJournal fromSlice node.bytes j.journalId = .ok j

/-- The journals that were read are those of the names so far. -/
def ReadFrom (fromSlice : FromSlice) (d : Dir) (names : List OsString)
    (js : List OperationJournal) : Prop :=
  js.map (fun j => finalName j.journalId) = names.filter isPrimaryName ∧
    ∀ j ∈ js, Shown fromSlice d j

theorem readEntry_sees (name : OsString) (read : Inventory) :
    Sees d (readEntry fromSlice name read : StoreProc μ _) fun read' =>
      ∃ js, read'.journals = read.journals ++ js ∧ ReadFrom fromSlice d [name] js := by
  unfold readEntry
  cases hname : name with
  | raw bytes => exact .throw
  | text value =>
    unfold OsString.toStr?
    dsimp only
    cases hhistory : historyIdentity value with
    | some identity =>
      dsimp only
      refine (loadPinnedJournal_sees _ _ _).bind fun loaded _ => ?_
      refine (Sees.lifted _).bind fun _ _ => .pure ⟨[], (List.append_nil _).symm, ?_, ?_⟩
      · simp [isPrimaryName, OsString.toStr?, hhistory]
      · intro j hj
        cases hj
    | none =>
      dsimp only
      cases hsuffix : stripSuffix ".json" value with
      | none => exact .throw
      | some id =>
        dsimp only
        refine (loadPinnedJournal_sees _ _ _).bind fun loaded hloaded => ?_
        obtain ⟨hlookup, -, hdecoded⟩ := hloaded
        have hid := (decodeJournal_ok hdecoded).2
        have hvalue := stripSuffix_eq_some_iff.mp hsuffix
        refine .pure ⟨[loaded.1], rfl, ?_, ?_⟩
        · have hprimary : isPrimaryName (.text value) = true := by
            simp [isPrimaryName, OsString.toStr?, hhistory, hsuffix]
          rw [List.filter_cons_of_pos hprimary, List.filter_nil, List.map_singleton, hid, hvalue]
          rfl
        · intro j hj
          rw [List.mem_singleton.mp hj]
          refine ⟨loaded.2, ?_, ?_⟩
          · rw [hid]
            rw [hvalue] at hlookup
            exact hlookup
          · rw [hid]
            exact hdecoded

theorem readEntries_sees (names : List OsString) (read : Inventory) :
    Sees d (readEntries fromSlice names read : StoreProc μ _) fun read' =>
      ∃ js, read'.journals = read.journals ++ js ∧ ReadFrom fromSlice d names js := by
  induction names generalizing read with
  | nil =>
    refine Sees.pure ⟨[], (List.append_nil _).symm, rfl, ?_⟩
    intro j hj
    cases hj
  | cons name names ih =>
    refine (readEntry_sees name read).bind fun read₁ h₁ => (ih read₁).imp fun read₂ h₂ => ?_
    obtain ⟨js, hjs, hname, hshown⟩ := h₁
    obtain ⟨ks, hks, hnames, hshown'⟩ := h₂
    refine ⟨js ++ ks, by rw [hks, hjs, List.append_assoc], ?_, ?_⟩
    · rw [List.map_append, hname, hnames, ← List.filter_append]
      rfl
    · exact List.forall_mem_append.mpr ⟨hshown, hshown'⟩

omit [Fingerprint] in
theorem requireUnmoved_sees (pinned : List (OsString × Node)) :
    Sees d (requireUnmoved pinned : StoreProc μ _) fun _ => True := by
  induction pinned with
  | nil => exact .pure trivial
  | cons p pinned ih =>
    exact (fstat_sees _ _).bind fun _ _ => (reopen_sees _).bind fun _ _ =>
      (Sees.lifted _).bind fun _ _ => ih

omit [Fingerprint] in
theorem requireStatic_sees (names' : List OsString) (pinned : List (OsString × Node)) :
    Sees d (requireStatic names' pinned : StoreProc μ _) fun _ => True :=
  names_sees.bind fun _ _ => (Sees.lifted _).bind fun _ _ => (requireUnmoved_sees pinned).bind
    fun _ _ => (check_sees _).bind fun _ _ => check_sees _

theorem all_sees : Sees d (all fromSlice : StoreProc μ _) fun js =>
    ∃ ks, js = sortJournals ks ∧ ReadFrom fromSlice d (DirOp.sortNames d.keys) ks := by
  unfold all
  refine (check_sees _).bind fun _ _ => (check_sees _).bind fun _ _ => ?_
  refine names_sees.bind fun initialNames hnames => ?_
  rw [hnames]
  refine (readEntries_sees _ _).bind fun read hread => ?_
  refine (requireStatic_sees _ _).bind fun _ _ => (Sees.lifted _).bind fun _ _ => ?_
  obtain ⟨ks, hks, hfrom⟩ := hread
  exact .pure ⟨ks, by rw [hks]; rfl, hfrom⟩

/-- A final name holds the journal of its id, so no id is read twice. -/
theorem ReadFrom.distinct {ks : List OperationJournal}
    (h : ReadFrom fromSlice d (DirOp.sortNames d.keys) ks) :
    (ks.map (·.journalId)).Nodup := by
  have hsorted : (DirOp.sortNames d.keys).Nodup :=
    (List.mergeSort_perm _ _).nodup_iff.mpr d.keys_nodup
  have hfiltered := hsorted.filter isPrimaryName
  rw [← h.1] at hfiltered
  refine List.Nodup.of_map finalName ?_
  rw [List.map_map]
  exact hfiltered

/-- The journals of a ledger, each once and in the order of their ids. -/
def IsLast (L : Ledger) (js : List OperationJournal) : Prop :=
  (∀ j, j ∈ js ↔ ∃ id, (L id).head? = some j) ∧ js.Pairwise fun a b => a.journalId < b.journalId

/-- What is read from a directory that represents a ledger are its last records. -/
theorem Represents.isLast {L : Ledger} {ks : List OperationJournal} (faithful : Faithful fromSlice)
    (h : Represents L d) (hread : ReadFrom fromSlice d (DirOp.sortNames d.keys) ks) :
    IsLast L (sortJournals ks) := by
  have hnodup := hread.distinct
  obtain ⟨hnames, hshown⟩ := hread
  have hlast : ∀ j ∈ ks, (L j.journalId).head? = some j := by
    intro j hj
    obtain ⟨node, hlookup, hdecoded⟩ := hshown j hj
    exact h.current faithful hlookup hdecoded
  constructor
  · intro j
    rw [(sortJournals_perm ks).mem_iff]
    constructor
    · exact fun hj => ⟨j.journalId, hlast j hj⟩
    · rintro ⟨id, hid⟩
      obtain ⟨hvalid, rfl⟩ := h.valid id j (List.mem_of_mem_head? hid)
      have hfinal := h.final j.journalId
      rw [hid, Option.map_some] at hfinal
      obtain ⟨node, hlookup, -⟩ := Option.map_eq_some_iff.mp hfinal
      have hmem : finalName j.journalId ∈ DirOp.sortNames d.keys := by
        rw [DirOp.sortNames, List.mem_mergeSort]
        exact AList.lookup_isSome.mp (by rw [hlookup]; rfl)
      have hread := List.mem_filter.mpr ⟨hmem, isPrimaryName_finalName hvalid.journalId⟩
      rw [← hnames] at hread
      obtain ⟨k, hk, hsame⟩ := List.mem_map.mp hread
      have hlastk := hlast k hk
      rw [finalName_inj.mp hsame, hid] at hlastk
      rw [Option.some.inj hlastk]
      exact hk
  · refine ((sortJournals_sorted ks).and ?_).imp fun h => lt_of_le_of_ne h.1 h.2
    refine ((sortJournals_perm ks).pairwise_iff fun h => h.symm).mpr ?_
    exact List.pairwise_map.mp hnodup

/-- `all` returns the last records of the ledger, or fails. -/
theorem all_sees_last {L : Ledger} (faithful : Faithful fromSlice) (h : Represents L d) :
    Sees d (all fromSlice : StoreProc μ _) (IsLast L) :=
  all_sees.imp fun js hjs => by
    obtain ⟨ks, rfl, hread⟩ := hjs
    exact h.isLast faithful hread

end Reading

section Histories

variable [Fingerprint] (fromSlice : FromSlice)

/-- The calls that write. -/
inductive StoreCall where
  | persistNew (journal : OperationJournal)
  | persistIfMatches (expected journal : OperationJournal)

def StoreCall.record : StoreCall → OperationJournal
  | .persistNew journal => journal
  | .persistIfMatches _ journal => journal

def StoreCall.proc : StoreCall → StoreProc Unit Unit
  | .persistNew journal => JournalStore.persistNew fromSlice journal
  | .persistIfMatches expected journal => JournalStore.persistIfMatches fromSlice expected journal

/-- A call to its end, or until it is lost. -/
def StoreCall.run (call : StoreCall) (script : Script (interface storeEnv))
    (s : St (interface storeEnv)) :
    Option (Except JournalStoreError Unit × Unit) × St (interface storeEnv) :=
  (call.proc fromSlice ()).run script s

/-- The ledger after a list of calls: one that returned has committed its record, one that
failed or was lost may have. -/
inductive Commits : St (interface storeEnv) → Ledger →
    List (StoreCall × Script (interface storeEnv)) → Ledger → St (interface storeEnv) → Prop
  | nil (s : St (interface storeEnv)) (L : Ledger) : Commits s L [] L s
  | committed {s t : St (interface storeEnv)} {L L' : Ledger} {call : StoreCall}
      {script : Script (interface storeEnv)} {rest : List (StoreCall × Script (interface storeEnv))} :
      Commits (call.run fromSlice script s).2 (L.push call.record) rest L' t →
      Commits s L ((call, script) :: rest) L' t
  | unchanged {s t : St (interface storeEnv)} {L L' : Ledger} {call : StoreCall}
      {script : Script (interface storeEnv)} {rest : List (StoreCall × Script (interface storeEnv))} :
      (call.run fromSlice script s).1 ≠ some (.ok (), ()) →
      Commits (call.run fromSlice script s).2 L rest L' t → Commits s L ((call, script) :: rest) L' t

variable {fromSlice} {L : Ledger}

theorem call_commits {d : Dir} (faithful : Faithful fromSlice) (h : Represents L d)
    (call : StoreCall) :
    Leads d (call.proc fromSlice) (fun _ d' => Represents (L.push call.record) d')
      (Between L call.record) := by
  cases call with
  | persistNew journal => exact persistNew_commits h journal
  | persistIfMatches expected journal => exact persistIfMatches_commits faithful h expected journal

/-- One call from a directory that represents a ledger. -/
theorem run_commits (faithful : Faithful fromSlice) {s : St (interface storeEnv)}
    (h : Represents L s.world) (call : StoreCall) (script : Script (interface storeEnv)) :
    Represents (L.push call.record) (call.run fromSlice script s).2.world ∨
      (call.run fromSlice script s).1 ≠ some (.ok (), ()) ∧
        Represents L (call.run fromSlice script s).2.world := by
  have hholds := Calls.wp_sound ((call_commits faithful h call).holds () s rfl) script
  revert hholds
  unfold StoreCall.run
  generalize (call.proc fromSlice ()).run script s = r
  intro hholds
  obtain ⟨_ | ⟨_ | _, m⟩, t⟩ := r
  · rcases hholds with hbefore | hafter
    · exact .inr ⟨by simp, hbefore⟩
    · exact .inl hafter
  · rcases hholds.2 with hbefore | hafter
    · exact .inr ⟨by simp, hbefore⟩
    · exact .inl hafter
  · exact .inl hholds.2

omit [Fingerprint] in
theorem Ledger.suffix_push (L : Ledger) (j : OperationJournal) (id : String) :
    L id <:+ L.push j id := by
  by_cases hid : id = j.journalId
  · rw [hid, Ledger.push, Function.update_self]
    exact List.suffix_cons _ _
  · rw [Ledger.push, Function.update_of_ne hid]

end Histories

end StorageManager.Executor.JournalStore
