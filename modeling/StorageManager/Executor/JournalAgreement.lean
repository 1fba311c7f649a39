import StorageManager.Executor.JournalEncoding
import StorageManager.Executor.JournalInventory

/-!
# The strict and the diagnostic reader agree

On a directory that nobody changes, `all` returns the journals if and only if `inspect`
finds nothing to report, and then `inspect` lists those of them that are not finished.
-/

namespace StorageManager.Executor.JournalStore

open Lib.Checks
open Lib.Directory
open Lib.Effects
open Planner.ExecutionGuard

set_option autoImplicit false

section History

variable {journals history : List OperationJournal}

theorem historyMatchesFinal_id {previous current : OperationJournal}
    (h : historyMatchesFinal previous current = true) : previous.journalId = current.journalId := by
  unfold historyMatchesFinal at h
  simp only [Bool.and_eq_true] at h
  exact beq_iff_eq.mp h.1.1.1.1.1.1.1

/-- With one journal for each id it is enough that a history record matches any of them. -/
theorem checkHistory_eq_ok_iff (hids : (journals.map (·.journalId)).Nodup) :
    checkHistory journals history = .ok () ↔
      ∀ previous ∈ history, journals.any (historyMatchesFinal previous) = true := by
  induction history with
  | nil => simp [checkHistory]
  | cons previous history ih =>
    rw [checkHistory, List.forall_mem_cons]
    cases hfind : journals.find? (·.journalId == previous.journalId) with
    | none =>
      refine iff_of_false (fun h => by cases h) ?_
      rintro ⟨hany, -⟩
      obtain ⟨current, hmem, hmatch⟩ := List.any_eq_true.mp hany
      have hother := List.find?_eq_none.mp hfind current hmem
      exact hother (beq_iff_eq.mpr (historyMatchesFinal_id hmatch).symm)
    | some current =>
      have hcurrent : current.journalId = previous.journalId :=
        beq_iff_eq.mp (by simpa using List.find?_some hfind)
      have hmem : current ∈ journals := List.mem_of_find?_eq_some hfind
      have hmatch : journals.any (historyMatchesFinal previous) = true ↔
          historyMatchesFinal previous current = true := by
        constructor
        · intro hany
          obtain ⟨other, hother, hmatch⟩ := List.any_eq_true.mp hany
          have hsame : other = current := List.inj_on_of_nodup_map hids hother hmem
            ((historyMatchesFinal_id hmatch).symm.trans hcurrent.symm)
          rw [← hsame]
          exact hmatch
        · exact fun hmatch => List.any_eq_true.mpr ⟨current, hmem, hmatch⟩
      rw [hmatch, ← ih]
      exact check_eq_ok_iff.trans (and_congr (refuse_eq_ok_iff.trans not_not) Iff.rfl)

/-- Sorting and selecting journals of different ids can be done in any order. -/
theorem sortJournals_filter (p : OperationJournal → Bool)
    (hids : (journals.map (·.journalId)).Nodup) :
    sortJournals (journals.filter p) = (sortJournals journals).filter p := by
  refine List.Perm.eq_of_pairwise ?_ (sortJournals_sorted _) ((sortJournals_sorted _).filter p)
    ((sortJournals_perm _).trans ((sortJournals_perm journals).filter p).symm)
  intro a b ha hb hab hba
  have hmem : a ∈ journals := (List.mem_filter.mp ((sortJournals_perm _).mem_iff.mp ha)).1
  have hmem' : b ∈ journals := (sortJournals_perm journals).mem_iff.mp (List.mem_filter.mp hb).1
  exact List.inj_on_of_nodup_map hids hmem hmem' (le_antisymm hab hba)

end History

section Agreement

variable [Fingerprint] {fromSlice : FromSlice} {euid : Nat} {d : Dir}
  {entries : List (OsString × Entry)}

/-- A final name holds the journal of that name, so no two of them hold journals of one id. -/
theorem primaries_nodup
    (hentries : entriesStatic fromSlice euid d (DirOp.sortNames d.keys) = .ok entries) :
    ((primariesOf entries).map (·.journalId)).Nodup := by
  obtain ⟨hnames, hall⟩ := entriesStatic_ok hentries
  have hnodup : (entries.map Prod.fst).Nodup := by
    rw [hnames]
    exact (List.mergeSort_perm _ _).nodup_iff.mpr d.keys_nodup
  have hsub : ((primariesOf entries).map fun j => finalName j.journalId).Sublist
      (entries.map Prod.fst) := by
    clear hnames hnodup hentries
    induction entries with
    | nil => exact List.Sublist.refl _
    | cons entry entries ih =>
      obtain ⟨hentry, hrest⟩ := List.forall_mem_cons.mp hall
      obtain ⟨name, found⟩ := entry
      cases found with
      | primary journal node =>
        obtain ⟨-, -, -, hname⟩ := entryStatic_ok hentry
        dsimp only at hname
        rw [List.map_cons, hname journal node rfl]
        exact (ih hrest).cons_cons _
      | history journal node => exact (ih hrest).cons _
  have hfinal := hnodup.sublist hsub
  refine List.Nodup.of_map finalName ?_
  rw [List.map_map]
  exact hfinal

variable {μ : Type} {made : Node} {answers : (op : StoreOp) → storeEnv.Ans op}

/-- Where `all` accepts every name, `inspect` reports the history records without a current
record and nothing else. -/
theorem inspect_accepts
    (hentries : entriesStatic fromSlice (answers .geteuid) d (DirOp.sortNames d.keys)
      = .ok entries) :
    Shows (granted made answers) d (inspect fromSlice : StoreProc μ _)
      (.ok
        { unfinished := sortJournals ((primariesOf entries).filter isUnfinished)
          unclassified := (orphans (primariesOf entries) (historyOf entries)).mergeSort
            fun a b => decide (a.path.bytes ≤ b.path.bytes) }) := by
  have hread : Shows (granted made answers) d
      (inspectEntries fromSlice (DirOp.sortNames d.keys) ⟨⟨[], []⟩, [], [], []⟩ : StoreProc μ _)
      (.ok ⟨⟨(primariesOf entries).filter isUnfinished, []⟩, pinnedOf entries,
        primariesOf entries, historyOf entries⟩) := by
    obtain ⟨r, hr, -, hok, -⟩ := inspectEntries_shows (DirOp.sortNames d.keys) ⟨⟨[], []⟩, [], [], []⟩
    refine hr.of_eq ?_
    rw [hok entries hentries, foldl_push_findings]
    rfl
  refine (check_shows _).step ((check_shows _).step (names_shows.step (hread.step ?_)))
  exact (requireStatic_shows _ (pinned_open hentries)).step (.pure _)

/-- Where `all` stops, `inspect` has something to report, if it does not stop itself. -/
theorem inspect_reports {e : JournalStoreError}
    (hentries : entriesStatic fromSlice (answers .geteuid) d (DirOp.sortNames d.keys)
      = .error e) :
    ∃ r, Shows (granted made answers) d (inspect fromSlice : StoreProc μ _) r ∧
      ∀ i, r = .ok i → i.unclassified ≠ [] := by
  obtain ⟨r, hread, -, -, herror⟩ : ∃ r, Shows (granted made answers) d
      (inspectEntries fromSlice (DirOp.sortNames d.keys) ⟨⟨[], []⟩, [], [], []⟩ : StoreProc μ _) r ∧
      _ := inspectEntries_shows _ _
  have hentered : ∀ {r' : Except JournalStoreError JournalInspection},
      Shows (granted made answers) d (do
        let f ← inspectEntries fromSlice (DirOp.sortNames d.keys) ⟨⟨[], []⟩, [], [], []⟩
        requireStatic (DirOp.sortNames d.keys) f.pinned
        let unclassified := f.result.unclassified ++ orphans f.primaries f.history
        pure { unfinished := sortJournals f.result.unfinished
               unclassified := unclassified.mergeSort
                 fun a b => decide (a.path.bytes ≤ b.path.bytes) } : StoreProc μ _) r' →
      Shows (granted made answers) d (inspect fromSlice : StoreProc μ _) r' := fun h =>
    (check_shows _).step ((check_shows _).step (names_shows.step h))
  cases r with
  | error e' => exact ⟨_, hentered hread.bind_error, fun i hi => by cases hi⟩
  | ok f =>
    have hreported := herror e hentries f rfl
    obtain ⟨r, hstatic⟩ : ∃ r, Shows (granted made answers) d
        (requireStatic (DirOp.sortNames d.keys) f.pinned : StoreProc μ _) r :=
      requireStatic_ends _ _
    cases r with
    | error e' => exact ⟨_, hentered (hread.step hstatic.bind_error), fun i hi => by cases hi⟩
    | ok u =>
      refine ⟨_, hentered (hread.step (hstatic.step (.pure _))), ?_⟩
      rintro i ⟨⟩ hnone
      have hlength := congrArg List.length hnone
      rw [List.length_mergeSort, List.length_append] at hlength
      have hpos := List.length_pos_of_ne_nil hreported
      rw [List.length_nil] at hlength
      omega

omit [Fingerprint] in
/-- The history records that `inspect` reports are those that `all` refuses. -/
theorem orphans_eq_nil_iff {primaries : List OperationJournal}
    {history : List (OsString × OperationJournal × (Nat × Nat))} :
    orphans primaries history = [] ↔
      ∀ previous ∈ history.map (·.2.1), primaries.any (historyMatchesFinal previous) = true := by
  unfold orphans
  rw [List.map_eq_nil_iff, List.filter_eq_nil_iff, List.forall_mem_map]
  simp only [Bool.not_eq_true', Bool.not_eq_false]

omit [Fingerprint] in
theorem isUnfinished_iff {j : OperationJournal} :
    isUnfinished j = true ↔ j.resumeDisposition ≠ .complete ∧ j.phase ≠ .aborted := by
  unfold isUnfinished OperationJournal.resumeDisposition
  cases j.phase <;> decide

/-- The two readers agree, and `inspect` lists the journals that are neither complete nor
aborted. -/
theorem all_agrees_with_inspect (fromSlice : FromSlice) (made : Node)
    (answers : (op : StoreOp) → storeEnv.Ans op) (m : μ) (s : St (interface storeEnv)) :
    ((∃ js, Proc.Returns (granted made answers) (all fromSlice) m s js) ↔
      ∃ i, Proc.Returns (granted made answers) (inspect fromSlice) m s i ∧ i.unclassified = []) ∧
    ∀ js i, Proc.Returns (granted made answers) (all fromSlice) m s js →
      Proc.Returns (granted made answers) (inspect fromSlice) m s i →
      i.unfinished = js.filter fun j =>
        decide (j.resumeDisposition ≠ .complete ∧ j.phase ≠ .aborted) := by
  cases hentries : entriesStatic fromSlice (answers .geteuid) s.world
      (DirOp.sortNames s.world.keys) with
  | error e =>
    have hstops : ∀ js, ¬Proc.Returns (granted made answers) (all fromSlice) m s js := by
      intro js hjs
      have hresult := (all_shows.returns_iff rfl).mp hjs
      rw [hentries] at hresult
      cases hresult
    obtain ⟨r, hinspect, hreported⟩ : ∃ r, Shows (granted made answers) s.world
        (inspect fromSlice : StoreProc μ _) r ∧ _ := inspect_reports hentries
    refine ⟨iff_of_false ?_ ?_, fun js i hjs => absurd hjs (hstops js)⟩
    · rintro ⟨js, hjs⟩
      exact hstops js hjs
    · rintro ⟨i, hi, hnone⟩
      exact hreported i ((hinspect.returns_iff rfl).mp hi) hnone
  | ok entries =>
    have hids := primaries_nodup hentries
    have hall : ∀ js, Proc.Returns (granted made answers) (all fromSlice) m s js ↔
        checkHistory (primariesOf entries) ((historyOf entries).map (·.2.1)) = .ok () ∧
          sortJournals (primariesOf entries) = js := by
      intro js
      rw [all_shows.returns_iff rfl, hentries]
      exact check_eq_ok_iff.trans (and_congr Iff.rfl (by rw [Except.ok.injEq]))
    have hshows : Shows (granted made answers) s.world (inspect fromSlice : StoreProc μ _) _ :=
      inspect_accepts hentries
    have hinspect := fun i => hshows.returns_iff (m := m) (s := s) (a := i) rfl
    have hreported : ∀ i, Proc.Returns (granted made answers) (inspect fromSlice) m s i →
        (i.unclassified = [] ↔ orphans (primariesOf entries) (historyOf entries) = []) := by
      intro i hi
      obtain rfl := Except.ok.inj ((hinspect i).mp hi)
      rw [← List.length_eq_zero_iff, List.length_mergeSort, List.length_eq_zero_iff]
    have hagree : checkHistory (primariesOf entries) ((historyOf entries).map (·.2.1)) = .ok () ↔
        orphans (primariesOf entries) (historyOf entries) = [] :=
      (checkHistory_eq_ok_iff hids).trans orphans_eq_nil_iff.symm
    refine ⟨⟨?_, ?_⟩, ?_⟩
    · rintro ⟨js, hjs⟩
      have hi := (hinspect _).mpr rfl
      exact ⟨_, hi, (hreported _ hi).mpr (hagree.mp ((hall js).mp hjs).1)⟩
    · rintro ⟨i, hi, hnone⟩
      exact ⟨_, (hall _).mpr ⟨hagree.mpr ((hreported i hi).mp hnone), rfl⟩⟩
    · intro js i hjs hi
      obtain rfl := Except.ok.inj ((hinspect i).mp hi)
      obtain ⟨-, rfl⟩ := (hall js).mp hjs
      show sortJournals ((primariesOf entries).filter isUnfinished) = _
      rw [sortJournals_filter isUnfinished hids]
      refine congrArg (fun p => List.filter p _) (funext fun j => ?_)
      rw [Bool.eq_iff_iff, isUnfinished_iff, decide_eq_true_iff]

end Agreement

section Sample

/-- A journal that was never approved. -/
def draftJournal (id : String) (phase : JournalPhase) (events : List JournalEvent) :
    OperationJournal where
  schemaVersion := 1
  journalId := id
  planId := id
  target := "/dev/sda1"
  baselineManifestDigest := id
  phase := phase
  mutationMayHaveStarted := false
  approval := none
  execution := none
  verifiedBoundary := none
  events := events

/-- A file of root that holds a journal. -/
def journalFile (ino : Nat) (journal : OperationJournal) : Node where
  regular := true
  dev := 1
  ino := ino
  uid := 0
  mode := 0o100600
  nlink := 1
  stamp := 0
  bytes := encodeJournal journal

theorem readStatic_journalFile [Fingerprint] {fromSlice : FromSlice} {d : Dir} {ino : Nat}
    {j : OperationJournal} (faithful : Faithful fromSlice) (valid : ValidRecord j)
    (hsize : (encodeJournal j).length ≤ maxJournalBytes)
    (hlookup : d.lookup (finalName j.journalId) = some (journalFile ino j)) :
    readStatic fromSlice 0 d (finalName j.journalId) j.journalId 1 =
      .ok (j, journalFile ino j) :=
  readStatic_eq_ok_iff.mpr ⟨valid.journalId, hlookup, rfl, by simp [trustedJournalFile, journalFile],
    hsize, decodeJournal_encodeJournal valid (faithful j)⟩

def planned : OperationJournal :=
  draftJournal "0000000000000000000000000000000000000000000000000000000000000000" .planned []

def aborted : OperationJournal :=
  draftJournal "1111111111111111111111111111111111111111111111111111111111111111" .aborted
    [⟨1, .planned, .aborted, "aborted-before-mutation", "operation aborted before mutation"⟩]

theorem draftJournal_valid [Fingerprint] {id : String} {phase : JournalPhase}
    {events : List JournalEvent} (hid : isSha256Hex id = true)
    (hevents : validateEvents .planned 0 events = .ok phase) (hphase : ¬Started phase)
    (happroval : events.findIdx? isApprovalEvent = none)
    (hexecution : events.findIdx? isExecutionEvent = none)
    (hcode : events.any (fun e => e.code == "verification-passed-continue") = false) :
    ValidRecord (draftJournal id phase events) where
  schema := rfl
  journalId := hid
  planId := hid
  baseline := hid
  target := by
    show ¬("/dev/sda1" = "" ∨ "/dev/sda1".toList.any isControl)
    decide
  events := hevents
  flag := iff_of_false Bool.false_ne_true hphase
  approval := by
    unfold validateApprovalBinding
    simp only [draftJournal, happroval]
  execution := by
    unfold validateExecutionBinding
    simp only [draftJournal, hexecution]
  boundary := validateVerifiedBoundaryBinding_eq_ok_iff.mpr (.inl ⟨rfl, hcode⟩)

theorem planned_valid [Fingerprint] : ValidRecord planned :=
  draftJournal_valid (by decide) rfl (by decide) rfl rfl rfl

theorem aborted_valid [Fingerprint] : ValidRecord aborted :=
  draftJournal_valid (by decide) (by decide) (by decide) (by decide) (by decide) (by decide)

/-- The two journals under their final names. -/
def sampleDir : Dir :=
  (AList.singleton (finalName aborted.journalId) (journalFile 2 aborted)).insert
    (finalName planned.journalId) (journalFile 1 planned)

theorem sampleDir_names : DirOp.sortNames sampleDir.keys =
    [finalName planned.journalId, finalName aborted.journalId] := by
  have hkeys : sampleDir.keys = [finalName planned.journalId, finalName aborted.journalId] := by
    rfl
  rw [hkeys]
  refine List.mergeSort_of_pairwise (List.pairwise_pair.mpr (decide_eq_true ?_))
  decide

/-- The process of root. -/
def rootAnswers : (op : StoreOp) → storeEnv.Ans op
  | .geteuid => 0
  | .processId => 1
  | .nextSequence => 0
  | .unclassifiedRuntimeEvidence => .ok []

theorem encodeJournal_length_le (j : OperationJournal) :
    (encodeJournal j).length ≤ Lib.Json.byteBound (Lib.Json.toJson j) + 1 := by
  rw [encodeJournal, List.length_append]
  exact Nat.add_le_add_right (Lib.Json.toBytes_length_le _) 1

theorem sampleDir_entries [Fingerprint] :
    entriesStatic faithfulReader 0 sampleDir (DirOp.sortNames sampleDir.keys) =
      .ok [(finalName planned.journalId, .primary planned (journalFile 1 planned)),
        (finalName aborted.journalId, .primary aborted (journalFile 2 aborted))] := by
  have hplanned : readStatic faithfulReader 0 sampleDir (finalName planned.journalId)
      planned.journalId 1 = .ok (planned, journalFile 1 planned) :=
    readStatic_journalFile faithfulReader_faithful planned_valid
      ((encodeJournal_length_le _).trans (by decide)) rfl
  have haborted : readStatic faithfulReader 0 sampleDir (finalName aborted.journalId)
      aborted.journalId 1 = .ok (aborted, journalFile 2 aborted) :=
    readStatic_journalFile faithfulReader_faithful aborted_valid
      ((encodeJournal_length_le _).trans (by decide)) rfl
  rw [sampleDir_names, entriesStatic, entryStatic_finalName hplanned, entriesStatic,
    entryStatic_finalName haborted, entriesStatic]
  rfl

/-- Both journals have the same disposition, and `inspect` lists one of them: there is no
reading of the dispositions under which it lists what they say. -/
theorem unfinished_is_no_disposition :
    ∃ js i,
      Proc.Returns (granted (journalFile 1 planned) rootAnswers)
        (all faithfulReader : StoreProc Unit _) () ⟨sampleDir, []⟩ js ∧
      Proc.Returns (granted (journalFile 1 planned) rootAnswers)
        (inspect faithfulReader : StoreProc Unit _) () ⟨sampleDir, []⟩ i ∧
      i.unclassified = [] ∧
      ∀ unfinished : ResumeDisposition → Bool,
        i.unfinished ≠ js.filter fun j => unfinished j.resumeDisposition := by
  have hsorted : sortJournals [planned, aborted] = [planned, aborted] := by
    refine List.mergeSort_of_pairwise (List.pairwise_pair.mpr (decide_eq_true ?_))
    decide
  have hall : Shows (granted (journalFile 1 planned) rootAnswers) sampleDir
      (all faithfulReader : StoreProc Unit _) (.ok [planned, aborted]) := by
    refine all_shows.of_eq ?_
    show (entriesStatic faithfulReader 0 sampleDir _ >>= _) = _
    rw [sampleDir_entries, ← hsorted]
    rfl
  have hinspect : Shows (granted (journalFile 1 planned) rootAnswers) sampleDir
      (inspect faithfulReader : StoreProc Unit _) (.ok ⟨[planned], []⟩) := by
    refine (inspect_accepts sampleDir_entries).of_eq ?_
    show Except.ok (JournalInspection.mk (List.mergeSort [planned] _) (List.mergeSort [] _)) = _
    rw [List.mergeSort_singleton, List.mergeSort_nil]
  refine ⟨_, _, (hall.returns_iff rfl).mpr rfl, (hinspect.returns_iff rfl).mpr rfl, rfl, ?_⟩
  intro unfinished
  have hplanned : planned.resumeDisposition = .restartFromFreshPlan := rfl
  have haborted : aborted.resumeDisposition = .restartFromFreshPlan := rfl
  have hchosen : ([planned, aborted].filter fun j => unfinished j.resumeDisposition) =
      if unfinished .restartFromFreshPlan then [planned, aborted] else [] := by
    rw [List.filter_cons, List.filter_cons, List.filter_nil, hplanned, haborted]
    cases unfinished .restartFromFreshPlan <;> rfl
  rw [hchosen]
  intro hsame
  have hlength := congrArg List.length hsame
  cases hreading : unfinished .restartFromFreshPlan <;> rw [hreading] at hlength <;> cases hlength

end Sample

end StorageManager.Executor.JournalStore
