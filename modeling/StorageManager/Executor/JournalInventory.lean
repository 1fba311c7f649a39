import StorageManager.Executor.JournalAcceptance
import StorageManager.Executor.JournalNames

/-!
# The two readers of the journal directory

`all` stops at the first unusual entry, `inspect` reports every one of them. On a
directory that nobody changes they agree: an entry is read by both or refused by both,
and the history records are held against the same current records.
-/

namespace StorageManager.Executor.JournalStore

open Lib.Checks
open Lib.Directory
open Lib.Effects
open Planner.ExecutionGuard

set_option autoImplicit false

section Reading

variable [Fingerprint] (fromSlice : FromSlice) (euid : Nat) (d : Dir)

/-- Opening the regular file of a name. -/
def openStatic (name : OsString) : Except JournalStoreError Node := do
  let node ← (d.lookup name).elim (.error (.io (some name) .notFound)) .ok
  refuse (¬node.regular) (.notRegularFile name)
  .ok node

/-- What loading a name finds in a directory that nobody changes. -/
def readStatic (name : OsString) (journalId : String) (allowedLinks : Nat) :
    Except JournalStoreError (OperationJournal × Node) := do
  validateJournalId journalId
  let node ← (openStatic d name).mapError (openFault name journalId)
  refuse (¬trustedJournalFile node euid allowedLinks) (.notRegularFile name)
  refuse (maxJournalBytes < node.bytes.length) .tooLarge
  let journal ← decodeJournal fromSlice node.bytes journalId
  .ok (journal, node)

/-- What a name turns out to be. -/
inductive Entry where
  | primary (journal : OperationJournal) (node : Node)
  | history (journal : OperationJournal) (node : Node)

def Entry.node : Entry → Node
  | .primary _ node => node
  | .history _ node => node

def primariesOf (entries : List (OsString × Entry)) : List OperationJournal :=
  entries.filterMap fun e => match e.2 with
    | .primary journal _ => some journal
    | .history _ _ => none

def historyOf (entries : List (OsString × Entry)) :
    List (OsString × OperationJournal × (Nat × Nat)) :=
  entries.filterMap fun e => match e.2 with
    | .primary _ _ => none
    | .history journal node => some (e.1, journal, node.identity)

def pinnedOf (entries : List (OsString × Entry)) : List (OsString × Node) :=
  entries.map fun e => (e.1, e.2.node)

def historyStatic (name : OsString) (id : String) (sequence : Nat) (digest : String) :
    Except JournalStoreError Entry := do
  let (journal, node) ← readStatic fromSlice euid d name id 1
  refuse (journal.events.length ≠ sequence ∨ journalContentDigest journal ≠ digest)
    (.invalidRecord "journal history does not match its name")
  .ok (.history journal node)

def primaryStatic (name : OsString) (id : String) : Except JournalStoreError Entry := do
  let (journal, node) ← readStatic fromSlice euid d name id 1
  .ok (.primary journal node)

def entryStatic (name : OsString) : Except JournalStoreError Entry :=
  match name.toStr? with
  | none => .error (.invalidRecord "non-UTF-8 journal directory entry")
  | some text =>
    match historyIdentity text with
    | some (id, sequence, digest) => historyStatic fromSlice euid d name id sequence digest
    | none =>
      match stripSuffix ".json" text with
      | none => .error (.invalidRecord s!"unexpected journal directory entry: {text}")
      | some id => primaryStatic fromSlice euid d name id

/-- All the names in order, up to the first that is not what it should be. -/
def entriesStatic : List OsString → Except JournalStoreError (List (OsString × Entry))
  | [] => .ok []
  | name :: names => do
    let entry ← entryStatic fromSlice euid d name
    let entries ← entriesStatic names
    .ok ((name, entry) :: entries)

variable {fromSlice euid d} {name : OsString} {journalId : String} {links : Nat}
  {journal : OperationJournal} {node : Node}

omit [Fingerprint] in
theorem openStatic_eq_ok_iff :
    openStatic d name = .ok node ↔ d.lookup name = some node ∧ node.regular = true := by
  unfold openStatic
  cases hnode : d.lookup name with
  | none => simp [bind, Except.bind]
  | some n =>
    by_cases hregular : n.regular = true
    · simp [refuse, bind, Except.bind, hregular]
      intro hsame
      rw [← hsame]
      exact hregular
    · simp [refuse, bind, Except.bind, hregular]
      rintro rfl
      simpa using hregular

/-- A record that is read is the decoded file under its name. -/
theorem readStatic_eq_ok_iff :
    readStatic fromSlice euid d name journalId links = .ok (journal, node) ↔
      isLowerHexDigest journalId = true ∧ d.lookup name = some node ∧ node.regular = true ∧
      trustedJournalFile node euid links = true ∧ node.bytes.length ≤ maxJournalBytes ∧
      decodeJournal fromSlice node.bytes journalId = .ok journal := by
  unfold readStatic
  constructor
  · intro h
    obtain ⟨hid, h⟩ := check_eq_ok_iff.mp h
    obtain ⟨opened, hopened, h⟩ := bind_eq_ok_iff.mp h
    obtain ⟨htrusted, h⟩ := check_eq_ok_iff.mp h
    obtain ⟨hsize, h⟩ := check_eq_ok_iff.mp h
    obtain ⟨decoded, hdecoded, h⟩ := bind_eq_ok_iff.mp h
    cases h
    rw [mapError_eq_ok_iff] at hopened
    rw [refuse_eq_ok_iff, not_not] at htrusted
    rw [refuse_eq_ok_iff] at hsize
    obtain ⟨hlookup, hregular⟩ := openStatic_eq_ok_iff.mp hopened
    exact ⟨validateJournalId_eq_ok_iff.mp hid, hlookup, hregular, htrusted, by omega, hdecoded⟩
  · rintro ⟨hid, hlookup, hregular, htrusted, hsize, hdecoded⟩
    have hopened := openStatic_eq_ok_iff.mpr ⟨hlookup, hregular⟩
    refine check_eq_ok_iff.mpr ⟨validateJournalId_eq_ok_iff.mpr hid, ?_⟩
    refine bind_eq_ok_iff.mpr ⟨node, mapError_eq_ok_iff.mpr hopened, ?_⟩
    refine check_eq_ok_iff.mpr ⟨refuse_eq_ok_iff.mpr (not_not.mpr htrusted), ?_⟩
    refine check_eq_ok_iff.mpr ⟨refuse_eq_ok_iff.mpr (by omega), ?_⟩
    exact bind_eq_ok_iff.mpr ⟨journal, hdecoded, rfl⟩

theorem readStatic_tooLarge (hid : isLowerHexDigest journalId = true)
    (hlookup : d.lookup name = some node) (hregular : node.regular = true)
    (htrusted : trustedJournalFile node euid links = true)
    (hsize : maxJournalBytes < node.bytes.length) :
    readStatic fromSlice euid d name journalId links = .error .tooLarge := by
  have hopen : openStatic d name = .ok node := openStatic_eq_ok_iff.mpr ⟨hlookup, hregular⟩
  have hrefused : refuse (¬trustedJournalFile node euid links)
      (JournalStoreError.notRegularFile name) = .ok () := refuse_eq_ok_iff.mpr (not_not.mpr htrusted)
  have hlarge : refuse (maxJournalBytes < node.bytes.length) JournalStoreError.tooLarge =
      .error .tooLarge := refuse_eq_error_iff.mpr ⟨hsize, rfl⟩
  unfold readStatic
  rw [validateJournalId_eq_ok_iff.mpr hid, hopen]
  show (refuse _ _ >>= fun _ => refuse _ _ >>= fun _ => _) = _
  rw [hrefused, hlarge]
  rfl

/-- A name that is accepted is the final name of the journal in it, or a history name of
that journal. -/
theorem entryStatic_ok {entry : Entry} (h : entryStatic fromSlice euid d name = .ok entry) :
    ∃ id journal, readStatic fromSlice euid d name id 1 = .ok (journal, entry.node) ∧
      ∀ journal node, entry = .primary journal node → name = finalName journal.journalId := by
  cases hname : name with
  | raw bytes =>
    rw [hname] at h
    cases h
  | text value =>
    subst hname
    unfold entryStatic OsString.toStr? at h
    dsimp only at h
    cases hhistory : historyIdentity value with
    | some identity =>
      rw [hhistory] at h
      obtain ⟨loaded, hread, h⟩ := bind_eq_ok_iff.mp h
      obtain ⟨hmatch, h⟩ := check_eq_ok_iff.mp h
      cases h
      exact ⟨_, _, hread, by rintro journal node ⟨⟩⟩
    | none =>
      rw [hhistory] at h
      dsimp only at h
      cases hsuffix : stripSuffix ".json" value with
      | none =>
        rw [hsuffix] at h
        cases h
      | some id =>
        rw [hsuffix] at h
        obtain ⟨loaded, hread, h⟩ := bind_eq_ok_iff.mp h
        cases h
        refine ⟨_, _, hread, ?_⟩
        rintro journal node ⟨⟩
        obtain ⟨-, -, -, -, -, hdecoded⟩ := readStatic_eq_ok_iff.mp hread
        rw [(decodeJournal_ok hdecoded).2, stripSuffix_eq_some_iff.mp hsuffix]
        rfl

theorem entryStatic_finalName (hread : readStatic fromSlice euid d (finalName journalId) journalId 1
      = .ok (journal, node)) :
    entryStatic fromSlice euid d (finalName journalId) = .ok (.primary journal node) := by
  have hid := (readStatic_eq_ok_iff.mp hread).1
  unfold entryStatic
  show (match historyIdentity (journalId ++ ".json") with
    | some (id, sequence, digest) =>
      historyStatic fromSlice euid d (finalName journalId) id sequence digest
    | none => _) = _
  rw [historyIdentity_finalName hid]
  dsimp only
  rw [stripSuffix_eq_some_iff.mpr rfl]
  dsimp only
  unfold primaryStatic
  rw [hread]
  rfl

theorem entriesStatic_ok {names : List OsString} {entries : List (OsString × Entry)}
    (h : entriesStatic fromSlice euid d names = .ok entries) :
    entries.map Prod.fst = names ∧
      ∀ e ∈ entries, entryStatic fromSlice euid d e.1 = .ok e.2 := by
  induction names generalizing entries with
  | nil =>
    cases h
    exact ⟨rfl, fun e he => by cases he⟩
  | cons name names ih =>
    rw [entriesStatic] at h
    obtain ⟨entry, hentry, h⟩ := bind_eq_ok_iff.mp h
    obtain ⟨rest, hrest, h⟩ := bind_eq_ok_iff.mp h
    cases h
    obtain ⟨hnames, hall⟩ := ih hrest
    exact ⟨by rw [List.map_cons, hnames], List.forall_mem_cons.mpr ⟨hentry, hall⟩⟩

end Reading

section Showing

variable {μ : Type} {d : Dir} {made : Node} {answers : (op : StoreOp) → storeEnv.Ans op}
  {name : OsString} {node : Node}

theorem check_shows (c : Check) :
    Shows (granted made answers) d (check c : StoreProc μ Unit) (.ok ()) :=
  Shows.onDir (.check c) trivial

theorem names_shows : Shows (granted made answers) d (names : StoreProc μ _)
    (.ok (DirOp.sortNames d.keys)) := Shows.onDir .names trivial

theorem fstat_shows (name : OsString) (node : Node) :
    Shows (granted made answers) d (fstat name node : StoreProc μ _) (.ok node) :=
  Shows.onDir (.fstat node) trivial

theorem openFile_shows (name : OsString) :
    Shows (granted made answers) d (openFile name : StoreProc μ _) (openStatic d name) := by
  have hopen : Shows (granted made answers) d
      (onDir (storeFault (some name)) (.openFile name) : StoreProc μ Node)
      ((d.lookup name).elim (.error (.io (some name) .notFound)) .ok) := by
    refine (Shows.onDir (.openFile name) trivial).of_eq ?_
    show Except.mapError _ ((d.lookup name).elim (.error Fault.notFound) .ok) = _
    cases d.lookup name <;> rfl
  exact hopen.bind fun node _ => (Shows.lift _).bind fun _ _ => .pure node

/-- A file that was opened once is found again. -/
theorem reopen_shows (hnode : openStatic d name = .ok node) :
    Shows (granted made answers) d (reopen name : StoreProc μ _) (.ok node) := by
  have hopen : Shows (granted made answers) d
      ((openFile name).mapError fun _ => .changedDuringInspection : StoreProc μ Node)
      (.ok node) := by
    refine ((openFile_shows name).mapError _).of_eq ?_
    rw [hnode]
    rfl
  exact hopen.step (fstat_shows name node)

theorem reopen_ends (name : OsString) :
    ∃ r, Shows (granted made answers) d (reopen name : StoreProc μ _) r :=
  ⟨_, ((openFile_shows name).mapError _).bind fun live _ => fstat_shows name live⟩

variable [Fingerprint] {fromSlice : FromSlice} {journalId : String} {links : Nat}

/-- Loading a name shows what it holds. -/
theorem loadPinnedJournal_shows (name : OsString) (journalId : String) (links : Nat) :
    Shows (granted made answers) d
      (loadPinnedJournal fromSlice name journalId links : StoreProc μ _)
      (readStatic fromSlice (answers .geteuid) d name journalId links) := by
  refine (Shows.lift _).bind fun _ _ => ((openFile_shows name).mapError _).bind fun node hopened => ?_
  have hnode := mapError_eq_ok_iff.mp hopened
  refine (fstat_shows name node).step ?_
  have htrusted : Shows (granted made answers) d (requireTrusted name node links : StoreProc μ _)
      (refuse (¬trustedJournalFile node (answers .geteuid) links) (.notRegularFile name)) :=
    (Shows.ask (E := storeEnv) StoreOp.geteuid).step (.lift _)
  refine htrusted.bind fun _ _ => (Shows.lift _).bind fun _ hsize => ?_
  have hlength : node.bytes.length ≤ maxJournalBytes := by
    rw [refuse_eq_ok_iff] at hsize
    omega
  have hread : Shows (granted made answers) d
      (onDir (storeFault (some name)) (.read node (maxJournalBytes + 1)) : StoreProc μ _)
      (.ok node.bytes) := by
    refine (Shows.onDir (.read node (maxJournalBytes + 1)) trivial).of_eq ?_
    show Except.ok (node.bytes.take (maxJournalBytes + 1)) = _
    rw [List.take_of_length_le (by omega)]
  refine hread.step (Shows.step ((Shows.lift _).of_eq hsize) ?_)
  refine (fstat_shows name node).step ((reopen_shows hnode).step ?_)
  have hsame : refuse (¬node.sameVersion node ∨ ¬node.sameVersion node)
      JournalStoreError.changedDuringInspection = .ok () := by
    rw [refuse_eq_ok_iff]
    simp
  refine Shows.step ((Shows.lift _).of_eq hsame) ?_
  exact (Shows.lift _).bind fun journal _ => .pure (journal, node)

/-- What `all` keeps of an entry. -/
def Inventory.push (read : Inventory) (name : OsString) : Entry → Inventory
  | .primary journal node =>
    { read with journals := read.journals ++ [journal], pinned := read.pinned ++ [(name, node)] }
  | .history journal node =>
    { read with history := read.history ++ [journal], pinned := read.pinned ++ [(name, node)] }

theorem readEntry_shows (name : OsString) (read : Inventory) :
    Shows (granted made answers) d (readEntry fromSlice name read : StoreProc μ _)
      ((entryStatic fromSlice (answers .geteuid) d name).map (read.push name)) := by
  unfold readEntry entryStatic
  cases name.toStr? with
  | none => exact .throw _
  | some text =>
    dsimp only
    cases historyIdentity text with
    | some identity =>
      refine ((loadPinnedJournal_shows name identity.1 1).bind fun loaded _ =>
        (Shows.lift _).bind fun _ _ => .pure _).of_eq ?_
      dsimp only
      unfold historyStatic
      cases readStatic fromSlice (answers .geteuid) d name identity.1 1 with
      | error e => rfl
      | ok loaded =>
        show (refuse _ _ >>= fun _ => _) = Except.map _ (refuse _ _ >>= fun _ => _)
        cases refuse (loaded.1.events.length ≠ identity.2.1 ∨
          journalContentDigest loaded.1 ≠ identity.2.2) _ <;> rfl
    | none =>
      dsimp only
      cases stripSuffix ".json" text with
      | none => exact .throw _
      | some id =>
        refine ((loadPinnedJournal_shows name id 1).bind fun loaded _ => .pure _).of_eq ?_
        dsimp only
        unfold primaryStatic
        cases readStatic fromSlice (answers .geteuid) d name id 1 <;> rfl

theorem readEntries_shows (names : List OsString) (read : Inventory) :
    Shows (granted made answers) d (readEntries fromSlice names read : StoreProc μ _)
      ((entriesStatic fromSlice (answers .geteuid) d names).map fun entries =>
        entries.foldl (fun read e => read.push e.1 e.2) read) := by
  induction names generalizing read with
  | nil => exact .pure read
  | cons name names ih =>
    refine ((readEntry_shows name read).bind fun read _ => ih read).of_eq ?_
    rw [entriesStatic]
    cases entryStatic fromSlice (answers .geteuid) d name with
    | error e => rfl
    | ok entry =>
      cases entriesStatic fromSlice (answers .geteuid) d names <;> rfl

omit [Fingerprint] in
/-- What `all` has when it is through with the names. -/
theorem foldl_push_inventory (entries : List (OsString × Entry)) (read : Inventory) :
    entries.foldl (fun read e => read.push e.1 e.2) read =
      { journals := read.journals ++ primariesOf entries
        history := read.history ++ (historyOf entries).map (·.2.1)
        pinned := read.pinned ++ pinnedOf entries } := by
  induction entries generalizing read with
  | nil => simp [primariesOf, historyOf, pinnedOf]
  | cons entry entries ih =>
    obtain ⟨name, entry⟩ := entry
    rw [List.foldl_cons, ih]
    cases entry <;> simp [Inventory.push, primariesOf, historyOf, pinnedOf, Entry.node]

/-- What `inspect` keeps of an entry. -/
def Findings.push (f : Findings) (name : OsString) : Entry → Findings
  | .primary journal node =>
    { f with
      pinned := f.pinned ++ [(name, node)]
      primaries := f.primaries ++ [journal]
      result := { f.result with
        unfinished := f.result.unfinished ++ if isUnfinished journal then [journal] else [] } }
  | .history journal node =>
    { f with
      pinned := f.pinned ++ [(name, node)]
      history := f.history ++ [(name, journal, node.identity)] }

/-- The loop of `inspect` goes on with an entry that `all` accepts, and reports one, or
stops, where `all` stops. -/
def Reports (f : Findings) (name : OsString) (r : Except JournalStoreError Findings) :
    Except JournalStoreError Entry → Prop
  | .ok entry => r = .ok (f.push name entry)
  | .error _ => ∀ f', r = .ok f' → f'.result.unclassified ≠ []

omit [Fingerprint] in
theorem report_ne_nil (f : Findings) (e : UnclassifiedJournalEvidence) :
    (f.report e).result.unclassified ≠ [] := List.append_ne_nil_of_right_ne_nil _ (by simp)

omit [Fingerprint] in
theorem orReport_shows (f : Findings) (name : OsString) (e : JournalStoreError) :
    ∃ r, Shows (granted made answers) d (f.orReport name e : StoreProc μ _) r ∧
      ∀ f', r = .ok f' → f'.result.unclassified ≠ [] := by
  by_cases hchanged : e = .changedDuringInspection
  · rw [hchanged]
    exact ⟨_, .throw _, fun f' h => by cases h⟩
  · refine ⟨.ok (f.report (diagnosticEntry name none (some (.error e)) false none)), ?_, ?_⟩
    · have hpure : (f.orReport name e : StoreProc μ _) =
          pure (f.report (diagnosticEntry name none (some (.error e)) false none)) := by
        cases e <;> first | rfl | exact absurd rfl hchanged
      rw [hpure]
      exact .pure _
    · rintro f' ⟨⟩
      exact report_ne_nil f _

/-- Loading a name where the caller looks at the error itself. -/
theorem attemptLoad_shows {r : Except JournalStoreError (OperationJournal × Node)}
    (hread : readStatic fromSlice (answers .geteuid) d name journalId links = r) :
    Shows (granted made answers) d
      ((loadPinnedJournal fromSlice name journalId links).attempt : StoreProc μ _) (.ok r) := by
  rw [← hread]
  exact (loadPinnedJournal_shows name journalId links).attempt

theorem inspectHistory_shows (f : Findings) (name : OsString) (id : String) (sequence : Nat)
    (digest : String) :
    ∃ r, Shows (granted made answers) d
        (inspectHistory fromSlice name id sequence digest f : StoreProc μ _) r ∧
      Reports f name r (historyStatic fromSlice (answers .geteuid) d name id sequence digest) := by
  unfold inspectHistory historyStatic
  cases hread : readStatic fromSlice (answers .geteuid) d name id 1 with
  | error e =>
    obtain ⟨r, hr, hreport⟩ := orReport_shows f name e
    exact ⟨r, (attemptLoad_shows hread).step hr, hreport⟩
  | ok loaded =>
    refine ⟨_, (attemptLoad_shows hread).step (.ite_pure _ _), ?_⟩
    show Reports f name _ (refuse _ _ >>= fun _ => .ok (.history loaded.1 loaded.2))
    by_cases hname : loaded.1.events.length ≠ sequence ∨ journalContentDigest loaded.1 ≠ digest
    · rw [if_pos hname, refuse_eq_error_iff.mpr ⟨hname, rfl⟩]
      rintro f' ⟨⟩
      exact report_ne_nil _ _
    · rw [if_neg hname, refuse_eq_ok_iff.mpr hname]
      rfl

theorem inspectPrimary_shows (f : Findings) (name : OsString) (id : String) :
    ∃ r, Shows (granted made answers) d (inspectPrimary fromSlice name id f : StoreProc μ _) r ∧
      Reports f name r (primaryStatic fromSlice (answers .geteuid) d name id) := by
  unfold inspectPrimary primaryStatic
  cases hread : readStatic fromSlice (answers .geteuid) d name id 1 with
  | error e =>
    obtain ⟨r, hr, hreport⟩ := orReport_shows f name e
    exact ⟨r, (attemptLoad_shows hread).step hr, hreport⟩
  | ok loaded => exact ⟨_, (attemptLoad_shows hread).step (.pure _), rfl⟩

theorem loadLinkedFromDir_shows (name : OsString) (id : String) :
    ∃ r, Shows (granted made answers) d (loadLinkedFromDir fromSlice name id : StoreProc μ _) r :=
  ⟨_, (loadPinnedJournal_shows name id 2).bind fun _ _ =>
    (loadPinnedJournal_shows (finalName id) id 2).bind fun _ _ =>
    (Shows.lift _).bind fun _ _ => .pure _⟩

theorem loadStaged_shows (name : OsString) (id : String) :
    ∃ r, Shows (granted made answers) d (loadStaged fromSlice name id : StoreProc μ _) (.ok r) := by
  unfold loadStaged
  cases hread : readStatic fromSlice (answers .geteuid) d name id 1 with
  | ok loaded => exact ⟨_, (attemptLoad_shows hread).step (.pure _)⟩
  | error e =>
    obtain ⟨r, hlinked⟩ := loadLinkedFromDir_shows (μ := μ) name id
    cases r with
    | error e' => exact ⟨_, (attemptLoad_shows hread).step (hlinked.attempt.step (.pure _))⟩
    | ok linked => exact ⟨_, (attemptLoad_shows hread).step (hlinked.attempt.step (.pure _))⟩

/-- A name that is neither a final nor a history name is always reported. -/
theorem inspectOther_shows (f : Findings) (name : OsString) :
    ∃ r, Shows (granted made answers) d (inspectOther fromSlice name f : StoreProc μ _) r ∧
      ∀ f', r = .ok f' → f'.result.unclassified ≠ [] := by
  unfold inspectOther
  cases name.toStr?.bind stagingJournalId with
  | none => exact ⟨_, .pure _, by rintro f' ⟨⟩; exact report_ne_nil _ _⟩
  | some id =>
    obtain ⟨r, hstaged⟩ := loadStaged_shows name id
    cases r with
    | error e =>
      obtain ⟨r, hr, hreport⟩ := orReport_shows f name e
      exact ⟨r, hstaged.step hr, hreport⟩
    | ok staged => exact ⟨_, hstaged.step (.pure _), by rintro f' ⟨⟩; exact report_ne_nil _ _⟩

theorem inspectEntry_shows (f : Findings) (name : OsString) :
    ∃ r, Shows (granted made answers) d (inspectEntry fromSlice name f : StoreProc μ _) r ∧
      Reports f name r (entryStatic fromSlice (answers .geteuid) d name) := by
  unfold inspectEntry entryStatic
  cases name.toStr? with
  | none => exact inspectOther_shows f name
  | some text =>
    simp only [Option.bind_some]
    cases historyIdentity text with
    | some identity => exact inspectHistory_shows f name identity.1 identity.2.1 identity.2.2
    | none =>
      dsimp only
      cases stripSuffix ".json" text with
      | none => exact inspectOther_shows f name
      | some id => exact inspectPrimary_shows f name id

omit [Fingerprint] in
/-- What `inspect` has when it is through with names that `all` accepts. -/
theorem foldl_push_findings (entries : List (OsString × Entry)) (f : Findings) :
    entries.foldl (fun f e => f.push e.1 e.2) f =
      { result :=
          { unfinished := f.result.unfinished ++ (primariesOf entries).filter isUnfinished
            unclassified := f.result.unclassified }
        pinned := f.pinned ++ pinnedOf entries
        primaries := f.primaries ++ primariesOf entries
        history := f.history ++ historyOf entries } := by
  induction entries generalizing f with
  | nil => simp [primariesOf, historyOf, pinnedOf]
  | cons entry entries ih =>
    obtain ⟨name, entry⟩ := entry
    rw [List.foldl_cons, ih]
    cases entry with
    | primary journal node =>
      cases hunfinished : isUnfinished journal <;>
        simp [Findings.push, primariesOf, historyOf, pinnedOf, Entry.node, hunfinished]
    | history journal node =>
      simp [Findings.push, primariesOf, historyOf, pinnedOf, Entry.node]

theorem inspectEntries_shows (names : List OsString) (f : Findings) :
    ∃ r, Shows (granted made answers) d (inspectEntries fromSlice names f : StoreProc μ _) r ∧
      (∀ f', r = .ok f' → f.result.unclassified ≠ [] → f'.result.unclassified ≠ []) ∧
      (∀ entries, entriesStatic fromSlice (answers .geteuid) d names = .ok entries →
        r = .ok (entries.foldl (fun f e => f.push e.1 e.2) f)) ∧
      ∀ e, entriesStatic fromSlice (answers .geteuid) d names = .error e →
        ∀ f', r = .ok f' → f'.result.unclassified ≠ [] := by
  induction names generalizing f with
  | nil =>
    refine ⟨_, .pure f, ?_, ?_, ?_⟩
    · rintro f' ⟨⟩
      exact id
    · rintro entries ⟨⟩
      rfl
    · rintro e ⟨⟩
  | cons name names ih =>
    obtain ⟨r, hr, hreports⟩ := inspectEntry_shows f name
    rw [entriesStatic]
    cases hentry : entryStatic fromSlice (answers .geteuid) d name with
    | ok entry =>
      rw [hentry] at hreports
      obtain rfl : r = .ok (f.push name entry) := hreports
      obtain ⟨r', hr', hkept, hok, herror⟩ := ih (f.push name entry)
      have hsame : (f.push name entry).result.unclassified = f.result.unclassified := by
        cases entry <;> rfl
      rw [hsame] at hkept
      refine ⟨r', hr.step hr', hkept, ?_, ?_⟩
      · intro entries hentries
        obtain ⟨_, ⟨⟩, hentries⟩ := bind_eq_ok_iff.mp hentries
        obtain ⟨rest, hrest, hentries⟩ := bind_eq_ok_iff.mp hentries
        cases hentries
        exact hok rest hrest
      · intro e hentries
        cases hrest : entriesStatic fromSlice (answers .geteuid) d names with
        | ok rest =>
          rw [hrest] at hentries
          cases hentries
        | error e' => exact herror e' hrest
    | error e =>
      rw [hentry] at hreports
      have hlast : ∃ r', Shows (granted made answers) d
          (inspectEntries fromSlice (name :: names) f : StoreProc μ _) r' ∧
          ∀ f', r' = .ok f' → f'.result.unclassified ≠ [] := by
        cases r with
        | error e' => exact ⟨_, hr.bind_error, by rintro f' ⟨⟩⟩
        | ok f₁ =>
          obtain ⟨r', hr', hkept, -, -⟩ := ih f₁
          exact ⟨r', hr.step hr', fun f' hf' => hkept f' hf' (hreports f₁ rfl)⟩
      obtain ⟨r', hr', hreported⟩ := hlast
      refine ⟨r', hr', fun f' hf' _ => hreported f' hf', ?_, fun _ _ => hreported⟩
      rintro entries ⟨⟩

omit [Fingerprint] in
/-- Files that are open and stay as they are. -/
theorem requireUnmoved_shows (pinned : List (OsString × Node))
    (hopen : ∀ p ∈ pinned, openStatic d p.1 = .ok p.2) :
    Shows (granted made answers) d (requireUnmoved pinned : StoreProc μ _) (.ok ()) := by
  induction pinned with
  | nil => exact .pure ()
  | cons p pinned ih =>
    have hsame : refuse (¬p.2.sameVersion p.2 ∨ ¬p.2.sameVersion p.2)
        JournalStoreError.changedDuringInspection = .ok () := by
      rw [refuse_eq_ok_iff]
      simp
    obtain ⟨hfirst, hrest⟩ := List.forall_mem_cons.mp hopen
    refine (fstat_shows p.1 p.2).step ((reopen_shows hfirst).step ?_)
    exact Shows.step ((Shows.lift _).of_eq hsame) (ih hrest)

omit [Fingerprint] in
theorem requireStatic_shows (pinned : List (OsString × Node))
    (hopen : ∀ p ∈ pinned, openStatic d p.1 = .ok p.2) :
    Shows (granted made answers) d (requireStatic (DirOp.sortNames d.keys) pinned : StoreProc μ _)
      (.ok ()) := by
  have hsame : refuse (DirOp.sortNames d.keys ≠ DirOp.sortNames d.keys)
      JournalStoreError.changedDuringInspection = .ok () := by
    rw [refuse_eq_ok_iff]
    simp
  refine names_shows.step (Shows.step ((Shows.lift _).of_eq hsame) ?_)
  exact (requireUnmoved_shows pinned hopen).step ((check_shows _).step (check_shows _))

omit [Fingerprint] in
/-- Whatever the files are, the last checks end. -/
theorem requireStatic_ends (names : List OsString) (pinned : List (OsString × Node)) :
    ∃ r, Shows (granted made answers) d (requireStatic names pinned : StoreProc μ _) r := by
  have hunmoved : ∃ r, Shows (granted made answers) d (requireUnmoved pinned : StoreProc μ _) r := by
    induction pinned with
    | nil => exact ⟨_, .pure ()⟩
    | cons p pinned ih =>
      obtain ⟨r, hr⟩ := ih
      obtain ⟨r', hreopen⟩ := reopen_ends p.1
      exact ⟨_, (fstat_shows p.1 p.2).bind fun held _ => hreopen.bind fun _ _ =>
        (Shows.lift _).bind fun _ _ => hr⟩
  obtain ⟨r, hr⟩ := hunmoved
  exact ⟨_, names_shows.bind fun _ _ => (Shows.lift _).bind fun _ _ => hr.bind fun _ _ =>
    (check_shows _).bind fun _ _ => check_shows _⟩

/-- What is pinned is open. -/
theorem pinned_open {names : List OsString} {entries : List (OsString × Entry)} {euid : Nat}
    (hentries : entriesStatic fromSlice euid d names = .ok entries) :
    ∀ p ∈ pinnedOf entries, openStatic d p.1 = .ok p.2 := by
  intro p hp
  obtain ⟨e, he, rfl⟩ := List.mem_map.mp hp
  obtain ⟨id, journal, hread, -⟩ := entryStatic_ok ((entriesStatic_ok hentries).2 e he)
  obtain ⟨-, hlookup, hregular, -⟩ := readStatic_eq_ok_iff.mp hread
  exact openStatic_eq_ok_iff.mpr ⟨hlookup, hregular⟩

theorem all_shows :
    Shows (granted made answers) d (all fromSlice : StoreProc μ _)
      (do
        let entries ← entriesStatic fromSlice (answers .geteuid) d (DirOp.sortNames d.keys)
        checkHistory (primariesOf entries) ((historyOf entries).map (·.2.1))
        .ok (sortJournals (primariesOf entries))) := by
  refine (check_shows _).step ((check_shows _).step (names_shows.step ?_))
  cases hentries : entriesStatic fromSlice (answers .geteuid) d (DirOp.sortNames d.keys) with
  | error e =>
    refine Shows.bind_error ((readEntries_shows _ _).of_eq ?_)
    rw [hentries]
    rfl
  | ok entries =>
    have hread : Shows (granted made answers) d
        (readEntries fromSlice (DirOp.sortNames d.keys) ⟨[], [], []⟩ : StoreProc μ _)
        (.ok ⟨primariesOf entries, (historyOf entries).map (·.2.1), pinnedOf entries⟩) := by
      refine (readEntries_shows _ _).of_eq ?_
      rw [hentries]
      show Except.ok (entries.foldl _ _) = _
      rw [foldl_push_inventory]
      rfl
    refine hread.step ((requireStatic_shows _ (pinned_open hentries)).step ?_)
    exact (Shows.lift _).bind fun _ _ => .pure _

end Showing

end StorageManager.Executor.JournalStore
