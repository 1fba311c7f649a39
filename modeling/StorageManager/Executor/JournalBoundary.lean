import StorageManager.Executor.JournalAgreement
import StorageManager.Executor.JournalCrashes

/-!
# Records at the size limit

The writers compare the JSON text with the limit and then add a line end; the reader
compares the file. A record whose text is exactly as long as the limit is published and
cannot be read.
-/

namespace StorageManager.Executor.JournalStore

open Lib.Checks
open Lib.Directory
open Lib.Effects
open Lib.Json (toJson toBytes)
open Planner.ExecutionGuard

set_option autoImplicit false

/-- The file a process makes and fills. -/
def fileWith (made : Node) (bytes : List UInt8) : Node :=
  { made with regular := true, nlink := 1, bytes := bytes }

section Written

variable {μ : Type} {d : Dir} {made : Node} {answers : (op : StoreOp) → storeEnv.Ans op}

theorem serializeJournal_eq_ok {j : OperationJournal}
    (hsize : (toBytes (toJson j)).length ≤ maxJournalBytes) :
    serializeJournal j = .ok (encodeJournal j) := by
  refine check_eq_ok_iff.mpr ⟨refuse_eq_ok_iff.mpr ?_, rfl⟩
  omega

theorem pathFor_eq_ok {id : String} (hid : isLowerHexDigest id = true) :
    pathFor id = .ok (finalName id) :=
  check_eq_ok_iff.mpr ⟨validateJournalId_eq_ok_iff.mpr hid, rfl⟩

theorem tempPath_shows (id : String) :
    Shows (granted made answers) d (tempPath id : StoreProc μ _)
      (.ok (stagingName id (answers .processId) (answers .nextSequence))) :=
  (Shows.ask (E := storeEnv) StoreOp.nextSequence).step
    ((Shows.ask (E := storeEnv) StoreOp.processId).step (.pure _))

theorem writeStagedFile_yields {name : OsString} {bytes : List UInt8} (hfree : d.lookup name = none) :
    Yields (granted made answers) d (writeStagedFile name bytes : StoreProc μ _)
      (.ok (fileWith made bytes)) (d.insert name (fileWith made bytes)) := by
  have hcreate : Yields (granted made answers) d
      (onDir (storeFault (some name)) (.createNew name) : StoreProc μ _) (.ok ())
      (d.insert name (fileWith made [])) := by
    have hperform : (DirOp.createNew name).perform ((DirOp.createNew name).granted made) d =
        (.ok (), d.insert name (fileWith made [])) := if_neg (AList.lookup_eq_none.mp hfree)
    exact Yields.onDir hperform
  have hwrite : Yields (granted made answers) (d.insert name (fileWith made []))
      (onDir (storeFault (some name)) (.write name bytes) : StoreProc μ _)
      (.ok (fileWith made bytes)) (d.insert name (fileWith made bytes)) := by
    have hperform : (DirOp.write name bytes).perform ((DirOp.write name bytes).granted made)
        (d.insert name (fileWith made [])) =
        (.ok (fileWith made bytes), d.insert name (fileWith made bytes)) := by
      simp only [DirOp.granted, DirOp.perform, AList.lookup_insert, AList.insert_insert]
      rfl
    exact Yields.onDir hperform
  have hreopen : Shows (granted made answers) (d.insert name (fileWith made bytes))
      (reopen name : StoreProc μ _) (.ok (fileWith made bytes)) :=
    reopen_shows (openStatic_eq_ok_iff.mpr ⟨AList.lookup_insert d, rfl⟩)
  have hsame : refuse ((fileWith made bytes).identity ≠ (fileWith made bytes).identity)
      JournalStoreError.changedDuringInspection = .ok () := refuse_eq_ok_iff.mpr (by simp)
  unfold writeStagedFile
  refine Yields.step (Shows.onDir (.check .writer) trivial).yields (hcreate.step (hwrite.step ?_))
  exact hreopen.yields.step (((Shows.lift _).of_eq hsame).yields.step (Shows.pure _).yields)

theorem publishNew_yields {first second : OsString} {file : Node}
    (hfirst : d.lookup first = some file) (hsecond : d.lookup second = none) :
    Yields (granted made answers) d (publishNew first second : StoreProc μ _) (.ok ())
      ((d.erase first).insert second file) := by
  have hperform : (DirOp.publishNew first second).perform
      ((DirOp.publishNew first second).granted made) d =
      (.ok (), (d.erase first).insert second file) := by
    simp only [DirOp.granted, DirOp.perform, hfirst, hsecond]
  exact Yields.onDir hperform

theorem exchangeStaged_yields {first second : OsString} {file old : Node}
    (hfirst : d.lookup first = some file) (hsecond : d.lookup second = some old)
    (hregular : old.regular = true) :
    Yields (granted made answers) d (exchangeStaged second first old : StoreProc μ _) (.ok ())
      ((d.insert first old).insert second file) := by
  have hperform : (DirOp.exchange first second).perform
      ((DirOp.exchange first second).granted made) d =
      (.ok (), (d.insert first old).insert second file) := by
    simp only [DirOp.granted, DirOp.perform, hfirst, hsecond]
  have hexchange : Yields (granted made answers) d
      (onDir (storeFault none) (.exchange first second) : StoreProc μ _) (.ok ())
      ((d.insert first old).insert second file) := Yields.onDir hperform
  have hsame : refuse (¬old.sameVersion old ∨ ¬old.sameVersion old)
      JournalStoreError.changedDuringInspection = .ok () := refuse_eq_ok_iff.mpr (by simp)
  unfold exchangeStaged
  refine (check_shows _).yields.step ((check_shows _).yields.step ?_)
  refine (check_shows _).yields.step ((check_shows _).yields.step ?_)
  refine (fstat_shows _ _).yields.step ?_
  refine (reopen_shows (openStatic_eq_ok_iff.mpr ⟨hsecond, hregular⟩)).yields.step ?_
  exact ((Shows.lift _).of_eq hsame).yields.step (hexchange.step (check_shows _).yields)

variable [Fingerprint] {fromSlice : FromSlice} {j : OperationJournal}

/-- The staging name of the next record of a process. -/
def stagedName (answers : (op : StoreOp) → storeEnv.Ans op) (journal : OperationJournal) : OsString :=
  stagingName journal.journalId (answers .processId) (answers .nextSequence)

/-- The record passes the checks of the writer, and the file for it is new and trusted. -/
structure Writable (made : Node) (answers : (op : StoreOp) → storeEnv.Ans op) (d : Dir)
    (journal : OperationJournal) : Prop where
  valid : ValidRecord journal
  size : (toBytes (toJson journal)).length ≤ maxJournalBytes
  free : d.lookup (stagedName answers journal) = none
  owner : made.uid = answers .geteuid
  mode : made.mode % 0o10000 = 0o600

theorem Writable.trusted (h : Writable made answers d j) (bytes : List UInt8) :
    trustedJournalFile (fileWith made bytes) (answers .geteuid) 1 = true := by
  simp [trustedJournalFile, fileWith, h.owner, h.mode]

/-- A written file is read back unless it is too large. -/
theorem readStatic_fileWith {name : OsString} (faithful : Faithful fromSlice)
    {d₀ : Dir} (h : Writable made answers d₀ j)
    (hlookup : d.lookup name = some (fileWith made (encodeJournal j))) :
    readStatic fromSlice (answers .geteuid) d name j.journalId 1 =
      if (encodeJournal j).length ≤ maxJournalBytes then
        .ok (j, fileWith made (encodeJournal j))
      else .error .tooLarge := by
  by_cases hfits : (encodeJournal j).length ≤ maxJournalBytes
  · rw [if_pos hfits]
    exact readStatic_eq_ok_iff.mpr ⟨h.valid.journalId, hlookup, rfl, h.trusted _, hfits,
      decodeJournal_encodeJournal h.valid (faithful j)⟩
  · rw [if_neg hfits]
    exact readStatic_tooLarge h.valid.journalId hlookup rfl (h.trusted _) (Nat.lt_of_not_le hfits)

omit [Fingerprint] in
theorem stagedName_ne_finalName (id : String) : stagedName answers j ≠ finalName id :=
  stagingName_ne_finalName _ _ _ _

omit [Fingerprint] in
theorem requireTrusted_shows {name : OsString} {node : Node} {links : Nat}
    (htrusted : trustedJournalFile node (answers .geteuid) links = true) :
    Shows (granted made answers) d (requireTrusted name node links : StoreProc μ _) (.ok ()) :=
  (Shows.ask (E := storeEnv) StoreOp.geteuid).step
    ((Shows.lift _).of_eq (refuse_eq_ok_iff.mpr (not_not.mpr htrusted)))

/-- The directory once the first record has its final name. -/
def published (made : Node) (answers : (op : StoreOp) → storeEnv.Ans op) (d : Dir)
    (journal : OperationJournal) : Dir :=
  ((d.insert (stagedName answers journal) (fileWith made (encodeJournal journal))).erase
    (stagedName answers journal)).insert (finalName journal.journalId)
      (fileWith made (encodeJournal journal))

theorem persistNew_yields (faithful : Faithful fromSlice) (h : Writable made answers d j)
    (hfree : d.lookup (finalName j.journalId) = none) :
    Yields (granted made answers) d (persistNew fromSlice j : StoreProc μ _)
      (if (encodeJournal j).length ≤ maxJournalBytes then .ok () else .error .tooLarge)
      (published made answers d j) := by
  unfold persistNew
  have hvalid := validateJournal_eq_ok_iff.mpr h.valid
  have hpath := pathFor_eq_ok h.valid.journalId
  have hserialize := serializeJournal_eq_ok h.size
  refine ((Shows.lift _).of_eq hvalid).yields.step ?_
  refine (check_shows _).yields.step ((check_shows _).yields.step ?_)
  refine ((Shows.lift _).of_eq hserialize).yields.step ?_
  refine ((Shows.lift _).of_eq hpath).yields.step ?_
  refine (tempPath_shows _).yields.step ((writeStagedFile_yields h.free).step ?_)
  refine (fstat_shows _ _).yields.step ((requireTrusted_shows (h.trusted _)).yields.step ?_)
  refine (check_shows _).yields.step ((check_shows _).yields.step ?_)
  have hpublish : Yields (granted made answers)
      (d.insert (stagedName answers j) (fileWith made (encodeJournal j)))
      (publishNew (stagedName answers j) (finalName j.journalId) : StoreProc μ _) (.ok ())
      (published made answers d j) := by
    have hstaged : (d.insert (stagedName answers j) (fileWith made (encodeJournal j))).lookup
        (stagedName answers j) = some (fileWith made (encodeJournal j)) := AList.lookup_insert d
    have hnone : (d.insert (stagedName answers j) (fileWith made (encodeJournal j))).lookup
        (finalName j.journalId) = none := by
      rw [AList.lookup_insert_ne (stagedName_ne_finalName _).symm, hfree]
    exact publishNew_yields hstaged hnone
  refine (hpublish.mapError _).step ?_
  have hfinal : (published made answers d j).lookup (finalName j.journalId) =
      some (fileWith made (encodeJournal j)) := AList.lookup_insert _
  have hread := readStatic_fileWith faithful h hfinal
  by_cases hfits : (encodeJournal j).length ≤ maxJournalBytes
  · rw [if_pos hfits] at hread ⊢
    have hsame : refuse (j ≠ j ∨ (fileWith made (encodeJournal j)).identity ≠
        (fileWith made (encodeJournal j)).identity) JournalStoreError.changedDuringInspection =
        .ok () := refuse_eq_ok_iff.mpr (by simp)
    refine ((loadPinnedJournal_shows _ _ _).of_eq hread).yields.step ?_
    refine (fstat_shows _ _).yields.step (((Shows.lift _).of_eq hsame).yields.step ?_)
    exact (check_shows _).yields.step (check_shows _).yields
  · rw [if_neg hfits] at hread ⊢
    exact ((loadPinnedJournal_shows _ _ _).of_eq hread).yields.bind_error

/-- The directory once the new record has taken the place of the old one. -/
def exchanged (made : Node) (answers : (op : StoreOp) → storeEnv.Ans op) (d : Dir)
    (journal : OperationJournal) (old : Node) : Dir :=
  ((d.insert (stagedName answers journal) (fileWith made (encodeJournal journal))).insert
    (stagedName answers journal) old).insert (finalName journal.journalId)
      (fileWith made (encodeJournal journal))

theorem requireExchanged_shows {e : OperationJournal} {temp : OsString} {file old : Node}
    (hold : readStatic fromSlice (answers .geteuid) d temp j.journalId 1 = .ok (e, old))
    (hnew : readStatic fromSlice (answers .geteuid) d (finalName j.journalId) j.journalId 1
      = .ok (j, file)) :
    Shows (granted made answers) d
      (requireExchanged fromSlice e j (finalName j.journalId) temp old file : StoreProc μ _)
      (.ok ()) := by
  obtain ⟨-, hlookup, hregular, htrusted, -⟩ := readStatic_eq_ok_iff.mp hold
  obtain ⟨-, hlookup', hregular', htrusted', -⟩ := readStatic_eq_ok_iff.mp hnew
  have hsame : refuse (e ≠ e ∨ j ≠ j ∨ old.identity ≠ old.identity ∨ file.identity ≠ file.identity)
      JournalStoreError.changedDuringInspection = .ok () := refuse_eq_ok_iff.mpr (by simp)
  have hidentity : ∀ node : Node, refuse (node.identity ≠ node.identity)
      JournalStoreError.changedDuringInspection = .ok () := fun _ => refuse_eq_ok_iff.mpr (by simp)
  have hopen := openStatic_eq_ok_iff.mpr ⟨hlookup, hregular⟩
  have hopen' := openStatic_eq_ok_iff.mpr ⟨hlookup', hregular'⟩
  unfold requireExchanged
  refine ((loadPinnedJournal_shows _ _ _).of_eq hold).step ((fstat_shows _ _).step ?_)
  refine ((loadPinnedJournal_shows _ _ _).of_eq hnew).step ((fstat_shows _ _).step ?_)
  refine Shows.step ((Shows.lift _).of_eq hsame) ((check_shows _).step ((check_shows _).step ?_))
  refine (reopen_shows hopen).step (Shows.step ((Shows.lift _).of_eq (hidentity old)) ?_)
  refine ((requireTrusted_shows htrusted).mapError _).step ((reopen_shows hopen').step ?_)
  refine Shows.step ((Shows.lift _).of_eq (hidentity file)) ?_
  exact ((requireTrusted_shows htrusted').mapError _).step (check_shows _)

theorem retainDisplaced_yields {e : OperationJournal} {temp : OsString} {file old : Node}
    (hid : e.journalId = j.journalId) (htemp : ∀ id, temp ≠ finalName id)
    (hold : readStatic fromSlice (answers .geteuid) d temp j.journalId 1 = .ok (e, old))
    (hnew : readStatic fromSlice (answers .geteuid) d (finalName j.journalId) j.journalId 1
      = .ok (j, file))
    (hfree : d.lookup (historyName j.journalId e.events.length (journalContentDigest e)) = none) :
    Yields (granted made answers) d
      (retainDisplaced fromSlice e j (finalName j.journalId) temp old file : StoreProc μ _) (.ok ())
      ((d.erase temp).insert (historyName j.journalId e.events.length (journalContentDigest e))
        old) := by
  obtain ⟨hvalid, hlookup, hregular, htrusted, hsize, hdecoded⟩ := readStatic_eq_ok_iff.mp hold
  obtain ⟨hvalid', hlookup', hregular', htrusted', hsize', hdecoded'⟩ :=
    readStatic_eq_ok_iff.mp hnew
  have hhistory : ∀ id, historyName j.journalId e.events.length (journalContentDigest e) ≠
      finalName id := by
    rw [← hid]
    exact KeptUnder.ne_final (.inr rfl)
  have harchived : readStatic fromSlice (answers .geteuid) ((d.erase temp).insert
      (historyName j.journalId e.events.length (journalContentDigest e)) old)
      (historyName j.journalId e.events.length (journalContentDigest e)) j.journalId 1
      = .ok (e, old) :=
    readStatic_eq_ok_iff.mpr ⟨hvalid, AList.lookup_insert _, hregular, htrusted, hsize, hdecoded⟩
  have hfinal : readStatic fromSlice (answers .geteuid) ((d.erase temp).insert
      (historyName j.journalId e.events.length (journalContentDigest e)) old)
      (finalName j.journalId) j.journalId 1 = .ok (j, file) := by
    refine readStatic_eq_ok_iff.mpr ⟨hvalid', ?_, hregular', htrusted', hsize', hdecoded'⟩
    rw [AList.lookup_insert_ne (hhistory _).symm, AList.lookup_erase_ne (htemp _).symm, hlookup']
  have hsame : refuse (e ≠ e ∨ j ≠ j ∨ old.identity ≠ old.identity ∨ file.identity ≠ file.identity)
      JournalStoreError.changedDuringInspection = .ok () := refuse_eq_ok_iff.mpr (by simp)
  unfold retainDisplaced
  refine (publishNew_yields hlookup hfree).step ?_
  refine (check_shows _).yields.step ((check_shows _).yields.step ?_)
  refine ((loadPinnedJournal_shows _ _ _).of_eq harchived).yields.step ?_
  refine (fstat_shows _ _).yields.step ?_
  refine ((loadPinnedJournal_shows _ _ _).of_eq hfinal).yields.step ?_
  exact (fstat_shows _ _).yields.step ((Shows.lift _).of_eq hsame).yields

/-- What the replacement of a record needs. -/
structure Replaceable (fromSlice : FromSlice) (answers : (op : StoreOp) → storeEnv.Ans op) (d : Dir)
    (e j : OperationJournal) (old : Node) : Prop where
  valid : ValidRecord e
  extension : extendsExactly e j = true
  current : readStatic fromSlice (answers .geteuid) d (finalName j.journalId) j.journalId 1
    = .ok (e, old)
  free : d.lookup (historyName j.journalId e.events.length (journalContentDigest e)) = none

theorem persistIfMatches_yields {e : OperationJournal} {old : Node} (faithful : Faithful fromSlice)
    (h : Writable made answers d j) (hreplace : Replaceable fromSlice answers d e j old) :
    ∃ d', Yields (granted made answers) d (persistIfMatches fromSlice e j : StoreProc μ _)
        (if (encodeJournal j).length ≤ maxJournalBytes then .ok () else .error .tooLarge) d' ∧
      d'.lookup (finalName j.journalId) = some (fileWith made (encodeJournal j)) := by
  have hvalid := validateJournal_eq_ok_iff.mpr h.valid
  have hvalid' := validateJournal_eq_ok_iff.mpr hreplace.valid
  have hextends : refuse (¬extendsExactly e j) (JournalStoreError.invalidRecord
      "journal update does not extend the exact prior history") = .ok () :=
    refuse_eq_ok_iff.mpr (not_not.mpr hreplace.extension)
  have hpath := pathFor_eq_ok h.valid.journalId
  have hserialize := serializeJournal_eq_ok h.size
  have hsame : refuse (e ≠ e) JournalStoreError.changedDuringInspection = .ok () :=
    refuse_eq_ok_iff.mpr (by simp)
  obtain ⟨hid, hlookup, hregular, htrusted, hsize, hdecoded⟩ :=
    readStatic_eq_ok_iff.mp hreplace.current
  have hother : ∀ id, stagedName answers j ≠ finalName id := stagedName_ne_finalName
  have hfile := AList.lookup_insert (a := stagedName answers j)
    (b := fileWith made (encodeJournal j)) d
  have hold : (d.insert (stagedName answers j) (fileWith made (encodeJournal j))).lookup
      (finalName j.journalId) = some old := by
    rw [AList.lookup_insert_ne (hother _).symm, hlookup]
  have hdisplaced : (exchanged made answers d j old).lookup (stagedName answers j) = some old := by
    rw [exchanged, AList.lookup_insert_ne (hother _), AList.lookup_insert]
  have hfinal : (exchanged made answers d j old).lookup (finalName j.journalId) =
      some (fileWith made (encodeJournal j)) := AList.lookup_insert _
  have hreadOld : readStatic fromSlice (answers .geteuid) (exchanged made answers d j old)
      (stagedName answers j) j.journalId 1 = .ok (e, old) :=
    readStatic_eq_ok_iff.mpr ⟨hid, hdisplaced, hregular, htrusted, hsize, hdecoded⟩
  have hreadNew := readStatic_fileWith faithful h hfinal
  have hstart : ∀ {r : Except JournalStoreError Unit} {d' : Dir},
      Yields (granted made answers) (exchanged made answers d j old) (do
        requireExchanged fromSlice e j (finalName j.journalId) (stagedName answers j) old
          (fileWith made (encodeJournal j))
        retainDisplaced fromSlice e j (finalName j.journalId) (stagedName answers j) old
          (fileWith made (encodeJournal j)) : StoreProc μ _) r d' →
      Yields (granted made answers) d (persistIfMatches fromSlice e j : StoreProc μ _) r d' := by
    intro r d' hrest
    unfold persistIfMatches
    refine ((Shows.lift _).of_eq hvalid').yields.step ?_
    refine ((Shows.lift _).of_eq hvalid).yields.step ?_
    refine ((Shows.lift _).of_eq hextends).yields.step ((check_shows _).yields.step ?_)
    refine ((Shows.lift _).of_eq hpath).yields.step ((tempPath_shows _).yields.step ?_)
    refine ((loadPinnedJournal_shows _ _ _).of_eq hreplace.current).yields.step ?_
    refine ((Shows.lift _).of_eq hsame).yields.step ?_
    refine ((Shows.lift _).of_eq hserialize).yields.step ((writeStagedFile_yields h.free).step ?_)
    refine (fstat_shows _ _).yields.step ((requireTrusted_shows (h.trusted _)).yields.step ?_)
    exact (exchangeStaged_yields hfile hold hregular).step hrest
  by_cases hfits : (encodeJournal j).length ≤ maxJournalBytes
  · rw [if_pos hfits] at hreadNew ⊢
    have hidOld : e.journalId = j.journalId := (decodeJournal_ok hdecoded).2
    have hhistory : ∀ id, historyName j.journalId e.events.length (journalContentDigest e) ≠
        finalName id := by
      rw [← hidOld]
      exact KeptUnder.ne_final (.inr rfl)
    have hapart : historyName j.journalId e.events.length (journalContentDigest e) ≠
        stagedName answers j := (stagingName_ne_historyName _ _ _ _ _).symm
    have hfree : (exchanged made answers d j old).lookup
        (historyName j.journalId e.events.length (journalContentDigest e)) = none := by
      rw [exchanged, AList.lookup_insert_ne (hhistory _), AList.lookup_insert_ne hapart,
        AList.lookup_insert_ne hapart, hreplace.free]
    refine ⟨_, hstart ((requireExchanged_shows hreadOld hreadNew).yields.step
      (retainDisplaced_yields hidOld hother hreadOld hreadNew hfree)), ?_⟩
    rw [AList.lookup_insert_ne (hhistory _).symm, AList.lookup_erase_ne (hother _).symm, hfinal]
  · rw [if_neg hfits] at hreadNew ⊢
    refine ⟨_, hstart (Yields.bind_error ?_), hfinal⟩
    unfold requireExchanged
    refine ((loadPinnedJournal_shows _ _ _).of_eq hreadOld).yields.step ?_
    refine (fstat_shows _ _).yields.step ?_
    exact ((loadPinnedJournal_shows _ _ _).of_eq hreadNew).yields.bind_error

/-- Nothing stands in the way of the writes of a call. -/
def StoreCall.Unobstructed (fromSlice : FromSlice) (made : Node)
    (answers : (op : StoreOp) → storeEnv.Ans op) (d : Dir) : StoreCall → Prop
  | .persistNew journal =>
    Writable made answers d journal ∧ d.lookup (finalName journal.journalId) = none
  | .persistIfMatches expected journal =>
    Writable made answers d journal ∧ ∃ old, Replaceable fromSlice answers d expected journal old

/-- The call returns, and then the record of its final name can be loaded. -/
def StoreCall.Durable (fromSlice : FromSlice) (made : Node)
    (answers : (op : StoreOp) → storeEnv.Ans op) (call : StoreCall)
    (s : St (interface storeEnv)) : Prop :=
  ∃ m t node, Proc.Plays (granted made answers) (call.proc fromSlice) () s (.ok ()) m t ∧
    Proc.Returns (granted made answers)
      (loadPinnedJournal fromSlice (finalName call.record.journalId) call.record.journalId 1)
      m t (call.record, node)

theorem StoreCall.Unobstructed.writable {call : StoreCall}
    (h : call.Unobstructed fromSlice made answers d) : Writable made answers d call.record := by
  cases call with
  | persistNew journal => exact h.1
  | persistIfMatches expected journal => exact h.1

theorem StoreCall.yields {call : StoreCall} (faithful : Faithful fromSlice)
    (h : call.Unobstructed fromSlice made answers d) :
    ∃ d', Yields (granted made answers) d (call.proc fromSlice)
        (if (encodeJournal call.record).length ≤ maxJournalBytes then .ok () else .error .tooLarge)
        d' ∧
      d'.lookup (finalName call.record.journalId) =
        some (fileWith made (encodeJournal call.record)) := by
  cases call with
  | persistNew journal =>
    exact ⟨_, persistNew_yields faithful h.1 h.2, AList.lookup_insert _⟩
  | persistIfMatches expected journal =>
    obtain ⟨hwritable, old, hreplace⟩ := h
    exact persistIfMatches_yields faithful hwritable hreplace

/-- The file of a record that the writers accept is too large for the reader when the text
alone takes the whole limit. -/
theorem Writable.fits_iff (h : Writable made answers d j) :
    (encodeJournal j).length ≤ maxJournalBytes ↔
      (toBytes (toJson j)).length ≠ maxJournalBytes := by
  have hsize := h.size
  have hlength : (encodeJournal j).length = (toBytes (toJson j)).length + 1 :=
    List.length_append
  omega

/-- A call that nothing stops makes its record durable unless the text of the record is
exactly as long as the limit. -/
theorem durable_iff {call : StoreCall} {s : St (interface storeEnv)} (faithful : Faithful fromSlice)
    (h : call.Unobstructed fromSlice made answers s.world) :
    call.Durable fromSlice made answers s ↔
      (toBytes (toJson call.record)).length ≠ maxJournalBytes := by
  have hfits := h.writable.fits_iff
  obtain ⟨d', hyields, hfinal⟩ := StoreCall.yields faithful h
  have hread := readStatic_fileWith faithful h.writable hfinal
  obtain ⟨t, ht, hplays⟩ := hyields () s rfl
  constructor
  · rintro ⟨m', t', node, hreturns, -⟩
    by_contra hfull
    have hlarge : ¬(encodeJournal call.record).length ≤ maxJournalBytes := fun hsmall =>
      hfits.mp hsmall hfull
    rw [if_neg hlarge] at hplays
    exact Proc.not_succeeds hplays ⟨(), m', t', hreturns⟩
  · intro hnot
    have hsmall := hfits.mpr hnot
    rw [if_pos hsmall] at hplays hread
    refine ⟨(), t, fileWith made (encodeJournal call.record), hplays, ?_⟩
    have hload : Shows (granted made answers) d' (loadPinnedJournal fromSlice
        (finalName call.record.journalId) call.record.journalId 1 : StoreProc Unit _) _ :=
      (loadPinnedJournal_shows _ _ _).of_eq hread
    exact (hload.returns_iff ht).mpr rfl

end Written

section Sample

/-- A first record with a target of this many letters after the slash. -/
def paddedJournal (n : Nat) : OperationJournal :=
  { planned with target := String.ofList ('/' :: List.replicate n 'a') }

theorem paddedJournal_target (n : Nat) :
    (paddedJournal n).target.toList = '/' :: List.replicate n 'a' := String.toList_ofList

theorem paddedJournal_valid [Fingerprint] (n : Nat) : ValidRecord (paddedJournal n) := by
  have hletters : (List.replicate n 'a').any isControl = false := by
    rw [List.any_replicate]
    split <;> rfl
  have hcontrol : (paddedJournal n).target.toList.any isControl = false := by
    rw [paddedJournal_target, List.any_cons, hletters]
    rfl
  have hnonempty : (paddedJournal n).target ≠ "" := by
    intro hempty
    have htext := paddedJournal_target n
    rw [hempty] at htext
    cases htext
  exact { planned_valid with target := by simp [hcontrol, hnonempty] }

/-- Each letter of the target is one byte of the JSON text. -/
theorem paddedJournal_length (n : Nat) : (toBytes (toJson (paddedJournal n))).length =
    (toBytes (toJson (paddedJournal 0))).length + n := by
  have htarget : ∀ n, String.utf8Len (Lib.Json.render (toJson (paddedJournal n).target)) =
      n + 3 := fun n => Lib.Json.renderString_len_padded ⟨rfl, rfl⟩ ⟨rfl, rfl⟩ n
  let before := [("schema_version", toJson planned.schemaVersion),
    ("journal_id", toJson planned.journalId), ("plan_id", toJson planned.planId)]
  let after := [("baseline_manifest_digest", toJson planned.baselineManifestDigest),
    ("phase", toJson planned.phase),
    ("mutation_may_have_started", toJson planned.mutationMayHaveStarted),
    ("approval", toJson planned.approval), ("execution", toJson planned.execution),
    ("events", toJson planned.events)]
  have hshape : ∀ n, toJson (paddedJournal n) = .obj (before ++
      (("target", toJson (paddedJournal n).target) :: after)) := fun _ => rfl
  rw [hshape n, hshape 0, Lib.Json.toBytes_obj_length (by simp),
    Lib.Json.toBytes_obj_length (by simp)]
  simp only [List.map_append, List.map_cons, List.sum_append, List.sum_cons, htarget]
  omega

/-- Without padding the record is far from the limit. -/
theorem paddedJournal_zero_length :
    (toBytes (toJson (paddedJournal 0))).length < maxJournalBytes :=
  (Lib.Json.toBytes_length_le _).trans_lt (by decide)

/-- The record whose JSON text takes the whole limit. -/
def fullJournal : OperationJournal :=
  paddedJournal (maxJournalBytes - (toBytes (toJson (paddedJournal 0))).length)

/-- A file of root as it is made. -/
def madeByRoot : Node := ⟨true, 1, 1, 0, 0o600, 1, 0, []⟩

theorem durable_iff_sample :
    (StoreCall.persistNew (paddedJournal 0)).Durable faithfulReader madeByRoot rootAnswers ⟨∅, []⟩ ↔
      (toBytes (toJson (paddedJournal 0))).length ≠ maxJournalBytes :=
  durable_iff faithfulReader_faithful
    ⟨⟨paddedJournal_valid 0, paddedJournal_zero_length.le, rfl, rfl, rfl⟩, rfl⟩

/-- The writer fails after it has published the full record, and no load accepts it. -/
theorem fullJournal_unreadable :
    (toBytes (toJson fullJournal)).length ≤ maxJournalBytes ∧
    ∃ t, Proc.Plays (granted madeByRoot rootAnswers)
        (JournalStore.persistNew faithfulReader fullJournal : StoreProc Unit _) () ⟨∅, []⟩
        (.error .tooLarge) () t ∧
      t.world.lookup (finalName fullJournal.journalId) =
        some (fileWith madeByRoot (encodeJournal fullJournal)) ∧
      ∃ u, Proc.Plays (granted madeByRoot rootAnswers)
        (loadPinnedJournal faithfulReader (finalName fullJournal.journalId) fullJournal.journalId 1 :
          StoreProc Unit _) () t (.error .tooLarge) () u := by
  have hzero := paddedJournal_zero_length
  have hlength : (toBytes (toJson fullJournal)).length = maxJournalBytes := by
    rw [fullJournal, paddedJournal_length]
    omega
  have hwritable : Writable madeByRoot rootAnswers ∅ fullJournal :=
    ⟨paddedJournal_valid _, hlength.le, rfl, rfl, rfl⟩
  have hlarge : ¬(encodeJournal fullJournal).length ≤ maxJournalBytes := fun h =>
    hwritable.fits_iff.mp h hlength
  have hfinal : (published madeByRoot rootAnswers ∅ fullJournal).lookup
      (finalName fullJournal.journalId) = some (fileWith madeByRoot (encodeJournal fullJournal)) :=
    AList.lookup_insert _
  have hread := readStatic_fileWith faithfulReader_faithful hwritable hfinal
  obtain ⟨t, ht, hplays⟩ := persistNew_yields (μ := Unit) faithfulReader_faithful hwritable rfl
    () ⟨∅, []⟩ rfl
  rw [if_neg hlarge] at hplays hread
  have hload : Shows (granted madeByRoot rootAnswers) t.world (loadPinnedJournal faithfulReader
      (finalName fullJournal.journalId) fullJournal.journalId 1 : StoreProc Unit _)
      (.error .tooLarge) := by
    rw [ht]
    exact (loadPinnedJournal_shows _ _ _).of_eq hread
  obtain ⟨u, -, hfails⟩ := hload () t rfl
  refine ⟨hlength.le, t, hplays, ?_, u, hfails⟩
  rw [ht]
  exact hfinal

end Sample

end StorageManager.Executor.JournalStore
