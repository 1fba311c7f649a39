import StorageManager.Executor.CreatePersistentUpdate
import StorageManager.Lib.Recovering

/-!
# What the persistent configuration update has seen

The parts of the update other than the rename perform nothing irreversible: they read fstab, make
the backup and the new file, and ask for snapshots. Here is which calls each has made when it
succeeded.
-/

namespace StorageManager.Executor.Create.Persistent

open StorageManager.Core
open Lib
open Lib.Checks
open Lib.Effects
open Lib.RecordFile
open Lib.WriteAhead
open Lib.Looking
open Mount (ProductionCreateMountActivationIntent verifyMountedSnapshot)
open PersistentConfig (maxFstabBytes)
open Swap (IoError pathJoin)

set_option autoImplicit false

/-- How far a record has come. -/
def ProductionCreatePersistentConfigPhase.rank : ProductionCreatePersistentConfigPhase → Nat
  | .prepared => 0
  | .updatingFstab => 1
  | .fstabWrittenAwaitingVerification => 2
  | .completed => 3
  | .recoveryRequired => 4

/-- Every rename, by its two paths, needs a record that is not Prepared any more. -/
@[reducible] def persistentDiscipline :
    Discipline ProductionCreatePersistentConfigJournal persistentEnv where
  Act := String × String
  act
    | .rename source target => some (source, target)
    | _ => none
  rank
    | none => 0
    | some j => j.phase.rank
  need _ := 1

abbrev JournalFile := File ProductionCreatePersistentConfigJournal
abbrev LogEntry := Entry (interface ProductionCreatePersistentConfigJournal persistentEnv)
abbrev PersistentSt := St (interface ProductionCreatePersistentConfigJournal persistentEnv)

instance : IsPreorder PersistentSt (Silent persistentDiscipline) := silent_isPreorder

/-- A call of the host and its answer, made while the journal file was `file`. -/
def called (file : JournalFile) (op : PersistentOp) (answer : persistentEnv.Ans op) : LogEntry :=
  ⟨.inr op, answer, file⟩

/-- The metadata of a regular file of its owner alone. -/
structure SafeMetadata (metadata : Metadata) (uid : Nat) : Prop where
  isSymlink : metadata.isSymlink = false
  isFile : metadata.isFile = true
  owner : metadata.uid = uid
  nlink : metadata.nlink = 1

/-- A read of a safe file: the open file is the one whose metadata was looked at. -/
def SafeRead (path : String) (uid : Nat) (file : JournalFile) (found : List UInt8 × Metadata)
    (seen : List LogEntry) : Prop :=
  ∃ handle opened, SafeMetadata found.2 uid ∧ found.2.writableByOthers = false ∧
    metadataMatches opened found.2 = true ∧
    seen = [called file (.symlinkMetadata path) (.ok found.2),
      called file (.openRead path) (.ok handle), called file (.fstat handle) (.ok opened),
      called file (.readToEnd handle (maxFstabBytes + 1)) (.ok found.1)]

/-- The backup holds the bytes: it was found so, or it was made and synced with its directory. -/
def BackedUp (root journalId : String) (before : List UInt8) (uid : Nat) (file : JournalFile)
    (seen : List LogEntry) : Prop :=
  let backup := pathJoin root s!"{journalId}.fstab.backup"
  (∃ metadata, SafeMetadata metadata uid ∧ metadata.permissions = 0o600 ∧
    seen = [called file (.symlinkMetadata backup) (.ok metadata),
      called file (.readPath backup) (.ok before)]) ∨
  ∃ handle, seen = [called file (.symlinkMetadata backup) (.error .notFound),
    called file (.openNew backup 0o600) (.ok handle),
    called file (.writeAll handle before) (.ok ()), called file (.syncAll handle) (.ok ()),
    called file (.syncDirectory root) (.ok ())]

/-- The new file holds the bytes and is synced, and after that the old one was still the one with
these bytes and this metadata. -/
def Staged (temp path : String) (bytes before : List UInt8) (original : Metadata) (uid : Nat)
    (file : JournalFile) (seen : List LogEntry) : Prop :=
  ∃ handle metadata current reread, SafeRead path uid file (before, current) reread ∧
    metadataMatches current original = true ∧ metadata.permissions = original.permissions ∧
    metadata.len = bytes.length ∧
    seen = called file (.openNew temp original.permissions) (.ok handle) ::
      called file (.setPermissions handle original.permissions) (.ok ()) ::
      called file (.writeAll handle bytes) (.ok ()) :: called file (.syncAll handle) (.ok ()) ::
      called file (.fstat handle) (.ok metadata) :: reread

section Calls

theorem askHost_looks (op : PersistentOp) (hop : persistentDiscipline.act op = none) :
    Looks persistentDiscipline (askHost op) fun file answer seen => seen = [called file op answer] :=
  Looks.ask hop

theorem readSafeRegular_looks (path : String) (uid : Nat) :
    Looks persistentDiscipline (readSafeRegular path uid) fun file found seen =>
      SafeRead path uid file found seen := by
  unfold readSafeRegular symlinkMetadata
  refine Looks.call_then (askHost_looks (.symlinkMetadata path) rfl) fun metadata => ?_
  refine Looks.check fun _ hsafe => Looks.check fun _ _ => ?_
  refine Looks.call_then (askHost_looks (.openRead path) rfl) fun handle => ?_
  refine Looks.call_then (askHost_looks (.fstat handle) rfl) fun opened => ?_
  refine Looks.check fun _ hsame => ?_
  refine Looks.call_then (askHost_looks (.readToEnd handle (maxFstabBytes + 1)) rfl) fun bytes => ?_
  refine Looks.check fun _ _ => Looks.pure fun file => ?_
  have hsafe := refuse_eq_ok_iff.mp hsafe
  have hsame := not_not.mp (refuse_eq_ok_iff.mp hsame)
  simp only [not_or, not_not, ne_eq] at hsafe
  obtain ⟨hlink, hfile, howner, hnlink, hwritable⟩ := hsafe
  exact ⟨handle, opened, ⟨Bool.eq_false_iff.mpr hlink, hfile, howner, hnlink⟩,
    Bool.eq_false_iff.mpr hwritable, hsame, rfl⟩

theorem ensureBackup_looks (root journalId : String) (before : List UInt8) (uid : Nat) :
    Looks persistentDiscipline (ensureBackup root journalId before uid) fun file _ seen =>
      BackedUp root journalId before uid file seen := by
  unfold ensureBackup
  refine Looks.bind (askHost_looks (.symlinkMetadata _) rfl) fun answer => ?_
  rcases answer with (_ | source) | metadata
  · refine Looks.call_then (askHost_looks (.openNew _ 0o600) rfl) fun handle => ?_
    refine Looks.call_then (askHost_looks (.writeAll handle before) rfl) fun _ => ?_
    refine Looks.call_then (askHost_looks (.syncAll handle) rfl) fun _ => ?_
    refine Looks.call_then (askHost_looks (.syncDirectory root) rfl) fun _ => ?_
    refine Looks.pure fun file seen hseen => .inr ⟨handle, ?_⟩
    rw [hseen]
    rfl
  · exact Looks.throw
  · refine Looks.check fun _ hsafe => ?_
    refine Looks.call_then (askHost_looks (.readPath _) rfl) fun existing => ?_
    refine Looks.check fun _ hsame => Looks.pure fun file seen hseen => ?_
    obtain rfl := not_not.mp (refuse_eq_ok_iff.mp hsame)
    have hsafe := refuse_eq_ok_iff.mp hsafe
    simp only [not_or, not_not, ne_eq] at hsafe
    obtain ⟨hlink, hfile, howner, hmode, hnlink, -⟩ := hsafe
    refine .inl ⟨metadata, ⟨Bool.eq_false_iff.mpr hlink, hfile, howner, hnlink⟩, hmode, ?_⟩
    rw [hseen]
    rfl

theorem stageReplacement_looks (temp path : String) (bytes before : List UInt8)
    (original : Metadata) (uid : Nat) :
    Looks persistentDiscipline (stageReplacement temp path bytes before original uid)
      fun file _ seen => Staged temp path bytes before original uid file seen := by
  unfold stageReplacement
  refine Looks.call_then (askHost_looks (.openNew temp _) rfl) fun handle => ?_
  refine Looks.call_then (askHost_looks (.setPermissions handle _) rfl) fun _ => ?_
  refine Looks.call_then (askHost_looks (.writeAll handle bytes) rfl) fun _ => ?_
  refine Looks.call_then (askHost_looks (.syncAll handle) rfl) fun _ => ?_
  refine Looks.call_then (askHost_looks (.fstat handle) rfl) fun metadata => ?_
  refine Looks.check fun _ hnew => ?_
  refine Looks.bind (readSafeRegular_looks path uid) fun current => ?_
  refine Looks.lift fun _ hsame file reread hread => ?_
  have hnew := refuse_eq_ok_iff.mp hnew
  have hsame := refuse_eq_ok_iff.mp hsame
  simp only [not_or, not_not, ne_eq] at hnew hsame
  obtain ⟨-, hmode, -, hlen⟩ := hnew
  obtain ⟨hmatches, rfl⟩ := hsame
  rw [List.append_nil]
  exact ⟨handle, metadata, current.2, reread, hread, hmatches, hmode, hlen, rfl⟩

end Calls

section Snapshots

variable {create : ProductionCreateActivationIntent}
  {activation : ProductionCreateMountActivationIntent}

theorem verifyLiveWithoutPersistentConfig_looks :
    Looks persistentDiscipline (verifyLiveWithoutPersistentConfig create activation)
      fun file _ seen => ∃ snapshot, verifyMountedSnapshot create activation snapshot = .ok () ∧
        seen = [called file .discoverSnapshot (.ok snapshot)] := by
  unfold verifyLiveWithoutPersistentConfig
  refine Looks.call_then (askHost_looks .discoverSnapshot rfl) fun snapshot => ?_
  exact Looks.lift fun _ hok file => ⟨snapshot, mapError_eq_ok_iff.mp hok, rfl⟩

theorem verifyLiveWithPersistentConfig_looks :
    Looks persistentDiscipline (verifyLiveWithPersistentConfig create activation)
      fun file _ seen => ∃ snapshot,
        verifyPersistentSnapshot create activation snapshot = .ok () ∧
        seen = [called file .discoverSnapshot (.ok snapshot)] := by
  unfold verifyLiveWithPersistentConfig
  refine Looks.call_then (askHost_looks .discoverSnapshot rfl) fun snapshot => ?_
  exact Looks.lift fun _ hok file => ⟨snapshot, hok, rfl⟩

end Snapshots

end StorageManager.Executor.Create.Persistent
