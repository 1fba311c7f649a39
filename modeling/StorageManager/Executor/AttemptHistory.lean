import Mathlib.Data.List.Dedup
import StorageManager.Executor.JournalCrashes
import StorageManager.Executor.LockedSession

/-!
# The attempts of an operation

Each session for a plan publishes a journal under the id of its attempt. The next id is found
by walking along the ids of the earlier attempts, all of which must have been aborted before
any write.
-/

namespace StorageManager.Executor.JournalStore

open Lib.Directory
open Lib.Effects
open Planner.ExecutionGuard

set_option autoImplicit false

/-- The journals of a store. The name of a record is its id. -/
structure JournalHistory where
  journals : List OperationJournal
  distinct : (journals.map (·.journalId)).Nodup

def SafelyAborted (journal : OperationJournal) : Prop :=
  journal.phase = .aborted ∧ journal.mutationMayHaveStarted = false

/-- The records of the operation are its first attempts, all of them safely aborted. -/
structure AttemptsAborted (history : List OperationJournal) (proposed : OperationJournal)
    (attempts : Nat) : Prop where
  ids : ∀ id, (∃ j ∈ history, sameOperation j proposed = true ∧ j.journalId = id) ↔
    ∃ i < attempts, attemptId proposed i = id
  aborted : ∀ j ∈ history, sameOperation j proposed = true → SafelyAborted j

section Walk

variable {history : List OperationJournal} {proposed : OperationJournal} {id : String}

theorem find?_none_iff :
    history.find? (·.journalId == id) = none ↔ ∀ j ∈ history, j.journalId ≠ id := by
  simp

theorem find?_of_mem (hdistinct : (history.map (·.journalId)).Nodup) {journal : OperationJournal}
    (hmem : journal ∈ history) :
    history.find? (·.journalId == journal.journalId) = some journal := by
  cases hfind : history.find? (·.journalId == journal.journalId) with
  | none => exact absurd rfl (find?_none_iff.mp hfind journal hmem)
  | some found =>
    have hid : found.journalId = journal.journalId := by
      simpa using List.find?_some hfind
    rw [List.inj_on_of_nodup_map hdistinct (List.mem_of_find?_eq_some hfind) hmem hid]

/-- The first record under the id of an attempt is one of the operation, safely aborted. -/
def Passed (history : List OperationJournal) (proposed : OperationJournal) (attempt : Nat) : Prop :=
  ∃ j, history.find? (·.journalId == attemptId proposed attempt) = some j ∧ SafelyAborted j ∧
    sameOperation j proposed = true

/-- The walk ends at the first attempt without a record, when it has passed all others and met
every related id. -/
theorem nextAttemptFrom_eq_ok_iff {rounds attempt : Nat} {related : List String} :
    nextAttemptFrom history proposed rounds attempt related = .ok id ↔
      ∃ k, attempt ≤ k ∧ k < attempt + rounds ∧ id = attemptId proposed k ∧
        (∀ j ∈ history, j.journalId ≠ attemptId proposed k) ∧
        (∀ i, attempt ≤ i → i < k → Passed history proposed i) ∧
        ∀ r ∈ related, ∃ i, attempt ≤ i ∧ i < k ∧ attemptId proposed i = r := by
  induction rounds generalizing attempt related with
  | zero =>
    constructor
    · intro h
      cases h
    · rintro ⟨k, hle, hlt, -⟩
      omega
  | succ rounds ih =>
    rw [nextAttemptFrom]
    cases hfind : history.find? (·.journalId == attemptId proposed attempt) with
    | none =>
      dsimp only
      constructor
      · intro h
        split at h
        case isFalse => cases h
        case isTrue hnil =>
          refine ⟨attempt, le_rfl, by omega, (Except.ok.inj h).symm, find?_none_iff.mp hfind,
            fun i hle hlt => absurd hlt (by omega), ?_⟩
          rw [hnil]
          exact fun r hr => absurd hr List.not_mem_nil
      · rintro ⟨k, hle, hlt, rfl, -, hpassed, hrelated⟩
        have hk : k = attempt := by
          by_contra hne
          obtain ⟨j, hj, -⟩ := hpassed attempt le_rfl (by omega)
          rw [hfind] at hj
          cases hj
        have hnil : related = [] := by
          refine List.eq_nil_iff_forall_not_mem.mpr fun r hr => ?_
          obtain ⟨i, hle, hlt, -⟩ := hrelated r hr
          omega
        rw [if_pos hnil, hk]
    | some previous =>
      dsimp only
      have hbeyond : ∀ k, attempt ≤ k → (∀ j ∈ history, j.journalId ≠ attemptId proposed k) →
          attempt < k := by
        intro k hle hfree
        refine lt_of_le_of_ne hle ?_
        rintro rfl
        rw [find?_none_iff.mpr hfree] at hfind
        cases hfind
      split
      case isTrue haborted =>
        have hpass : Passed history proposed attempt :=
          ⟨previous, hfind, ⟨haborted.1, by simpa using haborted.2.1⟩, haborted.2.2⟩
        rw [ih]
        constructor
        · rintro ⟨k, hle, hlt, hid, hfree, hpassed, hrelated⟩
          refine ⟨k, by omega, by omega, hid, hfree, ?_, ?_⟩
          · intro i hi hik
            rcases Nat.eq_or_lt_of_le hi with rfl | hi
            · exact hpass
            · exact hpassed i hi hik
          · intro r hr
            by_cases hcandidate : r = attemptId proposed attempt
            · exact ⟨attempt, le_rfl, by omega, hcandidate.symm⟩
            · obtain ⟨i, hi, hik, hri⟩ :=
                hrelated r (List.mem_filter.mpr ⟨hr, decide_eq_true hcandidate⟩)
              exact ⟨i, by omega, hik, hri⟩
        · rintro ⟨k, hle, hlt, hid, hfree, hpassed, hrelated⟩
          have hk := hbeyond k hle hfree
          refine ⟨k, hk, by omega, hid, hfree, fun i hi => hpassed i (by omega), ?_⟩
          intro r hr
          obtain ⟨hr, hcandidate⟩ := List.mem_filter.mp hr
          obtain ⟨i, hi, hik, hri⟩ := hrelated r hr
          refine ⟨i, lt_of_le_of_ne hi ?_, hik, hri⟩
          rintro rfl
          exact of_decide_eq_true hcandidate hri.symm
      case isFalse hkept =>
        constructor
        · intro h
          cases h
        · rintro ⟨k, hle, hlt, -, hfree, hpassed, -⟩
          obtain ⟨j, hj, haborted, hsame⟩ := hpassed attempt le_rfl (hbeyond k hle hfree)
          rw [hfind] at hj
          obtain rfl := Option.some.inj hj
          exact absurd ⟨haborted.1, by simp [haborted.2], hsame⟩ hkept

/-- An id is granted exactly when it is free, and the attempt after a run of aborted ones. -/
theorem nextAttemptId_eq_ok_iff (hdistinct : (history.map (·.journalId)).Nodup) :
    nextAttemptId history proposed = .ok id ↔
      (∀ j ∈ history, j.journalId ≠ id) ∧
        ∃ k < 1024, id = attemptId proposed k ∧ AttemptsAborted history proposed k := by
  rw [nextAttemptId, nextAttemptFrom_eq_ok_iff]
  constructor
  · rintro ⟨k, -, hlt, rfl, hfree, hpassed, hrelated⟩
    refine ⟨hfree, k, by omega, rfl, ?_, ?_⟩
    · intro id
      constructor
      · rintro ⟨j, hj, hsame, rfl⟩
        obtain ⟨i, -, hik, hid⟩ :=
          hrelated _ (List.mem_map_of_mem (List.mem_filter.mpr ⟨hj, hsame⟩))
        exact ⟨i, hik, hid⟩
      · rintro ⟨i, hik, rfl⟩
        obtain ⟨j, hfind, -, hsame⟩ := hpassed i (Nat.zero_le i) hik
        exact ⟨j, List.mem_of_find?_eq_some hfind, hsame, by simpa using List.find?_some hfind⟩
    · intro j hj hsame
      obtain ⟨i, -, hik, hid⟩ :=
        hrelated _ (List.mem_map_of_mem (List.mem_filter.mpr ⟨hj, hsame⟩))
      obtain ⟨previous, hfind, haborted, -⟩ := hpassed i (Nat.zero_le i) hik
      rw [hid, find?_of_mem hdistinct hj] at hfind
      obtain rfl := Option.some.inj hfind
      exact haborted
  · rintro ⟨hfree, k, hlt, rfl, hattempts⟩
    refine ⟨k, Nat.zero_le k, by omega, rfl, hfree, ?_, ?_⟩
    · intro i _ hik
      obtain ⟨j, hj, hsame, hid⟩ := (hattempts.ids _).mpr ⟨i, hik, rfl⟩
      refine ⟨j, ?_, hattempts.aborted j hj hsame, hsame⟩
      rw [← hid]
      exact find?_of_mem hdistinct hj
    · intro r hr
      obtain ⟨j, hj, rfl⟩ := List.mem_map.mp hr
      obtain ⟨hj, hsame⟩ := List.mem_filter.mp hj
      obtain ⟨i, hik, hid⟩ := (hattempts.ids _).mp ⟨j, hj, hsame, rfl⟩
      exact ⟨i, Nat.zero_le i, hik, hid⟩

end Walk

section Stores

variable [Fingerprint] {fromSlice : FromSlice} {μ : Type} {d : Dir}

/-- What a session reads as its history has distinct ids. -/
theorem all_sees_history : Sees d (all fromSlice : StoreProc μ _) fun journals =>
    ∃ history : JournalHistory, history.journals = journals := by
  refine all_sees.imp fun journals h => ?_
  obtain ⟨ks, rfl, hread⟩ := h
  have hperm := (sortJournals_perm ks).map (·.journalId)
  exact ⟨⟨sortJournals ks, hperm.nodup_iff.mpr hread.distinct⟩, rfl⟩

end Stores

section Sequences

/-- Histories that grow by safely aborted attempts of the operation, each under the id it was
granted, and by records of other operations. -/
inductive Retained (proposed : OperationJournal) : List OperationJournal → Nat → Prop
  | start {history : List OperationJournal}
      (distinct : (history.map (·.journalId)).Nodup)
      (others : ∀ j ∈ history, sameOperation j proposed = false) : Retained proposed history 0
  | attempt {history after : List OperationJournal} {k : Nat} {journal : OperationJournal}
      (retained : Retained proposed history k)
      (granted : nextAttemptId history proposed = .ok journal.journalId)
      (same : sameOperation journal proposed = true) (aborted : SafelyAborted journal)
      (kept : after.Perm (journal :: history)) : Retained proposed after (k + 1)
  | other {history after : List OperationJournal} {k : Nat} {journal : OperationJournal}
      (retained : Retained proposed history k) (foreign : sameOperation journal proposed = false)
      (new : ∀ j ∈ history, j.journalId ≠ journal.journalId)
      (kept : after.Perm (journal :: history)) : Retained proposed after k

/-- The digests that name the attempts up to this one are different, and no other operation has
the id of this one. -/
structure NoCollision (proposed : OperationJournal) (history : List OperationJournal) (k : Nat) :
    Prop where
  attempts : ∀ i j, i ≤ k → j ≤ k → attemptId proposed i = attemptId proposed j → i = j
  others : ∀ j ∈ history, sameOperation j proposed = false → j.journalId ≠ attemptId proposed k

variable {proposed : OperationJournal} {history after : List OperationJournal}
  {journal : OperationJournal} {k : Nat}

theorem distinct_cons (hdistinct : (history.map (·.journalId)).Nodup)
    (hnew : ∀ j ∈ history, j.journalId ≠ journal.journalId)
    (hperm : after.Perm (journal :: history)) : (after.map (·.journalId)).Nodup := by
  refine (hperm.map _).nodup_iff.mpr (List.nodup_cons.mpr ⟨?_, hdistinct⟩)
  intro hmem
  obtain ⟨j, hj, hid⟩ := List.mem_map.mp hmem
  exact hnew j hj hid

/-- The first attempts are as many as there were. -/
theorem AttemptsAborted.count_eq {k' : Nat} (h : AttemptsAborted history proposed k)
    (h' : AttemptsAborted history proposed k')
    (hfree : ∀ j ∈ history, j.journalId ≠ attemptId proposed k')
    (hattempts : ∀ i < k, attemptId proposed i ≠ attemptId proposed k) : k' = k := by
  rcases Nat.lt_trichotomy k' k with hlt | rfl | hlt
  · obtain ⟨j, hj, -, hid⟩ := (h.ids _).mpr ⟨k', hlt, rfl⟩
    exact absurd hid (hfree j hj)
  · rfl
  · obtain ⟨i, hi, hid⟩ := (h.ids _).mp ((h'.ids _).mpr ⟨k, hlt, rfl⟩)
    exact absurd hid (hattempts i hi)

theorem AttemptsAborted.succ (h : AttemptsAborted history proposed k)
    (hid : journal.journalId = attemptId proposed k) (hsame : sameOperation journal proposed = true)
    (haborted : SafelyAborted journal) (hperm : after.Perm (journal :: history)) :
    AttemptsAborted after proposed (k + 1) := by
  constructor
  · intro id
    constructor
    · rintro ⟨j, hj, hjsame, rfl⟩
      rcases List.mem_cons.mp (hperm.mem_iff.mp hj) with rfl | hj
      · exact ⟨k, Nat.lt_succ_self k, hid.symm⟩
      · obtain ⟨i, hi, hid⟩ := (h.ids _).mp ⟨j, hj, hjsame, rfl⟩
        exact ⟨i, Nat.lt_succ_of_lt hi, hid⟩
    · rintro ⟨i, hi, rfl⟩
      rcases Nat.lt_succ_iff_lt_or_eq.mp hi with hi | rfl
      · obtain ⟨j, hj, hjsame, hjid⟩ := (h.ids _).mpr ⟨i, hi, rfl⟩
        exact ⟨j, hperm.mem_iff.mpr (List.mem_cons_of_mem _ hj), hjsame, hjid⟩
      · exact ⟨journal, hperm.mem_iff.mpr List.mem_cons_self, hsame, hid⟩
  · intro j hj hjsame
    rcases List.mem_cons.mp (hperm.mem_iff.mp hj) with rfl | hj
    · exact haborted
    · exact h.aborted j hj hjsame

theorem AttemptsAborted.other (h : AttemptsAborted history proposed k)
    (hforeign : sameOperation journal proposed = false)
    (hperm : after.Perm (journal :: history)) : AttemptsAborted after proposed k := by
  have hmem : ∀ j, j ∈ after ∧ sameOperation j proposed = true ↔
      j ∈ history ∧ sameOperation j proposed = true := by
    intro j
    rw [hperm.mem_iff, List.mem_cons]
    constructor
    · rintro ⟨rfl | hj, hsame⟩
      · rw [hforeign] at hsame
        cases hsame
      · exact ⟨hj, hsame⟩
    · exact fun ⟨hj, hsame⟩ => ⟨.inr hj, hsame⟩
  constructor
  · intro id
    rw [← h.ids id]
    constructor
    · rintro ⟨j, hj, hsame, hid⟩
      exact ⟨j, ((hmem j).mp ⟨hj, hsame⟩).1, hsame, hid⟩
    · rintro ⟨j, hj, hsame, hid⟩
      exact ⟨j, ((hmem j).mpr ⟨hj, hsame⟩).1, hsame, hid⟩
  · intro j hj hsame
    exact h.aborted j ((hmem j).mp ⟨hj, hsame⟩).1 hsame

/-- Along the sequence the records of the operation are its first attempts. -/
theorem Retained.attempts_aborted (h : Retained proposed history k)
    (hattempts : ∀ i j, i ≤ k → j ≤ k → attemptId proposed i = attemptId proposed j → i = j) :
    (history.map (·.journalId)).Nodup ∧ AttemptsAborted history proposed k := by
  induction h with
  | start hdistinct hothers =>
    refine ⟨hdistinct, ⟨fun id => ⟨?_, ?_⟩, ?_⟩⟩
    · rintro ⟨j, hj, hsame, -⟩
      rw [hothers j hj] at hsame
      cases hsame
    · rintro ⟨i, hi, -⟩
      omega
    · intro j hj hsame
      rw [hothers j hj] at hsame
      cases hsame
  | @attempt history after k journal _ hgranted hsame haborted hperm ih =>
    obtain ⟨hdistinct, hretained⟩ := ih fun i j hi hj => hattempts i j (by omega) (by omega)
    obtain ⟨hfree, k', -, hid, hretained'⟩ := (nextAttemptId_eq_ok_iff hdistinct).mp hgranted
    have hcount : k' = k := by
      refine hretained.count_eq hretained' (hid ▸ hfree) fun i hi hsameId => ?_
      have := hattempts i k (by omega) (by omega) hsameId
      omega
    rw [hcount] at hid
    exact ⟨distinct_cons hdistinct hfree hperm, hretained.succ hid hsame haborted hperm⟩
  | other _ hforeign hnew hperm ih =>
    obtain ⟨hdistinct, hretained⟩ := ih hattempts
    exact ⟨distinct_cons hdistinct hnew hperm, hretained.other hforeign hperm⟩

/-- After fewer than 1024 safely aborted attempts the next one gets a new id. -/
theorem Retained.next_attempt (h : Retained proposed history k) (hk : k < 1024)
    (hcollision : NoCollision proposed history k) :
    nextAttemptId history proposed = .ok (attemptId proposed k) ∧
      ∀ j ∈ history, j.journalId ≠ attemptId proposed k := by
  obtain ⟨hdistinct, hretained⟩ := h.attempts_aborted hcollision.attempts
  have hfree : ∀ j ∈ history, j.journalId ≠ attemptId proposed k := by
    intro j hj hid
    cases hsame : sameOperation j proposed with
    | false => exact hcollision.others j hj hsame hid
    | true =>
      obtain ⟨i, hi, hid'⟩ := (hretained.ids _).mp ⟨j, hj, hsame, rfl⟩
      have := hcollision.attempts i k (by omega) le_rfl (hid'.trans hid)
      omega
  exact ⟨(nextAttemptId_eq_ok_iff hdistinct).mpr ⟨hfree, k, hk, rfl, hretained⟩, hfree⟩

/-- The walk grants exactly the attempt after a run of aborted ones, and along fewer than 1024
of them it always grants the next. -/
theorem attempts_granted (proposed : OperationJournal) :
    (∀ (history : JournalHistory) (id : String),
      nextAttemptId history.journals proposed = .ok id ↔
        (∀ j ∈ history.journals, j.journalId ≠ id) ∧
          ∃ k < 1024, id = attemptId proposed k ∧ AttemptsAborted history.journals proposed k) ∧
    ∀ history k, Retained proposed history k → k < 1024 → NoCollision proposed history k →
      nextAttemptId history proposed = .ok (attemptId proposed k) ∧
        ∀ j ∈ history, j.journalId ≠ attemptId proposed k :=
  ⟨fun history _ => nextAttemptId_eq_ok_iff history.distinct,
    fun _ _ hretained hk hcollision => hretained.next_attempt hk hcollision⟩

end Sequences

section Limit

/-- The first attempts of an operation, all of them aborted before any write. -/
def firstAttempts (proposed : OperationJournal) (k : Nat) : JournalHistory where
  journals := ((List.range k).map (attemptId proposed)).dedup.map fun id =>
    { proposed with journalId := id, phase := .aborted, mutationMayHaveStarted := false }
  distinct := by
    rw [List.map_map]
    exact (List.map_id _).symm ▸ List.nodup_dedup _

theorem firstAttempts_aborted (proposed : OperationJournal) (k : Nat) :
    AttemptsAborted (firstAttempts proposed k).journals proposed k := by
  constructor
  · intro id
    simp [firstAttempts, sameOperation]
  · intro j hj _
    obtain ⟨id, -, rfl⟩ := List.mem_map.mp hj
    exact ⟨rfl, rfl⟩

theorem firstAttempts_refused (proposed : OperationJournal) (id : String) :
    nextAttemptId (firstAttempts proposed 1024).journals proposed ≠ .ok id := by
  intro h
  obtain ⟨hfree, k, hk, rfl, -⟩ :=
    (nextAttemptId_eq_ok_iff (firstAttempts proposed 1024).distinct).mp h
  obtain ⟨j, hj, -, hid⟩ := ((firstAttempts_aborted proposed 1024).ids _).mpr ⟨k, hk, rfl⟩
  exact hfree j hj hid

end Limit

section Samples

def proposedJournal : OperationJournal where
  schemaVersion := 1
  journalId := "journal"
  planId := "plan"
  target := "/srv"
  baselineManifestDigest := "baseline"
  phase := .planned
  mutationMayHaveStarted := false
  approval := none
  execution := none
  verifiedBoundary := none
  events := []

/-- The first attempt, as its operator left it. -/
def abortedJournal : OperationJournal := { proposedJournal with phase := .aborted }

/-- After 1024 safely aborted attempts there is no further one. -/
theorem attempts_exhausted_sample :
    AttemptsAborted (firstAttempts proposedJournal 1024).journals proposedJournal 1024 ∧
      ∀ id, nextAttemptId (firstAttempts proposedJournal 1024).journals proposedJournal ≠ .ok id :=
  ⟨firstAttempts_aborted proposedJournal 1024, firstAttempts_refused proposedJournal⟩

theorem attempts_granted_sample :
    nextAttemptId [abortedJournal] proposedJournal = .ok (attemptId proposedJournal 1) := by
  have hfirst : nextAttemptId [] proposedJournal = .ok abortedJournal.journalId := rfl
  have hstart : Retained proposedJournal [] 0 := .start List.nodup_nil (by simp)
  have hretained : Retained proposedJournal [abortedJournal] 1 :=
    .attempt hstart hfirst rfl ⟨rfl, rfl⟩ (List.Perm.refl _)
  have hnext : attemptId proposedJournal 0 ≠ attemptId proposedJournal 1 := by
    intro hsame
    have hsize := congrArg String.utf8ByteSize hsame
    rw [attemptId, attemptId, if_pos rfl, if_neg (by decide), Lib.Sha256.sha256Hex_utf8ByteSize]
      at hsize
    revert hsize
    decide
  refine ((attempts_granted proposedJournal).2 _ _ hretained (by decide) ⟨?_, ?_⟩).1
  · intro i j hi hj hid
    have hcases : ∀ n ≤ 1, n = 0 ∨ n = 1 := by omega
    rcases hcases i hi with rfl | rfl <;> rcases hcases j hj with rfl | rfl
    · rfl
    · exact absurd hid hnext
    · exact absurd hid.symm hnext
    · rfl
  · intro j hj hforeign
    rw [List.mem_singleton.mp hj] at hforeign
    exact absurd hforeign (by decide)

end Samples

end StorageManager.Executor.JournalStore
