import StorageManager.Executor.CreateJournal

/-!
# Laws of the create runtime journal

The table of transitions is a line of six phases with a way out to RecoveryRequired, so
the phase of a record that transitions made determines its history. The validator
checks neither the phases nor the codes of the events.
-/

namespace StorageManager.Executor.Create

open Lib.Checks

set_option autoImplicit false

/-- How far a record has come. -/
def ProductionCreateRuntimePhase.rank : ProductionCreateRuntimePhase → Nat
  | .prepared => 0
  | .writingPartitionTable => 1
  | .partitionTableWrittenAwaitingRediscovery => 2
  | .partitionMappedVerified => 3
  | .formattingFilesystem => 4
  | .filesystemFormattedAwaitingVerification => 5
  | .completed => 6
  | .recoveryRequired => 7

/-- The phases of a create that succeeds, with the codes of their events. -/
def fullHistory : List (ProductionCreateRuntimePhase × String) :=
  [(.writingPartitionTable, "partition-table-write-started"),
    (.partitionTableWrittenAwaitingRediscovery, "partition-table-write-succeeded"),
    (.partitionMappedVerified, "partition-rediscovery-verified"),
    (.formattingFilesystem, "filesystem-format-started"),
    (.filesystemFormattedAwaitingVerification, "filesystem-format-succeeded"),
    (.completed, "filesystem-rediscovery-verified")]

/-- The history that leads to a phase other than RecoveryRequired. -/
def historyOf (phase : ProductionCreateRuntimePhase) :
    List (ProductionCreateRuntimePhase × String) := fullHistory.take phase.rank

/-- Which history belongs to a phase. RecoveryRequired has one for each phase between
Prepared and Completed. -/
def Tells (history : List (ProductionCreateRuntimePhase × String))
    (phase : ProductionCreateRuntimePhase) : Prop :=
  (phase ≠ .recoveryRequired ∧ history = historyOf phase) ∨
  (phase = .recoveryRequired ∧ ∃ p : ProductionCreateRuntimePhase, 0 < p.rank ∧ p.rank < 6 ∧
    history = historyOf p ++ [(.recoveryRequired, "recovery-required")])

section Table

variable {p q : ProductionCreateRuntimePhase} {t : ProductionCreateRuntimeTransition}
  {code : String} {history : List (ProductionCreateRuntimePhase × String)}

theorem transitionTarget_rank (h : transitionTarget p t = some (q, code)) : p.rank < q.rank := by
  unfold transitionTarget at h
  split at h <;> cases h <;> decide

/-- A history belongs to the phase its last event leads to. -/
theorem Tells.step (hp : Tells history p) (h : transitionTarget p t = some (q, code)) :
    Tells (history ++ [(q, code)]) q := by
  have hforward : p ≠ .recoveryRequired ∧ history = historyOf p := by
    rcases hp with hp | ⟨hp, -⟩
    · exact hp
    · subst hp
      cases h
  obtain ⟨-, rfl⟩ := hforward
  unfold transitionTarget at h
  split at h
  all_goals cases h
  -- the line of phases
  iterate 6 exact .inl ⟨by decide, rfl⟩
  -- the ways out of it
  all_goals exact .inr ⟨rfl, _, by decide, by decide, rfl⟩

/-- Only Prepared has no history. -/
theorem Tells.nil (hp : Tells [] p) : p = .prepared := by
  rcases hp with ⟨-, h⟩ | ⟨-, p', -, -, h⟩
  · cases p <;> first | rfl | cases h
  · exact absurd h.symm (List.append_ne_nil_of_right_ne_nil _ (List.cons_ne_nil _ _))

/-- What the flags of a transition say about the phase it leaves and the one it reaches. -/
theorem transitionTarget_flags (h : transitionTarget p t = some (q, code)) :
    (t = .beginPartitionTableWrite ↔ p = .prepared) ∧ q ≠ .prepared ∧
      (t = .beginFilesystemFormat ↔ q = .formattingFilesystem) := by
  unfold transitionTarget at h
  split at h <;> cases h <;> decide

end Table

/-- The events of a history. -/
def numbered (history : List (ProductionCreateRuntimePhase × String)) :
    List ProductionCreateRuntimeJournalEvent :=
  history.mapIdx fun i e => ⟨sequenceOf i, e.1, e.2⟩

/-- The phases and codes of a record's events. -/
def ProductionCreateRuntimeJournal.history (j : ProductionCreateRuntimeJournal) :
    List (ProductionCreateRuntimePhase × String) := j.events.map fun e => (e.phase, e.code)

theorem eventsNumbered_numbered (history : List (ProductionCreateRuntimePhase × String)) :
    eventsNumbered (numbered history) = true := by
  have hall : ∀ e ∈ (numbered history).zipIdx, (e.1.sequence == sequenceOf e.2) = true := by
    rintro ⟨e, i⟩ he
    obtain ⟨hi, he⟩ := List.mem_zipIdx' he
    rw [he]
    simp [numbered]
  have hlast : (numbered history).getLast?.all
      (fun e => e.sequence == (numbered history).length % 2 ^ 32) = true := by
    cases hl : (numbered history).getLast? with
    | none => rfl
    | some e =>
      rw [List.getLast?_eq_getElem?] at hl
      obtain ⟨hi, rfl⟩ := List.getElem?_eq_some_iff.mp hl
      simp only [numbered, List.getElem_mapIdx, List.length_mapIdx, Option.all_some, beq_iff_eq,
        sequenceOf] at hi ⊢
      omega
  unfold eventsNumbered
  rw [List.all_eq_true.mpr hall, hlast]
  rfl

/-- Events that are numbered from one on are the events of their phases and codes. -/
theorem numbered_history {j : ProductionCreateRuntimeJournal}
    (h : eventsNumbered j.events = true) : numbered j.history = j.events := by
  unfold eventsNumbered at h
  obtain ⟨hall, -⟩ := Bool.and_eq_true_iff.mp h
  apply List.ext_getElem
  · simp [numbered, ProductionCreateRuntimeJournal.history]
  · intro i hi hi'
    have hmem : (j.events[i], i) ∈ j.events.zipIdx := List.mem_zipIdx_iff_getElem?.mpr (by simp [hi'])
    have hsequence := beq_iff_eq.mp (List.all_eq_true.mp hall _ hmem)
    simp only [numbered, ProductionCreateRuntimeJournal.history, List.getElem_mapIdx,
      List.getElem_map]
    rw [← hsequence]

section Records

variable [Fingerprint] {j r r' : ProductionCreateRuntimeJournal}
  {t : ProductionCreateRuntimeTransition}
  {p q : ProductionCreateRuntimePhase} {code : String}
  {history : List (ProductionCreateRuntimePhase × String)}

/-- The checks of a record that its history does not touch. -/
structure WellBound (j : ProductionCreateRuntimeJournal) : Prop where
  geometry : ¬(j.schemaVersion ≠ 1 ∨ ¬j.integrityMatches ∨ j.disk = "" ∨
    ¬startsWith j.disk "/dev/" ∨ j.partitionDevice = "" ∨ ¬startsWith j.partitionDevice "/dev/" ∨
    ¬(j.partitionTable = "gpt" ∨ j.partitionTable = "dos") ∨ j.partitionStartSector = 0 ∨
    j.partitionSectorCount = 0 ∨ j.partitionSizeBytes = 0 ∨
    ¬(j.filesystem = "ext4" ∨ j.filesystem = "xfs"))
  digests : ∀ d ∈ [j.activationId, j.executionPermitId, j.preflightReceiptId, j.launchId,
    j.createIntentId], isSha256Hex d = true

/-- The checks of a record's history. -/
structure WellFlagged (j : ProductionCreateRuntimeJournal) : Prop where
  events : eventsNumbered j.events = true
  mutation : (j.phase ≠ .prepared) = (j.mutationMayHaveStarted = true)
  filesystem : j.filesystemMayHaveChanged = true → j.partitionTableMayHaveChanged = true

theorem validateJournal_eq_ok_iff : validateJournal j = .ok () ↔ WellBound j ∧ WellFlagged j := by
  have digest : ∀ value label, validateDigest value label = .ok () ↔ isSha256Hex value = true := by
    intro value label
    rw [validateDigest, refuse_eq_ok_iff, not_not]
    rfl
  unfold validateJournal
  constructor
  · intro h
    obtain ⟨hgeometry, h⟩ := check_eq_ok_iff.mp h
    obtain ⟨hactivation, h⟩ := check_eq_ok_iff.mp h
    obtain ⟨hpermit, h⟩ := check_eq_ok_iff.mp h
    obtain ⟨hpreflight, h⟩ := check_eq_ok_iff.mp h
    obtain ⟨hlaunch, h⟩ := check_eq_ok_iff.mp h
    obtain ⟨hintent, h⟩ := check_eq_ok_iff.mp h
    obtain ⟨hevents, h⟩ := check_eq_ok_iff.mp h
    obtain ⟨hmutation, hfilesystem⟩ := check_eq_ok_iff.mp h
    rw [digest] at hactivation hpermit hpreflight hlaunch hintent
    simp only [refuse_eq_ok_iff, not_not, not_and, ne_eq] at hevents hmutation hfilesystem
    refine ⟨⟨refuse_eq_ok_iff.mp hgeometry, ?_⟩, hevents, hmutation, hfilesystem⟩
    simp [hactivation, hpermit, hpreflight, hlaunch, hintent]
  · rintro ⟨⟨hgeometry, hdigests⟩, hevents, hmutation, hfilesystem⟩
    simp only [List.forall_mem_cons] at hdigests
    obtain ⟨hactivation, hpermit, hpreflight, hlaunch, hintent, -⟩ := hdigests
    refine check_eq_ok_iff.mpr ⟨refuse_eq_ok_iff.mpr hgeometry, ?_⟩
    refine check_eq_ok_iff.mpr ⟨(digest _ _).mpr hactivation, ?_⟩
    refine check_eq_ok_iff.mpr ⟨(digest _ _).mpr hpermit, ?_⟩
    refine check_eq_ok_iff.mpr ⟨(digest _ _).mpr hpreflight, ?_⟩
    refine check_eq_ok_iff.mpr ⟨(digest _ _).mpr hlaunch, ?_⟩
    refine check_eq_ok_iff.mpr ⟨(digest _ _).mpr hintent, ?_⟩
    refine check_eq_ok_iff.mpr ⟨refuse_eq_ok_iff.mpr (not_not.mpr hevents), ?_⟩
    refine check_eq_ok_iff.mpr ⟨refuse_eq_ok_iff.mpr (not_not.mpr hmutation), ?_⟩
    exact refuse_eq_ok_iff.mpr fun h => h.2 (hfilesystem h.1)

/-- The record with the binding of `j` and a history that leads to `phase`. -/
def recordWith (j : ProductionCreateRuntimeJournal)
    (history : List (ProductionCreateRuntimePhase × String))
    (phase : ProductionCreateRuntimePhase) : ProductionCreateRuntimeJournal :=
  { j with
    phase := phase
    mutationMayHaveStarted := phase != .prepared
    partitionTableMayHaveChanged := !history.isEmpty
    filesystemMayHaveChanged := history.any fun e => e.1 == .formattingFilesystem
    events := numbered history }

/-- The record after one more event. -/
def recordAfter (j : ProductionCreateRuntimeJournal) (t : ProductionCreateRuntimeTransition)
    (phase : ProductionCreateRuntimePhase) (code : String) : ProductionCreateRuntimeJournal :=
  { j with
    phase := phase
    mutationMayHaveStarted := j.mutationMayHaveStarted || t = .beginPartitionTableWrite
    partitionTableMayHaveChanged := j.partitionTableMayHaveChanged || t = .beginPartitionTableWrite
    filesystemMayHaveChanged := j.filesystemMayHaveChanged || t = .beginFilesystemFormat
    events := j.events ++ [⟨sequenceOf j.events.length, phase, code⟩] }

/-- All a transition does. -/
theorem applyTransition_eq_ok_iff : applyTransition j t = .ok r ↔
    ∃ phase code, transitionTarget j.phase t = some (phase, code) ∧
      validateJournal (recordAfter j t phase code) = .ok () ∧ r = recordAfter j t phase code := by
  unfold applyTransition
  cases transitionTarget j.phase t with
  | none => simp
  | some target =>
    obtain ⟨phase, code⟩ := target
    constructor
    · intro h
      obtain ⟨hvalid, h⟩ := check_eq_ok_iff.mp h
      exact ⟨phase, code, rfl, hvalid, (Except.ok.inj h).symm⟩
    · rintro ⟨phase', code', htarget, hvalid, rfl⟩
      cases htarget
      exact check_eq_ok_iff.mpr ⟨hvalid, rfl⟩

theorem applyTransition_rank (h : applyTransition j t = .ok r) : j.phase.rank < r.phase.rank := by
  obtain ⟨phase, code, htarget, -, rfl⟩ := applyTransition_eq_ok_iff.mp h
  exact transitionTarget_rank htarget

omit [Fingerprint] in
/-- One more event keeps a record in the shape of its history. -/
theorem recordAfter_recordWith (hp : Tells history p)
    (htarget : transitionTarget p t = some (q, code)) :
    recordAfter (recordWith j history p) t q code =
      recordWith j (history ++ [(q, code)]) q := by
  obtain ⟨hbegin, hq, hformat⟩ := transitionTarget_flags htarget
  have hmutation : ((p != .prepared) || decide (t = .beginPartitionTableWrite)) =
      (q != .prepared) := by
    rw [bne_iff_ne.mpr hq]
    by_cases hprepared : p = .prepared
    · rw [decide_eq_true (hbegin.mpr hprepared), Bool.or_true]
    · rw [bne_iff_ne.mpr hprepared, Bool.true_or]
  have hpartition : (!history.isEmpty || decide (t = .beginPartitionTableWrite)) =
      !(history ++ [(q, code)]).isEmpty := by
    cases history with
    | nil => simp [hbegin, hp.nil]
    | cons e history => rfl
  have hfilesystem : ((history.any fun e => e.1 == .formattingFilesystem) ||
      decide (t = .beginFilesystemFormat)) =
      (history ++ [(q, code)]).any fun e => e.1 == .formattingFilesystem := by
    by_cases hq : q = .formattingFilesystem <;> simp [hformat, hq]
  have hevents : numbered history ++ [⟨sequenceOf (numbered history).length, q, code⟩] =
      numbered (history ++ [(q, code)]) := by
    simp [numbered]
  simp only [recordAfter, recordWith, hmutation, hpartition, hfilesystem, hevents]

theorem validateJournal_recordWith (hj : WellBound j) :
    validateJournal (recordWith j history p) = .ok () := by
  refine validateJournal_eq_ok_iff.mpr ⟨⟨hj.geometry, hj.digests⟩,
    eventsNumbered_numbered history, by simp [recordWith], ?_⟩
  intro h
  cases history with
  | nil => cases h
  | cons e history => rfl

/-- The Prepared record with the binding of `j`. -/
def preparedRecord (j : ProductionCreateRuntimeJournal) : ProductionCreateRuntimeJournal :=
  { j with
    phase := .prepared
    mutationMayHaveStarted := false
    partitionTableMayHaveChanged := false
    filesystemMayHaveChanged := false
    events := [] }

/-- One transition after the other. -/
def applyTransitions (j : ProductionCreateRuntimeJournal)
    (ts : List ProductionCreateRuntimeTransition) :
    Except ProductionCreateRuntimeJournalError ProductionCreateRuntimeJournal :=
  ts.foldlM (fun j t => applyTransition j t) j

theorem applyTransitions_append {ts : List ProductionCreateRuntimeTransition}
    (h : applyTransitions j ts = .ok r) (hr : applyTransition r t = .ok r') :
    applyTransitions j (ts ++ [t]) = .ok r' := by
  unfold applyTransitions at h ⊢
  rw [List.foldlM_append, h]
  show List.foldlM (fun j t => applyTransition j t) r [t] = .ok r'
  rw [List.foldlM_cons, hr]
  rfl

/-- Runs from the Prepared record keep the shape of a record that is told by its history. -/
theorem applyTransitions_recordWith {ts : List ProductionCreateRuntimeTransition} :
    ∀ {history p}, Tells history p → applyTransitions (recordWith j history p) ts = .ok r →
      ∃ history' p', Tells history' p' ∧ r = recordWith j history' p' := by
  induction ts with
  | nil =>
    intro history p hp h
    cases h
    exact ⟨history, p, hp, rfl⟩
  | cons t ts ih =>
    intro history p hp h
    rw [applyTransitions, List.foldlM_cons] at h
    obtain ⟨m, hm, h⟩ := bind_eq_ok_iff.mp h
    obtain ⟨q, code, htarget, -, rfl⟩ := applyTransition_eq_ok_iff.mp hm
    have hshape : recordAfter (recordWith j history p) t q code =
        recordWith j (history ++ [(q, code)]) q := recordAfter_recordWith hp htarget
    rw [hshape] at h
    exact ih (hp.step htarget) h

/-- Some transitions make this record from the Prepared one. -/
def Reachable (j : ProductionCreateRuntimeJournal) : Prop :=
  ∃ ts, applyTransitions (preparedRecord j) ts = .ok j

/-- Each told history of a sound binding is reached. -/
theorem reachable_recordWith (hj : WellBound j) (hp : Tells history p) :
    ∃ ts, applyTransitions (preparedRecord j) ts = .ok (recordWith j history p) := by
  have step : ∀ {h p t q code ts}, Tells h p → transitionTarget p t = some (q, code) →
      applyTransitions (preparedRecord j) ts = .ok (recordWith j h p) →
      applyTransitions (preparedRecord j) (ts ++ [t]) = .ok (recordWith j (h ++ [(q, code)]) q) := by
    intro h p t q code ts hp htarget hts
    have hafter := recordAfter_recordWith (j := j) hp htarget
    refine applyTransitions_append hts (applyTransition_eq_ok_iff.mpr ⟨q, code, htarget, ?_, ?_⟩)
    · rw [hafter]
      exact validateJournal_recordWith hj
    · exact hafter.symm
  have told : ∀ p : ProductionCreateRuntimePhase, p ≠ .recoveryRequired → Tells (historyOf p) p :=
    fun p hp => .inl ⟨hp, rfl⟩
  have hprepared : applyTransitions (preparedRecord j) [] =
      .ok (recordWith j (historyOf .prepared) .prepared) := rfl
  have hwriting := step (t := .beginPartitionTableWrite) (told .prepared (by decide)) rfl hprepared
  have hwritten := step (t := .partitionTableWriteSucceeded)
    (told .writingPartitionTable (by decide)) rfl hwriting
  have hmapped := step (t := .partitionRediscoveryVerified)
    (told .partitionTableWrittenAwaitingRediscovery (by decide)) rfl hwritten
  have hformatting := step (t := .beginFilesystemFormat)
    (told .partitionMappedVerified (by decide)) rfl hmapped
  have hformatted := step (t := .filesystemFormatSucceeded)
    (told .formattingFilesystem (by decide)) rfl hformatting
  have hcompleted := step (t := .filesystemRediscoveryVerified)
    (told .filesystemFormattedAwaitingVerification (by decide)) rfl hformatted
  rcases hp with ⟨hp, rfl⟩ | ⟨rfl, p', hlow, hhigh, rfl⟩
  · cases p with
    | prepared => exact ⟨_, hprepared⟩
    | writingPartitionTable => exact ⟨_, hwriting⟩
    | partitionTableWrittenAwaitingRediscovery => exact ⟨_, hwritten⟩
    | partitionMappedVerified => exact ⟨_, hmapped⟩
    | formattingFilesystem => exact ⟨_, hformatting⟩
    | filesystemFormattedAwaitingVerification => exact ⟨_, hformatted⟩
    | completed => exact ⟨_, hcompleted⟩
    | recoveryRequired => exact absurd rfl hp
  · cases p' with
    | prepared => exact absurd hlow (by decide)
    | writingPartitionTable =>
      exact ⟨_, step (t := .recoveryRequired) (told _ (by decide)) rfl hwriting⟩
    | partitionTableWrittenAwaitingRediscovery =>
      exact ⟨_, step (t := .recoveryRequired) (told _ (by decide)) rfl hwritten⟩
    | partitionMappedVerified =>
      exact ⟨_, step (t := .recoveryRequired) (told _ (by decide)) rfl hmapped⟩
    | formattingFilesystem =>
      exact ⟨_, step (t := .recoveryRequired) (told _ (by decide)) rfl hformatting⟩
    | filesystemFormattedAwaitingVerification =>
      exact ⟨_, step (t := .recoveryRequired) (told _ (by decide)) rfl hformatted⟩
    | completed => exact absurd hhigh (by decide)
    | recoveryRequired => exact absurd hhigh (by decide)

/-- The events of a record are a history of its phase, and its two risk flags say what the
events say. -/
structure HistoryTold (j : ProductionCreateRuntimeJournal) : Prop where
  events : Tells j.history j.phase
  partition : j.partitionTableMayHaveChanged = !j.events.isEmpty
  filesystem : j.filesystemMayHaveChanged = j.events.any fun e => e.phase == .formattingFilesystem

omit [Fingerprint] in
theorem historyTold_recordWith (hp : Tells history p) : HistoryTold (recordWith j history p) := by
  have hhistory : (recordWith j history p).history = history := by
    apply List.ext_getElem <;> simp [ProductionCreateRuntimeJournal.history, recordWith, numbered]
  have hlength : (numbered history).isEmpty = history.isEmpty := by
    cases history <;> simp [numbered]
  have hany : ((numbered history).any fun e => e.phase == .formattingFilesystem) =
      history.any fun e => e.1 == .formattingFilesystem := by
    have hmap : (recordWith j history p).history.any (fun e => e.1 == .formattingFilesystem) =
        (numbered history).any fun e => e.phase == .formattingFilesystem := List.any_map
    rw [← hmap, hhistory]
  refine ⟨?_, ?_, ?_⟩
  · show Tells (recordWith j history p).history p
    rw [hhistory]
    exact hp
  · show (!history.isEmpty) = !(numbered history).isEmpty
    rw [hlength]
  · exact hany.symm

omit [Fingerprint] in
/-- An accepted record that is told by its history has the shape of it. -/
theorem HistoryTold.shape (hj : HistoryTold j) (hflagged : WellFlagged j) :
    j = recordWith j j.history j.phase := by
  have hmutation : j.mutationMayHaveStarted = (j.phase != .prepared) := by
    have h := hflagged.mutation
    by_cases hp : j.phase = .prepared <;> simp_all
  have hpartition : j.partitionTableMayHaveChanged = !j.history.isEmpty := by
    rw [hj.partition, ProductionCreateRuntimeJournal.history, List.isEmpty_map]
  have hfilesystem : j.filesystemMayHaveChanged =
      j.history.any fun e => e.1 == .formattingFilesystem := by
    rw [hj.filesystem, ProductionCreateRuntimeJournal.history, List.any_map]
    rfl
  rw [recordWith, numbered_history hflagged.events, ← hmutation, ← hpartition, ← hfilesystem]

/-- The accepted records that some transitions make, with the full history when they are
Completed, are the ones whose history tells their phase and flags. -/
theorem accepted_reachable_iff (hj : validateJournal j = .ok ()) :
    (Reachable j ∧ (j.phase = .completed → j.history = fullHistory)) ↔ HistoryTold j := by
  obtain ⟨hbound, hflagged⟩ := validateJournal_eq_ok_iff.mp hj
  constructor
  · rintro ⟨⟨ts, hts⟩, -⟩
    have hprepared : preparedRecord j = recordWith j (historyOf .prepared) .prepared := rfl
    rw [hprepared] at hts
    obtain ⟨history, p, hp, hshape⟩ :=
      applyTransitions_recordWith (.inl ⟨by decide, rfl⟩) hts
    rw [hshape]
    exact historyTold_recordWith hp
  · intro htold
    refine ⟨?_, ?_⟩
    · obtain ⟨ts, hts⟩ := reachable_recordWith hbound htold.events
      rw [← htold.shape hflagged] at hts
      exact ⟨ts, hts⟩
    · intro hcompleted
      rcases htold.events with ⟨-, h⟩ | ⟨hrecovery, -⟩
      · rw [h, hcompleted]
        rfl
      · rw [hcompleted] at hrecovery
        cases hrecovery

section Sample

/-- A Prepared record of a create on a loop device. -/
def loopRecord : ProductionCreateRuntimeJournal :=
  let id := fingerprint (.str "id")
  let j : ProductionCreateRuntimeJournal :=
    { schemaVersion := 1, journalId := "", activationId := id, executionPermitId := id
      preflightReceiptId := id, launchId := id, createIntentId := id, disk := "/dev/loop7"
      partitionDevice := "/dev/loop7p1", partitionTable := "gpt", partitionStartSector := 2048
      partitionSectorCount := 262144, partitionSizeBytes := 134217728, filesystem := "ext4"
      phase := .prepared, mutationMayHaveStarted := false, partitionTableMayHaveChanged := false
      filesystemMayHaveChanged := false, events := [] }
  { j with journalId := j.expectedJournalId }

theorem loopRecord_bound : WellBound loopRecord := by
  have hdisk : startsWith "/dev/loop7" "/dev/" = true := by decide
  have hdevice : startsWith "/dev/loop7p1" "/dev/" = true := by decide
  have hintegrity : loopRecord.integrityMatches = true := beq_self_eq_true _
  refine ⟨?_, by simp [loopRecord]⟩
  rw [hintegrity]
  simp [loopRecord, hdisk, hdevice]

/-- A Completed record that tells nothing, with the flags its mount asks for. -/
def untoldRecord : ProductionCreateRuntimeJournal :=
  { loopRecord with
    phase := .completed
    mutationMayHaveStarted := true
    partitionTableMayHaveChanged := true
    filesystemMayHaveChanged := true }

private theorem untoldRecord_ok : validateJournal untoldRecord = .ok () :=
  validateJournal_eq_ok_iff.mpr ⟨⟨loopRecord_bound.geometry, loopRecord_bound.digests⟩, rfl,
    by simp [untoldRecord], fun _ => rfl⟩

private theorem untoldRecord_unreachable : ¬Reachable untoldRecord := by
  rintro ⟨ts, hts⟩
  have hprepared : preparedRecord untoldRecord =
      recordWith untoldRecord (historyOf .prepared) .prepared := rfl
  rw [hprepared] at hts
  obtain ⟨history, p, hp, hshape⟩ := applyTransitions_recordWith (.inl ⟨by decide, rfl⟩) hts
  have htold : HistoryTold untoldRecord := by
    rw [hshape]
    exact historyTold_recordWith hp
  have hpartition := htold.partition
  cases hpartition

end Sample

end Records

theorem accepted_reachable_iff_sample :
    let j := recordWith loopRecord fullHistory .completed
    (Reachable j ∧ (j.phase = .completed → j.history = fullHistory)) ↔ HistoryTold j :=
  accepted_reachable_iff (validateJournal_recordWith loopRecord_bound)

theorem untoldRecord_accepted : validateJournal untoldRecord = .ok () ∧
    untoldRecord.phase = .completed ∧ untoldRecord.events = [] ∧ ¬Reachable untoldRecord :=
  ⟨untoldRecord_ok, rfl, rfl, untoldRecord_unreachable⟩

end StorageManager.Executor.Create
