import StorageManager.Executor.SwapJournal

/-!
# Laws of the swap runtime journal

Both transition matrices agree, so a transition of the table turns an accepted record
into an accepted record. A transition moves up the order of phases and keeps what the
record is bound to.
-/

namespace StorageManager.Executor.Swap

open Lib.Checks
open Lib.Effects
open Lib.RecordFile

set_option autoImplicit false

/-- How far a record has come. -/
def ProductionSwapRuntimePhase.rank : ProductionSwapRuntimePhase → Nat
  | .prepared => 0
  | .creatingSwapfile => 1
  | .swapfileCreated => 2
  | .formattingReplacement => 3
  | .replacementFormatted => 4
  | .activatingReplacement => 5
  | .replacementActive => 6
  | .deactivatingOldSwap => 7
  | .oldSwapDeactivated => 8
  | .updatingPersistentConfig => 9
  | .persistentConfigUpdated => 10
  | .removingPartitions => 11
  | .partitionsRemoved => 12
  | .completed => 13
  | .recoveryRequired => 14

/-- The transition that leads to a phase. None leads to Prepared. -/
private def transitionInto : ProductionSwapRuntimePhase → ProductionSwapRuntimeTransition
  | .prepared | .creatingSwapfile => .beginSwapfileCreation
  | .swapfileCreated => .swapfileCreatedVerified
  | .formattingReplacement => .beginReplacementFormatting
  | .replacementFormatted => .replacementFormattedVerified
  | .activatingReplacement => .beginReplacementActivation
  | .replacementActive => .replacementActiveVerified
  | .deactivatingOldSwap => .beginOldSwapDeactivation
  | .oldSwapDeactivated => .oldSwapDeactivatedVerified
  | .updatingPersistentConfig => .beginPersistentConfigUpdate
  | .persistentConfigUpdated => .persistentConfigUpdatedVerified
  | .removingPartitions => .beginPartitionRemoval
  | .partitionsRemoved => .partitionsRemovedVerified
  | .completed => .completed
  | .recoveryRequired => .recoveryRequired

section Table

variable {p q : ProductionSwapRuntimePhase} {t : ProductionSwapRuntimeTransition} {code : String}

theorem transitionTarget_rank (h : transitionTarget p t = some (q, code)) : p.rank < q.rank := by
  unfold transitionTarget at h
  split at h <;> cases h <;> decide

/-- The matrix of the validator allows what the table does. -/
theorem transitionTarget_allowed (h : transitionTarget p t = some (q, code)) :
    allowedTransition p q code = true := by
  unfold transitionTarget at h
  split at h <;> cases h <;> decide

/-- The table does what the matrix of the validator allows. -/
theorem allowedTransition_target (h : allowedTransition p q code = true) :
    ∃ t, transitionTarget p t = some (q, code) := by
  refine ⟨transitionInto q, ?_⟩
  unfold allowedTransition at h
  split at h
  all_goals first
    | cases h
    | obtain rfl := eq_of_beq h
      rfl

/-- The codes of the table are plain words. -/
theorem transitionTarget_code (h : transitionTarget p t = some (q, code)) :
    code ≠ "" ∧ code.toList.any isControl = false := by
  unfold transitionTarget at h
  split at h <;> cases h <;> decide

/-- The phase a refused transition is reported with is the one an accepted one leads to. -/
theorem transitionTarget_hint (h : transitionTarget p t = some (q, code)) :
    q = transitionPhaseHint t := by
  unfold transitionTarget at h
  split at h <;> cases h <;> rfl

end Table

/-- One more event after a chain that is accepted. -/
theorem validateEvents_append {e : ProductionSwapRuntimeJournalEvent}
    {q : ProductionSwapRuntimePhase} :
    ∀ {events : List ProductionSwapRuntimeJournalEvent} {i : Nat} {p : ProductionSwapRuntimePhase},
      validateEvents i p events = .ok q →
      validateEvents i p (events ++ [e]) = validateEvents (i + events.length) q [e]
  | [], i, p, h => by
    cases h
    rfl
  | x :: events, i, p, h => by
    rw [validateEvents] at h
    obtain ⟨hchain, h⟩ := check_eq_ok_iff.mp h
    obtain ⟨hallowed, h⟩ := check_eq_ok_iff.mp h
    have ih := validateEvents_append (e := e) h
    have hlen : i + (x :: events).length = i + 1 + events.length := by
      rw [List.length_cons]
      omega
    rw [List.cons_append, validateEvents, hchain, hallowed, hlen, ← ih]
    rfl

/-- A chain that is accepted, without its last event. -/
theorem validateEvents_of_append {e : ProductionSwapRuntimeJournalEvent}
    {q : ProductionSwapRuntimePhase} :
    ∀ {events : List ProductionSwapRuntimeJournalEvent} {i : Nat} {p : ProductionSwapRuntimePhase},
      validateEvents i p (events ++ [e]) = .ok q →
      validateEvents i p events = .ok e.source ∧ e.sequence = i + events.length + 1 ∧
        allowedTransition e.source e.target e.code = true ∧ e.target = q
  | [], i, p, h => by
    rw [List.nil_append, validateEvents] at h
    obtain ⟨hchain, h⟩ := check_eq_ok_iff.mp h
    obtain ⟨hallowed, h⟩ := check_eq_ok_iff.mp h
    simp only [refuse_eq_ok_iff, not_or, not_not] at hchain hallowed
    obtain ⟨hsequence, hsource, -⟩ := hchain
    cases h
    exact ⟨by rw [hsource, validateEvents], hsequence, hallowed, rfl⟩
  | x :: events, i, p, h => by
    rw [List.cons_append, validateEvents] at h
    obtain ⟨hchain, h⟩ := check_eq_ok_iff.mp h
    obtain ⟨hallowed, h⟩ := check_eq_ok_iff.mp h
    obtain ⟨hevents, hsequence, hlast⟩ := validateEvents_of_append h
    refine ⟨?_, by rw [hsequence, List.length_cons]; omega, hlast⟩
    rw [validateEvents]
    exact check_eq_ok_iff.mpr ⟨hchain, check_eq_ok_iff.mpr ⟨hallowed, hevents⟩⟩

@[simp] theorem validateDigest_eq_ok_iff {value label : String} :
    validateDigest value label = .ok () ↔ isSha256Hex value = true := by
  rw [validateDigest, refuse_eq_ok_iff, not_not]
  rfl

@[simp] theorem validateAbsolutePath_eq_ok_iff {value label : String} :
    validateAbsolutePath value label = .ok () ↔
      value ≠ "" ∧ startsWith value "/" = true ∧ value.toList.any isControl = false := by
  simp [validateAbsolutePath]

section Records

variable [Fingerprint]

/-- The checks of a record that its history does not touch. -/
structure WellBound (j : ProductionSwapRuntimeJournal) : Prop where
  schema : j.schemaVersion = 1
  digests : ∀ d ∈ [j.journalId, j.activationId, j.executionPermitId, j.preflightReceiptId,
    j.launchId, j.swapReplacementIntentId], isSha256Hex d = true
  paths : ∀ p ∈ [j.target, j.disk, j.retiringSwapDevice, j.swapfilePath],
    p ≠ "" ∧ startsWith p "/" = true ∧ p.toList.any isControl = false
  size : j.retiringSwapBytes ≠ 0 ∧ j.swapfileMode = 0o600
  integrity : j.integrityMatches = true

/-- The checks of a record's history. -/
structure WellTold (j : ProductionSwapRuntimeJournal) : Prop where
  events : validateEvents 0 .prepared j.events = .ok j.phase
  mutation : j.mutationMayHaveStarted = mutationExpected j.events
  persistent : j.persistentConfigMayHaveChanged = persistentExpected j.events
  partition : j.partitionTableMayHaveChanged = partitionExpected j.events

/-- The validator checks the binding and the history, nothing else. -/
theorem validateJournal_eq_ok_iff {j : ProductionSwapRuntimeJournal} :
    validateJournal j = .ok () ↔ WellBound j ∧ WellTold j := by
  unfold validateJournal
  constructor
  · intro h
    obtain ⟨hschema, h⟩ := check_eq_ok_iff.mp h
    obtain ⟨hdigests, h⟩ := check_eq_ok_iff.mp h
    obtain ⟨hpaths, h⟩ := check_eq_ok_iff.mp h
    obtain ⟨hsize, h⟩ := check_eq_ok_iff.mp h
    obtain ⟨hintegrity, h⟩ := check_eq_ok_iff.mp h
    obtain ⟨q, hevents, h⟩ := bind_eq_ok_iff.mp h
    obtain ⟨hphase, h⟩ := check_eq_ok_iff.mp h
    obtain ⟨-, hflags⟩ := check_eq_ok_iff.mp h
    simp only [refuse_eq_ok_iff, not_or, not_not] at hschema hsize hintegrity hphase hflags
    subst hphase
    have hbound : WellBound j :=
      ⟨hschema, by simpa using hdigests, by simpa using hpaths, hsize, hintegrity⟩
    exact ⟨hbound, hevents, hflags.1, hflags.2.1, hflags.2.2⟩
  · rintro ⟨hbound, htold⟩
    have hdigests : checkAll (fun f => validateDigest f.1 f.2) [(j.journalId, "journal ID"),
        (j.activationId, "activation ID"), (j.executionPermitId, "execution permit ID"),
        (j.preflightReceiptId, "preflight receipt ID"), (j.launchId, "launch ID"),
        (j.swapReplacementIntentId, "swap replacement intent ID")] = .ok () := by
      simpa using hbound.digests
    have hpaths : checkAll (fun f => validateAbsolutePath f.1 f.2) [(j.target, "target"),
        (j.disk, "disk"), (j.retiringSwapDevice, "retiring swap device"),
        (j.swapfilePath, "swapfile path")] = .ok () := by
      simpa using hbound.paths
    -- an empty history ends in Prepared
    have hterminal : ¬((j.phase = .completed ∨ j.phase = .recoveryRequired) ∧ j.events = []) := by
      rintro ⟨hphase, hnil⟩
      have hevents := htold.events
      rw [hnil, validateEvents] at hevents
      have hprepared := Except.ok.inj hevents
      rw [← hprepared] at hphase
      simp at hphase
    have hflags : ¬(j.mutationMayHaveStarted ≠ mutationExpected j.events ∨
        j.persistentConfigMayHaveChanged ≠ persistentExpected j.events ∨
        j.partitionTableMayHaveChanged ≠ partitionExpected j.events) := by
      simp [htold.mutation, htold.persistent, htold.partition]
    refine check_eq_ok_iff.mpr ⟨refuse_eq_ok_iff.mpr (not_not.mpr hbound.schema), ?_⟩
    refine check_eq_ok_iff.mpr ⟨hdigests, check_eq_ok_iff.mpr ⟨hpaths, ?_⟩⟩
    refine check_eq_ok_iff.mpr ⟨refuse_eq_ok_iff.mpr (by simpa using hbound.size), ?_⟩
    refine check_eq_ok_iff.mpr ⟨refuse_eq_ok_iff.mpr (not_not.mpr hbound.integrity), ?_⟩
    refine bind_eq_ok_iff.mpr ⟨j.phase, htold.events, ?_⟩
    refine check_eq_ok_iff.mpr ⟨refuse_eq_ok_iff.mpr (not_not.mpr rfl), ?_⟩
    exact check_eq_ok_iff.mpr ⟨refuse_eq_ok_iff.mpr hterminal, refuse_eq_ok_iff.mpr hflags⟩

/-- The record after one more event. -/
def recordAfter (j : ProductionSwapRuntimeJournal) (phase : ProductionSwapRuntimePhase)
    (code : String) : ProductionSwapRuntimeJournal :=
  recomputeFlags { j with
    events := j.events ++ [⟨j.events.length + 1, j.phase, phase, code⟩]
    phase := phase }

/-- What a transition does to the record, and what it leaves as it was. -/
theorem applyTransition_ok {j j' : ProductionSwapRuntimeJournal}
    {t : ProductionSwapRuntimeTransition} (h : applyTransition j t = .ok j') :
    ∃ phase code, transitionTarget j.phase t = some (phase, code) ∧
      j' = recordAfter j phase code := by
  unfold applyTransition at h
  obtain ⟨-, h⟩ := check_eq_ok_iff.mp h
  split at h
  · cases h
  · rename_i phase code htarget
    obtain ⟨-, h⟩ := check_eq_ok_iff.mp h
    cases h
    exact ⟨phase, code, htarget, rfl⟩

theorem applyTransition_rank {j j' : ProductionSwapRuntimeJournal}
    {t : ProductionSwapRuntimeTransition} (h : applyTransition j t = .ok j') :
    j.phase.rank < j'.phase.rank := by
  obtain ⟨phase, code, htarget, rfl⟩ := applyTransition_ok h
  exact transitionTarget_rank htarget

theorem applyTransition_phase {j j' : ProductionSwapRuntimeJournal}
    {t : ProductionSwapRuntimeTransition} (h : applyTransition j t = .ok j') :
    j'.phase = transitionPhaseHint t := by
  obtain ⟨phase, code, htarget, rfl⟩ := applyTransition_ok h
  exact transitionTarget_hint htarget

/-- The record the store can always take: a transition of the table from an accepted
record. -/
theorem applyTransition_eq_ok {j : ProductionSwapRuntimeJournal}
    {t : ProductionSwapRuntimeTransition} {phase : ProductionSwapRuntimePhase} {code : String}
    (hj : validateJournal j = .ok ()) (ht : transitionTarget j.phase t = some (phase, code)) :
    applyTransition j t = .ok (recordAfter j phase code) ∧
      validateJournal (recordAfter j phase code) = .ok () := by
  have hvalid : validateJournal (recordAfter j phase code) = .ok () := by
    obtain ⟨hbound, htold⟩ := validateJournal_eq_ok_iff.mp hj
    have hcode := transitionTarget_code ht
    have hevents : validateEvents 0 .prepared (recordAfter j phase code).events = .ok phase := by
      have happend := validateEvents_append (e := ⟨j.events.length + 1, j.phase, phase, code⟩)
        htold.events
      rw [recordAfter, recomputeFlags, happend, validateEvents,
        refuse_eq_ok_iff.mpr (by simp [hcode.1, hcode.2]),
        refuse_eq_ok_iff.mpr (by simp [transitionTarget_allowed ht])]
      rfl
    exact validateJournal_eq_ok_iff.mpr ⟨⟨hbound.schema, hbound.digests, hbound.paths, hbound.size,
      hbound.integrity⟩, hevents, rfl, rfl, rfl⟩
  refine ⟨?_, hvalid⟩
  unfold applyTransition
  refine check_eq_ok_iff.mpr ⟨hj, ?_⟩
  rw [ht]
  exact check_eq_ok_iff.mpr ⟨hvalid, rfl⟩

section History

/-- The Prepared record with the binding of `j`. -/
def preparedRecord (j : ProductionSwapRuntimeJournal) : ProductionSwapRuntimeJournal :=
  { j with
    phase := .prepared
    mutationMayHaveStarted := false
    persistentConfigMayHaveChanged := false
    partitionTableMayHaveChanged := false
    events := [] }

/-- One transition after the other. -/
def applyTransitions (j : ProductionSwapRuntimeJournal)
    (ts : List ProductionSwapRuntimeTransition) :
    Except ProductionSwapRuntimeJournalError ProductionSwapRuntimeJournal :=
  ts.foldlM applyTransition j

/-- The record before its last event. -/
private def recordBefore (j : ProductionSwapRuntimeJournal)
    (events : List ProductionSwapRuntimeJournalEvent) (phase : ProductionSwapRuntimePhase) :
    ProductionSwapRuntimeJournal :=
  recomputeFlags { j with events := events, phase := phase }

/-- The last transition of an accepted record, and the accepted record before it. -/
theorem last_transition {j : ProductionSwapRuntimeJournal}
    {events : List ProductionSwapRuntimeJournalEvent} {e : ProductionSwapRuntimeJournalEvent}
    (hj : validateJournal j = .ok ()) (he : j.events = events ++ [e]) :
    ∃ r t, r.events = events ∧ preparedRecord r = preparedRecord j ∧ validateJournal r = .ok () ∧
      applyTransition r t = .ok j := by
  obtain ⟨hbound, htold⟩ := validateJournal_eq_ok_iff.mp hj
  have hevents := htold.events
  rw [he] at hevents
  obtain ⟨hevents, hsequence, hallowed, htarget⟩ := validateEvents_of_append hevents
  obtain ⟨t, ht⟩ := allowedTransition_target hallowed
  let r := recordBefore j events e.source
  have hr : validateJournal r = .ok () :=
    validateJournal_eq_ok_iff.mpr ⟨⟨hbound.schema, hbound.digests, hbound.paths, hbound.size,
      hbound.integrity⟩, hevents, rfl, rfl, rfl⟩
  have hafter : recordAfter r e.target e.code = j := by
    have hlast : (⟨events.length + 1, e.source, e.target, e.code⟩ :
        ProductionSwapRuntimeJournalEvent) = e := by
      cases e
      simp at hsequence
      simp [hsequence]
    have hsame : r.events ++ [⟨r.events.length + 1, r.phase, e.target, e.code⟩] = j.events := by
      show events ++ [⟨events.length + 1, e.source, e.target, e.code⟩] = j.events
      rw [hlast, he]
    rw [recordAfter, hsame, htarget]
    have hmutation := htold.mutation
    have hpersistent := htold.persistent
    have hpartition := htold.partition
    cases j
    simp_all [r, recordBefore, recomputeFlags]
  exact ⟨r, t, rfl, rfl, hr, by rw [(applyTransition_eq_ok hr ht).1, hafter]⟩

/-- The validator accepts exactly the records with a sound binding that some transitions
make from the Prepared record. -/
theorem validateJournal_iff_reachable (j : ProductionSwapRuntimeJournal) :
    validateJournal j = .ok () ↔
      WellBound j ∧ ∃ ts, applyTransitions (preparedRecord j) ts = .ok j := by
  constructor
  · intro hj
    refine ⟨(validateJournal_eq_ok_iff.mp hj).1, ?_⟩
    -- the induction is on the history, from its last event back
    induction hn : j.events using List.reverseRecOn generalizing j with
    | nil =>
      obtain ⟨-, htold⟩ := validateJournal_eq_ok_iff.mp hj
      have hphase : ProductionSwapRuntimePhase.prepared = j.phase := by
        have := htold.events
        rw [hn, validateEvents] at this
        exact Except.ok.inj this
      have hprepared : preparedRecord j = j := by
        have hmutation := htold.mutation
        have hpersistent := htold.persistent
        have hpartition := htold.partition
        cases j
        simp_all [preparedRecord, mutationExpected, persistentExpected, partitionExpected]
      exact ⟨[], by rw [hprepared]; rfl⟩
    | append_singleton events e ih =>
      obtain ⟨r, t, hr, hprepared, hvalid, hstep⟩ := last_transition hj hn
      obtain ⟨ts, hts⟩ := ih r hvalid hr
      refine ⟨ts ++ [t], ?_⟩
      rw [← hprepared]
      unfold applyTransitions at hts ⊢
      rw [List.foldlM_append, hts]
      show List.foldlM applyTransition r [t] = .ok j
      rw [List.foldlM_cons, hstep]
      rfl
  · rintro ⟨hbound, ts, hts⟩
    have hstart : validateJournal (preparedRecord j) = .ok () :=
      validateJournal_eq_ok_iff.mpr ⟨⟨hbound.schema, hbound.digests, hbound.paths, hbound.size,
        hbound.integrity⟩, rfl, rfl, rfl, rfl⟩
    have keeps : ∀ (ts : List ProductionSwapRuntimeTransition) (r r' : ProductionSwapRuntimeJournal),
        validateJournal r = .ok () → applyTransitions r ts = .ok r' →
        validateJournal r' = .ok () := by
      intro ts
      induction ts with
      | nil =>
        intro r r' hr h
        cases h
        exact hr
      | cons t ts ih =>
        intro r r' hr h
        rw [applyTransitions, List.foldlM_cons] at h
        obtain ⟨m, hm, h⟩ := bind_eq_ok_iff.mp h
        obtain ⟨phase, code, htarget, rfl⟩ := applyTransition_ok hm
        exact ih _ _ (applyTransition_eq_ok hr htarget).2 h
    exact keeps ts _ _ hstart hts

end History

/-- An accepted record that is small enough is persisted when nothing refuses. -/
theorem persist_can {E : Env} {μ : Type} {m : μ} {s : St (interface ProductionSwapRuntimeJournal E)}
    {j r : ProductionSwapRuntimeJournal} {bytes : List UInt8} (hj : validateJournal j = .ok ())
    (hbytes : encodeJournal j = .ok bytes) (hr : s.world.visible = some r) :
    ∃ t : St (interface ProductionSwapRuntimeJournal E), t.world = .holding (some j) ∧
      Undisturbed s t ∧ Proc.Can (persist j : JournalProc E μ Unit) m s (.ok ()) m t := by
  have hdigest : validateDigest j.journalId "journal ID" = .ok () :=
    validateDigest_eq_ok_iff.mpr ((validateJournal_eq_ok_iff.mp hj).1.digests _ List.mem_cons_self)
  let s₁ := s.call (.inl (.ensureDirectory true)) (none : Option Fault)
  let s₂ := s₁.call (.inl .metadata) (none : Option Fault)
  have hundisturbed : Undisturbed s s₂ := (Undisturbed.call (.refl s) _).call _
  obtain ⟨t, ht, hwritten, hwrite⟩ := writeAtomicReplace_can (E := E) (m := m) (s := s₂)
    storeFault j
  have hmetadata : (FileOp.metadata : FileOp ProductionSwapRuntimeJournal).perform none s₁.world =
      (.ok none, s.world) := FileOp.perform_metadata hr
  exact ⟨t, ht, hundisturbed.trans hwritten, .bind (.lift hj) (.bind (onFile_can rfl)
    (.bind (.lift hbytes) (.bind (.lift hdigest) (.bind (onFile_can (congrArg Prod.fst hmetadata))
      hwrite))))⟩

end Records

end StorageManager.Executor.Swap
