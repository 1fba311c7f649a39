import StorageManager.Executor.CreateMountJournal

/-!
# Laws of the journal of a mount

The validator follows every event of a record, so it accepts exactly the records that transitions
make of a well bound Prepared record.
-/

namespace StorageManager.Executor.Create.Mount

open Lib
open Lib.Checks
open Lib.EventChain

set_option autoImplicit false

/-- How far a record has come. -/
def ProductionCreateMountRuntimePhase.rank : ProductionCreateMountRuntimePhase → Nat
  | .prepared => 0
  | .mounting => 1
  | .mountedAwaitingVerification => 2
  | .completed => 3
  | .recoveryRequired => 4

section Table

variable {p q : ProductionCreateMountRuntimePhase} {t : ProductionCreateMountRuntimeTransition}
  {code : String}

theorem transitionTarget_rank (h : transitionTarget p t = some (q, code)) : p.rank < q.rank := by
  unfold transitionTarget at h
  split at h <;> cases h <;> decide

/-- Each transition is known by where it leads. -/
theorem transitionTarget_eq_some (h : transitionTarget p t = some (q, code)) :
    (q = .mounting ∧ p = .prepared ∧ t = .beginMount) ∨
    (q = .mountedAwaitingVerification ∧ p = .mounting ∧ t = .mountProcessSucceeded) ∨
    (q = .completed ∧ p = .mountedAwaitingVerification ∧ t = .mountRediscoveryVerified) ∨
    (q = .recoveryRequired ∧ t = .recoveryRequired) := by
  unfold transitionTarget at h
  split at h <;> cases h <;> simp

/-- The validator's table is the table of the transitions. -/
theorem transitionTargetForValidation_lists :
    Lists transitionTargetForValidation transitionTarget := by
  intro p q code
  constructor
  · intro h
    unfold transitionTargetForValidation at h
    split at h <;> cases h
    · exact ⟨.beginMount, rfl⟩
    · exact ⟨.mountProcessSucceeded, rfl⟩
    · exact ⟨.mountRediscoveryVerified, rfl⟩
    · exact ⟨.recoveryRequired, rfl⟩
    · exact ⟨.recoveryRequired, rfl⟩
  · intro ⟨t, h⟩
    unfold transitionTarget at h
    split at h <;> cases h <;> rfl

end Table

section Records

variable [Fingerprint] {j r : ProductionCreateMountRuntimeJournal}
  {t : ProductionCreateMountRuntimeTransition}

/-- The checks of a record that its events do not touch. -/
structure WellBound (j : ProductionCreateMountRuntimeJournal) : Prop where
  scope : ¬(j.schemaVersion ≠ 1 ∨ ¬j.integrityMatches ∨ ¬startsWith j.disk "/dev/" ∨
    ¬startsWith j.partitionDevice "/dev/" ∨ ¬(j.filesystem = "ext4" ∨ j.filesystem = "xfs") ∨
    j.filesystemUuid = "" ∨ j.mountpoint = "" ∨ ¬startsWith j.mountpoint "/" ∨
    j.fstabMayHaveChanged)
  digests : ∀ d ∈ [j.mountActivationId, j.preflightReceiptId, j.launchId, j.createActivationId,
    j.filesystemReceiptId, j.createJournalId, j.createLaunchId], isSha256Hex d = true

/-- Transitions wrote the events and lead to the phase, and the flags say whether there are
any. -/
structure Told (j : ProductionCreateMountRuntimeJournal) : Prop where
  events : Written transitionTarget .prepared j.events j.phase
  mutation : j.mutationMayHaveStarted = (j.phase != .prepared)
  mount : j.mountMayHaveChanged = (j.phase != .prepared)

theorem validateJournal_eq_ok_iff : validateJournal j = .ok () ↔ WellBound j ∧ Told j := by
  have digest : ∀ value label, validateDigest value label = .ok () ↔ isSha256Hex value = true := by
    intro value label
    rw [validateDigest, refuse_eq_ok_iff, not_not]
  have expected : (decide (j.phase ≠ .prepared)) = (j.phase != .prepared) := by
    cases j.phase <;> rfl
  unfold validateJournal
  rw [check_eq_ok_iff, check_eq_ok_iff, bind_eq_ok_iff, checkAll_eq_ok_iff, refuse_eq_ok_iff]
  simp only [mapError_eq_ok_iff, follow_eq_ok_iff transitionTargetForValidation_lists, digest,
    check_eq_ok_iff, refuse_eq_ok_iff, not_not, ne_eq, not_or, expected]
  constructor
  · rintro ⟨hscope, hdigests, phase, hevents, hphase, hmutation, hmount⟩
    subst hphase
    refine ⟨⟨by simpa only [not_or, not_not, ne_eq] using hscope, ?_⟩, hevents, ?_, ?_⟩
    · simpa using hdigests
    · exact hmutation.symm
    · exact hmount.symm
  · rintro ⟨⟨hscope, hdigests⟩, hevents, hmutation, hmount⟩
    refine ⟨by simpa only [not_or, not_not, ne_eq] using hscope, ?_, j.phase, hevents, rfl,
      hmutation.symm, hmount.symm⟩
    simpa using hdigests

/-- The record with the binding of `j`, these events and their phase. -/
def recordWith (j : ProductionCreateMountRuntimeJournal)
    (events : List ProductionCreateMountRuntimeJournalEvent)
    (phase : ProductionCreateMountRuntimePhase) : ProductionCreateMountRuntimeJournal :=
  { j with
    phase := phase
    mutationMayHaveStarted := phase != .prepared
    mountMayHaveChanged := phase != .prepared
    events := events }

omit [Fingerprint] in
theorem Told.shape (h : Told j) : recordWith j j.events j.phase = j := by
  obtain ⟨-, hmutation, hmount⟩ := h
  cases j
  dsimp only at hmutation hmount
  subst hmutation hmount
  rfl

theorem validateJournal_recordWith {events : List ProductionCreateMountRuntimeJournalEvent}
    {p : ProductionCreateMountRuntimePhase} (hj : WellBound j)
    (h : Written transitionTarget .prepared events p) :
    validateJournal (recordWith j events p) = .ok () :=
  validateJournal_eq_ok_iff.mpr ⟨⟨hj.scope, hj.digests⟩, h, rfl, rfl⟩

/-- All a transition does. -/
theorem applyTransition_eq_ok_iff : applyTransition j t = .ok r ↔
    ∃ phase code, transitionTarget j.phase t = some (phase, code) ∧ validateJournal r = .ok () ∧
      r = { j with
        phase := phase
        mutationMayHaveStarted := true
        mountMayHaveChanged := true
        events := j.events ++ [⟨sequenceOf j.events.length, j.phase, phase, code⟩] } := by
  unfold applyTransition
  rw [bind_eq_ok_iff]
  constructor
  · rintro ⟨⟨phase, code⟩, htarget, h⟩
    obtain ⟨hvalid, h⟩ := check_eq_ok_iff.mp h
    cases h
    exact ⟨phase, code, okOr_eq_ok_iff.mp htarget, hvalid, rfl⟩
  · rintro ⟨phase, code, htarget, hvalid, rfl⟩
    exact ⟨(phase, code), okOr_eq_ok_iff.mpr htarget, check_eq_ok_iff.mpr ⟨hvalid, rfl⟩⟩

theorem applyTransition_rank (h : applyTransition j t = .ok r) : j.phase.rank < r.phase.rank := by
  obtain ⟨phase, code, htarget, -, rfl⟩ := applyTransition_eq_ok_iff.mp h
  exact transitionTarget_rank htarget

theorem applyTransition_recordWith {events : List ProductionCreateMountRuntimeJournalEvent}
    {p q : ProductionCreateMountRuntimePhase} {code : String} (hj : WellBound j)
    (h : Written transitionTarget .prepared events p)
    (htarget : transitionTarget p t = some (q, code)) :
    applyTransition (recordWith j events p) t =
      .ok (recordWith j (events ++ [⟨sequenceOf events.length, p, q, code⟩]) q) := by
  have hstarted : (q != .prepared) = true := by
    have hup := transitionTarget_rank htarget
    cases q <;> first | rfl | exact absurd hup (Nat.not_lt_zero _)
  refine applyTransition_eq_ok_iff.mpr ⟨q, code, htarget,
    validateJournal_recordWith hj (h.step htarget), ?_⟩
  rw [recordWith, hstarted]
  rfl

/-- The Prepared record with the binding of `j`. -/
def preparedRecord (j : ProductionCreateMountRuntimeJournal) :
    ProductionCreateMountRuntimeJournal :=
  { j with
    phase := .prepared
    mutationMayHaveStarted := false
    mountMayHaveChanged := false
    events := [] }

/-- One transition after the other. -/
def applyTransitions (j : ProductionCreateMountRuntimeJournal)
    (ts : List ProductionCreateMountRuntimeTransition) :
    Except ProductionCreateMountRuntimeJournalError ProductionCreateMountRuntimeJournal :=
  ts.foldlM (fun j t => applyTransition j t) j

/-- Transitions keep accepted records accepted. -/
theorem validateJournal_applyTransitions {ts : List ProductionCreateMountRuntimeTransition} :
    ∀ {j}, validateJournal j = .ok () → applyTransitions j ts = .ok r →
      validateJournal r = .ok () := by
  induction ts with
  | nil =>
    intro j hj h
    cases h
    exact hj
  | cons t ts ih =>
    intro j hj h
    rw [applyTransitions, List.foldlM_cons] at h
    obtain ⟨next, hnext, h⟩ := bind_eq_ok_iff.mp h
    obtain ⟨-, -, -, hvalid, -⟩ := applyTransition_eq_ok_iff.mp hnext
    exact ih hvalid h

/-- A record is accepted exactly when its binding is sound and some transitions make it from the
Prepared record of that binding. -/
theorem mount_record_accepted_iff : validateJournal j = .ok () ↔
    WellBound j ∧ ∃ ts, applyTransitions (preparedRecord j) ts = .ok j := by
  constructor
  · intro h
    obtain ⟨hbound, htold⟩ := validateJournal_eq_ok_iff.mp h
    obtain ⟨ts, hts⟩ := htold.events.reached (fun j t => applyTransition j t) (recordWith j)
      fun hwritten htarget => applyTransition_recordWith hbound hwritten htarget
    rw [htold.shape] at hts
    exact ⟨hbound, ts, hts⟩
  · rintro ⟨hbound, ts, hts⟩
    exact validateJournal_applyTransitions (validateJournal_recordWith hbound .nil) hts

end Records

end StorageManager.Executor.Create.Mount
