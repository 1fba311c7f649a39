import StorageManager.Executor.CreateJournalLaws
import StorageManager.Executor.SwapStore

/-!
# The runtime stores when a transition is not persisted

Both stores apply a transition to a copy and move the memory after the copy was
persisted. A refused sync of the directory is reported after the rename took effect:
then the memory is one event behind the record.
-/

namespace StorageManager.Executor.RuntimeStores

open Lib.Checks
open Lib.Effects
open Lib.Json (toJson toBytes)
open Lib.RecordFile

set_option autoImplicit false

section Common

variable {ρ ε η : Type} {E : Env}

/-- The memory `r'` and the file both hold the old record, and a recovery computed from
the memory extends the history in the file. -/
def KeepsOld (events : ρ → List η) (recover : ρ → Except ε ρ) (r r' : ρ) (f : File ρ) : Prop :=
  r' = r ∧ f = .holding (some r) ∧
    ∀ next v, recover r' = .ok next → f.visible = some v → events v <+: events next

theorem keepsOld_iff {events : ρ → List η} {recover step : ρ → Except ε ρ}
    {persist : ρ → FileProc ρ E ρ ε Unit} (hpersist : ∀ r, FailsSafe r (persist r))
    {r r' : ρ} {e : ε} {s t : St (interface ρ E)} (hs : s.world = .holding (some r))
    (hstep : ∀ next, step r = .ok next → next ≠ r)
    (hrecover : ∀ next, recover r = .ok next → events r <+: events next)
    (h : Proc.Can (persistStep step persist) r s (.error e) r' t) :
    KeepsOld events recover r r' t.world ↔ ¬SyncFailed s t := by
  obtain ⟨rfl, hstill | ⟨next, hnext, hfailed, hworld⟩⟩ := persistStep_error hpersist h
  · refine ⟨fun _ => hstill.1.not_failed, fun _ => ⟨rfl, hstill.2.trans hs, ?_⟩⟩
    intro next v hnext hv
    rw [hstill.2, hs] at hv
    cases hv
    exact hrecover next hnext
  · refine ⟨fun hkeeps => absurd ?_ (hstep next hnext), fun h => absurd hfailed h⟩
    have hvisible : t.world.visible = some next := by
      rw [hworld]
      rfl
    rw [hkeeps.2.1] at hvisible
    exact (Option.some.inj hvisible).symm

end Common

section Stores

variable [Fingerprint]

theorem swap_persist_failsSafe {E : Env} {μ : Type} (j : Swap.ProductionSwapRuntimeJournal) :
    FailsSafe j (Swap.persist j : Swap.JournalProc E μ Unit) := by
  unfold Swap.persist
  refine FailsSafe.after (by simp) fun _ => ?_
  refine FailsSafe.after (onFile_still (by simp) (by simp)) fun _ => ?_
  refine FailsSafe.after (by simp) fun _ => ?_
  refine FailsSafe.after (by simp) fun _ => ?_
  refine FailsSafe.after (onFile_still (by simp) (by simp)) fun _ => ?_
  exact writeAtomicReplace_failsSafe _ j

theorem create_persist_failsSafe {E : Env} {μ : Type} (j : Create.ProductionCreateRuntimeJournal) :
    FailsSafe j (Create.persist j : Create.JournalProc E μ Unit) := by
  unfold Create.persist
  refine FailsSafe.after (by simp) fun _ => ?_
  refine FailsSafe.after (onFile_still (by simp) (by simp)) fun _ => ?_
  refine FailsSafe.after (by simp) fun _ => ?_
  refine FailsSafe.after (onFile_still (by simp) (by simp)) fun _ => ?_
  refine FailsSafe.after (by simp) fun _ => ?_
  exact writeAtomicReplace_failsSafe _ j

/-- A transition that is not persisted leaves the old record in memory and in the file,
in both stores, exactly when the sync of the directory was not refused. -/
theorem failed_transition_keepsOld_iff :
    (∀ (E : Env) (transition : Swap.ProductionSwapRuntimeTransition)
      (r r' : Swap.ProductionSwapRuntimeJournal) (e : Swap.ProductionSwapRuntimeJournalError)
      (s t : St (interface Swap.ProductionSwapRuntimeJournal E)), s.world = .holding (some r) →
      Proc.Can (Swap.persistProductionSwapRuntimeTransition transition) r s (.error e) r' t →
      (KeepsOld (·.events) (Swap.applyTransition · .recoveryRequired) r r' t.world ↔
        ¬SyncFailed s t)) ∧
    (∀ (E : Env) (transition : Create.ProductionCreateRuntimeTransition)
      (r r' : Create.ProductionCreateRuntimeJournal) (e : Create.ProductionCreateRuntimeJournalError)
      (s t : St (interface Create.ProductionCreateRuntimeJournal E)), s.world = .holding (some r) →
      Proc.Can (Create.persistProductionCreateRuntimeTransition transition) r s (.error e) r' t →
      (KeepsOld (·.events) (Create.applyTransition · .recoveryRequired) r r' t.world ↔
        ¬SyncFailed s t)) := by
  constructor
  · intro E transition r r' e s t hs h
    refine keepsOld_iff swap_persist_failsSafe hs ?_ ?_ h
    · rintro next hnext rfl
      exact Nat.lt_irrefl _ (Swap.applyTransition_rank hnext)
    · intro next hnext
      obtain ⟨phase, code, -, rfl⟩ := Swap.applyTransition_ok hnext
      exact List.prefix_append _ _
  · intro E transition r r' e s t hs h
    refine keepsOld_iff create_persist_failsSafe hs ?_ ?_ h
    · rintro next hnext rfl
      exact Nat.lt_irrefl _ (Create.applyTransition_rank hnext)
    · intro next hnext
      obtain ⟨phase, code, -, -, rfl⟩ := Create.applyTransition_eq_ok_iff.mp hnext
      exact List.prefix_append _ _

section Sample

open Create

/-- A record whose partition table is being written. -/
def writingRecord : ProductionCreateRuntimeJournal :=
  recordWith loopRecord (historyOf .writingPartitionTable) .writingPartitionTable

/-- The record after the write, which the refused sync leaves in the file. -/
def writtenRecord : ProductionCreateRuntimeJournal :=
  recordWith loopRecord (historyOf .partitionTableWrittenAwaitingRediscovery)
    .partitionTableWrittenAwaitingRediscovery

private theorem writtenRecord_encodes : ∃ bytes, encodeJournal writtenRecord = .ok bytes := by
  have hid : ∀ v, Lib.Json.stringBound (fingerprint v) = 386 := by
    intro v
    rw [Lib.Json.stringBound, fingerprint_utf8ByteSize]
  have hlength : (toBytes (toJson writtenRecord)).length + 1 ≤ maxCreateRuntimeJournalBytes := by
    refine (Nat.add_le_add_right (Lib.Json.toBytes_length_le _) 1).trans ?_
    simp only [writtenRecord, recordWith, numbered, historyOf, loopRecord,
      ProductionCreateRuntimeJournal.expectedJournalId, toJson,
      Lib.Json.byteBound, Lib.Json.fieldsBound, hid]
    decide
  unfold encodeJournal
  have hfits : ¬maxCreateRuntimeJournalBytes < (toBytes (toJson writtenRecord) ++ [10]).length := by
    rw [List.length_append, List.length_singleton]
    omega
  rw [if_neg hfits]
  exact ⟨_, rfl⟩

private theorem writtenRecord_step :
    applyTransition writingRecord .partitionTableWriteSucceeded = .ok writtenRecord := by
  have htells : Tells (historyOf .writingPartitionTable) .writingPartitionTable :=
    .inl ⟨by decide, rfl⟩
  have hafter := recordAfter_recordWith (j := loopRecord) htells
    (show transitionTarget .writingPartitionTable .partitionTableWriteSucceeded = _ from rfl)
  refine applyTransition_eq_ok_iff.mpr ⟨_, _, rfl, ?_, hafter.symm⟩
  rw [writingRecord, hafter]
  exact validateJournal_recordWith loopRecord_bound

/-- The recovery that is computed from the record in memory. -/
def recoveredRecord : ProductionCreateRuntimeJournal :=
  recordWith loopRecord
    (historyOf .writingPartitionTable ++ [(.recoveryRequired, "recovery-required")])
    .recoveryRequired

private theorem recoveredRecord_step :
    applyTransition writingRecord .recoveryRequired = .ok recoveredRecord := by
  have htells : Tells (historyOf .writingPartitionTable) .writingPartitionTable :=
    .inl ⟨by decide, rfl⟩
  have hafter := recordAfter_recordWith (j := loopRecord) htells
    (show transitionTarget .writingPartitionTable .recoveryRequired = _ from rfl)
  refine applyTransition_eq_ok_iff.mpr ⟨_, _, rfl, ?_, hafter.symm⟩
  rw [writingRecord, hafter]
  exact validateJournal_recordWith loopRecord_bound

private theorem writtenRecord_unsynced {E : Env} :
    ∃ t : St (interface ProductionCreateRuntimeJournal E),
      Proc.Can (persistProductionCreateRuntimeTransition .partitionTableWriteSucceeded)
        writingRecord ⟨.holding (some writingRecord), []⟩ (.error (.io "sync")) writingRecord t ∧
      Unsynced writtenRecord ⟨.holding (some writingRecord), []⟩ t := by
  obtain ⟨bytes, hbytes⟩ := writtenRecord_encodes
  have hvalid : validateJournal writtenRecord = .ok () :=
    validateJournal_recordWith loopRecord_bound
  have hdigest : validateDigest writtenRecord.journalId "journal ID" = .ok () :=
    refuse_eq_ok_iff.mpr (not_not.mpr (Fingerprint.isSha256Hex_fingerprint _))
  let s : St (interface ProductionCreateRuntimeJournal E) := ⟨.holding (some writingRecord), []⟩
  let s₁ := s.call (.inl (.ensureDirectory false)) (none : Option Fault)
  let s₂ := s₁.call (.inl .metadata) (none : Option Fault)
  have hstill : Still s s₂ := trans_of Still (still_call (by simp) (by simp) _)
    (still_call (by simp) (by simp) _)
  obtain ⟨t, ht, hwrite⟩ := writeAtomicReplace_can_fail (E := E) (m := writingRecord) (s := s₂)
    storeFault writtenRecord (.io "sync")
  have hpersist : Proc.Can (persist writtenRecord : JournalProc E _ Unit) writingRecord s
      (.error (.io "sync")) writingRecord t :=
    .bind (.lift hvalid) (.bind (onFile_can rfl) (.bind (.lift hdigest)
      (.bind (onFile_can rfl) (.bind (.lift hbytes) hwrite))))
  refine ⟨t, ?_, ht.after hstill⟩
  exact .bind .get (.bind (.lift writtenRecord_step) (.bind_error hpersist))

end Sample

end Stores

/-- The event of the write is in the file and not in memory, and the recovery that is
computed from memory drops it. -/
theorem unsynced_transition_drops_event :
    ∃ t : St (interface Create.ProductionCreateRuntimeJournal Swap.noEnv),
      Proc.Can (Create.persistProductionCreateRuntimeTransition .partitionTableWriteSucceeded)
        writingRecord ⟨.holding (some writingRecord), []⟩ (.error (.io "sync")) writingRecord t ∧
      t.world.visible = some writtenRecord ∧
      Create.applyTransition writingRecord .recoveryRequired = .ok recoveredRecord ∧
      ¬writtenRecord.events <+: recoveredRecord.events := by
  obtain ⟨t, hcan, ht⟩ := writtenRecord_unsynced (E := Swap.noEnv)
  have hvisible : t.world.visible = some writtenRecord := by
    rw [ht.2]
    rfl
  refine ⟨t, hcan, hvisible, recoveredRecord_step, ?_⟩
  show ¬Create.numbered _ <+: Create.numbered _
  decide

/-- The refused sync of one store, and a transition that the other one does not know. -/
theorem failed_transition_keepsOld_sample :
    (∃ t : St (interface Create.ProductionCreateRuntimeJournal Swap.noEnv),
      KeepsOld (·.events) (Create.applyTransition · .recoveryRequired) writingRecord writingRecord
        t.world ↔ ¬SyncFailed ⟨.holding (some writingRecord), []⟩ t) ∧
    (let r := Swap.paddedRecord 0
      let s : St (interface Swap.ProductionSwapRuntimeJournal Swap.noEnv) :=
        ⟨.holding (some r), []⟩
      KeepsOld (·.events) (Swap.applyTransition · .recoveryRequired) r r s.world ↔
        ¬SyncFailed s s) := by
  obtain ⟨t, hcan, -⟩ := writtenRecord_unsynced (E := Swap.noEnv)
  obtain ⟨e, he⟩ : ∃ e, Swap.applyTransition (Swap.paddedRecord 0) .completed = .error e := by
    cases h : Swap.applyTransition (Swap.paddedRecord 0) .completed with
    | error e => exact ⟨e, rfl⟩
    | ok next =>
      obtain ⟨phase, code, htarget, -⟩ := Swap.applyTransition_ok h
      cases htarget
  constructor
  · exact ⟨t, failed_transition_keepsOld_iff.2 _ _ _ _ _ _ t rfl hcan⟩
  · exact failed_transition_keepsOld_iff.1 _ .completed _ _ e _ _ rfl
      (.bind .get (.bind_error (.lift he)))

end StorageManager.Executor.RuntimeStores
