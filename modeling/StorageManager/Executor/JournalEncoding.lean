import StorageManager.Lib.JsonText
import StorageManager.Executor.JournalReload

/-!
# A reader for the written records

The bytes of a record determine the record. What is assumed of the JSON reader, that it
reads back what the writer wrote, can therefore be had.
-/

namespace StorageManager.Executor.JournalStore

open Lib.Json
open Planner.ExecutionGuard

set_option autoImplicit false

theorem phaseName_inj {p q : JournalPhase} (h : p.name = q.name) : p = q := by
  revert h
  cases p <;> cases q <;> simp [JournalPhase.name]

instance : LawfulToJson JournalPhase := ⟨fun h => phaseName_inj (LawfulToJson.inj h)⟩

instance : LawfulToJson JournalEvent where
  inj {a b} h := by
    have hfields := Value.obj.inj h
    simp only [List.cons.injEq, Prod.mk.injEq, and_true, true_and] at hfields
    obtain ⟨hsequence, hsource, htarget, hcode, hdetail⟩ := hfields
    cases a
    cases b
    congr 1 <;> apply LawfulToJson.inj <;> assumption

instance : LawfulToJson ExactApprovalBinding where
  inj {a b} h := by
    have hfields := Value.obj.inj h
    simp only [List.cons.injEq, Prod.mk.injEq, and_true, true_and] at hfields
    obtain ⟨hschema, hid, hplan, hbundle, htarget, hsession, hjournal⟩ := hfields
    cases a
    cases b
    congr 1 <;> apply LawfulToJson.inj <;> assumption

instance : LawfulToJson ExecutionStartBinding where
  inj {a b} h := by
    have hfields := Value.obj.inj h
    simp only [List.cons.injEq, Prod.mk.injEq, and_true, true_and] at hfields
    obtain ⟨hschema, hid, hjournal, hplan, happroval, hsource, hnative, hfresh, hsteps, hdigest⟩ :=
      hfields
    cases a
    cases b
    congr 1 <;> apply LawfulToJson.inj <;> assumption

instance : LawfulToJson VerifiedMutationBoundaryBinding where
  inj {a b} h := by
    have hfields := Value.obj.inj h
    simp only [List.cons_append, List.nil_append, List.cons.injEq, Prod.mk.injEq, true_and]
      at hfields
    obtain ⟨hschema, hid, hexecution, hcompleted, hnext, hfresh, hfields⟩ := hfields
    have hapart : ∀ d : Option String,
        "final_step_id" ∉ (optionalField "final_identity_digest" d).map Prod.fst := by
      intro d hd
      have hsame := mem_optionalField hd
      simp at hsame
    obtain ⟨hstep, hfields⟩ := optionalField_inj (hapart _) (hapart _) hfields
    rw [← List.append_nil (optionalField _ _), ← List.append_nil (optionalField _ b.finalIdentityDigest)]
      at hfields
    obtain ⟨hdigest, -⟩ := optionalField_inj (by simp) (by simp) hfields
    cases a
    cases b
    congr 1 <;> first | assumption | (apply LawfulToJson.inj; assumption)

instance : NeverNull ExactApprovalBinding := ⟨fun _ h => by cases h⟩
instance : NeverNull ExecutionStartBinding := ⟨fun _ h => by cases h⟩

instance : LawfulToJson OperationJournal where
  inj {a b} h := by
    have hfields := Value.obj.inj h
    simp only [List.cons_append, List.nil_append, List.cons.injEq, Prod.mk.injEq, true_and]
      at hfields
    obtain ⟨hschema, hid, hplan, htarget, hbaseline, hphase, hflag, happroval, hexecution,
      hfields⟩ := hfields
    obtain ⟨hboundary, hfields⟩ := optionalField_inj (by simp) (by simp) hfields
    have hevents := (Prod.mk.inj (List.cons.inj hfields).1).2
    cases a
    cases b
    congr 1 <;> first | assumption | (apply LawfulToJson.inj; assumption)

theorem encodeJournal_inj {j k : OperationJournal} :
    encodeJournal j = encodeJournal k ↔ j = k := by
  constructor
  · intro h
    exact LawfulToJson.inj (toBytes_inj.mp (List.append_cancel_right h))
  · rintro rfl
    rfl

/-- A reader that reads back what the writer wrote. -/
def Faithful (fromSlice : FromSlice) : Prop :=
  ∀ j, fromSlice (encodeJournal j) = .ok (wireOf j)

open Classical in
/-- The reader that knows every record. -/
noncomputable def faithfulReader : FromSlice := fun bytes =>
  if h : ∃ j, encodeJournal j = bytes then .ok (wireOf h.choose) else .error "expected value"

theorem faithfulReader_faithful : Faithful faithfulReader := by
  intro j
  have hex : ∃ k, encodeJournal k = encodeJournal j := ⟨j, rfl⟩
  unfold faithfulReader
  rw [dif_pos hex, encodeJournal_inj.mp hex.choose_spec]

end StorageManager.Executor.JournalStore
