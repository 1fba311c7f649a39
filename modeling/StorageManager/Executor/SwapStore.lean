import StorageManager.Executor.SwapJournalLaws
import StorageManager.Lib.RecordFaults

/-!
# What the swap store writes and reads

`encode_journal` counts the bytes of the JSON text, a read counts the bytes of the file,
which has one more: the newline. A record that fills the limit is written and can never
be read again.
-/

namespace StorageManager.Executor.Swap

open Lib.Checks
open Lib.Effects
open Lib.Json (toJson toBytes)
open Lib.RecordFile

set_option autoImplicit false

theorem encodeJournal_eq_ok_iff {j : ProductionSwapRuntimeJournal} :
    (∃ bytes, encodeJournal j = .ok bytes) ↔
      (toBytes (toJson j)).length ≤ maxSwapRuntimeJournalBytes := by
  unfold encodeJournal
  by_cases h : maxSwapRuntimeJournalBytes < (toBytes (toJson j)).length
  · simp [h]
  · simp [h, Nat.le_of_not_lt h]

theorem checkRecordSize_eq {j : ProductionSwapRuntimeJournal} : checkRecordSize j =
    refuse (maxSwapRuntimeJournalBytes < (toBytes (toJson j)).length + 1) .tooLarge := by
  unfold checkRecordSize
  rfl

section Store

variable [Fingerprint] {E : Env} {μ : Type} {m m' : μ}
  {s t : St (interface ProductionSwapRuntimeJournal E)} {j : ProductionSwapRuntimeJournal}

/-- The load of a record that is there, when nothing is refused. -/
theorem load_can (hj : validateJournal j = .ok ()) (hv : t.world.visible = some j) :
    ∃ u, Undisturbed t u ∧ Proc.Can (load j.journalId : JournalProc E μ _) m t
      ((checkRecordSize j).map fun _ => j) m u := by
  have hdigest : validateDigest j.journalId "journal ID" = .ok () :=
    validateDigest_eq_ok_iff.mpr ((validateJournal_eq_ok_iff.mp hj).1.digests _ List.mem_cons_self)
  have hchecked : checkLoaded j.journalId j = checkRecordSize j := by
    unfold checkLoaded
    cases checkRecordSize j with
    | error e => rfl
    | ok u =>
      show (refuse (j.journalId ≠ j.journalId) _ >>= fun _ => validateJournal j) = .ok ()
      exact check_eq_ok_iff.mpr ⟨refuse_eq_ok_iff.mpr (not_not.mpr rfl), hj⟩
  let u₁ := t.call (.inl (.ensureDirectory false)) (none : Option Fault)
  let u₂ := u₁.call (.inl .metadata) (none : Option Fault)
  let u₃ := u₂.call (.inl .read) (none : Option Fault)
  have hmetadata : (FileOp.metadata : FileOp ProductionSwapRuntimeJournal).perform none u₁.world =
      (.ok none, t.world) := FileOp.perform_metadata hv
  have hv₂ : u₂.world.visible = some j := by
    rw [call_inl_world, hmetadata]
    exact hv
  refine ⟨u₃, (((Grew.refl t).call ⟨_, _, rfl⟩).call ⟨_, _, rfl⟩).call ⟨_, _, rfl⟩, ?_⟩
  refine .bind (.lift hdigest) (.bind (onFile_can rfl) (.bind
    (onFile_can (congrArg Prod.fst hmetadata)) (.bind (readRecord_can hv₂) ?_)))
  cases hsize : checkRecordSize j with
  | error e => exact .bind_error (.lift (hchecked.trans hsize))
  | ok _ => exact .bind (.lift (hchecked.trans hsize)) (.pure j)

/-- Every load of the record that nothing refuses returns it. -/
def LoadsBack (μ : Type) (j : ProductionSwapRuntimeJournal)
    (t : St (interface ProductionSwapRuntimeJournal E)) : Prop :=
  ∀ (m m' : μ) (u : St (interface ProductionSwapRuntimeJournal E))
    (result : Except ProductionSwapRuntimeJournalError ProductionSwapRuntimeJournal),
    Proc.Can (load j.journalId) m t result m' u → Undisturbed t u → result = .ok j

theorem loadsBack_iff (m : μ) (hj : validateJournal j = .ok ())
    (hv : t.world.visible = some j) : LoadsBack μ j t ↔
      (toBytes (toJson j)).length < maxSwapRuntimeJournalBytes := by
  have hsize : (checkRecordSize j).map (fun _ => j) = .ok j ↔
      (toBytes (toJson j)).length < maxSwapRuntimeJournalBytes := by
    rw [checkRecordSize_eq]
    by_cases h : maxSwapRuntimeJournalBytes < (toBytes (toJson j)).length + 1
    · have hnot : ¬(toBytes (toJson j)).length < maxSwapRuntimeJournalBytes := by omega
      simp [refuse, h, hnot, Except.map]
    · have hlt : (toBytes (toJson j)).length < maxSwapRuntimeJournalBytes := by omega
      simp [refuse, h, hlt, Except.map]
  constructor
  · intro hload
    obtain ⟨u, hu, hcan⟩ := load_can (m := m) hj hv
    exact hsize.mp (hload m m u _ hcan hu)
  · intro hlt m m' u result hcan hu
    obtain ⟨u', hu', hcan'⟩ := load_can (m := m) hj hv
    rw [Undisturbed.unique hcan hu hcan' hu']
    exact hsize.mpr hlt

/-- A persisted record is valid, fits the limit of the writer and is there. -/
def Written (j : ProductionSwapRuntimeJournal)
    (t : St (interface ProductionSwapRuntimeJournal E)) : Prop :=
  validateJournal j = .ok () ∧ (toBytes (toJson j)).length ≤ maxSwapRuntimeJournalBytes ∧
    t.world = .holding (some j)

theorem persist_written (h : Proc.Can (persist j : JournalProc E μ Unit) m s (.ok ()) m' t) :
    Written j t := by
  have hchecked : (persist j : JournalProc E μ Unit).Holds m s
      (fun _ _ _ => validateJournal j = .ok () ∧ ∃ bytes, encodeJournal j = .ok bytes)
      (fun _ _ _ => True) fun _ => True := by
    unfold persist
    refine Proc.Holds.lift_bind fun _ hj => Proc.Holds.any_bind fun _ _ _ => ?_
    exact Proc.Holds.lift_bind fun bytes hbytes => Proc.Holds.any ⟨hj, bytes, hbytes⟩
  obtain ⟨hj, hbytes⟩ := h.holds_ok hchecked
  obtain ⟨-, hfiled⟩ := h.holds_ok (persist_rewrites j m s s.world s (Filed.refl s))
  exact ⟨hj, encodeJournal_eq_ok_iff.mp hbytes, hfiled.world⟩

theorem persistNew_written
    (h : Proc.Can (persistNew j : JournalProc E μ Unit) m s (.ok ()) m' t) : Written j t := by
  have hchecked : (persistNew j : JournalProc E μ Unit).Holds m s
      (fun _ _ _ => validateJournal j = .ok () ∧ ∃ bytes, encodeJournal j = .ok bytes)
      (fun _ _ _ => True) fun _ => True := by
    unfold persistNew
    refine Proc.Holds.lift_bind fun _ hj => Proc.Holds.any_bind fun _ _ _ => ?_
    exact Proc.Holds.lift_bind fun bytes hbytes => Proc.Holds.any ⟨hj, bytes, hbytes⟩
  obtain ⟨hj, hbytes⟩ := h.holds_ok hchecked
  obtain ⟨-, -, hfiled⟩ := h.holds_ok (persistNew_creates j m s s.world s (Filed.refl s))
  exact ⟨hj, encodeJournal_eq_ok_iff.mp hbytes, hfiled.world⟩

/-- A persisted record loads again unless its JSON text fills the limit. -/
theorem persisted_loadsBack_iff
    (h : Proc.Can (persistNew j : JournalProc E μ Unit) m s (.ok ()) m' t ∨
      Proc.Can (persist j : JournalProc E μ Unit) m s (.ok ()) m' t) :
    LoadsBack μ j t ↔ (toBytes (toJson j)).length ≠ maxSwapRuntimeJournalBytes := by
  obtain ⟨hj, hlength, hworld⟩ : Written j t := h.elim persistNew_written persist_written
  have hv : t.world.visible = some j := by
    rw [hworld]
    rfl
  rw [loadsBack_iff m hj hv]
  omega

/-- The first record is persisted when nothing refuses. -/
theorem persistNew_can (hj : validateJournal j = .ok ())
    (hlength : (toBytes (toJson j)).length ≤ maxSwapRuntimeJournalBytes)
    (hv : s.world.visible = none) :
    ∃ t : St (interface ProductionSwapRuntimeJournal E), t.world = .holding (some j) ∧
      Proc.Can (persistNew j : JournalProc E μ Unit) m s (.ok ()) m t := by
  obtain ⟨bytes, hbytes⟩ := encodeJournal_eq_ok_iff.mpr hlength
  have hdigest : validateDigest j.journalId "journal ID" = .ok () :=
    validateDigest_eq_ok_iff.mpr ((validateJournal_eq_ok_iff.mp hj).1.digests _ List.mem_cons_self)
  obtain ⟨t, ht, -, hwrite⟩ := writeAtomicNew_can (E := E) (m := m)
    (s := s.call (.inl (.ensureDirectory true)) (none : Option Fault)) storeFault
    (linkFault j.journalId) j hv
  exact ⟨t, ht, .bind (.lift hj) (.bind (onFile_can rfl) (.bind (.lift hbytes)
    (.bind (.lift hdigest) hwrite)))⟩

/-- A record that is too large is not persisted. -/
theorem persist_tooLarge {E : Env} {μ : Type} {m : μ}
    {s : St (interface ProductionSwapRuntimeJournal E)} {j : ProductionSwapRuntimeJournal}
    (hj : validateJournal j = .ok ())
    (hsize : ¬(toBytes (toJson j)).length ≤ maxSwapRuntimeJournalBytes) : ∃ t, Undisturbed s t ∧
      Proc.Can (persist j : JournalProc E μ Unit) m s (.error .tooLarge) m t := by
  have hencode : encodeJournal j = .error .tooLarge := by
    unfold encodeJournal
    rw [if_pos (by omega)]
  have hundisturbed : Undisturbed s (s.call (.inl (.ensureDirectory true)) (none : Option Fault)) :=
    Undisturbed.call (.refl s) _
  refine ⟨_, hundisturbed, ?_⟩
  unfold persist
  exact .bind (.lift hj) (.bind (onFile_can rfl) (.bind_error (.lift hencode)))

end Store

section Fitting

open Lib.Json (byteBound itemsBound fieldsBound stringBound itemsBound_append fieldsBound_append)

theorem phase_stringBound (p : ProductionSwapRuntimePhase) : stringBound p.name ≤ 160 := by
  cases p <;> decide

theorem code_stringBound {p q : ProductionSwapRuntimePhase} {t : ProductionSwapRuntimeTransition}
    {code : String} (h : transitionTarget p t = some (q, code)) : stringBound code ≤ 210 := by
  unfold transitionTarget at h
  split at h <;> cases h <;> decide

/-- The space of one more event. -/
theorem event_byteBound {p q : ProductionSwapRuntimePhase} {t : ProductionSwapRuntimeTransition}
    {code : String} (h : transitionTarget p t = some (q, code)) {n : Nat} (hn : n < 100) :
    byteBound (toJson (⟨n, p, q, code⟩ : ProductionSwapRuntimeJournalEvent)) ≤ 660 := by
  have hdigits : ∀ n : Nat, n < 100 → (toString (n : Int)).utf8ByteSize ≤ 2 := by decide
  have hsequence := hdigits n hn
  have hsource := phase_stringBound p
  have htarget := phase_stringBound q
  have hcode := code_stringBound h
  have hkeys : stringBound "sequence" + stringBound "from" + stringBound "to" +
      stringBound "code" = 116 := by decide
  simp only [toJson, byteBound, fieldsBound]
  omega

/-- The fields that no transition touches. -/
def bindingFields (r : ProductionSwapRuntimeJournal) : List (String × Lib.Json.Value) :=
  [("schema_version", toJson r.schemaVersion), ("journal_id", toJson r.journalId),
    ("activation_id", toJson r.activationId), ("execution_permit_id", toJson r.executionPermitId),
    ("preflight_receipt_id", toJson r.preflightReceiptId), ("launch_id", toJson r.launchId),
    ("swap_replacement_intent_id", toJson r.swapReplacementIntentId), ("target", toJson r.target),
    ("disk", toJson r.disk), ("retiring_swap_device", toJson r.retiringSwapDevice),
    ("retiring_swap_bytes", toJson r.retiringSwapBytes),
    ("retiring_swap_priority", toJson r.retiringSwapPriority),
    ("swapfile_path", toJson r.swapfilePath), ("swapfile_mode", toJson r.swapfileMode)]

def flagFields (r : ProductionSwapRuntimeJournal) : List (String × Lib.Json.Value) :=
  [("mutation_may_have_started", toJson r.mutationMayHaveStarted),
    ("persistent_config_may_have_changed", toJson r.persistentConfigMayHaveChanged),
    ("partition_table_may_have_changed", toJson r.partitionTableMayHaveChanged)]

/-- A transition adds an event and changes the phase; the flags take the same space. -/
theorem recordAfter_byteBound {r : ProductionSwapRuntimeJournal} {phase : ProductionSwapRuntimePhase}
    {t : ProductionSwapRuntimeTransition} {code : String}
    (ht : transitionTarget r.phase t = some (phase, code)) (hlength : r.events.length < 99) :
    byteBound (toJson (recordAfter r phase code)) ≤ byteBound (toJson r) + 840 := by
  have hevent := event_byteBound ht (n := r.events.length + 1) (by omega)
  have hphase := phase_stringBound phase
  have hshape : ∀ r : ProductionSwapRuntimeJournal, byteBound (toJson r) =
      fieldsBound (bindingFields r) +
      (stringBound "phase" + stringBound r.phase.name + 2 + (fieldsBound (flagFields r) +
        (stringBound "events" + (itemsBound (r.events.map toJson) + 2) + 2))) + 2 := by
    intro r
    show fieldsBound (bindingFields r ++ (("phase", toJson r.phase) ::
      (flagFields r ++ [("events", toJson r.events)]))) + 2 = _
    rw [fieldsBound_append, fieldsBound, fieldsBound_append]
    rfl
  have hbefore : bindingFields (recordAfter r phase code) = bindingFields r := rfl
  have hflags : fieldsBound (flagFields (recordAfter r phase code)) = fieldsBound (flagFields r) := rfl
  have hevents : itemsBound ((recordAfter r phase code).events.map toJson) =
      itemsBound (r.events.map toJson) + (byteBound (toJson
        (⟨r.events.length + 1, r.phase, phase, code⟩ : ProductionSwapRuntimeJournalEvent)) + 1) := by
    show itemsBound (List.map toJson (r.events ++ _)) = _
    rw [List.map_append, itemsBound_append]
    rfl
  have hname : (recordAfter r phase code).phase.name = phase.name := rfl
  rw [hshape, hshape, hbefore, hflags, hevents, hname]
  omega

/-- The transitions of a replacement that succeeds. -/
def runtimeTransitions : List ProductionSwapRuntimeTransition :=
  [.beginSwapfileCreation, .swapfileCreatedVerified, .beginReplacementFormatting,
    .replacementFormattedVerified, .beginReplacementActivation, .replacementActiveVerified,
    .beginOldSwapDeactivation, .oldSwapDeactivatedVerified]

variable [Fingerprint]

/-- The records that the transitions make fit the limit of the store. -/
def RecordsFit : ProductionSwapRuntimeJournal → List ProductionSwapRuntimeTransition → Prop
  | _, [] => True
  | j, t :: ts => ∀ next, applyTransition j t = .ok next →
    (toBytes (toJson next)).length ≤ maxSwapRuntimeJournalBytes ∧ RecordsFit next ts

theorem recordsFit_cons {j next : ProductionSwapRuntimeJournal}
    {t : ProductionSwapRuntimeTransition} {ts : List ProductionSwapRuntimeTransition}
    (h : applyTransition j t = .ok next) : RecordsFit j (t :: ts) ↔
      (toBytes (toJson next)).length ≤ maxSwapRuntimeJournalBytes ∧ RecordsFit next ts := by
  constructor
  · intro hfit
    exact hfit next h
  · intro hfit next' h'
    rw [h] at h'
    cases h'
    exact hfit

/-- A record that leaves room for its history. -/
theorem recordsFit_of_room {j : ProductionSwapRuntimeJournal}
    {ts : List ProductionSwapRuntimeTransition} (hevents : j.events.length + ts.length < 100)
    (hroom : byteBound (toJson j) + 840 * ts.length ≤ maxSwapRuntimeJournalBytes) :
    RecordsFit j ts := by
  induction ts generalizing j with
  | nil => trivial
  | cons t ts ih =>
    intro next hnext
    obtain ⟨phase, code, ht, rfl⟩ := applyTransition_ok hnext
    rw [List.length_cons] at hevents hroom
    have hbound := recordAfter_byteBound ht (by omega)
    have hlength : (recordAfter j phase code).events.length = j.events.length + 1 :=
      List.length_append
    refine ⟨(Lib.Json.toBytes_length_le _).trans (by omega), ih ?_ ?_⟩
    · omega
    · omega

end Fitting

section Sample

/-- A Prepared record whose target is a path of `n` letters. -/
def paddedRecord [Fingerprint] (n : Nat) : ProductionSwapRuntimeJournal :=
  let id := fingerprint (.str "id")
  let j : ProductionSwapRuntimeJournal :=
    { schemaVersion := 1, journalId := "", activationId := id, executionPermitId := id
      preflightReceiptId := id, launchId := id, swapReplacementIntentId := id
      target := String.ofList ('/' :: List.replicate n 'a'), disk := "/dev/sda"
      retiringSwapDevice := "/dev/sda2", retiringSwapBytes := 1048576, retiringSwapPriority := -2
      swapfilePath := "/swapfile", swapfileMode := 0o600, phase := .prepared
      mutationMayHaveStarted := false, persistentConfigMayHaveChanged := false
      partitionTableMayHaveChanged := false, events := [] }
  { j with journalId := j.expectedJournalId }

variable [Fingerprint]

theorem paddedRecord_ok (n : Nat) : validateJournal (paddedRecord n) = .ok () := by
  have hid : isSha256Hex (paddedRecord n).journalId = true := Fingerprint.isSha256Hex_fingerprint _
  have hletters : (List.replicate n 'a').any isControl = false := by
    rw [List.any_replicate]
    split <;> rfl
  have htext : (paddedRecord n).target.toList = '/' :: List.replicate n 'a' := String.toList_ofList
  have htarget : startsWith (paddedRecord n).target "/" = true := by
    rw [startsWith, htext]
    rfl
  have hcontrol : (paddedRecord n).target.toList.any isControl = false := by
    rw [htext, List.any_cons, hletters]
    rfl
  have hnonempty : (paddedRecord n).target ≠ "" := by
    intro hempty
    rw [hempty] at htarget
    cases htarget
  refine validateJournal_eq_ok_iff.mpr ⟨⟨rfl, ?_, ?_, ⟨by simp [paddedRecord], rfl⟩,
    beq_self_eq_true _⟩, ⟨rfl, rfl, rfl, rfl⟩⟩
  · simp only [List.forall_mem_cons, List.not_mem_nil, false_implies, implies_true, and_true, hid,
      true_and]
    simp [paddedRecord]
  · simp only [List.forall_mem_cons, List.not_mem_nil, false_implies, implies_true, and_true]
    have hpath : ∀ p ∈ ["/dev/sda", "/dev/sda2", "/swapfile"],
        p ≠ "" ∧ startsWith p "/" = true ∧ p.toList.any isControl = false := by decide
    exact ⟨⟨hnonempty, htarget, hcontrol⟩, hpath _ (by simp [paddedRecord]),
      hpath _ (by simp [paddedRecord]), hpath _ (by simp [paddedRecord])⟩

/-- Each letter of the target is one byte of the JSON text. -/
theorem paddedRecord_length (n : Nat) : (toBytes (toJson (paddedRecord n))).length =
    (toBytes (toJson (paddedRecord 0))).length + n := by
  have hid : ∀ n, String.utf8Len (Lib.Json.render (toJson (paddedRecord n).journalId)) = 66 :=
    fun _ => isSha256Hex_rendered (Fingerprint.isSha256Hex_fingerprint _)
  have htarget : ∀ n, String.utf8Len (Lib.Json.render (toJson (paddedRecord n).target)) = n + 3 :=
    fun n => Lib.Json.renderString_len_padded ⟨rfl, rfl⟩ ⟨rfl, rfl⟩ n
  let r := paddedRecord 0
  let before := [("schema_version", toJson r.schemaVersion)]
  let between := [("activation_id", toJson r.activationId),
    ("execution_permit_id", toJson r.executionPermitId),
    ("preflight_receipt_id", toJson r.preflightReceiptId), ("launch_id", toJson r.launchId),
    ("swap_replacement_intent_id", toJson r.swapReplacementIntentId)]
  let after := [("disk", toJson r.disk), ("retiring_swap_device", toJson r.retiringSwapDevice),
    ("retiring_swap_bytes", toJson r.retiringSwapBytes),
    ("retiring_swap_priority", toJson r.retiringSwapPriority),
    ("swapfile_path", toJson r.swapfilePath), ("swapfile_mode", toJson r.swapfileMode),
    ("phase", toJson r.phase), ("mutation_may_have_started", toJson r.mutationMayHaveStarted),
    ("persistent_config_may_have_changed", toJson r.persistentConfigMayHaveChanged),
    ("partition_table_may_have_changed", toJson r.partitionTableMayHaveChanged),
    ("events", toJson r.events)]
  have hshape : ∀ n, toJson (paddedRecord n) = .obj (before ++
      (("journal_id", toJson (paddedRecord n).journalId) :: (between ++
        (("target", toJson (paddedRecord n).target) :: after)))) := fun _ => rfl
  rw [hshape n, hshape 0, Lib.Json.toBytes_obj_length (by simp),
    Lib.Json.toBytes_obj_length (by simp)]
  simp only [List.map_append, List.map_cons, List.sum_append, List.sum_cons, hid, htarget]
  omega

/-- Without padding the record is far from the limit. -/
theorem paddedRecord_zero_length :
    (toBytes (toJson (paddedRecord 0))).length ≤ maxSwapRuntimeJournalBytes := by
  have hid : ∀ v, Lib.Json.stringBound (fingerprint v) = 386 := by
    intro v
    rw [Lib.Json.stringBound, fingerprint_utf8ByteSize]
  refine (Lib.Json.toBytes_length_le _).trans ?_
  simp only [paddedRecord, ProductionSwapRuntimeJournal.expectedJournalId, toJson,
    Lib.Json.byteBound, Lib.Json.fieldsBound, Lib.Json.itemsBound, List.map_nil, List.replicate_zero,
    hid]
  decide

/-- The record whose JSON text takes the whole limit. -/
def fullRecord : ProductionSwapRuntimeJournal :=
  paddedRecord (maxSwapRuntimeJournalBytes - (toBytes (toJson (paddedRecord 0))).length)

private theorem fullRecord_length_eq :
    (toBytes (toJson fullRecord)).length = maxSwapRuntimeJournalBytes := by
  have hzero := paddedRecord_zero_length
  rw [fullRecord, paddedRecord_length]
  omega

private theorem fullRecord_persists {E : Env} :
    ∃ t u : St (interface ProductionSwapRuntimeJournal E),
      Proc.Can (persistNew fullRecord) () ⟨.holding none, []⟩ (.ok ()) () t ∧
      Undisturbed t u ∧ Proc.Can (load fullRecord.journalId) () t (.error .tooLarge) () u := by
  have hlength := fullRecord_length_eq
  have hvalid : validateJournal fullRecord = .ok () := paddedRecord_ok _
  obtain ⟨t, ht, hpersist⟩ := persistNew_can (E := E) (m := ()) (s := ⟨.holding none, []⟩)
    hvalid hlength.le rfl
  have hv : t.world.visible = some fullRecord := by
    rw [ht]
    rfl
  obtain ⟨u, hu, hload⟩ := load_can (m := ()) hvalid hv
  refine ⟨t, u, hpersist, hu, ?_⟩
  have hsize : checkRecordSize fullRecord = .error .tooLarge := by
    rw [checkRecordSize_eq, refuse_eq_error_iff]
    exact ⟨by omega, rfl⟩
  rw [hsize] at hload
  exact hload

end Sample

/-- No calls but those of the store. -/
def noEnv : Env := ⟨Empty, fun e => nomatch e⟩

theorem persisted_loadsBack_sample : ∃ t : St (interface ProductionSwapRuntimeJournal noEnv),
    Proc.Can (persistNew (paddedRecord 0)) () ⟨.holding none, []⟩ (.ok ()) () t ∧
    (LoadsBack Unit (paddedRecord 0) t ↔
      (toBytes (toJson (paddedRecord 0))).length ≠ maxSwapRuntimeJournalBytes) := by
  obtain ⟨t, -, hpersist⟩ := persistNew_can (E := noEnv) (m := ()) (s := ⟨.holding none, []⟩)
    (paddedRecord_ok 0) paddedRecord_zero_length rfl
  exact ⟨t, hpersist, persisted_loadsBack_iff (.inl hpersist)⟩

/-- The full record is persisted, and the load that follows finds it too large. -/
theorem fullRecord_unreadable :
    validateJournal fullRecord = .ok () ∧
    ∃ t u : St (interface ProductionSwapRuntimeJournal noEnv),
      Proc.Can (persistNew fullRecord) () ⟨.holding none, []⟩ (.ok ()) () t ∧
      Undisturbed t u ∧ Proc.Can (load fullRecord.journalId) () t (.error .tooLarge) () u :=
  ⟨paddedRecord_ok _, fullRecord_persists⟩

end StorageManager.Executor.Swap
