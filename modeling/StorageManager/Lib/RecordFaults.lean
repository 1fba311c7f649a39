import StorageManager.Lib.RecordFile

/-!
# Refused and unrefused operations on a record

A run in which nothing is refused has one outcome. A replacement that fails leaves the
old record, unless the sync of the directory was refused: the rename before it took
effect, so the new record is visible.
-/

namespace StorageManager.Lib.RecordFile

open Effects

set_option autoImplicit false

variable {ρ : Type} {E : Env} {μ ε α : Type}

namespace Undisturbed

variable {s t u : St (interface ρ E)} {m m' m'' : μ} {r r' : Except ε α}

theorem unique {p : FileProc ρ E μ ε α} (h : Proc.Can p m s r m' t) (ht : Undisturbed s t)
    (h' : Proc.Can p m s r' m'' u) (hu : Undisturbed s u) : r = r' := by
  have hchoice : ∀ (op : (interface ρ E).Op) (c c' : (interface ρ E).Choice op) (w : File ρ),
      (∃ o v, (⟨op, c, w⟩ : Entry (interface ρ E)) = ⟨.inl o, (none : Option Fault), v⟩) →
      (∃ o v, (⟨op, c', w⟩ : Entry (interface ρ E)) = ⟨.inl o, (none : Option Fault), v⟩) →
      c = c' := by
    rintro op c c' w ⟨o, v, h⟩ ⟨o', v', h'⟩
    cases h
    cases h'
    rfl
  exact congrArg Prod.fst (Calls.Can.unique hchoice h ht h' hu).1

end Undisturbed

/-- A call that syncs the directory and is refused. -/
def SyncRefused (e : Entry (interface ρ E)) : Prop :=
  ∃ fault w, e = ⟨.inl .syncDirectory, (some fault : Option Fault), w⟩

/-- No sync of the directory was refused. -/
def Synced (s t : St (interface ρ E)) : Prop := Grew (fun e => ¬SyncRefused e) s t

/-- The file is as it was, and no sync of the directory was refused. -/
def Still (s t : St (interface ρ E)) : Prop := Synced s t ∧ t.world = s.world

instance : IsPreorder (St (interface ρ E)) Still where
  refl s := ⟨Grew.refl s, rfl⟩
  trans _ _ _ h h' := ⟨h.1.trans h'.1, h'.2.trans h.2⟩

/-- Some sync of the directory was refused. -/
def SyncFailed (s t : St (interface ρ E)) : Prop :=
  ∃ ext, t.log = s.log ++ ext ∧ ∃ e ∈ ext, SyncRefused e

theorem Synced.not_failed {s t : St (interface ρ E)} (h : Synced s t) : ¬SyncFailed s t := by
  rintro ⟨ext, hext, e, he, hrefused⟩
  exact h.of_log hext e he hrefused

/-- The new record took the old one's place, and a sync of the directory was refused. -/
def Unsynced (r : ρ) (s t : St (interface ρ E)) : Prop :=
  SyncFailed s t ∧ t.world = s.world.replace r

theorem Unsynced.after {r : ρ} {s t u : St (interface ρ E)} (h : Still s t)
    (h' : Unsynced r t u) : Unsynced r s u := by
  obtain ⟨⟨ext, hext, -⟩, hworld⟩ := h
  obtain ⟨⟨ext', hext', e, he, hrefused⟩, hworld'⟩ := h'
  refine ⟨⟨ext ++ ext', ?_, e, List.mem_append_right _ he, hrefused⟩, ?_⟩
  · rw [hext', hext, List.append_assoc]
  · rw [hworld', hworld]

/-- When the replacement fails, the old record is there or the directory was not
synced. -/
def FailsSafe (r : ρ) (p : FileProc ρ E μ ε Unit) : Prop :=
  ∀ m s, p.Holds m s (fun _ _ _ => True) (fun _ m' t => m' = m ∧ (Still s t ∨ Unsynced r s t))
    fun _ => True

section Rules

variable {fault : Fault → ε} {m : μ} {s t : St (interface ρ E)} {op : FileOp ρ}

/-- One file operation and its answer. -/
theorem onFile_call : (onFile fault op : FileProc ρ E μ ε _).Holds m s
    (fun a m' t => m' = m ∧ ∃ c, t = s.call (.inl op) c ∧ (op.perform c s.world).1 = .ok a)
    (fun _ m' t => m' = m ∧ ∃ c f, t = s.call (.inl op) c ∧ (op.perform c s.world).1 = .error f)
    (fun t => t = s) := by
  refine Proc.holds_bind.mpr (Proc.holds_perform.mpr ⟨rfl, fun c => ?_⟩)
  cases h : (op.perform c s.world).1 with
  | ok a => exact ⟨rfl, c, rfl, h⟩
  | error f => exact ⟨rfl, c, f, rfl, h⟩

theorem synced_call (hop : op ≠ .syncDirectory) (c : Option Fault) :
    Synced s (s.call (.inl op) c) := by
  refine (Grew.refl s).call ?_
  rintro ⟨fault, w, h⟩
  cases h
  exact hop rfl

theorem still_call (hinert : op.Inert) (hop : op ≠ .syncDirectory) (c : Option Fault) :
    Still s (s.call (.inl op) c) := ⟨synced_call hop c, hinert c s.world⟩

theorem onFile_still (hinert : op.Inert) (hop : op ≠ .syncDirectory) :
    Proc.Keeps Still (onFile fault op : FileProc ρ E μ ε (Option ρ)) := by
  intro m s
  refine onFile_call.mono ?_ ?_ ?_
  · rintro a m' t ⟨rfl, c, rfl, -⟩
    exact ⟨rfl, still_call hinert hop c⟩
  · rintro e m' t ⟨rfl, c, f, rfl, -⟩
    exact ⟨rfl, still_call hinert hop c⟩
  · rintro t rfl
    exact refl_of Still t

theorem FailsSafe.after {q : FileProc ρ E μ ε α} {k : α → FileProc ρ E μ ε Unit} {r : ρ}
    (hq : Proc.Keeps Still q) (hk : ∀ a, FailsSafe r (k a)) : FailsSafe r (q >>= k) := by
  intro m s
  refine Proc.Holds.bind ((hq m s).mono (fun _ _ _ h => h) (fun _ _ _ h => ⟨h.1, .inl h.2⟩)
    fun _ _ => trivial) ?_
  rintro a m' t ⟨rfl, ht⟩
  refine (hk a m' t).mono (fun _ _ _ h => h) ?_ fun _ h => h
  rintro e m'' u ⟨rfl, hu | hu⟩
  · exact ⟨rfl, .inl (trans_of Still ht hu)⟩
  · exact ⟨rfl, .inr (hu.after ht)⟩

theorem cleaningUp_failsSafe {write : FileProc ρ E μ ε Unit} {r : ρ} (hwrite : FailsSafe r write) :
    FailsSafe r (cleaningUp write) := by
  intro m s
  refine Proc.holds_bind.mpr (Proc.holds_attempt.mpr ((hwrite m s).mono (fun _ _ _ _ => trivial) ?_
    fun _ h => h))
  rintro e m' t ⟨rfl, ht⟩
  refine Proc.holds_bind.mpr (Proc.holds_perform.mpr ⟨trivial, fun c => ⟨rfl, ?_⟩⟩)
  -- the temporary file is not the record
  have hinert : (FileOp.removeTemp : FileOp ρ).Inert := by
    rintro (_ | _) ⟨_ | _, _⟩ <;> rfl
  have hstill : Still t (t.call (.inl .removeTemp) c) := still_call hinert (by simp) c
  rcases ht with ht | ⟨⟨ext, hext, e, he, hrefused⟩, hworld⟩
  · exact .inl (trans_of Still ht hstill)
  · refine .inr ⟨⟨ext ++ [⟨.inl .removeTemp, c, t.world⟩], ?_, e, List.mem_append_left _ he,
      hrefused⟩, hstill.2.trans hworld⟩
    rw [St.call_log, hext, List.append_assoc]

theorem writeAtomicReplace_failsSafe (fault : Fault → ε) (r : ρ) :
    FailsSafe r (writeAtomicReplace fault r : FileProc ρ E μ ε Unit) := by
  apply cleaningUp_failsSafe
  have hstage : (FileOp.stage : FileOp ρ).Inert := by
    rintro (_ | _) ⟨_ | _, _⟩ <;> rfl
  refine FailsSafe.after (onFile_still hstage (by simp)) fun _ m s => ?_
  refine Proc.Holds.bind (onFile_call.mono (fun _ _ _ h => h) ?_ fun _ _ => trivial) ?_
  · -- a refused rename changes nothing
    rintro e m' t ⟨rfl, c, f, rfl, hanswer⟩
    cases c with
    | none =>
      exfalso
      revert hanswer
      rcases s.world with ⟨_ | _, _⟩ <;> simp [FileOp.perform]
    | some f => exact ⟨rfl, .inl ⟨synced_call (by simp) _, rfl⟩⟩
  rintro a m' t ⟨rfl, c, rfl, hanswer⟩
  cases c with
  | some f => cases hanswer
  | none =>
    have hrename : (s.call (.inl (.rename r)) (none : Option Fault)).world = s.world.replace r := by
      rcases s with ⟨⟨_ | _, _⟩, _⟩ <;> rfl
    have hlog : (s.call (.inl (.rename r)) (none : Option Fault)).log =
      s.log ++ [⟨.inl (.rename r), (none : Option Fault), s.world⟩] := rfl
    generalize s.call (.inl (.rename r)) (none : Option Fault) = t at hrename hlog ⊢
    refine Proc.holds_bind.mpr (onFile_call.mono (fun _ _ _ _ => trivial) ?_ fun _ _ => trivial)
    rintro e m' u ⟨rfl, c, f, rfl, hanswer⟩
    cases c with
    | none =>
      exfalso
      revert hanswer
      rcases t.world with ⟨_ | _, _⟩ <;> simp [FileOp.perform]
    | some f =>
      have hworld : (t.call (.inl .syncDirectory) (some f : Option Fault)).world = t.world := rfl
      let e : Entry (interface ρ E) := ⟨.inl .syncDirectory, (some f : Option Fault), t.world⟩
      have hfailed : SyncFailed s (t.call (.inl .syncDirectory) (some f : Option Fault)) := by
        refine ⟨[⟨.inl (.rename r), (none : Option Fault), s.world⟩] ++ [e], ?_, e,
          List.mem_append_right _ List.mem_cons_self, f, t.world, rfl⟩
        rw [St.call_log, hlog, List.append_assoc]
      exact ⟨rfl, .inr ⟨hfailed, hworld.trans hrename⟩⟩

/-- The sync of the directory is refused after the rename. -/
theorem writeAtomicReplace_can_fail (fault : Fault → ε) (r : ρ) (f : Fault) :
    ∃ t : St (interface ρ E), Unsynced r s t ∧
      Proc.Can (writeAtomicReplace fault r : FileProc ρ E μ ε Unit) m s (.error (fault f)) m t := by
  let t₁ := s.call (.inl .stage) (none : Option Fault)
  let t₂ := t₁.call (.inl (.rename r)) (none : Option Fault)
  let t₃ := t₂.call (.inl .syncDirectory) (some f : Option Fault)
  let t₄ := t₃.call (.inl .removeTemp) (none : Option Fault)
  have hsync : Proc.Can (onFile fault .syncDirectory : FileProc ρ E μ ε _) m t₂
      (.error (fault f)) m t₃ :=
    Proc.Can.bind (file_can .syncDirectory (some f)) (Proc.Can.throw (fault f))
  have hremove : Proc.Can (file .removeTemp : FileProc ρ E μ ε _) m t₃ _ m t₄ :=
    file_can .removeTemp none
  have hwrite : Proc.Can (writeAtomicReplace fault r : FileProc ρ E μ ε Unit) m s
      (.error (fault f)) m t₄ :=
    .bind (.attempt (.bind (onFile_can rfl) (.bind (onFile_can rfl) (.bind_error hsync))))
      (.bind hremove (.throw (fault f)))
  let e : Entry (interface ρ E) := ⟨.inl .syncDirectory, (some f : Option Fault), t₂.world⟩
  have hfailed : SyncFailed s t₄ := by
    refine ⟨[⟨.inl .stage, (none : Option Fault), s.world⟩,
      ⟨.inl (.rename r), (none : Option Fault), t₁.world⟩, e,
      ⟨.inl .removeTemp, (none : Option Fault), t₃.world⟩], ?_, e, by simp, f, t₂.world, rfl⟩
    simp only [t₄, t₃, t₂, t₁, e, St.call_log, List.append_assoc, List.cons_append, List.nil_append]
  exact ⟨t₄, ⟨hfailed, rfl⟩, hwrite⟩

/-- A step that fails leaves the memory, and leaves the record when the sync of the
directory was not refused. -/
theorem persistStep_error {step : ρ → Except ε ρ} {persist : ρ → FileProc ρ E ρ ε Unit}
    (hpersist : ∀ r, FailsSafe r (persist r)) {r r' : ρ} {e : ε} {s t : St (interface ρ E)}
    (h : Proc.Can (persistStep step persist) r s (.error e) r' t) :
    r' = r ∧ (Still s t ∨ ∃ next, step r = .ok next ∧ Unsynced next s t) := by
  have hall : (persistStep step persist).Holds r s (fun _ _ _ => True)
      (fun _ r' t => r' = r ∧ (Still s t ∨ ∃ next, step r = .ok next ∧ Unsynced next s t))
      fun _ => True := by
    unfold persistStep
    refine Proc.holds_bind.mpr (Proc.holds_get.mpr (Proc.holds_bind.mpr (Proc.holds_lift.mpr
      ⟨fun next hnext => ?_, fun e _ => ⟨rfl, .inl (refl_of Still s)⟩⟩)))
    refine Proc.holds_bind.mpr ((hpersist next r s).mono (fun _ _ _ _ => trivial) ?_ fun _ h => h)
    rintro e r' t ⟨rfl, ht | ht⟩
    · exact ⟨rfl, .inl ht⟩
    · exact ⟨rfl, .inr ⟨next, hnext, ht⟩⟩
  exact h.holds_error hall

end Rules

end StorageManager.Lib.RecordFile
