import StorageManager.Lib.Effects

/-!
# One record kept in one file

A store keeps one record in one file of a directory and replaces it by renaming a
fully written temporary file over it. The new record is visible from the rename on,
but a restart is only sure to find it after the directory was synced: until then a
restart may find any record that was visible since the last sync.

The interface joins the file with an environment `E`, whose calls do not touch the
file and whose answers are free.
-/

namespace StorageManager.Lib.RecordFile

open Effects

set_option autoImplicit false

/-- The record a read finds, and the records a restart may find. -/
structure File (ρ : Type) where
  visible : Option ρ
  possible : List (Option ρ)

namespace File

variable {ρ : Type}

/-- A file of which no change is pending. -/
def holding (v : Option ρ) : File ρ := ⟨v, [v]⟩

/-- A rename or a link took effect, its directory is not synced. -/
def replace (f : File ρ) (r : ρ) : File ρ := ⟨some r, some r :: f.possible⟩

/-- The directory was synced. -/
def settle (f : File ρ) : File ρ := holding f.visible

@[simp] theorem holding_visible (v : Option ρ) : (holding v).visible = v := rfl
@[simp] theorem holding_possible (v : Option ρ) : (holding v).possible = [v] := rfl
@[simp] theorem replace_visible (f : File ρ) (r : ρ) : (f.replace r).visible = some r := rfl
@[simp] theorem replace_possible (f : File ρ) (r : ρ) :
    (f.replace r).possible = some r :: f.possible := rfl
@[simp] theorem settle_replace (f : File ρ) (r : ρ) :
    (f.replace r).settle = holding (some r) := rfl

/-- The whole machine was restarted: one of the possible records is there now. -/
def Restart (f f' : File ρ) : Prop := ∃ v ∈ f.possible, f' = holding v

end File

/-- Why a file operation was refused. -/
inductive Fault where
  | unsafeDirectory
  | unsafePath
  | notFound
  | alreadyExists
  | io (source : String)
  deriving DecidableEq

inductive FileOp (ρ : Type) where
  /-- Check the directory, or make it when it may be missing. -/
  | ensureDirectory (create : Bool)
  /-- Does the record's path exist? -/
  | present
  /-- Check that the record's file is a private regular file. -/
  | metadata
  | read
  /-- Write and sync a temporary file. -/
  | stage
  /-- Link the temporary file to the record's path, which must be free. -/
  | link (r : ρ)
  /-- Rename the temporary file over the record's path. -/
  | rename (r : ρ)
  | syncDirectory
  | removeTemp

/-- A refused operation has no effect; the record is the answer of `present` and
`read`. -/
def FileOp.perform {ρ : Type} (op : FileOp ρ) (refused : Option Fault) (f : File ρ) :
    Except Fault (Option ρ) × File ρ :=
  match refused with
  | some fault => (.error fault, f)
  | none =>
    match op, f.visible with
    | .metadata, none => (.error .notFound, f)
    | .read, none => (.error .notFound, f)
    | .link _, some _ => (.error .alreadyExists, f)
    | .link r, none => (.ok none, f.replace r)
    | .rename r, _ => (.ok none, f.replace r)
    | .syncDirectory, _ => (.ok none, f.settle)
    | .present, v => (.ok v, f)
    | .read, some r => (.ok (some r), f)
    | _, _ => (.ok none, f)

theorem FileOp.perform_metadata {ρ : Type} {f : File ρ} {r : ρ} (h : f.visible = some r) :
    (FileOp.metadata : FileOp ρ).perform none f = (.ok none, f) := by
  unfold FileOp.perform
  rw [h]

theorem FileOp.perform_read {ρ : Type} {f : File ρ} {r : ρ} (h : f.visible = some r) :
    (FileOp.read : FileOp ρ).perform none f = (.ok (some r), f) := by
  unfold FileOp.perform
  rw [h]

/-- Calls that leave the file alone. -/
structure Env where
  Op : Type
  Ans : Op → Type

@[reducible] def interface (ρ : Type) (E : Env) : Interface where
  Op := FileOp ρ ⊕ E.Op
  Choice
    | .inl _ => Option Fault
    | .inr op => E.Ans op
  Ans
    | .inl _ => Except Fault (Option ρ)
    | .inr op => E.Ans op
  World := File ρ
  perform
    | .inl op, refused, f => op.perform refused f
    | .inr _, answer, f => (answer, f)

/-- A function that works on the file and calls the environment. -/
abbrev FileProc (ρ : Type) (E : Env) (μ ε : Type) := Proc (interface ρ E) μ ε

variable {ρ : Type} {E : Env} {μ ε α : Type}

/-- One file operation. -/
def file (op : FileOp ρ) : FileProc ρ E μ ε (Except Fault (Option ρ)) :=
  Proc.perform (I := interface ρ E) (Sum.inl op)

/-- One call of the environment. -/
def ask (op : E.Op) : FileProc ρ E μ ε (E.Ans op) :=
  Proc.perform (I := interface ρ E) (Sum.inr op)

/-- One file operation whose refusal is the caller's error. -/
def onFile (fault : Fault → ε) (op : FileOp ρ) : FileProc ρ E μ ε (Option ρ) := do
  match ← file op with
  | .ok r => pure r
  | .error f => Proc.throw (fault f)

/-- The record that is there. -/
def readRecord (fault : Fault → ε) : FileProc ρ E μ ε ρ := do
  match ← onFile fault .read with
  | some r => pure r
  | none => Proc.throw (fault .notFound)

/-- Run a write, and remove the temporary file when it failed. -/
def cleaningUp (write : FileProc ρ E μ ε Unit) : FileProc ρ E μ ε Unit := do
  match ← (write.attempt : FileProc ρ E μ ε (Except ε Unit)) with
  | .ok () => pure ()
  | .error e => do
    let _ ← file .removeTemp
    Proc.throw e

/-- `write_atomic_replace`: stage, rename, sync. -/
def writeAtomicReplace (fault : Fault → ε) (r : ρ) : FileProc ρ E μ ε Unit :=
  cleaningUp do
    let _ ← onFile fault .stage
    let _ ← onFile fault (.rename r)
    let _ ← onFile fault .syncDirectory

/-- `write_atomic_new`: stage, link, remove the staged name, sync. -/
def writeAtomicNew (fault linkFault : Fault → ε) (r : ρ) : FileProc ρ E μ ε Unit :=
  cleaningUp do
    let _ ← onFile fault .stage
    let _ ← onFile linkFault (.link r)
    let _ ← onFile fault .removeTemp
    let _ ← onFile fault .syncDirectory

/-- Apply a step to the record in memory and persist the result; the memory moves only
after that. -/
def persistStep (step : ρ → Except ε ρ) (persist : ρ → FileProc ρ E ρ ε Unit) :
    FileProc ρ E ρ ε Unit := do
  let record ← Proc.get
  let candidate ← Proc.lift (step record)
  persist candidate
  Proc.set candidate

@[simp] theorem call_inl_world (s : St (interface ρ E)) (op : FileOp ρ) (c : Option Fault) :
    (s.call (.inl op) c).world = (op.perform c s.world).2 := rfl

@[simp] theorem call_inr_world (s : St (interface ρ E)) (op : E.Op) (a : E.Ans op) :
    (s.call (.inr op) a).world = s.world := rfl

/-- From `s` only file operations were called, and the file is now `f`. -/
structure Filed (s : St (interface ρ E)) (f : File ρ) (t : St (interface ρ E)) : Prop where
  log : Grew (fun e : Entry (interface ρ E) => ∃ op, e.op = .inl op) s t
  world : t.world = f

theorem Filed.refl (s : St (interface ρ E)) : Filed s s.world s := ⟨.refl s, rfl⟩

theorem Filed.trans {s t u : St (interface ρ E)} {f g : File ρ} (h : Filed s f t)
    (h' : Filed t g u) : Filed s g u := ⟨h.log.trans h'.log, h'.world⟩

theorem Filed.call {s t : St (interface ρ E)} {f : File ρ} (h : Filed s f t) (op : FileOp ρ)
    (c : Option Fault) : Filed s (op.perform c f).2 (t.call (.inl op) c) :=
  ⟨h.log.call ⟨op, rfl⟩, by rw [call_inl_world, h.world]⟩

/-- A write that is not confirmed: nothing happened, or the record is visible. -/
def Unsettled (r : ρ) (f f' : File ρ) : Prop := f' = f ∨ f' = f.replace r

section Rules

variable {fault : Fault → ε} {m : μ} {s t : St (interface ρ E)} {f : File ρ}

theorem holds_ask {op : E.Op} {ok : E.Ans op → μ → St (interface ρ E) → Prop}
    {err : ε → μ → St (interface ρ E) → Prop} {lost : St (interface ρ E) → Prop} :
    (ask op : FileProc ρ E μ ε (E.Ans op)).Holds m s ok err lost ↔
      lost s ∧ ∀ a : E.Ans op, ok a m (s.call (.inr op) a) := Proc.holds_perform

/-- A file operation answers as it says, and what it does to the file is what it says. -/
theorem file_holds (h : Filed s f t) (op : FileOp ρ) :
    (file op : FileProc ρ E μ ε _).Holds m t
      (fun a m' t' => m' = m ∧ ∃ c, a = (op.perform c f).1 ∧ Filed s (op.perform c f).2 t')
      (fun _ _ _ => False) (Filed s f) := by
  refine Proc.holds_perform.mpr ⟨h, fun c => ⟨rfl, c, ?_, h.call op c⟩⟩
  rw [← h.world]

/-- A refused operation leaves the file alone. -/
theorem onFile_holds (h : Filed s f t) (op : FileOp ρ) :
    (onFile fault op : FileProc ρ E μ ε _).Holds m t
      (fun a m' t' => m' = m ∧ (op.perform none f).1 = .ok a ∧ Filed s (op.perform none f).2 t')
      (fun _ m' t' => m' = m ∧ Filed s f t') (Filed s f) := by
  refine Proc.holds_bind.mpr ((file_holds h op).mono ?_ (fun _ _ _ h => h.elim) fun _ h => h)
  rintro a m' t' ⟨rfl, c, rfl, ht⟩
  cases c with
  | some e => exact ⟨rfl, ht⟩
  | none =>
    cases ha : (op.perform none f).1 with
    | ok r => exact ⟨rfl, rfl, ht⟩
    | error e =>
      have hf : (op.perform none f).2 = f := by
        revert ha
        unfold FileOp.perform
        rcases f with ⟨_ | _, _⟩ <;> cases op <;> simp
      exact ⟨rfl, hf ▸ ht⟩

/-- What a write guarantees when it fails still holds after the cleaning up. -/
theorem cleaningUp_holds {write : FileProc ρ E μ ε Unit} {F : File ρ → Prop}
    {ok : Unit → μ → St (interface ρ E) → Prop}
    (h : write.Holds m t ok (fun _ m' t' => m' = m ∧ ∃ f', F f' ∧ Filed s f' t')
      fun t' => ∃ f', F f' ∧ Filed s f' t') :
    (cleaningUp write).Holds m t ok (fun _ m' t' => m' = m ∧ ∃ f', F f' ∧ Filed s f' t')
      fun t' => ∃ f', F f' ∧ Filed s f' t' := by
  refine Proc.holds_bind.mpr (Proc.holds_attempt.mpr (h.mono ?_ ?_ fun _ h => h))
  · intro _ m' t' h
    exact h
  · rintro e m' t' ⟨rfl, f', hF, ht⟩
    refine Proc.holds_bind.mpr ((file_holds ht .removeTemp).mono ?_ (fun _ _ _ h => h.elim)
      fun _ h => ⟨f', hF, h⟩)
    rintro a m'' t'' ⟨rfl, c, -, ht''⟩
    refine ⟨rfl, f', hF, ?_⟩
    cases c <;> exact ht''

end Rules

/-- The operations that only look. -/
def FileOp.Inert (op : FileOp ρ) : Prop := ∀ c f, (op.perform c f).2 = f

@[simp] theorem FileOp.inert_ensureDirectory (create : Bool) :
    (FileOp.ensureDirectory create : FileOp ρ).Inert := by
  rintro (_ | _) ⟨_ | _, _⟩ <;> rfl

@[simp] theorem FileOp.inert_present : (FileOp.present : FileOp ρ).Inert := by
  rintro (_ | _) ⟨_ | _, _⟩ <;> rfl

@[simp] theorem FileOp.inert_metadata : (FileOp.metadata : FileOp ρ).Inert := by
  rintro (_ | _) ⟨_ | _, _⟩ <;> rfl

@[simp] theorem FileOp.inert_read : (FileOp.read : FileOp ρ).Inert := by
  rintro (_ | _) ⟨_ | _, _⟩ <;> rfl

/-- Only file operations were called, and the file is as it was. -/
def Untouched (s t : St (interface ρ E)) : Prop := Filed s s.world t

instance : IsPreorder (St (interface ρ E)) Untouched where
  refl := Filed.refl
  trans _ t _ hst htu := by
    have h : Filed t t.world _ := htu
    rw [hst.world] at h
    exact hst.trans h

/-- The function replaces the record by `r`: once it succeeds the file holds exactly
`r`, and as long as it has not the file is as it was or `r` is visible. -/
def Rewrites (r : ρ) (p : FileProc ρ E μ ε Unit) : Prop :=
  ∀ m s f t, Filed s f t → p.Holds m t
    (fun _ m' t' => m' = m ∧ Filed s (.holding (some r)) t')
    (fun _ m' t' => m' = m ∧ ∃ f', Unsettled r f f' ∧ Filed s f' t')
    (fun t' => ∃ f', Unsettled r f f' ∧ Filed s f' t')

/-- The function makes the first record, and nothing happens when there is one. -/
def Creates (r : ρ) (p : FileProc ρ E μ ε Unit) : Prop :=
  ∀ m s f t, Filed s f t → p.Holds m t
    (fun _ m' t' => m' = m ∧ f.visible = none ∧ Filed s (.holding (some r)) t')
    (fun _ m' t' => m' = m ∧ ∃ f', (f' = f ∨ f.visible = none ∧ f' = f.replace r) ∧ Filed s f' t')
    (fun t' => ∃ f', (f' = f ∨ f.visible = none ∧ f' = f.replace r) ∧ Filed s f' t')

section Sequencing

variable {β : Type} {fault : Fault → ε}

@[simp] theorem file_keeps {op : FileOp ρ} (hop : op.Inert) :
    Proc.Keeps Untouched (file op : FileProc ρ E μ ε (Except Fault (Option ρ))) := by
  intro m s
  refine (file_holds (Filed.refl s) op).mono ?_ (fun _ _ _ h => h.elim) fun _ h => h
  rintro a m' t ⟨rfl, c, -, ht⟩
  rw [hop] at ht
  exact ⟨rfl, ht⟩

@[simp] theorem onFile_keeps {op : FileOp ρ} (hop : op.Inert) :
    Proc.Keeps Untouched (onFile fault op : FileProc ρ E μ ε (Option ρ)) := by
  intro m s
  refine (onFile_holds (Filed.refl s) op).mono ?_ (fun _ _ _ h => h) fun _ h => h
  rintro a m' t ⟨rfl, -, ht⟩
  rw [hop] at ht
  exact ⟨rfl, ht⟩

/-- A write after something that does not touch the file. -/
theorem Rewrites.after {q : FileProc ρ E μ ε α} {k : α → FileProc ρ E μ ε Unit} {r : ρ}
    (hq : Proc.Keeps Untouched q) (hk : ∀ a, Rewrites r (k a)) : Rewrites r (q >>= k) := by
  rintro m s f t h
  obtain rfl := h.world
  have old : ∀ t', Untouched t t' → ∃ f', Unsettled r t.world f' ∧ Filed s f' t' :=
    fun t' h' => ⟨t.world, .inl rfl, h.trans h'⟩
  refine Proc.Holds.bind ((hq m t).mono (fun _ _ _ h => h)
    (fun _ _ t' h => ⟨h.1, old t' h.2⟩) old) ?_
  rintro a m' t' ⟨rfl, ht⟩
  exact hk a m' s t.world t' (h.trans ht)

theorem Creates.after {q : FileProc ρ E μ ε α} {k : α → FileProc ρ E μ ε Unit} {r : ρ}
    (hq : Proc.Keeps Untouched q) (hk : ∀ a, Creates r (k a)) : Creates r (q >>= k) := by
  rintro m s f t h
  obtain rfl := h.world
  have old : ∀ t', Untouched t t' →
      ∃ f', (f' = t.world ∨ t.world.visible = none ∧ f' = t.world.replace r) ∧ Filed s f' t' :=
    fun t' h' => ⟨t.world, .inl rfl, h.trans h'⟩
  refine Proc.Holds.bind ((hq m t).mono (fun _ _ _ h => h)
    (fun _ _ t' h => ⟨h.1, old t' h.2⟩) old) ?_
  rintro a m' t' ⟨rfl, ht⟩
  exact hk a m' s t.world t' (h.trans ht)

end Sequencing

/-- A function that only looks, and finds the record that is there. -/
def Reads (p : FileProc ρ E μ ε ρ) : Prop :=
  ∀ m s, p.Holds m s (fun r m' t => m' = m ∧ s.world.visible = some r ∧ Untouched s t)
    (fun _ m' t => m' = m ∧ Untouched s t) (Untouched s)

theorem readRecord_reads (fault : Fault → ε) : Reads (readRecord fault : FileProc ρ E μ ε ρ) := by
  intro m s
  refine (onFile_holds (Filed.refl s) .read).bind ?_
  rintro r m' t ⟨rfl, hr, ht⟩
  obtain ⟨⟨_ | v, p⟩, log⟩ := s
  · simp [FileOp.perform] at hr
  · obtain rfl : some v = r := Except.ok.inj hr
    exact ⟨rfl, rfl, ht⟩

theorem Reads.after {q : FileProc ρ E μ ε α} {k : α → FileProc ρ E μ ε ρ}
    (hq : Proc.Keeps Untouched q) (hk : ∀ a, Reads (k a)) : Reads (q >>= k) := by
  intro m s
  refine Proc.Keeps.andThen (refl_of Untouched s) hq (fun _ h => h) (fun _ _ h => ⟨rfl, h⟩)
    fun a t ht => ?_
  refine (hk a m t).mono ?_ ?_ fun u hu => trans_of Untouched ht hu
  · rintro r m' u ⟨rfl, hr, hu⟩
    exact ⟨rfl, ht.world ▸ hr, trans_of Untouched ht hu⟩
  · exact fun _ m' u h => ⟨h.1, trans_of Untouched ht h.2⟩

theorem Reads.checked {p : FileProc ρ E μ ε ρ} (hp : Reads p) (check : ρ → Except ε Unit) :
    Reads (do
      let r ← p
      Proc.lift (check r)
      pure r) := by
  intro m s
  refine Proc.Holds.bind (hp m s) ?_
  rintro r m' t ⟨rfl, hr, ht⟩
  exact Proc.holds_bind.mpr (Proc.holds_lift.mpr ⟨fun _ _ => ⟨rfl, hr, ht⟩, fun _ _ => ⟨rfl, ht⟩⟩)

/-- A function that fails before it touches the file. -/
theorem Creates.throw (r : ρ) (e : ε) : Creates r (Proc.throw e : FileProc ρ E μ ε Unit) :=
  fun _ _ f _ h => ⟨rfl, f, .inl rfl, h⟩

theorem writeAtomicReplace_rewrites (fault : Fault → ε) (r : ρ) :
    Rewrites r (writeAtomicReplace fault r : FileProc ρ E μ ε Unit) := by
  intro m s f t h
  have old : ∀ t', Filed s f t' → ∃ f', Unsettled r f f' ∧ Filed s f' t' :=
    fun t' h => ⟨f, .inl rfl, h⟩
  have new : ∀ t', Filed s (f.replace r) t' → ∃ f', Unsettled r f f' ∧ Filed s f' t' :=
    fun t' h => ⟨f.replace r, .inr rfl, h⟩
  apply cleaningUp_holds
  refine Proc.Holds.bind ((onFile_holds h .stage).mono (fun _ _ _ h => h)
    (fun _ _ t' h => ⟨h.1, old t' h.2⟩) old) ?_
  rintro _ m' t' ⟨rfl, -, ht⟩
  refine Proc.Holds.bind ((onFile_holds (f := f) ht (.rename r)).mono (fun _ _ _ h => h)
    (fun _ _ t' h => ⟨h.1, old t' h.2⟩) old) ?_
  rintro _ m' t' ⟨rfl, -, ht⟩
  refine Proc.Holds.bind ((onFile_holds (f := f.replace r) ht .syncDirectory).mono
    (fun _ _ _ h => h) (fun _ _ t' h => ⟨h.1, new t' h.2⟩) new) ?_
  rintro _ m' t' ⟨rfl, -, ht⟩
  exact ⟨rfl, ht⟩

/-- A step that is not persisted: nothing happened, or its record is visible. -/
def Pending (step : ρ → Except ε ρ) (r : ρ) (f f' : File ρ) : Prop :=
  f' = f ∨ ∃ next, step r = .ok next ∧ f' = f.replace next

/-- A persisted step leaves exactly the new record, in the file and in memory. While it
is not persisted the memory keeps the old record, and the new one may only be visible. -/
theorem persistStep_holds {step : ρ → Except ε ρ} {persist : ρ → FileProc ρ E ρ ε Unit}
    (hpersist : ∀ r, Rewrites r (persist r)) {s t : St (interface ρ E)} {r : ρ} {f : File ρ}
    (h : Filed s f t) :
    (persistStep step persist).Holds r t
      (fun _ r' t' => step r = .ok r' ∧ Filed s (.holding (some r')) t')
      (fun _ r' t' => r' = r ∧ ∃ f', Pending step r f f' ∧ Filed s f' t')
      (fun t' => ∃ f', Pending step r f f' ∧ Filed s f' t') := by
  unfold persistStep
  refine Proc.holds_bind.mpr (Proc.holds_get.mpr (Proc.holds_bind.mpr (Proc.holds_lift.mpr
    ⟨fun next hnext => ?_, fun e _ => ⟨rfl, f, .inl rfl, h⟩⟩)))
  have pending : ∀ f', Unsettled next f f' → Pending step r f f' := by
    rintro f' (rfl | rfl)
    · exact .inl rfl
    · exact .inr ⟨next, hnext, rfl⟩
  refine Proc.Holds.bind ((hpersist next r s f t h).mono (fun _ _ _ h => h) ?_ ?_) ?_
  · rintro _ r' t' ⟨rfl, f', hf, ht⟩
    exact ⟨rfl, f', pending f' hf, ht⟩
  · rintro t' ⟨f', hf, ht⟩
    exact ⟨f', pending f' hf, ht⟩
  · rintro _ r' t' ⟨rfl, ht⟩
    exact Proc.holds_set.mpr ⟨hnext, ht⟩

/-- Only file operations were called, and none was refused. -/
def Undisturbed (s t : St (interface ρ E)) : Prop :=
  Grew (fun e : Entry (interface ρ E) => ∃ op w, e = ⟨.inl op, (none : Option Fault), w⟩) s t

theorem Undisturbed.call {s t : St (interface ρ E)} (h : Undisturbed s t) (op : FileOp ρ) :
    Undisturbed s (t.call (.inl op) (none : Option Fault)) := Grew.call h ⟨op, t.world, rfl⟩

section Possible

variable {m : μ} {s : St (interface ρ E)}

theorem file_can (op : FileOp ρ) (c : Option Fault) :
    Proc.Can (file op : FileProc ρ E μ ε _) m s (.ok (op.perform c s.world).1) m
      (s.call (.inl op) c) := @Proc.Can.perform (interface ρ E) μ ε m s (.inl op) c

/-- A file operation that nothing refuses. -/
theorem onFile_can {fault : Fault → ε} {op : FileOp ρ} {a : Option ρ}
    (h : (op.perform none s.world).1 = .ok a) :
    Proc.Can (onFile fault op : FileProc ρ E μ ε _) m s (.ok a) m
      (s.call (.inl op) (none : Option Fault)) := by
  refine Proc.Can.bind (file_can op none) ?_
  rw [h]
  exact Proc.Can.pure a

theorem readRecord_can {fault : Fault → ε} {r : ρ} (h : s.world.visible = some r) :
    Proc.Can (readRecord fault : FileProc ρ E μ ε ρ) m s (.ok r) m
      (s.call (.inl .read) (none : Option Fault)) :=
  Proc.Can.bind (onFile_can (congrArg Prod.fst (FileOp.perform_read h))) (Proc.Can.pure r)

theorem writeAtomicReplace_can (fault : Fault → ε) (r : ρ) :
    ∃ t : St (interface ρ E), t.world = .holding (some r) ∧ Undisturbed s t ∧
      Proc.Can (writeAtomicReplace fault r : FileProc ρ E μ ε Unit) m s (.ok ()) m t := by
  have done : ∀ (t : St (interface ρ E)) (op : FileOp ρ),
      (op.perform none t.world).1 = .ok none →
      Proc.Can (onFile fault op : FileProc ρ E μ ε _) m t (.ok none) m
        (t.call (.inl op) (none : Option Fault)) := fun _ _ h => onFile_can h
  refine ⟨_, ?_, ((Undisturbed.call (.refl s) .stage).call (.rename r)).call .syncDirectory,
    Proc.Can.bind (Proc.Can.attempt (Proc.Can.bind (done s .stage rfl)
      (Proc.Can.bind (done _ (.rename r) rfl) (Proc.Can.bind (done _ .syncDirectory rfl)
        (Proc.Can.pure ()))))) (Proc.Can.pure ())⟩
  rfl

theorem writeAtomicNew_can (fault linkFault : Fault → ε) (r : ρ) (h : s.world.visible = none) :
    ∃ t : St (interface ρ E), t.world = .holding (some r) ∧ Undisturbed s t ∧
      Proc.Can (writeAtomicNew fault linkFault r : FileProc ρ E μ ε Unit) m s (.ok ()) m t := by
  have done : ∀ (f : Fault → ε) (t : St (interface ρ E)) (op : FileOp ρ),
      (op.perform none t.world).1 = .ok none →
      Proc.Can (onFile f op : FileProc ρ E μ ε _) m t (.ok none) m
        (t.call (.inl op) (none : Option Fault)) := fun _ _ _ h => onFile_can h
  have hlink : (FileOp.perform (.link r) none s.world) = (.ok none, s.world.replace r) := by
    obtain ⟨⟨_ | v, possible⟩, log⟩ := s
    · rfl
    · cases h
  refine ⟨_, ?_, (((Undisturbed.call (.refl s) .stage).call (.link r)).call .removeTemp).call
      .syncDirectory, Proc.Can.bind (Proc.Can.attempt (Proc.Can.bind (done fault s .stage rfl)
    (Proc.Can.bind (done linkFault _ (.link r) (congrArg Prod.fst hlink))
      (Proc.Can.bind (done fault _ .removeTemp rfl) (Proc.Can.bind (done fault _ .syncDirectory rfl)
        (Proc.Can.pure ())))))) (Proc.Can.pure ())⟩
  show File.settle (FileOp.perform (.link r) none s.world).2 = .holding (some r)
  rw [hlink]
  rfl

theorem persistStep_can {step : ρ → Except ε ρ} {persist : ρ → FileProc ρ E ρ ε Unit} {r r' : ρ}
    {t : St (interface ρ E)} (hstep : step r = .ok r')
    (hpersist : Proc.Can (persist r') r s (.ok ()) r t) :
    Proc.Can (persistStep step persist) r s (.ok ()) r' t :=
  Proc.Can.bind Proc.Can.get (Proc.Can.bind (Proc.Can.lift hstep)
    (Proc.Can.bind hpersist (Proc.Can.set r')))

theorem persistStep_can_error {step : ρ → Except ε ρ} {persist : ρ → FileProc ρ E ρ ε Unit}
    {r r' : ρ} {e : ε} {t : St (interface ρ E)} (hstep : step r = .ok r')
    (hpersist : Proc.Can (persist r') r s (.error e) r t) :
    Proc.Can (persistStep step persist) r s (.error e) r t :=
  Proc.Can.bind Proc.Can.get (Proc.Can.bind (Proc.Can.lift hstep) (Proc.Can.bind_error hpersist))

end Possible

theorem writeAtomicNew_creates (fault linkFault : Fault → ε) (r : ρ) :
    Creates r (writeAtomicNew fault linkFault r : FileProc ρ E μ ε Unit) := by
  intro m s f t h
  have old : ∀ t', Filed s f t' →
      ∃ f', (f' = f ∨ f.visible = none ∧ f' = f.replace r) ∧ Filed s f' t' :=
    fun t' h => ⟨f, .inl rfl, h⟩
  have new : f.visible = none → ∀ t', Filed s (f.replace r) t' →
      ∃ f', (f' = f ∨ f.visible = none ∧ f' = f.replace r) ∧ Filed s f' t' :=
    fun hv t' h => ⟨f.replace r, .inr ⟨hv, rfl⟩, h⟩
  apply cleaningUp_holds
  refine Proc.Holds.bind ((onFile_holds h .stage).mono (fun _ _ _ h => h)
    (fun _ _ t' h => ⟨h.1, old t' h.2⟩) old) ?_
  rintro _ m' t' ⟨rfl, -, ht⟩
  refine Proc.Holds.bind ((onFile_holds (f := f) ht (.link r)).mono (fun _ _ _ h => h)
    (fun _ _ t' h => ⟨h.1, old t' h.2⟩) old) ?_
  rintro _ m' t' ⟨rfl, hlink, ht⟩
  -- the link was made, so nothing was there
  obtain ⟨hv, hf⟩ : f.visible = none ∧ (FileOp.perform (.link r) none f).2 = f.replace r := by
    rcases f with ⟨_ | _, _⟩ <;> simp [FileOp.perform] at hlink ⊢
  rw [hf] at ht
  refine Proc.Holds.bind ((onFile_holds (f := f.replace r) ht .removeTemp).mono
    (fun _ _ _ h => h) (fun _ _ t' h => ⟨h.1, new hv t' h.2⟩) (new hv)) ?_
  rintro _ m' t' ⟨rfl, -, ht⟩
  refine Proc.Holds.bind ((onFile_holds (f := f.replace r) ht .syncDirectory).mono
    (fun _ _ _ h => h) (fun _ _ t' h => ⟨h.1, new hv t' h.2⟩) (new hv)) ?_
  rintro _ m' t' ⟨rfl, -, ht⟩
  exact ⟨rfl, hv, ht⟩

end StorageManager.Lib.RecordFile
