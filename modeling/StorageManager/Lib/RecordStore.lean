import StorageManager.Lib.Looking

/-!
# A store of checked records

Each record lies in a file named after it. Records are checked before they are written and after
they are read, and both ways their encoding has a bounded length.
-/

namespace StorageManager.Lib.RecordStore

open Effects RecordFile WriteAhead Looking

set_option autoImplicit false

/-- The checks of a store and its errors. -/
structure Store (ρ ε : Type) where
  validate : ρ → Except ε Unit
  /-- The name of the record makes a file name. -/
  checkName : ρ → Except ε Unit
  encode : ρ → Except ε (List UInt8)
  fault : Fault → ε
  alreadyExists : ρ → ε

namespace Store

variable {ρ ε μ : Type} {E : Env} (S : Store ρ ε)

/-- The error of a link over a path that is taken. -/
def linkFault (r : ρ) : Fault → ε
  | .alreadyExists => S.alreadyExists r
  | fault => S.fault fault

/-- What a loaded record must pass. The file holds one record, so the checks of its length
before and after reading are one. -/
def checkLoaded (isNamed : ρ → Except ε Unit) (r : ρ) : Except ε Unit := do
  let _ ← S.encode r
  isNamed r
  S.validate r

/-- The record under a name that was checked, which must be its own. -/
def load (checkedName : Except ε Unit) (isNamed : ρ → Except ε Unit) : FileProc ρ E μ ε ρ := do
  Proc.lift checkedName
  let _ ← onFile S.fault (.ensureDirectory false)
  let _ ← onFile S.fault .metadata
  let r ← readRecord S.fault
  Proc.lift (S.checkLoaded isNamed r)
  pure r

def persistNew (r : ρ) : FileProc ρ E μ ε Unit := do
  Proc.lift (S.validate r)
  let _ ← onFile S.fault (.ensureDirectory true)
  Proc.lift (S.checkName r)
  match ← file .present with
  | .ok (some _) => Proc.throw (S.alreadyExists r)
  | _ => do
    let _ ← Proc.lift (S.encode r)
    writeAtomicNew S.fault (S.linkFault r) r

def persist (r : ρ) : FileProc ρ E μ ε Unit := do
  Proc.lift (S.validate r)
  let _ ← onFile S.fault (.ensureDirectory false)
  Proc.lift (S.checkName r)
  let _ ← onFile S.fault .metadata
  let _ ← Proc.lift (S.encode r)
  writeAtomicReplace S.fault r

theorem persist_rewrites (r : ρ) : Rewrites r (S.persist r : FileProc ρ E μ ε Unit) := by
  unfold persist
  refine Rewrites.after (by simp) fun _ => ?_
  refine Rewrites.after (by simp) fun _ => ?_
  refine Rewrites.after (by simp) fun _ => ?_
  refine Rewrites.after (by simp) fun _ => ?_
  refine Rewrites.after (by simp) fun _ => ?_
  exact writeAtomicReplace_rewrites _ r

theorem persistNew_creates (r : ρ) : Creates r (S.persistNew r : FileProc ρ E μ ε Unit) := by
  have write : Creates r (do
      let _ ← Proc.lift (S.encode r)
      writeAtomicNew S.fault (S.linkFault r) r : FileProc ρ E μ ε Unit) :=
    Creates.after (by simp) fun _ => writeAtomicNew_creates _ _ r
  unfold persistNew
  refine Creates.after (by simp) fun _ => ?_
  refine Creates.after (by simp) fun _ => ?_
  refine Creates.after (by simp) fun _ => ?_
  refine Creates.after (by simp) fun found => ?_
  rcases found with _ | _ | _
  · exact write
  · exact write
  · exact Creates.throw r _

/-- A loaded record is the one that is there, and it passed the checks of a record that is
written. -/
theorem load_holds (checkedName : Except ε Unit) (isNamed : ρ → Except ε Unit) (m : μ)
    (s : St (interface ρ E)) :
    (S.load checkedName isNamed : FileProc ρ E μ ε ρ).Holds m s
      (fun r m' t => m' = m ∧ s.world.visible = some r ∧ Untouched s t ∧ S.validate r = .ok ())
      (fun _ m' t => m' = m ∧ Untouched s t) (Untouched s) := by
  have looks : ∀ t, Untouched s t → Untouched s t := fun _ h => h
  have fails : ∀ (e : ε) t, Untouched s t → m = m ∧ Untouched s t := fun _ _ h => ⟨rfl, h⟩
  unfold load
  refine Proc.Keeps.andThen (refl_of Untouched s) (by simp) looks fails fun _ t ht => ?_
  refine Proc.Keeps.andThen ht (by simp) looks fails fun _ t ht => ?_
  refine Proc.Keeps.andThen ht (by simp) looks fails fun _ t ht => ?_
  refine Proc.holds_bind.mpr ((readRecord_reads S.fault m t).mono ?_ ?_
    fun u hu => trans_of Untouched ht hu)
  swap
  · exact fun _ m' u hu => ⟨hu.1, trans_of Untouched ht hu.2⟩
  intro r m' u ⟨hm, hr, hu⟩
  subst hm
  have hu := trans_of Untouched ht hu
  refine Proc.holds_bind.mpr (Proc.holds_lift.mpr ⟨fun _ hcheck => ?_, fun _ _ => ⟨rfl, hu⟩⟩)
  refine ⟨rfl, ht.world ▸ hr, hu, ?_⟩
  unfold checkLoaded at hcheck
  cases hencode : S.encode r with
  | error e => simp [hencode, bind, Except.bind] at hcheck
  | ok bytes =>
    cases hnamed : isNamed r with
    | error e => simp [hencode, hnamed, bind, Except.bind] at hcheck
    | ok _ => simpa [hencode, hnamed, bind, Except.bind] using hcheck

theorem load_looks {D : Discipline ρ E} (checkedName : Except ε Unit)
    (isNamed : ρ → Except ε Unit) :
    Looks D (S.load checkedName isNamed : FileProc ρ E μ ε ρ)
      fun file r seen => file.visible = some r ∧ seen = [] := by
  intro m s
  refine (S.load_holds checkedName isNamed m s).mono ?_ ?_ fun _ hu => .of_untouched hu
  · intro r m' t ⟨hm, hvisible, hu, _⟩
    exact ⟨hm, [], ⟨hvisible, rfl⟩, .of_silent (.of_untouched hu)⟩
  · intro e m' t ⟨hm, hu⟩
    exact ⟨hm, .of_untouched hu⟩

end Store

end StorageManager.Lib.RecordStore
