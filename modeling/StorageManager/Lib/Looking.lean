import StorageManager.Lib.WriteAhead

/-!
# Programs that only look

Such a program performs no action and leaves the file alone. What it saw lies in the log, in
order: the calls that convinced it, each with its answer and the file it met.
-/

namespace StorageManager.Lib.Looking

open Effects RecordFile WriteAhead

set_option autoImplicit false

variable {ρ : Type} {E : Env}

/-- From `s` to `t` these calls were made, in this order, perhaps among others. -/
def Logged (seen : List (Entry (interface ρ E))) (s t : St (interface ρ E)) : Prop :=
  ∃ ext, t.log = s.log ++ ext ∧ List.Sublist seen ext

/-- The calls, and nothing was performed. -/
structure Saw (D : Discipline ρ E) (seen : List (Entry (interface ρ E)))
    (s t : St (interface ρ E)) : Prop where
  silent : Silent D s t
  calls : Logged seen s t

variable {D : Discipline ρ E} {s t u : St (interface ρ E)}
  {seen seen' : List (Entry (interface ρ E))}

namespace Logged

theorem of_grew {P : Entry (interface ρ E) → Prop} (h : Grew P s t) : Logged [] s t := by
  obtain ⟨ext, hext, -⟩ := h
  exact ⟨ext, hext, List.nil_sublist ext⟩

theorem call {op : E.Op} (answer : E.Ans op) :
    Logged [⟨.inr op, answer, s.world⟩] s (s.call (.inr op) answer) :=
  ⟨[_], rfl, List.Sublist.refl _⟩

theorem append (h : Logged seen s t) (h' : Logged seen' t u) : Logged (seen ++ seen') s u := by
  obtain ⟨ext, hext, hseen⟩ := h
  obtain ⟨ext', hext', hseen'⟩ := h'
  refine ⟨ext ++ ext', ?_, hseen.append hseen'⟩
  rw [hext', hext, List.append_assoc]

/-- Fewer calls are told. -/
theorem fewer (h : Logged seen s t) (hseen : List.Sublist seen' seen) : Logged seen' s t := by
  obtain ⟨ext, hext, hsub⟩ := h
  exact ⟨ext, hext, hseen.trans hsub⟩

/-- The calls come after those that were in the log. -/
theorem sublist (h : Logged seen s t) (hs : List.Sublist seen' s.log) :
    List.Sublist (seen' ++ seen) t.log := by
  obtain ⟨ext, hext, hseen⟩ := h
  rw [hext]
  exact hs.append hseen

theorem later (h : Logged seen s t) (hs : List.Sublist seen' s.log) :
    List.Sublist seen' t.log :=
  (List.sublist_append_left seen' seen).trans (h.sublist hs)

end Logged

theorem Saw.of_silent (h : Silent D s t) : Saw D [] s t := ⟨h, .of_grew h.1⟩

theorem Saw.append (h : Saw D seen s t) (h' : Saw D seen' t u) : Saw D (seen ++ seen') s u :=
  ⟨trans_of (Silent D) h.silent h'.silent, h.calls.append h'.calls⟩

theorem Saw.call {op : E.Op} (hop : D.act op = none) (answer : E.Ans op) :
    Saw D [⟨.inr op, answer, s.world⟩] s (s.call (.inr op) answer) :=
  ⟨⟨(Quiet.refl s).ask hop answer, rfl⟩, .call answer⟩

theorem Saw.fewer (h : Saw D seen s t) (hseen : List.Sublist seen' seen) : Saw D seen' s t :=
  ⟨h.silent, h.calls.fewer hseen⟩

variable {μ ε ε' α β : Type} {p : FileProc ρ E μ ε α}
  {P R : File ρ → α → List (Entry (interface ρ E)) → Prop}

variable (D) in
/-- The program only looks, and when it succeeds it saw calls with `P`. -/
def Looks (p : FileProc ρ E μ ε α) (P : File ρ → α → List (Entry (interface ρ E)) → Prop) : Prop :=
  ∀ m s, p.Holds m s
    (fun a m' t => m' = m ∧ ∃ seen, P s.world a seen ∧ Saw D seen s t)
    (fun _ m' t => m' = m ∧ Silent D s t) (Silent D s)

/-- A call whose failure is the caller's error. -/
def orFail {σ : Type} (fault : σ → ε) (call : FileProc ρ E μ ε (Except σ α)) :
    FileProc ρ E μ ε α := do
  match ← call with
  | .ok a => pure a
  | .error e => Proc.throw (fault e)

theorem orFail_keeps {σ : Type} {fault : σ → ε} {call : FileProc ρ E μ ε (Except σ α)}
    (h : Proc.Keeps (Silent D) call) : Proc.Keeps (Silent D) (orFail fault call) := by
  unfold orFail
  refine Proc.Keeps.bind h fun answer => ?_
  cases answer with
  | error e => exact Proc.Keeps.throw _
  | ok a => exact Proc.Keeps.pure a

namespace Looks

theorem mono (h : Looks D p P) (hP : ∀ file a seen, P file a seen → R file a seen) :
    Looks D p R := by
  intro m s
  refine (h m s).mono ?_ (fun _ _ _ h => h) fun _ h => h
  intro a m' t ⟨hm, seen, hseen, hst⟩
  exact ⟨hm, seen, hP _ a seen hseen, hst⟩

theorem pure {a : α} (h : ∀ file, P file a []) : Looks D (Pure.pure a : FileProc ρ E μ ε α) P :=
  fun _ s => ⟨rfl, [], h s.world, .of_silent (refl_of (Silent D) s)⟩

theorem throw {e : ε} : Looks D (Proc.throw e : FileProc ρ E μ ε α) P :=
  fun _ s => ⟨rfl, refl_of (Silent D) s⟩

theorem lift {x : Except ε α} (h : ∀ a, x = .ok a → ∀ file, P file a []) :
    Looks D (Proc.lift x : FileProc ρ E μ ε α) P := by
  intro m s
  have same := refl_of (Silent D) s
  exact Proc.holds_lift.mpr
    ⟨fun a ha => ⟨rfl, [], h a ha s.world, .of_silent same⟩, fun _ _ => ⟨rfl, same⟩⟩

theorem ask {op : E.Op} (hop : D.act op = none) :
    Looks D (RecordFile.ask op : FileProc ρ E μ ε (E.Ans op))
      fun file answer seen => seen = [⟨.inr op, answer, file⟩] :=
  fun _ s => holds_ask.mpr ⟨refl_of (Silent D) s, fun answer => ⟨rfl, _, rfl, .call hop answer⟩⟩

theorem orFail {σ : Type} {fault : σ → ε} {call : FileProc ρ E μ ε (Except σ α)}
    {P : File ρ → Except σ α → List (Entry (interface ρ E)) → Prop} (h : Looks D call P) :
    Looks D (orFail fault call) fun file a seen => P file (.ok a) seen := by
  intro m s
  unfold Looking.orFail
  refine Proc.holds_bind.mpr ((h m s).mono ?_ (fun _ _ _ h => h) fun _ h => h)
  intro answer m' t ⟨hm, seen, hseen, hst⟩
  cases answer with
  | error e => exact ⟨hm, hst.silent⟩
  | ok a => exact ⟨hm, seen, hseen, hst⟩

/-- Some of what was seen is told. -/
theorem fewer (h : Looks D p fun file a seen => ∃ told, List.Sublist told seen ∧ P file a told) :
    Looks D p P := by
  intro m s
  refine (h m s).mono ?_ (fun _ _ _ h => h) fun _ h => h
  intro a m' t ⟨hm, seen, ⟨told, hsub, htold⟩, hst⟩
  exact ⟨hm, told, htold, hst.fewer hsub⟩

/-- What was seen first comes before what is seen after it. -/
theorem bind {k : α → FileProc ρ E μ ε β} {R : File ρ → β → List (Entry (interface ρ E)) → Prop}
    (hp : Looks D p P)
    (hk : ∀ a, Looks D (k a) fun file b rest => ∀ seen, P file a seen → R file b (seen ++ rest)) :
    Looks D (p >>= k) R := by
  intro m s
  refine Proc.holds_bind.mpr ((hp m s).mono ?_ (fun _ _ _ h => h) fun _ h => h)
  intro a m' t ⟨hm, seen, hseen, hst⟩
  subst hm
  refine (hk a m' t).mono ?_ ?_ fun u hu => trans_of (Silent D) hst.silent hu
  · intro b m'' u ⟨hm, rest, hrest, htu⟩
    rw [hst.silent.2] at hrest
    exact ⟨hm, _, hrest seen hseen, hst.append htu⟩
  · intro e m'' u ⟨hm, hu⟩
    exact ⟨hm, trans_of (Silent D) hst.silent hu⟩

/-- One call that may fail. -/
theorem call_then {σ : Type} {fault : σ → ε} {call : FileProc ρ E μ ε (Except σ α)}
    {entry : File ρ → Except σ α → Entry (interface ρ E)} {k : α → FileProc ρ E μ ε β}
    {R : File ρ → β → List (Entry (interface ρ E)) → Prop}
    (h : Looks D call fun file answer seen => seen = [entry file answer])
    (hk : ∀ a, Looks D (k a) fun file b rest => R file b (entry file (.ok a) :: rest)) :
    Looks D (Looking.orFail fault call >>= k) R :=
  bind (orFail h) fun a => (hk a).mono fun _ _ _ hrest seen hseen => by
    rw [hseen]
    exact hrest

/-- A check after which the program goes on. -/
theorem check {x : Except ε α} {k : α → FileProc ρ E μ ε β}
    {R : File ρ → β → List (Entry (interface ρ E)) → Prop}
    (hk : ∀ a, x = .ok a → Looks D (k a) R) : Looks D (Proc.lift x >>= k) R := by
  intro m s
  refine Proc.holds_bind.mpr (Proc.holds_lift.mpr ⟨fun a ha => hk a ha m s, fun _ _ => ?_⟩)
  exact ⟨rfl, refl_of (Silent D) s⟩

/-- What a function saw that merely performs no action is not told. -/
theorem after_keeps {k : α → FileProc ρ E μ ε β}
    {R : File ρ → β → List (Entry (interface ρ E)) → Prop} (hp : Proc.Keeps (Silent D) p)
    (hk : ∀ a, Looks D (k a) R) : Looks D (p >>= k) R := by
  intro m s
  refine Proc.holds_bind.mpr ((hp m s).mono ?_ (fun _ _ _ h => h) fun _ h => h)
  intro a m' t ⟨hm, ht⟩
  subst hm
  refine (hk a m' t).mono ?_ ?_ fun u hu => trans_of (Silent D) ht hu
  · intro b m'' u ⟨hm, seen, hseen, htu⟩
    rw [ht.2] at hseen
    exact ⟨hm, seen, hseen, (Saw.of_silent ht).append htu⟩
  · intro e m'' u ⟨hm, hu⟩
    exact ⟨hm, trans_of (Silent D) ht hu⟩

theorem then_keeps {k : α → FileProc ρ E μ ε β} (hp : Looks D p P)
    (hk : ∀ a, Proc.Keeps (Silent D) (k a)) :
    Looks D (p >>= k) fun file _ seen => ∃ a, P file a seen := by
  intro m s
  refine Proc.holds_bind.mpr ((hp m s).mono ?_ (fun _ _ _ h => h) fun _ h => h)
  intro a m' t ⟨hm, seen, hseen, hst⟩
  subst hm
  refine (hk a m' t).mono ?_ ?_ fun u hu => trans_of (Silent D) hst.silent hu
  · intro b m'' u ⟨hm, hu⟩
    have htu : Saw D [] t u := .of_silent hu
    exact ⟨hm, seen, ⟨a, hseen⟩, (hst.append htu).fewer (List.sublist_append_left seen [])⟩
  · intro e m'' u ⟨hm, hu⟩
    exact ⟨hm, trans_of (Silent D) hst.silent hu⟩

theorem mapError {g : ε → ε'} (h : Looks D p P) : Looks D (Proc.mapError g p) P :=
  fun m s => Proc.holds_mapError.mpr (h m s)

end Looks

end StorageManager.Lib.Looking
