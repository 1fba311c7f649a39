import Mathlib.Logic.Relation
import Mathlib.Data.List.Basic
import Mathlib.Order.Defs.Unbundled

/-!
# Programs that call their surroundings and may be lost at any call

A program is a tree of external calls. At each call the surroundings choose how
the call goes; the world changes by `perform` and the program goes on with the
answer. A script is the finite list of those choices, and a program whose script
runs out is lost at that call, so every prefix of a run is itself a run. The log
keeps each call with the world it met. `wp` is the proof side of `run`.
-/

namespace StorageManager.Lib.Effects

set_option autoImplicit false

/-- The external calls of a system, the choices left to its surroundings, the
answers a program sees, and the effect on the world. -/
structure Interface where
  Op : Type
  Choice : Op → Type
  Ans : Op → Type
  World : Type
  perform : (op : Op) → Choice op → World → Ans op × World

/-- One call of the log: what was asked, how it went, and the world it met. -/
structure Entry (I : Interface) where
  op : I.Op
  choice : I.Choice op
  before : I.World

structure St (I : Interface) where
  world : I.World
  log : List (Entry I)

/-- The state after one call. -/
def St.call {I : Interface} (s : St I) (op : I.Op) (c : I.Choice op) : St I :=
  ⟨(I.perform op c s.world).2, s.log ++ [⟨op, c, s.world⟩]⟩

@[simp] theorem St.call_world {I : Interface} (s : St I) (op : I.Op) (c : I.Choice op) :
    (s.call op c).world = (I.perform op c s.world).2 := rfl

@[simp] theorem St.call_log {I : Interface} (s : St I) (op : I.Op) (c : I.Choice op) :
    (s.call op c).log = s.log ++ [⟨op, c, s.world⟩] := rfl

/-- The log grew by entries with `P`. -/
def Grew {I : Interface} (P : Entry I → Prop) (s t : St I) : Prop :=
  ∃ ext, t.log = s.log ++ ext ∧ ∀ e ∈ ext, P e

namespace Grew

variable {I : Interface} {P Q : Entry I → Prop} {s t u : St I}

theorem refl (s : St I) : Grew P s s := ⟨[], by simp⟩

theorem trans (h : Grew P s t) (h' : Grew P t u) : Grew P s u := by
  obtain ⟨ext, hext, hP⟩ := h
  obtain ⟨ext', hext', hP'⟩ := h'
  refine ⟨ext ++ ext', by rw [hext', hext, List.append_assoc], fun e he => ?_⟩
  rcases List.mem_append.mp he with he | he
  · exact hP e he
  · exact hP' e he

theorem call (h : Grew P s t) {op : I.Op} {c : I.Choice op} (hP : P ⟨op, c, t.world⟩) :
    Grew P s (t.call op c) := by
  refine h.trans ⟨[⟨op, c, t.world⟩], rfl, fun e he => ?_⟩
  rw [List.mem_singleton.mp he]
  exact hP

theorem mono (h : Grew P s t) (hPQ : ∀ e, P e → Q e) : Grew Q s t := by
  obtain ⟨ext, hext, hP⟩ := h
  exact ⟨ext, hext, fun e he => hPQ e (hP e he)⟩

/-- The entries of a log that grew are the new ones. -/
theorem of_log {ext : List (Entry I)} (h : Grew P s t) (hext : t.log = s.log ++ ext) :
    ∀ e ∈ ext, P e := by
  obtain ⟨ext', hext', hP⟩ := h
  have hsame : ext = ext' := List.append_cancel_left (hext.symm.trans hext')
  rw [hsame]
  exact hP

end Grew

/-- Nothing was called, or the first new entry met the world of `s`. -/
def First {I : Interface} (s t : St I) : Prop :=
  t = s ∨ ∃ e post, t.log = s.log ++ e :: post ∧ e.before = s.world

inductive Calls (I : Interface) (α : Type) where
  | ret (a : α)
  | call (op : I.Op) (next : I.Ans op → Calls I α)

/-- One choice for every call that could come next; its length is the number of
calls the program is allowed before it is lost. -/
abbrev Script (I : Interface) := List ((op : I.Op) → I.Choice op)

namespace Calls

variable {I : Interface} {α β : Type}

def bind : Calls I α → (α → Calls I β) → Calls I β
  | .ret a, f => f a
  | .call op k, f => .call op fun a => (k a).bind f

/-- `none` when the script ran out before the program returned. -/
def run : Calls I α → Script I → St I → Option α × St I
  | .ret a, _, s => (some a, s)
  | .call _ _, [], s => (none, s)
  | .call op k, c :: cs, s => (k (I.perform op (c op) s.world).1).run cs (s.call op (c op))

/-- The weakest condition under which every run, cut anywhere, ends in `Q`. -/
def wp (Q : Option α → St I → Prop) : Calls I α → St I → Prop
  | .ret a, s => Q (some a) s
  | .call op k, s => Q none s ∧
      ∀ c, wp Q (k (I.perform op c s.world).1) (s.call op c)

theorem wp_sound {Q : Option α → St I → Prop} :
    ∀ {p : Calls I α} {s : St I}, wp Q p s →
      ∀ script, Q (p.run script s).1 (p.run script s).2
  | .ret _, _, h, _ => h
  | .call _ _, _, h, [] => h.1
  | .call op _, _, h, c :: cs => wp_sound (h.2 (c op)) cs

/-- A choice for one call, repeated for every other one. -/
private theorem exists_script [∀ op, Nonempty (I.Choice op)] (op : I.Op) (c : I.Choice op) :
    ∃ f : (op : I.Op) → I.Choice op, f op = c := by
  classical
  refine ⟨fun o => if h : o = op then h ▸ c else Classical.choice inferInstance, ?_⟩
  simp

/-- Nothing is lost by reasoning with `wp`. -/
theorem wp_complete [∀ op, Nonempty (I.Choice op)] {Q : Option α → St I → Prop} :
    ∀ {p : Calls I α} {s : St I}, (∀ script, Q (p.run script s).1 (p.run script s).2) → wp Q p s
  | .ret _, _, h => h []
  | .call op k, s, h => by
    refine ⟨h [], fun c => wp_complete fun script => ?_⟩
    obtain ⟨f, hf⟩ := exists_script op c
    simpa only [run, hf] using h (f :: script)

theorem wp_mono {Q R : Option α → St I → Prop} (hQR : ∀ r s, Q r s → R r s) :
    ∀ {p : Calls I α} {s : St I}, wp Q p s → wp R p s
  | .ret _, _, h => hQR _ _ h
  | .call _ _, _, h => ⟨hQR _ _ h.1, fun c => wp_mono hQR (h.2 c)⟩

/-- Nothing is promised. -/
theorem wp_true : ∀ (p : Calls I α) (s : St I), wp (fun _ _ => True) p s
  | .ret _, _ => trivial
  | .call _ _, _ => ⟨trivial, fun _ => wp_true _ _⟩

theorem wp_and {Q R : Option α → St I → Prop} :
    ∀ {p : Calls I α} {s : St I}, wp Q p s → wp R p s → wp (fun r s => Q r s ∧ R r s) p s
  | .ret _, _, hq, hr => ⟨hq, hr⟩
  | .call _ _, _, hq, hr => ⟨⟨hq.1, hr.1⟩, fun c => wp_and (hq.2 c) (hr.2 c)⟩

/-- A run that called something met its first world with the first call. -/
theorem wp_first : ∀ (p : Calls I α) (s : St I), wp (fun _ t => First s t) p s
  | .ret _, _ => .inl rfl
  | .call op k, s => by
    refine ⟨.inl rfl, fun c => wp_mono (fun _ t ht => ?_) (wp_first (k _) (s.call op c))⟩
    rcases ht with rfl | ⟨e, post, hlog, -⟩
    · exact .inr ⟨⟨op, c, s.world⟩, [], rfl, rfl⟩
    · exact .inr ⟨⟨op, c, s.world⟩, e :: post, by rw [hlog, St.call_log]; simp, rfl⟩

theorem wp_bind {Q : Option β → St I → Prop} {f : α → Calls I β} :
    ∀ {p : Calls I α} {s : St I},
      wp Q (p.bind f) s ↔ wp (fun r s => match r with
        | some a => wp Q (f a) s
        | none => Q none s) p s
  | .ret _, _ => Iff.rfl
  | .call _ _, _ => and_congr Iff.rfl (forall_congr' fun _ => wp_bind)

/-- One possible run to the end: the program returns `a` and leaves `t`. -/
inductive Can : Calls I α → St I → α → St I → Prop
  | ret (a : α) (s : St I) : Can (.ret a) s a s
  | call {op : I.Op} {k : I.Ans op → Calls I α} {s t : St I} {a : α} (c : I.Choice op) :
      Can (k (I.perform op c s.world).1) (s.call op c) a t → Can (.call op k) s a t

theorem Can.run [∀ op, Nonempty (I.Choice op)] {p : Calls I α} {s t : St I} {a : α}
    (h : Can p s a t) : ∃ script, p.run script s = (some a, t) := by
  induction h with
  | ret a s => exact ⟨[], rfl⟩
  | @call op k s t a c _ ih =>
    obtain ⟨script, hscript⟩ := ih
    obtain ⟨f, hf⟩ := exists_script op c
    refine ⟨f :: script, ?_⟩
    rw [Calls.run, hf]
    exact hscript

theorem Can.bind {p : Calls I α} {f : α → Calls I β} {s t u : St I} {a : α} {b : β}
    (h : Can p s a t) (hf : Can (f a) t b u) : Can (p.bind f) s b u := by
  induction h with
  | ret a s => exact hf
  | call c _ ih => exact .call c (ih hf)

/-- What holds of every run holds of a possible one. -/
theorem Can.sound {Q : Option α → St I → Prop} {p : Calls I α} {s t : St I} {a : α}
    (h : Can p s a t) (hwp : wp Q p s) : Q (some a) t := by
  induction h with
  | ret a s => exact hwp
  | call c _ ih => exact ih (hwp.2 c)

theorem Can.grew {p : Calls I α} {s t : St I} {a : α} (h : Can p s a t) :
    ∃ ext, t.log = s.log ++ ext := by
  induction h with
  | ret a s => exact ⟨[], (List.append_nil _).symm⟩
  | @call op k s t a c _ ih =>
    obtain ⟨ext, hext⟩ := ih
    refine ⟨⟨op, c, s.world⟩ :: ext, ?_⟩
    rw [hext, St.call_log, List.append_assoc]
    rfl

/-- Two runs agree when what they have in common leaves no choice at a call. -/
theorem Can.unique {C : Entry I → Prop}
    (hC : ∀ op c c' w, C ⟨op, c, w⟩ → C ⟨op, c', w⟩ → c = c') {p : Calls I α} {s t t' : St I}
    {a a' : α} (h : Can p s a t) (ht : Grew C s t) (h' : Can p s a' t') (ht' : Grew C s t') :
    a = a' ∧ t = t' := by
  induction h generalizing a' t' with
  | ret a s =>
    cases h'
    exact ⟨rfl, rfl⟩
  | @call op k s t a c hnext ih =>
    cases h' with
    | call c' hnext' =>
      obtain ⟨ext, hext⟩ := hnext.grew
      obtain ⟨ext', hext'⟩ := hnext'.grew
      have hlog : t.log = s.log ++ ⟨op, c, s.world⟩ :: ext := by
        rw [hext, St.call_log, List.append_assoc]
        rfl
      have hlog' : t'.log = s.log ++ ⟨op, c', s.world⟩ :: ext' := by
        rw [hext', St.call_log, List.append_assoc]
        rfl
      have hnew := List.forall_mem_cons.mp (ht.of_log hlog)
      have hnew' := List.forall_mem_cons.mp (ht'.of_log hlog')
      obtain rfl := hC op c c' s.world hnew.1 hnew'.1
      exact ih ⟨ext, hext, hnew.2⟩ hnext' ⟨ext', hext', hnew'.2⟩

end Calls

/-- A function with a local memory `μ`, an error type and external calls. The
memory survives an error and is gone when the function is lost. -/
def Proc (I : Interface) (μ ε α : Type) := μ → Calls I (Except ε α × μ)

namespace Proc

variable {I : Interface} {μ ε ε' α β : Type}

protected def pure (a : α) : Proc I μ ε α := fun m => .ret (.ok a, m)

protected def bind (p : Proc I μ ε α) (f : α → Proc I μ ε β) : Proc I μ ε β :=
  fun m => (p m).bind fun r => match r with
    | (.ok a, m') => f a m'
    | (.error e, m') => .ret (.error e, m')

instance : Monad (Proc I μ ε) where
  pure := Proc.pure
  bind := Proc.bind

def throw (e : ε) : Proc I μ ε α := fun m => .ret (.error e, m)

/-- The memory as it is now. -/
def get : Proc I μ ε μ := fun m => .ret (.ok m, m)

def set (m : μ) : Proc I μ ε Unit := fun _ => .ret (.ok (), m)

/-- One external call. -/
def perform (op : I.Op) : Proc I μ ε (I.Ans op) := fun m => .call op fun a => .ret (.ok a, m)

/-- Run to the end and keep the error as a value. -/
def attempt (p : Proc I μ ε α) : Proc I μ ε' (Except ε α) :=
  fun m => (p m).bind fun r => .ret (.ok r.1, r.2)

/-- A computation without calls that may fail. -/
def lift (r : Except ε α) : Proc I μ ε α := fun m => .ret (r, m)

def mapError (g : ε → ε') (p : Proc I μ ε α) : Proc I μ ε' α :=
  fun m => (p m).bind fun r => .ret (r.1.mapError g, r.2)

/-- Every run from `m` and `s`, cut anywhere, ends as the three conditions say. -/
def Holds (p : Proc I μ ε α) (m : μ) (s : St I) (ok : α → μ → St I → Prop)
    (err : ε → μ → St I → Prop) (lost : St I → Prop) : Prop :=
  Calls.wp (fun (r : Option (Except ε α × μ)) s => match r with
    | some (.ok a, m') => ok a m' s
    | some (.error e, m') => err e m' s
    | none => lost s) (p m) s

section Rules

variable {m : μ} {s : St I} {ok : α → μ → St I → Prop} {err : ε → μ → St I → Prop}
  {lost : St I → Prop}

@[simp] theorem holds_pure {a : α} :
    (Pure.pure a : Proc I μ ε α).Holds m s ok err lost ↔ ok a m s := Iff.rfl

@[simp] theorem holds_throw {e : ε} :
    (throw e : Proc I μ ε α).Holds m s ok err lost ↔ err e m s := Iff.rfl

@[simp] theorem holds_get {ok : μ → μ → St I → Prop} :
    (get : Proc I μ ε μ).Holds m s ok err lost ↔ ok m m s := Iff.rfl

@[simp] theorem holds_set {ok : Unit → μ → St I → Prop} {n : μ} :
    (set n : Proc I μ ε Unit).Holds m s ok err lost ↔ ok () n s := Iff.rfl

@[simp] theorem holds_perform {op : I.Op} {ok : I.Ans op → μ → St I → Prop} :
    (perform op : Proc I μ ε (I.Ans op)).Holds m s ok err lost ↔
      lost s ∧ ∀ c, ok (I.perform op c s.world).1 m (s.call op c) := Iff.rfl

@[simp] theorem holds_lift {r : Except ε α} :
    (lift r : Proc I μ ε α).Holds m s ok err lost ↔
      (∀ a, r = .ok a → ok a m s) ∧ ∀ e, r = .error e → err e m s := by
  cases r <;> simp [Holds, lift, Calls.wp]

theorem holds_bind {p : Proc I μ ε α} {f : α → Proc I μ ε β} {ok : β → μ → St I → Prop} :
    (p >>= f).Holds m s ok err lost ↔
      p.Holds m s (fun a m' s' => (f a).Holds m' s' ok err lost) err lost := by
  refine Calls.wp_bind.trans (iff_of_eq (congrArg (fun Q => Calls.wp Q (p m) s) ?_))
  funext r s'
  rcases r with _ | ⟨_ | _, _⟩ <;> rfl

theorem holds_attempt {p : Proc I μ ε α} {ok : Except ε α → μ → St I → Prop}
    {err : ε' → μ → St I → Prop} :
    (attempt p : Proc I μ ε' (Except ε α)).Holds m s ok err lost ↔
      p.Holds m s (fun a => ok (.ok a)) (fun e => ok (.error e)) lost := by
  refine Calls.wp_bind.trans (iff_of_eq (congrArg (fun Q => Calls.wp Q (p m) s) ?_))
  funext r s'
  rcases r with _ | ⟨_ | _, _⟩ <;> rfl

theorem holds_mapError {p : Proc I μ ε α} {g : ε → ε'} {err : ε' → μ → St I → Prop} :
    (mapError g p).Holds m s ok err lost ↔ p.Holds m s ok (fun e => err (g e)) lost := by
  refine Calls.wp_bind.trans (iff_of_eq (congrArg (fun Q => Calls.wp Q (p m) s) ?_))
  funext r s'
  rcases r with _ | ⟨_ | _, _⟩ <;> rfl

theorem Holds.mono {p : Proc I μ ε α} {ok' : α → μ → St I → Prop}
    {err' : ε → μ → St I → Prop} {lost' : St I → Prop} (h : p.Holds m s ok err lost)
    (hok : ∀ a m s, ok a m s → ok' a m s) (herr : ∀ e m s, err e m s → err' e m s)
    (hlost : ∀ s, lost s → lost' s) : p.Holds m s ok' err' lost' := by
  refine Calls.wp_mono (fun r s' => ?_) h
  rcases r with _ | ⟨_ | _, _⟩
  · exact hlost _
  · exact herr _ _ _
  · exact hok _ _ _

/-- Sequencing with a named condition in the middle. -/
theorem Holds.bind {p : Proc I μ ε α} {f : α → Proc I μ ε β} {ok' : β → μ → St I → Prop}
    (hp : p.Holds m s ok err lost)
    (hf : ∀ a m s, ok a m s → (f a).Holds m s ok' err lost) : (p >>= f).Holds m s ok' err lost :=
  holds_bind.mpr (hp.mono hf (fun _ _ _ h => h) fun _ h => h)

/-- A function whose first computation has to succeed. -/
theorem Holds.lift_bind {x : Except ε α} {f : α → Proc I μ ε β} {ok : β → μ → St I → Prop}
    (hf : ∀ a, x = .ok a → (f a).Holds m s ok (fun _ _ _ => True) lost) :
    (lift x >>= f).Holds m s ok (fun _ _ _ => True) lost :=
  holds_bind.mpr (holds_lift.mpr ⟨hf, fun _ _ => trivial⟩)

/-- A function of which only the last part matters. -/
theorem Holds.any_bind {p : Proc I μ ε α} {f : α → Proc I μ ε β} {ok : β → μ → St I → Prop}
    (hf : ∀ a m s, (f a).Holds m s ok (fun _ _ _ => True) fun _ => True) :
    (p >>= f).Holds m s ok (fun _ _ _ => True) fun _ => True := by
  refine holds_bind.mpr (Calls.wp_mono (fun r t _ => ?_) (Calls.wp_true (p m) s))
  rcases r with _ | ⟨_ | a, m'⟩
  · trivial
  · trivial
  · exact hf a m' t

theorem Holds.any {p : Proc I μ ε α} {P : Prop} (hP : P) :
    p.Holds m s (fun _ _ _ => P) (fun _ _ _ => True) fun _ => True := by
  refine Calls.wp_mono (fun r t _ => ?_) (Calls.wp_true (p m) s)
  rcases r with _ | ⟨_ | _, _⟩
  · trivial
  · trivial
  · exact hP

theorem Holds.and {p : Proc I μ ε α} {ok' : α → μ → St I → Prop}
    {err' : ε → μ → St I → Prop} {lost' : St I → Prop} (h : p.Holds m s ok err lost)
    (h' : p.Holds m s ok' err' lost') :
    p.Holds m s (fun a m s => ok a m s ∧ ok' a m s) (fun e m s => err e m s ∧ err' e m s)
      fun s => lost s ∧ lost' s := by
  refine Calls.wp_mono (fun r s' => ?_) (Calls.wp_and h h')
  rcases r with _ | ⟨_ | _, _⟩ <;> exact id

/-- What holds at the end, together with what the first call met. -/
theorem Holds.first {p : Proc I μ ε α} (h : p.Holds m s ok err lost) :
    p.Holds m s (fun a m t => ok a m t ∧ First s t) (fun e m t => err e m t ∧ First s t)
      fun t => lost t ∧ First s t := by
  refine Calls.wp_mono (fun r t => ?_) (Calls.wp_and h (Calls.wp_first (p m) s))
  rcases r with _ | ⟨_ | _, _⟩ <;> exact id

end Rules

/-- One possible run of the function, with its result and its memory. -/
def Can (p : Proc I μ ε α) (m : μ) (s : St I) (r : Except ε α) (m' : μ) (t : St I) : Prop :=
  Calls.Can (p m) s (r, m') t

namespace Can

variable {m m' m'' : μ} {s t u : St I}

/-- A possible run that succeeds ends as every run does that succeeds. -/
theorem holds_ok {p : Proc I μ ε α} {a : α} {ok : α → μ → St I → Prop}
    {err : ε → μ → St I → Prop} {lost : St I → Prop} (h : Can p m s (.ok a) m' t)
    (hp : p.Holds m s ok err lost) : ok a m' t := Calls.Can.sound h hp

theorem holds_error {p : Proc I μ ε α} {e : ε} {ok : α → μ → St I → Prop}
    {err : ε → μ → St I → Prop} {lost : St I → Prop} (h : Can p m s (.error e) m' t)
    (hp : p.Holds m s ok err lost) : err e m' t := Calls.Can.sound h hp

theorem pure (a : α) : Can (Pure.pure a : Proc I μ ε α) m s (.ok a) m s := .ret _ _

theorem throw (e : ε) : Can (throw e : Proc I μ ε α) m s (.error e) m s := .ret _ _

theorem lift {x r : Except ε α} (h : x = r) : Can (lift x : Proc I μ ε α) m s r m s := by
  rw [← h]
  exact .ret _ _

theorem get : Can (get : Proc I μ ε μ) m s (.ok m) m s := .ret _ _

theorem set (n : μ) : Can (set n : Proc I μ ε Unit) m s (.ok ()) n s := .ret _ _

theorem perform {op : I.Op} (c : I.Choice op) :
    Can (perform op : Proc I μ ε _) m s (.ok (I.perform op c s.world).1) m (s.call op c) :=
  .call c (.ret _ _)

theorem bind {p : Proc I μ ε α} {f : α → Proc I μ ε β} {a : α} {r : Except ε β}
    (h : Can p m s (.ok a) m' t) (hf : Can (f a) m' t r m'' u) : Can (p >>= f) m s r m'' u :=
  Calls.Can.bind h hf

theorem bind_error {p : Proc I μ ε α} {f : α → Proc I μ ε β} {e : ε}
    (h : Can p m s (.error e) m' t) : Can (p >>= f) m s (.error e) m' t :=
  Calls.Can.bind h (.ret _ _)

theorem attempt {p : Proc I μ ε α} {r : Except ε α} (h : Can p m s r m' t) :
    Can (attempt p : Proc I μ ε' (Except ε α)) m s (.ok r) m' t := Calls.Can.bind h (.ret _ _)

theorem mapError {p : Proc I μ ε α} {g : ε → ε'} {r : Except ε α} (h : Can p m s r m' t) :
    Can (mapError g p) m s (r.mapError g) m' t := Calls.Can.bind h (.ret _ _)

end Can

/-- The memory stays as it is, and every state the function leaves behind is related
to its first one. -/
def Keeps (R : St I → St I → Prop) (p : Proc I μ ε α) : Prop :=
  ∀ m s, p.Holds m s (fun _ m' t => m' = m ∧ R s t) (fun _ m' t => m' = m ∧ R s t) (R s)

namespace Keeps

variable {R R' : St I → St I → Prop}

theorem perform [Std.Refl R] {op : I.Op} (h : ∀ c s, R s (s.call op c)) :
    Keeps R (perform op : Proc I μ ε (I.Ans op)) :=
  fun _ s => ⟨refl_of R s, fun c => ⟨rfl, h c s⟩⟩

@[simp] theorem pure [Std.Refl R] (a : α) : Keeps R (Pure.pure a : Proc I μ ε α) :=
  fun _ s => ⟨rfl, refl_of R s⟩

@[simp] theorem throw [Std.Refl R] (e : ε) : Keeps R (throw e : Proc I μ ε α) :=
  fun _ s => ⟨rfl, refl_of R s⟩

@[simp] theorem get [Std.Refl R] : Keeps R (get : Proc I μ ε μ) := fun _ s => ⟨rfl, refl_of R s⟩

@[simp] theorem lift [Std.Refl R] (r : Except ε α) : Keeps R (lift r : Proc I μ ε α) :=
  fun _ s => holds_lift.mpr ⟨fun _ _ => ⟨rfl, refl_of R s⟩, fun _ _ => ⟨rfl, refl_of R s⟩⟩

theorem bind [IsTrans (St I) R] {p : Proc I μ ε α} {f : α → Proc I μ ε β} (hp : Keeps R p)
    (hf : ∀ a, Keeps R (f a)) : Keeps R (p >>= f) := by
  intro m s
  refine holds_bind.mpr ((hp m s).mono ?_ (fun _ _ _ h => h) fun _ h => h)
  rintro a m' t ⟨rfl, hst⟩
  refine (hf a m' t).mono ?_ ?_ fun u h => trans_of R hst h
  · exact fun _ _ u h => ⟨h.1, trans_of R hst h.2⟩
  · exact fun _ _ u h => ⟨h.1, trans_of R hst h.2⟩

/-- Going on after a function that keeps the relation to an earlier state. -/
theorem andThen [IsTrans (St I) R] {p : Proc I μ ε α} {f : α → Proc I μ ε β} {m : μ}
    {s₀ s : St I} {ok : β → μ → St I → Prop} {err : ε → μ → St I → Prop} {lost : St I → Prop}
    (h : R s₀ s) (hp : Keeps R p) (hlost : ∀ t, R s₀ t → lost t) (herr : ∀ e t, R s₀ t → err e m t)
    (hf : ∀ a t, R s₀ t → (f a).Holds m t ok err lost) : (p >>= f).Holds m s ok err lost := by
  refine holds_bind.mpr ((hp m s).mono ?_ ?_ fun t ht => hlost t (trans_of R h ht))
  · rintro a m' t ⟨rfl, ht⟩
    exact hf a t (trans_of R h ht)
  · rintro e m' t ⟨rfl, ht⟩
    exact herr e t (trans_of R h ht)

theorem attempt {p : Proc I μ ε α} (hp : Keeps R p) :
    Keeps R (attempt p : Proc I μ ε' (Except ε α)) := fun m s => holds_attempt.mpr (hp m s)

theorem mapError {p : Proc I μ ε α} {g : ε → ε'} (hp : Keeps R p) : Keeps R (mapError g p) :=
  fun m s => holds_mapError.mpr (hp m s)

theorem mono {p : Proc I μ ε α} (hp : Keeps R p) (h : ∀ s t, R s t → R' s t) : Keeps R' p :=
  fun m s => (hp m s).mono (fun _ _ _ hr => ⟨hr.1, h _ _ hr.2⟩) (fun _ _ _ hr => ⟨hr.1, h _ _ hr.2⟩)
    fun _ hr => h _ _ hr

end Keeps

/-- The function as a program: its result and its memory are dropped. -/
def discard (p : Proc I μ ε α) (m : μ) : Calls I Unit := (p m).bind fun _ => .ret ()

theorem Holds.discard {p : Proc I μ ε α} {m : μ} {s : St I} {J : St I → Prop}
    (h : p.Holds m s (fun _ _ => J) (fun _ _ => J) J) :
    Calls.wp (fun _ s => J s) (p.discard m) s := by
  refine Calls.wp_bind.mpr (Calls.wp_mono (fun r s' => ?_) h)
  rcases r with _ | ⟨_ | _, _⟩ <;> exact id

end Proc

/-- One step of a history of calls: some program of the family runs, to its end
or until it is lost, or the world is restarted between two of them. -/
inductive Step {I : Interface} {κ α : Type} (prog : κ → Calls I α)
    (Restart : I.World → I.World → Prop) : St I → St I → Prop
  | run (k : κ) (script : Script I) (s : St I) : Step prog Restart s ((prog k).run script s).2
  | restart {s : St I} {w : I.World} : Restart s.world w → Step prog Restart s ⟨w, s.log⟩

/-- The states between the steps of a history. Since a script may end at any
call, the states inside a running program are among them. -/
def Reaches {I : Interface} {κ α : Type} (prog : κ → Calls I α)
    (Restart : I.World → I.World → Prop) : St I → St I → Prop :=
  Relation.ReflTransGen (Step prog Restart)

/-- A property kept by every program and by a restart holds along every history. -/
theorem Reaches.invariant {I : Interface} {κ α : Type} {prog : κ → Calls I α}
    {Restart : I.World → I.World → Prop} {J : St I → Prop} {s t : St I}
    (h : Reaches prog Restart s t) (hs : J s)
    (hprog : ∀ k s, J s → Calls.wp (fun _ s => J s) (prog k) s)
    (hrestart : ∀ s w, J s → Restart s.world w → J ⟨w, s.log⟩) : J t := by
  induction h with
  | refl => exact hs
  | tail _ hstep ih =>
    cases hstep with
    | run k script => exact Calls.wp_sound (hprog k _ ih) script
    | restart hr => exact hrestart _ _ ih hr

/-- A list of calls, each with its script, one after the other. -/
def runAll {I : Interface} {κ α : Type} (prog : κ → Calls I α) :
    List (κ × Script I) → St I → St I
  | [], s => s
  | (k, script) :: rest, s => runAll prog rest ((prog k).run script s).2

theorem Reaches.runAll {I : Interface} {κ α : Type} {prog : κ → Calls I α}
    {Restart : I.World → I.World → Prop} :
    ∀ (calls : List (κ × Script I)) (s : St I), Reaches prog Restart s (runAll prog calls s)
  | [], _ => .refl
  | (k, script) :: rest, s => .head (.run k script s) (Reaches.runAll rest _)

end StorageManager.Lib.Effects
