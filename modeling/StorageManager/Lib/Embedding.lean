import StorageManager.Lib.Effects
import StorageManager.Lib.RecordFile

/-!
# Programs inside a larger system

A program keeps what it was written for when its calls are made as calls of a larger system,
as long as every call goes there as it may go here. What the larger system has beside it is left
alone by every one of its calls, so also by the program.
-/

namespace StorageManager.Lib.Effects

set_option autoImplicit false

/-- The calls of `I` as calls of `J`, and the part of the world of `J` that they work on. -/
structure Embedding (I J : Interface) where
  op : I.Op → J.Op
  choice : ∀ o, J.Choice (op o) → I.Choice o
  ans : ∀ o, J.Ans (op o) → I.Ans o
  world : J.World → I.World
  ans_perform : ∀ o c w, ans o (J.perform (op o) c w).1 = (I.perform o (choice o c) (world w)).1
  world_perform : ∀ o c w,
    world (J.perform (op o) c w).2 = (I.perform o (choice o c) (world w)).2
  /-- The entry of a call of `I`. -/
  entry : Entry J → Option (Entry I)
  entry_op : ∀ o c w, entry ⟨op o, c, w⟩ = some ⟨o, choice o c, world w⟩

variable {I J : Interface} {α : Type}

/-- The state as the program sees it. -/
def Embedding.state (φ : Embedding I J) (s : St J) : St I :=
  ⟨φ.world s.world, s.log.filterMap φ.entry⟩

@[simp] theorem Embedding.state_world (φ : Embedding I J) (s : St J) :
    (φ.state s).world = φ.world s.world := rfl

theorem Embedding.state_call (φ : Embedding I J) (s : St J) (o : I.Op) (c : J.Choice (φ.op o)) :
    φ.state (s.call (φ.op o) c) = (φ.state s).call o (φ.choice o c) := by
  unfold Embedding.state St.call
  rw [List.filterMap_append, φ.world_perform]
  simp [φ.entry_op]

def Calls.embed (φ : Embedding I J) : Calls I α → Calls J α
  | .ret a => .ret a
  | .call o k => .call (φ.op o) fun a => (k (φ.ans o a)).embed φ

namespace Calls

/-- A relation that every single call keeps is kept by the program, which ends as it does on its
own. -/
theorem wp_embed (φ : Embedding I J) {R : St J → St J → Prop} [Std.Refl R] [IsTrans (St J) R]
    (hR : ∀ o c s, R s (s.call (φ.op o) c)) {Q : Option α → St I → Prop} :
    ∀ {p : Calls I α} {s : St J}, wp Q p (φ.state s) →
      wp (fun r t => Q r (φ.state t) ∧ R s t) (p.embed φ) s
  | .ret _, s, h => ⟨h, refl_of R s⟩
  | .call o k, s, h => by
    refine ⟨⟨h.1, refl_of R s⟩, fun c => ?_⟩
    have hnext := h.2 (φ.choice o c)
    rw [φ.state_world, ← φ.ans_perform, ← φ.state_call] at hnext
    exact wp_mono (fun r t ht => ⟨ht.1, trans_of R (hR o c s) ht.2⟩) (wp_embed φ hR hnext)

/-- A run inside the larger system is a run on its own. -/
theorem Can.of_embed (φ : Embedding I J) {p : Calls I α} {s t : St J} {a : α}
    (h : Can (p.embed φ) s a t) : Can p (φ.state s) a (φ.state t) := by
  induction p generalizing s with
  | ret _ =>
    cases h
    exact .ret _ _
  | call o k ih =>
    cases h with
    | call c hnext =>
      have hhere := ih (φ.ans o (J.perform (φ.op o) c s.world).1) hnext
      rw [φ.ans_perform, φ.state_call] at hhere
      exact .call (φ.choice o c) hhere

/-- A run on its own is one inside the larger system, where every choice can be made. -/
theorem Can.embed (φ : Embedding I J) (hchoice : ∀ o c, ∃ c', φ.choice o c' = c) {p : Calls I α}
    {s : St J} {t : St I} {a : α} (h : Can p (φ.state s) a t) :
    ∃ u, Can (p.embed φ) s a u ∧ φ.state u = t := by
  induction p generalizing s with
  | ret _ =>
    cases h
    exact ⟨s, .ret _ _, rfl⟩
  | call o k ih =>
    cases h with
    | call c hnext =>
      obtain ⟨c', rfl⟩ := hchoice o c
      rw [φ.state_world, ← φ.ans_perform, ← φ.state_call] at hnext
      obtain ⟨u, hu, hstate⟩ := ih _ hnext
      exact ⟨u, .call c' hu, hstate⟩

end Calls

namespace Proc

variable {μ ε : Type} {m : μ} {ok : α → μ → St I → Prop} {err : ε → μ → St I → Prop}
  {lost : St I → Prop}

def embed (φ : Embedding I J) (p : Proc I μ ε α) : Proc J μ ε α := fun m => (p m).embed φ

theorem Holds.embed (φ : Embedding I J) {R : St J → St J → Prop} [Std.Refl R] [IsTrans (St J) R]
    (hR : ∀ o c s, R s (s.call (φ.op o) c)) {p : Proc I μ ε α} {s : St J}
    (h : p.Holds m (φ.state s) ok err lost) :
    (p.embed φ).Holds m s (fun a m' t => ok a m' (φ.state t) ∧ R s t)
      (fun e m' t => err e m' (φ.state t) ∧ R s t) fun t => lost (φ.state t) ∧ R s t := by
  refine Calls.wp_mono (fun r t ht => ?_) (Calls.wp_embed φ hR h)
  rcases r with _ | ⟨_ | _, _⟩ <;> exact ht

theorem Can.of_embed (φ : Embedding I J) {p : Proc I μ ε α} {s t : St J} {r : Except ε α} {m' : μ}
    (h : Can (p.embed φ) m s r m' t) : Can p m (φ.state s) r m' (φ.state t) :=
  Calls.Can.of_embed φ h

theorem Can.embed (φ : Embedding I J) (hchoice : ∀ o c, ∃ c', φ.choice o c' = c)
    {p : Proc I μ ε α} {s : St J} {t : St I} {r : Except ε α} {m' : μ}
    (h : Can p m (φ.state s) r m' t) : ∃ u, Can (p.embed φ) m s r m' u ∧ φ.state u = t :=
  Calls.Can.embed φ hchoice h

/-- A function without a memory, run beside one. -/
def beside (p : Proc I Unit ε α) : Proc I μ ε α :=
  fun m => (p ()).bind fun r => .ret (r.1, m)

theorem holds_beside {p : Proc I Unit ε α} {s : St I} :
    (beside p : Proc I μ ε α).Holds m s ok err lost ↔
      p.Holds () s (fun a _ t => ok a m t) (fun e _ t => err e m t) lost := by
  refine Calls.wp_bind.trans (iff_of_eq (congrArg (fun Q => Calls.wp Q (p ()) s) ?_))
  funext r s'
  rcases r with _ | ⟨_ | _, _⟩ <;> rfl

end Proc

/-- The calls of `I` beside those of an environment, which leave the world alone. -/
@[reducible] def Interface.beside (I : Interface) (F : RecordFile.Env) : Interface where
  Op := I.Op ⊕ F.Op
  Choice
    | .inl op => I.Choice op
    | .inr op => F.Ans op
  Ans
    | .inl op => I.Ans op
    | .inr op => F.Ans op
  World := I.World
  perform
    | .inl op, c, w => I.perform op c w
    | .inr _, a, w => (a, w)

variable {F : RecordFile.Env}

/-- The system itself, in the larger one. -/
def Embedding.inside (I : Interface) (F : RecordFile.Env) : Embedding I (I.beside F) where
  op := .inl
  choice _ c := c
  ans _ a := a
  world w := w
  ans_perform _ _ _ := rfl
  world_perform _ _ _ := rfl
  entry
    | ⟨.inl op, c, w⟩ => some ⟨op, c, w⟩
    | ⟨.inr _, _, _⟩ => none
  entry_op _ _ _ := rfl

/-- The calls of the environment in a log, with their answers. -/
def asked (log : List (Entry (I.beside F))) : List (Sigma F.Ans) :=
  log.filterMap fun
    | ⟨.inl _, _, _⟩ => none
    | ⟨.inr op, a, _⟩ => some ⟨op, a⟩

theorem asked_append (log more : List (Entry (I.beside F))) :
    asked (log ++ more) = asked log ++ asked more := List.filterMap_append

/-- From `s` to `t` the environment was asked this, and gave this answer. -/
def Answered (op : F.Op) (a : F.Ans op) (s t : St (I.beside F)) : Prop :=
  ∃ ext, t.log = s.log ++ ext ∧ (⟨op, a⟩ : Sigma F.Ans) ∈ asked ext

section Answers

variable {s t u : St (I.beside F)} {op : F.Op} {a : F.Ans op} {P : Entry (I.beside F) → Prop}

theorem answered_call (s : St (I.beside F)) (op : F.Op) (a : F.Ans op) :
    Answered op a s (s.call (.inr op) a) :=
  ⟨[⟨.inr op, a, s.world⟩], rfl, List.mem_singleton.mpr rfl⟩

theorem Answered.after (h : Answered op a s t) (hmore : Grew P t u) : Answered op a s u := by
  obtain ⟨ext, hext, hmem⟩ := h
  obtain ⟨more, hu, -⟩ := hmore
  refine ⟨ext ++ more, ?_, ?_⟩
  · rw [hu, hext, List.append_assoc]
  · rw [asked_append]
    exact List.mem_append_left _ hmem

theorem Answered.before (h : Answered op a t u) (hless : Grew P s t) : Answered op a s u := by
  obtain ⟨ext, hext, hmem⟩ := h
  obtain ⟨less, ht, -⟩ := hless
  refine ⟨less ++ ext, ?_, ?_⟩
  · rw [hext, ht, List.append_assoc]
  · rw [asked_append]
    exact List.mem_append_right _ hmem

end Answers

/-- A call of the environment. -/
def ask {μ ε : Type} (op : F.Op) : Proc (I.beside F) μ ε (F.Ans op) :=
  Proc.perform (I := I.beside F) (.inr op)

end StorageManager.Lib.Effects
