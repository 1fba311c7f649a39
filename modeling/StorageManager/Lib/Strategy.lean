import StorageManager.Lib.Effects

/-!
# Programs against surroundings that always answer

A strategy chooses how each call goes, from the state the call meets. A program has one
run against it, so what happens after a step that is known is known too.
-/

namespace StorageManager.Lib.Effects

set_option autoImplicit false

variable {I : Interface} {μ ε ε' α β : Type}

/-- One choice for every call, from the state it meets. -/
abbrev Strategy (I : Interface) := St I → (op : I.Op) → I.Choice op

/-- The run of a program against a strategy. -/
def Calls.play (σ : Strategy I) : Calls I α → St I → α × St I
  | .ret a, s => (a, s)
  | .call op k, s => (k (I.perform op (σ s op) s.world).1).play σ (s.call op (σ s op))

theorem Calls.play_bind (σ : Strategy I) {f : α → Calls I β} {p : Calls I α} {s : St I} :
    (p.bind f).play σ s = (f (p.play σ s).1).play σ (p.play σ s).2 := by
  induction p generalizing s with
  | ret a => rfl
  | call op k ih => exact ih _

theorem Calls.can_play (σ : Strategy I) {p : Calls I α} {s t : St I} {a : α}
    (h : p.play σ s = (a, t)) : Can p s a t := by
  induction p generalizing s with
  | ret b =>
    obtain ⟨rfl, rfl⟩ := Prod.mk.inj h
    exact .ret _ _
  | call op k ih => exact .call _ (ih _ h)

/-- A possible run whose calls went as the strategy chooses is the run against it. -/
theorem Calls.Can.play {σ : Strategy I} {C : Entry I → Prop}
    (hσ : ∀ s op c w, C ⟨op, c, w⟩ → σ s op = c) {p : Calls I α} {s t : St I} {a : α}
    (h : Can p s a t) (ht : Grew C s t) : p.play σ s = (a, t) := by
  induction h with
  | ret a s => rfl
  | @call op k s t a c hnext ih =>
    obtain ⟨ext, hext⟩ := hnext.grew
    have hlog : t.log = s.log ++ ⟨op, c, s.world⟩ :: ext := by
      rw [hext, St.call_log, List.append_assoc]
      rfl
    have hnew := List.forall_mem_cons.mp (ht.of_log hlog)
    have hchoice : σ s op = c := hσ s op c s.world hnew.1
    rw [Calls.play, hchoice]
    exact ih ⟨ext, hext, hnew.2⟩

namespace Proc

variable {σ : Strategy I} {m m' m'' : μ} {s t u : St I}

/-- The run of the function against the strategy, with its result and its memory. -/
def Plays (σ : Strategy I) (p : Proc I μ ε α) (m : μ) (s : St I) (r : Except ε α) (m' : μ)
    (t : St I) : Prop := (p m).play σ s = ((r, m'), t)

namespace Plays

theorem pure (a : α) : Plays σ (Pure.pure a : Proc I μ ε α) m s (.ok a) m s := rfl

theorem throw (e : ε) : Plays σ (throw e : Proc I μ ε α) m s (.error e) m s := rfl

theorem lift {x r : Except ε α} (h : x = r) : Plays σ (lift x : Proc I μ ε α) m s r m s := by
  rw [← h]
  rfl

theorem get : Plays σ (get : Proc I μ ε μ) m s (.ok m) m s := rfl

theorem perform (op : I.Op) : Plays σ (perform op : Proc I μ ε _) m s
    (.ok (I.perform op (σ s op) s.world).1) m (s.call op (σ s op)) := rfl

theorem bind {p : Proc I μ ε α} {f : α → Proc I μ ε β} {a : α} {r : Except ε β}
    (h : Plays σ p m s (.ok a) m' t) (hf : Plays σ (f a) m' t r m'' u) :
    Plays σ (p >>= f) m s r m'' u := by
  refine (Calls.play_bind σ).trans ?_
  rw [h]
  exact hf

theorem bind_error {p : Proc I μ ε α} {f : α → Proc I μ ε β} {e : ε}
    (h : Plays σ p m s (.error e) m' t) : Plays σ (p >>= f) m s (.error e) m' t := by
  refine (Calls.play_bind σ).trans ?_
  rw [h]
  rfl

theorem attempt {p : Proc I μ ε α} {r : Except ε α} (h : Plays σ p m s r m' t) :
    Plays σ (attempt p : Proc I μ ε' (Except ε α)) m s (.ok r) m' t := by
  refine (Calls.play_bind σ).trans ?_
  rw [h]
  rfl

theorem mapError {p : Proc I μ ε α} {g : ε → ε'} {r : Except ε α} (h : Plays σ p m s r m' t) :
    Plays σ (mapError g p) m s (r.mapError g) m' t := by
  refine (Calls.play_bind σ).trans ?_
  rw [h]
  rfl

end Plays

/-- A run against a strategy is a possible run. -/
theorem Plays.can {p : Proc I μ ε α} {r : Except ε α} (h : Plays σ p m s r m' t) :
    Can p m s r m' t := Calls.can_play σ h

/-- The function returns this value when it runs against the strategy. -/
def Returns (σ : Strategy I) (p : Proc I μ ε α) (m : μ) (s : St I) (a : α) : Prop :=
  ∃ m' t, Plays σ p m s (.ok a) m' t

/-- A run has one result. -/
theorem Plays.returns_iff {p : Proc I μ ε α} {r : Except ε α} {a : α}
    (h : Plays σ p m s r m' t) : Returns σ p m s a ↔ r = .ok a := by
  constructor
  · rintro ⟨m'', u, ha⟩
    have hsame : ((r, m'), t) = ((.ok a, m''), u) := h.symm.trans ha
    exact (Prod.mk.inj (Prod.mk.inj hsame).1).1
  · rintro rfl
    exact ⟨m', t, h⟩

/-- The function returns a value when it runs against the strategy. -/
def Succeeds (σ : Strategy I) (p : Proc I μ ε α) (m : μ) (s : St I) : Prop :=
  ∃ a m' t, Plays σ p m s (.ok a) m' t

theorem succeeds_pure (a : α) : Succeeds σ (Pure.pure a : Proc I μ ε α) m s :=
  ⟨a, m, s, .pure a⟩

/-- After a step that succeeds, the rest decides. -/
theorem succeeds_bind {p : Proc I μ ε α} {f : α → Proc I μ ε β} {a : α}
    (h : Plays σ p m s (.ok a) m' t) : Succeeds σ (p >>= f) m s ↔ Succeeds σ (f a) m' t := by
  constructor
  · rintro ⟨b, m'', u, hb⟩
    have hplay := (Calls.play_bind σ).symm.trans hb
    rw [h] at hplay
    exact ⟨b, m'', u, hplay⟩
  · rintro ⟨b, m'', u, hb⟩
    exact ⟨b, m'', u, h.bind hb⟩

theorem not_succeeds {p : Proc I μ ε α} {e : ε} (h : Plays σ p m s (.error e) m' t) :
    ¬Succeeds σ p m s := by
  rintro ⟨a, m'', u, ha⟩
  have hsame : ((.error e, m'), t) = (((.ok a : Except ε α), m''), u) := h.symm.trans ha
  cases hsame

end Proc

end StorageManager.Lib.Effects
