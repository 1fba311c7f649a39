import StorageManager.Lib.WriteAhead

/-!
# Programs that follow a journal

A program keeps a journal record in memory. It persists each step of the record before
the actions that wait for it, and when something fails in between it persists a
recovery step and reports the failure. The record is in service while the stored one
is the one in memory.
-/

namespace StorageManager.Lib.Journaled

open Effects RecordFile WriteAhead

set_option autoImplicit false

/-- The steps of a record, how they are persisted, and what must have come before an
action. Steps never lower a record's rank. -/
structure Journal (ρ : Type) (E : Env) extends Discipline ρ E where
  Transition : Type
  Error : Type
  step : Transition → ρ → Except Error ρ
  persist : ρ → FileProc ρ E ρ Error Unit
  allowed : List (Entry (interface ρ E)) → Act → File ρ → Prop
  persist_rewrites : ∀ r, Rewrites r (persist r)
  rank_le : ∀ {t r r'}, step t r = .ok r' → rank (some r) ≤ rank (some r')
  allowed_silent : ∀ {s t : St (interface ρ E)} {a : Act}, allowed s.log a s.world →
    Silent toDiscipline s t → allowed t.log a t.world

variable {ρ : Type} {E : Env} {μ ε ε₀ α : Type}

/-- Persist the recovery step and fail with the error that led there. -/
def persistRecovery (recover : FileProc ρ E ρ ε₀ Unit) (persistenceFailed : ε → ε₀ → ε)
    (runtime : ε) : FileProc ρ E ρ ε α := do
  match ← recover.attempt with
  | .ok () => Proc.throw runtime
  | .error journal => Proc.throw (persistenceFailed runtime journal)

/-- `if let Err(error) = p { return Err(persist_recovery(.., error)); }` -/
def orRecovery (recover : FileProc ρ E ρ ε₀ Unit) (persistenceFailed : ε → ε₀ → ε)
    (p : FileProc ρ E ρ ε α) : FileProc ρ E ρ ε α := do
  match ← p.attempt with
  | .ok a => pure a
  | .error e => persistRecovery recover persistenceFailed e

variable (J : Journal ρ E)

/-- The write-ahead law of the journal. -/
abbrev Lawful (s : St (interface ρ E)) : Prop := Ahead (D := J.toDiscipline) J.allowed s

/-- The stored record is the one in memory. -/
structure Serving (r : ρ) (s : St (interface ρ E)) : Prop where
  law : Lawful J s
  visible : s.world.visible = some r

/-- The action may be performed now: it was not yet, and the durable record is high
enough. -/
structure Ready (a : J.Act) (r : ρ) (s : St (interface ρ E)) : Prop where
  law : Lawful J s
  world : s.world = .holding (some r)
  fresh : a ∉ J.acts s.log
  need : J.need a ≤ J.rank (some r)
  allowed : J.allowed s.log a s.world

/-- From `s` to `t` nothing but perhaps `a` was performed, and the file is as it was. -/
structure Performs (a : J.Act) (s t : St (interface ρ E)) : Prop where
  world : t.world = s.world
  new : ∀ b ∈ J.acts t.log, b ∈ J.acts s.log ∨ b = a

variable {J} {r : ρ} {a : J.Act} {s t u : St (interface ρ E)}

theorem Serving.silent (h : Serving J r s) (hst : Silent J.toDiscipline s t) : Serving J r t :=
  ⟨h.law.silent hst, by rw [hst.2, h.visible]⟩

theorem Serving.of_holding (hl : Lawful J s) (hw : s.world = .holding (some r)) : Serving J r s :=
  ⟨hl, by rw [hw, File.holding_visible]⟩

theorem Ready.silent (h : Ready J a r s) (hst : Silent J.toDiscipline s t) : Ready J a r t := by
  have hfresh : a ∉ J.acts t.log := by
    rw [hst.1.acts_eq]
    exact h.fresh
  exact ⟨h.law.silent hst, hst.2.trans h.world, hfresh, h.need, J.allowed_silent h.allowed hst⟩

theorem Performs.of_silent (hst : Silent J.toDiscipline s t) : Performs J a s t := by
  refine ⟨hst.2, fun b hb => .inl ?_⟩
  rwa [hst.1.acts_eq] at hb

theorem Performs.after (hst : Silent J.toDiscipline s t) (h : Performs J a t u) :
    Performs J a s u := by
  refine ⟨h.world.trans hst.2, fun b hb => ?_⟩
  have hb := h.new b hb
  rwa [hst.1.acts_eq] at hb

/-- An action that is ready, performed. -/
theorem ask_holds {op : E.Op} (h : Ready J a r s) (hop : J.act op = some a) {m : μ} :
    (ask op : FileProc ρ E μ ε (E.Ans op)).Holds m s
      (fun _ m' t => m' = m ∧ Lawful J t ∧ Performs J a s t) (fun _ _ _ => False) (Lawful J) := by
  refine holds_ask.mpr ⟨h.law, fun answer => ⟨rfl, ?_, rfl, fun b hb => ?_⟩⟩
  · exact h.law.act h.world hop h.fresh h.need h.allowed answer
  · rw [acts_call hop] at hb
    exact (List.mem_append.mp hb).imp_right List.mem_singleton.mp

/-- A call that is no action. -/
theorem silent_ask_holds {op : E.Op} (hop : J.act op = none) {m : μ} :
    (ask op : FileProc ρ E μ ε (E.Ans op)).Holds m s
      (fun _ m' t => m' = m ∧ Silent J.toDiscipline s t) (fun _ _ _ => False)
      (Silent J.toDiscipline s) :=
  holds_ask.mpr ⟨refl_of _ s, fun answer => ⟨rfl, (Quiet.refl s).ask hop answer, rfl⟩⟩

/-- A step of the record in service: persisted, it is all a restart can find. -/
theorem transition_holds (hs : Serving J r s) (t : J.Transition) :
    (persistStep (J.step t) J.persist).Holds r s
      (fun _ r' s' => J.step t r = .ok r' ∧ s'.world = .holding (some r') ∧ Lawful J s' ∧
        Quiet J.toDiscipline s s' ∧ First s s')
      (fun _ _ s' => Lawful J s') (Lawful J) := by
  have rank : ∀ {next}, J.step t r = .ok next →
      J.rank s.world.visible ≤ J.rank (some next) := by
    intro next hnext
    rw [hs.visible]
    exact J.rank_le hnext
  have pending : ∀ f' s', Pending (J.step t) r s.world f' → Filed s f' s' → Lawful J s' := by
    rintro f' s' (rfl | ⟨next, hnext, rfl⟩) hf
    · exact hs.law.silent ⟨.of_filed hf, hf.world⟩
    · exact hs.law.unsettled hf (.inr rfl) (rank hnext)
  refine (persistStep_holds J.persist_rewrites (Filed.refl s)).first.mono ?_ ?_ ?_
  · rintro _ r' s' ⟨⟨hr', hf⟩, hfirst⟩
    exact ⟨hr', hf.world, hs.law.settled hf (rank hr'), .of_filed hf, hfirst⟩
  · rintro e r' s' ⟨⟨-, f', hp, hf⟩, -⟩
    exact pending f' s' hp hf
  · rintro s' ⟨⟨f', hp, hf⟩, -⟩
    exact pending f' s' hp hf

/-- A step on the way, whose failure is the caller's. -/
theorem transition_then (hs : Serving J r s) (t : J.Transition) {journal : J.Error → ε}
    {k : Unit → FileProc ρ E ρ ε α} {ok : α → ρ → St (interface ρ E) → Prop}
    (hk : ∀ r' s', J.step t r = .ok r' → s'.world = .holding (some r') → Lawful J s' →
      Quiet J.toDiscipline s s' → First s s' →
      (k ()).Holds r' s' ok (fun _ _ s' => Lawful J s') (Lawful J)) :
    ((persistStep (J.step t) J.persist).mapError journal >>= k).Holds r s ok
      (fun _ _ s' => Lawful J s') (Lawful J) := by
  refine Proc.holds_bind.mpr (Proc.holds_mapError.mpr ((transition_holds hs t).mono ?_
    (fun _ _ _ h => h) fun _ h => h))
  rintro _ r' s' ⟨hr', hw, hl, hq, hfirst⟩
  exact hk r' s' hr' hw hl hq hfirst

theorem persistRecovery_holds (hs : Serving J r s) (t : J.Transition) (failed : ε → J.Error → ε)
    (runtime : ε) {ok : α → ρ → St (interface ρ E) → Prop} :
    (persistRecovery (persistStep (J.step t) J.persist) failed runtime :
      FileProc ρ E ρ ε α).Holds r s ok (fun _ _ s' => Lawful J s') (Lawful J) := by
  unfold persistRecovery
  refine Proc.holds_bind.mpr (Proc.holds_attempt.mpr ((transition_holds hs t).mono ?_ ?_ ?_))
  · rintro _ r' s' ⟨-, -, h, -⟩
    exact h
  · exact fun _ _ _ h => h
  · exact fun _ h => h

/-- An operation whose failure is recorded: the record it fails with is in service. -/
theorem orRecovery_holds {p : FileProc ρ E ρ ε α} {t : J.Transition} {failed : ε → J.Error → ε}
    {ok : α → ρ → St (interface ρ E) → Prop}
    (h : p.Holds r s ok (fun _ r' s' => Serving J r' s') (Lawful J)) :
    (orRecovery (persistStep (J.step t) J.persist) failed p).Holds r s ok
      (fun _ _ s' => Lawful J s') (Lawful J) := by
  unfold orRecovery
  refine Proc.holds_bind.mpr (Proc.holds_attempt.mpr (h.mono ?_ ?_ fun _ h => h))
  · exact fun a r' s' h => h
  · exact fun e r' s' h => persistRecovery_holds h t failed e

/-- Such an operation in the middle of a program. -/
theorem orRecovery_then {p : FileProc ρ E ρ ε α} {β : Type} {k : α → FileProc ρ E ρ ε β}
    {t : J.Transition} {failed : ε → J.Error → ε} {mid : α → ρ → St (interface ρ E) → Prop}
    {ok : β → ρ → St (interface ρ E) → Prop}
    (h : p.Holds r s mid (fun _ r' s' => Serving J r' s') (Lawful J))
    (hk : ∀ a r' s', mid a r' s' →
      (k a).Holds r' s' ok (fun _ _ s' => Lawful J s') (Lawful J)) :
    (orRecovery (persistStep (J.step t) J.persist) failed p >>= k).Holds r s ok
      (fun _ _ s' => Lawful J s') (Lawful J) :=
  Proc.Holds.bind (orRecovery_holds h) hk

/-- The middle of a program that only looks. -/
theorem orRecovery_keeps {p : FileProc ρ E ρ ε α} {β : Type} {k : α → FileProc ρ E ρ ε β}
    {t : J.Transition} {failed : ε → J.Error → ε} {ok : β → ρ → St (interface ρ E) → Prop}
    (hs : Serving J r s) (hp : Proc.Keeps (Silent J.toDiscipline) p)
    (hk : ∀ a s', Silent J.toDiscipline s s' →
      (k a).Holds r s' ok (fun _ _ s' => Lawful J s') (Lawful J)) :
    (orRecovery (persistStep (J.step t) J.persist) failed p >>= k).Holds r s ok
      (fun _ _ s' => Lawful J s') (Lawful J) := by
  refine orRecovery_then ((hp r s).mono (fun _ _ _ h => h) ?_ fun t h => hs.law.silent h) ?_
  · rintro e r' t ⟨rfl, h⟩
    exact hs.silent h
  · rintro a r' t ⟨rfl, h⟩
    exact hk a t h

end StorageManager.Lib.Journaled
