import Mathlib.Data.List.Nodup
import StorageManager.Lib.RecordFile

/-!
# Irreversible actions behind a record

Some calls of the environment are irreversible actions. Each record has a rank, each
action needs one, and a program performs an action only once a record that ranks high
enough is all a restart can find. When ranks never go down, an action that was
performed ranks below every record a restart can find; a program that still reads a
lower record therefore knows that the action was not performed.
-/

namespace StorageManager.Lib.WriteAhead

open Effects RecordFile

set_option autoImplicit false

/-- Which calls are actions, and how records and actions rank. -/
structure Discipline (ρ : Type) (E : Env) where
  Act : Type
  act : E.Op → Option Act
  rank : Option ρ → Nat
  need : Act → Nat

variable {ρ : Type} {E : Env} (D : Discipline ρ E)

/-- The action of one entry of the log. -/
def Discipline.actOf (e : Entry (interface ρ E)) : Option D.Act :=
  match e.op with
  | .inl _ => none
  | .inr op => D.act op

/-- The actions of a log, in order. -/
def Discipline.acts (log : List (Entry (interface ρ E))) : List D.Act := log.filterMap D.actOf

/-- From `s` to `t` the log grew by entries without an action. -/
def Quiet (s t : St (interface ρ E)) : Prop := Grew (D.actOf · = none) s t

/-- Entries without an action, and the file as it was. -/
def Silent (s t : St (interface ρ E)) : Prop := Quiet D s t ∧ t.world = s.world

/-- The last action is older than some entry with `P`, which is also told what came
before the entry. -/
def Since (P : List (Entry (interface ρ E)) → Entry (interface ρ E) → Prop)
    (log : List (Entry (interface ρ E))) : Prop :=
  ∃ pre e post, log = pre ++ e :: post ∧ P pre e ∧ ∀ x ∈ post, D.actOf x = none

/-- The write-ahead law of a state. What must have come before an action is said about
the log so far and the file it meets. -/
structure Ahead (allowed : List (Entry (interface ρ E)) → D.Act → File ρ → Prop)
    (s : St (interface ρ E)) : Prop where
  current : s.world.visible ∈ s.world.possible
  covered : ∀ v ∈ s.world.possible, ∀ a ∈ D.acts s.log, D.need a ≤ D.rank v
  once : (D.acts s.log).Nodup
  guarded : ∀ pre e post a, s.log = pre ++ e :: post → D.actOf e = some a →
    allowed pre a e.before

variable {D} {allowed : List (Entry (interface ρ E)) → D.Act → File ρ → Prop}
  {s t u : St (interface ρ E)}

namespace Quiet

theorem refl (s : St (interface ρ E)) : Quiet D s s := Grew.refl s

theorem trans (h : Quiet D s t) (h' : Quiet D t u) : Quiet D s u := Grew.trans h h'

theorem ask (h : Quiet D s t) {op : E.Op} (hop : D.act op = none) (a : E.Ans op) :
    Quiet D s (t.call (.inr op) a) := Grew.call h hop

theorem of_filed {f : File ρ} (h : Filed s f t) : Quiet D s t := by
  refine h.log.mono fun e he => ?_
  obtain ⟨op, hop⟩ := he
  rw [Discipline.actOf, hop]

theorem acts_eq (h : Quiet D s t) : D.acts t.log = D.acts s.log := by
  obtain ⟨ext, hext, hq⟩ := h
  have hnil : D.acts ext = [] := List.filterMap_eq_nil_iff.mpr hq
  rw [hext, Discipline.acts, List.filterMap_append]
  exact (congrArg _ hnil).trans (List.append_nil _)

theorem since (h : Quiet D s t) {P : List (Entry (interface ρ E)) → Entry (interface ρ E) → Prop}
    (hs : Since D P s.log) : Since D P t.log := by
  obtain ⟨ext, hext, hq⟩ := h
  obtain ⟨pre, e, post, hlog, hP, hpost⟩ := hs
  refine ⟨pre, e, post ++ ext, by rw [hext, hlog]; simp, hP, fun x hx => ?_⟩
  rcases List.mem_append.mp hx with hx | hx
  · exact hpost x hx
  · exact hq x hx

end Quiet

instance silent_isPreorder : IsPreorder (St (interface ρ E)) (Silent D) where
  refl s := ⟨.refl s, rfl⟩
  trans _ _ _ h h' := ⟨h.1.trans h'.1, h'.2.trans h.2⟩

theorem Silent.of_untouched (h : Untouched s t) : Silent D s t := ⟨.of_filed h, h.world⟩

theorem silent_ask {μ ε : Type} {op : E.Op} (hop : D.act op = none) :
    Proc.Keeps (Silent D) (ask op : FileProc ρ E μ ε (E.Ans op)) :=
  Proc.Keeps.perform fun a s => ⟨(Quiet.refl s).ask hop a, rfl⟩

section Since

variable {P Q : List (Entry (interface ρ E)) → Entry (interface ρ E) → Prop}

theorem Since.of_call {op : E.Op} {a : E.Ans op} (h : P s.log ⟨.inr op, a, s.world⟩) :
    Since D P (s.call (.inr op) a).log :=
  ⟨s.log, _, [], rfl, h, by simp⟩

theorem Since.mono {log : List (Entry (interface ρ E))} (h : Since D P log)
    (hPQ : ∀ pre e, P pre e → Q pre e) : Since D Q log := by
  obtain ⟨pre, e, post, hlog, hP, hpost⟩ := h
  exact ⟨pre, e, post, hlog, hPQ pre e hP, hpost⟩

end Since

/-- Splitting a log whose tail is without actions: an action lies in the first part. -/
private theorem split_of_quiet {log ext pre post : List (Entry (interface ρ E))}
    {e : Entry (interface ρ E)} {a : D.Act} (hq : ∀ x ∈ ext, D.actOf x = none)
    (h : log ++ ext = pre ++ e :: post) (ha : D.actOf e = some a) :
    ∃ post', log = pre ++ e :: post' := by
  rcases List.append_eq_append_iff.mp h with ⟨l, hpre, hext⟩ | ⟨l, hlog, hpost⟩
  · have : D.actOf e = none := hq e (by rw [hext]; simp)
    rw [this] at ha
    cases ha
  · cases l with
    | nil =>
      have : D.actOf e = none := hq e (by rw [← (show e :: post = ext from hpost)]; simp)
      rw [this] at ha
      cases ha
    | cons x l =>
      obtain ⟨rfl, -⟩ := List.cons_eq_cons.mp hpost
      exact ⟨l, hlog⟩

theorem acts_call {op : E.Op} {a : D.Act} (hop : D.act op = some a) (ans : E.Ans op) :
    D.acts (s.call (.inr op) ans).log = D.acts s.log ++ [a] := by
  have he : D.actOf ⟨.inr op, ans, s.world⟩ = some a := hop
  rw [St.call_log, Discipline.acts, List.filterMap_append, List.filterMap_cons_some he]
  rfl

namespace Ahead

/-- An action that needs more than the record in place was never performed. -/
theorem fresh (h : Ahead D allowed s) {a : D.Act} (ha : D.rank s.world.visible < D.need a) :
    a ∉ D.acts s.log := by
  intro hmem
  have := h.covered _ h.current a hmem
  omega

/-- Calls without an action keep the law when the records that may be found still
rank as high. -/
theorem quiet (h : Ahead D allowed s) (hq : Quiet D s t) (hcur : t.world.visible ∈ t.world.possible)
    (hrank : ∀ v ∈ t.world.possible, v ∈ s.world.possible ∨ D.rank s.world.visible ≤ D.rank v) :
    Ahead D allowed t := by
  refine ⟨hcur, fun v hv a ha => ?_, ?_, ?_⟩
  · rw [hq.acts_eq] at ha
    rcases hrank v hv with hv | hv
    · exact h.covered v hv a ha
    · exact Nat.le_trans (h.covered _ h.current a ha) hv
  · rw [hq.acts_eq]
    exact h.once
  · obtain ⟨ext, hext, hnone⟩ := hq
    intro pre e post a hlog ha
    obtain ⟨post', hpost⟩ := split_of_quiet hnone (hext.symm.trans hlog) ha
    exact h.guarded pre e post' a hpost ha

theorem silent (h : Ahead D allowed s) (hst : Silent D s t) : Ahead D allowed t :=
  h.quiet hst.1 (hst.2 ▸ h.current) fun _ hv => .inl (hst.2 ▸ hv)

theorem settled (h : Ahead D allowed s) {r : ρ} (ht : Filed s (.holding (some r)) t)
    (hr : D.rank s.world.visible ≤ D.rank (some r)) : Ahead D allowed t := by
  refine h.quiet (.of_filed ht) (by simp [ht.world]) fun v hv => .inr ?_
  rw [ht.world, File.holding_possible, List.mem_singleton] at hv
  rwa [hv]

theorem unsettled (h : Ahead D allowed s) {r : ρ} {f : File ρ} (ht : Filed s f t)
    (hf : Unsettled r s.world f) (hr : D.rank s.world.visible ≤ D.rank (some r)) :
    Ahead D allowed t := by
  rcases hf with rfl | rfl
  · exact h.silent ⟨.of_filed ht, ht.world⟩
  · refine h.quiet (.of_filed ht) (by simp [ht.world]) fun v hv => ?_
    rw [ht.world, File.replace_possible, List.mem_cons] at hv
    rcases hv with rfl | hv
    · exact .inr hr
    · exact .inl hv

/-- A first record, or an attempt to make one. -/
theorem created (h : Ahead D allowed s) {r : ρ} {f : File ρ} (ht : Filed s f t)
    (hf : f = s.world ∨ s.world.visible = none ∧ f = s.world.replace r)
    (hr : D.rank none ≤ D.rank (some r)) : Ahead D allowed t := by
  rcases hf with rfl | ⟨hnone, rfl⟩
  · exact h.silent ⟨.of_filed ht, ht.world⟩
  · exact h.unsettled ht (.inr rfl) (hnone ▸ hr)

/-- An allowed action that was not performed yet, behind a record that ranks high
enough and is all a restart can find. -/
theorem act (h : Ahead D allowed s) {op : E.Op} {a : D.Act} {r : ρ} (hw : s.world = .holding (some r))
    (hop : D.act op = some a) (hfresh : a ∉ D.acts s.log) (hneed : D.need a ≤ D.rank (some r))
    (hall : allowed s.log a s.world) (ans : E.Ans op) : Ahead D allowed (s.call (.inr op) ans) := by
  have hacts := acts_call (s := s) hop ans
  refine ⟨h.current, fun v hv b hb => ?_, ?_, ?_⟩
  · rw [hacts, List.mem_append, List.mem_singleton] at hb
    rcases hb with hb | rfl
    · exact h.covered v hv b hb
    · rw [call_inr_world, hw, File.holding_possible, List.mem_singleton] at hv
      rwa [hv]
  · rw [hacts]
    exact List.nodup_append.mpr ⟨h.once, List.nodup_singleton a, fun x hx y hy => by
      rw [List.mem_singleton.mp hy]
      rintro rfl
      exact hfresh hx⟩
  · intro pre e post b hlog hb
    rcases List.eq_nil_or_concat post with rfl | ⟨post', x, rfl⟩
    · -- the new entry itself
      obtain ⟨rfl, he⟩ := List.append_inj' (hlog : s.log ++ [_] = pre ++ [e]) rfl
      obtain rfl := (List.singleton_inj.mp he).symm
      obtain rfl : a = b := Option.some.inj (hop.symm.trans hb)
      exact hall
    · rw [List.concat_eq_append, ← List.cons_append, ← List.append_assoc] at hlog
      obtain ⟨hs, -⟩ := List.append_inj' (hlog : s.log ++ [_] = _) rfl
      exact h.guarded pre e post' b hs hb

theorem restart (h : Ahead D allowed s) {f : File ρ} (hf : s.world.Restart f) : Ahead D allowed ⟨f, s.log⟩ := by
  obtain ⟨v, hv, rfl⟩ := hf
  exact h.quiet (t := ⟨.holding v, s.log⟩) ⟨[], by simp⟩ (by simp) fun _ hw => .inl (by
    rw [List.mem_singleton.mp hw]
    exact hv)

end Ahead

/-- Before anything happened. -/
theorem Ahead.init (v : Option ρ) : Ahead D allowed ⟨.holding v, []⟩ where
  current := by simp
  covered := by simp [Discipline.acts]
  once := by simp [Discipline.acts]
  guarded := by simp

end StorageManager.Lib.WriteAhead
