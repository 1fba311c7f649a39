import Mathlib.Algebra.Group.Nat.Defs
import Mathlib.Data.List.Induction
import StorageManager.Lib.Checks

/-!
# Records that carry their transitions

A record keeps an event for each transition that was applied to it: its number, the phase it
left, the phase it reached and a code. A validator follows the events from the first phase on.
When its table of phase pairs lists the transitions, the events it accepts are those that
transitions write.
-/

namespace StorageManager.Lib.EventChain

open Checks

set_option autoImplicit false

structure Event (Phase : Type) where
  sequence : Nat
  source : Phase
  target : Phase
  code : String
  deriving DecidableEq

/-- Why events are refused. -/
inductive Fault where
  | brokenChain
  | impossibleTransition
  | wrongCode
  deriving DecidableEq

/-- `index as u32 + 1`. -/
def sequenceOf (index : Nat) : Nat := (index % 2 ^ 32 + 1) % 2 ^ 32

section Definitions

variable {Phase T : Type} [DecidableEq Phase]

/-- Follow the events from a phase on; the first one has the given index. -/
def follow (table : Phase → Phase → Option (Phase × String)) :
    Nat → Phase → List (Event Phase) → Except Fault Phase
  | _, phase, [] => .ok phase
  | index, phase, event :: events => do
    refuse (event.sequence ≠ sequenceOf index ∨ event.source ≠ phase) .brokenChain
    let expected ← okOr (table event.source event.target) .impossibleTransition
    refuse (expected.1 ≠ event.target ∨ expected.2 ≠ event.code) .wrongCode
    follow table (index + 1) event.target events

end Definitions

variable {Phase T : Type}

/-- The events that transitions write, and the phase they lead to. -/
inductive Written (target : Phase → T → Option (Phase × String)) (first : Phase) :
    List (Event Phase) → Phase → Prop
  | nil : Written target first [] first
  | step {events : List (Event Phase)} {p q : Phase} {t : T} {code : String} :
      Written target first events p → target p t = some (q, code) →
      Written target first (events ++ [⟨sequenceOf events.length, p, q, code⟩]) q

/-- The table has an entry for each transition and no others. -/
def Lists (table : Phase → Phase → Option (Phase × String))
    (target : Phase → T → Option (Phase × String)) : Prop :=
  ∀ p q code, table p q = some (q, code) ↔ ∃ t, target p t = some (q, code)

variable {table : Phase → Phase → Option (Phase × String)}
  {target : Phase → T → Option (Phase × String)} {first p q : Phase} {index : Nat}
  {event : Event Phase} {events : List (Event Phase)}

theorem Written.of_nil (h : Written target first [] p) : p = first := by
  generalize hevents : ([] : List (Event Phase)) = events at h
  cases h with
  | nil => rfl
  | step _ _ => exact absurd hevents.symm (List.append_ne_nil_of_right_ne_nil _ (by simp))

theorem Written.of_snoc (h : Written target first (events ++ [event]) q) :
    ∃ p t, Written target first events p ∧ target p t = some (q, event.code) ∧
      event = ⟨sequenceOf events.length, p, q, event.code⟩ := by
  generalize hall : events ++ [event] = all at h
  cases h with
  | nil => exact absurd hall (List.append_ne_nil_of_right_ne_nil _ (by simp))
  | step hwritten htarget =>
    obtain ⟨rfl, hone⟩ := List.append_inj' hall rfl
    obtain rfl := List.singleton_inj.mp hone
    exact ⟨_, _, hwritten, htarget, rfl⟩

/-- Records that are told by their events are reached by transitions. -/
theorem Written.reached {R ε : Type} (apply : R → T → Except ε R)
    (recordWith : List (Event Phase) → Phase → R)
    (hstep : ∀ {events p t q code}, Written target first events p → target p t = some (q, code) →
      apply (recordWith events p) t =
        .ok (recordWith (events ++ [⟨sequenceOf events.length, p, q, code⟩]) q))
    (h : Written target first events p) :
    ∃ ts : List T, ts.foldlM apply (recordWith [] first) = .ok (recordWith events p) := by
  induction h with
  | nil => exact ⟨[], rfl⟩
  | @step events p q t code hwritten htarget ih =>
    obtain ⟨ts, hts⟩ := ih
    refine ⟨ts ++ [t], ?_⟩
    rw [List.foldlM_append, hts]
    show List.foldlM apply (recordWith events p) [t] = _
    rw [List.foldlM_cons, hstep hwritten htarget]
    rfl

variable [DecidableEq Phase]

theorem follow_cons_eq_ok_iff : follow table index p (event :: events) = .ok q ↔
    (event.sequence = sequenceOf index ∧ event.source = p ∧
      table p event.target = some (event.target, event.code)) ∧
    follow table (index + 1) event.target events = .ok q := by
  rw [follow, check_eq_ok_iff, refuse_eq_ok_iff, bind_eq_ok_iff, not_or, not_not, not_not]
  constructor
  · rintro ⟨⟨hsequence, hsource⟩, ⟨r, code⟩, htable, h⟩
    obtain ⟨hfits, hrest⟩ := check_eq_ok_iff.mp h
    obtain ⟨hr, hcode⟩ := not_or.mp (refuse_eq_ok_iff.mp hfits)
    obtain rfl : r = event.target := not_not.mp hr
    obtain rfl : code = event.code := not_not.mp hcode
    rw [okOr_eq_ok_iff, hsource] at htable
    exact ⟨⟨hsequence, hsource, htable⟩, hrest⟩
  · rintro ⟨⟨hsequence, hsource, htable⟩, h⟩
    refine ⟨⟨hsequence, hsource⟩, (event.target, event.code), ?_, ?_⟩
    · rw [okOr_eq_ok_iff, hsource]
      exact htable
    · exact check_eq_ok_iff.mpr ⟨refuse_eq_ok_iff.mpr (by simp), h⟩

/-- The last event comes after the others. -/
theorem follow_snoc_eq_ok_iff : follow table index p (events ++ [event]) = .ok q ↔
    ∃ r, follow table index p events = .ok r ∧
      event = ⟨sequenceOf (index + events.length), r, q, event.code⟩ ∧
      table r q = some (q, event.code) := by
  induction events generalizing index p with
  | nil =>
    rw [List.nil_append, follow_cons_eq_ok_iff]
    constructor
    · rintro ⟨⟨hsequence, hsource, htable⟩, h⟩
      obtain rfl : event.target = q := Except.ok.inj h
      refine ⟨p, rfl, ?_, htable⟩
      rw [← hsource, List.length_nil, Nat.add_zero, ← hsequence]
    · rintro ⟨r, h, hevent, htable⟩
      obtain rfl : p = r := Except.ok.inj h
      rw [hevent]
      exact ⟨⟨rfl, rfl, htable⟩, rfl⟩
  | cons e events ih =>
    have hindex : index + 1 + events.length = index + (e :: events).length := by
      rw [List.length_cons]
      omega
    rw [List.cons_append, follow_cons_eq_ok_iff, ih, hindex]
    constructor
    · rintro ⟨hfirst, r, hr, hlast⟩
      exact ⟨r, follow_cons_eq_ok_iff.mpr ⟨hfirst, hr⟩, hlast⟩
    · rintro ⟨r, hr, hlast⟩
      obtain ⟨hfirst, hr⟩ := follow_cons_eq_ok_iff.mp hr
      exact ⟨hfirst, r, hr, hlast⟩

/-- The events that are accepted are the ones that transitions write. The induction is on the
last event. -/
theorem follow_eq_ok_iff (hlists : Lists table target) :
    follow table 0 first events = .ok p ↔ Written target first events p := by
  induction events using List.reverseRecOn generalizing p with
  | nil =>
    constructor
    · intro h
      obtain rfl : first = p := Except.ok.inj h
      exact .nil
    · intro h
      rw [h.of_nil]
      rfl
  | append_singleton events event ih =>
    rw [follow_snoc_eq_ok_iff, Nat.zero_add]
    constructor
    · rintro ⟨r, hr, hevent, htable⟩
      obtain ⟨t, ht⟩ := (hlists r p event.code).mp htable
      rw [hevent]
      exact .step (ih.mp hr) ht
    · intro h
      obtain ⟨r, t, hr, ht, hevent⟩ := h.of_snoc
      exact ⟨r, ih.mpr hr, hevent, (hlists r p event.code).mpr ⟨t, ht⟩⟩

end StorageManager.Lib.EventChain
