import Mathlib.Data.List.Basic
import Mathlib.Data.List.Nodup
import Mathlib.Data.List.Perm.Basic

/-!
# Lists without repetitions

A list is walked one element at a time when each step names two neighbours. In a
list without repetitions the second of them is determined by the first. What is taken
from a list key by key, over keys without repetitions, is taken once.
-/

namespace StorageManager.Lib.Sequence

set_option autoImplicit false

variable {α : Type}

/-- `a` and `b` stand next to each other in `l`, in this order. -/
def Neighbours (l : List α) (a b : α) : Prop := ∃ before after, l = before ++ a :: b :: after

theorem Neighbours.tail {l : List α} {x a b : α} (h : Neighbours l a b) :
    Neighbours (x :: l) a b := by
  obtain ⟨before, after, rfl⟩ := h
  exact ⟨x :: before, after, rfl⟩

theorem neighbours_cons_cons {l : List α} {x y a b : α} :
    Neighbours (x :: y :: l) a b ↔ (x = a ∧ y = b) ∨ Neighbours (y :: l) a b := by
  constructor
  · rintro ⟨_ | ⟨z, before⟩, after, h⟩
    · exact .inl ⟨(List.cons.inj h).1, (List.cons.inj (List.cons.inj h).2).1⟩
    · exact .inr ⟨before, after, (List.cons.inj h).2⟩
  · rintro (⟨rfl, rfl⟩ | h)
    · exact ⟨[], l, rfl⟩
    · exact h.tail

/-- The window test on a list is the neighbour relation. -/
theorem zip_tail_any_iff [BEq α] [LawfulBEq α] (l : List α) (a b : α) :
    (l.zip l.tail).any (fun p => p.1 == a && p.2 == b) = true ↔ Neighbours l a b := by
  induction l with
  | nil => simp [Neighbours]
  | cons x l ih =>
    cases l with
    | nil =>
      refine iff_of_false (by simp) ?_
      rintro ⟨before, after, h⟩
      have := congrArg List.length h
      simp only [List.length_cons, List.length_nil, List.length_append] at this
      omega
    | cons y l =>
      rw [neighbours_cons_cons, ← ih]
      simp

theorem Neighbours.length {l : List α} {a b : α} (h : Neighbours l a b) : 2 ≤ l.length := by
  obtain ⟨before, after, rfl⟩ := h
  simp only [List.length_append, List.length_cons]
  omega

/-- An element of a list without repetitions splits the list in one way. -/
theorem split_unique {before before' after after' : List α} {a : α}
    (nodup : (before ++ a :: after).Nodup) (h : before ++ a :: after = before' ++ a :: after') :
    before = before' ∧ after = after' := by
  obtain ⟨-, tail, apart⟩ := List.nodup_append.mp nodup
  have fresh : a ∉ before := fun mem => apart a mem a List.mem_cons_self rfl
  have fresh' : a ∉ after := (List.nodup_cons.mp tail).1
  obtain ⟨rfl, -, rfl⟩ := (List.append_cons_inj_of_notMem fresh fresh').mp h
  exact ⟨rfl, rfl⟩

/-- What stands after an element begins with its neighbour. -/
theorem Neighbours.after {l before after : List α} {a b : α} (h : Neighbours l a b)
    (nodup : l.Nodup) (split : l = before ++ a :: after) : ∃ rest, after = b :: rest := by
  obtain ⟨before', rest, h⟩ := h
  rw [split] at nodup
  exact ⟨rest, (split_unique nodup (split.symm.trans h)).2⟩

/-- What stands before an element ends with its neighbour. -/
theorem Neighbours.before {l before after : List α} {a b : α} (h : Neighbours l a b)
    (nodup : l.Nodup) (split : l = before ++ b :: after) : ∃ init, before = init ++ [a] := by
  obtain ⟨init, rest, h⟩ := h
  rw [split] at nodup
  have rejoined : before ++ b :: after = (init ++ [a]) ++ b :: rest := by
    rw [← split, h, List.append_assoc]
    rfl
  exact ⟨init, (split_unique nodup rejoined).1⟩

/-- A step that stands last has nothing after it. -/
theorem after_last {l before after : List α} {a : α} (nodup : l.Nodup)
    (split : l = before ++ a :: after) (last : l.getLast? = some a) : after = [] := by
  obtain ⟨init, h⟩ := List.getLast?_eq_some_iff.mp last
  rw [split] at nodup
  exact (split_unique nodup (split.symm.trans h)).2

section Selection

variable {β : Type}

theorem nodup_eraseDups [BEq α] [LawfulBEq α] (l : List α) : l.eraseDups.Nodup := by
  induction hn : l.length using Nat.strongRecOn generalizing l with
  | _ n ih =>
    cases l with
    | nil => simp
    | cons a l =>
      rw [List.eraseDups_cons, List.nodup_cons]
      have hlen := List.length_filter_le (fun b => !b == a) l
      refine ⟨?_, ih _ (by rw [← hn, List.length_cons]; omega) _ rfl⟩
      rw [List.mem_eraseDups, List.mem_filter]
      simp

/-- What either of two exclusive tests keeps is what the one keeps and what the other keeps. -/
theorem filter_or_perm {p q : α → Bool} {l : List α} (h : ∀ a ∈ l, ¬(p a ∧ q a)) :
    (l.filter fun a => p a || q a).Perm (l.filter p ++ l.filter q) := by
  induction l with
  | nil => exact .nil
  | cons a l ih =>
    have hrest := ih fun b hb => h b (List.mem_cons_of_mem a hb)
    have hnot := h a List.mem_cons_self
    cases hp : p a with
    | true =>
      have hq : q a = false := by
        cases hq : q a with
        | true => exact absurd ⟨hp, hq⟩ hnot
        | false => rfl
      simpa [hp, hq] using hrest
    | false =>
      cases hq : q a with
      | true =>
        simp only [List.filter_cons, hp, hq, Bool.or_true, if_true, Bool.false_eq_true, if_false]
        exact (hrest.cons a).trans List.perm_middle.symm
      | false => simpa [hp, hq] using hrest

/-- The elements with each of the keys are the elements with one of them. -/
theorem flatMap_filter_perm [DecidableEq β] (key : α → β) (l : List α) {keys : List β}
    (h : keys.Nodup) :
    (keys.flatMap fun k => l.filter (key · = k)).Perm (l.filter (key · ∈ keys)) := by
  induction keys with
  | nil => simp
  | cons k keys ih =>
    obtain ⟨hk, hrest⟩ := List.nodup_cons.mp h
    have hsplit := filter_or_perm (p := (key · = k)) (q := (key · ∈ keys)) (l := l) (by
      rintro a - ⟨ha, hmem⟩
      rw [of_decide_eq_true ha] at hmem
      exact hk (of_decide_eq_true hmem))
    rw [List.flatMap_cons]
    refine ((ih hrest).append_left _).trans (hsplit.symm.trans ?_)
    simp

/-- A list with one element, up to order and a function. -/
theorem perm_map_singleton {as : List α} {bs : List β} {f : α → β} {b : β}
    (h : bs.Perm (as.map f)) : bs = [b] ↔ ∃ a, as = [a] ∧ b = f a := by
  constructor
  · rintro rfl
    have hmap : as.map f = [b] := List.perm_singleton.mp h.symm
    obtain ⟨a, rfl, rfl⟩ := List.map_eq_singleton_iff.mp hmap
    exact ⟨a, rfl, rfl⟩
  · rintro ⟨a, rfl, rfl⟩
    exact List.perm_singleton.mp h

end Selection

section Order

variable {β : Type} {l l' : List α}

/-- Lists with the same elements are both empty, both the same single element, or both longer. -/
theorem perm_cases (h : l.Perm l') : (l = [] ∧ l' = []) ∨ (∃ a, l = [a] ∧ l' = [a]) ∨
    ∃ a b rest a' b' rest', l = a :: b :: rest ∧ l' = a' :: b' :: rest' := by
  match l, l', h, h.length_eq with
  | [], [], _, _ => exact .inl ⟨rfl, rfl⟩
  | [a], [b], h, _ =>
    rw [List.singleton_perm_singleton.mp h]
    exact .inr (.inl ⟨b, rfl, rfl⟩)
  | a :: b :: rest, a' :: b' :: rest', _, _ =>
    exact .inr (.inr ⟨a, b, rest, a', b', rest', rfl, rfl⟩)

theorem eraseDups_perm [BEq α] [LawfulBEq α] (h : l.Perm l') : l.eraseDups.Perm l'.eraseDups :=
  (List.perm_ext_iff_of_nodup (nodup_eraseDups l) (nodup_eraseDups l')).mpr fun a => by
    rw [List.mem_eraseDups, List.mem_eraseDups, h.mem_iff]

/-- Sorting forgets the order of a list whose ties are no two different elements. -/
theorem mergeSort_eq_of_perm {le : α → α → Bool}
    (trans : ∀ a b c, le a b = true → le b c = true → le a c = true)
    (total : ∀ a b, (le a b || le b a) = true)
    (apart : ∀ a ∈ l, ∀ b ∈ l, le a b = true → le b a = true → a = b) (h : l.Perm l') :
    l.mergeSort le = l'.mergeSort le := by
  have hsame := (List.mergeSort_perm l le).trans (h.trans (List.mergeSort_perm l' le).symm)
  refine hsame.eq_of_pairwise ?_ (List.pairwise_mergeSort trans total l)
    (List.pairwise_mergeSort trans total l')
  intro a b ha hb
  refine apart a (List.mem_mergeSort.mp ha) b ?_
  exact h.mem_iff.mpr (List.mem_mergeSort.mp hb)

end Order

end StorageManager.Lib.Sequence
