import Mathlib.Algebra.Group.Nat.Defs
import StorageManager.Lib.Text

/-!
# Octal escapes

Some characters of a text are written as a backslash and the three octal digits of their code.
A decoder that replaces the escapes one after the other, that of the backslash first, also finds
the escapes that were in the text before.
-/

namespace StorageManager.Lib.Octal

open Lib.Text

set_option autoImplicit false

/-- An octal digit of the code of a character. -/
def digit (c : Char) (place : Nat) : Char := Nat.digitChar (c.toNat / 8 ^ place % 8)

/-- The escape of a character with a code below 512. -/
def octal (c : Char) : List Char := ['\\', digit c 2, digit c 1, digit c 0]

/-- The text with these characters escaped. -/
def escape (special : List Char) (t : List Char) : List Char :=
  t.flatMap fun c => if c ∈ special then octal c else [c]

/-- Each escape replaced by its character, one after the other. -/
def unescapeOthers (codes : List Char) (t : List Char) : List Char :=
  codes.foldl (fun t c => replace (octal c) [c] t) t

/-- The escape of the backslash is replaced first. -/
def unescape (codes : List Char) (t : List Char) : List Char :=
  unescapeOthers codes (replace (octal '\\') ['\\'] t)

section Digits

theorem digitChar_inj {m n : Nat} (hm : m < 8) (hn : n < 8) (h : m.digitChar = n.digitChar) :
    m = n := by
  have hall : ∀ m < 8, ∀ n < 8, m.digitChar = n.digitChar → m = n := by decide
  exact hall m hm n hn h

theorem digit_bounds (c : Char) (place : Nat) :
    48 ≤ (digit c place).toNat ∧ (digit c place).toNat < 56 := by
  have hall : ∀ n < 8, 48 ≤ n.digitChar.toNat ∧ n.digitChar.toNat < 56 := by decide
  exact hall _ (Nat.mod_lt _ (by decide))

theorem digit_ne_backslash (c : Char) (place : Nat) : digit c place ≠ '\\' := by
  intro h
  have hbounds := digit_bounds c place
  rw [h] at hbounds
  exact absurd hbounds.2 (by decide)

theorem octal_inj {a c : Char} (ha : a.toNat < 512) (hc : c.toNat < 512) (h : octal a = octal c) :
    a = c := by
  have hplaces := List.cons.inj (List.cons.inj h).2
  have hlow := List.cons.inj (List.cons.inj hplaces.2).2
  have h2 := digitChar_inj (Nat.mod_lt _ (by decide)) (Nat.mod_lt _ (by decide)) hplaces.1
  have h1 := digitChar_inj (Nat.mod_lt _ (by decide)) (Nat.mod_lt _ (by decide))
    (List.cons.inj hplaces.2).1
  have h0 := digitChar_inj (Nat.mod_lt _ (by decide)) (Nat.mod_lt _ (by decide)) hlow.1
  have hnat : a.toNat = c.toNat := by omega
  exact Char.toNat_inj.mp hnat

/-- Escapes have one length, so one begins with another only when it is the other. -/
theorem octal_prefix {a c : Char} {t : List Char} (h : octal c <+: octal a ++ t) :
    octal c = octal a := List.prefix_iff_eq_take.mp h

end Digits

section Escaping

variable {special : List Char} {c : Char} {t : List Char}

@[simp] theorem escape_nil : escape special [] = [] := rfl

theorem escape_cons_mem (hc : c ∈ special) :
    escape special (c :: t) = octal c ++ escape special t := by
  rw [escape, List.flatMap_cons, if_pos hc, escape]

theorem escape_cons_not_mem (hc : c ∉ special) : escape special (c :: t) = c :: escape special t := by
  rw [escape, List.flatMap_cons, if_neg hc, escape, List.singleton_append]

/-- The characters that are escaped come before the digits. -/
def Low (special : List Char) : Prop := ∀ c ∈ special, c.toNat < 48

theorem Low.digit (h : Low special) (c : Char) (place : Nat) : digit c place ∉ special := by
  intro hmem
  have hlow := h _ hmem
  have hdigit := (digit_bounds c place).1
  omega

theorem Low.backslash (h : Low special) : '\\' ∉ special := fun hmem => absurd (h _ hmem) (by decide)

/-- An escape that is in the text already is not escaped again. -/
theorem escape_octal (h : Low special) (c : Char) (t : List Char) :
    escape special (octal c ++ t) = octal c ++ escape special t := by
  show escape special ('\\' :: Octal.digit c 2 :: Octal.digit c 1 :: Octal.digit c 0 :: t) = _
  rw [escape_cons_not_mem h.backslash, escape_cons_not_mem (h.digit c 2),
    escape_cons_not_mem (h.digit c 1), escape_cons_not_mem (h.digit c 0)]
  rfl

/-- What is found before a text without backslashes was there before the escaping. -/
theorem prefix_of_prefix_escape {d : List Char} (hd : ∀ x ∈ d, x ≠ '\\')
    (h : d <+: escape special t) : d <+: t := by
  induction d generalizing t with
  | nil => exact List.nil_prefix
  | cons x d ih =>
    cases t with
    | nil => exact absurd (List.eq_nil_of_prefix_nil h) (List.cons_ne_nil x d)
    | cons y t =>
      by_cases hy : y ∈ special
      · rw [escape_cons_mem hy] at h
        exact absurd (List.cons_prefix_cons.mp h).1 (hd x List.mem_cons_self)
      · rw [escape_cons_not_mem hy, List.cons_prefix_cons] at h
        rw [List.cons_prefix_cons]
        exact ⟨h.1, ih (fun x hx => hd x (List.mem_cons_of_mem _ hx)) h.2⟩

theorem octal_prefix_of_escape (c : Char) (h : octal c <+: escape special t)
    (hhead : ∀ x ∈ t.head?, x ∉ special) : octal c <+: t := by
  cases t with
  | nil => exact h
  | cons y t =>
    rw [escape_cons_not_mem (hhead y rfl), octal, List.cons_prefix_cons] at h
    rw [octal, List.cons_prefix_cons]
    refine ⟨h.1, prefix_of_prefix_escape ?_ h.2⟩
    intro x hx
    simp only [List.mem_cons, List.not_mem_nil, or_false] at hx
    rcases hx with rfl | rfl | rfl <;> exact digit_ne_backslash _ _

/-- An encoded text has no character that is escaped. -/
theorem mem_escape {x : Char} (hx : x ∈ escape special t) :
    x = '\\' ∨ 48 ≤ x.toNat ∧ x.toNat < 56 ∨ x ∈ t ∧ x ∉ special := by
  obtain ⟨y, hy, hx⟩ := List.mem_flatMap.mp hx
  split at hx
  · simp only [octal, List.mem_cons, List.not_mem_nil, or_false] at hx
    rcases hx with rfl | rfl | rfl | rfl
    · exact .inl rfl
    · exact .inr (.inl (digit_bounds y 2))
    · exact .inr (.inl (digit_bounds y 1))
    · exact .inr (.inl (digit_bounds y 0))
  · next hy' =>
    rw [List.mem_singleton.mp hx]
    exact .inr (.inr ⟨hy, hy'⟩)

theorem head?_escape {x : Char} (hx : (escape special t).head? = some x) :
    x = '\\' ∨ t.head? = some x := by
  cases t with
  | nil => cases hx
  | cons y t =>
    by_cases hy : y ∈ special
    · rw [escape_cons_mem hy] at hx
      exact .inl (Option.some.inj hx).symm
    · rw [escape_cons_not_mem hy] at hx
      exact .inr hx

theorem escape_ne_nil (ht : t ≠ []) : escape special t ≠ [] := by
  cases t with
  | nil => exact absurd rfl ht
  | cons y t =>
    by_cases hy : y ∈ special
    · rw [escape_cons_mem hy]
      exact List.append_ne_nil_of_left_ne_nil (List.cons_ne_nil _ _) _
    · rw [escape_cons_not_mem hy]
      exact List.cons_ne_nil _ _

/-- The first character to be escaped. -/
theorem replaceChar_eq_escape (c : Char) (t : List Char) :
    replaceChar c (octal c) t = escape [c] t := by
  induction t with
  | nil => rfl
  | cons x t ih =>
    by_cases hx : x = c
    · rw [replaceChar, List.flatMap_cons, if_pos hx, ← replaceChar, ih,
        escape_cons_mem (List.mem_singleton.mpr hx), hx]
    · rw [replaceChar, List.flatMap_cons, if_neg hx, ← replaceChar, ih,
        escape_cons_not_mem (mt List.mem_singleton.mp hx)]
      rfl

/-- One character more to be escaped. -/
theorem replaceChar_escape (hc : c.toNat < 48) (hfresh : c ∉ special) (t : List Char) :
    replaceChar c (octal c) (escape special t) = escape (c :: special) t := by
  have happend : ∀ u v : List Char, replaceChar c (octal c) (u ++ v) =
      replaceChar c (octal c) u ++ replaceChar c (octal c) v := fun u v => List.flatMap_append
  have hother : ∀ x ∈ special, replaceChar c (octal c) (octal x) = octal x := by
    intro x _
    have hne : ∀ y ∈ octal x, y ≠ c := by
      rintro y hy rfl
      simp only [octal, List.mem_cons, List.not_mem_nil, or_false] at hy
      rcases hy with rfl | rfl | rfl | rfl
      · exact absurd hc (by decide)
      · have hdigit := (digit_bounds x 2).1
        omega
      · have hdigit := (digit_bounds x 1).1
        omega
      · have hdigit := (digit_bounds x 0).1
        omega
    have hsingle : (octal x).flatMap (fun y => if y = c then octal c else [y]) =
        (octal x).flatMap fun y => [y] := by
      refine List.flatMap_congr fun y hy => ?_
      rw [if_neg (hne y hy)]
    exact hsingle.trans (List.flatMap_singleton' _)
  induction t with
  | nil => rfl
  | cons x t ih =>
    by_cases hx : x ∈ special
    · rw [escape_cons_mem hx, happend, hother x hx, ih,
        escape_cons_mem (List.mem_cons_of_mem c hx)]
    · rw [escape_cons_not_mem hx]
      by_cases hsame : x = c
      · rw [replaceChar, List.flatMap_cons, if_pos hsame, ← replaceChar, ih,
          escape_cons_mem (hsame ▸ List.mem_cons_self), hsame]
      · rw [replaceChar, List.flatMap_cons, if_neg hsame, ← replaceChar, ih,
          escape_cons_not_mem fun hmem => (List.mem_cons.mp hmem).elim hsame hx]
        rfl

theorem escape_congr {others : List Char} (h : ∀ c, c ∈ special ↔ c ∈ others) (t : List Char) :
    escape special t = escape others t := by
  refine List.flatMap_congr fun c _ => ?_
  simp only [h c]

end Escaping

section Unescaping

variable {special : List Char} {a c : Char} {t : List Char} {rep : List Char}

theorem two_le_length_octal (c : Char) : 2 ≤ (octal c).length := by
  show 2 ≤ 4
  decide

theorem octal_ne_nil (c : Char) : octal c ≠ [] := List.cons_ne_nil _ _

/-- A replacement begins only at a backslash. -/
theorem replace_cons_ne (ha : a ≠ '\\') :
    replace (octal c) rep (a :: t) = a :: replace (octal c) rep t := by
  refine replace_cons fun h => ha ?_
  exact (List.cons_prefix_cons.mp h).1.symm

theorem replace_octal_ne (h : octal c ≠ octal a) :
    replace (octal c) rep (octal a ++ t) = octal a ++ replace (octal c) rep t := by
  have hfirst : ¬octal c <+: '\\' :: digit a 2 :: digit a 1 :: digit a 0 :: t :=
    mt octal_prefix h
  show replace (octal c) rep ('\\' :: digit a 2 :: digit a 1 :: digit a 0 :: t) = _
  rw [replace_cons hfirst, replace_cons_ne (digit_ne_backslash a 2),
    replace_cons_ne (digit_ne_backslash a 1), replace_cons_ne (digit_ne_backslash a 0)]
  rfl

/-- The first replacement undoes the escaping of the backslash. -/
theorem replace_backslash_escape (h : Low special) (t : List Char) :
    replace (octal '\\') ['\\'] (escape ('\\' :: special) t) = escape special t := by
  induction t with
  | nil => rfl
  | cons x t ih =>
    by_cases hx : x ∈ '\\' :: special
    · rw [escape_cons_mem hx]
      rcases List.mem_cons.mp hx with rfl | hx
      · rw [replace_append (octal_ne_nil _), ih, escape_cons_not_mem h.backslash,
          List.singleton_append]
      · have hne : octal '\\' ≠ octal x := by
          intro hsame
          have hlow := h x hx
          have hbackslash := octal_inj (by decide) (by omega) hsame
          rw [← hbackslash] at hx
          exact h.backslash hx
        rw [replace_octal_ne hne, ih, escape_cons_mem hx]
    · have hrest := mt List.mem_cons.mpr hx
      rw [not_or] at hrest
      rw [escape_cons_not_mem hx, replace_cons_ne hrest.1, ih, escape_cons_not_mem hrest.2]

/-- A later replacement undoes the escaping of its character, and replaces what looked like
its escape before. -/
theorem replace_escape (h : Low (c :: special)) (hc : c ∉ special) (t : List Char) :
    replace (octal c) [c] (escape (c :: special) t) =
      escape special (replace (octal c) [c] t) := by
  have hspecial : Low special := fun x hx => h x (List.mem_cons_of_mem _ hx)
  have hbackslash : c ≠ '\\' := fun hc => h.backslash (hc ▸ List.mem_cons_self)
  induction t using replace_induction (octal c) (octal_ne_nil c) with
  | nil => rfl
  | found t ih =>
    rw [escape_octal h, replace_append (octal_ne_nil c), replace_append (octal_ne_nil c), ih,
      List.singleton_append, List.singleton_append, escape_cons_not_mem hc]
  | kept x t hx ih =>
    rw [replace_cons hx]
    by_cases hmem : x ∈ c :: special
    · rw [escape_cons_mem hmem]
      rcases List.mem_cons.mp hmem with rfl | hmem
      · rw [replace_append (octal_ne_nil _), ih, escape_cons_not_mem hc, List.singleton_append]
      · have hne : octal c ≠ octal x := by
          intro hsame
          have hx := hspecial x hmem
          have hlow := h c List.mem_cons_self
          rw [octal_inj (by omega) (by omega) hsame] at hc
          exact hc hmem
        rw [replace_octal_ne hne, ih, escape_cons_mem hmem]
    · have hkept : ¬octal c <+: x :: escape (c :: special) t := by
        rw [← escape_cons_not_mem hmem]
        intro hfound
        refine hx (octal_prefix_of_escape c hfound ?_)
        intro y hy
        rw [← Option.some.inj hy]
        exact hmem
      have hrest := mt List.mem_cons.mpr hmem
      rw [not_or] at hrest
      rw [escape_cons_not_mem hmem, replace_cons hkept, ih, escape_cons_not_mem hrest.2]

theorem unescapeOthers_escape {codes : List Char} (h : Low codes) (hnodup : codes.Nodup)
    (t : List Char) : unescapeOthers codes (escape codes t) = unescapeOthers codes t := by
  induction codes generalizing t with
  | nil =>
    have hsame : escape [] t = t := by
      induction t with
      | nil => rfl
      | cons x t ih => rw [escape_cons_not_mem List.not_mem_nil, ih]
    rw [hsame]
  | cons c codes ih =>
    obtain ⟨hc, hnodup⟩ := List.nodup_cons.mp hnodup
    have hcodes : Low codes := fun x hx => h x (List.mem_cons_of_mem _ hx)
    show unescapeOthers codes (replace (octal c) [c] (escape (c :: codes) t)) = _
    rw [replace_escape h hc, ih hcodes hnodup]
    rfl

/-- The decoder gives back what was encoded with the escapes in it replaced. -/
theorem unescape_escape {codes : List Char} (h : Low codes) (hnodup : codes.Nodup) (t : List Char) :
    unescape codes (escape ('\\' :: codes) t) = unescapeOthers codes t := by
  rw [unescape, replace_backslash_escape h, unescapeOthers_escape h hnodup]

theorem length_unescapeOthers_le (codes t : List Char) :
    (unescapeOthers codes t).length ≤ t.length := by
  induction codes generalizing t with
  | nil => exact Nat.le_refl _
  | cons c codes ih => exact (ih _).trans (length_replace_le (octal_ne_nil c) c t)

/-- A text with an escape in it gets shorter. -/
theorem length_unescapeOthers_eq_iff (codes t : List Char) :
    (unescapeOthers codes t).length = t.length ↔ ∀ c ∈ codes, ¬octal c <:+: t := by
  induction codes generalizing t with
  | nil => exact iff_of_true rfl fun c hc => absurd hc List.not_mem_nil
  | cons c codes ih =>
    have hle := length_unescapeOthers_le codes (replace (octal c) [c] t)
    have hone := length_replace_le (octal_ne_nil c) c t
    have hsame := length_replace_eq_iff (two_le_length_octal c) c t
    rw [List.forall_mem_cons]
    show (unescapeOthers codes (replace (octal c) [c] t)).length = _ ↔ _
    constructor
    · intro h
      have hnone := hsame.mp (by omega)
      have hkept := (replace_eq_self_iff (two_le_length_octal c) c t).mpr hnone
      rw [hkept] at h
      exact ⟨hnone, (ih t).mp h⟩
    · rintro ⟨hnone, hrest⟩
      rw [(replace_eq_self_iff (two_le_length_octal c) c t).mpr hnone]
      exact (ih t).mpr hrest

theorem unescapeOthers_eq_self_iff (codes t : List Char) :
    unescapeOthers codes t = t ↔ ∀ c ∈ codes, ¬octal c <:+: t := by
  refine ⟨fun h => (length_unescapeOthers_eq_iff codes t).mp (congrArg List.length h), fun h => ?_⟩
  induction codes with
  | nil => rfl
  | cons c codes ih =>
    obtain ⟨hnone, hrest⟩ := List.forall_mem_cons.mp h
    show unescapeOthers codes (replace (octal c) [c] t) = t
    rw [(replace_eq_self_iff (two_le_length_octal c) c t).mpr hnone]
    exact ih hrest

/-- The decoder undoes the encoder on the texts in which nothing looks like an escape. -/
theorem unescape_escape_eq_self_iff {codes : List Char} (h : Low codes) (hnodup : codes.Nodup)
    (t : List Char) : unescape codes (escape ('\\' :: codes) t) = t ↔
      ∀ c ∈ codes, ¬octal c <:+: t := by
  rw [unescape_escape h hnodup, unescapeOthers_eq_self_iff]

/-- Digits that are found after a replacement were there before it. -/
theorem prefix_of_prefix_replace (hc : c.toNat < 48) {d : List Char}
    (hd : ∀ x ∈ d, 48 ≤ x.toNat) (h : d <+: replace (octal c) [c] t) : d <+: t := by
  induction d generalizing t with
  | nil => exact List.nil_prefix
  | cons x d ih =>
    obtain ⟨hx, hd⟩ := List.forall_mem_cons.mp hd
    by_cases hfound : octal c <+: t
    · obtain ⟨u, rfl⟩ := hfound
      rw [replace_append (octal_ne_nil c), List.singleton_append, List.cons_prefix_cons] at h
      rw [h.1] at hx
      omega
    · cases t with
      | nil => exact h
      | cons y t =>
        rw [replace_cons hfound, List.cons_prefix_cons] at h
        rw [List.cons_prefix_cons]
        exact ⟨h.1, ih hd h.2⟩

/-- An escape that is found after a replacement was there before it, and is another one. -/
theorem octal_infix_of_replace (hc : c.toNat < 48) (a : Char) (t : List Char)
    (h : octal a <:+: replace (octal c) [c] t) : octal a <:+: t ∧ octal a ≠ octal c := by
  have hhead : c ≠ '\\' := by
    rintro rfl
    exact absurd hc (by decide)
  induction t using replace_induction (octal c) (octal_ne_nil c) with
  | nil => exact absurd (List.eq_nil_of_infix_nil h) (octal_ne_nil a)
  | found t ih =>
    rw [replace_append (octal_ne_nil c), List.singleton_append, List.infix_cons_iff] at h
    rcases h with h | h
    · exact absurd (List.cons_prefix_cons.mp h).1.symm hhead
    · obtain ⟨hbefore, hne⟩ := ih h
      exact ⟨hbefore.trans (List.suffix_append _ t).isInfix, hne⟩
  | kept x t hx ih =>
    rw [replace_cons hx, List.infix_cons_iff] at h
    rcases h with h | h
    · rw [octal, List.cons_prefix_cons] at h
      have hdigits : [digit a 2, digit a 1, digit a 0] <+: t := by
        refine prefix_of_prefix_replace hc (fun y hy => ?_) h.2
        simp only [List.mem_cons, List.not_mem_nil, or_false] at hy
        rcases hy with rfl | rfl | rfl <;> exact (digit_bounds a _).1
      have hbefore : octal a <+: x :: t := List.cons_prefix_cons.mpr ⟨h.1, hdigits⟩
      refine ⟨hbefore.isInfix, fun hsame => hx ?_⟩
      rw [← hsame]
      exact hbefore
    · obtain ⟨hbefore, hne⟩ := ih h
      exact ⟨hbefore.trans (List.suffix_cons x t).isInfix, hne⟩

theorem octal_infix_of_unescapeOthers {codes : List Char} (h : Low codes) (a : Char) (t : List Char)
    (ha : octal a <:+: unescapeOthers codes t) : octal a <:+: t ∧ ∀ c ∈ codes, octal a ≠ octal c := by
  induction codes generalizing t with
  | nil => exact ⟨ha, fun c hc => absurd hc List.not_mem_nil⟩
  | cons c codes ih =>
    obtain ⟨hc, hcodes⟩ := List.forall_mem_cons.mp h
    obtain ⟨hbefore, hne⟩ := ih hcodes _ ha
    obtain ⟨hfirst, hother⟩ := octal_infix_of_replace hc a t hbefore
    exact ⟨hfirst, List.forall_mem_cons.mpr ⟨hother, hne⟩⟩

/-- No escape is left in a decoded text. -/
theorem not_octal_infix_unescape {codes : List Char} (h : Low codes) {c : Char} (hc : c ∈ codes)
    (t : List Char) : ¬octal c <:+: unescape codes t :=
  fun hleft => (octal_infix_of_unescapeOthers h c _ hleft).2 c hc rfl

theorem mem_unescapeOthers {codes : List Char} {x : Char} (hx : x ∈ unescapeOthers codes t) :
    x ∈ codes ∨ x ∈ t := by
  induction codes generalizing t with
  | nil => exact .inr hx
  | cons c codes ih =>
    rcases ih hx with h | h
    · exact .inl (List.mem_cons_of_mem c h)
    · rcases mem_replace (octal_ne_nil c) h with h | h
      · rw [List.mem_singleton.mp h]
        exact .inl List.mem_cons_self
      · exact .inr h

theorem mem_unescape {codes : List Char} {x : Char} (hx : x ∈ unescape codes t) :
    x ∈ '\\' :: codes ∨ x ∈ t := by
  rcases mem_unescapeOthers hx with h | h
  · exact .inl (List.mem_cons_of_mem _ h)
  · rcases mem_replace (octal_ne_nil _) h with h | h
    · rw [List.mem_singleton.mp h]
      exact .inl List.mem_cons_self
    · exact .inr h

theorem head?_unescapeOthers {codes : List Char} {x : Char}
    (hx : (unescapeOthers codes t).head? = some x) : x ∈ codes ∨ t.head? = some x := by
  induction codes generalizing t with
  | nil => exact .inr hx
  | cons c codes ih =>
    rcases ih hx with h | h
    · exact .inl (List.mem_cons_of_mem c h)
    · rcases head?_replace (octal_ne_nil c) h with rfl | h
      · exact .inl List.mem_cons_self
      · exact .inr h

theorem head?_unescape {codes : List Char} {x : Char} (hx : (unescape codes t).head? = some x) :
    x ∈ '\\' :: codes ∨ t.head? = some x := by
  rcases head?_unescapeOthers hx with h | h
  · exact .inl (List.mem_cons_of_mem _ h)
  · rcases head?_replace (octal_ne_nil _) h with rfl | h
    · exact .inl List.mem_cons_self
    · exact .inr h

theorem unescape_ne_nil {codes : List Char} (ht : t ≠ []) : unescape codes t ≠ [] := by
  have hall : ∀ (codes t : List Char), t ≠ [] → unescapeOthers codes t ≠ [] := by
    intro codes
    induction codes with
    | nil => exact fun t ht => ht
    | cons c codes ih => exact fun t ht => ih _ (replace_ne_nil (octal_ne_nil c) ht)
  exact hall codes _ (replace_ne_nil (octal_ne_nil _) ht)

end Unescaping

end StorageManager.Lib.Octal
