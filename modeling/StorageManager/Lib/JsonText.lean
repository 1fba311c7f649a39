import StorageManager.Lib.Json

/-!
# The compact text determines the value

No text of a value is the beginning of another one, as long as a number is not followed
by a digit. So a reader that takes every text back to its value exists.
-/

namespace StorageManager.Lib.Json

set_option autoImplicit false

/-- What may follow the text of a value. -/
def Follows (r : List Char) : Prop := ∀ c ∈ r.head?, c.isDigit = false

theorem follows_cons {c : Char} {r : List Char} (hc : c.isDigit = false) : Follows (c :: r) := by
  intro c' hc'
  rw [List.head?_cons, Option.mem_some_iff] at hc'
  rw [← hc']
  exact hc

section Strings

/-- The value of a hexadecimal digit. -/
def hexValue (c : Char) : Nat := "0123456789abcdef".toList.idxOf c

/-- The first character of an escaped text. -/
def readChar : List Char → Option (Char × List Char)
  | '\\' :: 'b' :: r => some (Char.ofNat 0x08, r)
  | '\\' :: 'f' :: r => some (Char.ofNat 0x0c, r)
  | '\\' :: 'n' :: r => some ('\n', r)
  | '\\' :: 'r' :: r => some ('\r', r)
  | '\\' :: 't' :: r => some ('\t', r)
  | '\\' :: 'u' :: _ :: _ :: a :: b :: r => some (Char.ofNat (16 * hexValue a + hexValue b), r)
  | '\\' :: c :: r => some (c, r)
  | c :: r => some (c, r)
  | [] => none

theorem hexValue_lowerHexDigit : ∀ n < 16, hexValue (lowerHexDigit n) = n := by decide

theorem eq_ofNat_of_toNat {c : Char} {n : Nat} (h : c.toNat = n) : c = Char.ofNat n := by
  rw [← h, Char.ofNat_toNat]

theorem readChar_plain {c : Char} {r : List Char} (hc : c ≠ '\\') :
    readChar (c :: r) = some (c, r) := by
  unfold readChar
  split
  case h_8 heq =>
    obtain ⟨hchar, hrest⟩ := List.cons.inj heq
    rw [hchar, hrest]
  case h_9 heq => cases heq
  all_goals
    rename_i heq
    exact absurd (List.cons.inj heq).1 hc

theorem readChar_escapeChar (c : Char) (r : List Char) :
    readChar (escapeChar c ++ r) = some (c, r) := by
  unfold escapeChar
  split_ifs with hquote hslash hback hfeed hline hreturn htab hcontrol
  · rw [hquote]
    rfl
  · rw [hslash]
    rfl
  · rw [eq_ofNat_of_toNat hback]
    rfl
  · rw [eq_ofNat_of_toNat hfeed]
    rfl
  · rw [hline]
    rfl
  · rw [hreturn]
    rfl
  · rw [htab]
    rfl
  · show some (Char.ofNat (16 * hexValue (lowerHexDigit (c.toNat / 16)) +
      hexValue (lowerHexDigit (c.toNat % 16))), r) = some (c, r)
    rw [hexValue_lowerHexDigit _ (by omega), hexValue_lowerHexDigit _ (by omega),
      Nat.div_add_mod, Char.ofNat_toNat]
  · exact readChar_plain hslash

theorem escapeChar_opens (c : Char) : ∃ d ds, escapeChar c = d :: ds ∧ d ≠ '"' := by
  unfold escapeChar
  split_ifs with hquote
  case neg => exact ⟨c, [], rfl, hquote⟩
  all_goals exact ⟨_, _, rfl, by decide⟩

theorem renderChars_inj {s t r r' : List Char}
    (h : s.flatMap escapeChar ++ '"' :: r = t.flatMap escapeChar ++ '"' :: r') :
    s = t ∧ r = r' := by
  induction s generalizing t with
  | nil =>
    cases t with
    | nil => exact ⟨rfl, (List.cons.inj h).2⟩
    | cons d t =>
      obtain ⟨e, es, hescape, hquote⟩ := escapeChar_opens d
      rw [List.flatMap_cons, hescape] at h
      exact absurd (List.cons.inj h).1.symm hquote
  | cons c s ih =>
    cases t with
    | nil =>
      obtain ⟨e, es, hescape, hquote⟩ := escapeChar_opens c
      rw [List.flatMap_cons, hescape] at h
      exact absurd (List.cons.inj h).1 hquote
    | cons d t =>
      rw [List.flatMap_cons, List.flatMap_cons, List.append_assoc, List.append_assoc] at h
      have hread := congrArg readChar h
      rw [readChar_escapeChar, readChar_escapeChar] at hread
      obtain ⟨hchar, hrest⟩ := Prod.mk.inj (Option.some.inj hread)
      obtain ⟨hchars, hafter⟩ := ih hrest
      exact ⟨by rw [hchar, hchars], hafter⟩

theorem renderString_inj {s t : String} {r r' : List Char}
    (h : renderString s ++ r = renderString t ++ r') : s = t ∧ r = r' := by
  unfold renderString at h
  rw [List.append_assoc, List.append_assoc] at h
  obtain ⟨hchars, hrest⟩ := renderChars_inj (List.cons.inj h).2
  exact ⟨String.toList_inj.mp hchars, hrest⟩

end Strings

section Numbers

theorem digits_inj {m n : Nat} {r r' : List Char} (hr : Follows r) (hr' : Follows r')
    (h : Nat.toDigits 10 m ++ r = Nat.toDigits 10 n ++ r') : m = n ∧ r = r' := by
  have hstops : ∀ (k : Nat) (r : List Char), Follows r →
      (Nat.toDigits 10 k ++ r).takeWhile Char.isDigit = Nat.toDigits 10 k := by
    intro k r hr
    have hdigits : ∀ c ∈ Nat.toDigits 10 k, c.isDigit = true := fun c hc =>
      Nat.isDigit_of_mem_toDigits (by decide) (by decide) hc
    have hrest : r.takeWhile Char.isDigit = [] := by
      cases r with
      | nil => rfl
      | cons c r => rw [List.takeWhile_cons, hr c (by simp)]; rfl
    rw [List.takeWhile_append_of_pos hdigits, hrest, List.append_nil]
  have hdigits := congrArg (List.takeWhile Char.isDigit) h
  rw [hstops m r hr, hstops n r' hr'] at hdigits
  rw [hdigits] at h
  refine ⟨?_, List.append_cancel_left h⟩
  rw [← Nat.ofDigitChars_ten_toDigits (n := m), hdigits, Nat.ofDigitChars_ten_toDigits]

theorem toList_toString (n : Int) :
    (toString n).toList =
      if 0 ≤ n then Nat.toDigits 10 n.toNat else '-' :: Nat.toDigits 10 (-n).toNat := by
  rw [Int.toString_eq_repr, Int.repr_eq_if]
  by_cases hn : 0 ≤ n
  · rw [if_pos hn, if_pos hn, Nat.toList_repr]
  · rw [if_neg hn, if_neg hn, String.toList_append, Nat.toList_repr]
    rfl

theorem digits_opens (n : Nat) :
    ∃ c cs, Nat.toDigits 10 n = c :: cs ∧ c.isDigit = true := by
  obtain ⟨c, cs, hdigits⟩ := List.exists_cons_of_ne_nil (Nat.toDigits_ne_nil (n := n) (b := 10))
  refine ⟨c, cs, hdigits, ?_⟩
  have hmem : c ∈ Nat.toDigits 10 n := by
    rw [hdigits]
    exact List.mem_cons_self
  exact Nat.isDigit_of_mem_toDigits (by decide) (by decide) hmem

theorem number_inj {m n : Int} {r r' : List Char} (hr : Follows r) (hr' : Follows r')
    (h : (toString m).toList ++ r = (toString n).toList ++ r') : m = n ∧ r = r' := by
  rw [toList_toString, toList_toString] at h
  by_cases hm : 0 ≤ m <;> by_cases hn : 0 ≤ n
  · rw [if_pos hm, if_pos hn] at h
    obtain ⟨hvalue, hrest⟩ := digits_inj hr hr' h
    exact ⟨by omega, hrest⟩
  · rw [if_pos hm, if_neg hn] at h
    obtain ⟨c, cs, hdigits, hc⟩ := digits_opens m.toNat
    rw [hdigits] at h
    rw [(List.cons.inj h).1] at hc
    exact absurd hc (by decide)
  · rw [if_neg hm, if_pos hn] at h
    obtain ⟨c, cs, hdigits, hc⟩ := digits_opens n.toNat
    rw [hdigits] at h
    rw [← (List.cons.inj h).1] at hc
    exact absurd hc (by decide)
  · rw [if_neg hm, if_neg hn] at h
    obtain ⟨hvalue, hrest⟩ := digits_inj hr hr' (List.cons.inj h).2
    exact ⟨by omega, hrest⟩

end Numbers

section Values

/-- The kinds of values that their first characters tell apart. -/
def kind : Value → Nat
  | .null => 0
  | .bool true => 1
  | .bool false => 2
  | .str _ => 3
  | .arr _ => 4
  | .obj _ => 5
  | .num _ => 6

def kindOf (c : Char) : Nat :=
  if c = 'n' then 0
  else if c = 't' then 1
  else if c = 'f' then 2
  else if c = '"' then 3
  else if c = '[' then 4
  else if c = Char.ofNat 0x7b then 5
  else if c = '-' ∨ c.isDigit then 6
  else 7

theorem kindOf_digit {c : Char} (hc : c.isDigit = true) : kindOf c = 6 := by
  unfold kindOf
  split_ifs with h h h h h h h
  all_goals first
    | rfl
    | exact absurd (.inr hc) h
    | (rw [h] at hc; exact absurd hc (by decide))

theorem render_opens (v : Value) : ∃ c cs, render v = c :: cs ∧ kindOf c = kind v := by
  cases v with
  | null => exact ⟨_, _, by rw [render]; rfl, by decide⟩
  | bool b => cases b <;> exact ⟨_, _, by rw [render]; rfl, by decide⟩
  | num n =>
    rw [render, toList_toString]
    by_cases hn : 0 ≤ n
    · rw [if_pos hn]
      obtain ⟨c, cs, hdigits, hc⟩ := digits_opens n.toNat
      exact ⟨c, cs, hdigits, kindOf_digit hc⟩
    · rw [if_neg hn]
      exact ⟨_, _, rfl, rfl⟩
  | str s => exact ⟨_, _, by rw [render, renderString]; rfl, rfl⟩
  | arr items => exact ⟨_, _, by rw [render]; rfl, rfl⟩
  | obj fields => exact ⟨_, _, by rw [render]; rfl, rfl⟩

theorem render_ne_bracket {v : Value} {r r' : List Char} : render v ++ r ≠ ']' :: r' := by
  intro h
  obtain ⟨c, cs, hv, hc⟩ := render_opens v
  rw [hv] at h
  rw [(List.cons.inj h).1] at hc
  have hseven : kindOf ']' = 7 := by decide
  rw [hseven] at hc
  cases v with
  | bool b => cases b <;> cases hc
  | _ => cases hc

theorem kind_eq {v w : Value} {r r' : List Char} (h : render v ++ r = render w ++ r') :
    kind v = kind w := by
  obtain ⟨c, cs, hv, hc⟩ := render_opens v
  obtain ⟨d, ds, hw, hd⟩ := render_opens w
  rw [hv, hw] at h
  rw [← hc, ← hd, (List.cons.inj h).1]

/-- The text of the items after the first one. -/
def moreItems : List Value → List Char
  | [] => []
  | v :: rest => ',' :: renderItems (v :: rest)

theorem renderItems_cons (v : Value) (rest : List Value) :
    renderItems (v :: rest) = render v ++ moreItems rest := by
  cases rest with
  | nil => rw [renderItems, moreItems, List.append_nil]
  | cons w rest => rw [renderItems, moreItems]

def moreFields : List (String × Value) → List Char
  | [] => []
  | f :: rest => ',' :: renderFields (f :: rest)

theorem renderFields_cons (k : String) (v : Value) (rest : List (String × Value)) :
    renderFields ((k, v) :: rest) = renderString k ++ ':' :: (render v ++ moreFields rest) := by
  cases rest with
  | nil => rw [renderFields, moreFields, List.append_nil]
  | cons f rest =>
    rw [renderFields, moreFields, List.append_assoc]
    · rfl

theorem follows_more {rest : List Value} {r : List Char} : Follows (moreItems rest ++ ']' :: r) := by
  cases rest <;> exact follows_cons (by decide)

theorem follows_moreFields {rest : List (String × Value)} {r : List Char} :
    Follows (moreFields rest ++ Char.ofNat 0x7d :: r) := by
  cases rest <;> exact follows_cons (by decide)

mutual

/-- No text of a value goes on as another one. -/
theorem render_inj : ∀ (v w : Value) {r r' : List Char}, Follows r → Follows r' →
    render v ++ r = render w ++ r' → v = w ∧ r = r'
  | .null, w, r, r', _, _, h => by
    cases w with
    | null => exact ⟨rfl, List.append_cancel_left h⟩
    | bool b => cases b <;> cases kind_eq h
    | _ => cases kind_eq h
  | .bool a, w, r, r', _, _, h => by
    cases w with
    | bool b =>
      cases a <;> cases b <;> first
        | exact ⟨rfl, List.append_cancel_left h⟩
        | cases kind_eq h
    | _ => cases a <;> cases kind_eq h
  | .num m, w, r, r', hr, hr', h => by
    cases w with
    | num n =>
      rw [render, render] at h
      obtain ⟨hvalue, hrest⟩ := number_inj hr hr' h
      exact ⟨by rw [hvalue], hrest⟩
    | bool b => cases b <;> cases kind_eq h
    | _ => cases kind_eq h
  | .str s, w, r, r', _, _, h => by
    cases w with
    | str t =>
      rw [render, render] at h
      obtain ⟨hvalue, hrest⟩ := renderString_inj h
      exact ⟨by rw [hvalue], hrest⟩
    | bool b => cases b <;> cases kind_eq h
    | _ => cases kind_eq h
  | .arr vs, w, r, r', _, _, h => by
    cases w with
    | arr ws =>
      rw [render, render] at h
      simp only [List.cons_append, List.append_assoc, List.nil_append] at h
      obtain ⟨hvalues, hrest⟩ := renderItems_inj vs ws (List.cons.inj h).2
      exact ⟨by rw [hvalues], hrest⟩
    | bool b => cases b <;> cases kind_eq h
    | _ => cases kind_eq h
  | .obj fs, w, r, r', _, _, h => by
    cases w with
    | obj gs =>
      rw [render, render, List.append_assoc, List.append_assoc, List.append_assoc,
        List.append_assoc] at h
      obtain ⟨hfields, hrest⟩ := renderFields_inj fs gs (List.append_cancel_left h)
      exact ⟨by rw [hfields], hrest⟩
    | bool b => cases b <;> cases kind_eq h
    | _ => cases kind_eq h

theorem renderItems_inj : ∀ (vs ws : List Value) {r r' : List Char},
    renderItems vs ++ ']' :: r = renderItems ws ++ ']' :: r' → vs = ws ∧ r = r'
  | [], [], r, r', h => ⟨rfl, (List.cons.inj (List.append_cancel_left h)).2⟩
  | [], w :: ws, r, r', h => by
    rw [renderItems_cons, List.append_assoc] at h
    exact absurd h.symm render_ne_bracket
  | v :: vs, [], r, r', h => by
    rw [renderItems_cons, List.append_assoc] at h
    exact absurd h render_ne_bracket
  | v :: vs, w :: ws, r, r', h => by
    rw [renderItems_cons, renderItems_cons, List.append_assoc, List.append_assoc] at h
    obtain ⟨hvalue, hmore⟩ := render_inj v w follows_more follows_more h
    cases vs with
    | nil =>
      cases ws with
      | nil => exact ⟨by rw [hvalue], (List.cons.inj hmore).2⟩
      | cons w' ws => cases (List.cons.inj hmore).1
    | cons v' vs =>
      cases ws with
      | nil => cases (List.cons.inj hmore).1
      | cons w' ws =>
        obtain ⟨hvalues, hrest⟩ := renderItems_inj (v' :: vs) (w' :: ws) (List.cons.inj hmore).2
        exact ⟨by rw [hvalue, hvalues], hrest⟩

theorem renderFields_inj : ∀ (fs gs : List (String × Value)) {r r' : List Char},
    renderFields fs ++ Char.ofNat 0x7d :: r = renderFields gs ++ Char.ofNat 0x7d :: r' →
      fs = gs ∧ r = r'
  | [], [], r, r', h => ⟨rfl, (List.cons.inj (List.append_cancel_left h)).2⟩
  | [], (k, v) :: gs, r, r', h => by
    rw [renderFields_cons] at h
    cases (List.cons.inj h).1
  | (k, v) :: fs, [], r, r', h => by
    rw [renderFields_cons] at h
    cases (List.cons.inj h).1
  | (k, v) :: fs, (l, w) :: gs, r, r', h => by
    rw [renderFields_cons, renderFields_cons, List.append_assoc, List.append_assoc] at h
    obtain ⟨hkey, hfield⟩ := renderString_inj h
    simp only [List.cons_append, List.append_assoc] at hfield
    obtain ⟨hvalue, hmore⟩ := render_inj v w follows_moreFields follows_moreFields
      (List.cons.inj hfield).2
    cases fs with
    | nil =>
      cases gs with
      | nil => exact ⟨by rw [hkey, hvalue], (List.cons.inj hmore).2⟩
      | cons g gs => cases (List.cons.inj hmore).1
    | cons f fs =>
      cases gs with
      | nil => cases (List.cons.inj hmore).1
      | cons g gs =>
        obtain ⟨hfields, hrest⟩ := renderFields_inj (f :: fs) (g :: gs) (List.cons.inj hmore).2
        exact ⟨by rw [hkey, hvalue, hfields], hrest⟩

end

theorem toBytes_inj {v w : Value} : toBytes v = toBytes w ↔ v = w := by
  constructor
  · intro h
    have hbytes : (String.ofList (render v)).toUTF8 = (String.ofList (render w)).toUTF8 :=
      ByteArray.ext (Array.toList_inj.mp h)
    have htext := congrArg String.toList (String.toByteArray_inj.mp hbytes)
    rw [String.toList_ofList, String.toList_ofList] at htext
    have hnil : Follows [] := fun c hc => by cases hc
    refine (render_inj v w hnil hnil ?_).1
    rw [htext]
  · rintro rfl
    rfl

end Values

section Encodings

variable {α : Type} [ToJson α]

/-- The value of an element determines the element. -/
class LawfulToJson (α : Type) [ToJson α] : Prop where
  inj : ∀ {a b : α}, toJson a = toJson b → a = b

/-- No element is written as nothing. -/
class NeverNull (α : Type) [ToJson α] : Prop where
  ne_null : ∀ a : α, toJson a ≠ .null

instance : LawfulToJson Nat := ⟨fun h => Int.ofNat.inj (Value.num.inj h)⟩
instance : LawfulToJson Int := ⟨Value.num.inj⟩
instance : LawfulToJson Bool := ⟨Value.bool.inj⟩
instance : LawfulToJson String := ⟨Value.str.inj⟩
instance : NeverNull Nat := ⟨fun _ h => by cases h⟩
instance : NeverNull Bool := ⟨fun _ h => by cases h⟩
instance : NeverNull String := ⟨fun _ h => by cases h⟩

theorem toJson_list_inj [LawfulToJson α] {as bs : List α} (h : as.map toJson = bs.map toJson) :
    as = bs := List.map_injective_iff.mpr (fun _ _ => LawfulToJson.inj) h

instance [LawfulToJson α] : LawfulToJson (List α) := ⟨fun h => toJson_list_inj (Value.arr.inj h)⟩

instance [LawfulToJson α] [NeverNull α] : LawfulToJson (Option α) where
  inj {a b} h := by
    cases a with
    | none =>
      cases b with
      | none => rfl
      | some b => exact absurd h.symm (NeverNull.ne_null b)
    | some a =>
      cases b with
      | none => exact absurd h (NeverNull.ne_null a)
      | some b => exact congrArg some (LawfulToJson.inj h)

/-- The field that follows tells whether an optional field was left out. -/
theorem optionalField_inj [LawfulToJson α] {name : String} {a b : Option α}
    {r s : List (String × Value)} (hr : name ∉ r.map Prod.fst) (hs : name ∉ s.map Prod.fst)
    (h : optionalField name a ++ r = optionalField name b ++ s) : a = b ∧ r = s := by
  cases a with
  | none =>
    cases b with
    | none => exact ⟨rfl, h⟩
    | some b =>
      rw [show r = (name, toJson b) :: s from h] at hr
      simp at hr
  | some a =>
    cases b with
    | none =>
      rw [show s = (name, toJson a) :: r from h.symm] at hs
      simp at hs
    | some b =>
      obtain ⟨hfield, hrest⟩ := List.cons.inj h
      exact ⟨congrArg some (LawfulToJson.inj (Prod.mk.inj hfield).2), hrest⟩

theorem mem_optionalField {name : String} {a : Option α} {f : String}
    (h : f ∈ (optionalField name a).map Prod.fst) : f = name := by
  cases a with
  | none => cases h
  | some a => exact List.mem_singleton.mp h

end Encodings

end StorageManager.Lib.Json
