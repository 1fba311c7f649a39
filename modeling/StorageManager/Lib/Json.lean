import Mathlib.Algebra.GroupWithZero.Nat
import Mathlib.Data.String.Basic

/-!
# JSON values and their compact text

The value tree a serializer writes and the text it writes: no blanks, fields in
the order given, control characters escaped.
-/

namespace StorageManager.Lib.Json

set_option autoImplicit false

inductive Value where
  | null
  | bool (b : Bool)
  | num (n : Int)
  | str (s : String)
  | arr (items : List Value)
  | obj (fields : List (String × Value))

/-- A type with a JSON value for each of its elements. -/
class ToJson (α : Type) where
  toJson : α → Value

export ToJson (toJson)

instance : ToJson Nat := ⟨fun n => .num n⟩
instance : ToJson Int := ⟨.num⟩
instance : ToJson Bool := ⟨.bool⟩
instance : ToJson String := ⟨.str⟩

instance {α : Type} [ToJson α] : ToJson (Option α) :=
  ⟨fun | none => .null | some a => toJson a⟩

instance {α : Type} [ToJson α] : ToJson (List α) := ⟨fun as => .arr (as.map toJson)⟩

/-- A field that is left out when there is nothing to write. -/
def optionalField {α : Type} [ToJson α] (name : String) : Option α → List (String × Value)
  | none => []
  | some a => [(name, toJson a)]

def lowerHexDigit (n : Nat) : Char := "0123456789abcdef".toList.getD n '0'

def escapeChar (c : Char) : List Char :=
  if c = '"' then ['\\', '"']
  else if c = '\\' then ['\\', '\\']
  else if c.toNat = 0x08 then ['\\', 'b']
  else if c.toNat = 0x0c then ['\\', 'f']
  else if c = '\n' then ['\\', 'n']
  else if c = '\r' then ['\\', 'r']
  else if c = '\t' then ['\\', 't']
  else if c.toNat < 0x20 then
    "\\u00".toList ++ [lowerHexDigit (c.toNat / 16), lowerHexDigit (c.toNat % 16)]
  else [c]

def renderString (s : String) : List Char := '"' :: s.toList.flatMap escapeChar ++ ['"']

mutual

/-- The compact text of a value. -/
def render : Value → List Char
  | .null => "null".toList
  | .bool true => "true".toList
  | .bool false => "false".toList
  | .num n => (toString n).toList
  | .str s => renderString s
  | .arr items => '[' :: renderItems items ++ [']']
  | .obj fields => "\x7b".toList ++ renderFields fields ++ "\x7d".toList

def renderItems : List Value → List Char
  | [] => []
  | [v] => render v
  | v :: w :: rest => render v ++ ',' :: renderItems (w :: rest)

def renderFields : List (String × Value) → List Char
  | [] => []
  | [(k, v)] => renderString k ++ ':' :: render v
  | (k, v) :: f :: rest => renderString k ++ ':' :: render v ++ ',' :: renderFields (f :: rest)

end

/-- The bytes of the compact text. -/
def toBytes (v : Value) : List UInt8 := (String.ofList (render v)).toUTF8.data.toList

/-- Space for a string: six bytes for each of its bytes, and the quotes. -/
def stringBound (s : String) : Nat := 6 * s.utf8ByteSize + 2

mutual

/-- Space that is enough for the compact text. -/
def byteBound : Value → Nat
  | .null => 4
  | .bool _ => 5
  | .num n => (toString n).utf8ByteSize
  | .str s => stringBound s
  | .arr items => itemsBound items + 2
  | .obj fields => fieldsBound fields + 2

def itemsBound : List Value → Nat
  | [] => 0
  | v :: rest => byteBound v + 1 + itemsBound rest

def fieldsBound : List (String × Value) → Nat
  | [] => 0
  | (k, v) :: rest => stringBound k + byteBound v + 2 + fieldsBound rest

end

theorem itemsBound_append (vs ws : List Value) :
    itemsBound (vs ++ ws) = itemsBound vs + itemsBound ws := by
  induction vs with
  | nil => rw [List.nil_append, itemsBound, Nat.zero_add]
  | cons v vs ih =>
    rw [List.cons_append, itemsBound, itemsBound, ih]
    omega

theorem fieldsBound_append (fs gs : List (String × Value)) :
    fieldsBound (fs ++ gs) = fieldsBound fs + fieldsBound gs := by
  induction fs with
  | nil => rw [List.nil_append, fieldsBound, Nat.zero_add]
  | cons f fs ih =>
    rw [List.cons_append, fieldsBound, fieldsBound, ih]
    omega

private theorem escapeChar_len (c : Char) : String.utf8Len (escapeChar c) ≤ 6 * c.utf8Size := by
  have hpos := c.utf8Size_pos
  have hhex : ∀ n, (lowerHexDigit n).utf8Size = 1 := fun n => by
    have hdigit : ∀ i, i < 17 → ("0123456789abcdef".toList.getD i '0').utf8Size = 1 := by decide
    by_cases hn : n < 17
    · exact hdigit n hn
    · have hlen : "0123456789abcdef".toList.length = 16 := rfl
      have hout : "0123456789abcdef".toList.getD n '0' = '0' := by
        rw [List.getD_eq_getElem?_getD, List.getElem?_eq_none (by omega), Option.getD_none]
      rw [lowerHexDigit, hout]
      rfl
  have htwo : ∀ d : Char, d.utf8Size = 1 → String.utf8Len ['\\', d] = 2 := fun d hd => by
    rw [String.utf8Len_cons, String.utf8Len_cons, String.utf8Len_nil, hd]
    rfl
  unfold escapeChar
  split
  · rw [htwo '"' rfl]; omega
  split
  · rw [htwo '\\' rfl]; omega
  split
  · rw [htwo 'b' rfl]; omega
  split
  · rw [htwo 'f' rfl]; omega
  split
  · rw [htwo 'n' rfl]; omega
  split
  · rw [htwo 'r' rfl]; omega
  split
  · rw [htwo 't' rfl]; omega
  split
  · have hlead : String.utf8Len "\\u00".toList = 4 := rfl
    rw [String.utf8Len_append, hlead, String.utf8Len_cons, String.utf8Len_cons, String.utf8Len_nil,
      hhex, hhex]
    omega
  · rw [String.utf8Len_cons, String.utf8Len_nil]
    omega

private theorem utf8Len_toList (s : String) : String.utf8Len s.toList = s.utf8ByteSize := by
  rw [← String.utf8ByteSize_ofList, String.ofList_toList]

theorem renderString_len (s : String) : String.utf8Len (renderString s) ≤ stringBound s := by
  have escaped : ∀ cs : List Char,
      String.utf8Len (cs.flatMap escapeChar) ≤ 6 * String.utf8Len cs := by
    intro cs
    induction cs with
    | nil => simp
    | cons c cs ih =>
      rw [List.flatMap_cons, String.utf8Len_append, String.utf8Len_cons]
      have := escapeChar_len c
      omega
  have hquote : Char.utf8Size '"' = 1 := rfl
  have := escaped s.toList
  rw [utf8Len_toList] at this
  simp only [renderString, List.cons_append, String.utf8Len_cons, String.utf8Len_append,
    String.utf8Len_nil, stringBound, hquote]
  omega

mutual

theorem render_len : ∀ v : Value, String.utf8Len (render v) ≤ byteBound v
  | .null => by decide
  | .bool true => by decide
  | .bool false => by decide
  | .num n => by rw [render, byteBound, utf8Len_toList]
  | .str s => by
    rw [render, byteBound]
    exact renderString_len s
  | .arr items => by
    have hitems := renderItems_len items
    have hopen : Char.utf8Size '[' = 1 := rfl
    have hclose : Char.utf8Size ']' = 1 := rfl
    simp only [render, byteBound, List.cons_append, String.utf8Len_cons, String.utf8Len_append,
      String.utf8Len_nil, hopen, hclose]
    omega
  | .obj fields => by
    have hfields := renderFields_len fields
    have hopen : String.utf8Len "\x7b".toList = 1 := rfl
    have hclose : String.utf8Len "\x7d".toList = 1 := rfl
    simp only [render, byteBound, String.utf8Len_append, hopen, hclose]
    omega

theorem renderItems_len : ∀ items : List Value,
    String.utf8Len (renderItems items) ≤ itemsBound items
  | [] => by simp [renderItems]
  | [v] => by
    have := render_len v
    simp only [renderItems, itemsBound]
    omega
  | v :: w :: rest => by
    have hv := render_len v
    have hrest := renderItems_len (w :: rest)
    have hcomma : Char.utf8Size ',' = 1 := rfl
    simp only [renderItems, String.utf8Len_append, String.utf8Len_cons, hcomma]
    rw [itemsBound]
    omega

theorem renderFields_len : ∀ fields : List (String × Value),
    String.utf8Len (renderFields fields) ≤ fieldsBound fields
  | [] => by simp [renderFields]
  | [(k, v)] => by
    have hk := renderString_len k
    have hv := render_len v
    have hcolon : Char.utf8Size ':' = 1 := rfl
    simp only [renderFields, fieldsBound, String.utf8Len_append, String.utf8Len_cons, hcolon]
    omega
  | (k, v) :: f :: rest => by
    have hk := renderString_len k
    have hv := render_len v
    have hrest := renderFields_len (f :: rest)
    have hcolon : Char.utf8Size ':' = 1 := rfl
    have hcomma : Char.utf8Size ',' = 1 := rfl
    simp only [renderFields, String.utf8Len_append, String.utf8Len_cons, List.append_assoc,
      List.cons_append, hcolon, hcomma]
    rw [fieldsBound]
    omega

end

theorem toBytes_length (v : Value) : (toBytes v).length = String.utf8Len (render v) := by
  have hsize : (toBytes v).length = (String.ofList (render v)).utf8ByteSize := by
    rw [toBytes, Array.length_toList]
    rfl
  rw [hsize, String.utf8ByteSize_ofList]

/-- A record whose space fits a limit is encoded in at most that many bytes. -/
theorem toBytes_length_le (v : Value) : (toBytes v).length ≤ byteBound v := by
  rw [toBytes_length]
  exact render_len v

/-- A string of which nothing is escaped takes its bytes and the quotes. -/
theorem renderString_len_plain {s : String} (h : ∀ c ∈ s.toList, escapeChar c = [c]) :
    String.utf8Len (renderString s) = s.utf8ByteSize + 2 := by
  have hsame : s.toList.flatMap escapeChar = s.toList := by
    rw [List.flatMap_congr h, List.flatMap_singleton']
  have hquote : Char.utf8Size '"' = 1 := rfl
  rw [renderString, hsame, List.cons_append, String.utf8Len_cons, String.utf8Len_append,
    utf8Len_toList, String.utf8Len_cons, String.utf8Len_nil, hquote]

theorem utf8ByteSize_ofList_ascii {cs : List Char} (h : ∀ c ∈ cs, c.utf8Size = 1) :
    (String.ofList cs).utf8ByteSize = cs.length := by
  rw [String.utf8ByteSize_ofList]
  induction cs with
  | nil => rfl
  | cons c cs ih =>
    rw [String.utf8Len_cons, ih fun d hd => h d (List.mem_cons_of_mem _ hd),
      h c List.mem_cons_self, List.length_cons]

/-- A text padded with one letter takes a byte for each of them. -/
theorem renderString_len_padded {c d : Char} (hc : escapeChar c = [c] ∧ c.utf8Size = 1)
    (hd : escapeChar d = [d] ∧ d.utf8Size = 1) (n : Nat) :
    String.utf8Len (renderString (String.ofList (c :: List.replicate n d))) = n + 3 := by
  have hletters : ∀ x ∈ c :: List.replicate n d, escapeChar x = [x] ∧ x.utf8Size = 1 := by
    intro x hx
    rcases List.mem_cons.mp hx with rfl | hx
    · exact hc
    · rw [List.eq_of_mem_replicate hx]
      exact hd
  have hplain : ∀ x ∈ (String.ofList (c :: List.replicate n d)).toList, escapeChar x = [x] := by
    rw [String.toList_ofList]
    exact fun x hx => (hletters x hx).1
  rw [renderString_len_plain hplain, utf8ByteSize_ofList_ascii fun x hx => (hletters x hx).2,
    List.length_cons, List.length_replicate]

/-- Every field takes its name, its value, a colon and a comma or the closing brace. -/
theorem renderFields_len_eq : ∀ {fields : List (String × Value)}, fields ≠ [] →
    String.utf8Len (renderFields fields) + 1 = (fields.map fun f =>
      String.utf8Len (renderString f.1) + String.utf8Len (render f.2) + 2).sum
  | [], h => absurd rfl h
  | [(k, v)], _ => by
    have hcolon : Char.utf8Size ':' = 1 := rfl
    simp only [renderFields, String.utf8Len_append, String.utf8Len_cons, hcolon, List.map_cons,
      List.map_nil, List.sum_cons, List.sum_nil]
    omega
  | (k, v) :: f :: rest, _ => by
    have hrest := @renderFields_len_eq (f :: rest) (List.cons_ne_nil _ _)
    have hcolon : Char.utf8Size ':' = 1 := rfl
    have hcomma : Char.utf8Size ',' = 1 := rfl
    rw [List.map_cons, List.sum_cons, ← hrest]
    simp only [renderFields, String.utf8Len_append, String.utf8Len_cons, List.append_assoc,
      List.cons_append, hcolon, hcomma]
    omega

theorem toBytes_obj_length {fields : List (String × Value)} (h : fields ≠ []) :
    (toBytes (.obj fields)).length = 1 + (fields.map fun f =>
      String.utf8Len (renderString f.1) + String.utf8Len (render f.2) + 2).sum := by
  have hopen : String.utf8Len "\x7b".toList = 1 := rfl
  have hclose : String.utf8Len "\x7d".toList = 1 := rfl
  rw [toBytes_length, ← renderFields_len_eq h, render, String.utf8Len_append,
    String.utf8Len_append, hopen, hclose]
  omega

example : render (.obj [("a", .arr [.num (-1), .null]), ("b", .str "x\n")]) =
    "\x7b\"a\":[-1,null],\"b\":\"x\\n\"\x7d".toList := by decide

end StorageManager.Lib.Json
