import StorageManager.Lib.JsonText

/-!
# Parsed documents

A parser keeps the fields of an object in a map: their order is that of their names, and a
repeated name keeps its last value. Two documents are equal when these forms are.
-/

namespace StorageManager.Lib.Json

set_option autoImplicit false

instance : DecidableEq Value := fun v w =>
  decidable_of_iff (toBytes v = toBytes w) toBytes_inj

/-- A field enters the map unless a later one of its name is there. -/
def insertField (name : String) (v : Value) : List (String × Value) → List (String × Value)
  | [] => [(name, v)]
  | (other, w) :: rest =>
    if name < other then (name, v) :: (other, w) :: rest
    else if name = other then (other, w) :: rest
    else (other, w) :: insertField name v rest

mutual

/-- The document a parser makes of the text of a value. -/
def document : Value → Value
  | .arr items => .arr (documentItems items)
  | .obj fields => .obj (documentFields fields)
  | .null => .null
  | .bool b => .bool b
  | .num n => .num n
  | .str s => .str s

def documentItems : List Value → List Value
  | [] => []
  | v :: rest => document v :: documentItems rest

def documentFields : List (String × Value) → List (String × Value)
  | [] => []
  | (name, v) :: rest => insertField name (document v) (documentFields rest)

end

section Fields

theorem lookup_insertField_of_ne {name other : String} {v : Value}
    {fields : List (String × Value)} (h : other ≠ name) :
    (insertField name v fields).lookup other = fields.lookup other := by
  have hother : (other == name) = false := beq_eq_false_iff_ne.mpr h
  induction fields with
  | nil => rw [insertField, List.lookup_cons, hother]
  | cons field rest ih =>
    obtain ⟨key, w⟩ := field
    unfold insertField
    split_ifs
    · rw [List.lookup_cons, hother]
    · rfl
    · rw [List.lookup_cons, List.lookup_cons, ih]

theorem lookup_insertField_self {name : String} {v : Value} {fields : List (String × Value)}
    (h : name ∉ fields.map Prod.fst) : (insertField name v fields).lookup name = some v := by
  induction fields with
  | nil => rw [insertField, List.lookup_cons, beq_self_eq_true]
  | cons field rest ih =>
    obtain ⟨key, w⟩ := field
    obtain ⟨hkey, hrest⟩ := not_or.mp fun hmem => h (List.mem_cons.mpr hmem)
    unfold insertField
    split_ifs
    · rw [List.lookup_cons, beq_self_eq_true]
    · rw [List.lookup_cons, beq_eq_false_iff_ne.mpr hkey, ih hrest]

theorem mem_names_insertField {name other : String} {v : Value} {fields : List (String × Value)}
    (h : other ∈ (insertField name v fields).map Prod.fst) :
    other = name ∨ other ∈ fields.map Prod.fst := by
  induction fields with
  | nil => exact .inl (List.mem_singleton.mp h)
  | cons field rest ih =>
    obtain ⟨key, w⟩ := field
    unfold insertField at h
    split_ifs at h
    · exact List.mem_cons.mp h
    · exact .inr h
    · rcases List.mem_cons.mp h with hkey | hrest
      · exact .inr (hkey ▸ List.mem_cons_self)
      · exact (ih hrest).imp_right (List.mem_cons_of_mem key)

theorem mem_names_documentFields {name : String} {fields : List (String × Value)}
    (h : name ∈ (documentFields fields).map Prod.fst) : name ∈ fields.map Prod.fst := by
  induction fields with
  | nil => exact h
  | cons field rest ih =>
    obtain ⟨key, v⟩ := field
    rw [documentFields] at h
    rcases mem_names_insertField h with hkey | hrest
    · exact hkey ▸ List.mem_cons_self
    · exact List.mem_cons_of_mem _ (ih hrest)

/-- A parsed object has the fields that were written. -/
theorem lookup_documentFields {fields : List (String × Value)}
    (hnodup : (fields.map Prod.fst).Nodup) (name : String) :
    (documentFields fields).lookup name = (fields.lookup name).map document := by
  induction fields with
  | nil => rfl
  | cons field rest ih =>
    obtain ⟨key, v⟩ := field
    obtain ⟨hkey, hrest⟩ := List.nodup_cons.mp hnodup
    rw [documentFields, List.lookup_cons]
    by_cases hname : name = key
    · rw [hname, beq_self_eq_true]
      exact lookup_insertField_self fun h => hkey (mem_names_documentFields h)
    · rw [lookup_insertField_of_ne hname, beq_eq_false_iff_ne.mpr hname]
      exact ih hrest

end Fields

section Reading

/-- A type whose elements are read back from their documents. -/
class FromDocument (α : Type) [ToJson α] where
  fromDocument : Value → Option α
  fromDocument_document : ∀ a, fromDocument (document (toJson a)) = some a

export FromDocument (fromDocument)

attribute [simp] FromDocument.fromDocument_document

/-- What is read back from its document is determined by its value. -/
theorem FromDocument.toJson_inj {α : Type} [ToJson α] [FromDocument α] {a b : α}
    (h : toJson a = toJson b) : a = b := by
  have hread := FromDocument.fromDocument_document a
  rw [h, FromDocument.fromDocument_document] at hread
  exact (Option.some.inj hread).symm

instance : FromDocument Nat where
  fromDocument
    | .num (.ofNat n) => some n
    | _ => none
  fromDocument_document _ := rfl

instance : FromDocument String where
  fromDocument
    | .str s => some s
    | _ => none
  fromDocument_document _ := rfl

theorem document_eq_null {v : Value} (h : document v = .null) : v = .null := by
  cases v with
  | null => rfl
  | _ =>
    rw [document] at h
    cases h

instance {α : Type} [ToJson α] [FromDocument α] [NeverNull α] : FromDocument (Option α) where
  fromDocument
    | .null => some none
    | v => (fromDocument v).map some
  fromDocument_document
    | none => rfl
    | some a => by
      have hread := FromDocument.fromDocument_document a
      split
      · rename_i hnull
        exact absurd (document_eq_null hnull) (NeverNull.ne_null a)
      · exact congrArg (Option.map some) hread

/-- A field of a parsed object. -/
def readField {α : Type} [ToJson α] [FromDocument α] (v : Value) (name : String) : Option α :=
  match v with
  | .obj fields => (fields.lookup name).bind fromDocument
  | _ => none

theorem readField_document {α : Type} [ToJson α] [FromDocument α]
    {fields : List (String × Value)} (hnodup : (fields.map Prod.fst).Nodup) (name : String) :
    (readField (document (.obj fields)) name : Option α) =
      (fields.lookup name).bind fun v => fromDocument (document v) := by
  rw [document, readField, lookup_documentFields hnodup]
  cases fields.lookup name <;> rfl

open Classical in
/-- The parser that knows the text of every value. -/
noncomputable def parse (bytes : List UInt8) : Except String Value :=
  if h : ∃ v, toBytes v = bytes then .ok (document h.choose) else .error "expected value"

theorem parse_toBytes (v : Value) : parse (toBytes v) = .ok (document v) := by
  have hex : ∃ w, toBytes w = toBytes v := ⟨v, rfl⟩
  rw [parse, dif_pos hex, toBytes_inj.mp hex.choose_spec]

end Reading

end StorageManager.Lib.Json
