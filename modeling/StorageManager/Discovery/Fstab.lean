import Mathlib.Tactic.IntervalCases
import StorageManager.Core.HostSnapshot
import StorageManager.Core.PartitionType
import StorageManager.Lib.Checks
import StorageManager.Lib.Octal

/-!
# The file system table

A line of the table has four to six fields; blank lines and comments have none. Blanks inside a
field are octal escapes, which the parser replaces one kind after the other.
-/

namespace StorageManager.Discovery

open Core
open Lib.Checks
open Lib.Text
open Lib.Octal (Low octal)

set_option autoImplicit false

section Parsing

inductive FstabDiscoveryError where
  | invalidLine (line fields : Nat)
  | invalidNumber (line : Nat) (field value : String)
  deriving DecidableEq

def unescapeFstab (value : List Char) : List Char :=
  replace "\\011".toList ['\t'] (replace "\\040".toList [' '] (replace "\\134".toList ['\\'] value))

def unsignedDigits : List Char → List Char
  | '+' :: digits => digits
  | digits => digits

/-- `str::parse::<u32>`, which takes a leading plus sign. -/
def u32FromStr (value : List Char) : Option Nat :=
  let digits := unsignedDigits value
  let n := Nat.ofDigitChars 10 digits 0
  if digits ≠ [] ∧ digits.all Char.isDigit ∧ n < 2 ^ 32 then some n else none

def parseU32 (value : List Char) (line : Nat) (field : String) : Except FstabDiscoveryError Nat :=
  match u32FromStr value with
  | some n => .ok n
  | none => .error (.invalidNumber line field (String.ofList value))

/-- A field that may be missing. -/
def optionalU32 (fields : List (List Char)) (index line : Nat) (field : String) :
    Except FstabDiscoveryError Nat :=
  if index < fields.length then parseU32 (fields.getD index []) line field else .ok 0

/-- The entry of the fields of a line. -/
def parseFields (lineNumber : Nat) (fields : List (List Char)) :
    Except FstabDiscoveryError FstabEntry := do
  refuse (¬(4 ≤ fields.length ∧ fields.length ≤ 6)) (.invalidLine lineNumber fields.length)
  let dump ← optionalU32 fields 4 lineNumber "dump"
  let pass ← optionalU32 fields 5 lineNumber "pass"
  .ok {
    source := String.ofList (unescapeFstab (fields.getD 0 []))
    target := String.ofList (unescapeFstab (fields.getD 1 []))
    fsType := String.ofList (fields.getD 2 [])
    options := (words (· == ',') (fields.getD 3 [])).map String.ofList
    dump
    pass }

/-- One turn of the loop of `parse_fstab`. -/
def parseLine (lineNumber : Nat) (rawLine : List Char) :
    Except FstabDiscoveryError (Option FstabEntry) :=
  let line := trim rawLine
  if line = [] ∨ line.head? = some '#' then .ok none
  else (parseFields lineNumber (words isWhitespace line)).map some

/-- The loop of `parse_fstab`, from this line on. -/
def parseLines : Nat → List (List Char) → Except FstabDiscoveryError (List FstabEntry)
  | _, [] => .ok []
  | lineNumber, rawLine :: rest => do
    let entry ← parseLine lineNumber rawLine
    let entries ← parseLines (lineNumber + 1) rest
    .ok (entry.toList ++ entries)

def parseFstab (input : List Char) : Except FstabDiscoveryError (List FstabEntry) :=
  parseLines 1 (lines input)

/-- Why a table was not parsed. Where the source keeps the text of an error, the error itself is
kept. -/
inductive FstabProblem where
  | utf8
  | fstab (source : FstabDiscoveryError)
  deriving DecidableEq

/-- The decoder of `/proc/swaps`. -/
def unescapeProcPath (value : List Char) : List Char :=
  replace "\\012".toList ['\n'] (replace "\\011".toList ['\t'] (replace "\\040".toList [' ']
    (replace "\\134".toList ['\\'] value)))

end Parsing

section Escapes

theorem low_blanks : Low [' ', '\t'] := by
  intro c hmem
  simp only [List.mem_cons, List.not_mem_nil, or_false] at hmem
  obtain rfl | rfl := hmem <;> decide

theorem low_blanks_newline : Low [' ', '\t', '\n'] := by
  intro c hmem
  simp only [List.mem_cons, List.not_mem_nil, or_false] at hmem
  obtain rfl | rfl | rfl := hmem <;> decide

theorem unescapeFstab_eq (value : List Char) :
    unescapeFstab value = Lib.Octal.unescape [' ', '\t'] value := by
  have hbackslash : "\\134".toList = Lib.Octal.octal '\\' := by decide
  have hblank : "\\040".toList = Lib.Octal.octal ' ' := by decide
  have htab : "\\011".toList = Lib.Octal.octal '\t' := by decide
  rw [unescapeFstab, hbackslash, hblank, htab]
  rfl

theorem unescapeProcPath_eq (value : List Char) :
    unescapeProcPath value = Lib.Octal.unescape [' ', '\t', '\n'] value := by
  have hbackslash : "\\134".toList = Lib.Octal.octal '\\' := by decide
  have hblank : "\\040".toList = Lib.Octal.octal ' ' := by decide
  have htab : "\\011".toList = Lib.Octal.octal '\t' := by decide
  have hnewline : "\\012".toList = Lib.Octal.octal '\n' := by decide
  rw [unescapeProcPath, hbackslash, hblank, htab, hnewline]
  rfl

/-- The replacements of the writers of the table. -/
theorem escapeBlanks_eq (value : List Char) :
    replaceChar '\t' "\\011".toList (replaceChar ' ' "\\040".toList
      (replaceChar '\\' "\\134".toList value)) = Lib.Octal.escape ['\\', ' ', '\t'] value := by
  have hbackslash : replaceChar '\\' "\\134".toList value = Lib.Octal.escape ['\\'] value :=
    Lib.Octal.replaceChar_eq_escape '\\' _
  have hspace : replaceChar ' ' "\\040".toList (Lib.Octal.escape ['\\'] value) =
      Lib.Octal.escape [' ', '\\'] value :=
    Lib.Octal.replaceChar_escape (by decide) (by decide) _
  have htab : replaceChar '\t' "\\011".toList (Lib.Octal.escape [' ', '\\'] value) =
      Lib.Octal.escape ['\t', ' ', '\\'] value :=
    Lib.Octal.replaceChar_escape (by decide) (by decide) _
  rw [hbackslash, hspace, htab]
  refine Lib.Octal.escape_congr (fun c => ?_) _
  simp only [List.mem_cons, List.not_mem_nil, or_false]
  tauto

end Escapes

section Trimming

variable {cs : List Char} {c : Char}

theorem trim_eq (cs : List Char) : trim cs = (cs.dropWhile isWhitespace).rdropWhile isWhitespace := rfl

/-- Trimming takes no word away. -/
theorem words_trim (cs : List Char) : words isWhitespace (trim cs) = words isWhitespace cs := by
  rw [trim_eq, words_rdropWhile, words_dropWhile]

/-- A text that begins with something else than a blank keeps its beginning. -/
theorem head?_trim (hc : isWhitespace c = false) (cs : List Char) :
    (trim (c :: cs)).head? = some c := by
  rw [trim_eq, List.dropWhile_cons_of_neg (by simp [hc])]
  induction cs using List.reverseRecOn with
  | nil => rw [List.rdropWhile_singleton, if_neg (by simp [hc])]; rfl
  | append_singleton cs d ih =>
    by_cases hd : isWhitespace d = true
    · rw [← List.cons_append, List.rdropWhile_concat_pos _ _ _ hd, ih]
    · rw [← List.cons_append, List.rdropWhile_concat_neg _ _ _ hd]
      rfl

/-- A blank at the end is trimmed. -/
theorem trim_append_singleton (hc : isWhitespace c = true) (cs : List Char) :
    trim (cs ++ [c]) = trim cs := by
  by_cases hall : ∀ d ∈ cs, isWhitespace d = true
  · have hleft : cs.dropWhile isWhitespace = [] := List.dropWhile_eq_nil_iff.mpr hall
    have hboth : (cs ++ [c]).dropWhile isWhitespace = [] := by
      refine List.dropWhile_eq_nil_iff.mpr fun d hd => ?_
      rcases List.mem_append.mp hd with hd | hd
      · exact hall d hd
      · rw [List.mem_singleton.mp hd]
        exact hc
    rw [trim_eq, trim_eq, hleft, hboth]
  · have hkept : (cs ++ [c]).dropWhile isWhitespace = cs.dropWhile isWhitespace ++ [c] := by
      rw [List.dropWhile_append, if_neg]
      intro hempty
      exact hall (List.dropWhile_eq_nil_iff.mp (List.isEmpty_iff.mp hempty))
    rw [trim_eq, trim_eq, hkept, List.rdropWhile_concat_pos _ _ _ hc]

theorem head?_trim_ne_blank (h : (trim cs).head? = some c) : isWhitespace c = false := by
  have hstarts : trim cs <+: cs.dropWhile isWhitespace := List.rdropWhile_prefix _ _
  obtain ⟨rest, hrest⟩ := hstarts
  have hfirst := List.head?_dropWhile_not isWhitespace cs
  have hhead : (cs.dropWhile isWhitespace).head? = some c := by
    rw [← hrest, List.head?_append, h]
    rfl
  rw [hhead] at hfirst
  exact hfirst

end Trimming

section Numbers

variable {value : List Char} {k n : Nat} {field : String}

theorem u32FromStr_lt (h : u32FromStr value = some k) : k < 2 ^ 32 := by
  unfold u32FromStr at h
  dsimp only at h
  by_cases hfits : unsignedDigits value ≠ [] ∧ (unsignedDigits value).all Char.isDigit ∧
      Nat.ofDigitChars 10 (unsignedDigits value) 0 < 2 ^ 32
  · rw [if_pos hfits] at h
    rw [← Option.some.inj h]
    exact hfits.2.2
  · rw [if_neg hfits] at h
    cases h

/-- A number is read back as it was printed. -/
theorem u32FromStr_toDigits (hk : k < 2 ^ 32) : u32FromStr (Nat.toDigits 10 k) = some k := by
  have hdigits : ∀ c ∈ Nat.toDigits 10 k, c.isDigit = true := fun c hc =>
    Nat.isDigit_of_mem_toDigits (by decide) (by decide) hc
  have hplain : unsignedDigits (Nat.toDigits 10 k) = Nat.toDigits 10 k := by
    unfold unsignedDigits
    split
    · next digits hsign =>
      have hplus := hdigits '+' (hsign ▸ List.mem_cons_self)
      cases hplus
    · rfl
  unfold u32FromStr
  dsimp only
  rw [hplain, Nat.ofDigitChars_ten_toDigits,
    if_pos ⟨Nat.toDigits_ne_nil, List.all_eq_true.mpr hdigits, hk⟩]

theorem parseU32_eq_ok_iff : parseU32 value n field = .ok k ↔ u32FromStr value = some k := by
  unfold parseU32
  cases u32FromStr value with
  | none => exact iff_of_false (fun h => by cases h) fun h => by cases h
  | some v => exact ⟨fun h => congrArg some (Except.ok.inj h), fun h => congrArg _ (Option.some.inj h)⟩

theorem optionalU32_eq_ok_iff {fields : List (List Char)} {index : Nat} :
    optionalU32 fields index n field = .ok k ↔
      if index < fields.length then u32FromStr (fields.getD index []) = some k else k = 0 := by
  unfold optionalU32
  split
  · exact parseU32_eq_ok_iff
  · exact ⟨fun h => (Except.ok.inj h).symm, fun h => congrArg _ h.symm⟩

end Numbers

section Lines

variable {n m : Nat} {raw : List Char} {a b : List (List Char)} {es : List FstabEntry}

/-- A line is parsed as it is trimmed. -/
theorem parseLine_congr {raw' : List Char} (h : trim raw = trim raw') :
    parseLine n raw = parseLine n raw' := by
  unfold parseLine
  rw [h]

theorem parseLine_lineOf (n : Nat) (segment : List Char) :
    parseLine n (lineOf segment) = parseLine n (splitEnding segment).1 := by
  unfold lineOf
  dsimp only
  split
  · next h =>
    obtain ⟨line, hline⟩ := List.getLast?_eq_some_iff.mp h.2
    rw [hline, List.dropLast_concat]
    exact (parseLine_congr (trim_append_singleton rfl line)).symm
  · rfl

theorem parseLines_map (f g : List Char → List Char)
    (h : ∀ n raw, parseLine n (f raw) = parseLine n (g raw)) (n : Nat) (raws : List (List Char)) :
    parseLines n (raws.map f) = parseLines n (raws.map g) := by
  induction raws generalizing n with
  | nil => rfl
  | cons raw raws ih => rw [List.map_cons, List.map_cons, parseLines, parseLines, h, ih]

/-- The lines of a table without their line feeds. -/
def bodies (segments : List (List Char)) : List (List Char) :=
  segments.map fun segment => (splitEnding segment).1

theorem parseFstab_eq (input : List Char) :
    parseFstab input = parseLines 1 (bodies (splitInclusive input)) :=
  parseLines_map _ _ parseLine_lineOf 1 _

theorem parseFields_eq_ok_iff {fields : List (List Char)} {e : FstabEntry} :
    parseFields n fields = .ok e ↔ (4 ≤ fields.length ∧ fields.length ≤ 6) ∧
      optionalU32 fields 4 n "dump" = .ok e.dump ∧ optionalU32 fields 5 n "pass" = .ok e.pass ∧
      e.source = String.ofList (unescapeFstab (fields.getD 0 [])) ∧
      e.target = String.ofList (unescapeFstab (fields.getD 1 [])) ∧
      e.fsType = String.ofList (fields.getD 2 []) ∧
      e.options = (words (· == ',') (fields.getD 3 [])).map String.ofList := by
  rw [parseFields, check_eq_ok_iff, refuse_eq_ok_iff, not_not, bind_eq_ok_iff]
  constructor
  · rintro ⟨hfields, dump, hdump, h⟩
    obtain ⟨pass, hpass, h⟩ := bind_eq_ok_iff.mp h
    rw [← Except.ok.inj h]
    exact ⟨hfields, hdump, hpass, rfl, rfl, rfl, rfl⟩
  · rintro ⟨hfields, hdump, hpass, hsource, htarget, hfsType, hoptions⟩
    refine ⟨hfields, e.dump, hdump, bind_eq_ok_iff.mpr ⟨e.pass, hpass, ?_⟩⟩
    rw [← hsource, ← htarget, ← hfsType, ← hoptions]

/-- An entry is that of the fields of its line. -/
theorem parseLine_eq_ok_some_iff {e : FstabEntry} : parseLine n raw = .ok (some e) ↔
    ¬(trim raw = [] ∨ (trim raw).head? = some '#') ∧
      parseFields n (words isWhitespace raw) = .ok e := by
  rw [parseLine, words_trim]
  split
  · next hskip =>
    exact iff_of_false (fun h => by cases h) fun h => h.1 hskip
  · next hskip =>
    rw [and_iff_right hskip]
    cases parseFields n (words isWhitespace raw) with
    | error _ => exact iff_of_false (fun h => by cases h) fun h => by cases h
    | ok _ =>
      exact ⟨fun h => congrArg _ (Option.some.inj (Except.ok.inj h)),
        fun h => congrArg _ (congrArg some (Except.ok.inj h))⟩

theorem parseLine_eq_ok_none_iff : parseLine n raw = .ok none ↔
    trim raw = [] ∨ (trim raw).head? = some '#' := by
  rw [parseLine]
  split
  · next hskip => exact iff_of_true rfl hskip
  · next hskip =>
    refine iff_of_false (fun h => ?_) hskip
    cases hfields : parseFields n (words isWhitespace (trim raw)) <;> rw [hfields] at h <;> cases h

/-- The number of a line is only in its errors. -/
theorem parseLine_ok {entry : Option FstabEntry} (h : parseLine n raw = .ok entry) (m : Nat) :
    parseLine m raw = .ok entry := by
  cases entry with
  | none => exact parseLine_eq_ok_none_iff.mpr (parseLine_eq_ok_none_iff.mp h)
  | some e =>
    obtain ⟨hkept, hfields⟩ := parseLine_eq_ok_some_iff.mp h
    obtain ⟨hlength, hdump, hpass, hrest⟩ := parseFields_eq_ok_iff.mp hfields
    exact parseLine_eq_ok_some_iff.mpr ⟨hkept, parseFields_eq_ok_iff.mpr ⟨hlength,
      optionalU32_eq_ok_iff.mpr (optionalU32_eq_ok_iff.mp hdump),
      optionalU32_eq_ok_iff.mpr (optionalU32_eq_ok_iff.mp hpass), hrest⟩⟩

theorem parseLines_cons_eq_ok_iff {rest : List (List Char)} :
    parseLines n (raw :: rest) = .ok es ↔ ∃ entry entries, parseLine n raw = .ok entry ∧
      parseLines (n + 1) rest = .ok entries ∧ es = entry.toList ++ entries := by
  rw [parseLines, bind_eq_ok_iff]
  constructor
  · rintro ⟨entry, hentry, h⟩
    obtain ⟨entries, hentries, h⟩ := bind_eq_ok_iff.mp h
    exact ⟨entry, entries, hentry, hentries, (Except.ok.inj h).symm⟩
  · rintro ⟨entry, entries, hentry, hentries, rfl⟩
    exact ⟨entry, hentry, bind_eq_ok_iff.mpr ⟨entries, hentries, rfl⟩⟩

theorem parseLines_ok (h : parseLines n a = .ok es) (m : Nat) : parseLines m a = .ok es := by
  induction a generalizing n m es with
  | nil => exact h
  | cons raw rest ih =>
    obtain ⟨entry, entries, hentry, hentries, rfl⟩ := parseLines_cons_eq_ok_iff.mp h
    exact parseLines_cons_eq_ok_iff.mpr
      ⟨entry, entries, parseLine_ok hentry m, ih hentries (m + 1), rfl⟩

/-- The entries of a table are those of its lines. -/
theorem parseLines_append_eq_ok_iff : parseLines n (a ++ b) = .ok es ↔
    ∃ before after, parseLines n a = .ok before ∧ parseLines n b = .ok after ∧
      es = before ++ after := by
  induction a generalizing n es with
  | nil =>
    constructor
    · intro h
      exact ⟨[], es, rfl, h, rfl⟩
    · rintro ⟨before, after, hbefore, hafter, rfl⟩
      rw [← Except.ok.inj hbefore]
      exact hafter
  | cons raw rest ih =>
    constructor
    · intro h
      obtain ⟨entry, entries, hentry, hentries, rfl⟩ := parseLines_cons_eq_ok_iff.mp h
      obtain ⟨before, after, hbefore, hafter, rfl⟩ := ih.mp hentries
      refine ⟨entry.toList ++ before, after, ?_, parseLines_ok hafter n, ?_⟩
      · exact parseLines_cons_eq_ok_iff.mpr ⟨entry, before, hentry, hbefore, rfl⟩
      · exact (List.append_assoc ..).symm
    · rintro ⟨before, after, hbefore, hafter, rfl⟩
      obtain ⟨entry, entries, hentry, hentries, rfl⟩ := parseLines_cons_eq_ok_iff.mp hbefore
      refine parseLines_cons_eq_ok_iff.mpr ⟨entry, entries ++ after, hentry, ?_, ?_⟩
      · exact ih.mpr ⟨entries, after, hentries, parseLines_ok hafter (n + 1), rfl⟩
      · exact List.append_assoc ..

/-- The entry of a table that is one line. -/
theorem parseLines_singleton_eq_ok_iff : parseLines n [raw] = .ok es ↔
    ∃ entry, parseLine n raw = .ok entry ∧ es = entry.toList := by
  rw [parseLines_cons_eq_ok_iff]
  constructor
  · rintro ⟨entry, entries, hentry, hentries, rfl⟩
    rw [← Except.ok.inj hentries]
    exact ⟨entry, hentry, List.append_nil _⟩
  · rintro ⟨entry, hentry, rfl⟩
    exact ⟨entry, [], hentry, rfl, (List.append_nil _).symm⟩

/-- The entries of a table after one that ends with a line feed. -/
theorem parseFstab_append_eq_ok_iff {t u : List Char} (ht : t = [] ∨ t.getLast? = some '\n') :
    parseFstab (t ++ u) = .ok es ↔ ∃ before after, parseFstab t = .ok before ∧
      parseFstab u = .ok after ∧ es = before ++ after := by
  have hsplit : splitInclusive (t ++ u) = splitInclusive t ++ splitInclusive u := by
    rcases ht with rfl | hlast
    · rfl
    · obtain ⟨body, rfl⟩ := List.getLast?_eq_some_iff.mp hlast
      rw [List.append_assoc, List.singleton_append, splitInclusive_append]
  simp only [parseFstab_eq, hsplit, bodies, List.map_append]
  exact parseLines_append_eq_ok_iff

theorem bodies_append_newline {segments : List (List Char)} (h : Segmented segments)
    (hne : segments.flatten ≠ []) (hlast : segments.flatten.getLast? ≠ some '\n') :
    bodies (splitInclusive (segments.flatten ++ ['\n'])) = bodies segments := by
  induction h with
  | nil => exact absurd rfl hne
  | @last l hl _ =>
    rw [List.flatten_singleton, splitInclusive_line hl, splitInclusive_nil, bodies, bodies,
      List.map_singleton, List.map_singleton, splitEnding_line, splitEnding_last hl]
  | @line l segments hl _ ih =>
    rw [List.flatten_cons] at hlast ⊢
    have hrest : segments.flatten ≠ [] := by
      intro hempty
      rw [hempty, List.append_nil, List.getLast?_concat] at hlast
      exact hlast rfl
    rw [List.getLast?_append_of_ne_nil _ hrest] at hlast
    rw [List.append_assoc, List.append_assoc, List.singleton_append, splitInclusive_line hl]
    exact congrArg (_ :: ·) (ih hrest hlast)

/-- The line feed after the last line changes nothing. -/
theorem parseFstab_append_newline {t : List Char} (hne : t ≠ []) (hlast : t.getLast? ≠ some '\n') :
    parseFstab (t ++ ['\n']) = parseFstab t := by
  have hflat := flatten_splitInclusive t
  have hbodies := bodies_append_newline (segmented_splitInclusive t) (by rw [hflat]; exact hne)
    (by rw [hflat]; exact hlast)
  rw [hflat] at hbodies
  rw [parseFstab_eq, parseFstab_eq, hbodies]

end Lines

section WellFormed

/-- What a path field can hold: blanks only as spaces and tabs, and no escape. -/
structure PathField (s : String) : Prop where
  nonempty : s.toList ≠ []
  blanks : ∀ c ∈ s.toList, isWhitespace c = true → c ∈ [' ', '\t']
  escapes : ∀ c ∈ [' ', '\t'], ¬octal c <:+: s.toList

/-- A word without blanks. -/
structure WordField (s : String) : Prop where
  nonempty : s.toList ≠ []
  blanks : ∀ c ∈ s.toList, isWhitespace c = false

/-- What a parsed entry can hold. -/
structure WellFormed (e : FstabEntry) : Prop where
  source : PathField e.source
  comment : e.source.toList.head? ≠ some '#'
  target : PathField e.target
  fsType : WordField e.fsType
  options : ∀ option ∈ e.options, WordField option ∧ ',' ∉ option.toList
  dump : e.dump < 2 ^ 32
  pass : e.pass < 2 ^ 32

theorem pathField_unescape {w : List Char} (hne : w ≠ []) (hw : ∀ c ∈ w, isWhitespace c = false) :
    PathField (String.ofList (unescapeFstab w)) := by
  refine ⟨?_, ?_, ?_⟩
  · rw [String.toList_ofList, unescapeFstab_eq]
    exact Lib.Octal.unescape_ne_nil hne
  · intro c hc hblank
    rw [String.toList_ofList, unescapeFstab_eq] at hc
    rcases Lib.Octal.mem_unescape hc with h | h
    · rcases List.mem_cons.mp h with rfl | h
      · cases hblank
      · exact h
    · rw [hw c h] at hblank
      cases hblank
  · intro c hc
    rw [String.toList_ofList, unescapeFstab_eq]
    exact Lib.Octal.not_octal_infix_unescape low_blanks hc w

theorem parseFields_wellFormed {n : Nat} {fields : List (List Char)} {e : FstabEntry}
    (h : parseFields n fields = .ok e)
    (hwords : ∀ w ∈ fields, w ≠ [] ∧ ∀ c ∈ w, isWhitespace c = false)
    (hcomment : (fields.getD 0 []).head? ≠ some '#') : WellFormed e := by
  obtain ⟨hlength, hdump, hpass, hsource, htarget, hfsType, hoptions⟩ := parseFields_eq_ok_iff.mp h
  have hword : ∀ i < 4, fields.getD i [] ≠ [] ∧ ∀ c ∈ fields.getD i [], isWhitespace c = false := by
    intro i hi
    have hlt : i < fields.length := by omega
    rw [List.getD_eq_getElem?_getD, List.getElem?_eq_getElem hlt]
    exact hwords _ (List.getElem_mem hlt)
  have hnumber : ∀ {i k : Nat} {field : String}, optionalU32 fields i n field = .ok k →
      k < 2 ^ 32 := by
    intro i k field hk
    rw [optionalU32_eq_ok_iff] at hk
    split at hk
    · exact u32FromStr_lt hk
    · rw [hk]
      decide
  refine ⟨?_, ?_, ?_, ⟨?_, ?_⟩, ?_, hnumber hdump, hnumber hpass⟩
  · rw [hsource]
    exact pathField_unescape (hword 0 (by decide)).1 (hword 0 (by decide)).2
  · intro hhead
    rw [hsource, String.toList_ofList, unescapeFstab_eq] at hhead
    rcases Lib.Octal.head?_unescape hhead with hspecial | hfirst
    · exact absurd hspecial (by decide)
    · exact hcomment hfirst
  · rw [htarget]
    exact pathField_unescape (hword 1 (by decide)).1 (hword 1 (by decide)).2
  · rw [hfsType, String.toList_ofList]
    exact (hword 2 (by decide)).1
  · rw [hfsType, String.toList_ofList]
    exact (hword 2 (by decide)).2
  · intro option hoption
    rw [hoptions] at hoption
    obtain ⟨w, hw, rfl⟩ := List.mem_map.mp hoption
    obtain ⟨hne, hcomma⟩ := of_mem_words hw
    refine ⟨⟨?_, fun c hc => ?_⟩, fun hmem => ?_⟩
    · rw [String.toList_ofList]
      exact hne
    · rw [String.toList_ofList] at hc
      exact (hword 3 (by decide)).2 c (hcomma c hc).2
    · rw [String.toList_ofList] at hmem
      exact absurd (hcomma _ hmem).1 (by decide)

/-- What the parser accepts is well formed. -/
theorem parseLine_wellFormed {n : Nat} {raw : List Char} {e : FstabEntry}
    (h : parseLine n raw = .ok (some e)) : WellFormed e := by
  obtain ⟨hkept, hfields⟩ := parseLine_eq_ok_some_iff.mp h
  refine parseFields_wellFormed hfields (fun w hw => ?_) fun hcomment => hkept ?_
  · obtain ⟨hne, hblanks⟩ := of_mem_words hw
    exact ⟨hne, fun c hc => (hblanks c hc).1⟩
  · cases hline : trim raw with
    | nil => exact .inl rfl
    | cons c rest =>
      have hblank : isWhitespace c = false := head?_trim_ne_blank (by rw [hline]; rfl)
      obtain ⟨w, ws, hwords⟩ := words_cons_of_not hblank rest
      rw [← words_trim, hline, hwords] at hcomment
      exact .inr hcomment

theorem parseLines_wellFormed {n : Nat} {raws : List (List Char)} {es : List FstabEntry}
    (h : parseLines n raws = .ok es) : ∀ e ∈ es, WellFormed e := by
  induction raws generalizing n es with
  | nil =>
    rw [← Except.ok.inj h]
    exact fun e he => absurd he List.not_mem_nil
  | cons raw rest ih =>
    obtain ⟨entry, entries, hentry, hentries, rfl⟩ := parseLines_cons_eq_ok_iff.mp h
    intro e he
    rcases List.mem_append.mp he with he | he
    · rw [Option.mem_toList] at he
      rw [he] at hentry
      exact parseLine_wellFormed hentry
    · exact ih hentries e he

end WellFormed

section Printing

variable {n : Nat} {e : FstabEntry}

theorem isWhitespace_digit {c : Char} (hlow : 48 ≤ c.toNat) (hhigh : c.toNat < 58) :
    isWhitespace c = false := by
  have hall : ∀ k, 48 ≤ k → k < 58 → isWhitespace (Char.ofNat k) = false := by
    intro k hlow hhigh
    interval_cases k <;> rfl
  have hdigit := hall _ hlow hhigh
  rwa [Char.ofNat_toNat] at hdigit

theorem mem_escape_blanks {s : String} (h : PathField s) {c : Char}
    (hc : c ∈ Lib.Octal.escape ['\\', ' ', '\t'] s.toList) : isWhitespace c = false := by
  rcases Lib.Octal.mem_escape hc with rfl | hdigit | ⟨hmem, hplain⟩
  · rfl
  · exact isWhitespace_digit hdigit.1 (by omega)
  · refine Bool.eq_false_iff.mpr fun hblank => hplain ?_
    exact List.mem_cons_of_mem _ (h.blanks c hmem hblank)

/-- Fields that are joined by tabs are the fields of the line. -/
theorem parseLine_intercalate {field : List Char} {fields : List (List Char)} (hne : field ≠ [])
    (hcomment : field.head? ≠ some '#')
    (hblanks : ∀ w ∈ field :: fields, ∀ c ∈ w, isWhitespace c = false) :
    parseLine n (['\t'].intercalate (field :: fields)) =
      (parseFields n ((field :: fields).filter (!·.isEmpty))).map some := by
  obtain ⟨c, rest, rfl⟩ := List.exists_cons_of_ne_nil hne
  obtain ⟨tail, htail⟩ : ∃ tail, ['\t'].intercalate ((c :: rest) :: fields) = c :: tail := by
    cases fields with
    | nil => exact ⟨rest, List.intercalate_singleton⟩
    | cons second fields => exact ⟨_, List.intercalate_cons_cons⟩
  have hc : isWhitespace c = false := hblanks _ List.mem_cons_self c List.mem_cons_self
  have hhead := head?_trim hc tail
  have hkept : ¬(trim (c :: tail) = [] ∨ (trim (c :: tail)).head? = some '#') := by
    rintro (hempty | hhash)
    · rw [hempty] at hhead
      cases hhead
    · rw [hhead] at hhash
      exact hcomment hhash
  rw [parseLine, htail, if_neg hkept, words_trim, ← htail, words_intercalate rfl _ hblanks]

/-- The fields of an entry as the writers of the table print them. -/
def printedFields (source target fsType : String) (options : List String) (dump pass : Nat) :
    List (List Char) :=
  [Lib.Octal.escape ['\\', ' ', '\t'] source.toList,
    Lib.Octal.escape ['\\', ' ', '\t'] target.toList, fsType.toList,
    [','].intercalate (options.map String.toList), (toString dump).toList, (toString pass).toList]

theorem mem_intercalate {sep : Char} {ws : List (List Char)} {c : Char}
    (hc : c ∈ [sep].intercalate ws) : c = sep ∨ ∃ w ∈ ws, c ∈ w := by
  induction ws with
  | nil => cases hc
  | cons w ws ih =>
    cases ws with
    | nil =>
      rw [List.intercalate_singleton] at hc
      exact .inr ⟨w, List.mem_cons_self, hc⟩
    | cons v ws =>
      rw [List.intercalate_cons_cons, List.append_assoc, List.mem_append, List.mem_append,
        List.mem_singleton] at hc
      rcases hc with hc | hc | hc
      · exact .inr ⟨w, List.mem_cons_self, hc⟩
      · exact .inl hc
      · exact (ih hc).imp_right fun ⟨w, hw, hmem⟩ => ⟨w, List.mem_cons_of_mem _ hw, hmem⟩

theorem printedFields_blanks (h : WellFormed e) : ∀ w ∈ printedFields e.source e.target e.fsType
    e.options e.dump e.pass, ∀ c ∈ w, isWhitespace c = false := by
  have hdigits : ∀ k : Nat, ∀ c ∈ (toString k).toList, isWhitespace c = false := by
    intro k c hc
    have hlist : (toString k).toList = Nat.toDigits 10 k := Nat.toList_repr
    rw [hlist] at hc
    have hdigit := Char.isDigit_iff_toNat.mp
      (Nat.isDigit_of_mem_toDigits (by decide) (by decide) hc)
    exact isWhitespace_digit hdigit.1 (Nat.lt_succ_of_le hdigit.2)
  intro w hw
  simp only [printedFields, List.mem_cons, List.not_mem_nil, or_false] at hw
  rcases hw with rfl | rfl | rfl | rfl | rfl | rfl
  · exact fun c hc => mem_escape_blanks h.source hc
  · exact fun c hc => mem_escape_blanks h.target hc
  · exact h.fsType.blanks
  · intro c hc
    rcases mem_intercalate hc with rfl | ⟨w, hw, hmem⟩
    · rfl
    · obtain ⟨option, hoption, rfl⟩ := List.mem_map.mp hw
      exact (h.options option hoption).1.blanks c hmem
  · exact hdigits _
  · exact hdigits _

theorem unescape_escape_pathField {s : String} (h : PathField s) :
    String.ofList (unescapeFstab (Lib.Octal.escape ['\\', ' ', '\t'] s.toList)) = s := by
  have hback := (Lib.Octal.unescape_escape_eq_self_iff low_blanks (by decide) s.toList).mpr h.escapes
  rw [unescapeFstab_eq, hback, String.ofList_toList]

theorem words_options {options : List String}
    (h : ∀ option ∈ options, WordField option ∧ ',' ∉ option.toList) :
    (words (· == ',') ([','].intercalate (options.map String.toList))).map String.ofList =
      options := by
  have hcommas : ∀ w ∈ options.map String.toList, ∀ c ∈ w, (c == ',') = false := by
    intro w hw c hc
    obtain ⟨option, hoption, rfl⟩ := List.mem_map.mp hw
    refine beq_eq_false_iff_ne.mpr fun hcomma => (h option hoption).2 ?_
    rw [← hcomma]
    exact hc
  have hall : (options.map String.toList).filter (!·.isEmpty) = options.map String.toList := by
    refine List.filter_eq_self.mpr fun w hw => ?_
    obtain ⟨option, hoption, rfl⟩ := List.mem_map.mp hw
    simp [(h option hoption).1.nonempty]
  rw [words_intercalate (p := (· == ',')) rfl _ hcommas, hall, List.map_map]
  simp [Function.comp_def]

theorem optionalU32_printed {fields : List (List Char)} {index k : Nat} {field : String}
    (hindex : fields[index]? = some (toString k).toList) (hk : k < 2 ^ 32) :
    optionalU32 fields index n field = .ok k := by
  obtain ⟨hlt, -⟩ := List.getElem?_eq_some_iff.mp hindex
  have hlist : (toString k).toList = Nat.toDigits 10 k := Nat.toList_repr
  rw [optionalU32_eq_ok_iff, if_pos hlt, List.getD_eq_getElem?_getD, hindex]
  show u32FromStr (toString k).toList = some k
  rw [hlist]
  exact u32FromStr_toDigits hk

theorem join_ne_nil {options : List String} (h : ∀ option ∈ options, option.toList ≠ [])
    (hne : options ≠ []) : [','].intercalate (options.map String.toList) ≠ [] := by
  obtain ⟨first, rest, rfl⟩ := List.exists_cons_of_ne_nil hne
  have hfirst := h first List.mem_cons_self
  cases rest with
  | nil =>
    rw [List.map_singleton, List.intercalate_singleton]
    exact hfirst
  | cons second rest =>
    rw [List.map_cons, List.map_cons, List.intercalate_cons_cons, List.append_assoc]
    exact List.append_ne_nil_of_left_ne_nil hfirst _

theorem toString_ne_nil (k : Nat) : (toString k).toList ≠ [] := by
  have hlist : (toString k).toList = Nat.toDigits 10 k := Nat.toList_repr
  rw [hlist]
  exact Nat.toDigits_ne_nil

theorem parseLine_printedFields (h : WellFormed e) :
    parseLine n (['\t'].intercalate (printedFields e.source e.target e.fsType e.options e.dump
      e.pass)) = (parseFields n ((printedFields e.source e.target e.fsType e.options e.dump
        e.pass).filter (!·.isEmpty))).map some := by
  have hcomment : (Lib.Octal.escape ['\\', ' ', '\t'] e.source.toList).head? ≠ some '#' := by
    intro hhash
    rcases Lib.Octal.head?_escape hhash with hbackslash | hhead
    · cases hbackslash
    · exact h.comment hhead
  exact parseLine_intercalate (Lib.Octal.escape_ne_nil h.source.nonempty) hcomment
    (printedFields_blanks h)

/-- A printed entry is read back, unless it has no option. -/
theorem parseLine_printed (h : WellFormed e) (hoptions : e.options ≠ []) :
    parseLine n (['\t'].intercalate (printedFields e.source e.target e.fsType e.options e.dump
      e.pass)) = .ok (some e) := by
  have hall : (printedFields e.source e.target e.fsType e.options e.dump e.pass).filter
      (!·.isEmpty) = printedFields e.source e.target e.fsType e.options e.dump e.pass := by
    refine List.filter_eq_self.mpr fun w hw => ?_
    have hne : w ≠ [] := by
      simp only [printedFields, List.mem_cons, List.not_mem_nil, or_false] at hw
      rcases hw with rfl | rfl | rfl | rfl | rfl | rfl
      · exact Lib.Octal.escape_ne_nil h.source.nonempty
      · exact Lib.Octal.escape_ne_nil h.target.nonempty
      · exact h.fsType.nonempty
      · exact join_ne_nil (fun option hoption => (h.options option hoption).1.nonempty) hoptions
      · exact toString_ne_nil _
      · exact toString_ne_nil _
    simp [hne]
  have hfields : parseFields n (printedFields e.source e.target e.fsType e.options e.dump e.pass) =
      .ok e := by
    refine parseFields_eq_ok_iff.mpr ⟨?_, ?_, ?_, ?_, ?_, ?_, ?_⟩
    · show 4 ≤ 6 ∧ 6 ≤ 6
      decide
    · exact optionalU32_printed rfl h.dump
    · exact optionalU32_printed rfl h.pass
    · exact (unescape_escape_pathField h.source).symm
    · exact (unescape_escape_pathField h.target).symm
    · exact String.ofList_toList.symm
    · exact (words_options h.options).symm
  rw [parseLine_printedFields h, hall, hfields]
  rfl

/-- Without an option the number of the fifth field is read as the options. -/
theorem options_of_printed (h : WellFormed e) (hnone : e.options = []) {x : FstabEntry}
    (hx : parseLine n (['\t'].intercalate (printedFields e.source e.target e.fsType e.options e.dump
      e.pass)) = .ok (some x)) : x.options ≠ [] := by
  have hsource : Lib.Octal.escape ['\\', ' ', '\t'] e.source.toList ≠ [] :=
    Lib.Octal.escape_ne_nil h.source.nonempty
  have htarget : Lib.Octal.escape ['\\', ' ', '\t'] e.target.toList ≠ [] :=
    Lib.Octal.escape_ne_nil h.target.nonempty
  have hkept : (printedFields e.source e.target e.fsType e.options e.dump e.pass).filter
      (!·.isEmpty) = [Lib.Octal.escape ['\\', ' ', '\t'] e.source.toList,
        Lib.Octal.escape ['\\', ' ', '\t'] e.target.toList, e.fsType.toList,
        (toString e.dump).toList, (toString e.pass).toList] := by
    simp [printedFields, hnone, hsource, htarget, h.fsType.nonempty]
  rw [parseLine_printedFields h, hkept] at hx
  have hoptions : x.options = (words (· == ',') (toString e.dump).toList).map String.ofList := by
    generalize hfields : parseFields n _ = parsed at hx
    cases parsed with
    | error _ => cases hx
    | ok y =>
      rw [← Option.some.inj (Except.ok.inj hx)]
      exact (parseFields_eq_ok_iff.mp hfields).2.2.2.2.2.2
  have hlist : (toString e.dump).toList = Nat.toDigits 10 e.dump := Nat.toList_repr
  obtain ⟨d, rest, hdigits⟩ := List.exists_cons_of_ne_nil (toString_ne_nil e.dump)
  have hmem : d ∈ Nat.toDigits 10 e.dump := by
    rw [← hlist, hdigits]
    exact List.mem_cons_self
  have hdigit : d.isDigit = true := Nat.isDigit_of_mem_toDigits (by decide) (by decide) hmem
  have hcomma : (d == ',') = false := by
    refine beq_eq_false_iff_ne.mpr fun hd => ?_
    rw [hd] at hdigit
    cases hdigit
  obtain ⟨w, ws, hwords⟩ := words_cons_of_not (p := (· == ',')) hcomma rest
  rw [hoptions, hdigits, hwords]
  exact List.cons_ne_nil _ _

/-- A printed entry is one line. -/
theorem newline_not_mem_printed (h : WellFormed e) : '\n' ∉ ['\t'].intercalate
    (printedFields e.source e.target e.fsType e.options e.dump e.pass) := by
  intro hmem
  rcases mem_intercalate hmem with htab | ⟨w, hw, hfeed⟩
  · cases htab
  · cases printedFields_blanks h w hw _ hfeed

end Printing

end StorageManager.Discovery
