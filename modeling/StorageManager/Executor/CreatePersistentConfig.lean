import StorageManager.Discovery.Fstab

/-!
# The file system table after a creation

The line of the new mount is appended to the table, and the result is parsed again before it is
written: it must have the entry once and no other entry for its mount point or its source.
-/

namespace StorageManager.Executor.Create.PersistentConfig

open Core
open Discovery
open Lib.Checks
open Lib.Text
open Lib.Octal (octal)

set_option autoImplicit false

section Appending

structure ProductionCreateMountActivationIntent where
  partitionDevice : String
  filesystem : String
  mountpoint : String
  fstabSource : String
  fstabOptions : List String
  fstabDump : Nat
  fstabPass : Nat
  deriving DecidableEq

inductive ProductionCreatePersistentConfigError where
  | fstabConflict
  | persistentConfigVerificationFailed
  | fstabTooLarge
  | parse (source : FstabProblem)
  deriving DecidableEq

def maxFstabBytes : Nat := 1024 * 1024

def parseEntries (bytes : List UInt8) :
    Except ProductionCreatePersistentConfigError (List FstabEntry) :=
  match decodeUtf8 bytes with
  | none => .error (.parse .utf8)
  | some text => (parseFstab text).mapError (.parse ∘ .fstab)

def sourceMatches (entry : FstabEntry) (activation : ProductionCreateMountActivationIntent) : Bool :=
  entry.source == activation.partitionDevice || eqIgnoreAsciiCase entry.source activation.fstabSource

def exactEntry (entry : FstabEntry) (activation : ProductionCreateMountActivationIntent) : Bool :=
  eqIgnoreAsciiCase entry.source activation.fstabSource && entry.target == activation.mountpoint &&
    entry.fsType == activation.filesystem && entry.options == activation.fstabOptions &&
    entry.dump == activation.fstabDump && entry.pass == activation.fstabPass

def ensureNoFstabConflict (bytes : List UInt8) (activation : ProductionCreateMountActivationIntent) :
    Except ProductionCreatePersistentConfigError Unit := do
  let entries ← parseEntries bytes
  refuse (entries.any fun entry =>
    entry.target == activation.mountpoint || sourceMatches entry activation) .fstabConflict

def verifyExactFstab (bytes : List UInt8) (activation : ProductionCreateMountActivationIntent) :
    Except ProductionCreatePersistentConfigError Unit := do
  let entries ← parseEntries bytes
  let exactCount := entries.countP (exactEntry · activation)
  refuse (exactCount ≠ 1 ∨ entries.any fun entry => !exactEntry entry activation &&
    (entry.target == activation.mountpoint || sourceMatches entry activation))
    .persistentConfigVerificationFailed

def escapeFstabField (value : String) : List Char :=
  replaceChar '\t' "\\011".toList (replaceChar ' ' "\\040".toList
    (replaceChar '\\' "\\134".toList value.toList))

def fstabLine (activation : ProductionCreateMountActivationIntent) : List Char :=
  ['\t'].intercalate [escapeFstabField activation.fstabSource,
    escapeFstabField activation.mountpoint, activation.filesystem.toList,
    [','].intercalate (activation.fstabOptions.map String.toList),
    (toString activation.fstabDump).toList, (toString activation.fstabPass).toList]

/-- The line feed that a last line lacks. -/
def lineBreak (before : List UInt8) : List UInt8 :=
  if before ≠ [] ∧ before.getLast? ≠ some 10 then [10] else []

def appendExactFstabEntry (before : List UInt8)
    (activation : ProductionCreateMountActivationIntent) :
    Except ProductionCreatePersistentConfigError (List UInt8) := do
  ensureNoFstabConflict before activation
  let after := before ++ lineBreak before ++ encodeUtf8 (fstabLine activation) ++ [10]
  verifyExactFstab after activation
  refuse (after.length > maxFstabBytes) .fstabTooLarge
  .ok after

end Appending

section Caseless

variable {a b : String}

/-- A character that is no other one in the other case. -/
def Caseless (c : Char) : Prop := ∀ d : Char, d.toLower = c.toLower → d = c

theorem toNat_toLower (c : Char) : c.toLower.toNat =
    if 65 ≤ c.toNat ∧ c.toNat ≤ 90 then c.toNat + 32 else c.toNat := by
  have hupper : (c.val ≥ 'A'.val ∧ c.val ≤ 'Z'.val) ↔ 65 ≤ c.toNat ∧ c.toNat ≤ 90 := Iff.rfl
  unfold Char.toLower
  split
  · next h =>
    have hrange := hupper.mp h
    rw [if_pos hrange, Char.toNat_mk, UInt32.toNat_add]
    have hval : c.val.toNat = c.toNat := rfl
    have hstep : ('a'.val - 'A'.val).toNat = 32 := by decide
    omega
  · next h =>
    rw [if_neg (mt hupper.mpr h)]

/-- Only letters have another case. -/
theorem caseless_of_toNat {c : Char}
    (hc : c.toNat < 65 ∨ (90 < c.toNat ∧ c.toNat < 97) ∨ 122 < c.toNat) : Caseless c := by
  intro d hd
  have hnat := congrArg Char.toNat hd
  rw [toNat_toLower, toNat_toLower] at hnat
  refine Char.toNat_inj.mp ?_
  split at hnat <;> split at hnat <;> omega

theorem eq_of_map_toLower {u v : List Char} (hv : ∀ c ∈ v, Caseless c)
    (h : u.map Char.toLower = v.map Char.toLower) : u = v := by
  induction v generalizing u with
  | nil => exact List.map_eq_nil_iff.mp h
  | cons c v ih =>
    obtain ⟨hc, hv⟩ := List.forall_mem_cons.mp hv
    obtain ⟨d, rest, rfl, hd, hrest⟩ := List.map_eq_cons_iff.mp h
    rw [hc d hd, ih hv hrest]

/-- Texts that are equal up to case have the same caseless parts. -/
theorem infix_of_eqIgnoreAsciiCase (h : eqIgnoreAsciiCase a b = true) {u : List Char}
    (hu : ∀ c ∈ u, Caseless c) (hpart : u <:+: b.toList) : u <:+: a.toList := by
  obtain ⟨left, right, hparts⟩ := hpart
  have hmap : a.toList.map Char.toLower = b.toList.map Char.toLower := of_decide_eq_true h
  rw [← hparts, List.map_append, List.map_append] at hmap
  obtain ⟨outer, rightA, ha, houter, -⟩ := List.map_eq_append_iff.mp hmap
  obtain ⟨leftA, middle, hparts, -, hmiddle⟩ := List.map_eq_append_iff.mp houter
  refine ⟨leftA, rightA, ?_⟩
  rw [ha, hparts, eq_of_map_toLower hu hmiddle]

theorem mem_of_eqIgnoreAsciiCase (h : eqIgnoreAsciiCase a b = true) {c : Char} (hc : Caseless c)
    (hmem : c ∈ b.toList) : c ∈ a.toList := by
  have hone : ∀ d ∈ [c], Caseless d := fun d hd => List.mem_singleton.mp hd ▸ hc
  obtain ⟨left, right, hb⟩ := List.append_of_mem hmem
  have hpart : [c] <:+: b.toList := ⟨left, right, by rw [hb, List.append_assoc]; rfl⟩
  exact (infix_of_eqIgnoreAsciiCase h hone hpart).subset List.mem_cons_self

theorem head?_of_eqIgnoreAsciiCase (h : eqIgnoreAsciiCase a b = true) {c : Char} (hc : Caseless c)
    (hhead : b.toList.head? = some c) : a.toList.head? = some c := by
  have hmap : a.toList.map Char.toLower = b.toList.map Char.toLower := of_decide_eq_true h
  have hfirst := congrArg List.head? hmap
  rw [List.head?_map, List.head?_map, hhead] at hfirst
  obtain ⟨d, hd, hlower⟩ := Option.map_eq_some_iff.mp hfirst
  rw [hd, hc d hlower]

theorem caseless_of_isWhitespace {c : Char} (hc : isWhitespace c = true) : Caseless c := by
  refine caseless_of_toNat ?_
  simp only [isWhitespace, Bool.or_eq_true, Bool.and_eq_true, decide_eq_true_eq,
    List.contains_eq_mem, List.mem_cons, List.not_mem_nil, or_false] at hc
  omega

theorem caseless_of_mem_octal {c : Char} (x : Char) (hc : c ∈ octal x) : Caseless c := by
  refine caseless_of_toNat ?_
  simp only [octal, List.mem_cons, List.not_mem_nil, or_false] at hc
  rcases hc with rfl | rfl | rfl | rfl
  · exact .inr (.inl (by decide))
  · have hdigit := Lib.Octal.digit_bounds x 2
    omega
  · have hdigit := Lib.Octal.digit_bounds x 1
    omega
  · have hdigit := Lib.Octal.digit_bounds x 0
    omega

/-- A source that is a field up to case is a field. -/
theorem pathField_of_eqIgnoreAsciiCase (h : eqIgnoreAsciiCase a b = true) (ha : PathField a) :
    PathField b := by
  refine ⟨fun hb => ha.nonempty ?_, fun c hc hblank => ?_, fun c hc hfound => ?_⟩
  · have hmap : a.toList.map Char.toLower = b.toList.map Char.toLower := of_decide_eq_true h
    rw [hb] at hmap
    exact List.map_eq_nil_iff.mp hmap
  · exact ha.blanks c (mem_of_eqIgnoreAsciiCase h (caseless_of_isWhitespace hblank) hc) hblank
  · exact ha.escapes c hc (infix_of_eqIgnoreAsciiCase h (fun d hd => caseless_of_mem_octal c hd) hfound)

end Caseless

section Accepted

variable {activation : ProductionCreateMountActivationIntent} {before after : List UInt8}
  {e : FstabEntry}

/-- The entry of the mount. -/
def intendedEntry (activation : ProductionCreateMountActivationIntent) : FstabEntry where
  source := activation.fstabSource
  target := activation.mountpoint
  fsType := activation.filesystem
  options := activation.fstabOptions
  dump := activation.fstabDump
  pass := activation.fstabPass

/-- One line is appended, and its entry is the intended one. -/
structure Appended (activation : ProductionCreateMountActivationIntent)
    (before after : List UInt8) : Prop where
  line : ∃ line, '\n' ∉ line ∧ after = before ++ lineBreak before ++ encodeUtf8 (line ++ ['\n'])
  entries : ∃ es, parseEntries before = .ok es ∧
    parseEntries after = .ok (es ++ [intendedEntry activation])

theorem exactEntry_iff : exactEntry e activation = true ↔
    eqIgnoreAsciiCase e.source activation.fstabSource = true ∧ e.target = activation.mountpoint ∧
      e.fsType = activation.filesystem ∧ e.options = activation.fstabOptions ∧
      e.dump = activation.fstabDump ∧ e.pass = activation.fstabPass := by
  simp only [exactEntry, Bool.and_eq_true, beq_iff_eq, and_assoc]

theorem escapeFstabField_eq (value : String) :
    escapeFstabField value = Lib.Octal.escape ['\\', ' ', '\t'] value.toList :=
  escapeBlanks_eq value.toList

/-- The line of the writer is the printed line of the intended entry. -/
theorem fstabLine_eq (activation : ProductionCreateMountActivationIntent) :
    fstabLine activation = ['\t'].intercalate (printedFields (intendedEntry activation).source
      (intendedEntry activation).target (intendedEntry activation).fsType
      (intendedEntry activation).options (intendedEntry activation).dump
      (intendedEntry activation).pass) := by
  rw [fstabLine, escapeFstabField_eq, escapeFstabField_eq]
  rfl

/-- An exact entry that was parsed makes the intended one well formed. -/
theorem intendedEntry_wellFormed (hexact : exactEntry e activation = true) (h : WellFormed e) :
    WellFormed (intendedEntry activation) := by
  obtain ⟨hsource, htarget, hfsType, hoptions, hdump, hpass⟩ := exactEntry_iff.mp hexact
  have hentry : intendedEntry activation = { e with source := activation.fstabSource } := by
    rw [intendedEntry, ← htarget, ← hfsType, ← hoptions, ← hdump, ← hpass]
  rw [hentry]
  refine { h with source := pathField_of_eqIgnoreAsciiCase hsource h.source, comment := ?_ }
  intro hhash
  have hplain : Caseless '#' := caseless_of_toNat (.inl (by decide))
  exact h.comment (head?_of_eqIgnoreAsciiCase hsource hplain hhash)

theorem parseEntries_eq_ok_iff {bytes : List UInt8} {es : List FstabEntry} :
    parseEntries bytes = .ok es ↔ ∃ text, bytes = encodeUtf8 text ∧ parseFstab text = .ok es := by
  unfold parseEntries
  cases htext : decodeUtf8 bytes with
  | none =>
    refine iff_of_false (fun h => by cases h) ?_
    rintro ⟨text, hbytes, -⟩
    rw [hbytes, decodeUtf8_encodeUtf8] at htext
    cases htext
  | some text =>
    have hbytes := decodeUtf8_eq_some_iff.mp htext
    show (parseFstab text).mapError _ = _ ↔ _
    rw [mapError_eq_ok_iff]
    constructor
    · intro h
      exact ⟨text, hbytes, h⟩
    · rintro ⟨text', hbytes', h⟩
      rw [encodeUtf8_inj (hbytes.symm.trans hbytes')]
      exact h

/-- A table without its line for the mount has no entry that is exact. -/
theorem not_exactEntry_of_conflict (h : ensureNoFstabConflict before activation = .ok ()) :
    ∃ es, parseEntries before = .ok es ∧ ∀ x ∈ es, ¬exactEntry x activation = true := by
  obtain ⟨es, hes, h⟩ := bind_eq_ok_iff.mp h
  rw [refuse_eq_ok_iff] at h
  refine ⟨es, hes, fun x hx hexact => h ?_⟩
  refine List.any_eq_true.mpr ⟨x, hx, ?_⟩
  rw [(exactEntry_iff.mp hexact).2.1, beq_self_eq_true, Bool.true_or]

theorem exactEntry_of_verify (h : verifyExactFstab after activation = .ok ()) :
    ∃ es, parseEntries after = .ok es ∧ ∃ e ∈ es, exactEntry e activation = true := by
  obtain ⟨es, hes, h⟩ := bind_eq_ok_iff.mp h
  rw [refuse_eq_ok_iff, not_or, not_not] at h
  have hpos : 0 < es.countP (exactEntry · activation) := by omega
  exact ⟨es, hes, List.countP_pos_iff.mp hpos⟩

/-- The line of the intended entry is read back. -/
theorem parse_fstabLine {fs : List FstabEntry} (hfs : parseFstab (fstabLine activation ++ ['\n']) = .ok fs)
    (he : e ∈ fs) (hexact : exactEntry e activation = true) :
    '\n' ∉ fstabLine activation ∧ fs = [intendedEntry activation] := by
  have hparsed : WellFormed e := by
    rw [parseFstab_eq] at hfs
    exact parseLines_wellFormed hfs e he
  have hintended := intendedEntry_wellFormed hexact hparsed
  have hline : '\n' ∉ fstabLine activation := by
    rw [fstabLine_eq]
    exact newline_not_mem_printed hintended
  refine ⟨hline, ?_⟩
  rw [parseFstab_eq, splitInclusive_line hline, splitInclusive_nil, bodies, List.map_singleton,
    parseLines_singleton_eq_ok_iff] at hfs
  obtain ⟨entry, hentry, rfl⟩ := hfs
  rw [Option.mem_toList] at he
  rw [splitEnding_line, fstabLine_eq] at hentry
  by_cases hnone : (intendedEntry activation).options = []
  · rw [he] at hentry
    have hsome := options_of_printed hintended hnone hentry
    exact absurd ((exactEntry_iff.mp hexact).2.2.2.1.trans hnone) hsome
  · rw [parseLine_printed hintended hnone] at hentry
    rw [← Except.ok.inj hentry]
    rfl

/-- The base of an accepted table: the old one with the line feed that it lacks. -/
theorem lineBreak_encodeUtf8 (text : List Char) : ∃ ending, lineBreak (encodeUtf8 text) = encodeUtf8 ending ∧
    (text ++ ending = [] ∨ (text ++ ending).getLast? = some '\n') ∧
    parseFstab (text ++ ending) = parseFstab text := by
  by_cases hlacks : text ≠ [] ∧ text.getLast? ≠ some '\n'
  · refine ⟨['\n'], ?_, .inr List.getLast?_concat, parseFstab_append_newline hlacks.1 hlacks.2⟩
    rw [lineBreak, if_pos, encodeUtf8_newline]
    exact ⟨mt encodeUtf8_eq_nil_iff.mp hlacks.1, mt (getLast?_encodeUtf8_iff text).mp hlacks.2⟩
  · rw [not_and_or, not_not, not_not] at hlacks
    refine ⟨[], ?_, ?_, ?_⟩
    · rw [lineBreak, if_neg]
      · rfl
      · rintro ⟨hne, hlast⟩
        rcases hlacks with hempty | hend
        · exact hne (encodeUtf8_eq_nil_iff.mpr hempty)
        · exact hlast ((getLast?_encodeUtf8_iff text).mpr hend)
    · rw [List.append_nil]
      exact hlacks
    · rw [List.append_nil]

/-- An accepted table is the old one, one line and its entry more. -/
theorem appendExactFstabEntry_appends (h : appendExactFstabEntry before activation = .ok after) :
    Appended activation before after := by
  rw [appendExactFstabEntry, check_eq_ok_iff] at h
  obtain ⟨hconflict, h⟩ := h
  rw [check_eq_ok_iff] at h
  obtain ⟨hverify, h⟩ := h
  rw [check_eq_ok_iff] at h
  have hafter := Except.ok.inj h.2
  rw [hafter] at hverify
  obtain ⟨es, hes, hnone⟩ := not_exactEntry_of_conflict hconflict
  obtain ⟨text, rfl, htext⟩ := parseEntries_eq_ok_iff.mp hes
  obtain ⟨ending, hbreak, hclosed, hsame⟩ := lineBreak_encodeUtf8 text
  have hbytes : after = encodeUtf8 (text ++ ending ++ (fstabLine activation ++ ['\n'])) := by
    rw [← hafter, hbreak, encodeUtf8_append, encodeUtf8_append, encodeUtf8_append,
      encodeUtf8_newline, List.append_assoc _ _ [10]]
  obtain ⟨all, hall, e, he, hexact⟩ := exactEntry_of_verify hverify
  obtain ⟨text', htext', hall'⟩ := parseEntries_eq_ok_iff.mp hall
  rw [← encodeUtf8_inj (hbytes.symm.trans htext'), parseFstab_append_eq_ok_iff hclosed, hsame] at hall'
  obtain ⟨es', fs, hes', hfs, rfl⟩ := hall'
  obtain rfl : es = es' := Except.ok.inj (htext.symm.trans hes')
  have hadded : e ∈ fs := by
    rcases List.mem_append.mp he with he | he
    · exact absurd hexact (hnone e he)
    · exact he
  obtain ⟨hline, rfl⟩ := parse_fstabLine hfs hadded hexact
  refine ⟨⟨fstabLine activation, hline, ?_⟩, es, hes, hall⟩
  rw [hbytes, encodeUtf8_append, encodeUtf8_append, hbreak]

def sampleActivation : ProductionCreateMountActivationIntent where
  partitionDevice := "/dev/sda4"
  filesystem := "ext4"
  mountpoint := "/mnt/new data"
  fstabSource := "UUID=ab12"
  fstabOptions := ["defaults", "nofail"]
  fstabDump := 0
  fstabPass := 2

def sampleTable : List Char := "/dev/sda1 / ext4 defaults 0 1".toList

def sampleAppended : List Char := ("/dev/sda1 / ext4 defaults 0 1\n" ++
  "UUID=ab12\t/mnt/new\\040data\text4\tdefaults,nofail\t0\t2\n").toList

theorem appendExactFstabEntry_appends_sample :
    Appended sampleActivation (encodeUtf8 sampleTable) (encodeUtf8 sampleAppended) := by
  have hconflict : ensureNoFstabConflict (encodeUtf8 sampleTable) sampleActivation = .ok () := by
    rw [ensureNoFstabConflict, parseEntries, decodeUtf8_encodeUtf8]
    rfl
  have hverify : verifyExactFstab (encodeUtf8 sampleAppended) sampleActivation = .ok () := by
    rw [verifyExactFstab, parseEntries, decodeUtf8_encodeUtf8]
    rfl
  have hafter : encodeUtf8 sampleTable ++ lineBreak (encodeUtf8 sampleTable) ++
      encodeUtf8 (fstabLine sampleActivation) ++ [10] = encodeUtf8 sampleAppended := by decide
  refine appendExactFstabEntry_appends ?_
  rw [appendExactFstabEntry, check_eq_ok_iff]
  refine ⟨hconflict, ?_⟩
  dsimp only
  rw [hafter, hverify]
  rfl

end Accepted

end StorageManager.Executor.Create.PersistentConfig
