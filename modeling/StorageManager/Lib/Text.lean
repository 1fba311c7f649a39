import Mathlib.Data.List.DropRight
import Mathlib.Data.List.Infix

/-!
# Texts

A text is a list of characters. Its words are what lies between the separators, its segments end
with a line feed each, and a replacement goes over it once from the left. Bytes are a text when
they are its UTF-8.
-/

namespace StorageManager.Lib.Text

set_option autoImplicit false

section Words

variable {α : Type} {p : α → Bool} {w t : List α} {s : α}

/-- What lies between the separators, where it is not empty. -/
def words (p : α → Bool) (t : List α) : List (List α) := (t.splitOnP p).filter (!·.isEmpty)

@[simp] theorem words_nil : words p [] = [] := by
  rw [words, List.splitOnP_nil]
  rfl

theorem words_append_cons (a b : List α) (hs : p s = true) :
    words p (a ++ s :: b) = words p a ++ words p b := by
  rw [words, List.splitOnP_append_cons a b hs, List.filter_append, words, words]

theorem words_cons (hs : p s = true) : words p (s :: t) = words p t := words_append_cons [] t hs

theorem words_append_singleton (hs : p s = true) : words p (t ++ [s]) = words p t := by
  rw [words_append_cons t [] hs, words_nil, List.append_nil]

/-- A text that begins with no separator begins with its first word. -/
theorem words_cons_of_not (hs : p s = false) (t : List α) :
    ∃ w ws, words p (s :: t) = (s :: w) :: ws := by
  obtain ⟨w, ws, hsplit⟩ := List.exists_cons_of_ne_nil (List.splitOnP_ne_nil p t)
  refine ⟨w, ws.filter (!·.isEmpty), ?_⟩
  rw [words, List.splitOnP_cons_eq_if_modifyHead, if_neg (by simp [hs]), hsplit]
  rfl

/-- Words that are joined with a separator are the words of what they make. -/
theorem words_intercalate (hs : p s = true) (ws : List (List α))
    (hws : ∀ w ∈ ws, ∀ c ∈ w, p c = false) :
    words p ([s].intercalate ws) = ws.filter (!·.isEmpty) := by
  have hone : ∀ w : List α, (∀ c ∈ w, p c = false) → words p w = [w].filter (!·.isEmpty) := by
    intro w hw
    rw [words, List.splitOnP_eq_singleton hw]
  induction ws with
  | nil => exact words_nil
  | cons w ws ih =>
    obtain ⟨hw, hrest⟩ := List.forall_mem_cons.mp hws
    cases ws with
    | nil =>
      rw [List.intercalate_singleton]
      exact hone w hw
    | cons v ws =>
      rw [List.intercalate_cons_cons, List.append_assoc, List.singleton_append,
        words_append_cons _ _ hs, ih hrest, hone w hw, ← List.filter_append, List.singleton_append]

theorem words_dropWhile (t : List α) : words p (t.dropWhile p) = words p t := by
  induction t with
  | nil => rfl
  | cons c t ih =>
    by_cases hc : p c = true
    · rw [List.dropWhile_cons_of_pos hc, ih, words_cons hc]
    · rw [List.dropWhile_cons_of_neg hc]

theorem words_rdropWhile (t : List α) : words p (t.rdropWhile p) = words p t := by
  induction t using List.reverseRecOn with
  | nil => rfl
  | append_singleton t c ih =>
    by_cases hc : p c = true
    · rw [List.rdropWhile_concat_pos p t c hc, ih, words_append_singleton hc]
    · rw [List.rdropWhile_concat_neg p t c hc]

theorem of_mem_splitOnP (t : List α) :
    ∀ w ∈ t.splitOnP p, ∀ c ∈ w, p c = false ∧ c ∈ t := by
  induction t with
  | nil =>
    intro w hw c hc
    rw [List.splitOnP_nil, List.mem_singleton] at hw
    rw [hw] at hc
    cases hc
  | cons x t ih =>
    have hlater : ∀ w ∈ t.splitOnP p, ∀ c ∈ w, p c = false ∧ c ∈ x :: t := fun w hw c hc =>
      (ih w hw c hc).imp_right (List.mem_cons_of_mem x)
    intro w hw c hc
    rw [List.splitOnP_cons_eq_if_modifyHead] at hw
    by_cases hx : p x = true
    · rw [if_pos hx] at hw
      rcases List.mem_cons.mp hw with rfl | hw
      · cases hc
      · exact hlater w hw c hc
    · rw [if_neg hx] at hw
      obtain ⟨v, vs, hsplit⟩ := List.exists_cons_of_ne_nil (List.splitOnP_ne_nil p t)
      rw [hsplit] at hw hlater
      rcases List.mem_cons.mp hw with rfl | hw
      · rcases List.mem_cons.mp hc with rfl | hc
        · exact ⟨Bool.not_eq_true _ ▸ hx, List.mem_cons_self⟩
        · exact hlater v List.mem_cons_self c hc
      · exact hlater w (List.mem_cons_of_mem _ hw) c hc

/-- A word is not empty and has no separator. -/
theorem of_mem_words (h : w ∈ words p t) : w ≠ [] ∧ ∀ c ∈ w, p c = false ∧ c ∈ t := by
  obtain ⟨hw, hne⟩ := List.mem_filter.mp h
  refine ⟨?_, of_mem_splitOnP t w hw⟩
  rintro rfl
  cases hne

end Words

section Segments

/-- `str::split_inclusive('\n')`. -/
def splitInclusive : List Char → List (List Char)
  | [] => []
  | c :: cs =>
    if c = '\n' then ['\n'] :: splitInclusive cs
    else
      match splitInclusive cs with
      | [] => [[c]]
      | segment :: segments => (c :: segment) :: segments

/-- A segment without its line feed, and the line feed if there is one. -/
def splitEnding (segment : List Char) : List Char × List Char :=
  if segment.getLast? = some '\n' then (segment.dropLast, ['\n']) else (segment, [])

/-- The line of a segment, which may end with a carriage return and a line feed. -/
def lineOf (segment : List Char) : List Char :=
  let (line, ending) := splitEnding segment
  if ending ≠ [] ∧ line.getLast? = some '\r' then line.dropLast else line

/-- `str::lines`. -/
def lines (t : List Char) : List (List Char) := (splitInclusive t).map lineOf

variable {t l : List Char}

@[simp] theorem splitInclusive_nil : splitInclusive [] = [] := rfl

theorem flatten_splitInclusive (t : List Char) : (splitInclusive t).flatten = t := by
  induction t with
  | nil => rfl
  | cons c cs ih =>
    rw [splitInclusive]
    split
    · next hc =>
      rw [List.flatten_cons, ih, hc, List.singleton_append]
    · cases hsplit : splitInclusive cs with
      | nil =>
        rw [hsplit] at ih
        rw [← ih]
        rfl
      | cons segment segments =>
        rw [hsplit] at ih
        show c :: (segment :: segments).flatten = c :: cs
        rw [ih]

/-- A line and its line feed are a segment. -/
theorem splitInclusive_line (hl : '\n' ∉ l) (t : List Char) :
    splitInclusive (l ++ '\n' :: t) = (l ++ ['\n']) :: splitInclusive t := by
  induction l with
  | nil => exact if_pos rfl
  | cons c l ih =>
    obtain ⟨hc, hl⟩ := not_or.mp (mt List.mem_cons.mpr hl)
    rw [List.cons_append, splitInclusive, if_neg (Ne.symm hc), ih hl]
    rfl

/-- The last line has no line feed. -/
theorem splitInclusive_last (hl : '\n' ∉ l) (hne : l ≠ []) : splitInclusive l = [l] := by
  induction l with
  | nil => exact absurd rfl hne
  | cons c l ih =>
    obtain ⟨hc, hl⟩ := not_or.mp (mt List.mem_cons.mpr hl)
    rw [splitInclusive, if_neg (Ne.symm hc)]
    cases l with
    | nil => rfl
    | cons d l =>
      rw [ih hl (List.cons_ne_nil d l)]

/-- Segments of two texts, the first of which ends with a line feed. -/
theorem splitInclusive_append (t u : List Char) :
    splitInclusive (t ++ '\n' :: u) = splitInclusive (t ++ ['\n']) ++ splitInclusive u := by
  induction t with
  | nil => rfl
  | cons c t ih =>
    rw [List.cons_append, splitInclusive, List.cons_append, splitInclusive, ih]
    split
    · rfl
    · cases hsplit : splitInclusive (t ++ ['\n']) with
      | nil =>
        have hflat := flatten_splitInclusive (t ++ ['\n'])
        rw [hsplit] at hflat
        exact absurd hflat.symm (List.append_ne_nil_of_right_ne_nil _ (List.cons_ne_nil _ _))
      | cons segment segments => rfl

/-- Lines that end with a line feed each, but for the last one. -/
inductive Segmented : List (List Char) → Prop
  | nil : Segmented []
  | last {l : List Char} : '\n' ∉ l → l ≠ [] → Segmented [l]
  | line {l : List Char} {segments : List (List Char)} : '\n' ∉ l → Segmented segments →
    Segmented ((l ++ ['\n']) :: segments)

theorem segmented_splitInclusive (t : List Char) : Segmented (splitInclusive t) := by
  induction t with
  | nil => exact .nil
  | cons c cs ih =>
    rw [splitInclusive]
    split
    · exact .line (l := []) List.not_mem_nil ih
    · next hc =>
      have hhead : ∀ {l : List Char}, '\n' ∉ l → '\n' ∉ c :: l := fun hl h =>
        (List.mem_cons.mp h).elim (fun h => hc h.symm) hl
      generalize splitInclusive cs = segments at ih
      cases ih with
      | nil => exact .last (hhead List.not_mem_nil) (List.cons_ne_nil _ _)
      | last hl _ => exact .last (hhead hl) (List.cons_ne_nil _ _)
      | line hl hrest => exact .line (hhead hl) hrest

theorem Segmented.splitInclusive_flatten {segments : List (List Char)} (h : Segmented segments) :
    splitInclusive segments.flatten = segments := by
  induction h with
  | nil => rfl
  | @last l hl hne =>
    rw [List.flatten_singleton]
    exact splitInclusive_last hl hne
  | @line l segments hl _ ih =>
    rw [List.flatten_cons, List.append_assoc, List.singleton_append, splitInclusive_line hl, ih]

theorem splitEnding_line (l : List Char) : splitEnding (l ++ ['\n']) = (l, ['\n']) := by
  rw [splitEnding, List.getLast?_concat, if_pos rfl, List.dropLast_concat]

theorem splitEnding_last (hl : '\n' ∉ l) : splitEnding l = (l, []) := by
  refine if_neg fun h => hl ?_
  exact List.mem_of_getLast? h

/-- What a line ends with. -/
inductive IsEnding : List Char → Prop
  | feed : IsEnding ['\n']
  | none : IsEnding []

theorem Segmented.tail {segment : List Char} {segments : List (List Char)}
    (h : Segmented (segment :: segments)) : Segmented segments := by
  cases h with
  | last _ _ => exact .nil
  | line _ hrest => exact hrest

/-- The parts of a segment. -/
theorem Segmented.splitEnding {segments : List (List Char)} (h : Segmented segments)
    {segment : List Char} (hs : segment ∈ segments) :
    '\n' ∉ (splitEnding segment).1 ∧ IsEnding (splitEnding segment).2 ∧
      segment = (splitEnding segment).1 ++ (splitEnding segment).2 := by
  induction h with
  | nil => cases hs
  | last hl _ =>
    rw [List.mem_singleton.mp hs, splitEnding_last hl]
    exact ⟨hl, .none, (List.append_nil _).symm⟩
  | line hl _ ih =>
    rcases List.mem_cons.mp hs with rfl | hs
    · rw [splitEnding_line]
      exact ⟨hl, .feed, rfl⟩
    · exact ih hs

theorem splitEnding_append {ending : List Char} (hl : '\n' ∉ l) (hending : IsEnding ending) :
    splitEnding (l ++ ending) = (l, ending) := by
  cases hending with
  | feed => exact splitEnding_line l
  | none =>
    rw [List.append_nil]
    exact splitEnding_last hl

/-- Another line in the place of one. -/
theorem Segmented.set {before after : List (List Char)} {l' : List Char} {segment : List Char}
    (h : Segmented (before ++ segment :: after)) (hl : '\n' ∉ l') (hne : l' ≠ []) :
    Segmented (before ++ (l' ++ (Text.splitEnding segment).2) :: after) := by
  induction before with
  | nil =>
    cases h with
    | last hlast _ =>
      rw [splitEnding_last hlast, List.append_nil]
      exact .last hl hne
    | line hline hrest =>
      rw [splitEnding_line]
      exact .line hl hrest
  | cons first before ih =>
    have hrest : ∀ {rest : List (List Char)}, Segmented (first :: rest) → rest ≠ [] →
        (∃ l, '\n' ∉ l ∧ first = l ++ ['\n']) ∧ Segmented rest := by
      intro rest h hrest
      cases h with
      | last _ _ => exact absurd rfl hrest
      | line hline hsegments => exact ⟨⟨_, hline, rfl⟩, hsegments⟩
    obtain ⟨⟨l, hline, rfl⟩, hsegments⟩ :=
      hrest h (List.append_ne_nil_of_right_ne_nil _ (List.cons_ne_nil _ _))
    exact .line hline (ih hsegments)

end Segments

section Replacing

variable {α : Type} [BEq α] [LawfulBEq α] {pat rep t u : List α} {c : α}

/-- `skip` characters belong to a match that has been replaced. -/
def replaceFrom (pat rep : List α) : Nat → List α → List α
  | _, [] => []
  | skip + 1, _ :: cs => replaceFrom pat rep skip cs
  | 0, c :: cs =>
    if pat.isPrefixOf (c :: cs) then rep ++ replaceFrom pat rep (pat.length - 1) cs
    else c :: replaceFrom pat rep 0 cs

/-- `str::replace` of a pattern that is not empty. -/
def replace (pat rep t : List α) : List α := replaceFrom pat rep 0 t

omit [LawfulBEq α] in
@[simp] theorem replace_nil : replace pat rep ([] : List α) = [] := rfl

omit [LawfulBEq α] in
theorem replaceFrom_eq_replace_drop (skip : Nat) (t : List α) :
    replaceFrom pat rep skip t = replace pat rep (t.drop skip) := by
  induction skip generalizing t with
  | zero => rfl
  | succ skip ih =>
    cases t with
    | nil => rfl
    | cons c t => exact ih t

/-- A match is replaced. -/
theorem replace_append (hpat : pat ≠ []) (t : List α) :
    replace pat rep (pat ++ t) = rep ++ replace pat rep t := by
  cases pat with
  | nil => exact absurd rfl hpat
  | cons c pat =>
    have hstarts : (c :: pat).isPrefixOf (c :: (pat ++ t)) = true :=
      List.isPrefixOf_iff_prefix.mpr (List.prefix_append (c :: pat) t)
    rw [replace, List.cons_append, replaceFrom, if_pos hstarts, replaceFrom_eq_replace_drop]
    show rep ++ replace (c :: pat) rep ((pat ++ t).drop pat.length) = _
    rw [List.drop_left]

/-- What begins no match is kept. -/
theorem replace_cons (h : ¬pat <+: c :: t) : replace pat rep (c :: t) = c :: replace pat rep t := by
  have hstarts : ¬pat.isPrefixOf (c :: t) = true := mt List.isPrefixOf_iff_prefix.mp h
  rw [replace, replaceFrom, if_neg hstarts]
  rfl

omit [BEq α] [LawfulBEq α] in
/-- A text either begins with a match, or with a character that stays, or is empty. -/
theorem replace_induction {motive : List α → Prop} (pat : List α) (hpat : pat ≠ [])
    (nil : motive []) (found : ∀ t, motive t → motive (pat ++ t))
    (kept : ∀ c t, ¬pat <+: c :: t → motive t → motive (c :: t)) (t : List α) : motive t := by
  have hall : ∀ n (t : List α), t.length ≤ n → motive t := by
    intro n
    induction n with
    | zero =>
      intro t ht
      rw [List.length_eq_zero_iff.mp (Nat.le_zero.mp ht)]
      exact nil
    | succ n ih =>
      intro t ht
      by_cases hstarts : pat <+: t
      · obtain ⟨u, rfl⟩ := hstarts
        have hlength := List.length_pos_iff.mpr hpat
        rw [List.length_append] at ht
        exact found u (ih u (by omega))
      · cases t with
        | nil => exact nil
        | cons c t => exact kept c t hstarts (ih t (Nat.le_of_succ_le_succ ht))
  exact hall t.length t (Nat.le_refl _)

/-- A replacement by one character makes no text longer. -/
theorem length_replace_le (hpat : pat ≠ []) (c : α) (t : List α) :
    (replace pat [c] t).length ≤ t.length := by
  induction t using replace_induction pat hpat with
  | nil => exact Nat.le_refl _
  | found t ih =>
    have hlength := List.length_pos_iff.mpr hpat
    rw [replace_append hpat, List.length_append, List.length_append, List.length_singleton]
    omega
  | kept d t hd ih =>
    rw [replace_cons hd]
    exact Nat.succ_le_succ ih

/-- Only a text without a match keeps its length. -/
theorem length_replace_eq_iff (hpat : 2 ≤ pat.length) (c : α) (t : List α) :
    (replace pat [c] t).length = t.length ↔ ¬pat <:+: t := by
  have hne : pat ≠ [] := List.length_pos_iff.mp (by omega)
  induction t using replace_induction pat hne with
  | nil =>
    refine iff_of_true rfl fun h => hne ?_
    exact List.eq_nil_of_infix_nil h
  | found t ih =>
    have hle := length_replace_le hne c t
    refine iff_of_false ?_ (not_not.mpr (List.prefix_append pat t).isInfix)
    rw [replace_append hne, List.length_append, List.length_append, List.length_singleton]
    omega
  | kept d t hd ih =>
    have hrest : (replace pat [c] t).length = t.length ↔ ¬pat <:+: t := ih
    rw [replace_cons hd, List.length_cons, List.length_cons, List.infix_cons_iff, not_or,
      Nat.add_right_cancel_iff, hrest]
    exact (and_iff_right hd).symm

/-- A text without a match stays as it is. -/
theorem replace_eq_self_iff (hpat : 2 ≤ pat.length) (c : α) (t : List α) :
    replace pat [c] t = t ↔ ¬pat <:+: t := by
  refine ⟨fun h => (length_replace_eq_iff hpat c t).mp (congrArg List.length h), fun h => ?_⟩
  induction t with
  | nil => rfl
  | cons d t ih =>
    obtain ⟨hstarts, hrest⟩ := not_or.mp (mt List.infix_cons_iff.mpr h)
    rw [replace_cons hstarts, ih hrest]

theorem mem_replace {x : α} (hpat : pat ≠ []) (hx : x ∈ replace pat rep t) : x ∈ rep ∨ x ∈ t := by
  induction t using replace_induction pat hpat with
  | nil => exact .inr hx
  | found t ih =>
    rw [replace_append hpat, List.mem_append] at hx
    rcases hx with hx | hx
    · exact .inl hx
    · exact (ih hx).imp_right fun h => List.mem_append_right pat h
  | kept d t hd ih =>
    rw [replace_cons hd] at hx
    rcases List.mem_cons.mp hx with rfl | hx
    · exact .inr List.mem_cons_self
    · exact (ih hx).imp_right fun h => List.mem_cons_of_mem d h

theorem head?_replace {x : α} (hpat : pat ≠ []) (hx : (replace pat [c] t).head? = some x) :
    x = c ∨ t.head? = some x := by
  induction t using replace_induction pat hpat with
  | nil => exact .inr hx
  | found t _ =>
    rw [replace_append hpat] at hx
    exact .inl (Option.some.inj hx).symm
  | kept d t hd _ =>
    rw [replace_cons hd] at hx
    exact .inr hx

theorem replace_ne_nil (hpat : pat ≠ []) (ht : t ≠ []) : replace pat [c] t ≠ [] := by
  by_cases hstarts : pat <+: t
  · obtain ⟨u, rfl⟩ := hstarts
    rw [replace_append hpat]
    exact List.cons_ne_nil _ _
  · cases t with
    | nil => exact absurd rfl ht
    | cons d t =>
      rw [replace_cons hstarts]
      exact List.cons_ne_nil _ _

/-- `str::replace` of one character. -/
def replaceChar {α : Type} [DecidableEq α] (c : α) (rep t : List α) : List α :=
  t.flatMap fun x => if x = c then rep else [x]

end Replacing

section Bytes

/-- `str::as_bytes`. -/
def encodeUtf8 (t : List Char) : List UInt8 := t.flatMap String.utf8EncodeChar

/-- `str::from_utf8`. -/
def decodeUtf8 (bytes : List UInt8) : Option (List Char) :=
  bytes.toByteArray.utf8Decode?.map Array.toList

@[simp] theorem encodeUtf8_append (t u : List Char) :
    encodeUtf8 (t ++ u) = encodeUtf8 t ++ encodeUtf8 u := List.flatMap_append

theorem decodeUtf8_encodeUtf8 (t : List Char) : decodeUtf8 (encodeUtf8 t) = some t := by
  have hdecode : (encodeUtf8 t).toByteArray.utf8Decode? = some t.toArray :=
    List.utf8Decode?_utf8Encode
  rw [decodeUtf8, hdecode]
  rfl

theorem decodeUtf8_eq_some_iff {bytes : List UInt8} {t : List Char} :
    decodeUtf8 bytes = some t ↔ bytes = encodeUtf8 t := by
  constructor
  · intro h
    obtain ⟨a, ha, rfl⟩ := Option.map_eq_some_iff.mp h
    have hvalid := ByteArray.isSome_utf8Decode?_iff.mp (Option.isSome_of_eq_some ha)
    obtain ⟨u, hu⟩ := hvalid
    have hbytes : bytes = encodeUtf8 u := List.toByteArray_inj.mp hu
    have hback := decodeUtf8_encodeUtf8 u
    rw [← hbytes, h] at hback
    rw [Option.some.inj hback]
    exact hbytes
  · rintro rfl
    exact decodeUtf8_encodeUtf8 t

theorem encodeUtf8_inj {t u : List Char} (h : encodeUtf8 t = encodeUtf8 u) : t = u := by
  have hdecode := decodeUtf8_encodeUtf8 t
  rw [h, decodeUtf8_encodeUtf8] at hdecode
  exact (Option.some.inj hdecode).symm

theorem encodeUtf8_newline : encodeUtf8 ['\n'] = [10] := by decide

/-- The byte of a line feed is in no other character. -/
theorem mem_utf8EncodeChar_iff (c : Char) : 10 ∈ String.utf8EncodeChar c ↔ c = '\n' := by
  have hbyte : ∀ n, n < 256 → (10 : UInt8) = UInt8.ofNat n → n = 10 := by
    intro n hn h
    have hnat := congrArg UInt8.toNat h
    rw [UInt8.toNat_ofNat_of_lt' hn] at hnat
    exact hnat.symm
  have hhigh : ∀ n, 128 ≤ n → n < 256 → (10 : UInt8) ≠ UInt8.ofNat n := by
    intro n hlow hn h
    have hten := hbyte n hn h
    omega
  constructor
  · intro h
    unfold String.utf8EncodeChar at h
    dsimp only at h
    split at h
    · have hten := hbyte _ (by omega) (List.mem_singleton.mp h)
      exact Char.ext (UInt32.toNat_inj.mp hten)
    · -- every byte of a longer character has its highest bit set
      exfalso
      split at h
      · rw [List.mem_cons, List.mem_singleton] at h
        rcases h with h | h <;> exact hhigh _ (by omega) (by omega) h
      · split at h
        · rw [List.mem_cons, List.mem_cons, List.mem_singleton] at h
          rcases h with h | h | h <;> exact hhigh _ (by omega) (by omega) h
        · rw [List.mem_cons, List.mem_cons, List.mem_cons, List.mem_singleton] at h
          rcases h with h | h | h | h <;> exact hhigh _ (by omega) (by omega) h
  · rintro rfl
    decide

@[simp] theorem encodeUtf8_eq_nil_iff {t : List Char} : encodeUtf8 t = [] ↔ t = [] := by
  cases t with
  | nil => exact iff_of_true rfl rfl
  | cons c t =>
    refine iff_of_false (fun h => ?_) (List.cons_ne_nil c t)
    exact String.utf8EncodeChar_ne_nil (List.append_eq_nil_iff.mp h).1

/-- The bytes end with a line feed when the text does. -/
theorem getLast?_encodeUtf8_iff (t : List Char) :
    (encodeUtf8 t).getLast? = some 10 ↔ t.getLast? = some '\n' := by
  rcases List.eq_nil_or_concat t with rfl | ⟨u, c, rfl⟩
  · exact iff_of_false (fun h => by cases h) fun h => by cases h
  · have hlast : encodeUtf8 [c] = String.utf8EncodeChar c := List.flatMap_singleton ..
    rw [List.concat_eq_append]
    rw [List.getLast?_concat, encodeUtf8_append, hlast,
      List.getLast?_append_of_ne_nil _ String.utf8EncodeChar_ne_nil]
    constructor
    · intro h
      exact congrArg some ((mem_utf8EncodeChar_iff c).mp (List.mem_of_getLast? h))
    · intro h
      rw [Option.some.inj h]
      rfl

end Bytes

end StorageManager.Lib.Text
