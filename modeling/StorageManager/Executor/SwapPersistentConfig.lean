import StorageManager.Discovery.Fstab
import StorageManager.Executor.SwapAuthorization

/-!
# The file system table after a swap replacement

The line of the retiring swap is replaced by one for the swapfile; the other lines are copied.
The result is parsed again before it is written.
-/

namespace StorageManager.Executor.Swap.PersistentConfig

open Core
open Discovery
open Lib.Checks
open Lib.Text

set_option autoImplicit false

section Rewriting

inductive ProductionSwapPersistentConfigError where
  | retiringEntryMismatch
  | replacementVerificationFailed
  | parse (source : FstabProblem)
  deriving DecidableEq

def exactEntry (entry : FstabEntry) (activation : ProductionSwapReplacementActivationIntent) : Bool :=
  entry.source == activation.persistentSwapSource &&
    entry.target == activation.persistentSwapTarget && entry.fsType == "swap" &&
    entry.options == activation.persistentSwapOptions &&
    entry.dump == activation.persistentSwapDump && entry.pass == activation.persistentSwapPass

def escapeFstabField (value : String) : List Char :=
  replaceChar '\t' "\\011".toList (replaceChar ' ' "\\040".toList
    (replaceChar '\\' "\\134".toList value.toList))

def replacementLine (activation : ProductionSwapReplacementActivationIntent) : List Char :=
  ['\t'].intercalate [escapeFstabField activation.swapfilePath,
    escapeFstabField activation.persistentSwapTarget, "swap".toList,
    [','].intercalate (activation.persistentSwapOptions.map String.toList),
    (toString activation.persistentSwapDump).toList,
    (toString activation.persistentSwapPass).toList]

/-- The loop of `rewrite_exact_swap_entry`: the output so far and the number of matches. -/
def rewriteSegments (activation : ProductionSwapReplacementActivationIntent) :
    List Char → Nat → List (List Char) →
      Except ProductionSwapPersistentConfigError (List Char × Nat)
  | output, exactMatches, [] => .ok (output, exactMatches)
  | output, exactMatches, segment :: segments => do
    let (line, ending) := splitEnding segment
    let trimmed := trim line
    if trimmed = [] ∨ trimmed.head? = some '#' then
      rewriteSegments activation (output ++ line ++ ending) exactMatches segments
    else
      let parsed ← (parseFstab line).mapError (.parse ∘ .fstab)
      match parsed with
      | [entry] =>
        if exactEntry entry activation then
          rewriteSegments activation (output ++ replacementLine activation ++ ending)
            (exactMatches + 1) segments
        else if entry.fsType = "swap" ∧ entry.source = activation.persistentSwapSource then
          .error .retiringEntryMismatch
        else rewriteSegments activation (output ++ line ++ ending) exactMatches segments
      | _ => .error .retiringEntryMismatch

def rewriteExactSwapEntry (input : List UInt8)
    (activation : ProductionSwapReplacementActivationIntent) :
    Except ProductionSwapPersistentConfigError (List UInt8) :=
  match decodeUtf8 input with
  | none => .error (.parse .utf8)
  | some text => do
    let (output, exactMatches) ← rewriteSegments activation [] 0 (splitInclusive text)
    refuse (exactMatches ≠ 1) .retiringEntryMismatch
    .ok (encodeUtf8 output)

/-- The entry that must stand for the retired one. -/
def replacementEntry (entry : FstabEntry)
    (activation : ProductionSwapReplacementActivationIntent) : Bool :=
  entry.fsType == "swap" && entry.source == activation.swapfilePath &&
    entry.target == activation.persistentSwapTarget &&
    entry.options == activation.persistentSwapOptions &&
    entry.dump == activation.persistentSwapDump && entry.pass == activation.persistentSwapPass

def verifyRewritten (bytes : List UInt8) (activation : ProductionSwapReplacementActivationIntent) :
    Except ProductionSwapPersistentConfigError Unit :=
  match decodeUtf8 bytes with
  | none => .error (.parse .utf8)
  | some text => do
    let entries ← (parseFstab text).mapError (.parse ∘ .fstab)
    refuse (entries.any fun entry =>
      entry.fsType == "swap" && entry.source == activation.persistentSwapSource)
      .replacementVerificationFailed
    refuse (entries.countP (replacementEntry · activation) ≠ 1) .replacementVerificationFailed

end Rewriting

section Loop

variable {activation : ProductionSwapReplacementActivationIntent} {output output' : List Char}
  {k k' : Nat} {segment : List Char} {segments : List (List Char)}

theorem parseFstab_line {line : List Char} (hline : '\n' ∉ line) (hne : line ≠ []) :
    parseFstab line = parseLines 1 [line] := by
  rw [parseFstab_eq, splitInclusive_last hline hne, bodies, List.map_singleton,
    splitEnding_last hline]

/-- What one turn of the loop does: the segment is copied, or it is the exact entry. -/
theorem rewriteSegments_cons (hline : '\n' ∉ (splitEnding segment).1)
    (h : rewriteSegments activation output k (segment :: segments) = .ok (output', k')) :
    (∃ entry, parseLine 1 (splitEnding segment).1 = .ok entry ∧
      (∀ e ∈ entry, ¬exactEntry e activation = true) ∧
      rewriteSegments activation (output ++ (splitEnding segment).1 ++ (splitEnding segment).2) k
        segments = .ok (output', k')) ∨
    ∃ e, parseLine 1 (splitEnding segment).1 = .ok (some e) ∧ exactEntry e activation = true ∧
      rewriteSegments activation (output ++ replacementLine activation ++ (splitEnding segment).2)
        (k + 1) segments = .ok (output', k') := by
  rw [rewriteSegments] at h
  generalize splitEnding segment = parts at h hline ⊢
  obtain ⟨line, ending⟩ := parts
  dsimp only at h hline ⊢
  by_cases hskip : trim line = [] ∨ (trim line).head? = some '#'
  · rw [if_pos hskip] at h
    exact .inl ⟨none, parseLine_eq_ok_none_iff.mpr hskip, fun e he => absurd he (Option.not_mem_none e), h⟩
  · rw [if_neg hskip] at h
    have hne : line ≠ [] := by
      rintro rfl
      exact hskip (.inl rfl)
    obtain ⟨parsed, hparsed, h⟩ := bind_eq_ok_iff.mp h
    rw [mapError_eq_ok_iff, parseFstab_line hline hne, parseLines_singleton_eq_ok_iff] at hparsed
    obtain ⟨entry, hentry, rfl⟩ := hparsed
    cases entry with
    | none => exact absurd (parseLine_eq_ok_none_iff.mp hentry) hskip
    | some e =>
      dsimp only [Option.toList] at h
      by_cases hexact : exactEntry e activation = true
      · rw [if_pos hexact] at h
        exact .inr ⟨e, hentry, hexact, h⟩
      · rw [if_neg hexact] at h
        split at h
        · cases h
        · refine .inl ⟨some e, hentry, fun e' he' => ?_, h⟩
          rw [← Option.some.inj he']
          exact hexact

/-- The parsed entries of some segments. -/
def Entries (segments : List (List Char)) (es : List FstabEntry) : Prop :=
  parseLines 1 (bodies segments) = .ok es

theorem Entries.cons {entry : Option FstabEntry} {es : List FstabEntry}
    (hentry : parseLine 1 (splitEnding segment).1 = .ok entry) (h : Entries segments es) :
    Entries (segment :: segments) (entry.toList ++ es) :=
  parseLines_cons_eq_ok_iff.mpr ⟨entry, es, hentry, parseLines_ok h 2, rfl⟩

/-- A line between other lines. -/
theorem Entries.insert {before after : List (List Char)} {line ending : List Char}
    {es fs : List FstabEntry} {e : FstabEntry} (hline : '\n' ∉ line) (hending : IsEnding ending)
    (hbefore : Entries before es) (he : parseLine 1 line = .ok (some e)) (hafter : Entries after fs) :
    Entries (before ++ (line ++ ending) :: after) (es ++ e :: fs) := by
  have hsegment : parseLine 1 (splitEnding (line ++ ending)).1 = .ok (some e) := by
    rw [splitEnding_append hline hending]
    exact he
  have hrest : Entries ((line ++ ending) :: after) (e :: fs) := hafter.cons hsegment
  unfold Entries bodies
  rw [List.map_append]
  exact parseLines_append_eq_ok_iff.mpr ⟨es, e :: fs, hbefore, hrest, rfl⟩

/-- Without a further match everything is copied. -/
theorem rewriteSegments_copies (hs : Segmented segments)
    (h : rewriteSegments activation output k segments = .ok (output', k')) :
    k ≤ k' ∧ (k' = k → output' = output ++ segments.flatten ∧ ∃ es, Entries segments es ∧
      ∀ e ∈ es, ¬exactEntry e activation = true) := by
  induction segments generalizing output k with
  | nil =>
    obtain ⟨rfl, rfl⟩ := Prod.mk.inj (Except.ok.inj h)
    exact ⟨Nat.le_refl _, fun _ => ⟨(List.append_nil _).symm, [], rfl, fun e he => absurd he List.not_mem_nil⟩⟩
  | cons segment segments ih =>
    have hparts := hs.splitEnding List.mem_cons_self
    obtain ⟨hline, -, hsegment⟩ := hparts
    rcases rewriteSegments_cons hline h with ⟨entry, hentry, hother, h⟩ | ⟨e, -, -, h⟩
    · obtain ⟨hle, hsame⟩ := ih hs.tail h
      refine ⟨hle, fun hk => ?_⟩
      obtain ⟨houtput, es, hes, hnone⟩ := hsame hk
      refine ⟨?_, _, hes.cons hentry, fun e he => ?_⟩
      · rw [houtput, List.flatten_cons, List.append_assoc output, ← hsegment, List.append_assoc]
      · rcases List.mem_append.mp he with he | he
        · exact hother e (Option.mem_toList.mp he)
        · exact hnone e he
    · obtain ⟨hle, -⟩ := ih hs.tail h
      exact ⟨by omega, fun hk => by omega⟩

/-- With one match one line is replaced. -/
theorem rewriteSegments_replaces (hs : Segmented segments)
    (h : rewriteSegments activation output k segments = .ok (output', k + 1)) :
    ∃ before segment after, segments = before ++ segment :: after ∧
      output' = output ++ before.flatten ++
        (replacementLine activation ++ (splitEnding segment).2) ++ after.flatten ∧
      ∃ es e fs, Entries before es ∧ parseLine 1 (splitEnding segment).1 = .ok (some e) ∧
        Entries after fs ∧ exactEntry e activation = true ∧
        ∀ x ∈ es ++ fs, ¬exactEntry x activation = true := by
  induction segments generalizing output with
  | nil =>
    have hcount := (Prod.mk.inj (Except.ok.inj h)).2
    omega
  | cons segment segments ih =>
    obtain ⟨hline, -, hsegment⟩ := hs.splitEnding List.mem_cons_self
    rcases rewriteSegments_cons hline h with ⟨entry, hentry, hother, h⟩ | ⟨e, hentry, hexact, h⟩
    · obtain ⟨before, replaced, after, rfl, rfl, es, e, fs, hes, he, hfs, hexact, hnone⟩ := ih hs.tail h
      refine ⟨segment :: before, replaced, after, rfl, ?_, entry.toList ++ es, e, fs,
        hes.cons hentry, he, hfs, hexact, fun x hx => ?_⟩
      · rw [List.flatten_cons, List.append_assoc output, ← hsegment]
        simp only [List.append_assoc]
      · rw [List.append_assoc] at hx
        rcases List.mem_append.mp hx with hx | hx
        · exact hother x (Option.mem_toList.mp hx)
        · exact hnone x hx
    · obtain ⟨-, hsame⟩ := rewriteSegments_copies hs.tail h
      obtain ⟨houtput, fs, hfs, hnone⟩ := hsame rfl
      refine ⟨[], segment, segments, rfl, ?_, [], e, fs, rfl, hentry, hfs, hexact, hnone⟩
      rw [houtput, List.flatten_nil, List.append_nil]
      simp only [List.append_assoc]

end Loop

section Accepted

variable {activation : ProductionSwapReplacementActivationIntent} {input output : List UInt8}
  {e : FstabEntry}

theorem escapeFstabField_eq (value : String) :
    escapeFstabField value = Lib.Octal.escape ['\\', ' ', '\t'] value.toList :=
  escapeBlanks_eq value.toList

theorem exactEntry_iff : exactEntry e activation = true ↔
    e.source = activation.persistentSwapSource ∧ e.target = activation.persistentSwapTarget ∧
      e.fsType = "swap" ∧ e.options = activation.persistentSwapOptions ∧
      e.dump = activation.persistentSwapDump ∧ e.pass = activation.persistentSwapPass := by
  simp only [exactEntry, Bool.and_eq_true, beq_iff_eq, and_assoc]

/-- The line of the writer is the printed line of the entry with the other source. -/
theorem replacementLine_eq (h : exactEntry e activation = true) :
    replacementLine activation = ['\t'].intercalate (printedFields activation.swapfilePath e.target
      e.fsType e.options e.dump e.pass) := by
  obtain ⟨-, htarget, hfsType, hoptions, hdump, hpass⟩ := exactEntry_iff.mp h
  rw [replacementLine, escapeFstabField_eq, escapeFstabField_eq, htarget, hfsType, hoptions, hdump,
    hpass]
  rfl

/-- What the verification of a rewritten table finds. -/
theorem verifyRewritten_ok (h : verifyRewritten output activation = .ok ()) :
    ∃ text entries, output = encodeUtf8 text ∧ parseFstab text = .ok entries ∧
      (∀ x ∈ entries, ¬(x.fsType = "swap" ∧ x.source = activation.persistentSwapSource)) ∧
      ∃ r ∈ entries, r.source = activation.swapfilePath := by
  unfold verifyRewritten at h
  cases htext : decodeUtf8 output with
  | none =>
    rw [htext] at h
    cases h
  | some text =>
    rw [htext] at h
    obtain ⟨entries, hentries, h⟩ := bind_eq_ok_iff.mp h
    rw [check_eq_ok_iff, refuse_eq_ok_iff, refuse_eq_ok_iff, not_not] at h
    obtain ⟨hretired, hcount⟩ := h
    refine ⟨text, entries, decodeUtf8_eq_some_iff.mp htext, mapError_eq_ok_iff.mp hentries, ?_, ?_⟩
    · rintro x hx ⟨hfsType, hsource⟩
      refine hretired (List.any_eq_true.mpr ⟨x, hx, ?_⟩)
      rw [hfsType, hsource, beq_self_eq_true, beq_self_eq_true, Bool.and_true]
    · have hpos : 0 < entries.countP (replacementEntry · activation) := by omega
      obtain ⟨r, hr, hreplaces⟩ := List.countP_pos_iff.mp hpos
      simp only [replacementEntry, Bool.and_eq_true, beq_iff_eq] at hreplaces
      exact ⟨r, hr, hreplaces.1.1.1.1.2⟩

/-- What the rewriting of a table does. -/
theorem rewriteExactSwapEntry_ok (h : rewriteExactSwapEntry input activation = .ok output) :
    ∃ text before segment after, input = encodeUtf8 text ∧
      splitInclusive text = before ++ segment :: after ∧
      output = encodeUtf8 (before.flatten ++
        (replacementLine activation ++ (splitEnding segment).2) ++ after.flatten) ∧
      ∃ es e fs, Entries before es ∧ parseLine 1 (splitEnding segment).1 = .ok (some e) ∧
        Entries after fs ∧ exactEntry e activation = true ∧
        ∀ x ∈ es ++ fs, ¬exactEntry x activation = true := by
  unfold rewriteExactSwapEntry at h
  cases htext : decodeUtf8 input with
  | none =>
    rw [htext] at h
    cases h
  | some text =>
    rw [htext] at h
    obtain ⟨⟨written, exactMatches⟩, hloop, h⟩ := bind_eq_ok_iff.mp h
    rw [check_eq_ok_iff, refuse_eq_ok_iff, not_not] at h
    obtain ⟨hone, hbytes⟩ := h
    rw [hone] at hloop
    obtain ⟨before, segment, after, hsegments, hwritten, hentries⟩ :=
      rewriteSegments_replaces (segmented_splitInclusive text) hloop
    refine ⟨text, before, segment, after, decodeUtf8_eq_some_iff.mp htext, hsegments, ?_, hentries⟩
    rw [← Except.ok.inj hbytes, hwritten, List.nil_append]

/-- One line is another one, and its entry has the swapfile for its source. -/
structure Rewritten (activation : ProductionSwapReplacementActivationIntent)
    (text text' : List Char) : Prop where
  lines : ∃ before line line' ending after, IsEnding ending ∧ '\n' ∉ line ∧ '\n' ∉ line' ∧
    line ≠ line' ∧ splitInclusive text = before ++ (line ++ ending) :: after ∧
    splitInclusive text' = before ++ (line' ++ ending) :: after
  entries : ∃ es e fs, parseFstab text = .ok (es ++ e :: fs) ∧ exactEntry e activation = true ∧
    (∀ x ∈ es ++ fs, ¬exactEntry x activation = true) ∧
    parseFstab text' = .ok (es ++ { e with source := activation.swapfilePath } :: fs)

/-- A rewritten table that passes its verification differs in the line of the retired swap. Sealing
an activation requires an option. -/
theorem rewrite_replaces (hoptions : activation.persistentSwapOptions ≠ [])
    (hrewrite : rewriteExactSwapEntry input activation = .ok output)
    (hverify : verifyRewritten output activation = .ok ()) :
    ∃ text text', input = encodeUtf8 text ∧ output = encodeUtf8 text' ∧
      Rewritten activation text text' := by
  obtain ⟨text, before, segment, after, rfl, hsegments, houtput, es, e, fs, hes, he, hfs, hexact,
    hnone⟩ := rewriteExactSwapEntry_ok hrewrite
  obtain ⟨text', entries, hbytes, hentries, hretired, r, hr, hsource⟩ := verifyRewritten_ok hverify
  have hsegmented := segmented_splitInclusive text
  have hsegment : segment ∈ splitInclusive text := by
    rw [hsegments]
    exact List.mem_append_right before List.mem_cons_self
  obtain ⟨hline, hending, hparts⟩ := hsegmented.splitEnding hsegment
  -- the new entry has the well-formed fields of the old one and of the verified replacement
  have hold := parseLine_wellFormed he
  have hnew := parseLines_wellFormed hentries r hr
  have hwritten : WellFormed { e with source := activation.swapfilePath } :=
    { hold with source := hsource ▸ hnew.source, comment := hsource ▸ hnew.comment }
  have hprinted := replacementLine_eq hexact
  have hmounted : e.options ≠ [] := by
    rw [(exactEntry_iff.mp hexact).2.2.2.1]
    exact hoptions
  have hread := parseLine_printed (n := 1) hwritten hmounted
  have hparsed : parseLine 1 (replacementLine activation) =
      .ok (some { e with source := activation.swapfilePath }) := by
    rw [hprinted]
    exact hread
  have hfeed : '\n' ∉ replacementLine activation := by
    rw [hprinted]
    have hfree := newline_not_mem_printed hwritten
    exact hfree
  have hnonempty : replacementLine activation ≠ [] := by
    intro hempty
    rw [hempty] at hparsed
    exact (parseLine_eq_ok_some_iff.mp hparsed).1 (.inl rfl)
  have hsegments' : splitInclusive text' =
      before ++ (replacementLine activation ++ (splitEnding segment).2) :: after := by
    have hset := (hsegments ▸ hsegmented).set hfeed hnonempty
    rw [← hset.splitInclusive_flatten, List.flatten_append, List.flatten_cons, ← List.append_assoc]
    exact congrArg splitInclusive (encodeUtf8_inj (hbytes.symm.trans houtput))
  have hbefore : parseFstab text = .ok (es ++ e :: fs) := by
    rw [parseFstab_eq, hsegments, hparts]
    exact Entries.insert hline hending hes he hfs
  have hafter : parseFstab text' =
      .ok (es ++ { e with source := activation.swapfilePath } :: fs) := by
    rw [parseFstab_eq, hsegments']
    exact Entries.insert hfeed hending hes hparsed hfs
  refine ⟨text, text', rfl, hbytes, ⟨before, _, _, _, after, hending, hline, hfeed, ?_, ?_,
    hsegments'⟩, ⟨es, e, fs, hbefore, hexact, hnone, hafter⟩⟩
  · -- the same line would leave the retired entry in the table
    intro hsame
    rw [hsame, hparsed] at he
    have hentry : { e with source := activation.swapfilePath } = e :=
      Option.some.inj (Except.ok.inj he)
    have hmem : e ∈ entries := by
      rw [hafter, hentry] at hentries
      rw [← Except.ok.inj hentries]
      exact List.mem_append_right es List.mem_cons_self
    obtain ⟨hretiring, -, hfsType, -⟩ := exactEntry_iff.mp hexact
    exact hretired e hmem ⟨hfsType, hretiring⟩
  · rw [← hparts]
    exact hsegments

def sampleActivation : ProductionSwapReplacementActivationIntent where
  schemaVersion := 1
  activationId := "activation"
  profile := .tailSwapPartitionToExt4Swapfile
  swapReplacementIntentId := "intent"
  target := "/"
  disk := "/dev/sda"
  retiringSwapDevice := "/dev/sda3"
  retiringSwapBytes := 4096
  retiringSwapPriority := -2
  persistentSwapSource := "/dev/sda3"
  persistentSwapTarget := "none"
  persistentSwapOptions := ["sw"]
  persistentSwapDump := 0
  persistentSwapPass := 0
  destinationMount := "/"
  swapfilePath := "/.linux-storage-manager.swap"
  destinationFilesystem := "ext4"
  destinationAvailableBytes := 8192
  swapfileMode := 0o600
  compileFeatureEnabled := true
  executionEnabled := false

def sampleTable : List Char :=
  "/dev/sda1 / ext4 defaults 0 1\n# swap\n/dev/sda3 none swap sw\n".toList

def sampleRewritten : List Char :=
  ("/dev/sda1 / ext4 defaults 0 1\n# swap\n" ++
    "/.linux-storage-manager.swap\tnone\tswap\tsw\t0\t0\n").toList

theorem rewrite_replaces_sample : Rewritten sampleActivation sampleTable sampleRewritten := by
  have hrewrite : rewriteExactSwapEntry (encodeUtf8 sampleTable) sampleActivation =
      .ok (encodeUtf8 sampleRewritten) := by
    rw [rewriteExactSwapEntry, decodeUtf8_encodeUtf8]
    rfl
  have hverify : verifyRewritten (encodeUtf8 sampleRewritten) sampleActivation = .ok () := by
    rw [verifyRewritten, decodeUtf8_encodeUtf8]
    rfl
  obtain ⟨text, text', hinput, houtput, hrewritten⟩ := rewrite_replaces (by decide) hrewrite hverify
  rw [encodeUtf8_inj hinput, encodeUtf8_inj houtput]
  exact hrewritten

end Accepted

end StorageManager.Executor.Swap.PersistentConfig
