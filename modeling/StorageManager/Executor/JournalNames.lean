import StorageManager.Executor.JournalDirectory

/-!
# The names of the journal directory

A final name tells its journal and is never a staging or a history name; the journals
themselves are listed in the order of their ids.
-/

namespace StorageManager.Executor.JournalStore

open Lib.Directory
open Planner.ExecutionGuard (OperationJournal)

set_option autoImplicit false

theorem stripSuffix_eq_some_iff {stop value rest : String} :
    stripSuffix stop value = some rest ↔ value = rest ++ stop := by
  unfold stripSuffix
  simp only [List.isSuffixOf_iff_suffix]
  constructor
  · intro h
    by_cases hsuffix : stop.toList <:+ value.toList
    · rw [if_pos hsuffix] at h
      have hrest := Option.some.inj h
      have happend := List.suffix_iff_eq_append.mp hsuffix
      rw [← String.toList_inj, String.toList_append, ← hrest, String.toList_ofList]
      exact happend.symm
    · rw [if_neg hsuffix] at h
      cases h
  · intro h
    have hlist : value.toList = rest.toList ++ stop.toList := by
      rw [h, String.toList_append]
    rw [if_pos ⟨rest.toList, hlist.symm⟩, hlist]
    have hlength : value.length - stop.length = rest.toList.length := by
      rw [h, String.length_append, String.length_toList]
      omega
    rw [hlength, List.take_left, String.ofList_toList]

theorem finalName_inj {id id' : String} : finalName id = finalName id' ↔ id = id' := by
  constructor
  · intro h
    have htext : id ++ ".json" = id' ++ ".json" := OsString.text.inj h
    rw [← String.toList_inj, String.toList_append, String.toList_append] at htext
    exact String.toList_inj.mp (List.append_cancel_right htext)
  · rintro rfl
    rfl

/-- An id begins with a digit or a letter, and so does its final name. -/
theorem historyIdentity_finalName {id : String} (hid : isLowerHexDigest id = true) :
    historyIdentity (id ++ ".json") = none := by
  obtain ⟨hsize, hdigits⟩ := Bool.and_eq_true_iff.mp hid
  have hstrip : stripPrefix "." (id ++ ".json") = none := by
    unfold stripPrefix
    rw [if_neg]
    rw [String.toList_append, List.isPrefixOf_iff_prefix]
    intro hprefix
    cases hchars : id.toList with
    | nil =>
      rw [String.toList_eq_nil_iff] at hchars
      rw [hchars] at hsize
      exact absurd hsize (by decide)
    | cons c cs =>
      rw [hchars] at hprefix hdigits
      have hdot : '.' = c := (List.cons_prefix_cons.mp hprefix).1
      have hc := (List.all_eq_true.mp hdigits) c List.mem_cons_self
      rw [← hdot] at hc
      exact absurd hc (by decide)
  unfold historyIdentity
  rw [hstrip]
  rfl

/-- A final name ends with a letter that no number and no digest ends with. -/
theorem text_ne_finalName {front back id : String} {c : Char}
    (hback : back.toList.getLast? = some c) (hc : c ≠ 'n') :
    OsString.text (front ++ back) ≠ finalName id := by
  intro h
  have htext : front ++ back = id ++ ".json" := OsString.text.inj h
  rw [← String.toList_inj, String.toList_append, String.toList_append] at htext
  have hlast := congrArg List.getLast? htext
  have hjson : (".json".toList).getLast? = some 'n' := rfl
  rw [List.getLast?_append, List.getLast?_append, hback, hjson] at hlast
  exact hc (Option.some.inj hlast)

theorem stagingName_ne_finalName (id id' : String) (pid sequence : Nat) :
    stagingName id pid sequence ≠ finalName id' := by
  have hname : stagingName id pid sequence =
      .text (s!".{id}.tmp-{pid}-" ++ toString sequence) := rfl
  have hne : (toString sequence).toList ≠ [] := by
    rw [Nat.toString_eq_repr, Nat.toList_repr]
    exact Nat.toDigits_ne_nil
  have hdigit := Nat.isDigit_of_mem_toDigits (b := 10) (n := sequence) (by decide) (by decide)
    (c := (toString sequence).toList.getLast hne) (by
      rw [← Nat.toList_repr, ← Nat.toString_eq_repr]
      exact List.getLast_mem hne)
  rw [hname]
  refine text_ne_finalName (List.getLast?_eq_some_getLast hne) ?_
  intro hn
  rw [hn] at hdigit
  exact absurd hdigit (by decide)

theorem historyName_ne_finalName {digest : String} (hdigest : isSha256Hex digest = true)
    (id id' : String) (events : Nat) : historyName id events digest ≠ finalName id' := by
  have hname : historyName id events digest = .text (s!".{id}.history-{events}-" ++ digest) := rfl
  obtain ⟨hsize, hdigits⟩ := Bool.and_eq_true_iff.mp hdigest
  have hne : digest.toList ≠ [] := by
    intro hnil
    rw [String.toList_eq_nil_iff] at hnil
    rw [hnil] at hsize
    exact absurd hsize (by decide)
  have hdigit := List.all_eq_true.mp hdigits _ (List.getLast_mem hne)
  rw [hname]
  refine text_ne_finalName (List.getLast?_eq_some_getLast hne) ?_
  intro hn
  rw [hn] at hdigit
  exact absurd hdigit (by decide)

theorem stagingName_ne_historyName (id digest : String) (pid sequence events : Nat) :
    stagingName id pid sequence ≠ historyName id events digest := by
  intro h
  have htext : ("." ++ id ++ ".tmp-" ++ toString pid ++ "-" ++ toString sequence) =
      ("." ++ id ++ ".history-" ++ toString events ++ "-" ++ digest) := OsString.text.inj h
  have hlists := congrArg String.toList htext
  simp only [String.toList_append, List.append_assoc] at hlists
  have hrest := List.append_cancel_left (List.append_cancel_left hlists)
  have hsecond := congrArg (fun cs => cs[1]?) hrest
  cases hsecond

theorem sortJournals_perm (journals : List OperationJournal) :
    (sortJournals journals).Perm journals := List.mergeSort_perm _ _

theorem sortJournals_sorted (journals : List OperationJournal) :
    (sortJournals journals).Pairwise fun a b => a.journalId ≤ b.journalId := by
  refine (List.pairwise_mergeSort ?_ ?_ journals).imp fun h => of_decide_eq_true h
  · intro a b c hab hbc
    exact decide_eq_true (le_trans (of_decide_eq_true hab) (of_decide_eq_true hbc))
  · intro a b
    rw [Bool.or_eq_true, decide_eq_true_eq, decide_eq_true_eq]
    exact le_total _ _

end StorageManager.Executor.JournalStore
