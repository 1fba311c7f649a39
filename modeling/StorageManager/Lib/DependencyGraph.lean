import Mathlib.Data.List.Sort
import Mathlib.Logic.Relation
import StorageManager.Lib.Checks

/-!
# Dependency graphs

A list of nodes, each with the nodes it depends on. The check wants distinct nonzero
numbers, known dependencies and no cycle; the search for a cycle goes down the dependencies
and marks what it has entered and what it has left.
-/

namespace StorageManager.Lib.DependencyGraph

open Lib.Checks

set_option autoImplicit false

structure Node where
  id : Nat
  dependsOn : List Nat
  deriving DecidableEq

inductive GraphError where
  | zeroStepId
  | duplicateStepId (id : Nat)
  | unknownDependency (stepId dependency : Nat)
  | selfDependency (id : Nat)
  | dependencyCycle
  deriving DecidableEq

inductive Mark where
  | fresh
  | entered
  | left
  deriving DecidableEq

/-- The numbers are nonzero and each is new. -/
def checkIds : List Node → List Nat → Except GraphError Unit
  | [], _ => .ok ()
  | node :: nodes, seen => do
    refuse (node.id = 0) .zeroStepId
    refuse (node.id ∈ seen) (.duplicateStepId node.id)
    checkIds nodes (node.id :: seen)

/-- The dependencies of one node. -/
def checkDependencies (ids : List Nat) (id : Nat) : List Nat → Except GraphError Unit
  | [] => .ok ()
  | dependency :: rest => do
    refuse (dependency = id) (.selfDependency id)
    refuse (dependency ∉ ids) (.unknownDependency id dependency)
    checkDependencies ids id rest

def checkAllDependencies (ids : List Nat) : List Node → Except GraphError Unit
  | [] => .ok ()
  | node :: nodes => do
    checkDependencies ids node.id node.dependsOn
    checkAllDependencies ids nodes

def dependencies (nodes : List Node) (id : Nat) : List Nat :=
  match nodes.find? (·.id == id) with
  | some node => node.dependsOn
  | none => []

/-- The search from one node. Each level marks one more node, so as many levels as there are
nodes, and one more, are enough. -/
def visit (deps : Nat → List Nat) : Nat → Nat → (Nat → Mark) → Except GraphError (Nat → Mark)
  | 0, _, _ => .error .dependencyCycle
  | levels + 1, id, marks =>
    match marks id with
    | .entered => .error .dependencyCycle
    | .left => .ok marks
    | .fresh => do
      let marks ← (deps id).foldlM (fun marks d => visit deps levels d marks)
        (Function.update marks id .entered)
      pure (Function.update marks id .left)

def checkGraph (nodes : List Node) : Except GraphError Unit := do
  checkIds nodes []
  checkAllDependencies (nodes.map (·.id)) nodes
  let _ ← ((nodes.map (·.id)).insertionSort (· ≤ ·)).foldlM
    (fun marks id => visit (dependencies nodes) (nodes.length + 1) id marks) fun _ => .fresh
  pure ()

theorem checkIds_eq_ok_iff {nodes : List Node} {seen : List Nat} : checkIds nodes seen = .ok () ↔
    (∀ node ∈ nodes, node.id ≠ 0) ∧ (nodes.map (·.id)).Nodup ∧
      ∀ node ∈ nodes, node.id ∉ seen := by
  induction nodes generalizing seen with
  | nil => simp [checkIds]
  | cons node nodes ih =>
    rw [checkIds, check_eq_ok_iff, check_eq_ok_iff, refuse_eq_ok_iff, refuse_eq_ok_iff, ih,
      List.forall_mem_cons, List.map_cons, List.nodup_cons, List.forall_mem_cons]
    constructor
    · rintro ⟨hzero, hnew, hrest, hnodup, hseen⟩
      refine ⟨⟨hzero, hrest⟩, ⟨fun hmem => ?_, hnodup⟩, hnew, fun other hother => ?_⟩
      · obtain ⟨other, hother, hsame⟩ := List.mem_map.mp hmem
        exact hseen other hother (by rw [hsame]; exact List.mem_cons_self)
      · exact fun hmem => hseen other hother (List.mem_cons_of_mem _ hmem)
    · rintro ⟨⟨hzero, hrest⟩, ⟨hhead, hnodup⟩, hnew, hseen⟩
      refine ⟨hzero, hnew, hrest, hnodup, fun other hother hmem => ?_⟩
      rcases List.mem_cons.mp hmem with hsame | hmem
      · exact hhead (List.mem_map.mpr ⟨other, hother, hsame⟩)
      · exact hseen other hother hmem

/-- What the numbers of an accepted graph are. -/
theorem checkGraph_ids {nodes : List Node} (h : checkGraph nodes = .ok ()) :
    (∀ node ∈ nodes, node.id ≠ 0) ∧ (nodes.map (·.id)).Nodup := by
  have hids := checkIds_eq_ok_iff.mp (check_eq_ok_iff.mp h).1
  exact ⟨hids.1, hids.2.1⟩

theorem checkDependencies_eq_ok_iff {ids : List Nat} {id : Nat} {wanted : List Nat} :
    checkDependencies ids id wanted = .ok () ↔ ∀ d ∈ wanted, d ≠ id ∧ d ∈ ids := by
  induction wanted with
  | nil => simp [checkDependencies]
  | cons d rest ih =>
    rw [checkDependencies, check_eq_ok_iff, check_eq_ok_iff, refuse_eq_ok_iff, refuse_eq_ok_iff,
      not_not, ih, List.forall_mem_cons, and_assoc]

theorem checkAllDependencies_eq_ok_iff {ids : List Nat} {nodes : List Node} :
    checkAllDependencies ids nodes = .ok () ↔
      ∀ node ∈ nodes, ∀ d ∈ node.dependsOn, d ≠ node.id ∧ d ∈ ids := by
  induction nodes with
  | nil => simp [checkAllDependencies]
  | cons node nodes ih =>
    rw [checkAllDependencies, check_eq_ok_iff, checkDependencies_eq_ok_iff, ih,
      List.forall_mem_cons]

theorem exists_of_mem_dependencies {nodes : List Node} {id d : Nat}
    (h : d ∈ dependencies nodes id) : ∃ node ∈ nodes, node.id = id ∧ d ∈ node.dependsOn := by
  unfold dependencies at h
  split at h
  · rename_i node hfind
    exact ⟨node, List.mem_of_find?_eq_some hfind, by simpa using List.find?_some hfind, h⟩
  · exact absurd h List.not_mem_nil

section Reachability

variable {deps : Nat → List Nat} {a b : Nat}

/-- The first node depends on the second, directly or through others. -/
def Depends (deps : Nat → List Nat) : Nat → Nat → Prop :=
  Relation.TransGen fun a b => b ∈ deps a

def Acyclic (deps : Nat → List Nat) : Prop :=
  ∀ id, ¬Depends deps id id

/-- Every walk down the dependencies of the node ends. -/
abbrev Grounded (deps : Nat → List Nat) : Nat → Prop :=
  Acc fun b a => b ∈ deps a

theorem Grounded.not_depends (h : Grounded deps a) : ¬Depends deps a a := by
  induction h with
  | intro a _ ih =>
    intro hcycle
    obtain ⟨b, hb, hback⟩ := Relation.TransGen.head'_iff.mp hcycle
    exact ih b hb (Relation.TransGen.tail' hback hb)

end Reachability

section Search

variable {deps : Nat → List Nat}

/-- What the search does to the marks: what it has left stays left, and is grounded. -/
structure Settles (deps : Nat → List Nat) (marks marks' : Nat → Mark) : Prop where
  keeps : ∀ x, marks x = .left → marks' x = .left
  grounded : (∀ x, marks x = .left → Grounded deps x) → ∀ x, marks' x = .left → Grounded deps x

theorem Settles.refl (marks : Nat → Mark) : Settles deps marks marks :=
  ⟨fun _ h => h, fun h => h⟩

theorem Settles.trans {m₁ m₂ m₃ : Nat → Mark} (h₁ : Settles deps m₁ m₂)
    (h₂ : Settles deps m₂ m₃) : Settles deps m₁ m₃ :=
  ⟨fun x hx => h₂.keeps x (h₁.keeps x hx), fun h => h₂.grounded (h₁.grounded h)⟩

/-- A search from each of several nodes leaves all of them. -/
theorem settles_foldlM {search : (Nat → Mark) → Nat → Except GraphError (Nat → Mark)}
    (hsearch : ∀ m d m', search m d = .ok m' → Settles deps m m' ∧ m' d = .left)
    {ids : List Nat} {marks marks' : Nat → Mark} (h : ids.foldlM search marks = .ok marks') :
    Settles deps marks marks' ∧ ∀ d ∈ ids, marks' d = .left := by
  induction ids generalizing marks with
  | nil =>
    cases h
    exact ⟨Settles.refl _, List.forall_mem_nil _⟩
  | cons d ids ih =>
    rw [List.foldlM_cons] at h
    obtain ⟨m, hm, h⟩ := bind_eq_ok_iff.mp h
    obtain ⟨hone, hleft⟩ := hsearch marks d m hm
    obtain ⟨hrest, hall⟩ := ih h
    exact ⟨hone.trans hrest, List.forall_mem_cons.mpr ⟨hrest.keeps d hleft, hall⟩⟩

theorem visit_settles {levels id : Nat} {marks marks' : Nat → Mark}
    (h : visit deps levels id marks = .ok marks') :
    Settles deps marks marks' ∧ marks' id = .left := by
  induction levels generalizing id marks marks' with
  | zero => cases h
  | succ levels ih =>
    rw [visit] at h
    split at h
    · cases h
    · rename_i hleft
      cases h
      exact ⟨Settles.refl _, hleft⟩
    · rename_i hfresh
      obtain ⟨m, hm, hpure⟩ := bind_eq_ok_iff.mp h
      cases hpure
      obtain ⟨hsettles, hall⟩ := settles_foldlM (fun m d m' hd => ih hd) hm
      have hother : ∀ x, marks x = .left → x ≠ id := by
        intro x hx heq
        rw [heq, hfresh] at hx
        cases hx
      refine ⟨⟨fun x hx => ?_, fun hgrounded x hx => ?_⟩, Function.update_self ..⟩
      · rw [Function.update_of_ne (hother x hx)]
        apply hsettles.keeps
        rw [Function.update_of_ne (hother x hx), hx]
      · -- entering the node marks nothing as left
        have hbefore : ∀ y, Function.update marks id .entered y = .left → Grounded deps y := by
          intro y hy
          by_cases hyid : y = id
          · rw [hyid, Function.update_self] at hy
            cases hy
          · exact hgrounded y (by rwa [Function.update_of_ne hyid] at hy)
        by_cases hxid : x = id
        · rw [hxid]
          exact Acc.intro id fun d hd => hsettles.grounded hbefore d (hall d hd)
        · rw [Function.update_of_ne hxid] at hx
          exact hsettles.grounded hbefore x hx

/-- What the search needs to go through: no node it has entered and not left is below the next
one, and each node it has not seen is among the rest. -/
structure Searchable (deps : Nat → List Nat) (ids rest : List Nat) (id : Nat)
    (marks : Nat → Mark) : Prop where
  above : ∀ x, marks x = .entered → Depends deps x id
  unseen : ∀ x ∈ ids, marks x = .fresh → x ∈ rest

/-- The search leaves what it had entered before as it was, and forgets nothing. -/
structure Continues (marks marks' : Nat → Mark) : Prop where
  entered : ∀ x, marks' x = .entered → marks x = .entered
  fresh : ∀ x, marks' x = .fresh → marks x = .fresh

theorem Continues.trans {m₁ m₂ m₃ : Nat → Mark} (h₁ : Continues m₁ m₂)
    (h₂ : Continues m₂ m₃) : Continues m₁ m₃ :=
  ⟨fun x hx => h₁.entered x (h₂.entered x hx), fun x hx => h₁.fresh x (h₂.fresh x hx)⟩

theorem continues_foldlM {search : (Nat → Mark) → Nat → Except GraphError (Nat → Mark)}
    {ids : List Nat} {marks : Nat → Mark}
    (hsearch : ∀ d ∈ ids, ∀ m, Continues marks m → ∃ m', search m d = .ok m' ∧ Continues m m') :
    ∃ marks', ids.foldlM search marks = .ok marks' ∧ Continues marks marks' := by
  suffices h : ∀ m, Continues marks m →
      ∃ marks', ids.foldlM search m = .ok marks' ∧ Continues marks marks' from
    h marks ⟨fun _ h => h, fun _ h => h⟩
  induction ids with
  | nil => exact fun m hm => ⟨m, rfl, hm⟩
  | cons d ids ih =>
    intro m hm
    obtain ⟨m', hd, hm'⟩ := hsearch d List.mem_cons_self m hm
    obtain ⟨marks', hrest, hcont⟩ :=
      ih (fun e he => hsearch e (List.mem_cons_of_mem d he)) m' (hm.trans hm')
    exact ⟨marks', by rw [List.foldlM_cons, hd]; exact hrest, hcont⟩

/-- With the node entered, and out of the rest, the search may go down any of its dependencies. -/
theorem Searchable.below {ids rest : List Nat} {id d : Nat} {marks m : Nat → Mark}
    (h : Searchable deps ids rest id marks) (hd : d ∈ deps id)
    (hm : Continues (Function.update marks id .entered) m) :
    Searchable deps ids (rest.erase id) d m := by
  constructor
  · intro x hx
    have hx := hm.entered x hx
    by_cases hxid : x = id
    · rw [hxid]
      exact Relation.TransGen.single hd
    · rw [Function.update_of_ne hxid] at hx
      exact Relation.TransGen.tail (h.above x hx) hd
  · intro x hx hxf
    have hxf := hm.fresh x hxf
    have hxid : x ≠ id := by
      intro heq
      rw [heq, Function.update_self] at hxf
      cases hxf
    rw [Function.update_of_ne hxid] at hxf
    exact (List.mem_erase_of_ne hxid).mpr (h.unseen x hx hxf)

/-- Entering a fresh node and leaving it again. -/
theorem Continues.leave {id : Nat} {marks m : Nat → Mark}
    (hm : Continues (Function.update marks id .entered) m) :
    Continues marks (Function.update m id .left) := by
  have hother : ∀ x mark, mark ≠ .left → Function.update m id .left x = mark →
      x ≠ id ∧ m x = mark := by
    intro x mark hmark hx
    by_cases hxid : x = id
    · rw [hxid, Function.update_self] at hx
      exact absurd hx.symm hmark
    · exact ⟨hxid, by rwa [Function.update_of_ne hxid] at hx⟩
  constructor
  · intro x hx
    obtain ⟨hxid, hx⟩ := hother x .entered (by decide) hx
    have hx := hm.entered x hx
    rwa [Function.update_of_ne hxid] at hx
  · intro x hx
    obtain ⟨hxid, hx⟩ := hother x .fresh (by decide) hx
    have hx := hm.fresh x hx
    rwa [Function.update_of_ne hxid] at hx

/-- Without a cycle the search goes through, and one more level than there are nodes it has
not seen is enough. -/
theorem visit_continues (hacyclic : Acyclic deps) {ids : List Nat}
    (hknown : ∀ a, ∀ b ∈ deps a, b ∈ ids) {levels id : Nat} {rest : List Nat}
    {marks : Nat → Mark} (hid : id ∈ ids) (h : Searchable deps ids rest id marks)
    (hlevels : rest.length < levels) :
    ∃ marks', visit deps levels id marks = .ok marks' ∧ Continues marks marks' := by
  induction levels generalizing id rest marks with
  | zero => exact absurd hlevels (Nat.not_lt_zero _)
  | succ levels ih =>
    rw [visit]
    split
    · rename_i hentered
      exact absurd (h.above id hentered) (hacyclic id)
    · exact ⟨marks, rfl, fun _ h => h, fun _ h => h⟩
    · rename_i hfresh
      have hrest : id ∈ rest := h.unseen id hid hfresh
      have hlength : (rest.erase id).length < levels := by
        rw [List.length_erase_of_mem hrest]
        have := List.length_pos_of_mem hrest
        omega
      have hsearch : ∀ d ∈ deps id, ∀ m, Continues (Function.update marks id .entered) m →
          ∃ m', visit deps levels d m = .ok m' ∧ Continues m m' :=
        fun d hd m hm => ih (hknown id d hd) (h.below hd hm) hlength
      obtain ⟨m, hm, hcont⟩ := continues_foldlM hsearch
      exact ⟨Function.update m id .left, by rw [hm]; rfl, hcont.leave⟩

end Search

/-- What the check accepts: distinct nonzero numbers, known dependencies and no cycle. -/
theorem checkGraph_eq_ok_iff {nodes : List Node} : checkGraph nodes = .ok () ↔
    ((∀ node ∈ nodes, node.id ≠ 0) ∧ (nodes.map (·.id)).Nodup) ∧
      (∀ node ∈ nodes, ∀ d ∈ node.dependsOn, d ≠ node.id ∧ d ∈ nodes.map (·.id)) ∧
      Acyclic (dependencies nodes) := by
  rw [checkGraph, check_eq_ok_iff, check_eq_ok_iff, checkIds_eq_ok_iff,
    checkAllDependencies_eq_ok_iff, bind_eq_ok_iff]
  refine and_congr (by simp) (and_congr_right fun hdeps => ⟨fun ⟨marks, hsearch, _⟩ id => ?_,
    fun hacyclic => ?_⟩)
  · obtain ⟨hsettles, hall⟩ := settles_foldlM (fun m d m' hd => visit_settles hd) hsearch
    have hgrounded := hsettles.grounded fun x hx => by cases hx
    by_cases hid : id ∈ nodes.map (·.id)
    · exact (hgrounded id (hall id ((List.perm_insertionSort ..).mem_iff.mpr hid))).not_depends
    · intro hcycle
      obtain ⟨b, hb, _⟩ := Relation.TransGen.head'_iff.mp hcycle
      obtain ⟨node, hnode, rfl, _⟩ := exists_of_mem_dependencies hb
      exact hid (List.mem_map_of_mem hnode)
  · have hknown : ∀ a, ∀ b ∈ dependencies nodes a, b ∈ nodes.map (·.id) := fun a b hb => by
      obtain ⟨node, hnode, _, hmem⟩ := exists_of_mem_dependencies hb
      exact (hdeps node hnode b hmem).2
    have hstep : ∀ d ∈ (nodes.map (·.id)).insertionSort (· ≤ ·), ∀ m,
        Continues (fun _ => Mark.fresh) m → ∃ m',
          visit (dependencies nodes) (nodes.length + 1) d m = .ok m' ∧ Continues m m' := by
      intro d hd m hm
      have hsearchable : Searchable (dependencies nodes) (nodes.map (·.id)) (nodes.map (·.id)) d m :=
        ⟨fun x hx => absurd (hm.entered x hx) (by decide), fun x hx _ => hx⟩
      exact visit_continues hacyclic hknown ((List.perm_insertionSort ..).mem_iff.mp hd)
        hsearchable (by simp)
    obtain ⟨marks, hsearch, _⟩ := continues_foldlM hstep
    exact ⟨marks, hsearch, rfl⟩

end StorageManager.Lib.DependencyGraph
