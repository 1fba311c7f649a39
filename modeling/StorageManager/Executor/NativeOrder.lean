import StorageManager.Executor.NativeOperation

/-!
# The order of a manifest's mutations

A validated manifest has no cycle, its higher layers depend on the lower ones and each of its
mutations has its barrier. The mutations are executed in the order of the list, which the
validation does not look at: it follows the dependencies exactly when the layers ascend.
-/

namespace StorageManager.Executor

open Lib.Checks
open Lib.DependencyGraph

set_option autoImplicit false

section Reach

variable {deps : Nat → List Nat} {levels a b : Nat}

theorem depends_of_within (h : dependsOnWithin deps levels a b = true) : Depends deps a b := by
  induction levels generalizing a with
  | zero => cases h
  | succ levels ih =>
    rw [dependsOnWithin, List.any_eq_true] at h
    obtain ⟨d, hd, hfound⟩ := h
    rcases Bool.or_eq_true_iff.mp hfound with hsame | hbelow
    · rw [beq_iff_eq] at hsame
      exact Relation.TransGen.single (hsame ▸ hd)
    · exact Relation.TransGen.head hd (ih hbelow)

/-- Without a cycle a walk does not meet a node twice, so as many levels as there are nodes to
go through are enough. -/
theorem within_of_depends (hacyclic : Acyclic deps) {ids rest : List Nat}
    (hsources : ∀ a, deps a ≠ [] → a ∈ ids) (h : Depends deps a b)
    (hrest : ∀ x ∈ ids, x = a ∨ Depends deps a x → x ∈ rest) (hlevels : rest.length ≤ levels) :
    dependsOnWithin deps levels a b = true := by
  induction h using Relation.TransGen.head_induction_on generalizing rest levels with
  | single hb =>
    have hmem := hrest _ (hsources _ (List.ne_nil_of_mem hb)) (.inl rfl)
    obtain _ | levels := levels
    · exact absurd (List.length_pos_of_mem hmem) (by omega)
    · rw [dependsOnWithin, List.any_eq_true]
      exact ⟨b, hb, by simp⟩
  | @head a c hc hbelow ih =>
    have hmem := hrest a (hsources a (List.ne_nil_of_mem hc)) (.inl rfl)
    obtain _ | levels := levels
    · exact absurd (List.length_pos_of_mem hmem) (by omega)
    · rw [dependsOnWithin, List.any_eq_true]
      refine ⟨c, hc, Bool.or_eq_true_iff.mpr (.inr (@ih levels (rest.erase a) ?_ ?_))⟩
      · intro x hx hreach
        have hfrom : Depends deps a x := by
          rcases hreach with rfl | hreach
          · exact Relation.TransGen.single hc
          · exact Relation.TransGen.head hc hreach
        have hne : x ≠ a := by
          rintro rfl
          exact hacyclic x hfrom
        exact (List.mem_erase_of_ne hne).mpr (hrest x hx (.inr hfrom))
      · rw [List.length_erase_of_mem hmem]
        omega

end Reach

namespace NativeCompiledManifest

variable (manifest : NativeCompiledManifest)

def deps : Nat → List Nat :=
  dependencies (manifest.steps.map (·.node))

/-- The steps that are executed, as they are listed. -/
def mutations : List NativeCompiledStep :=
  manifest.steps.filter (·.operation.isMutation)

/-- Each mutation of a higher layer depends on each one of a lower layer. -/
def LayersDepend : Prop :=
  ∀ lower ∈ rankedMutations manifest.steps, ∀ higher ∈ rankedMutations manifest.steps,
    lower.2 < higher.2 → Depends manifest.deps higher.1.planStepId lower.1.planStepId

/-- Each mutation has one barrier, a fail-closed one, and the other steps have none. -/
structure Barriered : Prop where
  mutation : ∀ step ∈ manifest.mutations, ∃ barrier,
    manifest.verificationBarriers.filter (·.afterPlanStepId == step.planStepId) = [barrier] ∧
      barrier.failClosed
  others : ∀ step ∈ manifest.steps, ¬step.operation.isMutation →
    ∀ barrier ∈ manifest.verificationBarriers, barrier.afterPlanStepId ≠ step.planStepId

/-- No mutation is listed before one it depends on. -/
def ListedInOrder : Prop :=
  manifest.mutations.Pairwise fun first next =>
    ¬Depends manifest.deps first.planStepId next.planStepId

/-- Along the list the layers do not go down, and within one layer no mutation asks for a
later one. -/
def LayersAscend : Prop :=
  (rankedMutations manifest.steps).Pairwise fun first next => first.2 ≤ next.2 ∧
    (first.2 = next.2 → dependsOnWithin manifest.deps manifest.steps.length
      first.1.planStepId next.1.planStepId = false)

end NativeCompiledManifest

section Order

variable {manifest : NativeCompiledManifest}

theorem map_rankedMutations (steps : List NativeCompiledStep) :
    (rankedMutations steps).map (·.1) = steps.filter (·.operation.isMutation) := by
  induction steps with
  | nil => rfl
  | cons step steps ih =>
    have hcons : rankedMutations (step :: steps) =
        ((mutationLayerRank step.operation).map (step, ·)).toList ++ rankedMutations steps := by
      rw [rankedMutations, List.filterMap_cons]
      cases mutationLayerRank step.operation <;> rfl
    rw [hcons, List.map_append, ih, List.filter_cons]
    cases step.operation <;> rfl

theorem validateNativeLayerOrder_eq_ok_iff {steps : List NativeCompiledStep} :
    validateNativeLayerOrder steps = .ok () ↔
      ∀ earlier ∈ rankedMutations steps, ∀ later ∈ rankedMutations steps,
        layersOrdered steps earlier later = true := by
  dsimp only [validateNativeLayerOrder]
  split
  · rename_i before after hfound
    obtain ⟨earlier, hearlier, hlater⟩ := List.exists_of_findSome?_eq_some hfound
    obtain ⟨later, hlater, _⟩ := Option.map_eq_some_iff.mp hlater
    refine ⟨nofun, fun h => ?_⟩
    have hbad := List.find?_some hlater
    rw [h earlier hearlier later (List.mem_of_find?_eq_some hlater)] at hbad
    cases hbad
  · rename_i hnone
    refine ⟨fun _ earlier hearlier later hlater => ?_, fun _ => rfl⟩
    have hclear := List.findSome?_eq_none_iff.mp hnone earlier hearlier
    rw [Option.map_eq_none_iff, List.find?_eq_none] at hclear
    simpa using hclear later hlater

theorem validateBarriers_eq_ok_iff {steps : List NativeCompiledStep}
    {barriers : List NativeVerificationBarrier} : validateBarriers steps barriers = .ok () ↔
      ∀ barrier ∈ barriers, barrier.failClosed ∧ ∃ step,
        steps.find? (·.planStepId == barrier.afterPlanStepId) = some step ∧
          step.operation.isMutation := by
  induction barriers with
  | nil => simp [validateBarriers]
  | cons barrier barriers ih =>
    rw [validateBarriers, List.forall_mem_cons, ← ih]
    cases steps.find? (·.planStepId == barrier.afterPlanStepId) with
    | none => simp
    | some step => simp [check_eq_ok_iff, and_left_comm, and_assoc]

theorem validateBarrierCounts_eq_ok_iff {steps : List NativeCompiledStep}
    {barriers : List NativeVerificationBarrier} : validateBarrierCounts barriers steps = .ok () ↔
      ∀ step ∈ steps, step.operation.isMutation →
        barriers.countP (·.afterPlanStepId == step.planStepId) = 1 := by
  induction steps with
  | nil => simp [validateBarrierCounts]
  | cons step steps ih =>
    rw [validateBarrierCounts, List.forall_mem_cons, ← ih]
    split
    · rename_i hmutation
      split
      · rename_i hzero
        refine ⟨nofun, fun h => ?_⟩
        have hone := h.1 hmutation
        omega
      · rename_i hone
        exact ⟨fun h => ⟨fun _ => hone, h⟩, fun h => h.2⟩
      · rename_i hzero hone
        exact ⟨nofun, fun h => absurd (h.1 hmutation) hone⟩
    · rename_i hother
      exact ⟨fun h => ⟨fun hmutation => absurd hmutation hother, h⟩, fun h => h.2⟩

theorem deps_acyclic (h : validateNativeManifest manifest = .ok ()) : Acyclic manifest.deps :=
  (checkGraph_eq_ok_iff.mp (mapError_eq_ok_iff.mp (check_eq_ok_iff.mp h).1)).2.2

theorem layersDepend (h : validateNativeManifest manifest = .ok ()) : manifest.LayersDepend := by
  intro lower hlower higher hhigher hlayers
  have hordered := validateNativeLayerOrder_eq_ok_iff.mp
    (check_eq_ok_iff.mp (check_eq_ok_iff.mp h).2).1 lower hlower higher hhigher
  rw [layersOrdered, decide_eq_true hlayers] at hordered
  exact depends_of_within hordered

theorem barriered (h : validateNativeManifest manifest = .ok ()) : manifest.Barriered := by
  have hbarriers := (check_eq_ok_iff.mp (check_eq_ok_iff.mp (check_eq_ok_iff.mp h).2).2).2
  obtain ⟨hplaced, hcounts⟩ := check_eq_ok_iff.mp hbarriers
  rw [validateBarriers_eq_ok_iff] at hplaced
  rw [validateBarrierCounts_eq_ok_iff] at hcounts
  constructor
  · intro step hstep
    obtain ⟨hstep, hmutation⟩ := List.mem_filter.mp hstep
    have hcount := hcounts step hstep hmutation
    rw [List.countP_eq_length_filter, List.length_eq_one_iff] at hcount
    obtain ⟨barrier, hbarrier⟩ := hcount
    exact ⟨barrier, hbarrier, (hplaced barrier (mem_of_filter_eq_singleton hbarrier).1).1⟩
  · intro step hstep hother barrier hbarrier hat
    obtain ⟨_, found, hfound, hmutation⟩ := hplaced barrier hbarrier
    have hids := (ValidatedNativeManifest.ids ⟨manifest, h⟩).2
    have hsame : found.planStepId = step.planStepId := by
      rw [← hat]
      simpa using List.find?_some hfound
    have hfoundMem := List.mem_of_find?_eq_some hfound
    rw [List.inj_on_of_nodup_map hids hfoundMem hstep hsame] at hmutation
    exact hother hmutation

/-- The search for a required step finds it whenever it is there. -/
theorem dependsOnWithin_iff (h : validateNativeManifest manifest = .ok ()) {a b : Nat} :
    dependsOnWithin manifest.deps manifest.steps.length a b = true ↔ Depends manifest.deps a b := by
  refine ⟨depends_of_within, fun hdepends => ?_⟩
  have hsources : ∀ a, manifest.deps a ≠ [] → a ∈ manifest.steps.map (·.planStepId) := by
    intro a hne
    obtain ⟨d, hd⟩ := List.exists_mem_of_ne_nil _ hne
    obtain ⟨node, hnode, rfl, _⟩ := exists_of_mem_dependencies hd
    obtain ⟨step, hstep, rfl⟩ := List.mem_map.mp hnode
    exact List.mem_map_of_mem hstep
  exact within_of_depends (deps_acyclic h) hsources hdepends (fun x hx _ => hx) (by simp)

theorem listedInOrder_iff (h : validateNativeManifest manifest = .ok ()) :
    manifest.ListedInOrder ↔ manifest.LayersAscend := by
  have hlisted : manifest.ListedInOrder ↔ (rankedMutations manifest.steps).Pairwise
      fun first next => ¬Depends manifest.deps first.1.planStepId next.1.planStepId := by
    rw [NativeCompiledManifest.ListedInOrder, NativeCompiledManifest.mutations,
      ← map_rankedMutations, List.pairwise_map]
  rw [hlisted, NativeCompiledManifest.LayersAscend]
  refine List.Pairwise.iff_of_mem fun {first next} hfirst hnext => ?_
  rw [← Bool.not_eq_true, dependsOnWithin_iff h]
  constructor
  · intro hnot
    refine ⟨?_, fun _ => hnot⟩
    by_contra hdown
    exact hnot (layersDepend h next hnext first hfirst (by omega))
  · rintro ⟨hup, hlevel⟩ hdepends
    rcases Nat.lt_or_eq_of_le hup with hlt | heq
    · exact deps_acyclic h _ (hdepends.trans (layersDepend h first hfirst next hnext hlt))
    · exact hlevel heq hdepends

/-- An accepted manifest's mutations are listed in the order of their dependencies exactly when
the layers ascend along the list. The rest of what its execution relies on always holds. -/
theorem validated_order (h : validateNativeManifest manifest = .ok ()) :
    Acyclic manifest.deps ∧ manifest.LayersDepend ∧ manifest.Barriered ∧
      (manifest.ListedInOrder ↔ manifest.LayersAscend) :=
  ⟨deps_acyclic h, layersDepend h, barriered h, listedInOrder_iff h⟩

def sampleBarrier (afterPlanStepId : Nat) : NativeVerificationBarrier :=
  ⟨afterPlanStepId, true, true, true, true, true⟩

def sampleExtend : NativeCompiledStep :=
  ⟨1, [], .notApplicable, .mutationCandidate, .extendLogicalVolume "lv" 1 8192⟩

def sampleGrow : NativeCompiledStep :=
  ⟨2, [1], .notApplicable, .mutationCandidate, .growFilesystem "ext4" none⟩

def sampleManifest (steps : List NativeCompiledStep) : NativeCompiledManifest :=
  ⟨"source", steps, [sampleBarrier 1, sampleBarrier 2]⟩

/-- The volume first and then its filesystem. -/
theorem validated_order_extend_grow :
    validateNativeManifest (sampleManifest [sampleExtend, sampleGrow]) = .ok () ∧
      (sampleManifest [sampleExtend, sampleGrow]).ListedInOrder := by
  have hvalid : validateNativeManifest (sampleManifest [sampleExtend, sampleGrow]) = .ok () := rfl
  refine ⟨hvalid, (validated_order hvalid).2.2.2.mpr ?_⟩
  simp [NativeCompiledManifest.LayersAscend, sampleManifest, rankedMutations, sampleExtend,
    sampleGrow, mutationLayerRank]

/-- The same two steps listed the other way round are accepted as well: the filesystem would be
grown before the volume it depends on. -/
theorem accepts_reversed :
    validateNativeManifest (sampleManifest [sampleGrow, sampleExtend]) = .ok () ∧
      ¬(sampleManifest [sampleGrow, sampleExtend]).ListedInOrder := by
  refine ⟨rfl, fun hordered => ?_⟩
  have hdepends : Depends (sampleManifest [sampleGrow, sampleExtend]).deps 2 1 :=
    Relation.TransGen.single (by decide)
  exact (List.pairwise_cons.mp hordered).1 sampleExtend (by decide) hdepends

end Order

end StorageManager.Executor
