import StorageManager.Executor.SwapIdealHost
import StorageManager.Executor.SwapPreflight
import StorageManager.Executor.SwapStore

/-!
# Which replacements can succeed

The preflight accepts a retiring swap of any reported size up to its partition's and of
any frozen priority. The executor wants the replacement, a file of the partition's
size, to be listed with the very size and priority of the retiring swap. On a host on
which every stage has its effect these two readings agree for a header of one page and
a priority that is not negative, and otherwise the replacement ends in RecoveryRequired.
-/

namespace StorageManager.Executor.Swap

open StorageManager.Core
open Lib.Checks
open Lib.Effects
open Lib.Json (toJson toBytes)
open Lib.RecordFile

set_option autoImplicit false

section Statement

/-- The evidence suits the checks that follow the activation of the swapfile. -/
structure Suitable (activation : ProductionSwapReplacementActivationIntent)
    (swaps : List SwapEntry) (page : Nat) : Prop where
  size : ∀ e ∈ swaps, e.name = activation.retiringSwapDevice →
    e.sizeBytes + page = activation.retiringSwapBytes
  priority : 0 ≤ activation.retiringSwapPriority ∧ activation.retiringSwapPriority ≤ 32767
  addressable : activation.retiringSwapBytes < 2 ^ 63
  path : pathParent activation.swapfilePath ≠ none
  unlisted : ∀ e ∈ swaps, e.name ≠ activation.swapfilePath

end Statement

section Stages

variable {bytes : Nat} {swaps : List SwapEntry} {h : IdealHost bytes swaps}
  {activation : ProductionSwapReplacementActivationIntent} {st : SwapHostState} {s : SwapSt}
  {launch : ProductionSwapRuntimeLaunchSpec}

/-- A stage of the launch specification that can be spawned. -/
structure Launchable (launch : ProductionSwapRuntimeLaunchSpec) (program : PrivilegedProgram)
    (args : List String) (stage : ProductionSwapRuntimeLaunchStage) : Prop where
  pinned : stage.program = program
  argv : stage.argv = program.asStr :: args
  plain : (stage.argv ++ [launch.fixedPath, launch.fixedLocale]).any
    (fun s => s.toList.contains '\x00') = false

/-- What the builder of the launch specification took from the activation. -/
structure Frozen (activation : ProductionSwapReplacementActivationIntent)
    (launch : ProductionSwapRuntimeLaunchSpec) : Prop where
  path : launch.swapfile.path = activation.swapfilePath
  bytes : launch.swapfile.sizeBytes = activation.retiringSwapBytes
  mode : launch.swapfile.mode = activation.swapfileMode
  mkswap : Launchable launch .mkswap ["--force", activation.swapfilePath] launch.mkswap
  swapon : Launchable launch .swapon
    ["--priority", toString activation.retiringSwapPriority, activation.swapfilePath] launch.swapon
  swapoff : Launchable launch .swapoff [activation.retiringSwapDevice] launch.swapoff

/-- The call that spawns a stage. -/
def spawned (launch : ProductionSwapRuntimeLaunchSpec) (program : PrivilegedProgram)
    (args : List String) (stage : SwapStage) (s : SwapSt) : SwapLogEntry :=
  ⟨.inr (.spawn ⟨stage, program, program.asStr :: args, launch.fixedPath, launch.fixedLocale,
    none⟩), (.ok ⟨0, [], [], false, false⟩ : Except PrivilegedDescriptorExecError _), s.world⟩

/-- The entry of the activated swapfile. -/
def replacementEntry (h : IdealHost bytes swaps)
    (activation : ProductionSwapReplacementActivationIntent) : SwapEntry :=
  { name := activation.swapfilePath, kind := "file"
    sizeBytes := activation.retiringSwapBytes - h.page, usedBytes := 0
    priority := h.listedPriority activation.retiringSwapPriority }

theorem effect_swapon (hbytes : st.fileBytes = activation.retiringSwapBytes) :
    h.effect activation st (spawned launch .swapon
      ["--priority", toString activation.retiringSwapPriority, activation.swapfilePath] .swapon s) =
    { st with swaps := st.swaps ++ [replacementEntry h activation] } := by
  unfold IdealHost.effect spawned replacementEntry
  rw [← hbytes]
  exact if_pos rfl

theorem effect_swapoff : h.effect activation st
    (spawned launch .swapoff [activation.retiringSwapDevice] .swapoff s) =
    { st with swaps := st.swaps.filter fun e => !List.contains [activation.retiringSwapDevice] e.name } :=
  rfl

theorem discoverSwaps_plays {f : File ProductionSwapRuntimeJournal}
    {m : ProductionSwapRuntimeJournal} (hs : h.At activation st f s) : ∃ t,
    Proc.Plays (h.strategy activation) discoverSwaps m s (.ok st.swaps) m t ∧
    h.At activation st f t := by
  obtain ⟨t, hdiscover, ht⟩ := IdealHost.host_quiet (m := m)
    (ε := ProductionSwapRuntimeExecutionError) hs .discoverSwaps fun _ _ => rfl
  exact ⟨t, IdealHost.orFail_plays hdiscover, ht⟩

/-- After swapoff the entry of the retiring swap is gone and every other is as it was. -/
theorem filter_deactivated {device name : String} (hne : name ≠ device) (swaps : List SwapEntry) :
    (swaps.filter fun e => !List.contains [device] e.name).filter (·.name == name) =
      swaps.filter (·.name == name) := by
  rw [List.filter_filter]
  refine List.filter_congr fun e _ => ?_
  by_cases he : e.name = name
  · simp [he, hne]
  · simp [he]

/-- What the preflight found of the retiring swap. -/
structure Listed (activation : ProductionSwapReplacementActivationIntent)
    (swaps : List SwapEntry) (old : SwapEntry) : Prop where
  only : swaps.filter (·.name == activation.retiringSwapDevice) = [old]
  size : old.sizeBytes ≠ 0
  priority : old.priority = activation.retiringSwapPriority

theorem Listed.mem {old : SwapEntry} (hold : Listed activation swaps old) : old ∈ swaps := by
  have hmem : old ∈ swaps.filter (·.name == activation.retiringSwapDevice) := by
    rw [hold.only]
    exact List.mem_cons_self
  exact (List.mem_filter.mp hmem).1

theorem Listed.name {old : SwapEntry} (hold : Listed activation swaps old) :
    old.name = activation.retiringSwapDevice := by
  have hmem : old ∈ swaps.filter (·.name == activation.retiringSwapDevice) := by
    rw [hold.only]
    exact List.mem_cons_self
  simpa using (List.mem_filter.mp hmem).2

section Unlisted

variable {old : SwapEntry}

theorem Listed.path_ne (hold : Listed activation swaps old)
    (hunlisted : ∀ e ∈ swaps, e.name ≠ activation.swapfilePath) :
    activation.swapfilePath ≠ activation.retiringSwapDevice := by
  have hname := hunlisted old hold.mem
  rw [hold.name] at hname
  exact hname.symm

/-- Only the replacement is listed under the path of the swapfile. -/
theorem filter_path (hunlisted : ∀ e ∈ swaps, e.name ≠ activation.swapfilePath) :
    (swaps ++ [replacementEntry h activation]).filter (·.name == activation.swapfilePath) =
      [replacementEntry h activation] := by
  have hnone : swaps.filter (·.name == activation.swapfilePath) = [] := by
    rw [List.filter_eq_nil_iff]
    intro e he
    simp [hunlisted e he]
  rw [List.filter_append, hnone]
  simp [replacementEntry]

/-- Both entries are found once when no swap was listed under the path of the swapfile. -/
theorem Listed.exactMatches_eq (hold : Listed activation swaps old)
    (hunlisted : ∀ e ∈ swaps, e.name ≠ activation.swapfilePath) :
    exactMatches (swaps ++ [replacementEntry h activation]) activation.retiringSwapDevice
      activation.swapfilePath = some (old, replacementEntry h activation) := by
  have hne := hold.path_ne hunlisted
  unfold exactMatches
  rw [filter_path hunlisted, List.filter_append, hold.only]
  simp [replacementEntry, hne]

theorem Listed.exactMatches_eq_none (hold : Listed activation swaps old)
    (hlisted : ¬∀ e ∈ swaps, e.name ≠ activation.swapfilePath) :
    exactMatches (swaps ++ [replacementEntry h activation]) activation.retiringSwapDevice
      activation.swapfilePath = none := by
  have hsome : swaps.filter (·.name == activation.swapfilePath) ≠ [] := by
    rw [Ne, List.filter_eq_nil_iff]
    simpa using hlisted
  unfold exactMatches
  rw [List.filter_append, List.filter_append, hold.only]
  obtain ⟨e, es, hcons⟩ := List.exists_cons_of_ne_nil hsome
  rw [hcons]
  by_cases hdevice : activation.swapfilePath = activation.retiringSwapDevice
  · simp [replacementEntry, hdevice]
  · simp [replacementEntry, hdevice]

theorem Listed.exactSwapEntries_plays (hold : Listed activation swaps old)
    (hunlisted : ∀ e ∈ swaps, e.name ≠ activation.swapfilePath)
    {f : File ProductionSwapRuntimeJournal} {m : ProductionSwapRuntimeJournal}
    (hs : h.At activation ⟨st.fileBytes, st.formatted, swaps ++ [replacementEntry h activation]⟩ f s) :
    ∃ t, Proc.Plays (h.strategy activation)
      (exactSwapEntries activation.retiringSwapDevice activation.swapfilePath) m s
      (.ok (old, replacementEntry h activation)) m t ∧
    h.At activation ⟨st.fileBytes, st.formatted, swaps ++ [replacementEntry h activation]⟩ f t := by
  obtain ⟨t, hdiscover, ht⟩ := discoverSwaps_plays (m := m) hs
  refine ⟨t, hdiscover.bind ?_, ht⟩
  rw [hold.exactMatches_eq hunlisted]
  exact .pure _

theorem Listed.exactSwapEntries_fails (hold : Listed activation swaps old)
    (hlisted : ¬∀ e ∈ swaps, e.name ≠ activation.swapfilePath)
    {f : File ProductionSwapRuntimeJournal} {m : ProductionSwapRuntimeJournal}
    (hs : h.At activation ⟨st.fileBytes, st.formatted, swaps ++ [replacementEntry h activation]⟩ f s) :
    ∃ e t, Proc.Plays (h.strategy activation)
      (exactSwapEntries activation.retiringSwapDevice activation.swapfilePath) m s
      (.error e) m t := by
  obtain ⟨t, hdiscover, -⟩ := discoverSwaps_plays (m := m) hs
  refine ⟨.dualActiveVerificationFailed, t, hdiscover.bind ?_⟩
  rw [hold.exactMatches_eq_none hlisted]
  exact .throw _

end Unlisted

/-- The checks that follow the activation, as a condition on what the preflight found. -/
structure Matched (activation : ProductionSwapReplacementActivationIntent)
    (swaps : List SwapEntry) (page : Nat) (old : SwapEntry) : Prop where
  size : old.sizeBytes + page = activation.retiringSwapBytes
  priority : 0 ≤ activation.retiringSwapPriority ∧ activation.retiringSwapPriority ≤ 32767
  unlisted : ∀ e ∈ swaps, e.name ≠ activation.swapfilePath

theorem Listed.dualActiveVerified_iff {r : ProductionSwapRuntimeJournal} {old : SwapEntry}
    (hold : Listed activation swaps old)
    (hr : r.retiringSwapPriority = activation.retiringSwapPriority) :
    dualActiveVerified r (old, replacementEntry h activation) = true ↔
      old.sizeBytes + h.page = activation.retiringSwapBytes ∧
      0 ≤ activation.retiringSwapPriority ∧ activation.retiringSwapPriority ≤ 32767 := by
  have hrange := h.listedPriority_eq_iff hold.mem
  rw [hold.priority] at hrange
  have hsize : activation.retiringSwapBytes - h.page = old.sizeBytes ↔
      old.sizeBytes + h.page = activation.retiringSwapBytes := by
    have hpositive := hold.size
    omega
  unfold dualActiveVerified
  simp only [hr, hold.priority, replacementEntry, beq_self_eq_true, Bool.true_and,
    Bool.and_eq_true, beq_iff_eq, hrange, hsize]
  exact and_comm

end Stages

section Segments

variable [Fingerprint]

/-- A valid record in a phase, bound to the activation. -/
structure BoundAt (activation : ProductionSwapReplacementActivationIntent)
    (phase : ProductionSwapRuntimePhase) (r : ProductionSwapRuntimeJournal) : Prop where
  valid : validateJournal r = .ok ()
  phase : r.phase = phase
  device : r.retiringSwapDevice = activation.retiringSwapDevice
  path : r.swapfilePath = activation.swapfilePath
  priority : r.retiringSwapPriority = activation.retiringSwapPriority

variable {bytes : Nat} {swaps : List SwapEntry} {h : IdealHost bytes swaps}
  {activation : ProductionSwapReplacementActivationIntent} {st : SwapHostState} {s : SwapSt}
  {r : ProductionSwapRuntimeJournal} {launch : ProductionSwapRuntimeLaunchSpec} {α : Type}

theorem BoundAt.next {p q : ProductionSwapRuntimePhase} {code : String}
    {t : ProductionSwapRuntimeTransition} (hr : BoundAt activation p r)
    (ht : transitionTarget p t = some (q, code)) : BoundAt activation q (recordAfter r q code) := by
  have htarget : transitionTarget r.phase t = some (q, code) := by
    rw [hr.phase]
    exact ht
  exact ⟨(applyTransition_eq_ok hr.valid htarget).2, rfl, hr.device, hr.path, hr.priority⟩

/-- A transition between two phases, and what follows it. -/
theorem BoundAt.succeeds_transition {p q : ProductionSwapRuntimePhase} {code : String}
    {t : ProductionSwapRuntimeTransition} (hr : BoundAt activation p r)
    (ht : transitionTarget p t = some (q, code))
    (hs : h.At activation st (.holding (some r)) s)
    (ts : List ProductionSwapRuntimeTransition) (f : Unit → RuntimeProc α) {P : Prop}
    (hf : ∀ r u, BoundAt activation q r → h.At activation st (.holding (some r)) u →
      (Proc.Succeeds (h.strategy activation) (f ()) r u ↔ RecordsFit r ts ∧ P)) :
    Proc.Succeeds (h.strategy activation) (transition t >>= f) r s ↔
      RecordsFit r (t :: ts) ∧ P := by
  have htarget : transitionTarget r.phase t = some (q, code) := by
    rw [hr.phase]
    exact ht
  exact Swap.succeeds_transition hr.valid htarget hs ts f fun u hu => hf _ u (hr.next ht) hu

/-- A stage that can be spawned, with its effect on the host. -/
theorem Launchable.plays {program : PrivilegedProgram} {args : List String}
    {launchStage : ProductionSwapRuntimeLaunchStage} {f : File ProductionSwapRuntimeJournal}
    {m : ProductionSwapRuntimeJournal} (hl : Launchable launch program args launchStage)
    (hs : h.At activation st f s) (stage : SwapStage) : ∃ outcome t,
    Proc.Plays (h.strategy activation)
      (orRecovery .recoveryPersistenceFailed (runStage stage launchStage launch)) m s
      (.ok outcome) m t ∧
    h.At activation (h.effect activation st (spawned launch program args stage s)) f t := by
  have hprogram : launchStage.argv.head? = some launchStage.program.asStr := by
    rw [hl.argv, hl.pinned]
    rfl
  have heffect : ∀ a w, h.effect activation st ⟨.inr (.spawn ⟨stage, launchStage.program,
      launchStage.argv, launch.fixedPath, launch.fixedLocale, none⟩), a, w⟩ =
      h.effect activation st (spawned launch program args stage s) := by
    intro a w
    rw [hl.argv, hl.pinned]
    rfl
  obtain ⟨outcome, t, hplays, ht⟩ := IdealHost.runStage_plays (m := m) hs stage hprogram hl.plain
    heffect
  exact ⟨outcome, t, IdealHost.orRecovery_plays hplays, ht⟩

/-- With both swaps verified active, only the size of the records is left to decide. -/
theorem deactivateOldSwap_succeeds_iff (hfrozen : Frozen activation launch)
    (hr : BoundAt activation .replacementActive r) (hs : h.At activation st (.holding (some r)) s)
    (hne : activation.swapfilePath ≠ activation.retiringSwapDevice) {old new : SwapEntry}
    (hnew : st.swaps.filter (·.name == activation.swapfilePath) = [new])
    (hpriority : new.priority = activation.retiringSwapPriority) :
    Proc.Succeeds (h.strategy activation) (deactivateOldSwap launch (old, new)) r s ↔
      RecordsFit r [.beginOldSwapDeactivation, .oldSwapDeactivatedVerified] ∧ True := by
  refine hr.succeeds_transition rfl hs _ _ fun r s hr hs => ?_
  obtain ⟨outcome, t, hswapoff, ht⟩ := hfrozen.swapoff.plays (m := r) hs .swapoff
  rw [effect_swapoff] at ht
  obtain ⟨u, hdiscover, hu⟩ := discoverSwaps_plays (m := r) ht
  rw [Proc.succeeds_bind hswapoff, Proc.succeeds_bind hdiscover, Proc.succeeds_bind .get]
  have hverified : oldSwapoffVerified r new.sizeBytes
      (st.swaps.filter fun e => !List.contains [activation.retiringSwapDevice] e.name) = some new := by
    have hgone : (st.swaps.filter fun e => !List.contains [activation.retiringSwapDevice] e.name).any
        (·.name == r.retiringSwapDevice) = false := by
      rw [hr.device]
      simp
    unfold oldSwapoffVerified
    rw [hgone, hr.path, filter_deactivated hne, hnew, hr.priority]
    simp [hpriority]
  rw [hverified]
  refine hr.succeeds_transition rfl hu [] _ fun r v hr hv => ?_
  rw [Proc.succeeds_bind .get]
  exact iff_of_true (Proc.succeeds_pure _) ⟨trivial, trivial⟩

/-- Both swaps are verified active exactly when the preflight found them suitable. -/
theorem activateReplacement_succeeds_iff {old : SwapEntry} (hfrozen : Frozen activation launch)
    (hold : Listed activation swaps old)
    (hr : BoundAt activation .replacementFormatted r) (hs : h.At activation st (.holding (some r)) s)
    (hbytes : st.fileBytes = activation.retiringSwapBytes) (hswaps : st.swaps = swaps) :
    Proc.Succeeds (h.strategy activation) (activateReplacement launch) r s ↔
      RecordsFit r [.beginReplacementActivation, .replacementActiveVerified,
        .beginOldSwapDeactivation, .oldSwapDeactivatedVerified] ∧
      Matched activation swaps h.page old := by
  refine hr.succeeds_transition rfl hs _ _ fun r s hr hs => ?_
  obtain ⟨outcome, t, hswapon, ht⟩ := hfrozen.swapon.plays (m := r) hs .swapon
  rw [effect_swapon hbytes, hswaps] at ht
  rw [Proc.succeeds_bind hswapon, Proc.succeeds_bind .get, hr.device, hr.path]
  by_cases hunlisted : ∀ e ∈ swaps, e.name ≠ activation.swapfilePath
  · obtain ⟨u, hentries, hu⟩ := hold.exactSwapEntries_plays (m := r) hunlisted ht
    rw [Proc.succeeds_bind (IdealHost.orRecovery_plays hentries)]
    by_cases hdual : dualActiveVerified r (old, replacementEntry h activation) = true
    · obtain ⟨hsize, hrange⟩ := (hold.dualActiveVerified_iff hr.priority).mp hdual
      have hpriority : (replacementEntry h activation).priority =
          activation.retiringSwapPriority := by
        have hlisted := h.listedPriority_eq_iff hold.mem
        rw [hold.priority] at hlisted
        exact hlisted.mpr hrange
      have hall := hr.succeeds_transition (t := .replacementActiveVerified) rfl hu _
        (fun _ => deactivateOldSwap launch (old, replacementEntry h activation))
        fun r v hr hv => deactivateOldSwap_succeeds_iff hfrozen hr hv (hold.path_ne hunlisted)
          (filter_path hunlisted) hpriority
      rw [if_neg (not_not.mpr hdual), hall]
      exact and_congr_right fun _ => iff_of_true trivial ⟨hsize, hrange, hunlisted⟩
    · rw [if_pos hdual]
      obtain ⟨e, m', v, hfails⟩ := IdealHost.persistRecovery_fails
        (α := ProductionSwapRuntimeExecutionReceipt) .dualActiveVerificationFailed
        .recoveryPersistenceFailed h activation r u
      refine iff_of_false (Proc.not_succeeds hfails) ?_
      rintro ⟨-, hmatched⟩
      exact hdual ((hold.dualActiveVerified_iff hr.priority).mpr ⟨hmatched.size, hmatched.priority⟩)
  · obtain ⟨e, u, hfails⟩ := hold.exactSwapEntries_fails (m := r) hunlisted ht
    obtain ⟨e', m', v, hrecovered⟩ := IdealHost.orRecovery_fails hfails
    refine iff_of_false (Proc.not_succeeds hrecovered.bind_error) ?_
    rintro ⟨-, hmatched⟩
    exact hunlisted hmatched.unlisted

end Segments

section Execution

variable [Fingerprint] {activation : ProductionSwapReplacementActivationIntent}
  {swaps : List SwapEntry} {h : IdealHost activation.retiringSwapBytes swaps}
  {st : SwapHostState} {s : SwapSt} {r : ProductionSwapRuntimeJournal}
  {launch : ProductionSwapRuntimeLaunchSpec} {old : SwapEntry}

/-- The formatting part, from the created swapfile on. -/
theorem formatReplacement_succeeds_iff (hfrozen : Frozen activation launch)
    (hold : Listed activation swaps old) (hmode : activation.swapfileMode < 0o1000)
    (haddressable : activation.retiringSwapBytes < 2 ^ 63)
    (hr : BoundAt activation .swapfileCreated r) (hs : h.At activation st (.holding (some r)) s)
    (hbytes : st.fileBytes = activation.retiringSwapBytes) (hswaps : st.swaps = swaps) :
    Proc.Succeeds (h.strategy activation) (do
        transition .beginReplacementFormatting
        let _ ← orRecovery .recoveryPersistenceFailed (runStage .mkswap launch.mkswap launch)
        orRecovery .recoveryPersistenceFailed do
          revalidateSwapfile h.file (h.dev, h.ino) activation.retiringSwapBytes
            activation.swapfileMode
          verifySwapSignature h.file
        transition .replacementFormattedVerified
        activateReplacement launch) r s ↔
      RecordsFit r [.beginReplacementFormatting, .replacementFormattedVerified,
        .beginReplacementActivation, .replacementActiveVerified, .beginOldSwapDeactivation,
        .oldSwapDeactivatedVerified] ∧ Matched activation swaps h.page old := by
  refine hr.succeeds_transition rfl hs _ _ fun r s hr hs => ?_
  obtain ⟨outcome, t, hmkswap, ht⟩ := hfrozen.mkswap.plays (m := r) hs .mkswap
  obtain ⟨u, hrevalidate, hu⟩ := IdealHost.revalidateSwapfile_plays (m := r) ht haddressable hmode
  obtain ⟨v, hsignature, hv⟩ := IdealHost.verifySwapSignature_plays (m := r) hu rfl
  rw [Proc.succeeds_bind hmkswap,
    Proc.succeeds_bind (IdealHost.orRecovery_plays (hrevalidate.bind hsignature))]
  exact hr.succeeds_transition rfl hv _ _ fun r w hr hw =>
    activateReplacement_succeeds_iff hfrozen hold hr hw hbytes hswaps

theorem executeMutatingRuntime_succeeds_iff (hfrozen : Frozen activation launch)
    (hold : Listed activation swaps old) (hmode : activation.swapfileMode < 0o1000)
    (hr : BoundAt activation .prepared r) (hs : h.At activation st (.holding (some r)) s)
    (hswaps : st.swaps = swaps) :
    Proc.Succeeds (h.strategy activation) (executeMutatingRuntime launch) r s ↔
      RecordsFit r runtimeTransitions ∧ (activation.retiringSwapBytes < 2 ^ 63 ∧
        pathParent activation.swapfilePath ≠ none) ∧ Matched activation swaps h.page old := by
  refine hr.succeeds_transition rfl hs _ _ fun r s hr hs => ?_
  rw [hfrozen.path, hfrozen.bytes, hfrozen.mode]
  by_cases hcreatable : activation.retiringSwapBytes < 2 ^ 63 ∧
      pathParent activation.swapfilePath ≠ none
  · obtain ⟨haddressable, hparent⟩ := hcreatable
    obtain ⟨parent, hparent⟩ := Option.ne_none_iff_exists'.mp hparent
    obtain ⟨t, hcreate, ht⟩ := IdealHost.createExactSwapfile_plays (m := r) hs haddressable hmode
      hparent
    obtain ⟨u, hrevalidate, hu⟩ := IdealHost.revalidateSwapfile_plays (m := r) ht haddressable hmode
    rw [Proc.succeeds_bind (IdealHost.orRecovery_plays hcreate),
      Proc.succeeds_bind (IdealHost.orRecovery_plays hrevalidate)]
    refine Iff.trans (hr.succeeds_transition rfl hu _ _ fun r v hr hv =>
      formatReplacement_succeeds_iff hfrozen hold hmode haddressable hr hv rfl hswaps) ?_
    exact and_congr_right fun _ => (and_iff_right ⟨haddressable, by simp [hparent]⟩).symm
  · have hbad : 2 ^ 63 ≤ activation.retiringSwapBytes ∨
        pathParent activation.swapfilePath = none := by
      by_cases hlarge : 2 ^ 63 ≤ activation.retiringSwapBytes
      · exact .inl hlarge
      · exact .inr (not_not.mp fun hparent => hcreatable ⟨by omega, hparent⟩)
    obtain ⟨e, t, hcreate⟩ := IdealHost.createExactSwapfile_fails (m := r) hs hmode hbad
    obtain ⟨e', m', u, hfails⟩ := IdealHost.orRecovery_fails hcreate
    refine iff_of_false (Proc.not_succeeds hfails.bind_error) ?_
    rintro ⟨-, hgood, -⟩
    exact hcreatable hgood

end Execution

section Builders

variable {activation : ProductionSwapReplacementActivationIntent}
  {launch : ProductionSwapRuntimeLaunchSpec} {snapshot : HostSnapshot}
  {resume : HibernationResumeEvidence} {space : FilesystemSpaceEvidence}
  {path : PathOccupancyEvidence}

theorem listed_of_evidence
    (h : validateRuntimeEvidence activation snapshot resume space path = .ok ()) :
    ∃ old, Listed activation snapshot.swaps old := by
  obtain ⟨-, h⟩ := check_eq_ok_iff.mp h
  obtain ⟨hone, -⟩ := check_eq_ok_iff.mp h
  rw [refuse_eq_ok_iff, not_not] at hone
  match hswaps : snapshot.swaps.filter (·.name == activation.retiringSwapDevice) with
  | [] =>
    rw [hswaps] at hone
    cases hone
  | [old] =>
    rw [hswaps] at hone
    simp only [exactlyOne, Bool.and_eq_true, bne_iff_ne, beq_iff_eq, decide_eq_true_eq] at hone
    exact ⟨old, hswaps, hone.1.1.2, hone.2⟩
  | old :: old' :: rest =>
    rw [hswaps] at hone
    cases hone

theorem launchStage_launchable {program : PrivilegedProgram} {args : List String}
    {identity : TrustedToolIdentity} {elf : Except String ElfExecutionIdentity}
    {stage : ProductionSwapRuntimeLaunchStage} (h : launchStage program args identity elf = .ok stage)
    (hpath : launch.fixedPath = fixedPath) (hlocale : launch.fixedLocale = fixedLocale) :
    Launchable launch program args stage := by
  obtain ⟨-, h⟩ := check_eq_ok_iff.mp h
  obtain ⟨hargs, h⟩ := check_eq_ok_iff.mp h
  obtain ⟨elf, -, h⟩ := bind_eq_ok_iff.mp h
  cases h
  refine ⟨rfl, rfl, ?_⟩
  have hprogram : program.asStr.toList.contains '\x00' = false := by
    cases program <;> rfl
  have hplain : ∀ a ∈ args, a.toList.contains '\x00' = false := by
    intro a ha
    simpa [validateText] using checkAll_eq_ok_iff.mp hargs a ha
  rw [hpath, hlocale, List.any_eq_false]
  intro a ha
  simp only [List.mem_append, List.mem_cons, List.not_mem_nil, or_false] at ha
  rcases ha with (rfl | ha) | rfl | rfl
  · rw [hprogram]
    exact Bool.false_ne_true
  · rw [hplain a ha]
    exact Bool.false_ne_true
  · decide
  · decide

/-- The condition, in terms of the single entry of the retiring swap. -/
theorem Listed.suitable_iff {old : SwapEntry} {swaps : List SwapEntry} {page : Nat}
    (hold : Listed activation swaps old) : Suitable activation swaps page ↔
      (activation.retiringSwapBytes < 2 ^ 63 ∧ pathParent activation.swapfilePath ≠ none) ∧
        Matched activation swaps page old := by
  constructor
  · intro h
    exact ⟨⟨h.addressable, h.path⟩, h.size old hold.mem hold.name, h.priority, h.unlisted⟩
  · rintro ⟨⟨haddressable, hparent⟩, hmatched⟩
    refine ⟨?_, hmatched.priority, haddressable, hparent, hmatched.unlisted⟩
    intro e he hname
    have hmem : e ∈ swaps.filter (·.name == activation.retiringSwapDevice) :=
      List.mem_filter.mpr ⟨he, by simp [hname]⟩
    rw [hold.only, List.mem_singleton] at hmem
    rw [hmem]
    exact hmatched.size

variable [Fingerprint] {permit : ProductionSwapReplacementExecutionPermit}
  {preflight : ProductionSwapRuntimePreflightReceipt} {journal : ProductionSwapRuntimeJournal}
  {toolLease : Except String Unit} {elf : PrivilegedProgram → Except String ElfExecutionIdentity}

theorem frozen_of_build (h : buildProductionSwapRuntimeLaunchSpec activation permit preflight
    toolLease elf = .ok launch) : Frozen activation launch := by
  obtain ⟨hbindings, h⟩ := check_eq_ok_iff.mp h
  obtain ⟨-, h⟩ := check_eq_ok_iff.mp h
  obtain ⟨mkswap, hmkswap, h⟩ := bind_eq_ok_iff.mp h
  obtain ⟨swapon, hswapon, h⟩ := bind_eq_ok_iff.mp h
  obtain ⟨swapoff, hswapoff, h⟩ := bind_eq_ok_iff.mp h
  cases h
  obtain ⟨-, hbindings⟩ := check_eq_ok_iff.mp hbindings
  simp only [refuse_eq_ok_iff, not_or, not_not] at hbindings
  obtain ⟨-, -, -, -, -, -, -, -, hdevice, -, -, -, hpriority, -, hpath, -⟩ := hbindings
  rw [hpath] at hmkswap
  rw [hpath, hpriority] at hswapon
  rw [hdevice] at hswapoff
  exact ⟨rfl, rfl, rfl, launchStage_launchable hmkswap rfl rfl,
    launchStage_launchable hswapon rfl rfl, launchStage_launchable hswapoff rfl rfl⟩

theorem boundAt_of_build (h : buildProductionSwapRuntimeJournal activation permit preflight
    launch = .ok journal) :
    BoundAt activation .prepared journal ∧ journal.swapfileMode = activation.swapfileMode := by
  obtain ⟨-, h⟩ := check_eq_ok_iff.mp h
  obtain ⟨hvalid, h⟩ := check_eq_ok_iff.mp h
  cases h
  exact ⟨⟨hvalid, rfl, rfl, rfl, rfl⟩, rfl⟩

private theorem replacement_iff
    (hevidence : validateRuntimeEvidence activation snapshot resume space path = .ok ())
    (hlaunch : buildProductionSwapRuntimeLaunchSpec activation permit preflight toolLease elf =
      .ok launch)
    (hjournal : buildProductionSwapRuntimeJournal activation permit preflight launch = .ok journal)
    (h : IdealHost activation.retiringSwapBytes snapshot.swaps) :
    Proc.Succeeds (h.strategy activation) (executeMutatingRuntime launch) journal
        ⟨.holding (some journal), []⟩ ↔
      RecordsFit journal runtimeTransitions ∧ Suitable activation snapshot.swaps h.page := by
  obtain ⟨old, hold⟩ := listed_of_evidence hevidence
  obtain ⟨hr, hsame⟩ := boundAt_of_build hjournal
  have hmode : activation.swapfileMode < 0o1000 := by
    have hfixed := (validateJournal_eq_ok_iff.mp hr.valid).1.size.2
    omega
  rw [hold.suitable_iff]
  exact executeMutatingRuntime_succeeds_iff (frozen_of_build hlaunch) hold hmode hr ⟨rfl, rfl⟩ rfl

end Builders

section Sample

/-- An activation for a swap partition of one MiB, with the priority it had. -/
def swapActivation [Fingerprint] (priority : Int) : ProductionSwapReplacementActivationIntent :=
  let a : ProductionSwapReplacementActivationIntent :=
    { schemaVersion := 1, activationId := "", profile := .tailSwapPartitionToExt4Swapfile
      swapReplacementIntentId := fingerprint (.str "intent"), target := "/dev/sda1"
      disk := "/dev/sda", retiringSwapDevice := "/dev/sda2", retiringSwapBytes := 1048576
      retiringSwapPriority := priority, persistentSwapSource := "/dev/sda2"
      persistentSwapTarget := "none", persistentSwapOptions := ["sw"], persistentSwapDump := 0
      persistentSwapPass := 0, destinationMount := "/", swapfilePath := "/swap"
      destinationFilesystem := "ext4", destinationAvailableBytes := 4194304, swapfileMode := 0o600
      compileFeatureEnabled := true, executionEnabled := false }
  { a with activationId := a.expectedActivationId }

def swapPermit [Fingerprint] (priority : Int) : ProductionSwapReplacementExecutionPermit :=
  let a := swapActivation priority
  let p : ProductionSwapReplacementExecutionPermit :=
    { schemaVersion := 1, permitId := "", activationId := a.activationId
      consentReceiptId := fingerprint (.str "consent")
      swapReplacementIntentId := a.swapReplacementIntentId, profile := a.profile
      target := a.target, disk := a.disk, retiringSwapDevice := a.retiringSwapDevice
      retiringSwapBytes := a.retiringSwapBytes, retiringSwapPriority := a.retiringSwapPriority
      swapfilePath := a.swapfilePath, swapfileMode := a.swapfileMode
      compileFeatureEnabled := true, mutationEnabled := false, processSpawned := false }
  { p with permitId := p.expectedPermitId }

def swapTool [Fingerprint] (program : PrivilegedProgram) : TrustedToolIdentity :=
  { program := program, requestedPath := "/usr/sbin", canonicalPath := "/usr/sbin", deviceId := 1
    inode := 1, uid := 0, mode := 493, sizeBytes := 1, sha256 := fingerprint (.str "tool") }

def swapPreflight [Fingerprint] (priority : Int) : ProductionSwapRuntimePreflightReceipt :=
  let a := swapActivation priority
  let r : ProductionSwapRuntimePreflightReceipt :=
    { schemaVersion := 1, receiptId := "", activationId := a.activationId
      executionPermitId := (swapPermit priority).permitId
      consentReceiptId := (swapPermit priority).consentReceiptId
      swapReplacementIntentId := a.swapReplacementIntentId, target := a.target
      retiringSwapDevice := a.retiringSwapDevice, retiringSwapBytes := a.retiringSwapBytes
      retiringSwapPriority := a.retiringSwapPriority, destinationMount := a.destinationMount
      swapfilePath := a.swapfilePath, destinationAvailableBytes := 4194304
      mkswap := swapTool .mkswap, swapon := swapTool .swapon, swapoff := swapTool .swapoff
      runtimeReady := true, mutationEnabled := false, processSpawned := false }
  { r with receiptId := r.expectedReceiptId }

def swapStage [Fingerprint] (program : PrivilegedProgram) (args : List String) :
    ProductionSwapRuntimeLaunchStage :=
  { program := program, argv := program.asStr :: args, executable := swapTool program
    elf := ⟨.elf64, .littleEndian, 1⟩ }

def swapLaunch [Fingerprint] (priority : Int) : ProductionSwapRuntimeLaunchSpec :=
  let a := swapActivation priority
  let l : ProductionSwapRuntimeLaunchSpec :=
    { schemaVersion := 1, launchId := "", activationId := a.activationId
      executionPermitId := (swapPermit priority).permitId
      preflightReceiptId := (swapPreflight priority).receiptId
      swapReplacementIntentId := a.swapReplacementIntentId
      swapfile := ⟨a.swapfilePath, a.retiringSwapBytes, a.swapfileMode, true, true, true⟩
      mkswap := swapStage .mkswap ["--force", a.swapfilePath]
      swapon := swapStage .swapon ["--priority", toString priority, a.swapfilePath]
      swapoff := swapStage .swapoff [a.retiringSwapDevice], fixedPath := fixedPath
      fixedLocale := fixedLocale, descriptorExecApi := "fexecve"
      requireDualActiveVerificationBeforeSwapoff := true, mutationEnabled := false
      processSpawned := false, swapfileCreated := false }
  { l with launchId := l.expectedLaunchId }

def swapRecord [Fingerprint] (priority : Int) : ProductionSwapRuntimeJournal :=
  let a := swapActivation priority
  let j : ProductionSwapRuntimeJournal :=
    { schemaVersion := 1, journalId := "", activationId := a.activationId
      executionPermitId := (swapPermit priority).permitId
      preflightReceiptId := (swapPreflight priority).receiptId
      launchId := (swapLaunch priority).launchId
      swapReplacementIntentId := a.swapReplacementIntentId, target := a.target, disk := a.disk
      retiringSwapDevice := a.retiringSwapDevice, retiringSwapBytes := a.retiringSwapBytes
      retiringSwapPriority := a.retiringSwapPriority, swapfilePath := a.swapfilePath
      swapfileMode := a.swapfileMode, phase := .prepared, mutationMayHaveStarted := false
      persistentConfigMayHaveChanged := false, partitionTableMayHaveChanged := false, events := [] }
  { j with journalId := j.expectedJournalId }

/-- The host has the one swap, of the size the kernel reports for it. -/
def swapSnapshot (sizeBytes : Nat) (priority : Int) : HostSnapshot :=
  { storage := ⟨[]⟩, partitionTables := []
    mounts := [⟨some "/dev/sda1", "/", some "ext4", ["rw"]⟩]
    fstab := [⟨"/dev/sda2", "none", "swap", ["sw"], 0, 0⟩]
    swaps := [⟨"/dev/sda2", "partition", sizeBytes, 0, priority⟩], collectors := [] }

/-- The host with pages of 4096 bytes. -/
def pagedHost (sizeBytes : Nat) {priority : Int} (hpriority : -2 ≤ priority) :
    IdealHost 1048576 (swapSnapshot sizeBytes priority).swaps where
  uid := 0
  page := 4096
  file := 3
  directory := 4
  dev := 1
  ino := 12
  blocks := 2048
  freshPriority := -3
  page_gt := by omega
  allocated := by omega
  addressable := by omega
  fresh_neg := by omega
  fresh_new := by
    intro e he
    have hsame : e.priority = priority := by
      rw [List.mem_singleton.mp he]
    omega

theorem splitOn_swap : "/swap".splitOn "/" = ["", "swap"] := by
  have hletter : ∀ i < 5, 0 < i → String.splitOnAux "/swap" "/" ⟨1⟩ ⟨i⟩ 0 [""] =
      String.splitOnAux "/swap" "/" ⟨1⟩ ⟨i + 1⟩ 0 [""] := by
    intro i hi hpos
    rw [String.splitOnAux]
    have hcases : i = 1 ∨ i = 2 ∨ i = 3 ∨ i = 4 := by omega
    rcases hcases with rfl | rfl | rfl | rfl <;> rfl
  calc String.splitOnAux "/swap" "/" 0 0 0 []
      = String.splitOnAux "/swap" "/" ⟨1⟩ ⟨1⟩ 0 [""] := by
        rw [String.splitOnAux]
        rfl
    _ = String.splitOnAux "/swap" "/" ⟨1⟩ ⟨5⟩ 0 [""] := by
        rw [hletter 1 (by omega) (by omega), hletter 2 (by omega) (by omega),
          hletter 3 (by omega) (by omega), hletter 4 (by omega) (by omega)]
    _ = ["", "swap"] := by
        rw [String.splitOnAux]
        rfl

variable [Fingerprint]

theorem swapEvidence_ok (sizeBytes : Nat) (hsize : sizeBytes ≠ 0 ∧ sizeBytes ≤ 1048576)
    (priority : Int) :
    validateRuntimeEvidence (swapActivation priority) (swapSnapshot sizeBytes priority)
      ⟨[], [], none, none⟩ ⟨"/", 4096, 8388608, 4194304⟩ ⟨"/swap", false⟩ = .ok () := by
  have hone : exactlyOne (fun e : SwapEntry => e.kind == "partition" && e.sizeBytes != 0 &&
      decide (e.sizeBytes ≤ 1048576) && e.priority == priority)
      ((swapSnapshot sizeBytes priority).swaps.filter (·.name == "/dev/sda2")) = true := by
    simp [swapSnapshot, exactlyOne, hsize]
  refine check_eq_ok_iff.mpr ⟨rfl, check_eq_ok_iff.mpr ⟨?_, check_eq_ok_iff.mpr ⟨rfl, ?_⟩⟩⟩
  · exact refuse_eq_ok_iff.mpr (not_not.mpr hone)
  · exact check_eq_ok_iff.mpr ⟨rfl, check_eq_ok_iff.mpr ⟨rfl, rfl⟩⟩

theorem swapActivation_matches (priority : Int) :
    (swapActivation priority).integrityMatches = true := beq_self_eq_true _

theorem swapPermit_matches (priority : Int) : (swapPermit priority).integrityMatches = true :=
  beq_self_eq_true _

theorem swapPreflight_matches (priority : Int) :
    (swapPreflight priority).integrityMatches = true := beq_self_eq_true _

theorem swapLaunch_matches (priority : Int) : (swapLaunch priority).integrityMatches = true :=
  beq_self_eq_true _

theorem swapStage_ok (program : PrivilegedProgram) (args : List String)
    (hargs : ∀ a ∈ args, a.toList.contains '\x00' = false) :
    launchStage program args (swapTool program) (.ok ⟨.elf64, .littleEndian, 1⟩) =
    .ok (swapStage program args) := by
  have hprogram : ¬(swapTool program).program ≠ program := not_not.mpr rfl
  refine check_eq_ok_iff.mpr ⟨refuse_eq_ok_iff.mpr hprogram, check_eq_ok_iff.mpr ⟨?_, rfl⟩⟩
  rw [checkAll_eq_ok_iff]
  intro a ha
  refine refuse_eq_ok_iff.mpr ?_
  rw [hargs a ha]
  exact Bool.false_ne_true

theorem swapLaunch_ok (priority : Int)
    (hplain : (toString priority).toList.contains '\x00' = false) :
    buildProductionSwapRuntimeLaunchSpec (swapActivation priority) (swapPermit priority)
      (swapPreflight priority) (.ok ()) (fun _ => .ok ⟨.elf64, .littleEndian, 1⟩) =
    .ok (swapLaunch priority) := by
  have hbindings : validateBindings (swapActivation priority) (swapPermit priority)
      (swapPreflight priority) = .ok () := by
    refine check_eq_ok_iff.mpr ⟨refuse_eq_ok_iff.mpr ?_, refuse_eq_ok_iff.mpr ?_⟩
    · simp only [not_or, not_not]
      exact ⟨rfl, rfl, rfl, swapActivation_matches _, swapPermit_matches _,
        swapPreflight_matches _, rfl, rfl, rfl, Bool.false_ne_true, Bool.false_ne_true,
        Bool.false_ne_true, Bool.false_ne_true, Bool.false_ne_true⟩
    · have hcapacity : ¬4194304 < 1048576 := by omega
      simp only [not_or, not_not]
      exact ⟨rfl, rfl, rfl, rfl, rfl, rfl, rfl, rfl, rfl, rfl, rfl, rfl, rfl, rfl, rfl, rfl, rfl,
        hcapacity⟩
  refine check_eq_ok_iff.mpr ⟨hbindings, check_eq_ok_iff.mpr ⟨rfl, ?_⟩⟩
  refine bind_eq_ok_iff.mpr ⟨_, swapStage_ok .mkswap ["--force", "/swap"] ?_, ?_⟩
  · decide
  refine bind_eq_ok_iff.mpr ⟨_, swapStage_ok .swapon
    ["--priority", toString priority, "/swap"] ?_, ?_⟩
  · simp only [List.forall_mem_cons, List.not_mem_nil, false_implies, implies_true, and_true]
    exact ⟨by decide, hplain, by decide⟩
  refine bind_eq_ok_iff.mpr ⟨_, swapStage_ok .swapoff ["/dev/sda2"] ?_, rfl⟩
  decide

theorem swapRecord_valid (priority : Int) : validateJournal (swapRecord priority) = .ok () := by
  refine validateJournal_eq_ok_iff.mpr ⟨⟨rfl, ?_, ?_, ⟨by simp [swapRecord, swapActivation], rfl⟩,
    beq_self_eq_true _⟩, ⟨rfl, rfl, rfl, rfl⟩⟩
  · simp only [List.forall_mem_cons, List.not_mem_nil, false_implies, implies_true, and_true]
    exact ⟨Fingerprint.isSha256Hex_fingerprint _, Fingerprint.isSha256Hex_fingerprint _,
      Fingerprint.isSha256Hex_fingerprint _, Fingerprint.isSha256Hex_fingerprint _,
      Fingerprint.isSha256Hex_fingerprint _, Fingerprint.isSha256Hex_fingerprint _⟩
  · show ∀ p ∈ ["/dev/sda1", "/dev/sda", "/dev/sda2", "/swap"],
      p ≠ "" ∧ startsWith p "/" = true ∧ p.toList.any isControl = false
    decide

theorem swapRecord_ok (priority : Int) :
    buildProductionSwapRuntimeJournal (swapActivation priority) (swapPermit priority)
      (swapPreflight priority) (swapLaunch priority) = .ok (swapRecord priority) := by
  refine check_eq_ok_iff.mpr ⟨?_, check_eq_ok_iff.mpr ⟨swapRecord_valid priority, rfl⟩⟩
  refine check_eq_ok_iff.mpr ⟨refuse_eq_ok_iff.mpr ?_, refuse_eq_ok_iff.mpr ?_⟩
  · simp only [not_or, not_not]
    exact ⟨rfl, rfl, rfl, rfl, swapActivation_matches _, swapPermit_matches _,
      swapPreflight_matches _, swapLaunch_matches _, rfl, Bool.false_ne_true, Bool.false_ne_true,
      Bool.false_ne_true, Bool.false_ne_true, Bool.false_ne_true, Bool.false_ne_true,
      Bool.false_ne_true, Bool.false_ne_true⟩
  · simp only [not_or, not_not]
    exact ⟨rfl, rfl, rfl, rfl, rfl, rfl, rfl, rfl, rfl, rfl, rfl, rfl, rfl, rfl, rfl, rfl⟩

theorem swapRecord_fits : RecordsFit (swapRecord 5) runtimeTransitions := by
  have hid : ∀ v, Lib.Json.stringBound (fingerprint v) = 386 := by
    intro v
    rw [Lib.Json.stringBound, fingerprint_utf8ByteSize]
  have hlength : (swapRecord 5).events.length + runtimeTransitions.length < 100 := by
    show 0 + 8 < 100
    omega
  refine recordsFit_of_room hlength ?_
  show Lib.Json.byteBound (toJson (swapRecord 5)) + 840 * 8 ≤ 262144
  simp only [swapRecord, ProductionSwapRuntimeJournal.expectedJournalId, swapActivation,
    ProductionSwapReplacementActivationIntent.expectedActivationId, swapPermit,
    ProductionSwapReplacementExecutionPermit.expectedPermitId, swapPreflight,
    ProductionSwapRuntimePreflightReceipt.expectedReceiptId, swapLaunch,
    ProductionSwapRuntimeLaunchSpec.expectedLaunchId, toJson, Lib.Json.byteBound,
    Lib.Json.fieldsBound, Lib.Json.itemsBound, List.map_nil, hid]
  decide

theorem swapSuitable : Suitable (swapActivation 5) (swapSnapshot 1044480 5).swaps 4096 := by
  have hunlisted : "/dev/sda2" ≠ "/swap" := by decide
  have hcomponents : pathComponents "/swap" = ["swap"] := by
    rw [pathComponents, splitOn_swap]
    rfl
  have hparent : pathParent "/swap" ≠ none := by
    rw [pathParent, hcomponents]
    exact Option.some_ne_none _
  have hrange : (0 : Int) ≤ 5 ∧ (5 : Int) ≤ 32767 := by omega
  have haddressable : 1048576 < 2 ^ 63 := by omega
  refine ⟨fun e he _ => ?_, hrange, haddressable, hparent, fun e he => ?_⟩
  · rw [List.mem_singleton.mp he]
    rfl
  · rw [List.mem_singleton.mp he]
    exact hunlisted

end Sample

end StorageManager.Executor.Swap
