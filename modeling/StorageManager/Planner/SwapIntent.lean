import StorageManager.Planner.LayoutLaws
import StorageManager.Planner.SwapMigration

/-!
# What a ready swap replacement proves

The partition, the fstab entry and the destination are joined by the spellings of one device.
The active swap is found under the path and the kernel name of the partition; its fstab entry
is looked for under other spellings, and the source of the destination under one only.
-/

namespace StorageManager.Planner.SwapMigration

open Core
open Extend (LayoutOpportunity analyzeLayoutOpportunity only only_eq_some_iff swapConfirmed
  tailLayout_of_opportunity tailSnapshot)
open Lib.Checks
open Lib.Word64
open Provisioning (pushBlocker pushBlocker_eq_nil_iff)

set_option autoImplicit false

section Opportunity

variable {s : HostSnapshot} {target : String} {op : LayoutOpportunity}

/-- The swap partition of an opportunity: one node, with one active swap. -/
structure Retiring (s : HostSnapshot) (device : String) (bytes : Nat) (n : Node)
    (swap : SwapEntry) : Prop where
  only : (flatten s.storage.blockDevices).filter (fun n =>
    n.device.kind = .partition && n.device.nodeAlias device) = [n]
  size : n.device.sizeBytes = bytes
  active : s.swaps.filter (fun swap => n.device.nodeAlias swap.name) = [swap]

/-- The node that the tail layout names for the swap partition. -/
def TailSwap (s : HostSnapshot) (target device : String) : Prop :=
  ∃ op, analyzeLayoutOpportunity s target = some op ∧ op.blockingDevices[1]? = some device

theorem retiring_of_opportunity (h : analyzeLayoutOpportunity s target = some op) :
    ∃ device n swap, op.blockingDevices[1]? = some device ∧
      Retiring s device op.swapBytes n swap := by
  obtain ⟨_, _, _, _, _, record, -, offers, _, hconfirmed⟩ := tailLayout_of_opportunity h
  rw [swapConfirmed] at hconfirmed
  obtain ⟨n, hn, hconfirmed⟩ := Option.bind_eq_some_iff.mp hconfirmed
  obtain ⟨swap, hswap, hconfirmed⟩ := Option.bind_eq_some_iff.mp hconfirmed
  rw [guard_eq_some_iff] at hconfirmed
  rw [only_eq_some_iff] at hn hswap
  refine ⟨record.node, n, swap, ?_, hn, hconfirmed.1, hswap⟩
  rw [offers.blocking_eq]
  rfl

end Opportunity

section Clear

variable {s : HostSnapshot} {resume : HibernationResumeEvidence} {target destinationMount : String}
  {capabilities : HostCapabilities} {safety : SwapMigrationSafety} {space : FilesystemSpaceEvidence}

/-- What a safety proof without a blocker found. -/
structure SafetyClear (s : HostSnapshot) (target : String) (safety : SwapMigrationSafety)
    (device : String) (n : Node) (swap : SwapEntry) (entry : FstabEntry) : Prop where
  tail : TailSwap s target device
  swapDevice : safety.swapDevice = some device
  swapBytes : safety.swapBytes = some n.device.sizeBytes
  retiring : Retiring s device n.device.sizeBytes n swap
  persistentSwapSource : safety.persistentSwapSource = some entry.source
  matched : persistentMatches s (swapNode s (some device)) = [entry]

theorem isClearForPlanning_iff : (analyzeSwapMigrationSafety s resume target).isClearForPlanning ↔
    (analyzeSwapMigrationSafety s resume target).blockers = [] := by
  unfold analyzeSwapMigrationSafety SwapMigrationSafety.isClearForPlanning
  cases analyzeLayoutOpportunity s target with
  | none => exact iff_of_false (fun h => Bool.false_ne_true h) (List.cons_ne_nil _ _)
  | some op =>
    dsimp only
    rw [decide_eq_true_eq]
    split
    · next hblockers => exact iff_of_true rfl hblockers
    · next hblockers => exact iff_of_false (fun h => by cases h) hblockers

theorem persistentSwapSource_clear {entries : List FstabEntry}
    (h : (persistentSwapSource entries).2 = []) : ∃ entry, entries = [entry] := by
  match entries with
  | [entry] => exact ⟨entry, rfl⟩
  | [] => cases h
  | _ :: _ :: _ => cases h

theorem safetyClear_of_remaining
    (h : (analyzeSwapMigrationSafety s resume target).remaining = []) : ∃ device n swap entry,
      SafetyClear s target (analyzeSwapMigrationSafety s resume target) device n swap entry := by
  have hblockers : (analyzeSwapMigrationSafety s resume target).blockers = [] := by
    unfold SwapMigrationSafety.remaining at h
    split at h
    · next hclear => exact isClearForPlanning_iff.mp hclear
    · exact h
  unfold analyzeSwapMigrationSafety at hblockers ⊢
  cases hop : analyzeLayoutOpportunity s target with
  | none =>
    rw [hop] at hblockers
    cases hblockers
  | some op =>
    rw [hop] at hblockers
    obtain ⟨device, n, swap, hdevice, hretiring⟩ := retiring_of_opportunity hop
    obtain ⟨-, hpersistent⟩ := List.append_eq_nil_iff.mp hblockers
    obtain ⟨entry, hentry⟩ := persistentSwapSource_clear hpersistent
    have hsize := hretiring.size
    refine ⟨device, n, swap, entry, ⟨op, hop, hdevice⟩, hdevice, congrArg some hsize.symm,
      hsize.symm ▸ hretiring, ?_, ?_⟩
    · dsimp only
      rw [hentry]
      rfl
    · rw [← hdevice]
      exact hentry

/-- What a destination without a blocker shows. -/
structure DestinationReady (s : HostSnapshot) (device : String) (bytes : Nat)
    (space : FilesystemSpaceEvidence) (destinationMount : String) (mount : MountEntry) : Prop where
  evidence : space.path = destinationMount
  mounted : s.mounts.filter (·.target = destinationMount) = [mount]
  fsType : mount.fsType = some "ext4"
  writable : "rw" ∈ mount.options ∧ "ro" ∉ mount.options
  other : mount.source ≠ some device
  capacity : bytes ≤ space.availableBytes

theorem isReadyForPlanning_iff :
    (analyzeSwapfileDestination s capabilities safety space destinationMount).isReadyForPlanning ↔
      (analyzeSwapfileDestination s capabilities safety space destinationMount).blockers = [] := by
  unfold SwapfileDestinationReadiness.isReadyForPlanning analyzeSwapfileDestination
  dsimp only
  rw [decide_eq_true_eq]
  split
  · next hblockers => exact iff_of_true rfl hblockers
  · next hblockers => exact iff_of_false (fun h => by cases h) hblockers

theorem destinationMounted_clear (h : (destinationMounted s destinationMount).2 = []) :
    ∃ mount, s.mounts.filter (·.target = destinationMount) = [mount] ∧
      (destinationMounted s destinationMount).1 = some mount := by
  unfold destinationMounted at h ⊢
  split at h
  · next mount hmount =>
    exact ⟨mount, hmount, rfl⟩
  · cases h

theorem destinationReady_of_remaining {device : String} {bytes : Nat}
    (hdevice : safety.swapDevice = some device) (hbytes : safety.swapBytes = some bytes)
    (h : (analyzeSwapfileDestination s capabilities safety space destinationMount).remaining = []) :
    ∃ mount, DestinationReady s device bytes space destinationMount mount := by
  have hblockers :
      (analyzeSwapfileDestination s capabilities safety space destinationMount).blockers = [] := by
    unfold SwapfileDestinationReadiness.remaining at h
    split at h
    · next hready => exact isReadyForPlanning_iff.mp hready
    · exact h
  unfold analyzeSwapfileDestination at hblockers
  dsimp only at hblockers
  simp only [List.append_eq_nil_iff, pushBlocker_eq_nil_iff, not_not] at hblockers
  obtain ⟨⟨⟨⟨⟨⟨-, hspace⟩, hmounted⟩, hfsType⟩, hmount⟩, hcapacity⟩, -⟩ := hblockers
  obtain ⟨mount, hone, hfound⟩ := destinationMounted_clear hmounted
  rw [hfound] at hfsType hmount
  simp only [mountBlockers, Option.elim_some, List.append_eq_nil_iff, pushBlocker_eq_nil_iff,
    not_or, not_not, hdevice] at hmount
  rw [capacityBlockers, hbytes] at hcapacity
  simp only [pushBlocker_eq_nil_iff, Nat.not_lt] at hcapacity
  exact ⟨mount, hspace, hone, hfsType, hmount.1, hmount.2, hcapacity⟩

end Clear

section Ready

variable {s : HostSnapshot} {resume : HibernationResumeEvidence} {target destinationMount : String}
  {capabilities : HostCapabilities} {space : FilesystemSpaceEvidence}
  {pathState : PathOccupancyEvidence}

/-- A name of a device that fstab may use: its path, its kernel name, or one of its UUIDs. -/
def denotes (device : BlockDevice) (source : String) : Bool :=
  device.nodeAlias source || sourceMatchesDevice source device

/-- A path directly below a mount point. -/
def InsideMount (mountpoint path : String) : Prop :=
  ∃ name, name ≠ [] ∧ '/' ∉ name ∧
    path.toList = mountpoint.toList.rdropWhile (· = '/') ++ '/' :: name

theorem swapfilePathForMount_inside (mountpoint : String) :
    InsideMount mountpoint (swapfilePathForMount mountpoint) := by
  refine ⟨".linux-storage-manager.swap".toList, by decide, by decide, ?_⟩
  unfold swapfilePathForMount
  split
  · next hroot =>
    rw [hroot]
    rfl
  · rw [String.toList_append, String.toList_ofList]
    rfl

/-- What the replacement of a swap partition relies on. -/
structure Replaceable (s : HostSnapshot) (intent : SwapReplacementIntent)
    (space : FilesystemSpaceEvidence) (pathState : PathOccupancyEvidence) (device : BlockDevice) :
    Prop where
  runtime : ∃ swap, s.swaps.filter (fun swap => denotes device swap.name) = [swap] ∧
    intent.retiringSwapUsedBytes = some swap.usedBytes ∧
    intent.retiringSwapPriority = some swap.priority
  persistent : ∃ entry,
    s.fstab.filter (fun entry => entry.fsType = "swap" && denotes device entry.source) = [entry] ∧
      intent.persistentSwapSource = some entry.source
  mounted : ∃ mount, s.mounts.filter (·.target = intent.destinationMount) = [mount] ∧
    mount.fsType = some "ext4" ∧ ("rw" ∈ mount.options ∧ "ro" ∉ mount.options) ∧
    ∀ source, mount.source = some source → denotes device source = false
  capacity : intent.retiringSwapBytes = some device.sizeBytes ∧
    space.path = intent.destinationMount ∧ device.sizeBytes ≤ space.availableBytes
  vacant : pathState.path = intent.swapfilePath ∧ pathState.present = false
  inside : InsideMount intent.destinationMount intent.swapfilePath

/-- No active swap names the partition but by its path or its kernel name, the fstab entries that
name it are those that are looked for, and the destination does not come from it under another
name. -/
structure PlainlyNamed (s : HostSnapshot) (name destinationMount : String) (device : BlockDevice) :
    Prop where
  swaps : ∀ swap ∈ s.swaps, denotes device swap.name = true → device.nodeAlias swap.name = true
  entries : ∀ entry ∈ s.fstab, entry.fsType = "swap" → (denotes device entry.source = true ↔
    ∃ n ∈ flatten s.storage.blockDevices, sourceMatchesDevice name n.device = true ∧
      sourceMatchesDevice entry.source n.device = true)
  destination : ∀ mount ∈ s.mounts, mount.target = destinationMount →
    ∀ source, mount.source = some source → source ≠ name → denotes device source = false

/-- What a ready intent went through. -/
structure Proven (s : HostSnapshot) (target : String) (intent : SwapReplacementIntent)
    (space : FilesystemSpaceEvidence) (pathState : PathOccupancyEvidence) (device : String)
    (n : Node) (swap : SwapEntry) (entry : FstabEntry) (mount : MountEntry) : Prop where
  tail : TailSwap s target device
  retiring : Retiring s device n.device.sizeBytes n swap
  matched : persistentMatches s (swapNode s (some device)) = [entry]
  sourced : s.fstab.filter (fun e => e.fsType = "swap" && e.source = entry.source) = [entry]
  ready : DestinationReady s device n.device.sizeBytes space intent.destinationMount mount
  named : intent.retiringSwapDevice = some device
  bytes : intent.retiringSwapBytes = some n.device.sizeBytes
  used : intent.retiringSwapUsedBytes = some swap.usedBytes
  priority : intent.retiringSwapPriority = some swap.priority
  source : intent.persistentSwapSource = some entry.source
  vacant : pathState.path = intent.swapfilePath ∧ pathState.present = false
  inside : intent.swapfilePath = swapfilePathForMount intent.destinationMount

variable {intent : SwapReplacementIntent} {device : String} {n : Node} {swap : SwapEntry}
  {entry : FstabEntry} {mount : MountEntry}

theorem Proven.entry_mem (p : Proven s target intent space pathState device n swap entry mount) :
    entry ∈ s.fstab ∧ entry.fsType = "swap" := by
  obtain ⟨hmem, hfits⟩ := mem_of_filter_eq_singleton p.sourced
  exact ⟨hmem, of_decide_eq_true (Bool.and_eq_true_iff.mp hfits).1⟩

/-- An entry is looked for exactly when it names a node that the path of the swap names. -/
theorem Proven.looked_for_iff (p : Proven s target intent space pathState device n swap entry mount)
    {e : FstabEntry} (he : e ∈ s.fstab) (hswap : e.fsType = "swap") :
    (∃ x ∈ flatten s.storage.blockDevices, sourceMatchesDevice device x.device = true ∧
      sourceMatchesDevice e.source x.device = true) ↔ e = entry := by
  have hmatched := p.matched
  rw [swapNode, Option.bind_some] at hmatched
  cases hnode :
      only ((flatten s.storage.blockDevices).filter (sourceMatchesDevice device ·.device)) with
  | none =>
    rw [hnode] at hmatched
    cases hmatched
  | some node =>
    rw [hnode] at hmatched
    rw [only_eq_some_iff] at hnode
    constructor
    · intro ⟨x, hx, hdevice, hsource⟩
      rw [eq_of_filter_eq_singleton hnode hx hdevice] at hsource
      refine eq_of_filter_eq_singleton hmatched he ?_
      rw [hswap, hsource, decide_eq_true rfl, Bool.and_true]
    · intro heq
      obtain ⟨hnodeMem, hnodeFits⟩ := mem_of_filter_eq_singleton hnode
      obtain ⟨-, hfits⟩ := mem_of_filter_eq_singleton hmatched
      rw [heq]
      exact ⟨node, hnodeMem, hnodeFits, (Bool.and_eq_true_iff.mp hfits).2⟩

theorem Proven.replaceable_iff
    (p : Proven s target intent space pathState device n swap entry mount) :
    Replaceable s intent space pathState n.device ↔
      PlainlyNamed s device intent.destinationMount n.device := by
  obtain ⟨hentry, hswap⟩ := p.entry_mem
  constructor
  · intro hreplaceable
    obtain ⟨active, hactive, -⟩ := hreplaceable.runtime
    obtain ⟨other, hone, hsource⟩ := hreplaceable.persistent
    -- the entry under every name is the frozen one
    obtain ⟨hother, hfits⟩ := mem_of_filter_eq_singleton hone
    have hsame : other = entry := by
      refine eq_of_filter_eq_singleton p.sourced hother ?_
      rw [Bool.and_eq_true]
      refine ⟨(Bool.and_eq_true_iff.mp hfits).1, decide_eq_true ?_⟩
      exact (Option.some.inj (p.source.symm.trans hsource)).symm
    rw [hsame] at hone hfits
    obtain ⟨found, hfound, -, -, hother⟩ := hreplaceable.mounted
    refine ⟨fun a ha hdenotes => ?_, fun e he heswap => ?_, fun m hm htarget source hsource _ => ?_⟩
    · obtain ⟨hmem, halias⟩ := mem_of_filter_eq_singleton p.retiring.active
      have hnamed : denotes n.device swap.name = true := Bool.or_eq_true_iff.mpr (.inl halias)
      rw [eq_of_filter_eq_singleton hactive ha hdenotes,
        ← eq_of_filter_eq_singleton hactive hmem hnamed]
      exact halias
    · rw [p.looked_for_iff he heswap]
      constructor
      · intro hdenotes
        refine eq_of_filter_eq_singleton hone he ?_
        rw [heswap, hdenotes, decide_eq_true rfl, Bool.and_true]
      · intro heq
        rw [heq]
        exact (Bool.and_eq_true_iff.mp hfits).2
    · refine hother source ?_
      rw [← eq_of_filter_eq_singleton hfound hm (decide_eq_true htarget)]
      exact hsource
  · intro hplain
    have hdenotes : denotes n.device entry.source = true :=
      (hplain.entries entry hentry hswap).mpr ((p.looked_for_iff hentry hswap).mpr rfl)
    have hone :
        s.fstab.filter (fun e => e.fsType = "swap" && denotes n.device e.source) = [entry] := by
      rw [← p.sourced]
      refine List.filter_congr fun e he => ?_
      by_cases heswap : e.fsType = "swap"
      · rw [Bool.eq_iff_iff, Bool.and_eq_true, Bool.and_eq_true]
        refine and_congr_right fun _ => ?_
        rw [hplain.entries e he heswap, p.looked_for_iff he heswap, decide_eq_true_eq]
        constructor
        · intro heq
          rw [heq]
        · intro hsource
          refine eq_of_filter_eq_singleton p.sourced he ?_
          rw [heswap, hsource, decide_eq_true rfl, decide_eq_true rfl, Bool.and_true]
      · rw [decide_eq_false heswap, Bool.false_and, Bool.false_and]
    have hactive : s.swaps.filter (fun swap => denotes n.device swap.name) = [swap] := by
      rw [← p.retiring.active]
      refine List.filter_congr fun a ha => ?_
      rw [Bool.eq_iff_iff]
      exact ⟨hplain.swaps a ha, fun halias => Bool.or_eq_true_iff.mpr (.inl halias)⟩
    obtain ⟨hmount, htarget⟩ := mem_of_filter_eq_singleton p.ready.mounted
    have hother : ∀ source, mount.source = some source → denotes n.device source = false := by
      intro source hsource
      refine hplain.destination mount hmount (of_decide_eq_true htarget) source hsource ?_
      intro hname
      exact p.ready.other (hsource.trans (congrArg some hname))
    exact
      { runtime := ⟨swap, hactive, p.used, p.priority⟩
        persistent := ⟨entry, hone, p.source⟩
        mounted := ⟨mount, p.ready.mounted, p.ready.fsType, p.ready.writable, hother⟩
        capacity := ⟨p.bytes, p.ready.evidence, p.ready.capacity⟩
        vacant := p.vacant
        inside := p.inside ▸ swapfilePathForMount_inside intent.destinationMount }

variable [Fingerprint]

/-- The intent of one snapshot, as the command joins its analyses. -/
def plannedIntent (s : HostSnapshot) (resume : HibernationResumeEvidence) (target : String)
    (capabilities : HostCapabilities) (space : FilesystemSpaceEvidence) (destinationMount : String)
    (pathState : PathOccupancyEvidence) : SwapReplacementIntent :=
  let safety := analyzeSwapMigrationSafety s resume target
  buildSwapReplacementIntent s safety
    (analyzeSwapfileDestination s capabilities safety space destinationMount) pathState

/-- What joining two analyses compares. -/
structure Joined (s : HostSnapshot) (safety : SwapMigrationSafety)
    (readiness : SwapfileDestinationReadiness) (pathState : PathOccupancyEvidence)
    (swap : SwapEntry) (entry : FstabEntry) : Prop where
  clear : safety.remaining = []
  prepared : readiness.remaining = []
  vacant : pathState.path = readiness.swapfilePath ∧ pathState.present = false
  active : retiringSwap s safety = some swap
  persistent : retiringEntry s safety = some entry

theorem joined_of_ready {safety : SwapMigrationSafety} {readiness : SwapfileDestinationReadiness}
    (h : (buildSwapReplacementIntent s safety readiness pathState).ready = true) :
    ∃ swap entry, Joined s safety readiness pathState swap entry := by
  unfold SwapReplacementIntent.ready at h
  rw [Bool.and_eq_true, Bool.and_eq_true, List.isEmpty_iff] at h
  have hblockers := h.1.2
  unfold buildSwapReplacementIntent at hblockers
  dsimp only at hblockers
  simp only [List.append_eq_nil_iff, pushBlocker_eq_nil_iff, not_not, Bool.not_eq_true] at hblockers
  obtain ⟨⟨⟨⟨⟨⟨⟨hsafety, hreadiness⟩, hpath⟩, hvacant⟩, -⟩, hswap⟩, hentry⟩, -⟩ := hblockers
  obtain ⟨swap, hswap⟩ := Option.ne_none_iff_exists'.mp hswap
  obtain ⟨entry, hentry⟩ := Option.ne_none_iff_exists'.mp hentry
  exact ⟨swap, entry, hsafety, hreadiness, ⟨hpath, hvacant⟩, hswap, hentry⟩

theorem proven_of_ready
    (h : (plannedIntent s resume target capabilities space destinationMount
      pathState).ready = true) :
    ∃ device n swap entry mount,
      Proven s target (plannedIntent s resume target capabilities space destinationMount pathState)
        space pathState device n swap entry mount := by
  unfold plannedIntent at h ⊢
  dsimp only at h ⊢
  obtain ⟨found, frozen, hjoined⟩ := joined_of_ready h
  obtain ⟨device, n, swap, entry, hclear⟩ := safetyClear_of_remaining hjoined.clear
  obtain ⟨mount, hready⟩ :=
    destinationReady_of_remaining hclear.swapDevice hclear.swapBytes hjoined.prepared
  have hswap := hjoined.active
  have hentry := hjoined.persistent
  rw [retiringSwap, hclear.swapDevice, Option.bind_some, only_eq_some_iff] at hswap
  rw [retiringEntry, hclear.persistentSwapSource, Option.bind_some, only_eq_some_iff] at hentry
  -- both look-ups of the swap find the one swap of the partition
  obtain ⟨hmem, hname⟩ := mem_of_filter_eq_singleton hswap
  have halias : n.device.nodeAlias device = true :=
    (Bool.and_eq_true_iff.mp (mem_of_filter_eq_singleton hclear.retiring.only).2).2
  have hfound : found = swap := by
    refine eq_of_filter_eq_singleton hclear.retiring.active hmem ?_
    rw [of_decide_eq_true hname]
    exact halias
  have hentryMem : entry ∈ s.fstab ∧ entry.fsType = "swap" := by
    have hmatched := hclear.matched
    unfold persistentMatches at hmatched
    cases hnode : swapNode s (some device) with
    | none =>
      rw [hnode] at hmatched
      cases hmatched
    | some node =>
      rw [hnode] at hmatched
      obtain ⟨hmem, hfits⟩ := mem_of_filter_eq_singleton hmatched
      exact ⟨hmem, of_decide_eq_true (Bool.and_eq_true_iff.mp hfits).1⟩
  have hfrozen : entry = frozen := by
    refine eq_of_filter_eq_singleton hentry hentryMem.1 ?_
    rw [hentryMem.2, decide_eq_true rfl, decide_eq_true rfl, Bool.and_true]
  refine ⟨device, n, swap, entry, mount, ?_⟩
  refine ⟨hclear.tail, hclear.retiring, hclear.matched, hfrozen ▸ hentry, hready, hclear.swapDevice,
    hclear.swapBytes, ?_, ?_, ?_, hjoined.vacant, rfl⟩
  · show (retiringSwap s _).map (·.usedBytes) = _
    rw [hjoined.active, hfound, Option.map_some]
  · show (retiringSwap s _).map (·.priority) = _
    rw [hjoined.active, hfound, Option.map_some]
  · show (retiringEntry s _).map (·.source) = _
    rw [hjoined.persistent, hfrozen, Option.map_some]

/-- A ready intent replaces the one swap of the partition, and its persistent entry and the
destination are proven exactly when the partition is plainly named. -/
theorem ready_intent_iff
    (h : (plannedIntent s resume target capabilities space destinationMount
      pathState).ready = true) :
    ∃ device n, TailSwap s target device ∧
      (plannedIntent s resume target capabilities space destinationMount
        pathState).retiringSwapDevice = some device ∧
      (flatten s.storage.blockDevices).filter (fun n =>
        n.device.kind = .partition && n.device.nodeAlias device) = [n] ∧
      (Replaceable s (plannedIntent s resume target capabilities space destinationMount pathState)
        space pathState n.device ↔ PlainlyNamed s device destinationMount n.device) := by
  obtain ⟨device, n, swap, entry, mount, hproven⟩ := proven_of_ready h
  exact ⟨device, n, hproven.tail, hproven.named, hproven.retiring.only, hproven.replaceable_iff⟩

end Ready

section Samples

/-- A host where the kernel has another name for the swap partition than its path shows. -/
def swapHost (more : List FstabEntry) : HostSnapshot :=
  { tailSnapshot 4096 [] with
    storage :=
      { blockDevices := (tailSnapshot 4096 []).storage.blockDevices.map fun disk =>
          { disk with
            children := disk.children.map fun d =>
              if d.path = some "/dev/sda5" then
                { d with name := "sda5", kernelName := some "dm-5", uuid := some "swap-uuid" }
              else d } }
    mounts := [⟨some "/dev/sda1", "/data", some "ext4", ["rw"]⟩]
    fstab := ⟨"UUID=swap-uuid", "none", "swap", ["sw"], 0, 0⟩ :: more }

def swapHostIntent [Fingerprint] (more : List FstabEntry) : SwapReplacementIntent :=
  plannedIntent (swapHost more) ⟨[], [], none, none⟩ "/data"
    ⟨[⟨"mkswap", true⟩, ⟨"swapon", true⟩, ⟨"swapoff", true⟩]⟩ ⟨"/data", 4096, 512000000, 150000000⟩
    "/data" ⟨"/data/.linux-storage-manager.swap", false⟩

/-- The partition under its kernel name. -/
def kernelNamed : FstabEntry := ⟨"/dev/dm-5", "none", "swap", ["sw"], 0, 0⟩

theorem swapHostIntent_ready [Fingerprint] : (swapHostIntent []).ready = true := rfl

theorem kernelNamed_ready [Fingerprint] : (swapHostIntent [kernelNamed]).ready = true ∧
    (swapHostIntent [kernelNamed]).retiringSwapDevice = some "/dev/sda5" := ⟨rfl, rfl⟩

theorem ready_intent_sample : ∃ device n, TailSwap (swapHost []) "/data" device ∧
    (swapHostIntent []).retiringSwapDevice = some device ∧
    (flatten (swapHost []).storage.blockDevices).filter (fun n =>
      n.device.kind = .partition && n.device.nodeAlias device) = [n] ∧
    (Replaceable (swapHost []) (swapHostIntent []) ⟨"/data", 4096, 512000000, 150000000⟩
      ⟨"/data/.linux-storage-manager.swap", false⟩ n.device ↔
        PlainlyNamed (swapHost []) device "/data" n.device) :=
  ready_intent_iff swapHostIntent_ready

/-- A second entry names the partition as the kernel does: the intent is ready all the same. -/
theorem ready_intent_fails_sample :
    (swapHostIntent [kernelNamed]).ready = true ∧
    (swapHostIntent [kernelNamed]).retiringSwapDevice =
      some "/dev/sda5" ∧
    ∃ n, (flatten (swapHost [kernelNamed]).storage.blockDevices).filter
        (fun n => n.device.kind = .partition && n.device.nodeAlias "/dev/sda5") = [n] ∧
      ¬Replaceable (swapHost [kernelNamed])
        (swapHostIntent [kernelNamed])
        ⟨"/data", 4096, 512000000, 150000000⟩ ⟨"/data/.linux-storage-manager.swap", false⟩
        n.device := by
  refine ⟨kernelNamed_ready.1, kernelNamed_ready.2, ?_⟩
  have hone : ((flatten (swapHost [kernelNamed]).storage.blockDevices).filter
      (fun n => n.device.kind = .partition && n.device.nodeAlias "/dev/sda5")).length = 1 := by
    decide +kernel
  obtain ⟨n, hn⟩ := List.length_eq_one_iff.mp hone
  refine ⟨n, hn, fun hreplaceable => ?_⟩
  have htwice : ∀ n ∈ flatten (swapHost [kernelNamed]).storage.blockDevices,
      (n.device.kind = .partition && n.device.nodeAlias "/dev/sda5") = true →
        ((swapHost [kernelNamed]).fstab.filter
          (fun e => e.fsType = "swap" && denotes n.device e.source)).length = 2 := by
    decide +kernel
  obtain ⟨hmem, hfits⟩ := mem_of_filter_eq_singleton hn
  obtain ⟨entry, hentry, -⟩ := hreplaceable.persistent
  have hlength := htwice n hmem hfits
  rw [hentry] at hlength
  cases hlength

end Samples

end StorageManager.Planner.SwapMigration
