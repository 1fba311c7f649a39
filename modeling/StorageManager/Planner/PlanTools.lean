import StorageManager.Planner.VolumeFacts

/-!
# The tools of a plan

Every strategy ends in steps that run external programs. Three of the four builders ask the
capabilities for theirs; the one that grows a volume from below asks for none.
-/

namespace StorageManager.Planner.Extend

open Core (HostCapabilities HostSnapshot)
open Lib.Checks
open Lib.Word64

set_option autoImplicit false

variable {s : HostSnapshot} {capabilities : HostCapabilities} {request : ExtendRequest}

/-- The programs a backup or a mutation is run with: its command, and the kernel's refresh
behind a partition's change. -/
def stepTools : Operation → List String
  | .revalidateSnapshot | .rediscoverAndVerify => []
  | .backupLvmMetadata _ => ["vgcfgbackup"]
  | .backupPartitionTableMetadata _ _ _ => ["sfdisk"]
  | .extendPartition _ _ _ _ _ => ["sfdisk", "partx"]
  | .resizePhysicalVolume _ _ => ["pvresize"]
  | .extendLogicalVolume _ _ _ => ["lvextend"]
  | .growFilesystem fsType mountpoint =>
    growTool fsType :: if fsType = "ext4" ∧ mountpoint = none then ["e2fsck"] else []

/-- Every program of the steps is reported as available. -/
def Tooled (capabilities : HostCapabilities) (steps : List PlanStep) : Prop :=
  ∀ step ∈ steps, ∀ tool ∈ stepTools step.operation, ToolReported capabilities tool

/-- A volume grows from below: for the largest growth, or where its group has too little. -/
def underlyingChosen (s : HostSnapshot) (capabilities : HostCapabilities)
    (request : ExtendRequest) : Bool :=
  (buildLvmUnderlyingGrowthCandidate s request).isSome &&
    (request.growth = .maxFree || match buildCandidate s capabilities request with
      | .ok _ => false
      | .error blocker => blocker.code = "insufficient-capacity" || blocker.code = "no-growth")

/-- The programs that growing a volume from below needs. -/
def underlyingTools (s : HostSnapshot) (request : ExtendRequest) : List String :=
  let fsType := ((underlyingStack s request.target).map (·.fs.fsType)).getD ""
  let growsPartition := (analyzeLvmUnderlyingGrowth s request).any
    (0 < ·.requiredPartitionGrowthBytes)
  ["vgcfgbackup"] ++ (if growsPartition then ["sfdisk", "partx"] else []) ++
    ["pvresize", "lvextend", growTool fsType]

/-- The programs of the chosen strategy that it plans without asking for them. -/
def ungatedTools (s : HostSnapshot) (capabilities : HostCapabilities)
    (request : ExtendRequest) : List String :=
  match (resolveExtendRouteAdapter s request.target).profile with
  | .directPartition => ["partx"]
  | .lvm => if underlyingChosen s capabilities request then underlyingTools s request else []
  | .wholeBlockFilesystem | .legacyFailClosed => []

section Steps

theorem tooled_cons {first : PlanStep} {steps : List PlanStep} :
    Tooled capabilities (first :: steps) ↔
      (∀ tool ∈ stepTools first.operation, ToolReported capabilities tool) ∧
        Tooled capabilities steps :=
  List.forall_mem_cons

theorem tooled_nil : Tooled capabilities [] := by
  intro step hstep
  cases hstep

theorem tooled_numbered {operations : List (Operation × Reversibility)} :
    Tooled capabilities (numbered operations) ↔
      ∀ operation ∈ operations, ∀ tool ∈ stepTools operation.1, ToolReported capabilities tool := by
  unfold numbered Tooled
  constructor
  · intro h operation hoperation
    obtain ⟨i, hi, rfl⟩ := List.getElem_of_mem hoperation
    exact h _ (List.mem_mapIdx.mpr ⟨i, hi, rfl⟩)
  · intro h first hfirst
    obtain ⟨i, hi, rfl⟩ := List.mem_mapIdx.mp hfirst
    exact h _ (List.getElem_mem hi)

/-- A direct partition's builder asks for everything but the kernel's refresh. -/
theorem PartitionPlan.tooled_iff {size : PartitionSizeChange} {steps : List PlanStep}
    (plan : PartitionPlan s capabilities request size steps) :
    Tooled capabilities steps ↔ ToolReported capabilities "partx" := by
  have hsfdisk := plan.target.tools "sfdisk" (by simp)
  have hgrow := plan.target.tools (growTool plan.fs.fsType) (by simp)
  rw [plan.steps_eq, partitionSteps]
  simp [tooled_cons, tooled_nil, step, stepTools, hsfdisk, hgrow]

theorem FreeExtentsPlan.tooled {size : SizeChange} {steps : List PlanStep}
    (plan : FreeExtentsPlan s capabilities request size steps) : Tooled capabilities steps := by
  have hbackup := plan.tools "vgcfgbackup" (by simp)
  have hextend := plan.tools "lvextend" (by simp)
  have hgrow := plan.tools (growTool plan.fs.fsType) (by simp)
  rw [plan.steps_eq]
  simp only [tooled_cons, tooled_nil, step, stepTools, List.forall_mem_cons, List.not_mem_nil,
    false_imp_iff, implies_true, and_true, true_and, hbackup, hextend, hgrow]
  by_cases hoffline : plan.fs.fsType = "ext4" ∧
      (resolveExtendRouteAdapter s request.target).mountpoint = none
  · have hhealth := plan.healthTool hoffline.1 hoffline.2
    simp [if_pos hoffline, hhealth]
  · simp [if_neg hoffline]

theorem WholePlan.tooled {size : FilesystemSizeChange} {steps : List PlanStep}
    (plan : WholePlan s capabilities request size steps) : Tooled capabilities steps := by
  have hgrow := plan.target.tool
  rw [plan.steps_eq]
  simp [tooled_cons, tooled_nil, step, stepTools, hgrow]

/-- Growing a volume from below asks for nothing. -/
theorem UnderlyingPlan.tooled_iff {route : GrowthRouteAlternative} {size : SizeChange}
    {partitionSize : Option PartitionSizeChange} {steps : List PlanStep}
    (plan : UnderlyingPlan s request route size partitionSize steps) :
    Tooled capabilities steps ↔
      ∀ tool ∈ underlyingTools s request, ToolReported capabilities tool := by
  rw [plan.steps_eq, tooled_numbered]
  unfold underlyingTools
  rw [plan.facts.found, plan.analyzed]
  cases partitionSize with
  | none =>
    obtain ⟨hzero, hnone⟩ := underlyingPartition_none plan.partition
    simp [hnone, hzero, stepTools]
  | some size' =>
    obtain ⟨table, record, label, partition, newSizeSectors, under⟩ :=
      underlyingPartition_some plan.partition
    simp [under.operations_eq, under.needed, stepTools]
    tauto

end Steps

section Plans

/-- A preview's steps are those of the strategy that the route and the capacity choose. -/
inductive Chosen (s : HostSnapshot) (capabilities : HostCapabilities) (request : ExtendRequest)
    (steps : List PlanStep) : Prop
  | partition {size : PartitionSizeChange}
      (profile : (resolveExtendRouteAdapter s request.target).profile = .directPartition)
      (plan : PartitionPlan s capabilities request size steps)
  | freeExtents {size : SizeChange}
      (profile : (resolveExtendRouteAdapter s request.target).profile = .lvm)
      (chosen : underlyingChosen s capabilities request = false)
      (plan : FreeExtentsPlan s capabilities request size steps)
  | underlying {route : GrowthRouteAlternative} {size : SizeChange}
      {partitionSize : Option PartitionSizeChange}
      (profile : (resolveExtendRouteAdapter s request.target).profile = .lvm)
      (chosen : underlyingChosen s capabilities request = true)
      (plan : UnderlyingPlan s request route size partitionSize steps)
  | whole {size : FilesystemSizeChange}
      (profile : (resolveExtendRouteAdapter s request.target).profile = .wholeBlockFilesystem)
      (plan : WholePlan s capabilities request size steps)

variable {digest : String}

theorem underlyingChosen_eq {candidate : GrowthRouteAlternative × SizeChange ×
    Option PartitionSizeChange × List PlanStep}
    (h : buildLvmUnderlyingGrowthCandidate s request = some candidate) :
    underlyingChosen s capabilities request =
      (request.growth = .maxFree || match buildCandidate s capabilities request with
        | .ok _ => false
        | .error blocker =>
          blocker.code = "insufficient-capacity" || blocker.code = "no-growth") := by
  rw [underlyingChosen, h, Option.isSome_some, Bool.true_and]

/-- What an outcome of the free extents' builder previews. -/
theorem applyLvmOutcome_chosen
    (hlargest : request.growth = .maxFree → buildLvmUnderlyingGrowthCandidate s request = none)
    (h : (applyLvmOutcome (emptyPlan request digest) s
      (buildCandidate s capabilities request)).status = .preview) :
    Chosen s capabilities request (applyLvmOutcome (emptyPlan request digest) s
      (buildCandidate s capabilities request)).steps := by
  cases hbuilt : buildCandidate s capabilities request with
  | ok result =>
    obtain ⟨plan⟩ := buildCandidate_ok hbuilt
    refine .freeExtents plan.target.profile ?_ plan
    cases hunder : buildLvmUnderlyingGrowthCandidate s request with
    | none => rw [underlyingChosen, hunder, Option.isSome_none, Bool.false_and]
    | some candidate =>
      have hgrowth : request.growth ≠ .maxFree := by
        intro hgrowth
        rw [hlargest hgrowth] at hunder
        cases hunder
      rw [underlyingChosen_eq hunder, hbuilt, decide_eq_false hgrowth, Bool.false_or]
  | error blocker =>
    rw [hbuilt] at h
    dsimp only [applyLvmOutcome] at h ⊢
    by_cases hcode : blocker.code = "insufficient-capacity" ∨ blocker.code = "no-growth"
    · simp only [if_pos hcode] at h ⊢
      cases hunder : buildLvmUnderlyingGrowthCandidate s (emptyPlan request digest).request with
      | none =>
        rw [hunder] at h
        cases h
      | some candidate =>
        obtain ⟨plan⟩ := buildLvmUnderlyingGrowthCandidate_some hunder
        refine .underlying plan.facts.facts.profile ?_ plan
        have hunder' : buildLvmUnderlyingGrowthCandidate s request = some candidate := hunder
        rw [underlyingChosen_eq hunder', hbuilt]
        simpa using .inr hcode
    · simp only [if_neg hcode] at h
      cases h

theorem applyPartitionOrLvm_chosen
    (hprofile : (resolveExtendRouteAdapter s request.target).profile ≠ .lvm)
    (h : (applyPartitionOrLvm (emptyPlan request digest) s capabilities).status = .preview) :
    Chosen s capabilities request
      (applyPartitionOrLvm (emptyPlan request digest) s capabilities).steps := by
  unfold applyPartitionOrLvm at h ⊢
  rw [show (emptyPlan request digest).request = request from rfl] at h ⊢
  have hunder : buildLvmUnderlyingGrowthCandidate s request = none := by
    by_contra hsome
    obtain ⟨candidate, hcandidate⟩ := Option.ne_none_iff_exists'.mp hsome
    obtain ⟨plan⟩ := buildLvmUnderlyingGrowthCandidate_some hcandidate
    exact hprofile plan.facts.facts.profile
  cases hbuilt : tryBuildPartitionCandidate s capabilities request with
  | ok found =>
    rw [hbuilt] at h
    cases found with
    | none => exact applyLvmOutcome_chosen (fun _ => hunder) h
    | some result =>
      obtain ⟨plan⟩ := tryBuildPartitionCandidate_ok hbuilt
      exact .partition plan.direct plan
  | error blocker =>
    rw [hbuilt] at h
    cases h

theorem applyProfile_chosen
    (h : (applyProfile (emptyPlan request digest) s capabilities).status = .preview) :
    Chosen s capabilities request
      (applyProfile (emptyPlan request digest) s capabilities).steps := by
  unfold applyProfile at h ⊢
  rw [show (emptyPlan request digest).request = request from rfl] at h ⊢
  cases hprofile : (resolveExtendRouteAdapter s request.target).profile with
  | directPartition =>
    rw [hprofile] at h
    exact applyPartitionOrLvm_chosen (by rw [hprofile]; decide) h
  | lvm =>
    rw [hprofile] at h
    dsimp only [applyLvm] at h ⊢
    rw [show (emptyPlan request digest).request = request from rfl] at h ⊢
    cases hgrowth : request.growth with
    | byBytes bytes =>
      rw [hgrowth] at h
      exact applyLvmOutcome_chosen (by rw [hgrowth]; intro hlargest; cases hlargest) h
    | maxFree =>
      rw [hgrowth] at h
      cases hunder : buildLvmUnderlyingGrowthCandidate s request with
      | none =>
        rw [hunder] at h
        exact applyLvmOutcome_chosen (fun _ => hunder) h
      | some candidate =>
        obtain ⟨plan⟩ := buildLvmUnderlyingGrowthCandidate_some hunder
        refine .underlying hprofile ?_ plan
        rw [underlyingChosen_eq hunder, decide_eq_true hgrowth, Bool.true_or]
  | wholeBlockFilesystem =>
    rw [hprofile] at h
    cases hbuilt : buildWholeFilesystemCandidate s capabilities request with
    | ok result =>
      obtain ⟨plan⟩ := buildWholeFilesystemCandidate_ok hbuilt
      exact .whole hprofile plan
    | error blocker =>
      rw [hbuilt] at h
      cases h
  | legacyFailClosed =>
    rw [hprofile] at h
    dsimp only at h ⊢
    cases hsemantic : semanticLayerBlocker s request.target with
    | none =>
      rw [hsemantic] at h
      exact applyPartitionOrLvm_chosen (by rw [hprofile]; decide) h
    | some blocker =>
      rw [hsemantic] at h
      cases h

theorem withEvidence_status (plan : PlanPreview) : (withEvidence plan s).status = plan.status := by
  unfold withEvidence
  split <;> rfl

theorem withEvidence_steps (plan : PlanPreview) : (withEvidence plan s).steps = plan.steps := by
  unfold withEvidence
  split <;> rfl

theorem planExtend_chosen [Fingerprint]
    (h : (planExtend s capabilities request).status = .preview) :
    Chosen s capabilities request (planExtend s capabilities request).steps := by
  dsimp only [planExtend] at h ⊢
  rw [withEvidence_status] at h
  rw [withEvidence_steps]
  exact applyProfile_chosen h

/-- The programs of a preview's steps are reported as available exactly when those are that
its strategy plans without asking. -/
theorem preview_tooled_iff [Fingerprint]
    (h : (planExtend s capabilities request).status = .preview) :
    Tooled capabilities (planExtend s capabilities request).steps ↔
      ∀ tool ∈ ungatedTools s capabilities request, ToolReported capabilities tool := by
  unfold ungatedTools
  cases planExtend_chosen h with
  | partition profile plan =>
    rw [profile]
    simpa using plan.tooled_iff
  | freeExtents profile chosen plan =>
    rw [profile]
    simpa [chosen] using plan.tooled
  | underlying profile chosen plan =>
    rw [profile]
    simpa [chosen] using plan.tooled_iff
  | whole profile plan =>
    rw [profile]
    simpa using plan.tooled

end Plans

section Samples

/-- A mounted ext4 on a volume that fills its group, on a partition with room behind it. -/
def volumeSnapshot : HostSnapshot where
  storage :=
    { blockDevices :=
        [{ name := "sda", kernelName := some "sda", path := some "/dev/sda", kind := .disk,
           sizeBytes := 65536 * 512, start512Sector := none, logicalSectorBytes := some 512,
           filesystem := none, mountpoints := [], parentKernelName := none, model := none,
           serial := none, uuid := none, partitionUuid := none, partitionTable := some "gpt",
           children :=
             [{ name := "sda1", kernelName := some "sda1", path := some "/dev/sda1",
                kind := .partition, sizeBytes := 20480 * 512, start512Sector := some 2048,
                logicalSectorBytes := some 512, filesystem := some ⟨"LVM2_member", none⟩,
                mountpoints := [], parentKernelName := some "sda", model := none,
                serial := none, uuid := some "pv1", partitionUuid := some "p1",
                partitionTable := none,
                children :=
                  [{ name := "vg-data", kernelName := some "dm-0",
                     path := some "/dev/mapper/vg-data", kind := .lvm, sizeBytes := 9437184,
                     start512Sector := none, logicalSectorBytes := some 512,
                     filesystem := some ⟨"ext4", none⟩, mountpoints := ["/data"],
                     parentKernelName := some "sda1", model := none, serial := none,
                     uuid := some "fs1", partitionUuid := none, partitionTable := none,
                     children := [] }] }] }] }
  partitionTables :=
    [{ device := "/dev/sda", label := some "gpt", id := some "t1", unit := some "sectors",
       firstLba := some 34, lastLba := some 65502, sectorSizeBytes := some 512,
       partitions := [⟨"/dev/sda1", 2048, 20480, some "E6D6D379-F507-44C2-A23C-238F2A3DF928",
         some "p1", none, none, none⟩] }]
  mounts := [⟨some "/dev/mapper/vg-data", "/data", some "ext4", ["rw"]⟩]
  fstab := []
  swaps := []
  collectors := lvmCollectors.map fun component => ⟨component, .complete, none⟩
  lvm := some
    { physicalVolumes := [⟨"/dev/sda1", some "pv1", some "vg", 9437184, 0, some 1048576⟩]
      volumeGroups := [⟨"vg", some "vg1", 9437184, 0, 1, 1, some 1048576, some 0, some 0,
        some "wz--n-"⟩]
      logicalVolumes := [⟨"data", some "/dev/vg/data", some "lv1", "vg", 9437184,
        some "-wi-ao----", some "linear", some "public"⟩] }

def volumeCapabilities : HostCapabilities :=
  ⟨["vgcfgbackup", "sfdisk", "partx", "pvresize", "lvextend", "resize2fs"].map (⟨·, true⟩)⟩

theorem preview_tooled_where_reported :
    Tooled volumeCapabilities
        (planExtend volumeSnapshot volumeCapabilities ⟨"/data", .maxFree⟩).steps ↔
      ∀ tool ∈ ungatedTools volumeSnapshot volumeCapabilities ⟨"/data", .maxFree⟩,
        ToolReported volumeCapabilities tool :=
  preview_tooled_iff (by decide +kernel)

/-- On a host that reports no tool at all, a preview plans to run six of them and says that
its tools are there. -/
theorem preview_not_tooled :
    (planExtend volumeSnapshot ⟨[]⟩ ⟨"/data", .maxFree⟩).status = .preview ∧
      ((planExtend volumeSnapshot ⟨[]⟩ ⟨"/data", .maxFree⟩).steps.map
        (stepTools ·.operation)).flatten =
        ["vgcfgbackup", "sfdisk", "sfdisk", "partx", "pvresize", "lvextend", "resize2fs"] ∧
      preflightCheck "tooling-available" .verified "required future operation tools are available"
        ∈ (planExtend volumeSnapshot ⟨[]⟩ ⟨"/data", .maxFree⟩).preflightChecks ∧
      ¬Tooled ⟨[]⟩ (planExtend volumeSnapshot ⟨[]⟩ ⟨"/data", .maxFree⟩).steps := by
  have htools : ((planExtend volumeSnapshot ⟨[]⟩ ⟨"/data", .maxFree⟩).steps.map
      (stepTools ·.operation)).flatten =
      ["vgcfgbackup", "sfdisk", "sfdisk", "partx", "pvresize", "lvextend", "resize2fs"] := by
    decide +kernel
  refine ⟨by decide +kernel, htools, by decide +kernel, fun h => ?_⟩
  have hmem : "pvresize" ∈ ((planExtend volumeSnapshot ⟨[]⟩ ⟨"/data", .maxFree⟩).steps.map
      (stepTools ·.operation)).flatten := by
    rw [htools]
    decide
  obtain ⟨tools, htools, htool⟩ := List.mem_flatten.mp hmem
  obtain ⟨first, hfirst, rfl⟩ := List.mem_map.mp htools
  obtain ⟨capability, hcapability, -⟩ := h first hfirst "pvresize" htool
  cases hcapability

end Samples

end StorageManager.Planner.Extend
