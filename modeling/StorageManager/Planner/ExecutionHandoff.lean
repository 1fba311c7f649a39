import StorageManager.Planner.ExecutionGuard
import StorageManager.Planner.FilesystemPolicy
import StorageManager.Planner.IdentityCapture
import StorageManager.Planner.PlanTools

/-!
# Frozen handoffs

A preview is handed over with the identity of its target, the policy's decision on its
filesystem and the guards of its execution, all taken from the snapshot it was made on.
-/

namespace StorageManager.Planner.Handoff

open Core
open Extend (ExtendRequest PlanPreview planExtend)
open Lib.Checks
open Lib.Json (toJson)

set_option autoImplicit false

section Guard

inductive GuardPlanStatus where
  | futureExecutorGatesRequired
  | blocked
  deriving DecidableEq

/-- The bindings of the guard plan, with what holds the execution back. -/
structure ExecutionGuardPlan extends ExecutionGuard.ExecutionGuardPlan where
  routeStatus : LayerRouteStatus
  status : GuardPlanStatus
  resourceKeys : List String
  blockers : List String
  deriving DecidableEq

inductive ExecutionGuardError where
  | invalidPlanId
  | missingManifestDigest
  deriving DecidableEq

/-- `sort(); dedup()`. -/
def sortedTexts (texts : List String) : List String :=
  (texts.mergeSort fun a b => decide (a ≤ b)).eraseDups

def resourceKeys (manifest : TargetIdentityManifest) : List String :=
  sortedTexts (manifest.devices.map (fun device => s!"device:{device.path}") ++
    manifest.partitions.map (fun partition => s!"partition:{partition.partition}") ++
    manifest.lvm.map (fun item => s!"lvm:{item.kind.debugText}:{item.name}") ++
    manifest.filesystem.toList.map (fun filesystem => s!"filesystem:{filesystem.device}") ++
    manifest.mounts.map (fun mount => s!"mount:{mount.target}"))

/-- The name `Debug` prints for a status. -/
def routeStatusText : LayerRouteStatus → String
  | .supportedProfile => "SupportedProfile"
  | .adapterRequired => "AdapterRequired"
  | .blocked => "Blocked"

def guardBlockers (manifest : TargetIdentityManifest) : List String :=
  if manifest.routeStatus ≠ .supportedProfile then
    [s!"semantic route status is {routeStatusText manifest.routeStatus}; a dedicated " ++
      "supported adapter is required before execution"]
  else []

variable [Fingerprint]

def buildExecutionGuardPlan (planId : String) (manifest : TargetIdentityManifest) :
    Except ExecutionGuardError ExecutionGuardPlan := do
  refuse (planId = "" ∨ planId.toList.any isControl) .invalidPlanId
  refuse (manifest.manifestDigest = "") .missingManifestDigest
  let resourceKeys := resourceKeys manifest
  let blockers := guardBlockers manifest
  pure
    { guardId := fingerprint (.arr [toJson (1 : Nat), toJson planId, toJson manifest.target,
        toJson manifest.manifestDigest, toJson resourceKeys])
      planId
      target := manifest.target
      baselineManifestDigest := manifest.manifestDigest
      routeStatus := manifest.routeStatus
      status := if blockers = [] then .futureExecutorGatesRequired else .blocked
      resourceKeys
      blockers }

end Guard

section Handoff

inductive ExecutionHandoffStatus where
  | futureExecutorGatesRequired
  | blocked
  deriving DecidableEq

structure FrozenExecutionHandoff where
  schemaVersion : Nat
  handoffId : String
  mutationEnabled : Bool
  ownerAcceptanceRequired : Bool
  status : ExecutionHandoffStatus
  plan : PlanPreview
  planBasisDigest : String
  capabilitiesDigest : String
  targetIdentity : TargetIdentityManifest
  filesystemDecision : FilesystemGrowthDecision
  guard : ExecutionGuardPlan
  blockers : List String
  deriving DecidableEq

inductive ExecutionHandoffError where
  | planNotPreview
  | stalePlan
  | identity (source : IdentityGuardError)
  | guard (source : ExecutionGuardError)
  deriving DecidableEq

/-- Why the filesystem's decision keeps a plan from execution. -/
def filesystemBlockers (decision : FilesystemGrowthDecision) : List String :=
  if decision.state = .blocked ∨ decision.state = .adapterRequired then
    decision.reasons.map (fun reason => s!"filesystem preflight: {reason}") ++
      if decision.reasons = [] then ["filesystem preflight is not executor-ready"] else []
  else []

def handoffStatus (guard : ExecutionGuardPlan) (blockers : List String) :
    ExecutionHandoffStatus :=
  if guard.status = .blocked ∨ blockers ≠ [] then .blocked else .futureExecutorGatesRequired

instance : Lib.Json.ToJson ExecutionHandoffStatus where
  toJson
    | .futureExecutorGatesRequired => .str "future_executor_gates_required"
    | .blocked => .str "blocked"

variable [Fingerprint]

def matchesBasis (plan : PlanPreview) (s : HostSnapshot) (capabilities : HostCapabilities) :
    Bool :=
  plan.status == .preview &&
    plan.snapshotDigest == fingerprint (.arr [toJson s, toJson capabilities])

def sealHandoff (handoff : FrozenExecutionHandoff) : FrozenExecutionHandoff :=
  { handoff with handoffId := fingerprint (.arr [toJson handoff.schemaVersion,
      toJson handoff.plan.planId, toJson handoff.planBasisDigest,
      toJson handoff.capabilitiesDigest, toJson handoff.targetIdentity.manifestDigest,
      toJson handoff.filesystemDecision, toJson handoff.guard.guardId, toJson handoff.status,
      toJson handoff.mutationEnabled, toJson handoff.ownerAcceptanceRequired]) }

def buildFrozenExecutionHandoff (s : HostSnapshot) (capabilities : HostCapabilities)
    (plan : PlanPreview) : Except ExecutionHandoffError FrozenExecutionHandoff := do
  refuse (plan.status ≠ .preview) .planNotPreview
  refuse (¬matchesBasis plan s capabilities) .stalePlan
  let targetIdentity ← (captureTargetIdentity s plan.request.target).mapError .identity
  let filesystemDecision := decideFilesystemGrowth s capabilities plan.request.target
  let guard ← (buildExecutionGuardPlan plan.planId targetIdentity).mapError .guard
  let blockers := sortedTexts (guard.blockers ++ filesystemBlockers filesystemDecision)
  pure (sealHandoff
    { schemaVersion := 1
      handoffId := ""
      mutationEnabled := false
      ownerAcceptanceRequired := true
      status := handoffStatus guard blockers
      plan
      planBasisDigest := plan.snapshotDigest
      capabilitiesDigest := fingerprint (toJson capabilities)
      targetIdentity
      filesystemDecision
      guard
      blockers })

end Handoff

section Basis

variable {s : HostSnapshot} {capabilities : HostCapabilities} {request : ExtendRequest}

/-- Two plans for one request, on one basis. -/
def SameBasis (plan start : PlanPreview) : Prop :=
  plan.request = start.request ∧ plan.snapshotDigest = start.snapshotDigest

open Extend

theorem applyLvmOutcome_basis {plan : PlanPreview}
    {outcome : Except Blocker (SizeChange × List PlanStep)} :
    SameBasis (applyLvmOutcome plan s outcome) plan := by
  cases outcome with
  | ok result => exact ⟨rfl, rfl⟩
  | error blocker =>
    dsimp only [applyLvmOutcome]
    split
    · split
      · exact ⟨rfl, rfl⟩
      · exact ⟨rfl, rfl⟩
    · exact ⟨rfl, rfl⟩

theorem applyPartitionOrLvm_basis {plan : PlanPreview} :
    SameBasis (applyPartitionOrLvm plan s capabilities) plan := by
  unfold applyPartitionOrLvm
  cases tryBuildPartitionCandidate s capabilities plan.request with
  | ok found =>
    cases found with
    | none => exact applyLvmOutcome_basis
    | some result => exact ⟨rfl, rfl⟩
  | error blocker => exact ⟨rfl, rfl⟩

theorem applyLvm_basis {plan : PlanPreview} :
    SameBasis (applyLvm plan s capabilities) plan := by
  unfold applyLvm
  cases plan.request.growth with
  | byBytes bytes => exact applyLvmOutcome_basis
  | maxFree =>
    cases buildLvmUnderlyingGrowthCandidate s plan.request with
    | none => exact applyLvmOutcome_basis
    | some candidate => exact ⟨rfl, rfl⟩

theorem applyProfile_basis {plan : PlanPreview} :
    SameBasis (applyProfile plan s capabilities) plan := by
  unfold applyProfile
  cases (resolveExtendRouteAdapter s plan.request.target).profile with
  | directPartition => exact applyPartitionOrLvm_basis
  | lvm => exact applyLvm_basis
  | wholeBlockFilesystem =>
    cases buildWholeFilesystemCandidate s capabilities plan.request with
    | ok result => exact ⟨rfl, rfl⟩
    | error blocker => exact ⟨rfl, rfl⟩
  | legacyFailClosed =>
    cases semanticLayerBlocker s plan.request.target with
    | none => exact applyPartitionOrLvm_basis
    | some blocker => exact ⟨rfl, rfl⟩

theorem withEvidence_basis {plan : PlanPreview} : SameBasis (withEvidence plan s) plan := by
  unfold withEvidence
  split
  · exact ⟨rfl, rfl⟩
  · exact ⟨rfl, rfl⟩

variable [Fingerprint]

theorem planExtend_request : (planExtend s capabilities request).request = request :=
  (withEvidence_basis.1.trans applyProfile_basis.1 :)

theorem planExtend_snapshotDigest : (planExtend s capabilities request).snapshotDigest =
    fingerprint (.arr [toJson s, toJson capabilities]) :=
  (withEvidence_basis.2.trans applyProfile_basis.2 :)

end Basis

section Frozen

theorem digest_ne_empty {value : String} (h : isSha256Hex value = true) : value ≠ "" := by
  rintro rfl
  simp [isSha256Hex] at h

theorem digest_no_control {value : String} (h : isSha256Hex value = true) :
    ¬value.toList.any isControl = true := by
  intro hcontrol
  obtain ⟨c, hc, hcontrol⟩ := List.any_eq_true.mp hcontrol
  have hdigit := List.all_eq_true.mp (Bool.and_eq_true_iff.mp h).2 c hc
  have hrange : (48 ≤ c.toNat ∧ c.toNat ≤ 57) ∨ (97 ≤ c.toNat ∧ c.toNat ≤ 102) := by
    simp only [Lib.Sha256.isLowerHexDigit, Char.isDigit, Bool.or_eq_true, Bool.and_eq_true,
      decide_eq_true_eq] at hdigit
    exact hdigit
  simp only [isControl, Bool.or_eq_true, Bool.and_eq_true, decide_eq_true_eq] at hcontrol
  omega

theorem sortedTexts_eq_nil_iff {texts : List String} : sortedTexts texts = [] ↔ texts = [] := by
  unfold sortedTexts
  constructor
  · intro h
    by_contra hne
    obtain ⟨text, htext⟩ := List.exists_mem_of_ne_nil texts hne
    have hmem : text ∈ (texts.mergeSort fun a b => decide (a ≤ b)).eraseDups :=
      List.mem_eraseDups.mpr (List.mem_mergeSort.mpr htext)
    rw [h] at hmem
    cases hmem
  · intro h
    rw [h, List.mergeSort_nil, List.eraseDups_nil]

variable [Fingerprint] {s : HostSnapshot} {capabilities : HostCapabilities}
  {request : ExtendRequest}

/-- A preview is current on the snapshot it was made on. -/
theorem matchesBasis_planExtend (h : (planExtend s capabilities request).status = .preview) :
    matchesBasis (planExtend s capabilities request) s capabilities = true := by
  rw [matchesBasis, h, planExtend_snapshotDigest]
  simp

/-- What a handoff holds, when it is made for a preview on its own snapshot. -/
structure Frozen (s : HostSnapshot) (capabilities : HostCapabilities) (request : ExtendRequest)
    (handoff : FrozenExecutionHandoff) : Prop where
  preview : (planExtend s capabilities request).status = .preview
  plan : handoff.plan = planExtend s capabilities request
  captured : captureTargetIdentity s request.target = .ok handoff.targetIdentity
  decided : handoff.filesystemDecision = decideFilesystemGrowth s capabilities request.target
  guarded : buildExecutionGuardPlan handoff.plan.planId handoff.targetIdentity =
    .ok handoff.guard
  blockers : handoff.blockers =
    sortedTexts (handoff.guard.blockers ++ filesystemBlockers handoff.filesystemDecision)
  status : handoff.status = handoffStatus handoff.guard handoff.blockers
  closed : handoff.mutationEnabled = false ∧ handoff.ownerAcceptanceRequired = true
  identified : isSha256Hex handoff.handoffId = true

theorem buildFrozenExecutionHandoff_ok {handoff : FrozenExecutionHandoff}
    (h : buildFrozenExecutionHandoff s capabilities (planExtend s capabilities request) =
      .ok handoff) : Frozen s capabilities request handoff := by
  -- the plan is kept shut: its request and its status are all that is read of it
  have hrequest : (planExtend s capabilities request).request = request := planExtend_request
  obtain ⟨plan, hplan⟩ : ∃ plan, plan = planExtend s capabilities request := ⟨_, rfl⟩
  rw [← hplan] at h hrequest
  unfold buildFrozenExecutionHandoff at h
  simp only [bind_eq_ok_iff, exists_check_iff, mapError_eq_ok_iff, refuse_eq_ok_iff, not_not,
    hrequest] at h
  obtain ⟨hpreview, -, identity, hcaptured, guard, hguarded, hresult⟩ := h
  cases hresult
  exact ⟨hplan ▸ hpreview, hplan, hcaptured, rfl, hguarded, rfl, rfl, ⟨rfl, rfl⟩,
    Fingerprint.isSha256Hex_fingerprint _⟩

/-- Digests pass the guard's tests. -/
theorem buildExecutionGuardPlan_digest {v : Lib.Json.Value} {manifest : TargetIdentityManifest}
    (h : isSha256Hex manifest.manifestDigest = true) :
    ∃ guard, buildExecutionGuardPlan (fingerprint v) manifest = .ok guard := by
  unfold buildExecutionGuardPlan
  simp only [exists_bind_ok_iff, exists_check_iff, refuse_eq_ok_iff]
  refine ⟨?_, ?_, _, rfl⟩
  · rintro (hempty | hcontrol)
    · exact digest_ne_empty (Fingerprint.isSha256Hex_fingerprint v) hempty
    · exact digest_no_control (Fingerprint.isSha256Hex_fingerprint v) hcontrol
  · exact digest_ne_empty h

theorem captureTargetIdentity_exists {target : String}
    (h : ((analyzeLayerRoute s target).resolvedDevice.bind (pathTo s)).isSome) :
    ∃ identity, captureTargetIdentity s target = .ok identity := by
  obtain ⟨⟨node, path⟩, hpath⟩ := Option.isSome_iff_exists.mp h
  obtain ⟨resolvedDevice, hresolved, hpath⟩ := Option.bind_eq_some_iff.mp hpath
  unfold captureTargetIdentity
  simp only [exists_bind_ok_iff, okOr_eq_ok_iff]
  exact ⟨resolvedDevice, hresolved, (node, path), hpath, _, rfl⟩

theorem captureTargetIdentity_routeStatus {target : String} {manifest : TargetIdentityManifest}
    (h : captureTargetIdentity s target = .ok manifest) :
    manifest.routeStatus = (analyzeLayerRoute s target).status := by
  unfold captureTargetIdentity at h
  simp only [bind_eq_ok_iff, okOr_eq_ok_iff] at h
  obtain ⟨_, -, _, -, hresult⟩ := h
  cases hresult
  rfl

theorem captureTargetIdentity_digest {target : String} {manifest : TargetIdentityManifest}
    (h : captureTargetIdentity s target = .ok manifest) :
    isSha256Hex manifest.manifestDigest = true := by
  unfold captureTargetIdentity at h
  simp only [bind_eq_ok_iff, okOr_eq_ok_iff] at h
  obtain ⟨_, -, _, -, hresult⟩ := h
  cases hresult
  exact Fingerprint.isSha256Hex_fingerprint _

/-- A preview can be handed over as soon as its target has an identity. -/
theorem buildFrozenExecutionHandoff_planExtend {identity : TargetIdentityManifest}
    (hpreview : (planExtend s capabilities request).status = .preview)
    (hcaptured : captureTargetIdentity s request.target = .ok identity) :
    ∃ handoff, buildFrozenExecutionHandoff s capabilities (planExtend s capabilities request) =
      .ok handoff := by
  obtain ⟨guard, hguard⟩ : ∃ guard, buildExecutionGuardPlan
      (planExtend s capabilities request).planId identity = .ok guard :=
    buildExecutionGuardPlan_digest (captureTargetIdentity_digest hcaptured)
  have hcaptured' : captureTargetIdentity s
      (planExtend s capabilities request).request.target = .ok identity := by
    rw [planExtend_request]
    exact hcaptured
  unfold buildFrozenExecutionHandoff
  simp only [exists_bind_ok_iff, exists_check_iff, mapError_eq_ok_iff, refuse_eq_ok_iff, not_not]
  exact ⟨hpreview, matchesBasis_planExtend hpreview, identity, hcaptured', guard, hguard, _, rfl⟩

theorem buildExecutionGuardPlan_ok {planId : String} {manifest : TargetIdentityManifest}
    {guard : ExecutionGuardPlan} (h : buildExecutionGuardPlan planId manifest = .ok guard) :
    guard.blockers = guardBlockers manifest ∧
      (guard.status = .blocked ↔ guard.blockers ≠ []) := by
  unfold buildExecutionGuardPlan at h
  simp only [bind_eq_ok_iff, exists_check_iff] at h
  obtain ⟨-, -, hresult⟩ := h
  cases hresult
  refine ⟨rfl, ?_⟩
  dsimp only
  split
  · simp_all
  · simp_all

/-- A handoff is ready exactly when the route is a supported profile and the filesystem's
decision blocks nothing. -/
theorem Frozen.ready_iff {handoff : FrozenExecutionHandoff}
    (frozen : Frozen s capabilities request handoff) :
    handoff.status ≠ .blocked ↔
      (analyzeLayerRoute s request.target).status = .supportedProfile ∧
        filesystemBlockers (decideFilesystemGrowth s capabilities request.target) = [] := by
  obtain ⟨hblockers, hstatus⟩ := buildExecutionGuardPlan_ok frozen.guarded
  have hroute := captureTargetIdentity_routeStatus frozen.captured
  have hclear : guardBlockers handoff.targetIdentity = [] ↔
      (analyzeLayerRoute s request.target).status = .supportedProfile := by
    rw [guardBlockers, hroute]
    split <;> simp_all
  have hblocked : handoff.status = .blocked ↔
      handoff.guard.status = .blocked ∨ handoff.blockers ≠ [] := by
    rw [frozen.status, handoffStatus]
    split <;> simp_all
  rw [ne_eq, hblocked, hstatus, frozen.blockers, ne_eq, ne_eq, sortedTexts_eq_nil_iff,
    List.append_eq_nil_iff, hblockers, frozen.decided, ← hclear]
  constructor
  · intro h
    obtain ⟨hguard, hall⟩ := not_or.mp h
    exact ⟨not_not.mp hguard, (not_not.mp hall).2⟩
  · rintro ⟨hguard, hdecision⟩ (hblocked | hblocked)
    · exact hblocked hguard
    · exact hblocked ⟨hguard, hdecision⟩

end Frozen

end StorageManager.Planner.Handoff
