import Mathlib.Tactic.MkIffOfInductiveProp
import StorageManager.Executor.PrivilegedProtocol
import StorageManager.Executor.SwapAuthorization
import StorageManager.Planner.SwapIntent

/-!
# Sealing a swap replacement

The activation takes over a ready intent of one exact profile. Everything behind it works on
what is sealed here: the partition, its fstab entry and the path of the swapfile.
-/

namespace StorageManager.Executor.Swap

open Lib.Checks
open Planner.SwapMigration

set_option autoImplicit false

inductive ProductionSwapReplacementActivationError where
  | featureDisabled
  | intentNotReady
  | intentIntegrityMismatch
  | unsupportedProfile
  deriving DecidableEq

def expectedSwapfilePath (mountpoint : String) : Option String :=
  if safeAbsolutePath mountpoint then some (swapfilePathForMount mountpoint) else none

def noControls (value : String) : Bool := value ≠ "" && !value.toList.any isControl

/-- What an intent leaves open and the profile asks for. -/
structure ProfileValues where
  disk : String
  retiringSwapDevice : String
  retiringSwapBytes : Nat
  retiringSwapUsedBytes : Nat
  retiringSwapPriority : Int
  persistentSwapSource : String
  persistentSwapTarget : String
  persistentSwapDump : Nat
  persistentSwapPass : Nat
  destinationFilesystem : String
  expectedSwapfile : String

def profileValues (i : SwapReplacementIntent) : Option ProfileValues := do
  let disk ← i.disk
  let retiringSwapDevice ← i.retiringSwapDevice
  let retiringSwapBytes ← i.retiringSwapBytes
  let retiringSwapUsedBytes ← i.retiringSwapUsedBytes
  let retiringSwapPriority ← i.retiringSwapPriority
  let persistentSwapSource ← i.persistentSwapSource
  let persistentSwapTarget ← i.persistentSwapTarget
  let persistentSwapDump ← i.persistentSwapDump
  let persistentSwapPass ← i.persistentSwapPass
  let destinationFilesystem ← i.destinationFilesystem
  let expectedSwapfile ← expectedSwapfilePath i.destinationMount
  pure
    { disk, retiringSwapDevice, retiringSwapBytes, retiringSwapUsedBytes, retiringSwapPriority,
      persistentSwapSource, persistentSwapTarget, persistentSwapDump, persistentSwapPass,
      destinationFilesystem, expectedSwapfile }

/-- The comparisons of the profile. -/
@[mk_iff]
structure ProfileHolds (i : SwapReplacementIntent) (v : ProfileValues) : Prop where
  schema : i.schemaVersion = 1
  status : i.status = .preview
  idle : i.executable = false
  unblocked : i.blockers = []
  target : safeAbsolutePath i.target = true
  disk : safeDevicePath v.disk = true
  device : safeDevicePath v.retiringSwapDevice = true
  apart : v.disk ≠ v.retiringSwapDevice
  bytes : 0 < v.retiringSwapBytes
  used : v.retiringSwapUsedBytes ≤ v.retiringSwapBytes
  source : noControls v.persistentSwapSource = true
  entryTarget : noControls v.persistentSwapTarget = true
  options : i.persistentSwapOptions ≠ []
  option : i.persistentSwapOptions.all noControls = true
  dump : v.persistentSwapDump ≤ 1
  pass : v.persistentSwapPass ≤ 2
  filesystem : v.destinationFilesystem = "ext4"
  capacity : v.retiringSwapBytes ≤ i.destinationAvailableBytes
  mode : i.swapfileMode = 0o600
  path : i.swapfilePath = v.expectedSwapfile
  steps : i.orderedSteps ≠ []

instance (i : SwapReplacementIntent) (v : ProfileValues) : Decidable (ProfileHolds i v) :=
  decidable_of_iff' _ (profileHolds_iff i v)

/-- The values of an intent of the profile. -/
def profileOf (i : SwapReplacementIntent) : Option ProfileValues :=
  (profileValues i).filter fun v => ProfileHolds i v

theorem profileOf_eq_some {i : SwapReplacementIntent} {v : ProfileValues}
    (h : profileOf i = some v) :
    profileValues i = some v ∧ ProfileHolds i v := by
  obtain ⟨hvalues, hholds⟩ := Option.filter_eq_some_iff.mp h
  exact ⟨hvalues, of_decide_eq_true hholds⟩

def exactProfile (i : SwapReplacementIntent) : Bool := (profileOf i).isSome

structure ProductionSwapReplacementActivationReadiness where
  schemaVersion : Nat
  profile : ProductionSwapReplacementProfile
  compileFeatureEnabled : Bool
  intentReady : Bool
  intentIntegrityVerified : Bool
  exactProfile : Bool
  blockers : List String

def ProductionSwapReplacementActivationReadiness.ready
    (r : ProductionSwapReplacementActivationReadiness) : Bool :=
  r.compileFeatureEnabled && r.intentReady && r.intentIntegrityVerified && r.exactProfile &&
    r.blockers.isEmpty

section Seal

variable [Fingerprint]

def inspectProductionSwapReplacementActivationReadiness (compiled : Bool)
    (i : SwapReplacementIntent) : ProductionSwapReplacementActivationReadiness where
  schemaVersion := 1
  profile := .tailSwapPartitionToExt4Swapfile
  compileFeatureEnabled := compiled
  intentReady := i.ready
  intentIntegrityVerified := i.integrityMatches
  exactProfile := exactProfile i
  blockers :=
    (if i.ready then [] else ["swap-replacement-intent-not-ready"]) ++
      (if i.integrityMatches then [] else ["swap-replacement-intent-integrity-mismatch"]) ++
      (if exactProfile i then [] else ["unsupported-swap-replacement-profile"]) ++
      if compiled then [] else ["production-swap-activation-feature-disabled"]

def sealProductionSwapReplacementActivationIntent (compiled : Bool) (i : SwapReplacementIntent) :
    Except ProductionSwapReplacementActivationError ProductionSwapReplacementActivationIntent := do
  refuse (compiled = false) .featureDisabled
  refuse (i.ready = false) .intentNotReady
  refuse (i.integrityMatches = false) .intentIntegrityMismatch
  let v ← okOr (profileOf i) .unsupportedProfile
  let activation : ProductionSwapReplacementActivationIntent :=
    { schemaVersion := 1
      activationId := ""
      profile := .tailSwapPartitionToExt4Swapfile
      swapReplacementIntentId := i.intentId
      target := i.target
      disk := v.disk
      retiringSwapDevice := v.retiringSwapDevice
      retiringSwapBytes := v.retiringSwapBytes
      retiringSwapPriority := v.retiringSwapPriority
      persistentSwapSource := v.persistentSwapSource
      persistentSwapTarget := v.persistentSwapTarget
      persistentSwapOptions := i.persistentSwapOptions
      persistentSwapDump := v.persistentSwapDump
      persistentSwapPass := v.persistentSwapPass
      destinationMount := i.destinationMount
      swapfilePath := i.swapfilePath
      destinationFilesystem := v.destinationFilesystem
      destinationAvailableBytes := i.destinationAvailableBytes
      swapfileMode := i.swapfileMode
      compileFeatureEnabled := true
      executionEnabled := false }
  pure { activation with activationId := activation.expectedActivationId }

variable {compiled : Bool} {i : SwapReplacementIntent}
  {a : ProductionSwapReplacementActivationIntent}

/-- What a sealed activation says of its intent. -/
structure Sealed (i : SwapReplacementIntent) (a : ProductionSwapReplacementActivationIntent) :
    Prop where
  ready : i.ready = true
  intentId : a.swapReplacementIntentId = i.intentId
  device : i.retiringSwapDevice = some a.retiringSwapDevice
  bytes : i.retiringSwapBytes = some a.retiringSwapBytes
  priority : i.retiringSwapPriority = some a.retiringSwapPriority
  source : i.persistentSwapSource = some a.persistentSwapSource
  options : a.persistentSwapOptions ≠ []
  mount : a.destinationMount = i.destinationMount
  path : a.swapfilePath = i.swapfilePath
  intact : a.integrityMatches = true
  idle : a.executionEnabled = false

theorem sealed_of_ok
    (h : sealProductionSwapReplacementActivationIntent compiled i = .ok a) : Sealed i a := by
  simp only [sealProductionSwapReplacementActivationIntent, bind_eq_ok_iff, exists_check_iff,
    refuse_eq_ok_iff, okOr_eq_ok_iff, Bool.not_eq_false, pure, Except.pure, Except.ok.injEq] at h
  obtain ⟨-, hready, -, v, hprofile, rfl⟩ := h
  obtain ⟨hvalues, hholds⟩ := profileOf_eq_some hprofile
  simp only [profileValues, Option.bind_eq_bind, Option.bind_eq_some_iff, Option.pure_def,
    Option.some.injEq] at hvalues
  obtain ⟨disk, -, device, hdevice, bytes, hbytes, used, -, priority, hpriority, source, hsource,
    entryTarget, -, dump, -, pass, -, filesystem, -, swapfile, -, rfl⟩ := hvalues
  exact
    { ready := hready
      intentId := rfl
      device := hdevice
      bytes := hbytes
      priority := hpriority
      source := hsource
      options := hholds.options
      mount := rfl
      path := rfl
      intact := beq_self_eq_true _
      idle := rfl }

/-- The readiness that is reported is the success of the seal. -/
theorem inspect_ready_iff :
    (inspectProductionSwapReplacementActivationReadiness compiled i).ready = true ↔
      ∃ a, sealProductionSwapReplacementActivationIntent compiled i = .ok a := by
  simp only [sealProductionSwapReplacementActivationIntent, bind_eq_ok_iff, exists_check_iff,
    refuse_eq_ok_iff, okOr_eq_ok_iff, Bool.not_eq_false, pure, Except.pure, Except.ok.injEq]
  unfold ProductionSwapReplacementActivationReadiness.ready
    inspectProductionSwapReplacementActivationReadiness
  simp only [Bool.and_eq_true]
  constructor
  · intro h
    obtain ⟨⟨⟨⟨hcompiled, hready⟩, hintact⟩, hprofile⟩, -⟩ := h
    obtain ⟨v, hv⟩ := Option.isSome_iff_exists.mp hprofile
    exact ⟨_, hcompiled, hready, hintact, v, hv, rfl⟩
  · intro h
    obtain ⟨_, hcompiled, hready, hintact, v, hv, -⟩ := h
    have hprofile : exactProfile i = true := Option.isSome_iff_exists.mpr ⟨v, hv⟩
    refine ⟨⟨⟨⟨hcompiled, hready⟩, hintact⟩, hprofile⟩, ?_⟩
    rw [hready, hintact, hprofile, hcompiled]
    rfl

/-- What is sealed from a plan is the swap partition that the plan proved. -/
theorem sealed_of_plan {s : Core.HostSnapshot} {resume : Core.HibernationResumeEvidence}
    {target destinationMount : String} {capabilities : Core.HostCapabilities}
    {space : Core.FilesystemSpaceEvidence} {pathState : Core.PathOccupancyEvidence}
    (h : sealProductionSwapReplacementActivationIntent compiled
      (plannedIntent s resume target capabilities space destinationMount pathState) = .ok a) :
    ∃ n swap entry mount,
      Retiring s a.retiringSwapDevice a.retiringSwapBytes n swap ∧
      a.retiringSwapPriority = swap.priority ∧
      s.fstab.filter (fun e => e.fsType = "swap" && e.source = a.persistentSwapSource) = [entry] ∧
      DestinationReady s a.retiringSwapDevice a.retiringSwapBytes space a.destinationMount mount ∧
      InsideMount a.destinationMount a.swapfilePath := by
  have hsealed := sealed_of_ok h
  obtain ⟨device, n, swap, entry, mount, hproven⟩ := proven_of_ready hsealed.ready
  have hdevice := Option.some.inj (hproven.named.symm.trans hsealed.device)
  have hbytes := Option.some.inj (hproven.bytes.symm.trans hsealed.bytes)
  have hpriority := Option.some.inj (hproven.priority.symm.trans hsealed.priority)
  have hsource := Option.some.inj (hproven.source.symm.trans hsealed.source)
  have hretiring := hproven.retiring
  have hsourced := hproven.sourced
  have hready := hproven.ready
  rw [hdevice, hbytes] at hretiring hready
  rw [hsource] at hsourced
  rw [← hsealed.mount] at hready
  refine ⟨n, swap, entry, mount, hretiring, hpriority.symm, hsourced, hready, ?_⟩
  rw [hsealed.mount, hsealed.path, hproven.inside]
  exact swapfilePathForMount_inside _

end Seal

end StorageManager.Executor.Swap
