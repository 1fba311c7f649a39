import StorageManager.Executor.DisposableArgv
import StorageManager.Executor.PrivilegedFrame
import StorageManager.Lib.Word64

/-!
# The boundary of the rehearsal

Between two mutations the rehearsal on loop devices looks at the storage once more, and so does
the production executor. Which post-states pass the second look and fail the first.
-/

namespace StorageManager.Executor

open Lib.Checks
open Lib.Word64 (checkedMul)
open Planner
open Planner.ExecutionGuard

set_option autoImplicit false

section Boundary

inductive DisposableBoundaryVerificationError where
  | executionBindingInvalid
  | manifestBindingMismatch
  | completedStepNotAuthorized
  | noNextMutationStep
  | unsupportedCompletedMutation
  | partitionIdentityNotUnique
  | partitionGeometryMismatch
  | partitionDeviceSizeMismatch
  | physicalVolumeIdentityNotUnique
  | physicalVolumeSizeMismatch
  | unsupportedFreshRoute
  | logicalVolumeIdentityNotUnique
  | logicalVolumeSizeMismatch
  | filesystemBackingSizeMismatch
  deriving DecidableEq

namespace Disposable

def verifyPartitionBoundary (partition : String) (startSector oldSizeSectors newSizeSectors : Nat)
    (sectorSizeBytes : Nat) (baseline fresh : TargetIdentityManifest) :
    Except DisposableBoundaryVerificationError Unit := do
  let old ← unique (·.partition == partition) baseline.partitions .partitionIdentityNotUnique
  let new ← unique (·.partition == partition) fresh.partitions .partitionIdentityNotUnique
  refuse (old.startSector ≠ some startSector ∨ old.sizeSectors ≠ some oldSizeSectors ∨
    old.sectorSizeBytes ≠ some sectorSizeBytes ∨ new.startSector ≠ some startSector ∨
    new.sizeSectors ≠ some newSizeSectors ∨ new.sectorSizeBytes ≠ some sectorSizeBytes ∨
    old.disk ≠ new.disk ∨ old.tableLabel ≠ new.tableLabel ∨ old.tableId ≠ new.tableId ∨
    old.recordUuid ≠ new.recordUuid) .partitionGeometryMismatch
  let expectedBytes ← okOr (checkedMul newSizeSectors sectorSizeBytes) .partitionDeviceSizeMismatch
  let device ← unique (·.path == partition) fresh.devices .partitionDeviceSizeMismatch
  refuse (device.sizeBytes ≠ expectedBytes) .partitionDeviceSizeMismatch

def verifyPhysicalVolumeBoundary (pvUuid : String) (expectedPvSizeBytes : Nat)
    (fresh : TargetIdentityManifest) : Except DisposableBoundaryVerificationError Unit := do
  let pv ← unique (isLvmRecord .physicalVolume pvUuid) fresh.lvm .physicalVolumeIdentityNotUnique
  refuse (pv.sizeBytes ≠ expectedPvSizeBytes) .physicalVolumeSizeMismatch

/-- A later step grows an ext4 filesystem that is not mounted. -/
def offlineExt4 (steps : List NativeCompiledStep) : Bool :=
  steps.any fun step => match step.operation with
    | .growFilesystem fsType none => fsType == "ext4"
    | _ => false

def verifyLogicalVolumeBoundary (steps : List NativeCompiledStep) (lvUuid : String)
    (expectedLvSizeBytes : Nat) (fresh : TargetIdentityManifest) :
    Except DisposableBoundaryVerificationError Unit := do
  let lv ← unique (isLvmRecord .logicalVolume lvUuid) fresh.lvm .logicalVolumeIdentityNotUnique
  refuse (lv.sizeBytes ≠ expectedLvSizeBytes) .logicalVolumeSizeMismatch
  let filesystem ← okOr fresh.filesystem .filesystemBackingSizeMismatch
  refuse (filesystem.backingDeviceSizeBytes ≠ expectedLvSizeBytes) .filesystemBackingSizeMismatch
  refuse (offlineExt4 steps ∧ fresh.mounts ≠ []) .filesystemBackingSizeMismatch

/-- The match on the completed operation in `verify_boundary_state`. -/
def verifyCompleted (steps : List NativeCompiledStep) (operation : NativeOperationSpec)
    (baseline fresh : TargetIdentityManifest) : Except DisposableBoundaryVerificationError Unit :=
  match operation with
  | .extendPartition partition startSector oldSizeSectors newSizeSectors sectorSizeBytes =>
    verifyPartitionBoundary partition startSector oldSizeSectors newSizeSectors sectorSizeBytes
      baseline fresh
  | .resizePhysicalVolume pvUuid expectedPvSizeBytes =>
    verifyPhysicalVolumeBoundary pvUuid expectedPvSizeBytes fresh
  | .extendLogicalVolume lvUuid _ expectedLvSizeBytes =>
    verifyLogicalVolumeBoundary steps lvUuid expectedLvSizeBytes fresh
  | _ => .error .unsupportedCompletedMutation

/-- The next step, and the digest of the identity it starts from. -/
def verifyBoundaryState [Fingerprint] (execution : ExecutionStartBinding)
    (validated : ValidatedNativeManifest) (baselineIdentity freshIdentity : TargetIdentityManifest)
    (completedStepId : Nat) : Except DisposableBoundaryVerificationError (Nat × String) := do
  refuse (execution.schemaVersion ≠ 1 ∨ ¬execution.integrityMatches) .executionBindingInvalid
  refuse (execution.sourceManifestId ≠ validated.manifest.sourceManifestId ∨
    execution.nativeManifestDigest ≠ validated.digest) .manifestBindingMismatch
  let position ← okOr (execution.mutationStepIds.findIdx? (· == completedStepId))
    .completedStepNotAuthorized
  let nextStepId ← okOr execution.mutationStepIds[position + 1]? .noNextMutationStep
  let step ← okOr (validated.manifest.steps.find? (·.planStepId == completedStepId))
    .completedStepNotAuthorized
  refuse (freshIdentity.routeStatus ≠ .supportedProfile) .unsupportedFreshRoute
  verifyCompleted validated.manifest.steps step.operation baselineIdentity freshIdentity
  pure (nextStepId, freshIdentity.manifestDigest)

end Disposable

end Boundary

section Strictness

variable {steps : List NativeCompiledStep} {operation : NativeOperationSpec}
  {before fresh : TargetIdentityManifest}

/-- What only the rehearsal looks at: the route of the fresh target, the size that the kernel
reports of the partition, and the filesystem on the grown volume. -/
def Rehearsed (steps : List NativeCompiledStep) (operation : NativeOperationSpec)
    (before fresh : TargetIdentityManifest) : Prop :=
  fresh.routeStatus = .supportedProfile ∧
  match operation with
  | .extendPartition partition _ oldSizeSectors newSizeSectors sectorSizeBytes =>
    (∀ record ∈ before.partitions, record.partition = partition →
      record.sizeSectors = some oldSizeSectors ∧ record.sectorSizeBytes = some sectorSizeBytes) ∧
    newSizeSectors * sectorSizeBytes < Lib.Word64.limit ∧
    ∃ device, fresh.devices.filter (·.path == partition) = [device] ∧
      device.sizeBytes = newSizeSectors * sectorSizeBytes
  | .extendLogicalVolume _ _ expectedLvSizeBytes =>
    (∃ filesystem, fresh.filesystem = some filesystem ∧
      filesystem.backingDeviceSizeBytes = expectedLvSizeBytes) ∧
    (Disposable.offlineExt4 steps = true → fresh.mounts = [])
  | _ => True

namespace Disposable

theorem verifyPartitionBoundary_iff {partition : String}
    {startSector oldSizeSectors newSizeSectors sectorSizeBytes : Nat}
    {old : PartitionGeometryIdentity}
    (hold : before.partitions.filter (·.partition == partition) = [old])
    (hstart : old.startSector = some startSector)
    (hfresh : fresh.partitions.filter (·.partition == partition) =
      [{ old with sizeSectors := some newSizeSectors }]) :
    verifyPartitionBoundary partition startSector oldSizeSectors newSizeSectors sectorSizeBytes
        before fresh = .ok () ↔
      (old.sizeSectors = some oldSizeSectors ∧ old.sectorSizeBytes = some sectorSizeBytes) ∧
      newSizeSectors * sectorSizeBytes < Lib.Word64.limit ∧
      ∃ device, fresh.devices.filter (·.path == partition) = [device] ∧
        device.sizeBytes = newSizeSectors * sectorSizeBytes := by
  simp only [verifyPartitionBoundary, bind_eq_ok_iff, exists_check_iff, unique_eq_ok_iff,
    refuse_eq_ok_iff, okOr_eq_ok_iff, Lib.Word64.checkedMul_eq_some_iff, hold, hfresh,
    List.cons.injEq, and_true, not_or, not_not, ne_eq]
  constructor
  · intro h
    obtain ⟨_, rfl, _, rfl, ⟨-, hsize, hsector, -⟩, _, ⟨hlimit, rfl⟩, device, hdevice, hbytes⟩ := h
    exact ⟨⟨hsize, hsector⟩, hlimit, device, hdevice, hbytes⟩
  · intro h
    obtain ⟨⟨hsize, hsector⟩, hlimit, device, hdevice, hbytes⟩ := h
    exact ⟨_, rfl, _, rfl, ⟨hstart, hsize, hsector, hstart, rfl, hsector, rfl, rfl, rfl, rfl⟩, _,
      ⟨hlimit, rfl⟩, device, hdevice, hbytes⟩

/-- Where production has seen the object grown, the rehearsal asks for the rest. -/
theorem verifyCompleted_iff (hgrown : ObjectGrown operation before fresh)
    (hkind : ∀ fsType mountpoint, operation ≠ .growFilesystem fsType mountpoint)
    (hroute : fresh.routeStatus = .supportedProfile) :
    verifyCompleted steps operation before fresh = .ok () ↔
      Rehearsed steps operation before fresh := by
  cases operation with
  | extendPartition partition startSector oldSizeSectors newSizeSectors sectorSizeBytes =>
    obtain ⟨old, oldSize, hold, hstart, hsize, hless, hfresh⟩ := hgrown
    have hrecords : (∀ record ∈ before.partitions, record.partition = partition →
        record.sizeSectors = some oldSizeSectors ∧
          record.sectorSizeBytes = some sectorSizeBytes) ↔
        old.sizeSectors = some oldSizeSectors ∧ old.sectorSizeBytes = some sectorSizeBytes := by
      constructor
      · intro h
        obtain ⟨hmem, hpath⟩ := mem_of_filter_eq_singleton hold
        exact h old hmem (beq_iff_eq.mp hpath)
      · intro h record hmem hpath
        have hrecord : record = old := eq_of_filter_eq_singleton hold hmem (beq_iff_eq.mpr hpath)
        rw [hrecord]
        exact h
    rw [verifyCompleted, verifyPartitionBoundary_iff hold hstart hfresh, Rehearsed, hrecords]
    exact (and_iff_right hroute).symm
  | resizePhysicalVolume pvUuid expectedPvSizeBytes =>
    obtain ⟨old, new, hold, hfresh, hname, hless, hsize⟩ := hgrown
    simp [verifyCompleted, verifyPhysicalVolumeBoundary, Rehearsed, bind_eq_ok_iff,
      unique_eq_ok_iff, hfresh, hsize, hroute]
  | extendLogicalVolume lvUuid additionalExtents expectedLvSizeBytes =>
    obtain ⟨old, new, hold, hfresh, hname, hless, hsize⟩ := hgrown
    simp only [verifyCompleted, verifyLogicalVolumeBoundary, Rehearsed, bind_eq_ok_iff,
      exists_check_iff, unique_eq_ok_iff, refuse_eq_ok_iff, okOr_eq_ok_iff, hfresh, hroute,
      List.cons.injEq, and_true, not_not, ne_eq, not_and, true_and]
    constructor
    · intro h
      obtain ⟨_, rfl, -, filesystem, hfilesystem, hbacking, hmounts⟩ := h
      exact ⟨⟨filesystem, hfilesystem, hbacking⟩, hmounts⟩
    · intro h
      obtain ⟨⟨filesystem, hfilesystem, hbacking⟩, hmounts⟩ := h
      exact ⟨new, rfl, hsize, filesystem, hfilesystem, hbacking, hmounts⟩
  | growFilesystem fsType mountpoint => exact absurd rfl (hkind fsType mountpoint)
  | _ => exact absurd hgrown id

end Disposable

/-- A number that is listed and is not the last one has a successor. -/
theorem exists_next {ids : List Nat} {id : Nat} (hmem : id ∈ ids) (hlast : ids.getLast? ≠ some id) :
    ∃ position next, ids.findIdx? (· == id) = some position ∧ ids[position + 1]? = some next := by
  induction ids with
  | nil => cases hmem
  | cons first rest ih =>
    have hrest : rest ≠ [] := by
      intro hnil
      rw [hnil] at hmem hlast
      exact hlast (congrArg some (List.mem_singleton.mp hmem).symm)
    by_cases hfirst : first = id
    · obtain ⟨next, tail, rfl⟩ := List.exists_cons_of_ne_nil hrest
      refine ⟨0, next, ?_, rfl⟩
      rw [List.findIdx?_cons, if_pos (beq_iff_eq.mpr hfirst)]
    · have hmem' : id ∈ rest := (List.mem_cons.mp hmem).resolve_left (Ne.symm hfirst)
      rw [List.getLast?_cons_of_ne_nil hrest] at hlast
      obtain ⟨position, next, hposition, hnext⟩ := ih hmem' hlast
      refine ⟨position + 1, next, ?_, hnext⟩
      rw [List.findIdx?_cons, if_neg (fun h => hfirst (beq_iff_eq.mp h)), hposition]
      rfl

variable [Fingerprint] {execution : ExecutionStartBinding} {validated : ValidatedNativeManifest}
  {request : PrivilegedHelperRequest} {step : NativeCompiledStep}
  {process : PrivilegedProcessReceipt} {receipt : PrivilegedLayerVerificationReceipt}

/-- The request asks for this step of the manifest that the execution is bound to. -/
structure StepRequest (validated : ValidatedNativeManifest) (execution : ExecutionStartBinding)
    (step : NativeCompiledStep) (request : PrivilegedHelperRequest) : Prop where
  schemaVersion : execution.schemaVersion = 1
  integrity : execution.integrityMatches = true
  sourceManifest : execution.sourceManifestId = validated.manifest.sourceManifestId
  nativeManifest : execution.nativeManifestDigest = validated.digest
  listed : step ∈ validated.manifest.steps
  authorized : step.planStepId ∈ execution.mutationStepIds
  planStepId : request.planStepId = step.planStepId
  operation : request.operation = step.operation

omit [Fingerprint] in
theorem find_step (hstep : step ∈ validated.manifest.steps) :
    validated.manifest.steps.find? (·.planStepId == step.planStepId) = some step := by
  cases hfind : validated.manifest.steps.find? (·.planStepId == step.planStepId) with
  | none => exact absurd (beq_self_eq_true _) (List.find?_eq_none.mp hfind step hstep)
  | some found =>
    have hid : found.planStepId = step.planStepId := by simpa using List.find?_some hfind
    rw [List.inj_on_of_nodup_map validated.ids.2 (List.mem_of_find?_eq_some hfind) hstep hid]

theorem StepRequest.verifyBoundaryState_iff (h : StepRequest validated execution step request)
    (hnext : execution.mutationStepIds.getLast? ≠ some step.planStepId) :
    (∃ next, Disposable.verifyBoundaryState execution validated before fresh step.planStepId =
        .ok next) ↔
      fresh.routeStatus = .supportedProfile ∧
        Disposable.verifyCompleted validated.manifest.steps step.operation before fresh = .ok () := by
  obtain ⟨position, next, hposition, hsucc⟩ := exists_next h.authorized hnext
  simp only [Disposable.verifyBoundaryState, exists_bind_ok_iff, exists_check_iff,
    refuse_eq_ok_iff, okOr_eq_ok_iff, find_step h.listed, not_or, not_not, ne_eq]
  constructor
  · intro hok
    obtain ⟨-, -, _, -, _, -, _, hfound, hroute, hcompleted, -⟩ := hok
    rw [Option.some.inj hfound]
    exact ⟨hroute, hcompleted⟩
  · intro hok
    exact ⟨⟨h.schemaVersion, h.integrity⟩, ⟨h.sourceManifest, h.nativeManifest⟩, position,
      hposition, next, hsucc, step, rfl, hok.1, hok.2, _, rfl⟩

/-- The request for the first step. -/
theorem stepRequest_of_built {planStepId : Nat}
    (h : buildPrivilegedHelperRequest validated execution before planStepId = .ok request) :
    ∃ step, step.planStepId = planStepId ∧ StepRequest validated execution step request := by
  obtain ⟨hintegrity, hbound, -, hlisted, step, hstep, rfl⟩ :=
    buildPrivilegedHelperRequest_eq_ok_iff.mp h
  obtain ⟨hmem, rfl, -⟩ := authorizedStep_eq_ok hstep
  obtain ⟨hmanifest, -⟩ := boundTo_iff.mp hbound
  exact ⟨step, rfl, hintegrity.1, hintegrity.2, hmanifest.1, hmanifest.2, hmem, hlisted, rfl, rfl⟩

/-- The request for any step, as the journal has it. -/
theorem stepRequest_of_durable {journal : OperationJournal} {planStepId : Nat}
    (h : buildPrivilegedHelperRequestForDurableStep validated journal before planStepId =
      .ok request) :
    ∃ execution step, journal.execution = some execution ∧ step.planStepId = planStepId ∧
      StepRequest validated execution step request := by
  unfold buildPrivilegedHelperRequestForDurableStep at h
  split at h
  case isTrue => cases h
  split at h
  case h_1 => cases h
  case h_2 execution hexecution =>
    simp only [bind_eq_ok_iff, exists_check_iff, refuse_eq_ok_iff, not_or, not_not, ne_eq] at h
    obtain ⟨hintegrity, ⟨-, -, hbound⟩, hlisted, _, -, -, step, hstep, -, h⟩ := h
    obtain ⟨hmem, hid, -⟩ := authorizedStep_eq_ok hstep
    obtain ⟨hmanifest, -⟩ := boundTo_iff.mp hbound
    rw [← hid] at hlisted
    rw [← Except.ok.inj h]
    exact ⟨execution, step, hexecution, hid, hintegrity.1, hintegrity.2, hmanifest.1, hmanifest.2, hmem,
      hlisted, rfl, rfl⟩

/-- A state that production has verified passes the boundary of the rehearsal exactly when it
shows what only the rehearsal looks at. -/
theorem post_state_rehearsed_iff (h : StepRequest validated execution step request)
    (hnext : execution.mutationStepIds.getLast? ≠ some step.planStepId)
    (hkind : ∀ fsType mountpoint, step.operation ≠ .growFilesystem fsType mountpoint)
    (haccepted : verifyPrivilegedLayerPostState request process before fresh = .ok receipt) :
    (∃ next, Disposable.verifyBoundaryState execution validated before fresh step.planStepId =
        .ok next) ↔
      Rehearsed validated.manifest.steps step.operation before fresh := by
  have hgrown := (layer_verified_of_accepted haccepted).object
  rw [h.operation] at hgrown
  rw [h.verifyBoundaryState_iff hnext]
  constructor
  · intro hok
    exact (Disposable.verifyCompleted_iff hgrown hkind hok.1).mp hok.2
  · intro hrehearsed
    exact ⟨hrehearsed.1, (Disposable.verifyCompleted_iff hgrown hkind hrehearsed.1).mpr hrehearsed⟩

end Strictness

section Samples

/-- The partition grows to 8192 sectors, and the physical volume on it after that. -/
def twoLayerManifest : ValidatedNativeManifest where
  manifest :=
    { sourceManifestId := fingerprint (.str "source manifest")
      steps := [⟨1, [], .irreversible, .mutationCandidate,
          .extendPartition "/dev/sda2" 512 4096 8192 512⟩,
        ⟨2, [1], .irreversible, .mutationCandidate, .resizePhysicalVolume "pv-1" 4194304⟩]
      verificationBarriers := [⟨1, true, true, true, true, true⟩, ⟨2, true, true, true, true, true⟩] }
  valid := rfl

def grownRecord (sectors : Nat) : PartitionGeometryIdentity :=
  ⟨"/dev/sda2", some "/dev/sda", some "gpt", none, some 512, some 512, some sectors, none⟩

def grownDevice (sizeBytes : Nat) : DeviceIdentity :=
  ⟨.partition, "/dev/sda2", some "sda2", some "sda", sizeBytes, some 512, some 512, none, none, none,
    none, none⟩

/-- What the table has for the partition, and what the kernel has. -/
def twoLayerIdentity (recordSectors kernelBytes : Nat) : TargetIdentityManifest :=
  { resizeIdentity with
    manifestDigest := fingerprint (.arr [.num recordSectors, .num kernelBytes])
    devices := [grownDevice kernelBytes]
    partitions := [grownRecord recordSectors] }

theorem twoLayer_records (recordSectors kernelBytes : Nat) :
    (twoLayerIdentity recordSectors kernelBytes).partitions.filter (·.partition == "/dev/sda2") =
      [grownRecord recordSectors] := by
  simp [twoLayerIdentity, grownRecord]

theorem twoLayer_devices (recordSectors kernelBytes : Nat) :
    (twoLayerIdentity recordSectors kernelBytes).devices.filter (·.path == "/dev/sda2") =
      [grownDevice kernelBytes] := by
  simp [twoLayerIdentity, grownDevice]

def twoLayerExecution : ExecutionStartBinding :=
  let binding : ExecutionStartBinding :=
    { resizeExecution "pv-1" with
      nativeManifestDigest := twoLayerManifest.digest
      freshIdentityDigest := (twoLayerIdentity 4096 2097152).manifestDigest
      mutationStepIds := [1, 2] }
  { binding with executionId := binding.expectedExecutionId }

def twoLayerStep : NativeCompiledStep :=
  ⟨1, [], .irreversible, .mutationCandidate, .extendPartition "/dev/sda2" 512 4096 8192 512⟩

def twoLayerRequest : PrivilegedHelperRequest :=
  requestFor twoLayerExecution (twoLayerIdentity 4096 2097152) twoLayerStep

def twoLayerProcess : PrivilegedProcessReceipt :=
  let receipt := { growthProcess twoLayerStep.operation with
    executionId := twoLayerExecution.executionId }
  { receipt with receiptId := receipt.expectedReceiptId }

theorem twoLayerRequest_built :
    buildPrivilegedHelperRequest twoLayerManifest twoLayerExecution
      (twoLayerIdentity 4096 2097152) 1 = .ok twoLayerRequest := by
  have hbound : boundTo twoLayerManifest twoLayerExecution = true :=
    boundTo_iff.mpr ⟨⟨rfl, rfl⟩, Fingerprint.isSha256Hex_fingerprint _,
      Fingerprint.isSha256Hex_fingerprint _, Fingerprint.isSha256Hex_fingerprint _⟩
  have husable : identityUsable (twoLayerIdentity 4096 2097152)
      twoLayerExecution.freshIdentityDigest = true :=
    identityUsable_iff.mpr ⟨rfl, by decide, by decide, by decide⟩
  have hstep : authorizedStep twoLayerManifest.manifest.steps 1 = .ok twoLayerStep :=
    authorizedStep_eq_ok_iff.mpr ⟨rfl, rfl, by decide⟩
  exact buildPrivilegedHelperRequest_eq_ok_iff.mpr ⟨⟨rfl, integrityMatches_named _⟩, hbound,
    husable, List.mem_cons_self, twoLayerStep, hstep, rfl⟩

theorem twoLayer_stepRequest :
    StepRequest twoLayerManifest twoLayerExecution twoLayerStep twoLayerRequest where
  schemaVersion := rfl
  integrity := integrityMatches_named _
  sourceManifest := rfl
  nativeManifest := rfl
  listed := List.mem_cons_self
  authorized := List.mem_cons_self
  planStepId := rfl
  operation := rfl

/-- Production accepts every fresh identity in which the record has grown. -/
theorem twoLayer_accepted (kernelBytes : Nat) :
    ∃ receipt, verifyPrivilegedLayerPostState twoLayerRequest twoLayerProcess
      (twoLayerIdentity 4096 2097152) (twoLayerIdentity 8192 kernelBytes) = .ok receipt := by
  have hformed : twoLayerRequest.WellFormed := built_wellFormed twoLayerRequest_built
  have hprocess : ProcessSucceeded twoLayerRequest twoLayerProcess :=
    ⟨receipt_named _, rfl, rfl, rfl⟩
  have hgrown : ObjectGrown twoLayerRequest.operation (twoLayerIdentity 4096 2097152)
      (twoLayerIdentity 8192 kernelBytes) := by
    rw [twoLayer_stepRequest.operation]
    exact ⟨grownRecord 4096, 4096, twoLayer_records 4096 2097152, rfl, rfl, by decide,
      twoLayer_records 8192 kernelBytes⟩
  refine ⟨_, verifyPrivilegedLayerPostState_eq_ok_iff.mpr ⟨hformed, hprocess, ?_, rfl⟩⟩
  exact ⟨rfl, ⟨rfl, rfl⟩, ⟨rfl, rfl⟩, hgrown, rfl, rfl⟩

theorem twoLayer_next : twoLayerExecution.mutationStepIds.getLast? ≠ some twoLayerStep.planStepId :=
  (by decide : [1, 2].getLast? ≠ some 1)

theorem post_state_rehearsed_sample :
    (∃ next, Disposable.verifyBoundaryState twoLayerExecution twoLayerManifest
        (twoLayerIdentity 4096 2097152) (twoLayerIdentity 8192 4194304)
        twoLayerStep.planStepId = .ok next) ↔
      Rehearsed twoLayerManifest.manifest.steps twoLayerStep.operation
        (twoLayerIdentity 4096 2097152) (twoLayerIdentity 8192 4194304) := by
  obtain ⟨receipt, haccepted⟩ := twoLayer_accepted 4194304
  exact post_state_rehearsed_iff twoLayer_stepRequest twoLayer_next nofun haccepted

/-- The table has the new size and the kernel still has the old one: production goes on, the
rehearsal does not. -/
theorem half_applied_accepted_sample :
    (∃ receipt, verifyPrivilegedLayerPostState twoLayerRequest twoLayerProcess
      (twoLayerIdentity 4096 2097152) (twoLayerIdentity 8192 2097152) = .ok receipt) ∧
    ¬∃ next, Disposable.verifyBoundaryState twoLayerExecution twoLayerManifest
      (twoLayerIdentity 4096 2097152) (twoLayerIdentity 8192 2097152)
      twoLayerStep.planStepId = .ok next := by
  refine ⟨twoLayer_accepted 2097152, fun hok => ?_⟩
  have hcompleted := ((twoLayer_stepRequest.verifyBoundaryState_iff twoLayer_next).mp hok).2
  obtain ⟨-, -, device, hdevice, hsize⟩ := (Disposable.verifyPartitionBoundary_iff
    (twoLayer_records 4096 2097152) rfl (twoLayer_records 8192 2097152)).mp hcompleted
  rw [twoLayer_devices] at hdevice
  rw [← (List.cons.inj hdevice).1] at hsize
  exact absurd hsize (by decide)

end Samples

end StorageManager.Executor
