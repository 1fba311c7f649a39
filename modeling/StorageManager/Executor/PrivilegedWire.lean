import StorageManager.Executor.PrivilegedProtocol

/-!
# Requests on the wire

What the builder sends is what the decoder returns, as long as the text fits the wire; and
what the decoder returns is what the text says, under the digest of all its other fields.
-/

namespace StorageManager.Executor

open Lib.Checks
open Lib.Json
open Planner
open Planner.ExecutionGuard

set_option autoImplicit false

section Reading

instance : FromDocument NativeOperationSpec where
  fromDocument v := do
    let tag : String ← readField v "operation"
    if tag = "revalidate_snapshot" then some .revalidateSnapshot
    else if tag = "backup_lvm_metadata" then
      return .backupLvmMetadata (← readField v "vg_uuid")
    else if tag = "backup_partition_table_metadata" then
      return .backupPartitionTableMetadata (← readField v "disk") (← readField v "table_label")
        (← readField v "table_id")
    else if tag = "extend_partition" then
      return .extendPartition (← readField v "partition") (← readField v "start_sector")
        (← readField v "old_size_sectors") (← readField v "new_size_sectors")
        (← readField v "sector_size_bytes")
    else if tag = "resize_physical_volume" then
      return .resizePhysicalVolume (← readField v "pv_uuid") (← readField v "expected_pv_size_bytes")
    else if tag = "extend_logical_volume" then
      return .extendLogicalVolume (← readField v "lv_uuid") (← readField v "additional_extents")
        (← readField v "expected_lv_size_bytes")
    else if tag = "grow_filesystem" then
      return .growFilesystem (← readField v "fs_type") (← readField v "mountpoint")
    else if tag = "rediscover_and_verify" then some .rediscoverAndVerify
    else none
  fromDocument_document operation := by
    have htag : ∀ tag : String, fromDocument (document (.str tag)) = some tag := fun _ => rfl
    cases operation <;> unfold instToJsonNativeOperationSpec <;>
      simp [readField_document, List.lookup_cons, htag]

instance : FromDocument PrivilegedHelperRequest where
  fromDocument v := return {
    schemaVersion := ← readField v "schema_version"
    requestId := ← readField v "request_id"
    executionId := ← readField v "execution_id"
    sourceManifestId := ← readField v "source_manifest_id"
    nativeManifestDigest := ← readField v "native_manifest_digest"
    freshIdentityDigest := ← readField v "fresh_identity_digest"
    target := ← readField v "target"
    resolvedDevice := ← readField v "resolved_device"
    planStepId := ← readField v "plan_step_id"
    operation := ← readField v "operation" }
  fromDocument_document request := by
    unfold instToJsonPrivilegedHelperRequest
    simp [readField_document, List.lookup_cons]

/-- What is assumed of serde_json: it reads back what it wrote. -/
structure RequestReader.Faithful (reader : RequestReader) : Prop where
  fromSlice_toBytes : ∀ request : PrivilegedHelperRequest,
    reader.fromSlice (toBytes (toJson request)) = .ok (document (toJson request))
  fromValue_document : ∀ request : PrivilegedHelperRequest,
    reader.fromValue (document (toJson request)) = .ok request

/-- The reader of every text and every document. -/
noncomputable def documentReader : RequestReader where
  fromSlice := parse
  fromValue v := (fromDocument v).elim (.error "missing field") .ok

theorem documentReader_faithful : documentReader.Faithful where
  fromSlice_toBytes request := parse_toBytes (toJson request)
  fromValue_document request := by
    unfold documentReader
    simp only [FromDocument.fromDocument_document, Option.elim_some]

end Reading

section Builder

/-- The step is the only one of its id, and one that may be asked for. -/
theorem authorizedStep_eq_ok_iff {steps : List NativeCompiledStep} {planStepId : Nat}
    {step : NativeCompiledStep} : authorizedStep steps planStepId = .ok step ↔
      steps.filter (·.planStepId == planStepId) = [step] ∧ step.role = .mutationCandidate ∧
        operationIsSafe step.operation = true := by
  unfold authorizedStep
  split
  case h_1 found hone =>
    simp only [check_eq_ok_iff, refuse_eq_ok_iff, not_not, ne_eq, pure, Except.pure,
      Except.ok.injEq, hone, List.cons.injEq, and_true]
    constructor
    · intro h
      obtain ⟨hrole, hsafe, rfl⟩ := h
      exact ⟨rfl, hrole, hsafe⟩
    · intro h
      obtain ⟨rfl, hrole, hsafe⟩ := h
      exact ⟨hrole, hsafe, rfl⟩
  case h_2 hmany =>
    apply iff_of_false
    · intro h
      cases h
    · intro h
      exact hmany step h.1

theorem authorizedStep_eq_ok {steps : List NativeCompiledStep} {planStepId : Nat}
    {step : NativeCompiledStep} (h : authorizedStep steps planStepId = .ok step) :
    step ∈ steps ∧ step.planStepId = planStepId ∧ operationIsSafe step.operation = true := by
  obtain ⟨hone, -, hsafe⟩ := authorizedStep_eq_ok_iff.mp h
  obtain ⟨hmem, hid⟩ := mem_of_filter_eq_singleton hone
  exact ⟨hmem, beq_iff_eq.mp hid, hsafe⟩

theorem identityUsable_iff {identity : TargetIdentityManifest} {expected : String} :
    identityUsable identity expected = true ↔ identity.manifestDigest = expected ∧
      identity.target ≠ "" ∧ safeAbsolutePath identity.target = true ∧
      safeDevicePath identity.resolvedDevice = true := by
  simp only [identityUsable, Bool.and_eq_true, beq_iff_eq, bne_iff_ne, and_assoc]

variable [Fingerprint] {validated : ValidatedNativeManifest} {execution : ExecutionStartBinding}

theorem boundTo_iff : boundTo validated execution = true ↔
    (execution.sourceManifestId = validated.manifest.sourceManifestId ∧
      execution.nativeManifestDigest = validated.digest) ∧
    isSha256Hex execution.sourceManifestId = true ∧
      isSha256Hex execution.nativeManifestDigest = true ∧
      isSha256Hex execution.freshIdentityDigest = true := by
  simp only [boundTo, Bool.and_eq_true, beq_iff_eq, and_assoc]

/-- All that the builder checks. -/
theorem buildPrivilegedHelperRequest_eq_ok_iff {identity : TargetIdentityManifest}
    {planStepId : Nat} {r : PrivilegedHelperRequest} :
    buildPrivilegedHelperRequest validated execution identity planStepId = .ok r ↔
      (execution.schemaVersion = 1 ∧ execution.integrityMatches = true) ∧
        boundTo validated execution = true ∧
        identityUsable identity execution.freshIdentityDigest = true ∧
        planStepId ∈ execution.mutationStepIds ∧
        ∃ step, authorizedStep validated.manifest.steps planStepId = .ok step ∧
          requestFor execution identity step = r := by
  simp only [buildPrivilegedHelperRequest, bind_eq_ok_iff, exists_check_iff, refuse_eq_ok_iff,
    not_or, not_not, ne_eq, pure, Except.pure, Except.ok.injEq]

end Builder

section RoundTrip

variable [Fingerprint]

/-- What the validator asks of a request. -/
structure PrivilegedHelperRequest.WellFormed (r : PrivilegedHelperRequest) : Prop where
  schemaVersion : r.schemaVersion = privilegedHelperProtocolVersion
  executionId : isSha256Hex r.executionId = true
  sourceManifestId : isSha256Hex r.sourceManifestId = true
  nativeManifestDigest : isSha256Hex r.nativeManifestDigest = true
  freshIdentityDigest : isSha256Hex r.freshIdentityDigest = true
  target : safeAbsolutePath r.target = true
  resolvedDevice : safeDevicePath r.resolvedDevice = true
  planStepId : r.planStepId ≠ 0
  operation : operationIsSafe r.operation = true
  requestId : r.requestId = r.expectedRequestId

theorem validate_eq_ok_iff {r : PrivilegedHelperRequest} :
    validatePrivilegedHelperRequest r = .ok () ↔ r.WellFormed := by
  unfold validatePrivilegedHelperRequest
  rw [check_eq_ok_iff, check_eq_ok_iff, refuse_eq_ok_iff, refuse_eq_ok_iff, refuse_eq_ok_iff]
  simp only [not_or, not_not]
  constructor
  · rintro ⟨hversion, ⟨h1, h2, h3, h4, h5, h6, h7, h8⟩, hid⟩
    exact ⟨hversion, h1, h2, h3, h4, h5, h6, h7, h8, hid⟩
  · rintro ⟨hversion, h1, h2, h3, h4, h5, h6, h7, h8, hid⟩
    exact ⟨hversion, ⟨h1, h2, h3, h4, h5, h6, h7, h8⟩, hid⟩

theorem requestId_sealed (r : PrivilegedHelperRequest) :
    r.sealed.requestId = r.sealed.expectedRequestId := rfl

/-- A binding that is what its id says has a digest for its id. -/
theorem isSha256Hex_executionId {execution : ExecutionStartBinding}
    (h : execution.integrityMatches = true) : isSha256Hex execution.executionId = true := by
  rw [beq_iff_eq.mp h]
  exact Fingerprint.isSha256Hex_fingerprint _

/-- What the builder has checked is what the validator asks. -/
theorem built_wellFormed {validated : ValidatedNativeManifest} {execution : ExecutionStartBinding}
    {freshIdentity : TargetIdentityManifest} {planStepId : Nat} {r : PrivilegedHelperRequest}
    (h : buildPrivilegedHelperRequest validated execution freshIdentity planStepId = .ok r) :
    r.WellFormed := by
  obtain ⟨⟨-, hmatches⟩, hbound, hidentity, -, step, hstep, rfl⟩ :=
    buildPrivilegedHelperRequest_eq_ok_iff.mp h
  obtain ⟨hmem, -, hsafe⟩ := authorizedStep_eq_ok hstep
  have hnonzero := validated.ids.1 step hmem
  obtain ⟨-, hsource, hnative, hfresh⟩ := boundTo_iff.mp hbound
  obtain ⟨hdigest, -, htarget, hdevice⟩ := identityUsable_iff.mp hidentity
  rw [← hdigest] at hfresh
  exact {
    schemaVersion := rfl
    executionId := isSha256Hex_executionId hmatches
    sourceManifestId := hsource
    nativeManifestDigest := hnative
    freshIdentityDigest := hfresh
    target := htarget
    resolvedDevice := hdevice
    planStepId := hnonzero
    operation := hsafe
    requestId := requestId_sealed _ }

/-- What a request takes on the wire. The rest of it is short. -/
theorem PrivilegedHelperRequest.WellFormed.length_eq {r : PrivilegedHelperRequest}
    (h : r.WellFormed) : (toBytes (toJson r)).length =
      String.utf8Len (renderString r.target) + String.utf8Len (renderString r.resolvedDevice) +
        String.utf8Len (render (toJson r.planStepId)) + (toBytes (toJson r.operation)).length +
        511 := by
  have hfields : toJson r = .obj [("schema_version", toJson r.schemaVersion),
      ("request_id", .str r.requestId), ("execution_id", .str r.executionId),
      ("source_manifest_id", .str r.sourceManifestId),
      ("native_manifest_digest", .str r.nativeManifestDigest),
      ("fresh_identity_digest", .str r.freshIdentityDigest), ("target", .str r.target),
      ("resolved_device", .str r.resolvedDevice), ("plan_step_id", toJson r.planStepId),
      ("operation", toJson r.operation)] := rfl
  have hid : isSha256Hex r.requestId = true := by
    rw [h.requestId]
    exact Fingerprint.isSha256Hex_fingerprint _
  have hversion : String.utf8Len (render (toJson privilegedHelperProtocolVersion)) = 1 := by decide
  have hnames : (["schema_version", "request_id", "execution_id", "source_manifest_id",
      "native_manifest_digest", "fresh_identity_digest", "target", "resolved_device",
      "plan_step_id", "operation"].map fun name => String.utf8Len (renderString name)) =
        [16, 12, 14, 20, 24, 23, 8, 17, 14, 11] := by decide
  simp only [List.map_cons, List.map_nil, List.cons.injEq, and_true] at hnames
  obtain ⟨h1, h2, h3, h4, h5, h6, h7, h8, h9, h10⟩ := hnames
  rw [hfields, toBytes_obj_length (List.cons_ne_nil _ _), toBytes_length, h.schemaVersion]
  simp only [List.map_cons, List.map_nil, List.sum_cons, List.sum_nil, render]
  rw [h1, h2, h3, h4, h5, h6, h7, h8, h9, h10, hversion, isSha256Hex_rendered hid, isSha256Hex_rendered h.executionId,
    isSha256Hex_rendered h.sourceManifestId, isSha256Hex_rendered h.nativeManifestDigest,
    isSha256Hex_rendered h.freshIdentityDigest]
  clear h1 h2 h3 h4 h5 h6 h7 h8 h9 h10
  omega

theorem decode_eq_ok_iff {reader : RequestReader} {input : List UInt8}
    {r : PrivilegedHelperRequest} :
    decodePrivilegedHelperRequest reader input = .ok r ↔
      input.length ≤ maxPrivilegedHelperRequestBytes ∧
        reader.fromSlice input = .ok (document (toJson r)) ∧
        reader.fromValue (document (toJson r)) = .ok r ∧ r.WellFormed := by
  unfold decodePrivilegedHelperRequest
  rw [check_eq_ok_iff, refuse_eq_ok_iff, Nat.not_lt]
  constructor
  · rintro ⟨hlength, h⟩
    obtain ⟨raw, hraw, h⟩ := bind_eq_ok_iff.mp h
    obtain ⟨request, hrequest, h⟩ := bind_eq_ok_iff.mp h
    obtain ⟨hcanonical, h⟩ := check_eq_ok_iff.mp h
    obtain ⟨hvalid, h⟩ := check_eq_ok_iff.mp h
    have hsame : request = r := Except.ok.inj h
    have hcanonical := not_not.mp (refuse_eq_ok_iff.mp hcanonical)
    rw [hcanonical] at hraw hrequest
    rw [← hsame]
    exact ⟨hlength, mapError_eq_ok_iff.mp hraw, mapError_eq_ok_iff.mp hrequest,
      validate_eq_ok_iff.mp hvalid⟩
  · rintro ⟨hlength, hraw, hrequest, hvalid⟩
    refine ⟨hlength, bind_eq_ok_iff.mpr ⟨_, mapError_eq_ok_iff.mpr hraw, ?_⟩⟩
    refine bind_eq_ok_iff.mpr ⟨r, mapError_eq_ok_iff.mpr hrequest, ?_⟩
    refine check_eq_ok_iff.mpr ⟨refuse_eq_ok_iff.mpr fun hne => hne rfl, ?_⟩
    exact check_eq_ok_iff.mpr ⟨validate_eq_ok_iff.mpr hvalid, rfl⟩

/-- The fields the id is the digest of. -/
def PrivilegedHelperRequest.digestPayload (r : PrivilegedHelperRequest) : Value :=
  .obj [("schema_version", toJson r.schemaVersion), ("execution_id", toJson r.executionId),
    ("source_manifest_id", toJson r.sourceManifestId),
    ("native_manifest_digest", toJson r.nativeManifestDigest),
    ("fresh_identity_digest", toJson r.freshIdentityDigest), ("target", toJson r.target),
    ("resolved_device", toJson r.resolvedDevice), ("plan_step_id", toJson r.planStepId),
    ("operation", toJson r.operation)]

omit [Fingerprint] in
theorem eq_of_digestPayload {r s : PrivilegedHelperRequest} (hid : r.requestId = s.requestId)
    (h : r.digestPayload = s.digestPayload) : r = s := by
  have hfields := Value.obj.inj h
  simp only [List.cons.injEq, Prod.mk.injEq, and_true, true_and] at hfields
  obtain ⟨hschema, hexecution, hsource, hnative, hfresh, htarget, hdevice, hstep, hoperation⟩ :=
    hfields
  cases r
  cases s
  congr 1
  all_goals first
    | exact hid
    | apply FromDocument.toJson_inj
      assumption

/-- The builder's requests are decoded as they are, exactly when they fit the wire. What is
decoded is the document of the request, under the digest of its other fields: a decoded
request of a built one's id is this one, unless the digest collides. -/
theorem wire_roundTrip {reader : RequestReader} (hreader : reader.Faithful) :
    (∀ validated execution freshIdentity planStepId r,
      buildPrivilegedHelperRequest validated execution freshIdentity planStepId = .ok r →
      (decodePrivilegedHelperRequest reader (toBytes (toJson r)) = .ok r ↔
        (toBytes (toJson r)).length ≤ maxPrivilegedHelperRequestBytes)) ∧
    (∀ input r, decodePrivilegedHelperRequest reader input = .ok r →
      reader.fromSlice input = .ok (document (toJson r)) ∧
      r.requestId = fingerprint r.digestPayload ∧
      ∀ validated execution freshIdentity planStepId authorized,
        buildPrivilegedHelperRequest validated execution freshIdentity planStepId =
          .ok authorized →
        r.requestId = authorized.requestId →
        r = authorized ∨ Collision r.digestPayload authorized.digestPayload) := by
  constructor
  · intro validated execution freshIdentity planStepId r hbuilt
    rw [decode_eq_ok_iff]
    constructor
    · exact fun h => h.1
    · exact fun hlength => ⟨hlength, hreader.fromSlice_toBytes r, hreader.fromValue_document r,
        built_wellFormed hbuilt⟩
  · intro input r hdecoded
    obtain ⟨-, hraw, -, hformed⟩ := decode_eq_ok_iff.mp hdecoded
    refine ⟨hraw, hformed.requestId, fun validated execution freshIdentity planStepId authorized
      hbuilt hid => ?_⟩
    have hauthorized := (built_wellFormed hbuilt).requestId
    by_cases hsame : r.digestPayload = authorized.digestPayload
    · exact .inl (eq_of_digestPayload hid hsame)
    · rw [hformed.requestId, hauthorized] at hid
      exact .inr ⟨hsame, hid⟩

end RoundTrip

section Samples

/-- One step that resizes the physical volume of this UUID, and its barrier. -/
def resizeManifest (pvUuid : String) : ValidatedNativeManifest where
  manifest :=
    { sourceManifestId := fingerprint (.str "source manifest")
      steps := [⟨1, [], .irreversible, .mutationCandidate, .resizePhysicalVolume pvUuid 4096⟩]
      verificationBarriers := [⟨1, true, true, true, true, true⟩] }
  valid := rfl

def resizeIdentity : TargetIdentityManifest where
  schemaVersion := 1
  target := "/mnt/data"
  manifestDigest := fingerprint (.str "fresh identity")
  resolvedDevice := "/dev/mapper/vg-data"
  routeStatus := .supportedProfile
  routeIssueCodes := []
  devices := []
  partitions := []
  lvm := []
  filesystem := none
  mounts := []

theorem integrityMatches_named [Fingerprint] (binding : ExecutionStartBinding) :
    ({ binding with executionId := binding.expectedExecutionId } :
      ExecutionStartBinding).integrityMatches = true := beq_self_eq_true _

def resizeExecution (pvUuid : String) : ExecutionStartBinding :=
  let binding : ExecutionStartBinding :=
    { schemaVersion := 1
      executionId := ""
      journalId := "journal"
      planId := "plan"
      approvalId := "approval"
      sourceManifestId := (resizeManifest pvUuid).manifest.sourceManifestId
      nativeManifestDigest := (resizeManifest pvUuid).digest
      freshIdentityDigest := resizeIdentity.manifestDigest
      mutationStepIds := [1]
      approvedJournalDigest := resizeIdentity.manifestDigest }
  { binding with executionId := binding.expectedExecutionId }

def resizeRequest (pvUuid : String) : PrivilegedHelperRequest :=
  requestFor (resizeExecution pvUuid) resizeIdentity
    ⟨1, [], .irreversible, .mutationCandidate, .resizePhysicalVolume pvUuid 4096⟩

theorem resizeRequest_built {pvUuid : String} (h : pvUuid ≠ "") :
    buildPrivilegedHelperRequest (resizeManifest pvUuid) (resizeExecution pvUuid) resizeIdentity 1 =
      .ok (resizeRequest pvUuid) := by
  have hsafe : operationIsSafe (.resizePhysicalVolume pvUuid 4096) = true := by
    simp [operationIsSafe, h]
  have hbound : boundTo (resizeManifest pvUuid) (resizeExecution pvUuid) = true :=
    boundTo_iff.mpr ⟨⟨rfl, rfl⟩, Fingerprint.isSha256Hex_fingerprint _,
      Fingerprint.isSha256Hex_fingerprint _, Fingerprint.isSha256Hex_fingerprint _⟩
  have hidentity :
      identityUsable resizeIdentity (resizeExecution pvUuid).freshIdentityDigest = true :=
    identityUsable_iff.mpr ⟨rfl, by decide, by decide, by decide⟩
  exact buildPrivilegedHelperRequest_eq_ok_iff.mpr ⟨⟨rfl, integrityMatches_named _⟩, hbound,
    hidentity, List.mem_singleton_self 1, _, authorizedStep_eq_ok_iff.mpr ⟨rfl, rfl, hsafe⟩, rfl⟩

theorem resizeRequest_fits :
    (toBytes (toJson (resizeRequest "pv-1"))).length ≤ maxPrivilegedHelperRequestBytes := by
  have hoperation : (toBytes (toJson (resizeRequest "pv-1").operation)).length ≤ 600 :=
    (toBytes_length_le _).trans (by decide)
  have htarget : String.utf8Len (renderString (resizeRequest "pv-1").target) = 11 := by decide
  have hdevice : String.utf8Len (renderString (resizeRequest "pv-1").resolvedDevice) = 21 := by
    decide
  have hstep : String.utf8Len (render (toJson (resizeRequest "pv-1").planStepId)) = 1 := by decide
  have hmax : maxPrivilegedHelperRequestBytes = 65536 := rfl
  have hbuilt := resizeRequest_built (by decide : "pv-1" ≠ "")
  have hlength := (built_wellFormed hbuilt).length_eq
  rw [htarget, hdevice, hstep] at hlength
  omega

theorem wire_roundTrip_sample :
    decodePrivilegedHelperRequest documentReader (toBytes (toJson (resizeRequest "pv-1"))) =
      .ok (resizeRequest "pv-1") :=
  ((wire_roundTrip documentReader_faithful).1 _ _ _ _ _
    (resizeRequest_built (by decide))).mpr resizeRequest_fits

/-- A UUID of one letter more than the wire takes. -/
def longUuid : String := String.ofList (List.replicate maxPrivilegedHelperRequestBytes 'a')

theorem longUuid_len : String.utf8Len (renderString longUuid) = 65538 := by
  have hplain : ∀ c ∈ longUuid.toList, escapeChar c = [c] := by
    intro c hc
    rw [longUuid, String.toList_ofList] at hc
    rw [List.eq_of_mem_replicate hc]
    rfl
  have hsize : ∀ n, String.utf8Len (List.replicate n 'a') = n := by
    intro n
    induction n with
    | zero => rfl
    | succ n ih => rw [List.replicate_succ, String.utf8Len_cons, ih]; rfl
  rw [renderString_len_plain hplain, longUuid, String.utf8ByteSize_ofList, hsize]
  rfl

theorem resize_length (pvUuid : String) : String.utf8Len (renderString pvUuid) ≤
    (toBytes (toJson (NativeOperationSpec.resizePhysicalVolume pvUuid 4096))).length := by
  have hfields : toJson (NativeOperationSpec.resizePhysicalVolume pvUuid 4096) = .obj
      [("operation", .str "resize_physical_volume"), ("pv_uuid", .str pvUuid),
        ("expected_pv_size_bytes", .num 4096)] := rfl
  rw [hfields, toBytes_obj_length (List.cons_ne_nil _ _)]
  simp only [List.map_cons, List.sum_cons, render]
  omega

/-- The builder does not look at the length of what it sends. -/
theorem longRequest_refused :
    buildPrivilegedHelperRequest (resizeManifest longUuid) (resizeExecution longUuid)
        resizeIdentity 1 = .ok (resizeRequest longUuid) ∧
      decodePrivilegedHelperRequest documentReader (toBytes (toJson (resizeRequest longUuid))) =
        .error .requestTooLarge := by
  have hne : longUuid ≠ "" := by
    intro h
    have hlong := longUuid_len
    rw [h] at hlong
    exact absurd hlong (by decide)
  refine ⟨resizeRequest_built hne, ?_⟩
  have hlength : maxPrivilegedHelperRequestBytes <
      (toBytes (toJson (resizeRequest longUuid))).length := by
    have hlong := resize_length longUuid
    have hmax : maxPrivilegedHelperRequestBytes = 65536 := rfl
    have hoperation : (resizeRequest longUuid).operation = .resizePhysicalVolume longUuid 4096 :=
      rfl
    have hlength := (built_wellFormed (resizeRequest_built hne)).length_eq
    rw [longUuid_len] at hlong
    rw [hoperation] at hlength
    omega
  have htoo : refuse (maxPrivilegedHelperRequestBytes <
      (toBytes (toJson (resizeRequest longUuid))).length) PrivilegedHelperProtocolError.requestTooLarge =
        .error .requestTooLarge := if_pos hlength
  unfold decodePrivilegedHelperRequest
  rw [htoo]
  rfl

end Samples

end StorageManager.Executor
