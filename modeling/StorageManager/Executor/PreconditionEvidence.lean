import StorageManager.Executor.BackupReceipts
import StorageManager.Planner.FilesystemDecision
import StorageManager.Planner.TargetIdentity

/-!
# Evidence before a mutation

A fresh look at the target, the capabilities, the backups and the filesystem is collected in
one bundle. The bundle names the session it was collected in and is sealed with its
fingerprint.
-/

namespace StorageManager.Executor.JournalStore

open Core
open Lib.Checks
open Lib.Json (Value ToJson toJson)
open Planner
open Planner.ExecutionGuard

set_option autoImplicit false

section Identities

def compareField {α : Type} [DecidableEq α] (code message : String) (baseline fresh : α) :
    List IdentityChange :=
  if baseline ≠ fresh then [⟨code, message⟩] else []

/-- The fields in which two manifests differ. -/
def changedFields (baseline fresh : TargetIdentityManifest) : List IdentityChange :=
  compareField "resolved-device-changed" "resolved target device changed"
    baseline.resolvedDevice fresh.resolvedDevice ++
  compareField "route-status-changed" "storage route support state changed"
    baseline.routeStatus fresh.routeStatus ++
  compareField "route-issues-changed" "storage route diagnostics changed"
    baseline.routeIssueCodes fresh.routeIssueCodes ++
  compareField "device-chain-changed"
    "one or more target block-device identities/capacities changed" baseline.devices fresh.devices ++
  compareField "partition-geometry-changed"
    "target partition-table geometry or identity changed" baseline.partitions fresh.partitions ++
  compareField "lvm-identity-changed" "target PV/VG/LV identity or allocation facts changed"
    baseline.lvm fresh.lvm ++
  compareField "filesystem-identity-changed"
    "target filesystem identity/type/version/capacity changed"
    baseline.filesystem fresh.filesystem ++
  compareField "mount-identity-changed" "target mount source/options changed"
    baseline.mounts fresh.mounts

/-- `revalidate_target_identity`, of what the fresh capture came to. -/
def revalidateTargetIdentity (baseline : TargetIdentityManifest)
    (fresh : Except String TargetIdentityManifest) : IdentityRevalidation :=
  match fresh with
  | .error message =>
    { sameIdentity := false
      baselineDigest := baseline.manifestDigest
      freshDigest := none
      changes := [⟨"fresh-target-unresolved", message⟩] }
  | .ok fresh =>
    if baseline.manifestDigest = fresh.manifestDigest then
      { sameIdentity := true
        baselineDigest := baseline.manifestDigest
        freshDigest := some fresh.manifestDigest
        changes := [] }
    else
      { sameIdentity := false
        baselineDigest := baseline.manifestDigest
        freshDigest := some fresh.manifestDigest
        changes :=
          if changedFields baseline fresh = [] then
            [⟨"manifest-digest-changed",
              "target identity manifest changed in an unclassified field"⟩]
          else changedFields baseline fresh }

theorem revalidateTargetIdentity_sameIdentity (baseline : TargetIdentityManifest)
    (fresh : Except String TargetIdentityManifest) :
    (revalidateTargetIdentity baseline fresh).sameIdentity = true ↔
      ∃ m, fresh = .ok m ∧ m.manifestDigest = baseline.manifestDigest := by
  unfold revalidateTargetIdentity
  cases fresh with
  | error message => simp
  | ok m =>
    by_cases h : baseline.manifestDigest = m.manifestDigest
    · simp [h]
    · simp [h, Ne.symm h]

/-- A changed identity is never without a change that is told. -/
theorem revalidateTargetIdentity_changes (baseline : TargetIdentityManifest)
    (fresh : Except String TargetIdentityManifest) :
    (revalidateTargetIdentity baseline fresh).changes = [] ↔
      (revalidateTargetIdentity baseline fresh).sameIdentity = true := by
  unfold revalidateTargetIdentity
  cases fresh with
  | error message => simp
  | ok m =>
    by_cases h : baseline.manifestDigest = m.manifestDigest
    · simp [h]
    · by_cases hfields : changedFields baseline m = [] <;> simp [h, hfields]

end Identities

/-- Set by the builder of every handoff. -/
def FrozenExecutionHandoff.ownerAcceptanceRequired (_ : FrozenExecutionHandoff) : Bool := true

section Health

structure ExplicitFilesystemHealthReceipt where
  schemaVersion : Nat
  receiptId : String
  lockedSessionId : String
  handoffId : String
  planId : String
  targetManifestDigest : String
  kind : FilesystemCheckKind
  tool : String
  args : List String
  stdoutDigest : String
  stderrDigest : String
  deriving DecidableEq

inductive ExplicitFilesystemHealthError where
  | sessionNotRevalidated
  | mutationEnabled
  | targetIdentityMismatch
  | capabilityInventoryMismatch
  | unsupportedCheck
  | unsafeToolPath
  | toolProvenance (message : String)
  | outputTruncated
  | commandFailed (status : Int)
  | host (message : String)
  deriving DecidableEq

/-- What a check tool printed and how it ended. -/
structure HealthOutput where
  stdout : List UInt8
  stderr : List UInt8
  truncated : Bool
  exitCode : Int

/-- The trusted tools and the paths of the host. -/
structure HealthHost where
  trustedPath : String → Except String String
  canonicalize : String → Option String
  runReadOnly : String → List String → Except String HealthOutput

variable [Fingerprint]

def ExplicitFilesystemHealthReceipt.expectedReceiptId (r : ExplicitFilesystemHealthReceipt) :
    String :=
  fingerprint (.arr [toJson r.schemaVersion, toJson r.lockedSessionId, toJson r.handoffId,
    toJson r.planId, toJson r.targetManifestDigest, toJson r.kind, toJson r.tool, toJson r.args,
    toJson r.stdoutDigest, toJson r.stderrDigest])

def ExplicitFilesystemHealthReceipt.integrityMatches (r : ExplicitFilesystemHealthReceipt) : Bool :=
  r.receiptId == r.expectedReceiptId

/-- The two checks that may be run explicitly. -/
def supportedCheck (decision : FilesystemGrowthDecision) (check : ReadOnlyFilesystemCheck) : Bool :=
  match decision.state, check.kind with
  | .readOnlyHealthCheckRequired, .xfsMountedScrubNoModify =>
    check.tool == "xfs_scrub" && decision.mountpoint.isSome && check.requiresMounted &&
      !check.requiresUnmounted && !check.runAutomaticallyOnRefresh
  | .offlineHealthCheckRequired, .ext4OfflineE2fsckNoModify =>
    check.tool == "e2fsck" && decision.mountpoint.isNone && !check.requiresMounted &&
      check.requiresUnmounted && !check.runAutomaticallyOnRefresh
  | _, _ => false

/-- The device is mounted under its own or another name. -/
def mountedAs (host : HealthHost) (device : String) (mount : MountEntry) : Bool :=
  match mount.source with
  | none => false
  | some source => source == device || host.canonicalize source == host.canonicalize device

def refuseMounted (host : HealthHost) (mounts : List MountEntry) (check : ReadOnlyFilesystemCheck) :
    Except ExplicitFilesystemHealthError Unit :=
  if check.requiresUnmounted then do
    let device ← okOr check.args.getLast? .unsupportedCheck
    refuse (mounts.any (mountedAs host device)) .unsupportedCheck
  else .ok ()

/-- `execute_explicit_filesystem_health_check`. -/
def executeExplicitFilesystemHealthCheck (host : HealthHost) (session : LockedExecutionSession)
    (identity : IdentityRevalidation) (mounts : List MountEntry)
    (freshCapabilities : HostCapabilities) (decision : FilesystemGrowthDecision)
    (toolPath : String) :
    Except ExplicitFilesystemHealthError ExplicitFilesystemHealthReceipt := do
  refuse (session.journal.phase ≠ .identityRevalidated) .sessionNotRevalidated
  refuse (mutationEnabled ∨ session.handoff.mutationEnabled) .mutationEnabled
  refuse (¬identity.sameIdentity) .targetIdentityMismatch
  refuse (¬session.handoff.matchesCapabilities freshCapabilities) .capabilityInventoryMismatch
  let check ← okOr decision.readOnlyCheck .unsupportedCheck
  refuse (¬supportedCheck decision check) .unsupportedCheck
  let trusted ← (host.trustedPath check.tool).mapError .toolProvenance
  let canonical ← okOr (host.canonicalize toolPath) (.host toolPath)
  refuse (canonical ≠ trusted) .unsafeToolPath
  refuseMounted host mounts check
  let output ← (host.runReadOnly check.tool check.args).mapError .toolProvenance
  refuse output.truncated .outputTruncated
  refuse (output.exitCode ≠ 0) (.commandFailed output.exitCode)
  let receipt : ExplicitFilesystemHealthReceipt :=
    { schemaVersion := 1
      receiptId := ""
      lockedSessionId := session.sessionId
      handoffId := session.handoff.handoffId
      planId := session.handoff.planId
      targetManifestDigest := session.handoff.manifestDigest
      kind := check.kind
      tool := check.tool
      args := check.args
      stdoutDigest := Lib.Sha256.sha256Hex output.stdout
      stderrDigest := Lib.Sha256.sha256Hex output.stderr }
  pure { receipt with receiptId := receipt.expectedReceiptId }

theorem executeExplicitFilesystemHealthCheck_session {host : HealthHost}
    {session : LockedExecutionSession} {identity : IdentityRevalidation} {mounts : List MountEntry}
    {freshCapabilities : HostCapabilities} {decision : FilesystemGrowthDecision} {toolPath : String}
    {receipt : ExplicitFilesystemHealthReceipt}
    (h : executeExplicitFilesystemHealthCheck host session identity mounts freshCapabilities decision
      toolPath = .ok receipt) : receipt.lockedSessionId = session.sessionId := by
  unfold executeExplicitFilesystemHealthCheck at h
  obtain ⟨-, h⟩ := check_eq_ok_iff.mp h
  obtain ⟨-, h⟩ := check_eq_ok_iff.mp h
  obtain ⟨-, h⟩ := check_eq_ok_iff.mp h
  obtain ⟨-, h⟩ := check_eq_ok_iff.mp h
  obtain ⟨check, -, h⟩ := bind_eq_ok_iff.mp h
  obtain ⟨-, h⟩ := check_eq_ok_iff.mp h
  obtain ⟨trusted, -, h⟩ := bind_eq_ok_iff.mp h
  obtain ⟨canonical, -, h⟩ := bind_eq_ok_iff.mp h
  obtain ⟨-, h⟩ := check_eq_ok_iff.mp h
  obtain ⟨-, h⟩ := check_eq_ok_iff.mp h
  obtain ⟨output, -, h⟩ := bind_eq_ok_iff.mp h
  obtain ⟨-, h⟩ := check_eq_ok_iff.mp h
  obtain ⟨-, h⟩ := check_eq_ok_iff.mp h
  rw [← Except.ok.inj h]

def receiptMatchesExactCheck (receipt : ExplicitFilesystemHealthReceipt)
    (session : LockedExecutionSession) (check : ReadOnlyFilesystemCheck) : Bool :=
  receipt.schemaVersion == 1 && receipt.integrityMatches &&
    receipt.lockedSessionId == session.sessionId &&
    receipt.handoffId == session.handoff.handoffId && receipt.planId == session.handoff.planId &&
    receipt.targetManifestDigest == session.handoff.manifestDigest && receipt.kind == check.kind &&
    receipt.tool == check.tool && receipt.args == check.args

end Health

section Bundles

inductive PreMutationEvidenceStatus where
  | evidenceComplete
  | futureChecksRequired
  | blocked
  deriving DecidableEq

instance : ToJson PreMutationEvidenceStatus where
  toJson
    | .evidenceComplete => .str "evidence_complete"
    | .futureChecksRequired => .str "future_checks_required"
    | .blocked => .str "blocked"

structure PreMutationEvidenceBundle where
  schemaVersion : Nat
  bundleId : String
  lockedSessionId : String
  handoffId : String
  planId : String
  targetManifestDigest : String
  backupManifestId : String
  backupReceiptId : String
  backupReceiptRevalidated : Bool
  filesystemHealthReceiptId : Option String
  filesystemDecision : FilesystemGrowthDecision
  status : PreMutationEvidenceStatus
  ownerAcceptanceRequired : Bool
  mutationEnabled : Bool
  blockers : List String
  futureGates : List String
  deriving DecidableEq

inductive PreMutationEvidenceError where
  | sessionNotRevalidated
  | mutationEnabled
  | backupBindingMismatch
  | filesystemHealthReceiptMismatch
  deriving DecidableEq

variable [Fingerprint]

def PreMutationEvidenceBundle.computeBundleId (b : PreMutationEvidenceBundle) : String :=
  fingerprint (.arr [toJson b.schemaVersion, toJson b.lockedSessionId, toJson b.handoffId,
    toJson b.planId, toJson b.targetManifestDigest, toJson b.backupManifestId,
    toJson b.backupReceiptId, toJson b.backupReceiptRevalidated,
    toJson b.filesystemHealthReceiptId, toJson b.filesystemDecision, toJson b.status,
    toJson b.ownerAcceptanceRequired, toJson b.mutationEnabled, toJson b.blockers,
    toJson b.futureGates])

def PreMutationEvidenceBundle.integrityMatches (b : PreMutationEvidenceBundle) : Bool :=
  b.bundleId == b.computeBundleId

/-- The state a passed check leads to. -/
def readyState (decision : FilesystemGrowthDecision) (check : ReadOnlyFilesystemCheck) :
    Option FilesystemDecisionState :=
  match decision.state, check.kind with
  | .readOnlyHealthCheckRequired, .xfsMountedScrubNoModify =>
    if decision.mountpoint.isSome then some .readyOnlineGrow else none
  | .offlineHealthCheckRequired, .ext4OfflineE2fsckNoModify =>
    if decision.mountpoint.isNone then some .readyOfflineGrow else none
  | _, _ => none

/-- The decision after a health receipt, if there is one, was taken into account. -/
def settleHealth (session : LockedExecutionSession) (decision : FilesystemGrowthDecision) :
    Option ExplicitFilesystemHealthReceipt →
      Except PreMutationEvidenceError (FilesystemGrowthDecision × Option String)
  | none => .ok (decision, none)
  | some receipt => do
    let check ← okOr decision.readOnlyCheck .filesystemHealthReceiptMismatch
    let state ← okOr (readyState decision check) .filesystemHealthReceiptMismatch
    refuse (¬receiptMatchesExactCheck receipt session check) .filesystemHealthReceiptMismatch
    pure ({ decision with
      state
      readOnlyCheck := none
      requiredActions := []
      reasons := decision.reasons ++ ["explicit no-modify filesystem health receipt matched " ++
        "the exact locked session and check"] }, some receipt.receiptId)

/-- Everything that keeps a mutation from being prepared. -/
def evidenceBlockers (identity : IdentityRevalidation) (capabilitiesMatch : Bool)
    (backup : BackupReceiptRevalidation) (decision : FilesystemGrowthDecision) : List String :=
  identity.changes.map (fun change => s!"{change.code}: {change.message}") ++
  (if capabilitiesMatch then [] else
    ["capability-inventory-changed: storage tool capability inventory changed after locked " ++
      "revalidation"]) ++
  (if backup.sameReceipt then [] else
    if backup.blockers = [] then ["backup-evidence: receipt revalidation did not match"]
    else backup.blockers.map fun blocker => s!"backup-evidence: {blocker}") ++
  if decision.state = .blocked ∨ decision.state = .adapterRequired then
    if decision.reasons = [] then ["filesystem-precondition: filesystem decision is blocked"]
    else decision.reasons.map fun reason => s!"filesystem-precondition: {reason}"
  else []

def evidenceGates (decision : FilesystemGrowthDecision) : List String :=
  ["explicit owner acceptance of the completed M0/M1A baseline is still required before " ++
      "mutation-capable rollout",
    "exact fresh plan approval has not been recorded",
    "the durable journal remains at identity_revalidated; this bundle does not advance " ++
      "preconditions_verified",
    "storage mutation remains disabled"] ++
  if decision.executionReady ∨ decision.state = .blocked ∨ decision.state = .adapterRequired then
    []
  else
    decision.requiredActions.map (fun action => s!"filesystem: {action}") ++
    match decision.readOnlyCheck with
    | some check => ["filesystem check required: " ++ check.tool ++ " " ++ " ".intercalate check.args]
    | none => []

def evidenceStatus (blockers : List String) (decision : FilesystemGrowthDecision) :
    PreMutationEvidenceStatus :=
  if blockers ≠ [] then .blocked
  else if decision.executionReady then .evidenceComplete
  else .futureChecksRequired

/-- `build_pre_mutation_evidence`, with a health receipt or without. -/
def buildPreMutationEvidence (session : LockedExecutionSession) (identity : IdentityRevalidation)
    (freshCapabilities : HostCapabilities) (decision : FilesystemGrowthDecision)
    (backup : BackupReceiptRevalidation) (health : Option ExplicitFilesystemHealthReceipt) :
    Except PreMutationEvidenceError PreMutationEvidenceBundle := do
  refuse (session.journal.phase ≠ .identityRevalidated) .sessionNotRevalidated
  refuse (mutationEnabled ∨ session.handoff.mutationEnabled) .mutationEnabled
  refuse (backup.handoffId ≠ session.handoff.handoffId ∨ backup.planId ≠ session.handoff.planId ∨
    backup.targetManifestDigest ≠ session.handoff.manifestDigest ∨
    backup.sessionId ≠ session.sessionId ∨ backup.journalId ≠ session.journal.journalId)
    .backupBindingMismatch
  let (decision, filesystemHealthReceiptId) ← settleHealth session decision health
  let blockers := sortDedup (evidenceBlockers identity
    (session.handoff.matchesCapabilities freshCapabilities) backup decision)
  let bundle : PreMutationEvidenceBundle :=
    { schemaVersion := 3
      bundleId := ""
      lockedSessionId := session.sessionId
      handoffId := session.handoff.handoffId
      planId := session.handoff.planId
      targetManifestDigest := session.handoff.manifestDigest
      backupManifestId := backup.manifestId
      backupReceiptId := backup.receiptId
      backupReceiptRevalidated := backup.sameReceipt
      filesystemHealthReceiptId
      filesystemDecision := decision
      status := evidenceStatus blockers decision
      ownerAcceptanceRequired := true
      mutationEnabled := false
      blockers
      futureGates := sortDedup (evidenceGates decision) }
  pure { bundle with bundleId := bundle.computeBundleId }

variable {session : LockedExecutionSession} {identity : IdentityRevalidation}
  {freshCapabilities : HostCapabilities} {decision : FilesystemGrowthDecision}
  {backup : BackupReceiptRevalidation} {health : Option ExplicitFilesystemHealthReceipt}
  {bundle : PreMutationEvidenceBundle}

/-- The bundle and the revalidation it was collected from both belong to the session. -/
structure Collected (session : LockedExecutionSession) (backup : BackupReceiptRevalidation)
    (bundle : PreMutationEvidenceBundle) : Prop where
  lockedSessionId : bundle.lockedSessionId = session.sessionId
  handoffId : bundle.handoffId = session.handoff.handoffId
  planId : bundle.planId = session.handoff.planId
  targetManifestDigest : bundle.targetManifestDigest = session.handoff.manifestDigest
  backupReceiptId : bundle.backupReceiptId = backup.receiptId
  backupReceiptRevalidated : bundle.backupReceiptRevalidated = backup.sameReceipt
  backupSession : backup.sessionId = session.sessionId
  backupJournal : backup.journalId = session.journal.journalId
  backupPlan : backup.planId = session.handoff.planId
  backupTarget : backup.targetManifestDigest = session.handoff.manifestDigest

/-- A health receipt that was taken into account is the one of this session. -/
theorem settleHealth_session {receipt : ExplicitFilesystemHealthReceipt}
    {settled : FilesystemGrowthDecision × Option String}
    (h : settleHealth session decision (some receipt) = .ok settled) :
    receipt.lockedSessionId = session.sessionId ∧ settled.2 = some receipt.receiptId := by
  obtain ⟨check, -, h⟩ := bind_eq_ok_iff.mp h
  obtain ⟨state, -, h⟩ := bind_eq_ok_iff.mp h
  obtain ⟨hmatches, h⟩ := check_eq_ok_iff.mp h
  rw [refuse_eq_ok_iff, not_not] at hmatches
  simp only [receiptMatchesExactCheck, Bool.and_eq_true, beq_iff_eq] at hmatches
  rw [← Except.ok.inj h]
  exact ⟨hmatches.1.1.1.1.1.1.2, rfl⟩

theorem buildPreMutationEvidence_collected
    (h : buildPreMutationEvidence session identity freshCapabilities decision backup health =
      .ok bundle) : Collected session backup bundle := by
  unfold buildPreMutationEvidence at h
  obtain ⟨-, h⟩ := check_eq_ok_iff.mp h
  obtain ⟨-, h⟩ := check_eq_ok_iff.mp h
  obtain ⟨hbinding, h⟩ := check_eq_ok_iff.mp h
  obtain ⟨settled, -, h⟩ := bind_eq_ok_iff.mp h
  simp only [refuse_eq_ok_iff, not_or, not_not] at hbinding
  obtain ⟨-, hplan, htarget, hsession, hjournal⟩ := hbinding
  rw [← Except.ok.inj h]
  exact ⟨rfl, rfl, rfl, rfl, rfl, rfl, hsession, hjournal, hplan, htarget⟩

/-- The receipt a bundle names is one of its session. -/
theorem buildPreMutationEvidence_health
    (h : buildPreMutationEvidence session identity freshCapabilities decision backup health =
      .ok bundle) : ∀ receipt ∈ health, receipt.lockedSessionId = session.sessionId ∧
        bundle.filesystemHealthReceiptId = some receipt.receiptId := by
  unfold buildPreMutationEvidence at h
  obtain ⟨-, h⟩ := check_eq_ok_iff.mp h
  obtain ⟨-, h⟩ := check_eq_ok_iff.mp h
  obtain ⟨-, h⟩ := check_eq_ok_iff.mp h
  obtain ⟨settled, hsettled, h⟩ := bind_eq_ok_iff.mp h
  intro receipt hreceipt
  rw [hreceipt] at hsettled
  obtain ⟨hsession, hid⟩ := settleHealth_session hsettled
  rw [← Except.ok.inj h]
  exact ⟨hsession, hid⟩

omit [Fingerprint] in
theorem evidenceStatus_complete {blockers : List String}
    (h : evidenceStatus blockers decision = .evidenceComplete) :
    blockers = [] ∧ decision.executionReady = true := by
  unfold evidenceStatus at h
  by_cases hblockers : blockers = []
  · by_cases hready : decision.executionReady = true
    · exact ⟨hblockers, hready⟩
    · rw [if_neg (not_not.mpr hblockers), if_neg hready] at h
      cases h
  · rw [if_pos hblockers] at h
    cases h

omit [Fingerprint] in
theorem evidenceBlockers_eq_nil {capabilitiesMatch : Bool}
    (h : evidenceBlockers identity capabilitiesMatch backup decision = []) :
    identity.changes = [] ∧ capabilitiesMatch = true ∧ backup.sameReceipt = true := by
  simp only [evidenceBlockers, List.append_eq_nil_iff, List.map_eq_nil_iff] at h
  obtain ⟨⟨⟨hchanges, hcapabilities⟩, hbackup⟩, -⟩ := h
  refine ⟨hchanges, ?_, ?_⟩
  · cases capabilitiesMatch with
    | true => rfl
    | false => cases hcapabilities
  · by_contra hsame
    rw [if_neg hsame] at hbackup
    by_cases hblockers : backup.blockers = []
    · rw [if_pos hblockers] at hbackup
      cases hbackup
    · rw [if_neg hblockers, List.map_eq_nil_iff] at hbackup
      exact hblockers hbackup

/-- A complete bundle: nothing has changed, the backups are there, the filesystem is ready. -/
theorem buildPreMutationEvidence_complete
    (h : buildPreMutationEvidence session identity freshCapabilities decision backup health =
      .ok bundle) (hstatus : bundle.status = .evidenceComplete) :
    identity.changes = [] ∧ session.handoff.matchesCapabilities freshCapabilities = true ∧
      backup.sameReceipt = true ∧ bundle.filesystemDecision.executionReady = true := by
  unfold buildPreMutationEvidence at h
  obtain ⟨-, h⟩ := check_eq_ok_iff.mp h
  obtain ⟨-, h⟩ := check_eq_ok_iff.mp h
  obtain ⟨-, h⟩ := check_eq_ok_iff.mp h
  obtain ⟨settled, -, h⟩ := bind_eq_ok_iff.mp h
  rw [← Except.ok.inj h] at hstatus ⊢
  obtain ⟨hblockers, hready⟩ := evidenceStatus_complete hstatus
  obtain ⟨hchanges, hcapabilities, hbackup⟩ :=
    evidenceBlockers_eq_nil (sortDedup_eq_nil_iff.mp hblockers)
  exact ⟨hchanges, hcapabilities, hbackup, hready⟩

end Bundles

end StorageManager.Executor.JournalStore
