import StorageManager.Executor.BackupCapture
import StorageManager.Planner.JournalStart

/-!
# The round trip of a backup

A receipt revalidates as long as its files are what was read for it, and a receipt that
revalidates stands for the manifest, requirement by requirement.
-/

namespace StorageManager.Executor.BackupCapture

open BackupManifest (buildMetadataBackupManifest
  buildMetadataBackupManifestAt_ordinals buildMetadataBackupManifestForSession)
open JournalStore
open Lib.Checks
open Lib.Sha256 (sha256Hex)
open Swap (pathComponents pathParent)

set_option autoImplicit false

section Trust

/-- Every directory down to this one is trusted. -/
def TrustedDirectory (files : FileSystem) (path : String) : Prop :=
  startsWith path "/" = true ∧ ∀ before component after,
    pathComponents path = before ++ component :: after → component ≠ ".." ∧
      ∃ metadata, files.node (before ++ [component]) = some metadata ∧
        metadata.trustedJournalDirectory files.euid (decide (after = [])) = true

/-- A trusted file that is neither empty nor too large. -/
structure TrustedArtifact (files : FileSystem) (path : String) (read : FileNode) : Prop where
  present : files.node (pathComponents path) = some read
  trusted : read.trustedJournalFile files.euid = true
  nonempty : read.bytes ≠ []
  fits : read.bytes.length ≤ maxBackupArtifactBytes

variable {files : FileSystem} {path : String} {read : FileNode}

theorem verifyDirectories_eq_ok_iff {done rest : List String} :
    verifyDirectories files path done rest = .ok () ↔
      ∀ before component after, rest = before ++ component :: after → component ≠ ".." ∧
        ∃ metadata, files.node (done ++ before ++ [component]) = some metadata ∧
          metadata.trustedJournalDirectory files.euid (decide (after = [])) = true := by
  induction rest generalizing done with
  | nil => simp [verifyDirectories]
  | cons component rest ih =>
    simp only [verifyDirectories, bind_eq_ok_iff, exists_check_iff, refuse_eq_ok_iff,
      okOr_eq_ok_iff, not_not, ih]
    constructor
    · rintro ⟨hparent, metadata, hnode, htrusted, hrest⟩ before last after heq
      cases before with
      | nil =>
        obtain ⟨rfl, rfl⟩ := List.cons.inj heq
        rw [List.append_nil]
        exact ⟨hparent, metadata, hnode, htrusted⟩
      | cons first before =>
        obtain ⟨rfl, hlater⟩ := List.cons.inj heq
        have hlast := hrest before last after hlater
        rwa [List.append_assoc done] at hlast
    · intro h
      obtain ⟨hparent, metadata, hnode, htrusted⟩ := h [] component rest rfl
      rw [List.append_nil] at hnode
      refine ⟨hparent, metadata, hnode, htrusted, fun before last after heq => ?_⟩
      have hlast := h (component :: before) last after (congrArg _ heq)
      rwa [List.append_assoc done]

theorem verifyExistingSecureDirectory_eq_ok_iff :
    verifyExistingSecureDirectory files path = .ok () ↔ TrustedDirectory files path := by
  simp only [verifyExistingSecureDirectory, check_eq_ok_iff, refuse_eq_ok_iff, not_not,
    verifyDirectories_eq_ok_iff, List.nil_append, TrustedDirectory]

theorem readArtifact_eq_ok_iff :
    readArtifact files path = .ok read ↔ TrustedArtifact files path read := by
  simp only [readArtifact, symlinkMetadata, bind_eq_ok_iff, exists_check_iff, refuse_eq_ok_iff,
    okOr_eq_ok_iff, not_or, not_not, not_lt, pure, Except.pure, Except.ok.injEq]
  constructor
  · rintro ⟨metadata, hnode, htrusted, hne, hfits, opened, hopened, -, -, -, rfl⟩
    cases Option.some.inj (hnode.symm.trans hopened)
    rw [List.take_of_length_le (by omega)]
    exact ⟨hnode, htrusted, fun hnil => hne (by rw [hnil, List.length_nil]), hfits⟩
  · intro h
    have hall : read.bytes.take (maxBackupArtifactBytes + 1) = read.bytes :=
      List.take_of_length_le (Nat.le_succ_of_le h.fits)
    refine ⟨read, h.present, h.trusted, ?_, h.fits, read, h.present, ⟨h.trusted, rfl, rfl⟩, ?_⟩
    · exact fun hnil => h.nonempty (List.eq_nil_of_length_eq_zero hnil)
    · rw [hall]
      exact ⟨h.fits, h.nonempty, rfl⟩

theorem verifyArtifact_eq_ok_iff {found : Nat × String × Nat × Nat} :
    verifyArtifact files path = .ok found ↔ ∃ read, TrustedArtifact files path read ∧
      (read.bytes.length, sha256Hex read.bytes, read.dev, read.ino) = found := by
  simp only [verifyArtifact, bind_eq_ok_iff, readArtifact_eq_ok_iff, pure, Except.pure,
    Except.ok.injEq]

end Trust

section Blockers

variable {files : BackupFiles} {root : String} {requirement : MetadataBackupRequirement}
  {artifact : BackupArtifactReceipt} {artifacts : List BackupArtifactReceipt}

/-- The file of an artifact path, directly in the directory. -/
def Placed (root artifactPath actualPath : String) : Prop :=
  artifactFile root artifactPath = some actualPath ∧
    (pathParent actualPath).map pathComponents = some (pathComponents root)

/-- An artifact is that of a requirement. -/
structure Answers (artifact : BackupArtifactReceipt) (requirement : MetadataBackupRequirement) :
    Prop where
  ordinal : artifact.ordinal = requirement.ordinal
  kind : artifact.kind = requirement.kind
  artifactPath : artifact.artifactPath = requirement.artifactPath
  expectedIdentity : artifact.expectedIdentity = requirement.expectedIdentity

theorem artifactBlockers_eq_nil_iff : artifactBlockers files root artifacts requirement = [] ↔
    validateRequirement requirement = .ok () ∧ ∃ artifact,
      artifacts.filter (·.ordinal = requirement.ordinal) = [artifact] ∧
      Answers artifact requirement ∧ ∃ actualPath, Placed root requirement.artifactPath actualPath ∧
        files.artifact actualPath =
          .ok (artifact.sizeBytes, artifact.sha256, artifact.deviceId, artifact.inode) := by
  unfold artifactBlockers
  split
  case h_1 e herror => simp [herror]
  case h_2 hvalid =>
    rw [and_iff_right hvalid]
    split
    case h_1 hnone => simp [hnone]
    case h_2 hmany => simp [hmany]
    case h_3 artifact hone =>
      have hordinal : artifact.ordinal = requirement.ordinal := by
        have hfits := (mem_of_filter_eq_singleton hone).2
        exact of_decide_eq_true hfits
      simp only [hone, List.cons.injEq, and_true, exists_eq_left']
      split
      case isTrue hdiffers =>
        refine iff_of_false (by simp) fun h => ?_
        obtain ⟨hanswers, -⟩ := h
        rcases hdiffers with hkind | hpath | hidentity
        · exact hkind hanswers.kind
        · exact hpath hanswers.artifactPath
        · exact hidentity hanswers.expectedIdentity
      case isFalse hsame =>
        simp only [not_or, not_not, ne_eq] at hsame
        have hanswers : Answers artifact requirement := ⟨hordinal, hsame.1, hsame.2.1, hsame.2.2⟩
        rw [and_iff_right hanswers]
        split
        case h_1 hnone => simp [Placed, hnone]
        case h_2 actualPath hfile =>
          split
          case isTrue houtside =>
            refine iff_of_false (by simp) ?_
            rintro ⟨other, ⟨hother, hinside⟩, -⟩
            cases Option.some.inj (hfile.symm.trans hother)
            exact houtside hinside
          case isFalse hinside =>
            rw [not_not] at hinside
            simp only [Placed, hfile, Option.some.injEq]
            split
            case h_1 e herror =>
              refine iff_of_false (by simp) ?_
              rintro ⟨other, ⟨rfl, -⟩, hok⟩
              exact absurd (herror.symm.trans hok) nofun
            case h_2 sizeBytes sha256 deviceId inode hfound =>
              constructor
              · intro h
                simp only [List.append_eq_nil_iff, ite_eq_right_iff, imp_false, not_or, not_not,
                  ne_eq, List.cons_ne_nil] at h
                obtain ⟨⟨⟨rfl, rfl⟩, rfl⟩, rfl⟩ := h
                exact ⟨actualPath, ⟨rfl, hinside⟩, hfound⟩
              · rintro ⟨other, ⟨rfl, -⟩, hok⟩
                cases hfound.symm.trans hok
                simp

variable [Fingerprint] {manifest : MetadataBackupManifest} {receipt : MetadataBackupReceipt}

/-- What a receipt without blockers has. -/
structure Unblocked (files : BackupFiles) (root : String) (manifest : MetadataBackupManifest)
    (receipt : MetadataBackupReceipt) : Prop where
  mutation : manifest.mutationEnabled = false ∧ receipt.mutationEnabled = false
  schemaVersion : receipt.schemaVersion = backupReceiptSchemaVersion
  identity : receipt.manifestId = manifest.manifestId ∧ receipt.handoffId = manifest.handoffId ∧
    receipt.planId = manifest.planId ∧
    receipt.targetManifestDigest = manifest.targetManifestDigest
  directory : isArtifactRoot manifest manifest.handoffId receipt.journalId = true
  receiptId : receipt.receiptId =
    expectedReceiptId manifest receipt.sessionId receipt.journalId receipt.artifacts
  count : receipt.artifacts.length = manifest.requirements.length
  trusted : files.existingDirectory root = .ok ()
  artifacts : ∀ requirement ∈ manifest.requirements,
    artifactBlockers files root receipt.artifacts requirement = []

theorem receiptBlockers_eq_nil_iff :
    receiptBlockers files root manifest receipt = [] ↔ Unblocked files root manifest receipt := by
  unfold receiptBlockers
  cases htrusted : files.existingDirectory root with
  | error e =>
    refine iff_of_false (by simp) fun h => ?_
    exact absurd (htrusted.symm.trans h.trusted) nofun
  | ok =>
    simp only [List.append_eq_nil_iff, ite_eq_right_iff, imp_false, not_or, not_not, ne_eq,
      List.cons_ne_nil, List.flatMap_eq_nil_iff, JournalStore.mutationEnabled, Bool.not_eq_true,
      Bool.not_eq_false, Bool.false_eq_true, not_false_eq_true, and_true]
    constructor
    · rintro ⟨⟨⟨⟨⟨⟨hmutation, hschema⟩, hidentity⟩, hdirectory⟩, hid⟩, hcount⟩, hartifacts⟩
      exact ⟨hmutation, hschema, hidentity, hdirectory, hid, hcount, htrusted, hartifacts⟩
    · intro h
      exact ⟨⟨⟨⟨⟨⟨h.mutation, h.schemaVersion⟩, h.identity⟩, h.directory⟩, h.receiptId⟩, h.count⟩,
        h.artifacts⟩

theorem revalidateReceiptAtRoot_iff {host : CaptureHost} {files : FileSystem}
    {rootOverride : Option String} :
    (revalidateReceiptAtRoot host files manifest receipt rootOverride).sameReceipt = true ↔
      Unblocked (host.answers files)
        (artifactRoot manifest manifest.handoffId receipt.journalId rootOverride) manifest
        receipt := by
  simp only [revalidateReceiptAtRoot, List.isEmpty_iff, sortDedup_eq_nil_iff,
    receiptBlockers_eq_nil_iff]

end Blockers

section Captured

variable {host : CaptureHost} {root : String} {requirement : MetadataBackupRequirement}
  {captured : CapturedArtifact} {files : FileSystem}

/-- A requirement was captured: its receipt tells of the file that was read. -/
structure CapturedFor (root : String) (requirement : MetadataBackupRequirement)
    (captured : CapturedArtifact) : Prop where
  valid : validateRequirement requirement = .ok ()
  made : captured = capturedArtifact requirement captured.read
  placed : ∃ actualPath, Placed root requirement.artifactPath actualPath ∧
    ∃ moment, TrustedArtifact moment actualPath captured.read

theorem captureArtifact_ok {after : FileSystem}
    (h : captureArtifact host root requirement files = .ok (captured, after)) :
    CapturedFor root requirement captured := by
  simp only [captureArtifact, bind_eq_ok_iff, exists_check_iff, refuse_eq_ok_iff, okOr_eq_ok_iff,
    mapError_eq_ok_iff, readArtifact_eq_ok_iff, not_not, ne_eq] at h
  obtain ⟨hvalid, actualPath, hfile, hinside, moment, -, read, hread, hresult⟩ := h
  cases hresult
  exact ⟨hvalid, rfl, actualPath, ⟨hfile, hinside⟩, _, hread⟩

theorem captureArtifacts_ok {requirements : List MetadataBackupRequirement}
    {taken : List CapturedArtifact} {after : FileSystem}
    (h : captureArtifacts host root requirements files = .ok (taken, after)) :
    List.Forall₂ (CapturedFor root) requirements taken := by
  induction requirements generalizing files taken with
  | nil =>
    cases h
    exact .nil
  | cons requirement requirements ih =>
    simp only [captureArtifacts, bind_eq_ok_iff] at h
    obtain ⟨⟨first, left⟩, hfirst, ⟨rest, left'⟩, hrest, hresult⟩ := h
    cases hresult
    exact .cons (captureArtifact_ok hfirst) (ih hrest)

theorem CapturedFor.answers (h : CapturedFor root requirement captured) :
    Answers captured.receipt requirement := by
  rw [h.made]
  exact ⟨rfl, rfl, rfl, rfl⟩

/-- The receipts have the ordinals of the requirements. -/
theorem captured_ordinals {requirements : List MetadataBackupRequirement}
    {taken : List CapturedArtifact} (h : List.Forall₂ (CapturedFor root) requirements taken) :
    (taken.map (·.receipt)).map (·.ordinal) = requirements.map (·.ordinal) := by
  induction h with
  | nil => rfl
  | cons hfirst _ ih =>
    rw [List.map_cons, List.map_cons, List.map_cons, ih, hfirst.answers.ordinal]

/-- The file of an artifact is there with the numbers of its receipt and the content that was
read for it, and is trusted. -/
def StillThere (files : FileSystem) (root : String) (captured : CapturedArtifact) : Prop :=
  ∃ actualPath now, Placed root captured.receipt.artifactPath actualPath ∧
    files.node (pathComponents actualPath) = some now ∧
    now.trustedJournalFile files.euid = true ∧ now.dev = captured.receipt.deviceId ∧
    now.ino = captured.receipt.inode ∧ now.bytes.length = captured.receipt.sizeBytes ∧
    now.bytes = captured.read.bytes

/-- No file that is there has the digest of another content that was read. -/
def DigestsDistinguish (files : FileSystem) (taken : List CapturedArtifact) : Prop :=
  ∀ captured ∈ taken, ∀ path now, files.node path = some now →
    sha256Hex now.bytes = sha256Hex captured.read.bytes → now.bytes = captured.read.bytes

variable {later : FileSystem} {artifacts : List BackupArtifactReceipt}

theorem CapturedFor.artifactBlockers_iff (h : CapturedFor root requirement captured)
    (hone : artifacts.filter (·.ordinal = requirement.ordinal) = [captured.receipt])
    (hdigests : ∀ path now, later.node path = some now →
      sha256Hex now.bytes = sha256Hex captured.read.bytes → now.bytes = captured.read.bytes) :
    artifactBlockers (host.answers later) root artifacts requirement = [] ↔
      StillThere later root captured := by
  have hnumbers : captured.receipt.sizeBytes = captured.read.bytes.length ∧
      captured.receipt.sha256 = sha256Hex captured.read.bytes ∧
      captured.receipt.deviceId = captured.read.dev ∧
      captured.receipt.inode = captured.read.ino := by
    rw [h.made]
    exact ⟨rfl, rfl, rfl, rfl⟩
  have hpath := h.answers.artifactPath
  rw [artifactBlockers_eq_nil_iff, and_iff_right h.valid]
  constructor
  · rintro ⟨artifact, hfound, -, actualPath, hplaced, hverified⟩
    cases List.singleton_inj.mp (hone.symm.trans hfound)
    obtain ⟨now, htrusted, hnow⟩ := verifyArtifact_eq_ok_iff.mp hverified
    simp only [Prod.mk.injEq] at hnow
    obtain ⟨hsize, hsha, hdev, hino⟩ := hnow
    have hbytes := hdigests _ now htrusted.present (hsha.trans hnumbers.2.1)
    rw [← hpath] at hplaced
    exact ⟨actualPath, now, hplaced, htrusted.present, htrusted.trusted, hdev, hino, hsize, hbytes⟩
  · rintro ⟨actualPath, now, hplaced, hpresent, htrusted, hdev, hino, hsize, hbytes⟩
    rw [hpath] at hplaced
    obtain ⟨_, -, moment, hread⟩ := h.placed
    have hnow : TrustedArtifact later actualPath now := by
      refine ⟨hpresent, htrusted, ?_, ?_⟩
      · rw [hbytes]
        exact hread.nonempty
      · rw [hbytes]
        exact hread.fits
    refine ⟨captured.receipt, hone, h.answers, actualPath, hplaced, ?_⟩
    refine verifyArtifact_eq_ok_iff.mpr ⟨now, hnow, ?_⟩
    rw [hsize, hbytes, ← hnumbers.2.1, hdev, hino]

/-- Nothing blocks the artifacts of a capture exactly while their files are still there. -/
theorem captured_artifactBlockers_iff {requirements : List MetadataBackupRequirement}
    {taken : List CapturedArtifact} (hforall : List.Forall₂ (CapturedFor root) requirements taken)
    (hordinals : (requirements.map (·.ordinal)).Nodup)
    (hdigests : DigestsDistinguish later taken) :
    (∀ requirement ∈ requirements, artifactBlockers (host.answers later) root
      (taken.map (·.receipt)) requirement = []) ↔
      ∀ captured ∈ taken, StillThere later root captured := by
  have hnodup : ((taken.map (·.receipt)).map (·.ordinal)).Nodup := by
    rw [captured_ordinals hforall]
    exact hordinals
  have heach : ∀ requirement captured, captured ∈ taken → CapturedFor root requirement captured →
      (artifactBlockers (host.answers later) root (taken.map (·.receipt)) requirement = [] ↔
        StillThere later root captured) := by
    intro requirement captured hmem hcaptured
    apply hcaptured.artifactBlockers_iff _ (hdigests captured hmem)
    rw [← hcaptured.answers.ordinal]
    exact filter_eq_singleton_of_nodup hnodup (List.mem_map_of_mem hmem)
  constructor
  · intro hall captured hmem
    obtain ⟨requirement, hrequirement, hcaptured⟩ := exists_left_of_forall₂ hforall hmem
    exact (heach requirement captured hmem hcaptured).mp (hall requirement hrequirement)
  · intro hall requirement hrequirement
    obtain ⟨captured, hmem, hcaptured⟩ := exists_right_of_forall₂ hforall hrequirement
    exact (heach requirement captured hmem hcaptured).mpr (hall captured hmem)

/-- An artifact stands for a requirement, and its file is there as the receipt says. -/
structure Stands (files : FileSystem) (root : String) (requirement : MetadataBackupRequirement)
    (artifact : BackupArtifactReceipt) : Prop where
  answers : Answers artifact requirement
  file : ∃ actualPath read, Placed root requirement.artifactPath actualPath ∧
    TrustedArtifact files actualPath read ∧ read.dev = artifact.deviceId ∧
    read.ino = artifact.inode ∧ read.bytes.length = artifact.sizeBytes ∧
    sha256Hex read.bytes = artifact.sha256

theorem exists_stands (h : artifactBlockers (host.answers later) root artifacts requirement = []) :
    ∃ artifact, artifact ∈ artifacts ∧ Stands later root requirement artifact := by
  obtain ⟨-, artifact, hone, hanswers, actualPath, hplaced, hverified⟩ :=
    artifactBlockers_eq_nil_iff.mp h
  obtain ⟨read, htrusted, hread⟩ := verifyArtifact_eq_ok_iff.mp hverified
  simp only [Prod.mk.injEq] at hread
  obtain ⟨hsize, hsha, hdev, hino⟩ := hread
  exact ⟨artifact, (mem_of_filter_eq_singleton hone).1, hanswers, actualPath, read, hplaced,
    htrusted, hdev, hino, hsize, hsha⟩

/-- Artifacts that stand for all the requirements are all the artifacts there are, where there
are as many as requirements. -/
theorem stands_perm {requirements : List MetadataBackupRequirement}
    {found : List BackupArtifactReceipt}
    (hstands : List.Forall₂ (Stands later root) requirements found)
    (hordinals : (requirements.map (·.ordinal)).Nodup) (hsubset : found ⊆ artifacts)
    (hcount : artifacts.length = requirements.length) : found.Perm artifacts := by
  have hsame : found.map (·.ordinal) = requirements.map (·.ordinal) := by
    rw [← List.forall₂_eq_eq_eq, List.forall₂_map_left_iff, List.forall₂_map_right_iff]
    exact hstands.flip.imp fun _ _ h => h.answers.ordinal
  have hnodup : found.Nodup := by
    apply List.Nodup.of_map (·.ordinal)
    rw [hsame]
    exact hordinals
  apply (List.subperm_of_subset hnodup hsubset).perm_of_length_le
  rw [hcount, hstands.length_eq]

end Captured

section RoundTrip

variable [Fingerprint] {manifest : MetadataBackupManifest} {files later : FileSystem}
  {host : CaptureHost} {session : LockedExecutionSession} {rootOverride : Option String}
  {outcome : CaptureOutcome} {receipt : MetadataBackupReceipt}

/-- The manifests there are. -/
inductive Built : MetadataBackupManifest → Prop
  | forHandoff {handoff : Planner.Handoff.FrozenExecutionHandoff}
      {made : BackupManifest.MetadataBackupManifest}
      (h : buildMetadataBackupManifest handoff = .ok made) : Built made.forCapture
  | forSession {handoff : Planner.Handoff.FrozenExecutionHandoff}
      {session : LockedExecutionSession} {made : BackupManifest.MetadataBackupManifest}
      (h : buildMetadataBackupManifestForSession handoff session = .ok made) :
      Built made.forCapture

theorem Built.ordinals (h : Built manifest) : (manifest.requirements.map (·.ordinal)).Nodup := by
  cases h with
  | forHandoff h => exact buildMetadataBackupManifestAt_ordinals h
  | forSession h =>
    simp only [buildMetadataBackupManifestForSession, check_eq_ok_iff] at h
    exact buildMetadataBackupManifestAt_ordinals h.2.2

/-- The receipt that a session gets for these artifacts. -/
theorem captureWithRunner_ok
    (h : captureWithRunner host files session manifest rootOverride = .ok outcome) :
    List.Forall₂ (CapturedFor (artifactRoot manifest manifest.handoffId outcome.receipt.journalId
        rootOverride)) manifest.requirements outcome.captured ∧
      outcome.receipt.artifacts = outcome.captured.map (·.receipt) ∧
      ∀ answers : BackupFiles, Unblocked answers
        (artifactRoot manifest manifest.handoffId outcome.receipt.journalId rootOverride) manifest
          outcome.receipt ↔
        answers.existingDirectory (artifactRoot manifest manifest.handoffId
          outcome.receipt.journalId rootOverride) = .ok () ∧
        ∀ requirement ∈ manifest.requirements, artifactBlockers answers
          (artifactRoot manifest manifest.handoffId outcome.receipt.journalId rootOverride)
            outcome.receipt.artifacts requirement = [] := by
  simp only [captureWithRunner, bind_eq_ok_iff, exists_check_iff, mapError_eq_ok_iff,
    refuse_eq_ok_iff, not_not] at h
  obtain ⟨hbinding, hroot, left, -, ⟨taken, after⟩, htaken, -, hresult⟩ := h
  simp only [validateBinding, check_eq_ok_iff, refuse_eq_ok_iff, not_or, not_not] at hbinding
  obtain ⟨⟨-, hmutation⟩, -, hhandoff, -⟩ := hbinding
  have hforall := captureArtifacts_ok htaken
  cases hresult
  rw [← hhandoff] at hroot hforall
  refine ⟨hforall, rfl, fun answers => ⟨fun h => ⟨h.trusted, h.artifacts⟩, fun h => ?_⟩⟩
  refine ⟨⟨eq_false_of_ne_true hmutation, rfl⟩, rfl, ⟨rfl, rfl, rfl, rfl⟩, hroot, rfl, ?_, h.1, h.2⟩
  rw [List.length_map]
  exact hforall.length_eq.symm

/-- The receipt of a capture revalidates as long as the directory is trusted and every file is
still there. -/
theorem captured_revalidates_iff (hordinals : (manifest.requirements.map (·.ordinal)).Nodup)
    (h : captureWithRunner host files session manifest rootOverride = .ok outcome)
    (hdigests : DigestsDistinguish later outcome.captured) :
    (revalidateReceiptAtRoot host later manifest outcome.receipt rootOverride).sameReceipt = true ↔
      TrustedDirectory later
        (artifactRoot manifest manifest.handoffId outcome.receipt.journalId rootOverride) ∧
      ∀ captured ∈ outcome.captured, StillThere later
        (artifactRoot manifest manifest.handoffId outcome.receipt.journalId rootOverride)
          captured := by
  obtain ⟨hforall, hartifacts, hunblocked⟩ := captureWithRunner_ok h
  rw [revalidateReceiptAtRoot_iff, hunblocked, hartifacts,
    captured_artifactBlockers_iff hforall hordinals hdigests]
  apply and_congr_left'
  exact verifyExistingSecureDirectory_eq_ok_iff

/-- A receipt that revalidates has one artifact for each requirement and no other. -/
theorem revalidated_stands (hordinals : (manifest.requirements.map (·.ordinal)).Nodup)
    (h : (revalidateReceiptAtRoot host later manifest receipt rootOverride).sameReceipt = true) :
    ∃ artifacts, artifacts.Perm receipt.artifacts ∧
      List.Forall₂ (Stands later
        (artifactRoot manifest manifest.handoffId receipt.journalId rootOverride))
        manifest.requirements artifacts := by
  have hunblocked := revalidateReceiptAtRoot_iff.mp h
  obtain ⟨artifacts, hartifacts⟩ :=
    exists_forall₂ fun requirement hmem => exists_stands (hunblocked.artifacts requirement hmem)
  have hstands := hartifacts.imp fun _ _ h => h.2
  have hsubset : artifacts ⊆ receipt.artifacts := by
    intro artifact hmem
    obtain ⟨requirement, -, hmem, -⟩ := exists_left_of_forall₂ hartifacts hmem
    exact hmem
  exact ⟨artifacts, stands_perm hstands hordinals hsubset hunblocked.count, hstands⟩

/-- The receipt of a capture revalidates exactly while its files are there as they were read. -/
def CaptureRevalidates (manifest : MetadataBackupManifest) : Prop :=
  ∀ (host : CaptureHost) (files : FileSystem) (session : LockedExecutionSession)
    (rootOverride : Option String) (outcome : CaptureOutcome),
    captureWithRunner host files session manifest rootOverride = .ok outcome →
    ∀ later, DigestsDistinguish later outcome.captured →
      ((revalidateReceiptAtRoot host later manifest outcome.receipt rootOverride).sameReceipt =
        true ↔
        TrustedDirectory later
          (artifactRoot manifest manifest.handoffId outcome.receipt.journalId rootOverride) ∧
        ∀ captured ∈ outcome.captured, StillThere later
          (artifactRoot manifest manifest.handoffId outcome.receipt.journalId rootOverride)
            captured)

/-- A receipt that revalidates, wherever it is from, has one artifact for each requirement. -/
def RevalidatedStands (manifest : MetadataBackupManifest) : Prop :=
  ∀ (host : CaptureHost) (later : FileSystem) (receipt : MetadataBackupReceipt)
    (rootOverride : Option String),
    (revalidateReceiptAtRoot host later manifest receipt rootOverride).sameReceipt = true →
    ∃ artifacts, artifacts.Perm receipt.artifacts ∧
      List.Forall₂ (Stands later
        (artifactRoot manifest manifest.handoffId receipt.journalId rootOverride))
        manifest.requirements artifacts

end RoundTrip

section Samples

open Planner.ExecutionGuard (sampleDigest)

/-- A ready handoff with one backup step, for the group of a volume. -/
def groupHandoff : Planner.Handoff.FrozenExecutionHandoff where
  schemaVersion := 1
  handoffId := sampleDigest
  mutationEnabled := false
  ownerAcceptanceRequired := true
  status := .futureExecutorGatesRequired
  plan :=
    { schemaVersion := 1
      planId := sampleDigest
      snapshotDigest := sampleDigest
      dryRun := true
      executable := false
      status := .preview
      request := ⟨"/data", .maxFree⟩
      sizeChange := none
      partitionSizeChange := none
      filesystemSizeChange := none
      layoutAlternatives := []
      growthRouteAlternatives := []
      blockers := []
      preflightChecks := []
      steps := [⟨1, [], .backupLvmMetadata "vg1", .notApplicable⟩]
      notices := [] }
  planBasisDigest := sampleDigest
  capabilitiesDigest := sampleDigest
  targetIdentity :=
    { schemaVersion := 1
      target := "/data"
      manifestDigest := sampleDigest
      resolvedDevice := "/dev/mapper/vg-data"
      routeStatus := .supportedProfile
      routeIssueCodes := []
      devices := []
      partitions := []
      lvm := [⟨.volumeGroup, "vg", some "vg1", 9437184, some 0, none, some 1048576, some 0, some 1,
        some 1, some "wz--n-", none, none⟩]
      filesystem := none
      mounts := [] }
  filesystemDecision := ⟨"/data", some "/dev/mapper/vg-data", some "/data", some "ext4",
    .readyOnlineGrow, none, none, [], []⟩
  guard := ⟨⟨sampleDigest, sampleDigest, "/data", sampleDigest⟩, .supportedProfile,
    .futureExecutorGatesRequired, [], []⟩
  blockers := []

theorem groupHandoff_built : ∃ made, buildMetadataBackupManifest groupHandoff = .ok made ∧
    made.requirements.length = 1 := by
  refine ⟨_, rfl, ?_⟩
  rfl

end Samples

end StorageManager.Executor.BackupCapture
