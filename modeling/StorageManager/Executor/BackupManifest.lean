import StorageManager.Executor.BackupReceipts
import StorageManager.Planner.ExecutionHandoff

/-!
# Manifests of metadata backups

A frozen handoff asks for one backup of each partition table and each volume group that
the backup steps of its plan name. The manifest states them: which metadata, where its
copy goes, and which identity the copy must show.
-/

namespace StorageManager.Executor.BackupManifest

open Core (BlockDevice HostCapabilities HostSnapshot LvmInventory LvmVolumeGroup)
open JournalStore (BackupCommandSpec BackupExpectedIdentity LockedExecutionSession
  MetadataBackupKind backupDirectory)
open Lib.Checks
open Lib.Json (ToJson toJson)
open Planner
open Planner.Handoff (FrozenExecutionHandoff)
open Swap (pathJoin)

set_option autoImplicit false

/-- A requirement with the command that would bring its metadata back. -/
structure MetadataBackupRequirement extends JournalStore.MetadataBackupRequirement where
  recovery : BackupCommandSpec
  verificationNotes : List String
  deriving DecidableEq

structure MetadataBackupManifest where
  schemaVersion : Nat
  manifestId : String
  handoffId : String
  planId : String
  targetManifestDigest : String
  artifactDirectory : String
  mutationEnabled : Bool
  ownerAcceptanceRequired : Bool
  requirements : List MetadataBackupRequirement
  deriving DecidableEq

/-- The manifest as the capture reads it. -/
def MetadataBackupManifest.forCapture (manifest : MetadataBackupManifest) :
    JournalStore.MetadataBackupManifest where
  manifestId := manifest.manifestId
  handoffId := manifest.handoffId
  planId := manifest.planId
  targetManifestDigest := manifest.targetManifestDigest
  artifactDirectory := manifest.artifactDirectory
  mutationEnabled := manifest.mutationEnabled
  ownerAcceptanceRequired := manifest.ownerAcceptanceRequired
  requirements := manifest.requirements.map (·.toMetadataBackupRequirement)

inductive BackupManifestError where
  | handoffBlocked
  | mutationEnabled
  | ownerAcceptanceBypassed
  | sessionNotRevalidated
  | invalidIdentity (message : String)
  | partitionIdentityMissing (disk : String)
  | partitionIdentityAmbiguous (disk : String)
  | volumeGroupIdentityMissing (vgUuid : String)
  | volumeGroupIdentityAmbiguous (vgUuid : String)
  deriving DecidableEq

section Serialization

instance : ToJson BackupCommandSpec where
  toJson c := .obj [("program", toJson c.program), ("args", toJson c.args),
    ("stdin_path", toJson c.stdinPath), ("stdout_path", toJson c.stdoutPath),
    ("mutates_storage_metadata", toJson c.mutatesStorageMetadata)]

instance : ToJson MetadataBackupRequirement where
  toJson r := .obj [("ordinal", toJson r.ordinal), ("kind", toJson r.kind),
    ("artifact_path", toJson r.artifactPath), ("expected_identity", toJson r.expectedIdentity),
    ("capture", toJson r.capture), ("recovery", toJson r.recovery),
    ("verification_notes", toJson r.verificationNotes)]

end Serialization

section Requirements

/-- Not empty, and no control characters. -/
def isAtom (value : String) : Bool := value ≠ "" && !value.toList.any isControl

def validateAtom (value label : String) : Except BackupManifestError Unit :=
  refuse (¬isAtom value) (.invalidIdentity s!"{label} is empty or contains control characters")

def validateDigest (value label : String) : Except BackupManifestError Unit :=
  refuse (¬isSha256Hex value) (.invalidIdentity s!"{label} is not a lowercase SHA-256 digest")

def partitionMatches (disk tableLabel : String) (tableId : Option String)
    (partition : PartitionGeometryIdentity) : Bool :=
  partition.disk == some disk && partition.tableLabel == some tableLabel &&
    partition.tableId == tableId

def groupMatches (vgUuid : String) (item : LvmIdentity) : Bool :=
  item.kind == .volumeGroup && item.uuid == some vgUuid

/-- `format!("{ordinal:02}")`. -/
def twoDigits (ordinal : Nat) : String := if ordinal < 10 then s!"0{ordinal}" else s!"{ordinal}"

def artifactPath (root : String) (ordinal : Nat) (suffix : String) : String :=
  pathJoin root s!"{twoDigits ordinal}-{suffix}"

def partitionTableRequirement (disk tableLabel : String) (tableId : Option String)
    (root : String) (ordinal : Nat) : MetadataBackupRequirement :=
  let artifact := artifactPath root ordinal "partition-table.sfdisk"
  { ordinal
    kind := .partitionTable
    artifactPath := artifact
    expectedIdentity := .partitionTable disk tableLabel tableId
    capture := ⟨"sfdisk", ["--dump", disk], none, some artifact, false⟩
    recovery := ⟨"sfdisk", [disk], some artifact, none, true⟩
    verificationNotes := ["backup artifact must be non-empty and readable",
      "parsed dump must identify the exact frozen disk, table label and table ID",
      "restore drill is allowed only on a disposable fixture or explicit recovery path"] }

def volumeGroupRequirement (vgName vgUuid root : String) (ordinal : Nat) :
    MetadataBackupRequirement :=
  let artifact := artifactPath root ordinal "lvm-vg.conf"
  { ordinal
    kind := .lvmVolumeGroup
    artifactPath := artifact
    expectedIdentity := .lvmVolumeGroup vgName vgUuid
    capture := ⟨"vgcfgbackup", ["--file", artifact, vgName], none, none, false⟩
    recovery := ⟨"vgcfgrestore", ["--file", artifact, vgName], none, none, true⟩
    verificationNotes := ["backup artifact must be non-empty and readable",
      "backup metadata must identify the exact frozen VG name and UUID",
      "restore drill is allowed only on a disposable fixture or explicit recovery path"] }

def requirementForOperation (identity : TargetIdentityManifest) (operation : Operation)
    (root : String) (ordinal : Nat) :
    Except BackupManifestError (Option MetadataBackupRequirement) :=
  match operation with
  | .backupPartitionTableMetadata disk tableLabel tableId => do
    validateAtom disk "partition-table disk"
    validateAtom tableLabel "partition-table label"
    checkAll (validateAtom · "partition-table ID") tableId.toList
    match identity.partitions.filter (partitionMatches disk tableLabel tableId) with
    | [partition] => pure (some (partitionTableRequirement disk
        (partition.tableLabel.getD "") partition.tableId root ordinal))
    | [] => .error (.partitionIdentityMissing disk)
    | _ => .error (.partitionIdentityAmbiguous disk)
  | .backupLvmMetadata vgUuid => do
    validateAtom vgUuid "VG UUID"
    match identity.lvm.filter (groupMatches vgUuid) with
    | [vg] => do
      validateAtom vg.name "VG name"
      pure (some (volumeGroupRequirement vg.name vgUuid root ordinal))
    | [] => .error (.volumeGroupIdentityMissing vgUuid)
    | _ => .error (.volumeGroupIdentityAmbiguous vgUuid)
  | _ => pure none

/-- What a backup step is known by, when the same metadata is asked for again. -/
def backupKey : Operation → Option String
  | .backupPartitionTableMetadata disk _ _ => some s!"partition-table:{disk}"
  | .backupLvmMetadata vgUuid => some s!"lvm-vg:{vgUuid}"
  | _ => none

/-- The loop over the steps, with the keys it has seen and what it has asked for. -/
def requirementsFrom (identity : TargetIdentityManifest) (root : String) :
    List String → List MetadataBackupRequirement → List PlanStep →
      Except BackupManifestError (List MetadataBackupRequirement)
  | _, required, [] => .ok required
  | seen, required, step :: steps =>
    match backupKey step.operation with
    | none => requirementsFrom identity root seen required steps
    | some key =>
      if key ∈ seen then requirementsFrom identity root seen required steps
      else do
        let requirement ← requirementForOperation identity step.operation root
          (required.length + 1)
        requirementsFrom identity root (key :: seen) (required ++ requirement.toList) steps

end Requirements

section Manifest

variable [Fingerprint]

def buildMetadataBackupManifestAt (handoff : FrozenExecutionHandoff) (root : String) :
    Except BackupManifestError MetadataBackupManifest := do
  refuse (handoff.status = .blocked) .handoffBlocked
  refuse handoff.mutationEnabled .mutationEnabled
  refuse (¬handoff.ownerAcceptanceRequired) .ownerAcceptanceBypassed
  validateDigest handoff.handoffId "handoff ID"
  validateDigest handoff.plan.planId "plan ID"
  validateDigest handoff.targetIdentity.manifestDigest "target manifest digest"
  let requirements ← requirementsFrom handoff.targetIdentity root [] [] handoff.plan.steps
  pure
    { schemaVersion := 1
      manifestId := fingerprint (.arr [toJson (1 : Nat), toJson handoff.handoffId,
        toJson handoff.plan.planId, toJson handoff.targetIdentity.manifestDigest, toJson root,
        toJson false, toJson true, toJson requirements])
      handoffId := handoff.handoffId
      planId := handoff.plan.planId
      targetManifestDigest := handoff.targetIdentity.manifestDigest
      artifactDirectory := root
      mutationEnabled := false
      ownerAcceptanceRequired := true
      requirements }

def buildMetadataBackupManifest (handoff : FrozenExecutionHandoff) :
    Except BackupManifestError MetadataBackupManifest :=
  buildMetadataBackupManifestAt handoff (pathJoin backupDirectory handoff.handoffId)

/-- The manifest of one attempt, in a directory of its own below that of the handoff. -/
def buildMetadataBackupManifestForSession (handoff : FrozenExecutionHandoff)
    (session : LockedExecutionSession) : Except BackupManifestError MetadataBackupManifest := do
  refuse (¬session.durable ∨ session.journal.phase ≠ .identityRevalidated)
    .sessionNotRevalidated
  validateDigest session.journal.journalId "journal ID"
  buildMetadataBackupManifestAt handoff
    (pathJoin (pathJoin backupDirectory handoff.handoffId) session.journal.journalId)

end Manifest

end StorageManager.Executor.BackupManifest
