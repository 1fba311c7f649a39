import StorageManager.Executor.PrivilegedTools

/-!
# The create authorization chain

The sealed records that lead to a production create: activation intent, execution
permit, preflight receipt and launch specification. Each carries the fingerprint of
its other fields as its id.
-/

namespace StorageManager.Executor.Create

open Lib.Json (Value ToJson toJson)

set_option autoImplicit false

inductive CreatePartitionTablePolicy where
  | gpt
  | dos
  deriving DecidableEq

/-- `partition_table_name`, `expected_partition_table` and the serde name agree. -/
def CreatePartitionTablePolicy.label : CreatePartitionTablePolicy → String
  | .gpt => "gpt"
  | .dos => "dos"

instance : ToJson CreatePartitionTablePolicy := ⟨fun p => toJson p.label⟩

inductive ProductionCreateProfile where
  | blankDiskSinglePartitionFilesystem
  deriving DecidableEq

instance : ToJson ProductionCreateProfile :=
  ⟨fun _ => toJson "blank_disk_single_partition_filesystem"⟩

structure ProductionCreateActivationIntent where
  schemaVersion : Nat
  activationId : String
  profile : ProductionCreateProfile
  createIntentId : String
  createPlanId : String
  sourceId : String
  disk : String
  diskSizeBytes : Nat
  logicalSectorBytes : Nat
  diskModel : Option String
  diskSerial : Option String
  partitionTable : CreatePartitionTablePolicy
  partitionStartSector : Nat
  partitionSectorCount : Nat
  partitionSizeBytes : Nat
  filesystem : String
  compileFeatureEnabled : Bool
  executionEnabled : Bool
  partitionTableChanged : Bool
  filesystemFormatted : Bool
  deriving DecidableEq

structure ProductionCreateExecutionPermit where
  schemaVersion : Nat
  permitId : String
  activationId : String
  consentReceiptId : String
  profile : ProductionCreateProfile
  createIntentId : String
  createPlanId : String
  sourceId : String
  disk : String
  diskSizeBytes : Nat
  logicalSectorBytes : Nat
  partitionTable : CreatePartitionTablePolicy
  partitionStartSector : Nat
  partitionSectorCount : Nat
  partitionSizeBytes : Nat
  filesystem : String
  compileFeatureEnabled : Bool
  mutationEnabled : Bool
  processSpawned : Bool
  partitionTableChanged : Bool
  filesystemFormatted : Bool
  deriving DecidableEq

structure ProductionCreateRuntimePreflightReceipt where
  schemaVersion : Nat
  receiptId : String
  activationId : String
  executionPermitId : String
  consentReceiptId : String
  createIntentId : String
  disk : String
  diskSizeBytes : Nat
  logicalSectorBytes : Nat
  partitionTable : CreatePartitionTablePolicy
  partitionStartSector : Nat
  partitionSectorCount : Nat
  partitionSizeBytes : Nat
  filesystem : String
  sfdisk : TrustedToolIdentity
  partx : TrustedToolIdentity
  mkfs : TrustedToolIdentity
  runtimeReady : Bool
  mutationEnabled : Bool
  processSpawned : Bool
  partitionTableChanged : Bool
  filesystemFormatted : Bool
  deriving DecidableEq

structure ProductionCreateLaunchStage where
  program : PrivilegedProgram
  argv : List String
  executable : TrustedToolIdentity
  elf : ElfExecutionIdentity
  stdinLen : Nat
  stdinSha256 : Option String
  deriving DecidableEq

structure ProductionCreateRuntimeLaunchSpec where
  schemaVersion : Nat
  launchId : String
  activationId : String
  executionPermitId : String
  preflightReceiptId : String
  createIntentId : String
  disk : String
  partitionDevice : String
  partitionTable : CreatePartitionTablePolicy
  partitionStartSector : Nat
  partitionSectorCount : Nat
  partitionSizeBytes : Nat
  filesystem : String
  sfdiskScript : String
  sfdisk : ProductionCreateLaunchStage
  partx : ProductionCreateLaunchStage
  mkfs : ProductionCreateLaunchStage
  fixedPath : String
  fixedLocale : String
  descriptorExecApi : String
  requirePartitionRediscoveryBeforeMkfs : Bool
  mutationEnabled : Bool
  processSpawned : Bool
  partitionTableChanged : Bool
  filesystemFormatted : Bool
  deriving DecidableEq

instance : ToJson ProductionCreateLaunchStage where
  toJson s := .obj [("program", toJson s.program), ("argv", toJson s.argv),
    ("executable", toJson s.executable), ("elf", toJson s.elf), ("stdin_len", toJson s.stdinLen),
    ("stdin_sha256", toJson s.stdinSha256)]

section Integrity

variable [Fingerprint]

def ProductionCreateActivationIntent.expectedActivationId
    (a : ProductionCreateActivationIntent) : String :=
  fingerprint (.obj [("schema_version", toJson a.schemaVersion), ("profile", toJson a.profile),
    ("create_intent_id", toJson a.createIntentId), ("create_plan_id", toJson a.createPlanId),
    ("source_id", toJson a.sourceId), ("disk", toJson a.disk),
    ("disk_size_bytes", toJson a.diskSizeBytes),
    ("logical_sector_bytes", toJson a.logicalSectorBytes), ("disk_model", toJson a.diskModel),
    ("disk_serial", toJson a.diskSerial), ("partition_table", toJson a.partitionTable),
    ("partition_start_sector", toJson a.partitionStartSector),
    ("partition_sector_count", toJson a.partitionSectorCount),
    ("partition_size_bytes", toJson a.partitionSizeBytes), ("filesystem", toJson a.filesystem),
    ("compile_feature_enabled", toJson a.compileFeatureEnabled),
    ("execution_enabled", toJson a.executionEnabled),
    ("partition_table_changed", toJson a.partitionTableChanged),
    ("filesystem_formatted", toJson a.filesystemFormatted)])

def ProductionCreateActivationIntent.integrityMatches
    (a : ProductionCreateActivationIntent) : Bool :=
  a.activationId == a.expectedActivationId

def ProductionCreateExecutionPermit.expectedPermitId
    (p : ProductionCreateExecutionPermit) : String :=
  fingerprint (.obj [("schema_version", toJson p.schemaVersion),
    ("activation_id", toJson p.activationId), ("consent_receipt_id", toJson p.consentReceiptId),
    ("profile", toJson p.profile), ("create_intent_id", toJson p.createIntentId),
    ("create_plan_id", toJson p.createPlanId), ("source_id", toJson p.sourceId),
    ("disk", toJson p.disk), ("disk_size_bytes", toJson p.diskSizeBytes),
    ("logical_sector_bytes", toJson p.logicalSectorBytes),
    ("partition_table", toJson p.partitionTable),
    ("partition_start_sector", toJson p.partitionStartSector),
    ("partition_sector_count", toJson p.partitionSectorCount),
    ("partition_size_bytes", toJson p.partitionSizeBytes), ("filesystem", toJson p.filesystem),
    ("compile_feature_enabled", toJson p.compileFeatureEnabled),
    ("mutation_enabled", toJson p.mutationEnabled), ("process_spawned", toJson p.processSpawned),
    ("partition_table_changed", toJson p.partitionTableChanged),
    ("filesystem_formatted", toJson p.filesystemFormatted)])

def ProductionCreateExecutionPermit.integrityMatches
    (p : ProductionCreateExecutionPermit) : Bool :=
  p.permitId == p.expectedPermitId

def ProductionCreateRuntimePreflightReceipt.expectedReceiptId
    (r : ProductionCreateRuntimePreflightReceipt) : String :=
  fingerprint (.obj [("schema_version", toJson r.schemaVersion),
    ("activation_id", toJson r.activationId),
    ("execution_permit_id", toJson r.executionPermitId),
    ("consent_receipt_id", toJson r.consentReceiptId),
    ("create_intent_id", toJson r.createIntentId), ("disk", toJson r.disk),
    ("disk_size_bytes", toJson r.diskSizeBytes),
    ("logical_sector_bytes", toJson r.logicalSectorBytes),
    ("partition_table", toJson r.partitionTable),
    ("partition_start_sector", toJson r.partitionStartSector),
    ("partition_sector_count", toJson r.partitionSectorCount),
    ("partition_size_bytes", toJson r.partitionSizeBytes), ("filesystem", toJson r.filesystem),
    ("sfdisk", toJson r.sfdisk), ("partx", toJson r.partx), ("mkfs", toJson r.mkfs),
    ("runtime_ready", toJson r.runtimeReady), ("mutation_enabled", toJson r.mutationEnabled),
    ("process_spawned", toJson r.processSpawned),
    ("partition_table_changed", toJson r.partitionTableChanged),
    ("filesystem_formatted", toJson r.filesystemFormatted)])

def ProductionCreateRuntimePreflightReceipt.integrityMatches
    (r : ProductionCreateRuntimePreflightReceipt) : Bool :=
  r.receiptId == r.expectedReceiptId

def ProductionCreateRuntimeLaunchSpec.expectedLaunchId
    (l : ProductionCreateRuntimeLaunchSpec) : String :=
  fingerprint (.obj [("schema_version", toJson l.schemaVersion),
    ("activation_id", toJson l.activationId),
    ("execution_permit_id", toJson l.executionPermitId),
    ("preflight_receipt_id", toJson l.preflightReceiptId),
    ("create_intent_id", toJson l.createIntentId), ("disk", toJson l.disk),
    ("partition_device", toJson l.partitionDevice), ("partition_table", toJson l.partitionTable),
    ("partition_start_sector", toJson l.partitionStartSector),
    ("partition_sector_count", toJson l.partitionSectorCount),
    ("partition_size_bytes", toJson l.partitionSizeBytes), ("filesystem", toJson l.filesystem),
    ("sfdisk_script", toJson l.sfdiskScript), ("sfdisk", toJson l.sfdisk),
    ("partx", toJson l.partx), ("mkfs", toJson l.mkfs), ("fixed_path", toJson l.fixedPath),
    ("fixed_locale", toJson l.fixedLocale), ("descriptor_exec_api", toJson l.descriptorExecApi),
    ("require_partition_rediscovery_before_mkfs",
      toJson l.requirePartitionRediscoveryBeforeMkfs),
    ("mutation_enabled", toJson l.mutationEnabled), ("process_spawned", toJson l.processSpawned),
    ("partition_table_changed", toJson l.partitionTableChanged),
    ("filesystem_formatted", toJson l.filesystemFormatted)])

def ProductionCreateRuntimeLaunchSpec.integrityMatches
    (l : ProductionCreateRuntimeLaunchSpec) : Bool :=
  l.launchId == l.expectedLaunchId

end Integrity

end StorageManager.Executor.Create
