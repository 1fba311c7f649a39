import StorageManager.Executor.PrivilegedTools

/-!
# The swap authorization chain

The sealed records that lead to a production swap replacement: activation intent,
execution permit, runtime preflight receipt and launch specification. Each carries
the fingerprint of its other fields as its id.
-/

namespace StorageManager.Executor.Swap

open Lib.Json (Value ToJson toJson)

set_option autoImplicit false

inductive ProductionSwapReplacementProfile where
  | tailSwapPartitionToExt4Swapfile
  deriving DecidableEq

instance : ToJson ProductionSwapReplacementProfile :=
  ⟨fun _ => toJson "tail_swap_partition_to_ext4_swapfile"⟩

structure ProductionSwapReplacementActivationIntent where
  schemaVersion : Nat
  activationId : String
  profile : ProductionSwapReplacementProfile
  swapReplacementIntentId : String
  target : String
  disk : String
  retiringSwapDevice : String
  retiringSwapBytes : Nat
  retiringSwapPriority : Int
  persistentSwapSource : String
  persistentSwapTarget : String
  persistentSwapOptions : List String
  persistentSwapDump : Nat
  persistentSwapPass : Nat
  destinationMount : String
  swapfilePath : String
  destinationFilesystem : String
  destinationAvailableBytes : Nat
  swapfileMode : Nat
  compileFeatureEnabled : Bool
  executionEnabled : Bool
  deriving DecidableEq

structure ProductionSwapReplacementExecutionPermit where
  schemaVersion : Nat
  permitId : String
  activationId : String
  consentReceiptId : String
  swapReplacementIntentId : String
  profile : ProductionSwapReplacementProfile
  target : String
  disk : String
  retiringSwapDevice : String
  retiringSwapBytes : Nat
  retiringSwapPriority : Int
  swapfilePath : String
  swapfileMode : Nat
  compileFeatureEnabled : Bool
  mutationEnabled : Bool
  processSpawned : Bool
  deriving DecidableEq

structure ProductionSwapRuntimePreflightReceipt where
  schemaVersion : Nat
  receiptId : String
  activationId : String
  executionPermitId : String
  consentReceiptId : String
  swapReplacementIntentId : String
  target : String
  retiringSwapDevice : String
  retiringSwapBytes : Nat
  retiringSwapPriority : Int
  destinationMount : String
  swapfilePath : String
  destinationAvailableBytes : Nat
  mkswap : TrustedToolIdentity
  swapon : TrustedToolIdentity
  swapoff : TrustedToolIdentity
  runtimeReady : Bool
  mutationEnabled : Bool
  processSpawned : Bool
  deriving DecidableEq

structure ProductionSwapfileCreationContract where
  path : String
  sizeBytes : Nat
  mode : Nat
  createNew : Bool
  noFollow : Bool
  fullyAllocate : Bool
  deriving DecidableEq

structure ProductionSwapRuntimeLaunchStage where
  program : PrivilegedProgram
  argv : List String
  executable : TrustedToolIdentity
  elf : ElfExecutionIdentity
  deriving DecidableEq

structure ProductionSwapRuntimeLaunchSpec where
  schemaVersion : Nat
  launchId : String
  activationId : String
  executionPermitId : String
  preflightReceiptId : String
  swapReplacementIntentId : String
  swapfile : ProductionSwapfileCreationContract
  mkswap : ProductionSwapRuntimeLaunchStage
  swapon : ProductionSwapRuntimeLaunchStage
  swapoff : ProductionSwapRuntimeLaunchStage
  fixedPath : String
  fixedLocale : String
  descriptorExecApi : String
  requireDualActiveVerificationBeforeSwapoff : Bool
  mutationEnabled : Bool
  processSpawned : Bool
  swapfileCreated : Bool
  deriving DecidableEq

instance : ToJson ProductionSwapfileCreationContract where
  toJson c := .obj [("path", toJson c.path), ("size_bytes", toJson c.sizeBytes),
    ("mode", toJson c.mode), ("create_new", toJson c.createNew), ("no_follow", toJson c.noFollow),
    ("fully_allocate", toJson c.fullyAllocate)]

instance : ToJson ProductionSwapRuntimeLaunchStage where
  toJson s := .obj [("program", toJson s.program), ("argv", toJson s.argv),
    ("executable", toJson s.executable), ("elf", toJson s.elf)]

section Integrity

variable [Fingerprint]

def ProductionSwapReplacementActivationIntent.expectedActivationId
    (a : ProductionSwapReplacementActivationIntent) : String :=
  fingerprint (.obj [("schema_version", toJson a.schemaVersion), ("profile", toJson a.profile),
    ("swap_replacement_intent_id", toJson a.swapReplacementIntentId), ("target", toJson a.target),
    ("disk", toJson a.disk), ("retiring_swap_device", toJson a.retiringSwapDevice),
    ("retiring_swap_bytes", toJson a.retiringSwapBytes),
    ("retiring_swap_priority", toJson a.retiringSwapPriority),
    ("persistent_swap_source", toJson a.persistentSwapSource),
    ("persistent_swap_target", toJson a.persistentSwapTarget),
    ("persistent_swap_options", toJson a.persistentSwapOptions),
    ("persistent_swap_dump", toJson a.persistentSwapDump),
    ("persistent_swap_pass", toJson a.persistentSwapPass),
    ("destination_mount", toJson a.destinationMount), ("swapfile_path", toJson a.swapfilePath),
    ("destination_filesystem", toJson a.destinationFilesystem),
    ("destination_available_bytes", toJson a.destinationAvailableBytes),
    ("swapfile_mode", toJson a.swapfileMode),
    ("compile_feature_enabled", toJson a.compileFeatureEnabled),
    ("execution_enabled", toJson a.executionEnabled)])

def ProductionSwapReplacementActivationIntent.integrityMatches
    (a : ProductionSwapReplacementActivationIntent) : Bool :=
  a.activationId == a.expectedActivationId

def ProductionSwapReplacementExecutionPermit.expectedPermitId
    (p : ProductionSwapReplacementExecutionPermit) : String :=
  fingerprint (.obj [("schema_version", toJson p.schemaVersion),
    ("activation_id", toJson p.activationId), ("consent_receipt_id", toJson p.consentReceiptId),
    ("swap_replacement_intent_id", toJson p.swapReplacementIntentId),
    ("profile", toJson p.profile), ("target", toJson p.target), ("disk", toJson p.disk),
    ("retiring_swap_device", toJson p.retiringSwapDevice),
    ("retiring_swap_bytes", toJson p.retiringSwapBytes),
    ("retiring_swap_priority", toJson p.retiringSwapPriority),
    ("swapfile_path", toJson p.swapfilePath), ("swapfile_mode", toJson p.swapfileMode),
    ("compile_feature_enabled", toJson p.compileFeatureEnabled),
    ("mutation_enabled", toJson p.mutationEnabled), ("process_spawned", toJson p.processSpawned)])

def ProductionSwapReplacementExecutionPermit.integrityMatches
    (p : ProductionSwapReplacementExecutionPermit) : Bool :=
  p.permitId == p.expectedPermitId

def ProductionSwapRuntimePreflightReceipt.expectedReceiptId
    (r : ProductionSwapRuntimePreflightReceipt) : String :=
  fingerprint (.obj [("schema_version", toJson r.schemaVersion),
    ("activation_id", toJson r.activationId),
    ("execution_permit_id", toJson r.executionPermitId),
    ("consent_receipt_id", toJson r.consentReceiptId),
    ("swap_replacement_intent_id", toJson r.swapReplacementIntentId), ("target", toJson r.target),
    ("retiring_swap_device", toJson r.retiringSwapDevice),
    ("retiring_swap_bytes", toJson r.retiringSwapBytes),
    ("retiring_swap_priority", toJson r.retiringSwapPriority),
    ("destination_mount", toJson r.destinationMount), ("swapfile_path", toJson r.swapfilePath),
    ("destination_available_bytes", toJson r.destinationAvailableBytes),
    ("mkswap", toJson r.mkswap), ("swapon", toJson r.swapon), ("swapoff", toJson r.swapoff),
    ("runtime_ready", toJson r.runtimeReady), ("mutation_enabled", toJson r.mutationEnabled),
    ("process_spawned", toJson r.processSpawned)])

def ProductionSwapRuntimePreflightReceipt.integrityMatches
    (r : ProductionSwapRuntimePreflightReceipt) : Bool :=
  r.receiptId == r.expectedReceiptId

def ProductionSwapRuntimeLaunchSpec.expectedLaunchId
    (l : ProductionSwapRuntimeLaunchSpec) : String :=
  fingerprint (.obj [("schema_version", toJson l.schemaVersion),
    ("activation_id", toJson l.activationId),
    ("execution_permit_id", toJson l.executionPermitId),
    ("preflight_receipt_id", toJson l.preflightReceiptId),
    ("swap_replacement_intent_id", toJson l.swapReplacementIntentId),
    ("swapfile", toJson l.swapfile), ("mkswap", toJson l.mkswap), ("swapon", toJson l.swapon),
    ("swapoff", toJson l.swapoff), ("fixed_path", toJson l.fixedPath),
    ("fixed_locale", toJson l.fixedLocale), ("descriptor_exec_api", toJson l.descriptorExecApi),
    ("require_dual_active_verification_before_swapoff",
      toJson l.requireDualActiveVerificationBeforeSwapoff),
    ("mutation_enabled", toJson l.mutationEnabled), ("process_spawned", toJson l.processSpawned),
    ("swapfile_created", toJson l.swapfileCreated)])

def ProductionSwapRuntimeLaunchSpec.integrityMatches
    (l : ProductionSwapRuntimeLaunchSpec) : Bool :=
  l.launchId == l.expectedLaunchId

end Integrity

end StorageManager.Executor.Swap
