import StorageManager.Lib.Json

/-!
# Plan steps

The typed operations of a growth plan, in the order of their dependencies.
-/

namespace StorageManager.Planner

open Lib.Json (ToJson)

set_option autoImplicit false

inductive Reversibility where
  | notApplicable
  | reversible
  | irreversible
  deriving DecidableEq

inductive Operation where
  | revalidateSnapshot
  | backupLvmMetadata (vgUuid : String)
  | backupPartitionTableMetadata (disk tableLabel : String) (tableId : Option String)
  | extendPartition (partition : String) (startSector oldSizeSectors newSizeSectors : Nat)
      (sectorSizeBytes : Nat)
  | resizePhysicalVolume (pvUuid : String) (expectedPvSizeBytes : Nat)
  | extendLogicalVolume (lvUuid : String) (additionalExtents expectedLvSizeBytes : Nat)
  | growFilesystem (fsType : String) (mountpoint : Option String)
  | rediscoverAndVerify
  deriving DecidableEq

structure PlanStep where
  id : Nat
  dependsOn : List Nat
  operation : Operation
  reversibility : Reversibility
  deriving DecidableEq

instance : ToJson Reversibility where
  toJson
    | .notApplicable => .str "not_applicable"
    | .reversible => .str "reversible"
    | .irreversible => .str "irreversible"

end StorageManager.Planner
