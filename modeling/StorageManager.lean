import StorageManager.Executor.JournalReload
import StorageManager.Planner.JournalLaws
import StorageManager.Executor.CreateCrossing
import StorageManager.Executor.SwapSuitable
import StorageManager.Executor.JournalBoundary
import StorageManager.Executor.RuntimeStores
import StorageManager.Executor.SessionExclusion
import StorageManager.Executor.PrivilegedEffect
import StorageManager.Executor.ApprovalChain
import StorageManager.Planner.AdvisoryCapacity
import StorageManager.Planner.PlanTools
import StorageManager.Planner.PlanPlacement
import StorageManager.Planner.CreateAllocation
import StorageManager.Executor.CreateObservation
import StorageManager.Executor.SwapRemovalLaws
import StorageManager.Executor.BackupManifestLaws
import StorageManager.Planner.SourceAgreement
import StorageManager.Planner.IdentityStability
import StorageManager.Planner.FilesystemReadiness
import StorageManager.Executor.NativeOrder
import StorageManager.Planner.AdvisoryRecords
import StorageManager.Planner.LayoutLaws
import StorageManager.Planner.VolumeConservation
import StorageManager.Planner.CreateIntent
import StorageManager.Planner.GptRecords
import StorageManager.Planner.GptTailIntent
import StorageManager.Discovery.Reconcile
import StorageManager.Executor.GptTailPreflight
import StorageManager.Planner.VolumeAgreement
import StorageManager.Executor.ArgvAgreement
import StorageManager.Executor.PrivilegedFrame
import StorageManager.Executor.AttemptHistory
import StorageManager.Executor.SessionAgreement
import StorageManager.Executor.FstabAgreement
import StorageManager.Discovery.TargetResolution
import StorageManager.Planner.RouteProfile
import StorageManager.Executor.SwapActivation
import StorageManager.Executor.DisposablePermit
import StorageManager.Executor.DisposableVerify
import StorageManager.Executor.PrivilegedExec
import StorageManager.Discovery.ReconcileAgreement
import StorageManager.Executor.BackupRoundTrip
import StorageManager.Executor.ProductionPrepared
import StorageManager.Planner.AdvisoryTotals
import StorageManager.Executor.CreateMountCrossing
import StorageManager.Executor.CreatePersistentCrossing
