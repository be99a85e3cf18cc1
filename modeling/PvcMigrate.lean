import PvcMigrate.Lib.Machine
import PvcMigrate.Workflow.Status
import PvcMigrate.Workflow.Planning
import PvcMigrate.Workflow.Resume
import PvcMigrate.Controller.BackupReconcile
import PvcMigrate.App.PodAbort
import PvcMigrate.Kube.Cluster
import PvcMigrate.Kube.Binding
import PvcMigrate.Kube.Offline
import PvcMigrate.Kube.Activation
import PvcMigrate.Kube.ActivationRecovery
import PvcMigrate.App.MigrationObject
import PvcMigrate.App.MigrationStorage
import PvcMigrate.App.ActivationResume
import PvcMigrate.Kube.Rollback
import PvcMigrate.Kube.RollbackRecovery
import PvcMigrate.App.RollbackResume
import PvcMigrate.App.MigrationExecutor
import PvcMigrate.Kube.SessionLease
import PvcMigrate.Workflow.Fingerprint
import PvcMigrate.Kube.PVCPolicy
import PvcMigrate.Lib.Observed
import PvcMigrate.App.FinalSync
import PvcMigrate.Copy.Attempts
import PvcMigrate.Lib.KeyedStore
import PvcMigrate.Lib.SlashPath
import PvcMigrate.ObjectStore.Config
import PvcMigrate.ObjectStore.RecoveryPoint
import PvcMigrate.Backup.Redaction
import PvcMigrate.Kube.LeaseFencing
import PvcMigrate.CrossCluster.Destination
import PvcMigrate.CrossCluster.Tracking
import PvcMigrate.CrossCluster.Reserve
import PvcMigrate.CrossCluster.Cleanup
import PvcMigrate.CrossCluster.Convergence
import PvcMigrate.CrossCluster.CleanupRuns
import PvcMigrate.App.OrphanPlan
import PvcMigrate.App.OrphanCleanup
import PvcMigrate.App.OrphanSafety
import PvcMigrate.Lib.Interleaving
import PvcMigrate.App.VolumeOwnership
import PvcMigrate.Kube.CopyHandoff
import PvcMigrate.Kube.CopyHandoffSafety
import PvcMigrate.Kube.CopyHandoffRecovery
import PvcMigrate.Backup.TransferLock
import PvcMigrate.Backup.TransferRuns
import PvcMigrate.Backup.RepositoryWorkflow
import PvcMigrate.Backup.BackupExecutor
import PvcMigrate.Backup.RepositorySafety
import PvcMigrate.Backup.RestoreExecutor
import PvcMigrate.Backup.ExecutorSafety
import PvcMigrate.Controller.PlanningBackoff
import PvcMigrate.CrossCluster.TransferScope
import PvcMigrate.Planner.ResourceFit
import PvcMigrate.Planner.NodeSelection
import PvcMigrate.Kube.Names
import PvcMigrate.Workflow.StatusBounds
import PvcMigrate.Lib.Json
import PvcMigrate.ObjectStore.InventoryDigest
