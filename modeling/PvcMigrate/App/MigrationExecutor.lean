import PvcMigrate.App.ExecutorAction

/-!
# The final sync of a migration

`ClusterMigrationExecutor` and `MigrationExecutor` (`migration_executor_sync.go`) copy the volumes
of a migration once its destination storage is reserved and its source is offline.

The executions on behalf of a deletion are not part of this module: a workflow that is being
deleted is refused when its lock is taken.
-/

namespace PvcMigrate

open Kube Prog

namespace ClusterMigrationExecutor

/-! ## Final sync -/

def migrationFinalSyncPhase : WorkflowPhase → Bool
  | .reserved | .finalSyncing | .finalSynced => true
  | _ => false

def validateMigrationCopyRetry (reason : String) : Except Error Unit :=
  Check.refuse (reason = failureDestinationCapacityExhausted)
    ⟨.conflict, "migration final sync", "destination capacity was exhausted; abort and clean up " ++
      "this migration before creating one with larger storage"⟩

/-- The object with another sync status of a volume. -/
def withSync (object : ClusterMigration) (volume : VolumeSpec) (sync : MigrationSyncStatus) :
    ClusterMigration :=
  { object with
    volumes := amendCheckpoint object.volumes volume.sourcePVC.name fun status =>
      { status with sync := sync } }

variable (plan : ClusterMigrationPlan)

def validateReservedVolume (object : ClusterMigration)
    (volume : VolumeSpec) : Action ClusterMigration Unit := do
  let binding := object.bindings plan volume
  reject (volume.capacity = none)
    (newError .validation "reserve volume" "parse capacity", object)
  ask (.validateVolumeReservation binding.sourcePVC binding.sourcePV
    (object.checkpoint volume).reservation) object

def cleanupInterruptedFinalSync (object : ClusterMigration) : Action ClusterMigration Unit :=
  each (fun volume =>
    let sync := (object.checkpoint volume).sync
    if sync.attempts = 0 ∨ sync.finalCompletedAt ≠ none then pure ()
    else do
      let binding := object.bindings plan volume
      validateReservedVolume plan object volume
      ask (.cleanupCopy binding.sourcePVC sync.attempts) object
      ask (.cleanupCopyToolPods binding.sourcePVC binding.destinationPVC) object) plan.volumes

/-- What `finalSync` checks before it does anything. -/
def finalSyncPlan (object : ClusterMigration) (message : String) :
    Action ClusterMigration ClusterMigrationPlan :=
  match object.plan with
  | some plan =>
    if migrationFinalSyncPhase (workflowResumePhase object.status) = true then pure plan
    else fail (newError .precondition "migration final sync" message, object)
  | none => fail (newError .precondition "migration final sync" message, object)

variable (kind : MigrationKind)

/-- `ValidateFinalSync`, of either kind of migration. -/
def validateFinalSyncOf (object : ClusterMigration) : Action ClusterMigration Unit := do
  ensure (kind.validate object) object
  ensure (validateMigrationCopyRetry object.status.failureReason) object
  let plan ← finalSyncPlan object "migration must have reserved storage before final sync"
  ask (.validateFinalSyncSources plan.sourceNamespace) object
  each (fun volume => do
    let binding := object.bindings plan volume
    ask (.verifyVolumeShrinkUsage binding.sourcePVC binding.sourcePV) object
    validateReservedVolume plan object volume) plan.volumes
  check (verifyVolumesOfflineForSession object.name
    (plan.volumes.map (object.bindings plan))) object

/-- A final sync that is repeated copies every volume again. -/
def resetSync (object : ClusterMigration) : ClusterMigration :=
  if object.status.phase = .finalSynced then
    { object with
      volumes := object.volumes.map fun status =>
        { status with
          sync := { status.sync with finalCompletedAt := none, checksumVerified := false } } }
  else object

def copyError : Except Failure Unit → Except Failure Unit → Option Failure
  | .error e, _ | .ok _, .error e => some e
  | .ok _, .ok _ => none

variable (config : Config)

/-- The end of an attempt that failed: the error is saved, and decides whether to go on. -/
def afterCopyError (volume : VolumeSpec) (binding : PVCTransferBindings)
    (previousError : String) (last : Failure) (cleanup : Except Failure Unit)
    (object : ClusterMigration) : Action ClusterMigration ClusterMigration := do
  let sync := (object.checkpoint volume).sync
  let failed := withSync object volume { sync with lastError := failureText last }
  let object ← (persist failed failed).handle pure fun e => do
    -- the failure is kept if the operation was cancelled: it is saved with the workflow status
    if ← perform Call.cancelled then fail (last, failed)
    else fail (e.1, withSync object volume { sync with lastError := previousError })
  reject (config.isDestinationNoSpaceError last = true)
    (newError .conflict "copy capacity"
      (s!"destination PVC {binding.destinationPVC.ns}/{binding.destinationPVC.name} ran out of " ++
        "space; abort and clean up this session, then create a new session with a larger " ++
        "--destination-capacity"), object)
  match cleanup with
  | .error _ => fail (last, object)
  | .ok _ => pure object

/-- The loop of `copyWithRetry`, with `left` attempts left. -/
def copyAttempts (config : Config) (plan : ClusterMigrationPlan) (volume : VolumeSpec) :
    Nat → Option Failure → ClusterMigration → Action ClusterMigration ClusterMigration
  | 0, none, object => pure object
  | 0, some last, object => fail (last, object)
  | left + 1, _, object => do
    let binding := object.bindings plan volume
    validateReservedVolume plan object volume
    check (verifyOfflineBindings "" [binding] false) object
    let sync := (object.checkpoint volume).sync
    let object ← persist
      (withSync object volume { sync with attempts := sync.attempts + 1, lastError := "" }) object
    let copied ← perform (.service
      (.copy binding.sourcePVC binding.destinationPVC (sync.attempts + 1)))
    let cleanup ← perform (.service
      (.cleanupCopyToolPods binding.sourcePVC binding.destinationPVC))
    match copyError copied cleanup with
    | none => pure object
    | some last => do
      let object ← afterCopyError config volume binding sync.lastError last cleanup object
      if left ≠ 0 then ask (.sleep (config.retries - left - 1)) object
      copyAttempts config plan volume left (some last) object

def copyWithRetry (plan : ClusterMigrationPlan) (volume : VolumeSpec)
    (object : ClusterMigration) : Action ClusterMigration ClusterMigration := do
  let binding := object.bindings plan volume
  ask (.prepareTransfer binding.sourcePVC binding.destinationPVC) object
  copyAttempts config plan volume config.retries none object

def checkpointFinalCopy (volume : VolumeSpec)
    (object : ClusterMigration) : Action ClusterMigration ClusterMigration := do
  let time ← now
  let sync := (object.checkpoint volume).sync
  persist (withSync object volume { sync with
    finalCompletedAt := some time
    checksumVerified := plan.verifyChecksum
    lastError := "" }) object

/-- The body of the loop of `finalSync`. -/
def syncNext (plan : ClusterMigrationPlan) (object : ClusterMigration)
    (volume : VolumeSpec) : Action ClusterMigration ClusterMigration :=
  if (object.checkpoint volume).sync.finalCompletedAt ≠ none then pure object
  else do
    let object ← orFail config (copyWithRetry config plan volume object)
    checkpointFinalCopy plan volume object

/-- `finalSync`, of either kind of migration. -/
def finalSyncOf (object : ClusterMigration) : Action ClusterMigration ClusterMigration := do
  let plan ← finalSyncPlan object "migration phase cannot run final sync"
  ensure (validateMigrationCopyRetry object.status.failureReason) object
  cleanupInterruptedFinalSync plan object
  validateFinalSyncOf kind object
  ask (.finalSyncProbes plan.sourceNamespace) object
  let object ← (transition (resetSync object) .finalSyncing
    "running offline migration final sync").handle pure fun e => fail (e.1, object)
  let object ← fold (syncNext config plan) object plan.volumes
  transition object .finalSynced "offline migration final sync completed"

/-- `ClusterMigrationExecutor.finalSync`. -/
def finalSync : Config → ClusterMigration → Action ClusterMigration ClusterMigration :=
  finalSyncOf .clusterMigration

/-! ## Entry points -/

/-- An entry point of either kind: the object is validated, its lock is taken, and the step is
made. -/
def withStoredWorkflowLock (object : ClusterMigration)
    (body : Action ClusterMigration ClusterMigration) :
    Action ClusterMigration ClusterMigration := do
  ensure (kind.validate object) object
  reject object.deleting (newError .precondition "workflow"
    "workflow is being deleted; controller recovery owns execution", object)
  ask (.acquireSessionLock object.name) object
  ask (.requireWorkflowHandoffComplete object.name) object
  body

end ClusterMigrationExecutor

namespace MigrationExecutor

open ClusterMigrationExecutor

/-- `MigrationExecutor.finalSync`. -/
def finalSync : Config → ClusterMigration → Action ClusterMigration ClusterMigration :=
  finalSyncOf .migration

end MigrationExecutor

end PvcMigrate
