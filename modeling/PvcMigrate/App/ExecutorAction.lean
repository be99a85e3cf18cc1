import PvcMigrate.App.RollbackResume
import PvcMigrate.Lib.Prog

/-!
# Actions of the executor of a ClusterMigration

`ClusterMigrationExecutor` works on one object in memory and saves it after every change.  Any call
it makes can fail.  The object in memory then is what the caller goes on with: it usually records
the failure in it and saves it once more.  An error therefore carries the object as it is in memory
at that moment.  A save that is refused leaves the fields that were to be saved as they were.
-/

namespace PvcMigrate

open Kube Prog

namespace ClusterMigrationExecutor

/-! ## Calls -/

/-- The services that answer with success or an error, and from which the executor learns nothing
else.  Taking the lock of the session includes the comparison with the object in the store. -/
inductive Service
  | acquireSessionLock (id : String)
  | requireWorkflowHandoffComplete (id : String)
  | probeToolImage (ns : String)
  | requireNamespace (ns : String)
  | verifyVolumeShrinkUsage (sourcePVC sourcePV : ObjectReference)
  | validateVolumeReservation (sourcePVC sourcePV : ObjectReference)
      (checkpoint : ClusterVolumeReservationStatus)
  | verifySourceIdentity (sourcePVC sourcePV : ObjectReference)
  | validateDestinationPlacement (destinationPVC : ObjectReference)
  | acquirePVC (claim : ObjectReference)
  | retainPV (pv : ObjectReference) (role : String)
  | provisionOnTarget (destinationPVC : ObjectReference)
  | cleanupReservationPod (destinationPVC : ObjectReference)
  | validateDestinationPVNode (pv : String)
  | validateFinalSyncSources (ns : String)
  | finalSyncProbes (ns : String)
  | prepareTransfer (source destination : ObjectReference)
  | copy (source destination : ObjectReference) (attempt : Int)
  | cleanupCopy (source : ObjectReference) (attempt : Int)
  | cleanupCopyToolPods (source destination : ObjectReference)
  | sleep (retryIndex : Nat)
  | rollbackDestinationConsumed (ns pvcName : String)

inductive Call
  /-- a call to the API or, for `Op.save`, to the store -/
  | api (op : Op ClusterMigration)
  | service (service : Service)
  | now
  /-- whether the context of the operation is cancelled -/
  | cancelled
  /-- whether the lease of the session is still held -/
  | leaseFence

@[reducible] def Call.Reply : Call → Type
  | api op => Except Failure op.Reply
  | service _ => Except Failure Unit
  | now => Time
  | cancelled => Bool
  | leaseFence => Except Failure Unit

/-- A program of the executor.  An error carries what is in memory when it is returned. -/
abbrev Action (μ α : Type) := Prog Call Call.Reply (Failure × μ) α

variable {μ α : Type}

/-- Go on with the answer of a call, or return its error. -/
def answer (memory : μ) : Except Failure α → Action μ α
  | .ok a => pure a
  | .error e => fail (e, memory)

def ask (service : Service) (memory : μ) : Action μ Unit :=
  perform (.service service) >>= answer memory

def api (op : Op ClusterMigration) (memory : μ) : Action μ op.Reply :=
  perform (.api op) >>= answer memory

def now : Action μ Time := perform Call.now

def ensure (check : Except Error Unit) (memory : μ) : Action μ Unit :=
  match check with
  | .ok () => pure ()
  | .error e => fail (.domain e, memory)

/-- Run a program of the switcher, each of whose calls may fail.  `written` says what a call that
succeeds puts into memory. -/
def embed (written : Op ClusterMigration → μ → μ) :
    Switch ClusterMigration α → μ → Action μ (α × μ)
  | .ret a, memory => pure (a, memory)
  | .fail e, memory => fail (e, memory)
  | .call op next, memory =>
    api op memory >>= fun r => embed written (next r) (written op memory)

def check (p : Switch ClusterMigration α) (memory : μ) : Action μ α :=
  embed (fun _ m => m) p memory >>= fun r => pure r.1

/-- `persistCheckpoint`: save the object `next`; on an error `previous` is in memory. -/
def persist (next previous : ClusterMigration) : Action ClusterMigration ClusterMigration :=
  api (.save next) previous >>= fun _ => pure next

/-! ## Settings -/

/-- The settings of the executor that its control flow depends on. -/
structure Config where
  /-- whether there is a tool image prober -/
  toolImageProber : Bool
  targetNode : String
  /-- the copy attempts of one run -/
  retries : Nat
  policies : AdmissionPolicies
  /-- `isDestinationNoSpaceError` -/
  isDestinationNoSpaceError : Failure → Bool

def failureText : Failure → String
  | .domain e => e.error
  | .api .notFound => "not found"
  | .api .alreadyExists => "already exists"
  | .api .conflict => "conflict"
  | .waiting description => "timed out waiting for " ++ description

/-! ## Phases -/

/-- The edges of `validateMigrationTransition`. -/
def migrationEdges : WorkflowPhase → List WorkflowPhase
  | .unset => [.aborted]
  | .planned => [.reserving, .aborting, .aborted]
  | .reserving => [.reserved, .aborting]
  | .reserved => [.finalSyncing, .aborting]
  | .finalSyncing => [.finalSynced, .aborting]
  | .finalSynced => [.finalSyncing, .activating, .rollingBack, .aborting]
  | .activating => [.activated, .rollingBack]
  | .activated => [.resuming, .completed, .rollingBack]
  | .resuming => [.completed, .rollingBack]
  | .completed => [.rollingBack]
  | .rollingBack => [.rolledBack]
  | .aborting => [.aborted]
  | _ => []

def validateMigrationTransition (current next : WorkflowPhase) : Except Error Unit :=
  Check.refuse (¬ ((current = next ∨ next = .failed) ∧ migrationPhase current = true ∨
      next ∈ migrationEdges current))
    ⟨.precondition, "migration", s!"cannot transition from {current.text} to {next.text}"⟩

variable (status : WorkflowStatus)

/-- The status that `transition` records. -/
def transitioned (next : WorkflowPhase) (message : String) (now : Time) : WorkflowStatus :=
  recordWorkflowTransition
    { status with startedAt := if status.startedAt.isZero then now else status.startedAt }
    next message now

def withStatus (object : ClusterMigration) (status : WorkflowStatus) : ClusterMigration :=
  { object with status := status }

/-- `ClusterMigrationExecutor.transition`. -/
def transition (object : ClusterMigration) (next : WorkflowPhase) (message : String) :
    Action ClusterMigration ClusterMigration := do
  ensure (validateMigrationTransition (workflowResumePhase object.status) next) object
  let time ← now
  persist (withStatus object (transitioned object.status next message time)) object

variable (config : Config) (cause : Failure)

def failureReason : String :=
  if config.isDestinationNoSpaceError cause then failureDestinationCapacityExhausted else ""

def blamed (reason : String) : WorkflowStatus :=
  { status with errorCategory := some cause.category, failureReason := reason }

/-- The status after a cancelled operation, which another worker may take up. -/
def interrupted (time : Time) : WorkflowStatus :=
  { status with
    errorCategory := some cause.category
    failureReason := ""
    message := boundWorkflowMessage (failureText cause)
    updatedAt := time }

/-- `ClusterMigrationExecutor.fail`, with `recordWorkflowFailure`: record the failure and return
it. -/
def recordFailure (object : ClusterMigration) :
    Action ClusterMigration α := do
  let reason := if workflowResumePhase object.status = .finalSyncing then
    failureReason config cause else ""
  match ← perform Call.leaseFence with
  | .error _ => fail (cause, object)
  | .ok _ =>
    if ← perform Call.cancelled then do
      let time ← now
      (persist (withStatus object (interrupted object.status cause time)) object).handle
        (fun recorded => fail (cause, recorded)) (fun _ => fail (cause, object))
    else
      (transition (withStatus object (blamed object.status cause reason)) .failed
          (failureText cause)).handle
        (fun recorded => fail (cause, recorded)) (fun _ => fail (cause, object))

def orFail (p : Action ClusterMigration α) : Action ClusterMigration α :=
  p.handle pure fun e => recordFailure config e.1 e.2

end ClusterMigrationExecutor

end PvcMigrate
