import PvcMigrate.Lib.Check
import PvcMigrate.Lib.Observed
import PvcMigrate.Lib.Text
import PvcMigrate.Workflow.Status
import Mathlib.Data.Set.Basic

/-!
# Workflows on a backup repository

Backups and restores share their phases, the validation of their lifecycle
(`backup/backup_validation.go`), and the writers of their checkpoints (`backup/checkpoint.go`).  An
executor works on a copy of the stored object.  A save is accepted only if the copy still has the
stored resource version; a save that reports an error may have been carried out, and the executor
then goes back to what it had before, with the old resource version.

The workflow Lease lets one call of an executor run at a time, so the calls come one after the
other, each on the stored object or on a copy that is older; each may be cut off at any of its
steps.  A save takes effect when it is made, or never.  Of errors that are joined, the model has the
first.
-/

namespace PvcMigrate

namespace RepositoryWorkflow

open Check Prog

/-! ## The lifecycle -/

def repositoryError (message : String) : Error := ⟨.validation, "repository workflow", message⟩

def allowedPhase : WorkflowPhase → Bool
  | .planned | .warmCopying | .warmCopied | .completed | .aborting | .aborted | .failed => true
  | _ => false

/-- The phases from which a workflow goes on. -/
def recoverablePhase : WorkflowPhase → Bool
  | .planned | .warmCopying | .warmCopied | .aborting => true
  | _ => false

/-- `validateRepositoryStatus` of a lifecycle that has begun. -/
def validateBegunStatus (status : WorkflowStatus) (planned : Bool) : Except Error Unit := do
  refuse (allowedPhase status.phase = false ∨
      (status.resumeFrom ≠ .unset ∧ allowedPhase status.resumeFrom = false))
    (repositoryError "invalid lifecycle phase")
  refuse (status.phase = .aborting ∧ recoverablePhase status.resumeFrom = false)
    (repositoryError "aborting workflow requires a recoverable phase")
  refuse (status.phase = .failed ∧ recoverablePhase status.resumeFrom = false)
    (repositoryError "failed workflow requires a recoverable phase")
  let phase := workflowResumePhase status
  refuse (planned = false ∧ phase ≠ .planned ∧ phase ≠ .aborted ∧ phase ≠ .aborting)
    (repositoryError "execution requires a persisted plan")

def validateRepositoryStatus (status : WorkflowStatus) (planned : Bool) : Except Error Unit := do
  refuse (status.failureReason ≠ "")
    (repositoryError "transfer failure reasons do not belong to repository operations")
  onlyIf (¬ (status.phase = .unset ∧ status.resumeFrom = .unset ∧ planned = false))
    (validateBegunStatus status planned)

def normalizeDeletedRepositoryStatus (status : WorkflowStatus) : WorkflowStatus :=
  if status.phase = .failed ∧ status.resumeFrom = .unset then { status with resumeFrom := .planned }
  else status

def abortPending (status : WorkflowStatus) : Bool :=
  status.phase = .aborting || (status.phase = .failed && status.resumeFrom = .aborting)

/-! ## Objects -/

/-- What backups and restores share: a lifecycle, and the validation of the whole object. -/
class RepositoryObject (Ω : Type) where
  status : Ω → WorkflowStatus
  withStatus : Ω → WorkflowStatus → Ω
  /-- There is an execution plan. -/
  planned : Ω → Bool
  deleting : Ω → Bool
  /-- `validateBackupObject`, `validateRestoreObject`. -/
  validate : Ω → Except Error Unit
  /-- The part of it that reads the status only. -/
  validateStatus : Ω → Except Error Unit
  /-- The changes that others make to the stored object: to its spec, and to its deletion mark. -/
  Edited : Ω → Ω → Prop

export RepositoryObject (status withStatus planned deleting validate validateStatus)

/-- The executor's copy of the object, with its resource version. -/
structure Memory (Ω : Type) where
  object : Ω
  version : Nat

/-- `v1alpha1.ObjectReference`, with the resource version that was seen. -/
structure Reference where
  kind : String := ""
  ns : String := ""
  name : String := ""
  uid : String := ""
  resourceVersion : String := ""
  deriving DecidableEq

/-- `v1alpha1.LocalResourceReference`. -/
structure LocalReference where
  name : String
  uid : String
  deriving DecidableEq

/-- `v1alpha1.SharedMountStatus`. -/
structure SharedMount where
  sourcePV : LocalReference
  lvmVolume : Reference
  previousShared : String
  previousSharedSet : Bool
  deriving DecidableEq

/-- `v1alpha1.BackupRepositoryBindingStatus`; `s3` has the UID of the credentials Secret. -/
structure Binding where
  type : String
  uid : String
  generation : Int
  s3 : Option String
  deriving DecidableEq

/-! ## What is read -/

inductive ClaimPhase
  | unset
  | pending
  | bound
  | lost
  deriving DecidableEq

/-- A claim, with the session that its label and its annotation name. -/
structure Claim where
  ns : String
  name : String
  uid : String
  resourceVersion : String
  deleting : Bool
  phase : ClaimPhase
  volumeName : String
  sessionLabel : String
  sessionAnnotation : String

/-- `kube.PVCReference`. -/
def Claim.reference (pvc : Claim) : Reference :=
  ⟨"PersistentVolumeClaim", pvc.ns, pvc.name, pvc.uid, pvc.resourceVersion⟩

structure Volume where
  name : String
  uid : String
  resourceVersion : String
  deleting : Bool
  bound : Bool
  claimRef : Option Reference
  /-- Its CSI driver is that of OpenEBS LVM. -/
  openEBSLVM : Bool

/-- `kube.PVReference`. -/
def Volume.reference (pv : Volume) : Reference :=
  ⟨"PersistentVolume", "", pv.name, pv.uid, pv.resourceVersion⟩

/-- `PVCInfo`; `consumers` are the Pods that mount the claim. -/
structure PVCInfo where
  pvc : Claim
  pv : Volume
  consumers : List String

/-- `openEBSLVMVolume`; `shared` is `spec.shared`, and `session` the annotation. -/
structure LVMVolume where
  ns : String
  name : String
  uid : String
  resourceVersion : String
  shared : String
  sharedSet : Bool
  session : Option String

/-! ## Steps -/

/-- Steps of which only the success matters. -/
inductive Service
  | toolsStopped
  | cleanupProbePods
  | validateRestoreShared (mount : SharedMount)
  | enableShared (mount : SharedMount)
  | restoreShared (mount : SharedMount)
  /-- `validatePublishedBackup`. -/
  | validatePublished
  /-- The path, the image, and the admission of the tools. -/
  | validateTools
  /-- `validateBackupSharedSource` and `checkBackupQuota`. -/
  | validateSharedSource
  /-- `readRestoreManifest`. -/
  | readRestoreManifest
  /-- Consumers, capacity and node of a destination. -/
  | validatePlacement
  | validateCreationAdmission
  | validateStorageClass
  /-- `validateRestoreCreatedPVC`. -/
  | validateCreatedPVC
  /-- The probe that makes a claim bind, and the wait for it. -/
  | bindCreatedPVC
  | validateOwnedCleanup
  | cleanupOwned
  | deleteDestination (ref : Reference)
  | finalizePVC (ref : Reference)
  | deleteLock
  | deleteRecord

/-- How the acquisition of the workflow Lease ends. -/
inductive Acquisition
  | acquired
  /-- The namespace of the Lease is being terminated. -/
  | terminating (e : Error)
  | failed (e : Error)

/-- The steps of an executor. -/
inductive Op (Ω : Type)
  /-- `store.Save`. -/
  | save (memory : Memory Ω)
  /-- `store.Load`. -/
  | load
  /-- `StaleWorkflowWrite`. -/
  | staleWrite (e : Error)
  | acquire
  | now
  /-- `errors.Join(ctx.Err(), LeaseFenceError(ctx))`. -/
  | contextErr
  /-- `LeaseFenceError(ctx)`. -/
  | leaseFence
  /-- `errors.Is(ctx.Err(), context.Canceled)`. -/
  | canceled
  | service (s : Service)
  | resolveRepository
  /-- The session that the completion manifest names, if there is a manifest. -/
  | manifestSession
  /-- `inspectBoundPVC`. -/
  | inspect (ns name : String)
  /-- `openEBSLVMSharedVolumeManager.volume` of a volume. -/
  | lvmVolume (pv : LocalReference)
  /-- `manager.Shared` for this session. -/
  | shared (mount : SharedMount)
  /-- `transfer.run`: a tool is run, and a backup publishes its manifest. -/
  | transfer
  | getClaim (ns name : String)
  /-- `Create` of the destination; no claim if there is one already. -/
  | createClaim (ns name : String)
  | getVolume (name : String)

abbrev Reply {Ω : Type} : Op Ω → Type
  | .save _ => Except Error Nat
  | .load => Except Error (Memory Ω)
  | .staleWrite _ => Bool
  | .acquire => Acquisition
  | .now => Time
  | .contextErr | .leaseFence => Option Error
  | .canceled => Bool
  | .service _ => Option Error
  | .resolveRepository => Except Error (Option Binding)
  | .manifestSession => Except Error (Option String)
  | .inspect _ _ => Except Error PVCInfo
  | .lvmVolume _ => Except Error LVMVolume
  | .shared _ => Except Error Bool
  | .transfer => Option Error
  | .getClaim _ _ | .createClaim _ _ => Except Error (Option Claim)
  | .getVolume _ => Except Error Volume

/-- An error leaves the executor with what it has in memory. -/
abbrev Action (Ω : Type) := Prog (Op Ω) Reply (Error × Memory Ω)

variable {Ω : Type}

namespace Memory

/-- Another object in memory, at the same resource version. -/
def set (m : Memory Ω) (object : Ω) : Memory Ω := { m with object := object }

def status [RepositoryObject Ω] (m : Memory Ω) : WorkflowStatus :=
  RepositoryWorkflow.status m.object

def setStatus [RepositoryObject Ω] (m : Memory Ω) (s : WorkflowStatus) : Memory Ω :=
  m.set (withStatus m.object s)

end Memory

def ask (op : Op Ω) : Action Ω (Reply op) := perform op

def now : Action Ω Time := ask .now

variable (m : Memory Ω)

def report : Option Error → Action Ω Unit
  | some e => fail (e, m)
  | none => pure ()

def orFail {α : Type} : Except Error α → Action Ω α
  | .error e => fail (e, m)
  | .ok a => pure a

def contextErr : Action Ω Unit := do
  let e ← (ask .contextErr : Action Ω (Option Error))
  report m e

def leaseFence : Action Ω Unit := do
  let e ← (ask .leaseFence : Action Ω (Option Error))
  report m e

def service (s : Service) (m : Memory Ω) : Action Ω Unit := do
  let e ← (ask (.service s) : Action Ω (Option Error))
  report m e

def getClaim (ns name : String) (m : Memory Ω) : Action Ω (Option Claim) := do
  let claim ← (ask (.getClaim ns name) : Action Ω (Except Error (Option Claim)))
  orFail m claim

/-- A step that is made only under a condition. -/
def onlyWhen (c : Prop) [Decidable c] (x : Action Ω Unit) : Action Ω Unit :=
  if c then x else pure ()

/-- `save`: on an error the executor keeps `previous`. -/
def save (next previous : Memory Ω) : Action Ω (Memory Ω) := do
  contextErr previous
  let saved ← (ask (.save next) : Action Ω (Except Error Nat))
  let version ← orFail previous saved
  pure { next with version := version }

/-! ## Checkpoints -/

variable [RepositoryObject Ω]

def checkpointRepositoryPhase (phase : WorkflowPhase) (message : String) : Action Ω (Memory Ω) := do
  contextErr m
  let time ← now
  let next ← orFail m (transitionRepository m.status phase message time)
  let m' ← save (m.setStatus { next with message := boundWorkflowMessage message }) m
  leaseFence m'
  pure m'

/-- A lifecycle that has not failed yet fails now. -/
def enterFailed (status : WorkflowStatus) (cause : Error) (time : Time) :
    Except Error WorkflowStatus :=
  if status.phase = .failed then .ok status
  else transitionRepository status .failed cause.error time

/-- The lifecycle that `checkpointRepositoryFailure` writes. -/
def failedStatus (status : WorkflowStatus) (cause : Error) (time : Time) :
    Except Error WorkflowStatus := do
  let next ← enterFailed status cause time
  pure { next with
    message := boundWorkflowMessage cause.error
    errorCategory := some cause.category }

def checkpointRepositoryFailure (cause : Error) : Action Ω (Memory Ω) := do
  contextErr m
  let time ← now
  let next ← orFail m (failedStatus m.status cause time)
  let m' ← save (m.setStatus next) m
  leaseFence m'
  pure m'

variable (message : String)

/-- `ReactivateWorkflow` of a failed workflow, and its checkpoint. -/
def reactivate : Action Ω (Memory Ω) :=
  if m.status.phase ≠ .failed then pure m
  else do
    let time ← now
    let next ← orFail m (reactivateWorkflow m.status message time)
    save (m.setStatus next) m

def abortUnplanned : Action Ω (Memory Ω) := do
  let time ← now
  save (m.setStatus (recordWorkflowTransition m.status .aborted message time)) m

/-- A checkpoint that is made in one phase only. -/
def checkpointFrom (current next : WorkflowPhase) (message : String) : Action Ω (Memory Ω) :=
  if m.status.phase = current then checkpointRepositoryPhase m next message else pure m

/-- The tools of a workflow that has a plan are stopped. -/
def toolsStopped : Action Ω Unit :=
  onlyWhen (planned m.object = true) (service .toolsStopped m)

/-- The abort of a workflow that is deleted before its end. -/
def abortUnfinished (abort : Memory Ω → Action Ω (Memory Ω)) (m : Memory Ω) :
    Action Ω (Memory Ω) :=
  if m.status.phase ≠ .completed ∧ m.status.phase ≠ .aborted then abort m else pure m

def deleteSession : Action Ω (Memory Ω) := do
  contextErr m
  service .deleteLock m
  service .deleteRecord m
  pure m

/-- What a failed run leaves: the failure is stored, unless the run was cancelled. -/
def recordOutcome : Option Error → Action Ω (Memory Ω)
  | none => pure m
  | some e => do
    let canceled ← (ask .canceled : Action Ω Bool)
    reject (canceled = true) (e, m)
    leaseFence m
    (checkpointRepositoryFailure m e).handle (fun m' => fail (e, m')) fun failed =>
      fail (e, failed.2)

/-! ## The binding to a repository -/

def bindingConflict : Error :=
  ⟨.conflict, "backup repository", message ++ "; create a new workflow"⟩

def bindingError : Error := ⟨.precondition, "backup repository", message⟩

def backupRepositoryTypeS3 : String := "s3"

def validateRepositoryBinding (binding : Binding) : Except Error Unit := do
  refuse (binding.type ≠ backupRepositoryTypeS3)
    (bindingError s!"resolved repository backend {Text.quote binding.type.toList} is unsupported")
  refuse (binding.s3 = none ∨ binding.s3 = some "")
    (bindingError "resolved S3 repository requires a credentials Secret UID")

/-- `validateRepositoryMatch`, of a binding that is there. -/
def validateBindingMatch (requested : Binding) (current : Option Binding) : Except Error Unit := do
  refuse (requested.type = "" ∨ requested.uid = "" ∨ requested.generation ≤ 0)
    (bindingError "resolved BackupRepository type, UID, and generation are required")
  validateRepositoryBinding requested
  match current with
  | none => pure ()
  | some current => do
    refuse (current.type ≠ requested.type)
      (bindingConflict "BackupRepository backend changed while the workflow was running")
    refuse (current.uid ≠ requested.uid)
      (bindingConflict "BackupRepository was replaced while the workflow was running")
    refuse (current.generation ≠ requested.generation)
      (bindingConflict "BackupRepository changed while the workflow was running")
    refuse (current.s3 = none ∨ current.s3 ≠ requested.s3)
      (bindingConflict
        "BackupRepository credentials Secret was replaced while the workflow was running")

def validateRepositoryMatch (requested current : Option Binding) : Except Error Binding :=
  match requested with
  | none => .error (bindingError "resolved BackupRepository type, UID, and generation are required")
  | some requested => do
    validateBindingMatch requested current
    pure requested

/-- `PinRepository`: `pin` stores the binding in the object. -/
def pinRepository (requested current : Option Binding) (pin : Ω → Binding → Ω) :
    Action Ω (Memory Ω) := do
  contextErr m
  let binding ← orFail m (validateRepositoryMatch requested current)
  if current = none then do
    let m' ← save (m.set (pin m.object binding)) m
    leaseFence m'
    pure m'
  else pure m

/-! ## Stale writes, and the Lease -/

/-- `RetryStaleWorkflowWrite`: a pass whose write was stale is run again on the object as it is
stored, at most `retries` times. -/
def retryStaleWorkflowWrite (run : Memory Ω → Action Ω (Memory Ω)) :
    Nat → Memory Ω → Action Ω (Memory Ω)
  | 0, m => run m
  | retries + 1, m =>
    (run m).handle pure fun failed => do
      let stale ← (ask (.staleWrite failed.1) : Action Ω Bool)
      reject (stale = false) failed
      let loaded ← (ask .load : Action Ω (Except Error (Memory Ω)))
      let fresh ← orFail failed.2 loaded
      retryStaleWorkflowWrite run retries fresh

def leaseError (category : ErrorCategory) (message : String) : Error :=
  ⟨category, "workflow", message⟩

variable (allowDeleting : Bool)

/-- The part of `WithWorkflowLease` under the Lease: the object is still the stored one. -/
def underLease (run : Memory Ω → Action Ω (Memory Ω)) : Action Ω (Memory Ω) := do
  let loaded ← (ask .load : Action Ω (Except Error (Memory Ω)))
  let latest ← orFail m loaded
  reject (latest.version ≠ m.version) (leaseError .conflict
    "workflow changed while acquiring its lock; reload before retrying", m)
  reject (deleting latest.object = true ∧ allowDeleting = false)
    (leaseError .precondition "workflow is being deleted", m)
  contextErr m
  run m

/-- The part of `WithWorkflowLease` in a namespace that is being terminated. -/
def withoutLease (e : Error) (run : Memory Ω → Action Ω (Memory Ω)) : Action Ω (Memory Ω) := do
  reject (¬ (allowDeleting = true ∧ deleting m.object = true)) (e, m)
  let m' ← run m
  service .deleteRecord m'
  pure m'

def withWorkflowLease (run : Memory Ω → Action Ω (Memory Ω)) : Action Ω (Memory Ω) := do
  reject (deleting m.object = true ∧ allowDeleting = false) (leaseError .precondition
    "workflow is being deleted; controller recovery owns execution", m)
  let acquisition ← (ask .acquire : Action Ω Acquisition)
  match acquisition with
  | .failed e => fail (e, m)
  | .terminating e => withoutLease m allowDeleting e run
  | .acquired => underLease m allowDeleting run

/-! ## What is stored -/

/-- What an observer of the workflow sees. -/
inductive Event (Ω : Type)
  /-- An object is handed to `Save`. -/
  | handed (object : Ω)
  /-- An object is stored. -/
  | persisted (object : Ω)
  | transferred

/-- The stored object, its resource version, and the events so far, the newest first. -/
structure World (Ω : Type) where
  stored : Ω
  version : Nat
  log : List (Event Ω)

namespace World

variable (w : World Ω)

def memory : Memory Ω := ⟨w.stored, w.version⟩

def hand (object : Ω) : World Ω := { w with log := .handed object :: w.log }

/-- The object is stored under a new resource version. -/
def store (object : Ω) : World Ω :=
  { stored := object, version := w.version + 1, log := .persisted object :: w.log }

def transferred : World Ω := { w with log := .transferred :: w.log }

/-- What others do: they edit the stored object, which gets a new resource version. -/
inductive Disturbed : World Ω → Prop
  | refl : Disturbed w
  | edited {object : Ω} {version : Nat} : RepositoryObject.Edited w.stored object →
      w.version < version → Disturbed { w with stored := object, version := version }

end World

/-- What a read may answer: an object of the name that was asked for, and an LVM volume whose name
is the handle of the volume, which is not empty. -/
def Answers : (op : Op Ω) → Reply op → Prop
  | .getClaim ns name, r => ∀ claim, r = .ok (some claim) → claim.ns = ns ∧ claim.name = name
  | .getVolume name, r => ∀ volume, r = .ok volume → volume.name = name
  | .inspect ns name, r => ∀ info, r = .ok info → info.pvc.ns = ns ∧ info.pvc.name = name
  | .lvmVolume _, r => ∀ volume, r = .ok volume → volume.name ≠ ""
  | _, _ => True

/-- What a step of the executor does. -/
inductive Performed (w : World Ω) : (op : Op Ω) → Reply op → World Ω → Prop
  | saved {m : Memory Ω} : m.version = w.version →
      Performed w (.save m) (.ok (w.version + 1)) ((w.hand m.object).store m.object)
  /-- The error of a save that was carried out. -/
  | savedUnseen {m : Memory Ω} {e : Error} : m.version = w.version →
      Performed w (.save m) (.error e) ((w.hand m.object).store m.object)
  | refused {m : Memory Ω} {e : Error} : Performed w (.save m) (.error e) (w.hand m.object)
  | loaded : Performed w .load (.ok w.memory) w
  | notLoaded {e : Error} : Performed w .load (.error e) w
  | transferred {failed : Option Error} : Performed w .transfer failed w.transferred
  | read {op : Op Ω} {r : Reply op} : (∀ m, op ≠ .save m) → op ≠ .load → op ≠ .transfer →
      Answers op r → Performed w op r w

def Observed (w : World Ω) (op : Op Ω) (r : Reply op) (w' : World Ω) : Prop :=
  ∃ disturbed, w.Disturbed disturbed ∧ Performed disturbed op r w'

/-- What a backup executor and a restore executor do under the Lease. -/
structure Executor (Ω κ : Type) where
  /-- the name of its workflows, for texts -/
  workflow : String
  run : Memory Ω → Action Ω (Memory Ω)
  abort : Memory Ω → Action Ω (Memory Ω)
  cleanup : κ → Memory Ω → Action Ω (Memory Ω)
  /-- the options of the cleanup after a deletion -/
  deleted : κ

inductive ExecutorCall (κ : Type)
  | run
  | abort
  | requestResume
  | cleanup (options : κ)
  | finalizeDeleted

/-- What a call does, from the object that it is given. -/
def Executor.program {κ : Type} (executor : Executor Ω κ) :
    ExecutorCall κ → Memory Ω → Action Ω (Memory Ω)
  | .run, m => do
    orFail m (validate m.object)
    withWorkflowLease m false executor.run
  | .abort, m => do
    orFail m (validate m.object)
    withWorkflowLease m false executor.abort
  | .requestResume, m => do
    orFail m (validate m.object)
    withWorkflowLease m false fun m => reactivate m s!"{executor.workflow} resume requested"
  | .cleanup options, m => do
    orFail m (validate m.object)
    withWorkflowLease m false (retryStaleWorkflowWrite (executor.cleanup options) 2)
  | .finalizeDeleted, m => do
    reject (deleting m.object = false)
      (⟨.precondition, s!"finalize {executor.workflow}", "workflow deletion is required"⟩, m)
    let m := m.setStatus (normalizeDeletedRepositoryStatus m.status)
    orFail m (validate m.object)
    withWorkflowLease m true fun m =>
      abortUnfinished executor.abort m >>= executor.cleanup executor.deleted

/-- A copy that was read at some time: with the stored resource version it is the stored object,
with an older one it may say anything. -/
structure Known (m : Memory Ω) (w : World Ω) : Prop where
  seen : m.version ≤ w.version
  same : m.version = w.version → m.object = w.stored

/-- The worlds that are reached from an object by calls of an executor, one after the other, each
cut off anywhere, and by what others do. -/
inductive Reached (calls : Set (Memory Ω → Action Ω (Memory Ω))) (start : Ω) : World Ω → Prop
  | start {version : Nat} : Reached calls start ⟨start, version, [.persisted start]⟩
  | disturbed {w w' : World Ω} : Reached calls start w → w.Disturbed w' → Reached calls start w'
  | called {w w' : World Ω} {call : Memory Ω → Action Ω (Memory Ω)} {m : Memory Ω}
      {result : Option (Except (Error × Memory Ω) (Memory Ω))} :
      Reached calls start w → call ∈ calls → Known m w → (call m).Runs Observed w w' result →
      Reached calls start w'

end RepositoryWorkflow

end PvcMigrate
