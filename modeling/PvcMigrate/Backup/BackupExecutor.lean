import PvcMigrate.Backup.RepositoryWorkflow

/-!
# The executor of backups

`backup/backup_executor.go` and `backup/backup_lifecycle.go`.  A run pins the repository, finishes a
recovery point that is published already, or prepares the source, transfers it, and completes.  A
deferred step gives back the shared mounts and stores the failure of the run.  `abort` goes through
`Aborting` to `Aborted`, and a run of a workflow whose abort is pending is an abort.
-/

namespace PvcMigrate

namespace RepositoryWorkflow

open Check Prog

/-! ## The object -/

/-- `v1alpha1.BackupSpec`. -/
structure BackupSpec where
  sourcePVC : LocalReference
  sourcePV : Option LocalReference := none
  path : String := ""
  name : String
  repositoryRef : String
  online : Bool := false
  toolNetworkPolicy : String := ""
  openEBSLVMEnableShared : Bool := false
  deriving DecidableEq

/-- `v1alpha1.BackupPlan`. -/
structure BackupPlan where
  sourcePVC : LocalReference
  sourcePV : LocalReference
  path : String := ""
  name : String
  repositoryRef : String
  online : Bool := false
  toolNetworkPolicy : String := ""
  openEBSLVMEnableShared : Bool := false
  deriving DecidableEq

/-- `v1alpha1.Backup`. -/
structure BackupObject where
  ns : String
  name : String
  deleting : Bool := false
  generation : Int := 1
  spec : BackupSpec
  plan : Option BackupPlan := none
  lifecycle : WorkflowStatus := {}
  repository : Option Binding := none
  mounts : List SharedMount := []
  deriving DecidableEq

def backupError (category : ErrorCategory) (message : String) : Error :=
  ⟨category, "backup", message⟩

/-- `validateBackupSpecPlan`, of an object with a plan. -/
def validateBackupPlanned (spec : BackupSpec) (plan : BackupPlan) : Except Error Unit := do
  refuse (plan.sourcePVC.name ≠ spec.sourcePVC.name ∨
      (spec.sourcePVC.uid ≠ "" ∧ spec.sourcePVC.uid ≠ plan.sourcePVC.uid) ∨
      plan.repositoryRef ≠ spec.repositoryRef ∨ plan.name ≠ spec.name ∨ plan.path ≠ spec.path ∨
      plan.online ≠ spec.online ∨ plan.toolNetworkPolicy ≠ spec.toolNetworkPolicy ∨
      plan.openEBSLVMEnableShared ≠ spec.openEBSLVMEnableShared)
    (backupError .conflict "execution plan differs from the requested backup")
  match spec.sourcePV with
  | none => pure ()
  | some requested =>
    refuse (requested.name ≠ plan.sourcePV.name ∨
        (requested.uid ≠ "" ∧ requested.uid ≠ plan.sourcePV.uid))
      (backupError .conflict "planned source PV differs from the requested identity")

def validateBackupSpecPlan (spec : BackupSpec) (plan : Option BackupPlan) : Except Error Unit := do
  refuse (spec.sourcePVC.name = "" ∨ spec.repositoryRef = "" ∨ spec.name = "" ∨
      (spec.openEBSLVMEnableShared = true ∧ spec.online = false))
    (backupError .validation <| "source PVC, repository and backup name are required; " ++
      "shared mounts require online backup")
  match plan with
  | none => pure ()
  | some plan => validateBackupPlanned spec plan

variable (object : BackupObject)

/-- The checks of `validateBackupObject` on a name and a spec. -/
def validateBackupIntent : Except Error Unit := do
  refuse (object.name = "" ∨ object.ns = "")
    (backupError .validation "workflow name and namespace are required")
  onlyIf (object.deleting = false) do
    refuse (object.lifecycle.observedGeneration ≠ 0 ∧
        object.lifecycle.observedGeneration ≠ object.generation)
      (backupError .conflict "workflow spec changed after planning")
    validateBackupSpecPlan object.spec object.plan

/-- A shared mount is that of the planned source. -/
def MountMatches (plan : BackupPlan) (mount : SharedMount) : Prop :=
  mount.sourcePV.name = plan.sourcePV.name ∧ mount.sourcePV.uid = plan.sourcePV.uid ∧
    mount.lvmVolume.name ≠ "" ∧ mount.lvmVolume.uid ≠ ""

instance (plan : BackupPlan) (mount : SharedMount) : Decidable (MountMatches plan mount) :=
  inferInstanceAs (Decidable (_ ∧ _))

/-- The checks of `validateBackupObject` on the checkpoints. -/
def validateBackupCheckpoints : Except Error Unit :=
  match object.plan with
  | none =>
    refuse (object.repository ≠ none ∨ object.mounts ≠ [])
      (backupError .validation "resource checkpoints require an execution plan")
  | some plan => do
    refuse (plan.sourcePVC.name = "" ∨ plan.sourcePVC.uid = "" ∨ plan.sourcePV.name = "" ∨
        plan.sourcePV.uid = "" ∨ plan.name = "" ∨ plan.repositoryRef = "")
      (backupError .validation "execution plan requires source identities and repository location")
    object.mounts.forM fun mount => refuse (¬ MountMatches plan mount)
      (backupError .validation "shared mount checkpoint differs from the planned source")

/-- The checks of `validateBackupObject` on the status. -/
def validateBackupStatus : Except Error Unit := do
  validateRepositoryStatus object.lifecycle object.plan.isSome
  validateBackupCheckpoints object

def validateBackupObject : Except Error Unit := do
  validateBackupIntent object
  validateBackupStatus object

/-- Others change the spec and the deletion mark; the name and the status stay. -/
structure BackupEdited (o o' : BackupObject) : Prop where
  ns : o'.ns = o.ns
  name : o'.name = o.name
  plan : o'.plan = o.plan
  lifecycle : o'.lifecycle = o.lifecycle
  repository : o'.repository = o.repository
  mounts : o'.mounts = o.mounts

instance : RepositoryObject BackupObject where
  status := BackupObject.lifecycle
  withStatus o s := { o with lifecycle := s }
  planned o := o.plan.isSome
  deleting := BackupObject.deleting
  validate := validateBackupObject
  validateStatus := validateBackupStatus
  Edited := BackupEdited

/-- `BackupExecutorConfig`, as far as it decides what is called. -/
structure BackupConfig where
  sharedVolumeManager : Bool
  repositoryResources : Bool

structure BackupCleanupOptions where
  finalize : Bool
  deleteSession : Bool

namespace BackupExecutor

variable (config : BackupConfig)

abbrev Mem := Memory BackupObject

abbrev Act := Action BackupObject

variable (m : Mem)

def setMounts (mounts : List SharedMount) : Mem :=
  m.set { m.object with mounts := mounts }

/-! ## Shared mounts -/

/-- One round of `RestoreSharedMounts`: the mounts that are left, and the first error. -/
def restoreOne (s : List SharedMount × Option Error) (mount : SharedMount) :
    Act (List SharedMount × Option Error) := do
  contextErr m
  let failed ← (ask (.service (.restoreShared mount)) : Act (Option Error))
  contextErr m
  match failed with
  | none => pure s
  | some e => pure (s.1 ++ [mount], s.2.or (some e))

/-- What `RestoreSharedMounts` stores: the mounts that are left.  An error after the save puts the
mounts back in memory, at the new resource version. -/
def storeRemaining (remaining : List SharedMount) (result : Option Error) : Act Mem := do
  let m' ← save (setMounts m remaining) m
  let e ← (ask .contextErr : Act (Option Error))
  report (setMounts m' m.object.mounts) e
  report m' result
  pure m'

def restoreSharedMounts : Act Mem := do
  contextErr m
  if m.object.mounts = [] then pure m
  else do
    reject (config.sharedVolumeManager = false) (⟨.internal, "restore shared mounts",
      "shared mount manager and checkpoint writer are required"⟩, m)
    let left ← fold (restoreOne m) ([], none) m.object.mounts.reverse
    storeRemaining m left.1.reverse left.2

def validateSharedRestore : Act Unit :=
  if m.object.mounts = [] then pure ()
  else do
    reject (config.sharedVolumeManager = false)
      (backupError .internal "shared mount manager is required for recovery", m)
    each (fun mount => service (.validateRestoreShared mount) m) m.object.mounts

/-- `prepareOpenEBSLVMShared` of a volume without a marker: whether `spec.shared` has to change. -/
def needsShared (volume : LVMVolume) : Except Error Bool := do
  refuse (volume.uid = "")
    ⟨.precondition, "OpenEBS LVM shared mount", s!"{volume.ns}/{volume.name} has no UID"⟩
  refuse (volume.session ≠ none) ⟨.conflict, "OpenEBS LVM shared mount",
    s!"{volume.ns}/{volume.name} already has temporary shared-mount ownership"⟩
  if Text.equalFold volume.shared.toList "yes".toList = true then pure false
  else do
    refuse (volume.shared ≠ "" ∧ Text.equalFold volume.shared.toList "no".toList = false)
      ⟨.precondition, "OpenEBS LVM shared mount",
      s!"{volume.ns}/{volume.name} has unsupported spec.shared value " ++
        Text.quote volume.shared.toList⟩
    pure true

def sharedMount (pv : Volume) (volume : LVMVolume) : SharedMount where
  sourcePV := ⟨pv.name, pv.uid⟩
  lvmVolume := ⟨"LVMVolume", volume.ns, volume.name, volume.uid, volume.resourceVersion⟩
  previousShared := volume.shared
  previousSharedSet := volume.sharedSet

/-- A mount that could not be shared loses its checkpoint, unless the volume has the marker. -/
def withdrawShared (m previous : Mem) (mount : SharedMount) (failed : Error) : Act Mem := do
  let owned ← (ask (.shared mount) : Act (Except Error Bool))
  match owned with
  | .ok true => fail (failed, m)
  | .ok false => do
    let m' ← save (setMounts m previous.object.mounts) m
    fail (failed, m')
  | .error e =>
    if e.category = .conflict then do
      let m' ← save (setMounts m previous.object.mounts) m
      fail (failed, m')
    else fail (failed, m)

variable (mount : SharedMount)

/-- The checkpoint of a new shared mount, and the mount. -/
def shareSource : Act Mem := do
  let m' ← save (setMounts m (m.object.mounts ++ [mount])) m
  contextErr m'
  let failed ← (ask (.service (.enableShared mount)) : Act (Option Error))
  match failed with
  | none => pure m'
  | some e => withdrawShared m' m mount e

/-- `inspectBackupSharedMount`: whether the mount has to be enabled. -/
def inspectBackupSharedMount : Act Bool := do
  let shared ← (ask (.shared mount) : Act (Except Error Bool))
  match shared with
  | .ok true => pure false
  | .ok false => fail (⟨.conflict, "backup resume",
      "session-managed OpenEBS LVM shared mount is no longer enabled"⟩, m)
  | .error e => do
    reject (e.category ≠ .conflict) (e, m)
    service (.validateRestoreShared mount) m
    pure true

def resumeShared : Act Mem := do
  let needsEnable ← inspectBackupSharedMount m mount
  if needsEnable then do
    service (.enableShared mount) m
    pure m
  else pure m

def prepareSource (enableShared : Bool) (info : PVCInfo) : Act Mem := do
  let found ← (ask (.lvmVolume ⟨info.pv.name, info.pv.uid⟩) : Act (Except Error LVMVolume))
  let volume ← orFail m found
  let needsChange ← orFail m (needsShared volume)
  if needsChange = false then pure m
  else do
    reject (enableShared = false) (backupError .precondition <|
      s!"source PVC {info.pvc.ns}/{info.pvc.name} is active and its OpenEBS LVMVolume is unshared; "
        ++ "retry with --openebs-lvm-enable-shared or stop consumers", m)
    shareSource m (sharedMount info.pv volume)

def prepareBackupSharedMounts (enableShared : Bool) (info : PVCInfo) : Act Mem := do
  contextErr m
  if info.consumers = [] ∨ info.pv.openEBSLVM = false then pure m
  else do
    reject (config.sharedVolumeManager = false) (backupError .internal
      "OpenEBS LVM manager is required for an active OpenEBS LVM PVC", m)
    match m.object.mounts.find? fun mount =>
        mount.sourcePV.name = info.pv.name ∧ mount.sourcePV.uid = info.pv.uid with
    | some existing => resumeShared m existing
    | none => prepareSource m enableShared info

/-! ## Runs -/

/-- `BackupExecutor.complete`. -/
def complete : Act Mem := do
  toolsStopped m
  service .cleanupProbePods m
  let m ← restoreSharedMounts config m
  let m ← reactivate m "published backup recovered"
  let m ← checkpointFrom m .planned .warmCopying "published backup recovered"
  let m ← checkpointFrom m .warmCopying .warmCopied "published backup verified"
  checkpointRepositoryPhase m .completed "backup completed"

variable (plan : BackupPlan)

def validateSource : Act PVCInfo := do
  service .validateTools m
  let found ← (ask (.inspect m.object.ns plan.sourcePVC.name) : Act (Except Error PVCInfo))
  let info ← orFail m found
  reject (info.pvc.uid ≠ plan.sourcePVC.uid ∨ info.pv.uid ≠ plan.sourcePV.uid ∨
      info.pv.name ≠ plan.sourcePV.name)
    (backupError .conflict "source PVC or PV identity changed", m)
  service .validateSharedSource m
  pure info

def transferSource : Act Mem := do
  let info ← validateSource m plan
  let m ← reactivate m "backup resumed"
  let m ← checkpointFrom m .planned .warmCopying "backup preparing source PVC"
  let m ← prepareBackupSharedMounts config m plan.openEBSLVMEnableShared info
  let m ← checkpointFrom m .warmCopying .warmCopied "backup source PVC prepared"
  let failed ← (ask .transfer : Act (Option Error))
  report m failed
  complete config m

def finishPublished (session : String) : Act Mem := do
  reject (session ≠ m.object.name) (backupError .validation <|
    s!"recovery point {plan.name} already exists in this repository (published by backup " ++
      s!"{session}); choose a different recovery point name", m)
  service .validatePublished m
  complete config m

def runTransfer : Act Mem := do
  let resolved ← (ask .resolveRepository : Act (Except Error (Option Binding)))
  let binding ← orFail m resolved
  let m ← pinRepository m binding m.object.repository fun o b => { o with repository := some b }
  let found ← (ask .manifestSession : Act (Except Error (Option String)))
  let manifest ← orFail m found
  match manifest with
  | some session => finishPublished config m plan session
  | none => transferSource config m plan

/-- The deferred step of `run`: the shared mounts are given back, and a failure is stored. -/
def finish (result : Option Error) : Act Mem := do
  let fence ← (ask .leaseFence : Act (Option Error))
  match fence with
  | some e => fail (result.getD e, m)
  | none =>
    (toolsStopped m >>= fun _ => restoreSharedMounts config m).handle
      (fun m' => recordOutcome m' result)
      fun failed => recordOutcome failed.2 (result.or (some failed.1))

/-- The checks of `ValidateAbort`. -/
def validateAbort : Act Unit := do
  orFail m (validateBackupObject m.object)
  reject (m.status.phase = .completed)
    (⟨.precondition, "abort backup", "completed backup cannot be aborted"⟩, m)
  toolsStopped m
  validateSharedRestore config m

def beginAbort : Act Mem :=
  if m.status.phase = .aborted then pure m
  else if m.object.plan = none then abortUnplanned m "backup aborted before planning"
  else checkpointRepositoryPhase m .aborting "aborting backup"

/-- `BackupExecutor.abort`. -/
def abort : Act Mem := do
  validateAbort config m
  let m ← beginAbort m
  let m ← restoreSharedMounts config m
  if m.status.phase = .aborted then pure m
  else
    checkpointRepositoryPhase m .aborted "backup aborted; any published recovery point is retained"

/-- `BackupExecutor.run`. -/
def run : Act Mem :=
  if m.status.phase = .completed ∨ m.status.phase = .aborted then pure m
  else if abortPending m.status then abort config m
  else
    match m.object.plan with
    | none => fail (backupError .precondition "backup requires execution planning", m)
    | some plan =>
      (runTransfer config m plan).handle (fun m' => finish config m' none)
        fun failed => finish config failed.2 (some failed.1)

/-! ## Cleanup -/

def validateCleanup (options : BackupCleanupOptions) (m : Mem) : Act Unit := do
  orFail m (validateBackupObject m.object)
  reject (options.deleteSession = true ∧ options.finalize = false)
    (⟨.precondition, "cleanup backup", "deleting workflow metadata requires --finalize"⟩, m)
  reject (m.object.plan ≠ none ∧ m.status.phase ≠ .completed ∧ m.status.phase ≠ .aborted)
    (⟨.precondition, "cleanup backup", "active backup must be aborted before cleanup"⟩, m)
  toolsStopped m
  validateSharedRestore config m
  onlyWhen (options.finalize = true ∧ config.repositoryResources = true)
    (service .validateOwnedCleanup m)

/-- `BackupExecutor.cleanup`. -/
def cleanup (options : BackupCleanupOptions) (m : Mem) : Act Mem := do
  validateCleanup config options m
  service .cleanupProbePods m
  let m ← restoreSharedMounts config m
  onlyWhen (options.finalize = true ∧ config.repositoryResources = true) (service .cleanupOwned m)
  if options.deleteSession = true then deleteSession m else pure m

end BackupExecutor

/-! ## Calls -/

def backupExecutor (config : BackupConfig) : Executor BackupObject BackupCleanupOptions where
  workflow := "backup"
  run := BackupExecutor.run config
  abort := BackupExecutor.abort config
  cleanup := BackupExecutor.cleanup config
  deleted := ⟨true, true⟩

def backupCalls (config : BackupConfig) :
    Set (Memory BackupObject → Action BackupObject (Memory BackupObject)) :=
  Set.range (backupExecutor config).program

end RepositoryWorkflow

end PvcMigrate
