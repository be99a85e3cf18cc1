import PvcMigrate.Backup.RepositoryWorkflow

/-!
# The executor of restores

`backup/restore_executor.go`, `backup/restore_lifecycle.go` and the parts of
`backup/restore_destination.go` that write checkpoints.  A run finds or creates the destination
claim, stores the identities of the claim and of its volume, transfers the data, and completes.  The
phases after the transfer require both identities.
-/

namespace PvcMigrate

namespace RepositoryWorkflow

open Check Prog

/-! ## The object -/

/-- `v1alpha1.RestoreSpec`. -/
structure RestoreSpec where
  destinationPVC : LocalReference
  path : String := ""
  name : String
  repositoryRef : String
  createPVC : Bool := false
  toolNetworkPolicy : String := ""
  destinationStorageClass : String := ""
  destinationAccessMode : String := ""
  destinationCapacity : String := ""
  allowMounted : Bool := false
  targetNode : String := ""
  deleteExtraneous : Bool := false
  unusedStoragePolicy : String := ""
  deriving DecidableEq

/-- `v1alpha1.RestorePlan`: what is requested, frozen, with the identity of a destination that was
there when the plan was made. -/
abbrev RestorePlan := RestoreSpec

/-- `v1alpha1.Restore`. -/
structure RestoreObject where
  ns : String
  name : String
  deleting : Bool := false
  generation : Int := 1
  spec : RestoreSpec
  plan : Option RestorePlan := none
  lifecycle : WorkflowStatus := {}
  repository : Option Binding := none
  destinationPVC : Option Reference := none
  destinationPV : Option Reference := none
  deriving DecidableEq

def restoreError (category : ErrorCategory) (message : String) : Error :=
  ⟨category, "restore", message⟩

def validateUnusedStoragePolicy (policy : String) : Except Error Unit :=
  refuse (policy ≠ "" ∧ policy ≠ "Keep" ∧ policy ≠ "Delete")
    ⟨.validation, "unused storage policy", "unusedStoragePolicy must be Keep or Delete"⟩

def accessMode (spec : RestoreSpec) : String :=
  if spec.createPVC = true ∧ spec.destinationAccessMode = "" then "ReadWriteOnce"
  else spec.destinationAccessMode

def validateRestoreSpecPlan (spec : RestoreSpec) (plan : Option RestorePlan) :
    Except Error Unit := do
  refuse (spec.destinationPVC.name = "" ∨ spec.repositoryRef = "" ∨ spec.name = "")
    (restoreError .validation "destination PVC, repository and backup name are required")
  validateUnusedStoragePolicy spec.unusedStoragePolicy
  match plan with
  | none => pure ()
  | some plan =>
    refuse (plan.destinationPVC.name ≠ spec.destinationPVC.name ∨
        (spec.destinationPVC.uid ≠ "" ∧ spec.destinationPVC.uid ≠ plan.destinationPVC.uid) ∨
        plan.repositoryRef ≠ spec.repositoryRef ∨ plan.name ≠ spec.name ∨ plan.path ≠ spec.path ∨
        plan.createPVC ≠ spec.createPVC ∨
        plan.destinationStorageClass ≠ spec.destinationStorageClass ∨
        plan.destinationAccessMode ≠ accessMode spec ∨
        plan.destinationCapacity ≠ spec.destinationCapacity ∨
        plan.allowMounted ≠ spec.allowMounted ∨ plan.targetNode ≠ spec.targetNode ∨
        plan.toolNetworkPolicy ≠ spec.toolNetworkPolicy ∨
        plan.deleteExtraneous ≠ spec.deleteExtraneous ∨
        plan.unusedStoragePolicy ≠ spec.unusedStoragePolicy)
      (restoreError .conflict "execution plan differs from the requested restore")

variable (object : RestoreObject)

/-- The checks of `validateRestoreObject` on a name and a spec. -/
def validateRestoreIntent : Except Error Unit := do
  refuse (object.name = "" ∨ object.ns = "")
    (restoreError .validation "workflow name and namespace are required")
  onlyIf (object.deleting = false) do
    refuse (object.lifecycle.observedGeneration ≠ 0 ∧
        object.lifecycle.observedGeneration ≠ object.generation)
      (restoreError .conflict "workflow spec changed after planning")
    validateRestoreSpecPlan object.spec object.plan

/-- The checkpoint of a claim is that of the planned destination. -/
def DestinationMatches (ns : String) (plan : RestorePlan) (ref : Reference) : Prop :=
  ref.ns = ns ∧ ref.name = plan.destinationPVC.name ∧ ref.uid ≠ "" ∧
    (plan.destinationPVC.uid = "" ∨ ref.uid = plan.destinationPVC.uid)

instance (ns : String) (plan : RestorePlan) (ref : Reference) :
    Decidable (DestinationMatches ns plan ref) :=
  inferInstanceAs (Decidable (_ ∧ _))

/-- The checkpoint of a volume has a cluster-scoped identity. -/
def VolumeMatches (ref : Reference) : Prop :=
  ref.name ≠ "" ∧ ref.uid ≠ "" ∧ ref.ns = ""

instance (ref : Reference) : Decidable (VolumeMatches ref) :=
  inferInstanceAs (Decidable (_ ∧ _))

/-- `validateRestoreCheckpoints`, of an object with a plan. -/
def validatePlannedCheckpoints (plan : RestorePlan) : Except Error Unit := do
  refuse (plan.destinationPVC.name = "" ∨
      (plan.createPVC = false ∧ plan.destinationPVC.uid = "") ∨ plan.repositoryRef = "" ∨
      plan.name = "")
    (restoreError .validation
      "execution plan requires destination identity and repository location")
  refuse (∃ ref ∈ object.destinationPVC, ¬ DestinationMatches object.ns plan ref)
    (restoreError .conflict "destination checkpoint differs from the planned PVC")
  refuse (∃ ref ∈ object.destinationPV, object.destinationPVC = none ∨ ¬ VolumeMatches ref)
    (restoreError .validation
      "PV checkpoint requires a PVC checkpoint and cluster-scoped identity")
  refuse ((workflowResumePhase object.lifecycle = .warmCopied ∨
        workflowResumePhase object.lifecycle = .completed) ∧
      (object.destinationPVC = none ∨ object.destinationPV = none))
    (restoreError .validation "completed transfer requires destination PVC and PV checkpoints")

def validateRestoreCheckpoints : Except Error Unit :=
  match object.plan with
  | none =>
    refuse (object.repository ≠ none ∨ object.destinationPVC ≠ none ∨ object.destinationPV ≠ none)
      (restoreError .validation "resource checkpoints require an execution plan")
  | some plan => validatePlannedCheckpoints object plan

/-- The checks of `validateRestoreObject` on the status. -/
def validateRestoreStatus : Except Error Unit := do
  validateRepositoryStatus object.lifecycle object.plan.isSome
  validateRestoreCheckpoints object

def validateRestoreObject : Except Error Unit := do
  validateRestoreIntent object
  validateRestoreStatus object

/-- Others change the spec and the deletion mark; the name and the status stay. -/
structure RestoreEdited (o o' : RestoreObject) : Prop where
  ns : o'.ns = o.ns
  name : o'.name = o.name
  plan : o'.plan = o.plan
  lifecycle : o'.lifecycle = o.lifecycle
  repository : o'.repository = o.repository
  destinationPVC : o'.destinationPVC = o.destinationPVC
  destinationPV : o'.destinationPV = o.destinationPV

instance : RepositoryObject RestoreObject where
  status := RestoreObject.lifecycle
  withStatus o s := { o with lifecycle := s }
  planned o := o.plan.isSome
  deleting := RestoreObject.deleting
  validate := validateRestoreObject
  validateStatus := validateRestoreStatus
  Edited := RestoreEdited

/-- `RestoreExecutorConfig`, as far as it decides what is called. -/
structure RestoreConfig where
  repositoryResources : Bool

structure RestoreCleanupOptions where
  unusedStoragePolicy : String
  finalize : Bool
  deleteSession : Bool

namespace RestoreExecutor

variable (config : RestoreConfig)

abbrev Mem := Memory RestoreObject

abbrev Act := Action RestoreObject

variable (m : Mem) (plan : RestorePlan)

/-- `executionPlan`: the plan, with the identity of the claim that is stored. -/
def executionPlan : RestorePlan :=
  match m.object.destinationPVC with
  | none => plan
  | some ref => { plan with destinationPVC := { plan.destinationPVC with uid := ref.uid } }

/-! ## The destination -/

variable (pvc : Claim) (expectedPV : Option Reference)

def validateBoundDestination : Act PVCInfo := do
  let found ← (ask (.inspect pvc.ns pvc.name) : Act (Except Error PVCInfo))
  let info ← orFail m found
  reject (info.pvc.uid ≠ pvc.uid ∨
      ∃ ref ∈ expectedPV, ref.uid ≠ info.pv.uid ∨ ref.name ≠ info.pv.name)
    (restoreError .conflict "destination identity changed after planning", m)
  service .validatePlacement m
  pure info

/-- `validateDestination` of a claim that is not there. -/
def validateMissing : Act (Option PVCInfo) := do
  reject (plan.destinationPVC.uid ≠ "" ∨ expectedPV ≠ none) (restoreError .conflict
    "recorded destination PVC disappeared; it cannot be recreated", m)
  reject (plan.createPVC = false) (⟨.kubernetes, "", "not found"⟩, m)
  service .validateCreationAdmission m
  pure none

/-- `validateDestination` of a claim that is there. -/
def validateFound (pvc : Claim) : Act (Option PVCInfo) := do
  reject (pvc.uid = "" ∨ pvc.deleting = true ∨
      (plan.destinationPVC.uid ≠ "" ∧ pvc.uid ≠ plan.destinationPVC.uid))
    (restoreError .conflict "destination PVC identity changed or is deleting", m)
  onlyWhen (plan.createPVC = true) (service .validateCreatedPVC m)
  if plan.createPVC = true ∧ (pvc.phase = .unset ∨ pvc.phase = .pending) ∧ expectedPV = none then do
    service .validateStorageClass m
    pure none
  else do
    let info ← validateBoundDestination m pvc expectedPV
    pure (some info)

/-- `validateDestination`; the result is `none` for a claim that is not bound yet or not there. -/
def validateDestination : Act (Option PVCInfo) := do
  service .validateTools m
  let found ← getClaim m.object.ns plan.destinationPVC.name m
  match found with
  | none => validateMissing m plan expectedPV
  | some pvc => validateFound m plan expectedPV pvc

/-- The object with the checkpoint of a claim. -/
def setClaim : Mem :=
  m.set { m.object with destinationPVC := some pvc.reference }

def checkpointPVC : Act Mem := do
  reject (pvc.uid = "" ∨ pvc.name ≠ plan.destinationPVC.name ∨ pvc.ns ≠ m.object.ns)
    (restoreError .conflict "created PVC identity differs from the execution plan", m)
  reject (∃ ref ∈ m.object.destinationPVC, ref.uid ≠ pvc.uid)
    (restoreError .conflict "destination PVC changed after its checkpoint", m)
  reject (plan.destinationPVC.uid ≠ "" ∧ plan.destinationPVC.uid ≠ pvc.uid)
    (restoreError .conflict "destination PVC differs from its planned identity", m)
  save (setClaim m pvc) m

def bindRestorePVC : Act Unit := do
  reject (pvc.uid = "" ∨ pvc.deleting = true) (restoreError .conflict
    "destination PVC must have a stable UID and must not be deleting", m)
  if pvc.phase = .bound ∧ pvc.volumeName ≠ "" then pure ()
  else do
    reject (pvc.phase ≠ .unset ∧ pvc.phase ≠ .pending) (restoreError .precondition
      s!"destination PVC {pvc.ns}/{pvc.name} cannot be bound for restore", m)
    service .bindCreatedPVC m

def checkpointAndBindRestorePVC : Act Mem := do
  contextErr m
  let m ← checkpointPVC m plan pvc
  contextErr m
  bindRestorePVC m pvc
  pure m

/-- `createRestorePVC`, of a claim that is there. -/
def adoptRestorePVC : Act Mem := do
  service .validateCreatedPVC m
  checkpointAndBindRestorePVC m plan pvc

/-- `createRestorePVC`, of a claim that appeared after it had not been found. -/
def adoptAppearedPVC : Act Mem := do
  let appeared ← getClaim m.object.ns plan.destinationPVC.name m
  match appeared with
  | none => fail (⟨.kubernetes, "restore", "read destination PVC after concurrent create"⟩, m)
  | some pvc => adoptRestorePVC m plan pvc

/-- `createRestorePVC`, of a claim that is not there. -/
def createMissingPVC : Act Mem := do
  reject ((executionPlan m plan).destinationPVC.uid ≠ "") (restoreError .conflict
    "planned destination PVC disappeared before binding", m)
  contextErr m
  let created ← (ask (.createClaim m.object.ns plan.destinationPVC.name) :
    Act (Except Error (Option Claim)))
  let pvc ← orFail m created
  match pvc with
  | none => adoptAppearedPVC m plan
  | some pvc => do
    reject (pvc.uid = "") (⟨.kubernetes, "restore",
      "created destination PVC has no stable Kubernetes UID"⟩, m)
    checkpointAndBindRestorePVC m plan pvc

def createRestorePVC : Act Mem := do
  contextErr m
  service .validateStorageClass m
  let existing ← getClaim m.object.ns plan.destinationPVC.name m
  match existing with
  | none => createMissingPVC m plan
  | some pvc => do
    reject ((executionPlan m plan).destinationPVC.uid ≠ "" ∧
        pvc.uid ≠ (executionPlan m plan).destinationPVC.uid)
      (restoreError .conflict "destination PVC identity changed since planning", m)
    adoptRestorePVC m plan pvc

def verifyPVCIdentity (ns name pvcUID pvUID : String) : Act (Claim × Volume) := do
  reject (pvcUID = "" ∨ pvUID = "") (⟨.precondition, "backup identity",
    "expected PVC and PV identities are required"⟩, m)
  let found ← getClaim ns name m
  match found with
  | none => fail (⟨.kubernetes, "backup identity", "read PVC"⟩, m)
  | some pvc => do
    reject (pvc.uid ≠ pvcUID)
      (⟨.conflict, "backup identity", "PVC identity changed since preflight"⟩, m)
    reject (pvc.phase ≠ .bound) (⟨.precondition, "backup identity", "PVC is no longer Bound"⟩, m)
    reject (pvc.volumeName = "")
      (⟨.precondition, "backup identity", "PVC is no longer bound to a PV"⟩, m)
    let volume ← (ask (.getVolume pvc.volumeName) : Act (Except Error Volume))
    let pv ← orFail m volume
    reject (pv.uid ≠ pvUID)
      (⟨.conflict, "backup identity", "PV identity changed since preflight"⟩, m)
    reject (pv.bound = false) (⟨.precondition, "backup identity", "PV is no longer Bound"⟩, m)
    reject (¬ ∃ claim ∈ pv.claimRef, claim.ns = ns ∧ claim.name = name ∧ claim.uid = pvc.uid)
      (⟨.conflict, "backup identity",
        "PVC and PV claimRef no longer identify the same binding"⟩, m)
    pure (pvc, pv)

def validateRestoreDestinationIdentity (previousPVC previousPV : Reference)
    (pvcUID pvUID : String) : Except Error Unit := do
  refuse (previousPVC.uid ≠ "" ∧ previousPVC.uid ≠ pvcUID)
    ⟨.conflict, "restore destination identity",
      "destination PVC identity changed since the restore checkpoint"⟩
  refuse (previousPV.uid ≠ "" ∧ previousPV.uid ≠ pvUID)
    ⟨.conflict, "restore destination identity",
      "destination PV identity changed since the restore checkpoint"⟩

/-- The object with the checkpoints of a claim and of its volume. -/
def setDestination (pv : Volume) : Mem :=
  m.set { m.object with
    destinationPVC := some pvc.reference
    destinationPV := some pv.reference }

/-- `checkpointBoundDestination`, with `checkpointRestoreDestinationIdentity`.  An error after the
save puts the whole status back in memory, at the new resource version. -/
def checkpointBoundDestination (info : PVCInfo) : Act Mem := do
  contextErr m
  orFail m (validateRestoreDestinationIdentity (m.object.destinationPVC.getD {})
    (m.object.destinationPV.getD {}) info.pvc.uid info.pv.uid)
  let verified ← verifyPVCIdentity m info.pvc.ns info.pvc.name info.pvc.uid info.pv.uid
  if m.object.destinationPVC.getD {} = verified.1.reference ∧
      m.object.destinationPV.getD {} = verified.2.reference then pure m
  else do
    contextErr m
    let m' ← save (setDestination m verified.1 verified.2) m
    let fence ← (ask .leaseFence : Act (Option Error))
    report (m'.set m.object) fence
    pure m'

/-! ## Runs -/

def validateTransferredDestination : Act Unit := do
  toolsStopped m
  match m.object.destinationPVC, m.object.destinationPV with
  | some pvc, some pv => do
    let current ← verifyPVCIdentity m pvc.ns pvc.name pvc.uid pv.uid
    reject (current.2.name ≠ pv.name ∨ current.1.deleting = true ∨ current.2.deleting = true)
      (restoreError .conflict "transferred destination changed or is being deleted", m)
  | _, _ => fail (restoreError .validation "transferred destination identities are missing", m)

/-- `RestoreExecutor.complete`. -/
def complete : Act Mem := do
  validateTransferredDestination m
  let m ← reactivate m "restore completion resumed"
  checkpointRepositoryPhase m .completed "restore completed"

/-- The destination is made, where it is not there or not bound yet. -/
def provideDestination : Option PVCInfo → Act (Mem × PVCInfo)
  | some info => pure (m, info)
  | none => do
    let m ← createRestorePVC m plan
    let found ← validateDestination m (executionPlan m plan) m.object.destinationPV
    match found with
    | some info => pure (m, info)
    | none => fail (restoreError .precondition "destination PVC is not bound after creation", m)

/-- The part of a run that transfers the data. -/
def transferDestination : Act Mem := do
  let resolved ← (ask .resolveRepository : Act (Except Error (Option Binding)))
  let binding ← orFail m resolved
  let m ← pinRepository m binding m.object.repository fun o b => { o with repository := some b }
  service .readRestoreManifest m
  let found ← validateDestination m (executionPlan m plan) m.object.destinationPV
  let m ← reactivate m "restore resumed"
  let m ← checkpointFrom m .planned .warmCopying "restore started"
  service .cleanupProbePods m
  let destination ← provideDestination m plan found
  let m ← checkpointBoundDestination destination.1 destination.2
  let failed ← (ask .transfer : Act (Option Error))
  report m failed
  let m ← checkpointRepositoryPhase m .warmCopied "restore transfer completed"
  complete m

def runPlanned : Act Mem :=
  if workflowResumePhase m.status = .warmCopied then complete m else transferDestination m plan

def validateAbort : Act Unit := do
  orFail m (validateRestoreObject m.object)
  reject (m.status.phase = .completed)
    (⟨.precondition, "abort restore", "completed restore cannot be aborted"⟩, m)
  toolsStopped m

/-- `RestoreExecutor.abort`. -/
def abort : Act Mem := do
  validateAbort m
  if m.status.phase = .aborted then pure m
  else if m.object.plan = none then abortUnplanned m "restore aborted before planning"
  else do
    let m ← checkpointRepositoryPhase m .aborting "aborting restore"
    service .cleanupProbePods m
    checkpointRepositoryPhase m .aborted "restore aborted; destination data is retained"

/-- `RestoreExecutor.run`. -/
def run : Act Mem :=
  if m.status.phase = .completed ∨ m.status.phase = .aborted then pure m
  else if abortPending m.status then abort m
  else
    match m.object.plan with
    | none => fail (restoreError .precondition "restore requires execution planning", m)
    | some plan => (runPlanned m plan).handle pure fun failed => recordOutcome failed.2
      (some failed.1)

/-! ## Cleanup -/

/-- `createdDestination`, of a claim that is there. -/
def createdDestinationFound : Act Reference := do
  let expected := (executionPlan m plan).destinationPVC.uid
  reject (pvc.uid = "" ∨ (expected ≠ "" ∧ pvc.uid ≠ expected))
    (⟨.conflict, "cleanup restore", "destination PVC identity changed"⟩, m)
  reject (∃ owner ∈ [pvc.sessionLabel, pvc.sessionAnnotation],
      owner ≠ "" ∧ owner ≠ m.object.name)
    (⟨.conflict, "cleanup restore", "destination PVC belongs to another workflow"⟩, m)
  reject (expected = "" ∧ pvc.sessionLabel ≠ m.object.name)
    (⟨.conflict, "cleanup restore",
      "unrecorded destination PVC is not owned by this workflow"⟩, m)
  pure pvc.reference

def createdDestination : Act (Option Reference) :=
  match m.object.plan with
  | none => pure none
  | some plan =>
    if plan.createPVC = false then pure none
    else do
      let found ← getClaim m.object.ns plan.destinationPVC.name m
      match found with
      | none => pure none
      | some pvc => do
        let ref ← createdDestinationFound m plan pvc
        pure (some ref)

variable (options : RestoreCleanupOptions)

def validateCleanup (m : Mem) : Act Unit := do
  orFail m (validateRestoreObject m.object)
  reject (options.deleteSession = true ∧ options.finalize = false)
    (⟨.precondition, "cleanup restore", "deleting workflow metadata requires --finalize"⟩, m)
  reject (m.object.plan ≠ none ∧ m.status.phase ≠ .completed ∧ m.status.phase ≠ .aborted)
    (⟨.precondition, "cleanup restore", "active restore must be aborted before cleanup"⟩, m)
  toolsStopped m
  onlyWhen (options.finalize = true) do
    let _ ← createdDestination m
    onlyWhen (config.repositoryResources = true) (service .validateOwnedCleanup m)

def cleanupPolicy (plan : Option RestorePlan) : String :=
  if options.unusedStoragePolicy ≠ "" then options.unusedStoragePolicy
  else (plan.map RestoreSpec.unusedStoragePolicy).getD ""

/-- A claim that has no checkpoint gets one before its ownership is removed. -/
def pinCreated (ref : Reference) : Act Mem :=
  if m.object.destinationPVC = none then
    save (m.set { m.object with destinationPVC := some ref }) m
  else pure m

/-- A final cleanup deletes the claim that the workflow created, or gives it away. -/
def releaseDestination (finalize deleteUnused : Bool) : Act Mem :=
  if finalize = false then pure m
  else do
    let created ← createdDestination m
    match created with
    | none => pure m
    | some ref => do
      let m ← pinCreated m ref
      service (if deleteUnused then .deleteDestination ref else .finalizePVC ref) m
      pure m

/-- `RestoreExecutor.cleanup`. -/
def cleanup (m : Mem) : Act Mem := do
  validateCleanup config options m
  service .cleanupProbePods m
  let policy := cleanupPolicy options m.object.plan
  orFail m (validateUnusedStoragePolicy policy)
  let m ← releaseDestination m options.finalize (policy = "Delete" ∧ m.status.phase = .aborted)
  onlyWhen (options.finalize = true ∧ config.repositoryResources = true) (service .cleanupOwned m)
  if options.deleteSession = true then deleteSession m else pure m

end RestoreExecutor

/-! ## Calls -/

def restoreExecutor (config : RestoreConfig) : Executor RestoreObject RestoreCleanupOptions where
  workflow := "restore"
  run := RestoreExecutor.run
  abort := RestoreExecutor.abort
  cleanup := RestoreExecutor.cleanup config
  deleted := ⟨"", true, true⟩

def restoreCalls (config : RestoreConfig) :
    Set (Memory RestoreObject → Action RestoreObject (Memory RestoreObject)) :=
  Set.range (restoreExecutor config).program

end RepositoryWorkflow

end PvcMigrate
