import PvcMigrate.Kube.Activation
import PvcMigrate.Lib.Check
import Mathlib.Data.List.Nodup
import Mathlib.Data.List.Perm.Subperm

/-!
# The ClusterMigration object and its validation

A `ClusterMigration` carries the request of the user (its spec), the execution plan, and one
checkpoint per volume: what was reserved, what was copied, how far the cutover has come.  Every
operation of the executor first runs `validateClusterMigrationObject`
(`migration_executor_validation.go`) on it.

The maps the validators build from the planned volumes are the planned volumes themselves,
looked up by the name of the source claim.
-/

namespace PvcMigrate

open Kube Check

/-! ## API types -/

/-- `v1alpha1.LocalResourceReference`. -/
structure LocalResourceReference where
  apiVersion : String := ""
  kind : String := ""
  name : String := ""
  uid : UID := none
  resourceVersion : String := ""
  deriving DecidableEq, Repr

def qualifiedResourceReference (ref : LocalResourceReference) (ns : String) : ObjectReference :=
  ⟨ns, ref.name, ref.uid⟩

/-- `v1alpha1.UnusedStoragePolicy`; `other` is any text the API does not define. -/
inductive UnusedStoragePolicy
  | unset
  | keep
  | delete
  | other (text : String)
  deriving DecidableEq, Repr

/-- `v1alpha1.VolumeSpec`.  A capacity that is no quantity is `none`. -/
structure VolumeSpec where
  sourcePVC : LocalResourceReference
  sourcePV : LocalResourceReference
  destinationPVC : LocalResourceReference
  sourcePVCSpec : PVCSpec := {}
  sourcePVCMetadata : PVCMetadata := {}
  sourceCapacity : Option Int := none
  capacity : Option Int := none
  storageClass : String := ""
  accessModes : List String := []
  volumeMode : String := ""

/-- `v1alpha1.VolumeRequest`. -/
structure VolumeRequest where
  sourcePVC : LocalResourceReference
  sourcePV : Option LocalResourceReference := none
  destinationPVC : Option LocalResourceReference := none
  deriving DecidableEq, Repr

/-- `v1alpha1.ClusterVolumeReservationStatus`. -/
structure ClusterVolumeReservationStatus where
  sourcePVCName : String
  destinationPVC : Option ObjectReference := none
  destinationPV : Option ObjectReference := none
  destinationPolicy : Option ReclaimPolicy := none
  reserved : Bool := false
  deriving DecidableEq, Repr

/-- `v1alpha1.MigrationSyncStatus`. -/
structure MigrationSyncStatus where
  finalCompletedAt : Option Time := none
  attempts : Int := 0
  checksumVerified : Bool := false
  lastError : String := ""
  deriving DecidableEq, Repr

/-- `v1alpha1.ClusterMigrationVolumeStatus`. -/
structure ClusterMigrationVolumeStatus where
  reservation : ClusterVolumeReservationStatus
  sync : MigrationSyncStatus := {}
  activation : ActivationStatus := {}
  deriving DecidableEq, Repr

/-- `v1alpha1.ClusterMigrationSpec`. -/
structure ClusterMigrationSpec where
  sourceNamespace : String
  temporaryNamespace : String := ""
  destinationNamespace : String := ""
  sessionNamespace : String := ""
  unusedStoragePolicy : UnusedStoragePolicy := .unset
  volumes : List VolumeRequest := []

/-- `v1alpha1.ClusterMigrationPlan`. -/
structure ClusterMigrationPlan where
  sourceNamespace : String
  temporaryNamespace : String
  destinationNamespace : String
  sessionNamespace : String
  unusedStoragePolicy : UnusedStoragePolicy := .unset
  verifyChecksum : Bool := false
  volumes : List VolumeSpec

/-- `v1alpha1.ClusterMigration`. -/
structure ClusterMigration where
  name : String
  ns : String := ""
  deletionTimestamp : Option Time := none
  spec : ClusterMigrationSpec
  status : WorkflowStatus := {}
  plan : Option ClusterMigrationPlan := none
  volumes : List ClusterMigrationVolumeStatus := []

/-- `deletingWorkflow`. -/
def ClusterMigration.deleting (object : ClusterMigration) : Prop :=
  object.deletionTimestamp ≠ none

instance (object : ClusterMigration) : Decidable object.deleting :=
  inferInstanceAs (Decidable (_ ≠ _))

def volumeNamed (volumes : List VolumeSpec) (sourcePVCName : String) : Option VolumeSpec :=
  volumes.find? fun volume => volume.sourcePVC.name = sourcePVCName

/-- The checkpoint `clusterMigrationVolumeIndexes` leads to.  In a validated object no two
checkpoints are of one claim. -/
def checkpointOf (checkpoints : List ClusterMigrationVolumeStatus) (sourcePVCName : String) :
    Option ClusterMigrationVolumeStatus :=
  checkpoints.find? fun status => status.reservation.sourcePVCName = sourcePVCName

def amendCheckpoint (checkpoints : List ClusterMigrationVolumeStatus) (sourcePVCName : String)
    (amend : ClusterMigrationVolumeStatus → ClusterMigrationVolumeStatus) :
    List ClusterMigrationVolumeStatus :=
  checkpoints.map fun status =>
    if status.reservation.sourcePVCName = sourcePVCName then amend status else status

def ClusterMigrationVolumeStatus.withActivation (status : ClusterMigrationVolumeStatus)
    (activation : ActivationStatus) : ClusterMigrationVolumeStatus :=
  { status with activation := activation }

/-! ## Validation -/

/-- The `invalid` helper of the migration validators. -/
def invalidMigration (message : String) : Error := ⟨.validation, "migration", message⟩

/-- The `invalid` helper of the reservation validators. -/
def invalidReservation (message : String) : Error := ⟨.validation, "reservation", message⟩

def migrationPhase : WorkflowPhase → Bool
  | .planned | .reserving | .reserved | .finalSyncing | .finalSynced | .activating | .activated
  | .resuming | .completed | .aborting | .aborted | .rollingBack | .rolledBack => true
  | _ => false

def validateMigrationLifecycle (status : WorkflowStatus) : Except Error Unit := do
  refuse (status.phase ≠ .unset ∧ status.phase ≠ .failed ∧ migrationPhase status.phase = false)
    (invalidMigration "phase does not belong to offline migration")
  refuse (status.resumeFrom ≠ .unset ∧ migrationPhase status.resumeFrom = false)
    (invalidMigration "resume checkpoint does not belong to offline migration")
  refuse (status.phase = .failed ∧ status.resumeFrom = .unset)
    (invalidMigration "failed migration requires a resume checkpoint")
  refuse (status.failureReason ≠ "" ∧
      (status.failureReason ≠ failureDestinationCapacityExhausted ∨
        workflowResumePhase status ≠ .finalSyncing))
    (invalidMigration "migration failure reason does not belong to the current stage")

def validateUnusedStoragePolicy : UnusedStoragePolicy → Except Error Unit
  | .unset | .keep | .delete => pure ()
  | .other _ => .error ⟨.validation, "unused storage policy",
      "unusedStoragePolicy must be Keep or Delete"⟩

/-- A namespace role that is not given is the source namespace. -/
def orSource (ns sourceNamespace : String) : String := if ns = "" then sourceNamespace else ns

def validateMigrationPlanNamespaces (spec : ClusterMigrationSpec) (plan : ClusterMigrationPlan) :
    Except Error Unit :=
  refuse (plan.sourceNamespace = "" ∨ plan.temporaryNamespace = "" ∨
      plan.sessionNamespace = "" ∨ plan.sourceNamespace ≠ spec.sourceNamespace ∨
      plan.temporaryNamespace ≠ orSource spec.temporaryNamespace spec.sourceNamespace ∨
      plan.sessionNamespace ≠ orSource spec.sessionNamespace spec.sourceNamespace ∨
      plan.destinationNamespace ≠ orSource spec.destinationNamespace spec.sourceNamespace)
    (invalidMigration
      "migration plan namespace roles must match its spec and preserve source identities")

def positiveQuantity (capacity : Option Int) : Bool := capacity.any fun quantity => 0 < quantity

/-- The body of the loop of `validateReservationVolumes`, after the volumes `known`. -/
def validateReservationVolume (sourceNamespace destinationNamespace : String)
    (known : List VolumeSpec) (volume : VolumeSpec) : Except Error Unit := do
  refuse (volume.sourcePVC.name = "" ∨ volume.sourcePVC.uid = none ∨ volume.sourcePV.name = "" ∨
      volume.sourcePV.uid = none ∨ volume.destinationPVC.name = "")
    (invalidReservation "planned volume requires source PVC/PV identities and a destination name")
  refuse (∃ other ∈ known, other.sourcePVC.name = volume.sourcePVC.name ∨
      other.destinationPVC.name = volume.destinationPVC.name)
    (invalidReservation "planned source and destination PVC names must be unique")
  refuse (sourceNamespace = destinationNamespace ∧
      volume.sourcePVC.name = volume.destinationPVC.name)
    (invalidReservation "destination PVC must differ from the source")
  refuse (positiveQuantity volume.sourceCapacity = false ∨
      positiveQuantity volume.capacity = false)
    (invalidReservation "planned source and destination capacities must be positive quantities")

def validateReservationVolumes (sourceNamespace destinationNamespace : String) :
    List VolumeSpec → List VolumeSpec → Except Error Unit
  | _, [] => pure ()
  | known, volume :: planned => do
    validateReservationVolume sourceNamespace destinationNamespace known volume
    validateReservationVolumes sourceNamespace destinationNamespace (known ++ [volume]) planned

def reservationReferenceMatches (request resolved : LocalResourceReference) : Prop :=
  request.name = resolved.name ∧ (request.uid = none ∨ request.uid = resolved.uid) ∧
    (request.resourceVersion = "" ∨ request.resourceVersion = resolved.resourceVersion) ∧
    (request.kind = "" ∨ request.kind = resolved.kind) ∧
    (request.apiVersion = "" ∨ request.apiVersion = resolved.apiVersion)

instance (request resolved : LocalResourceReference) :
    Decidable (reservationReferenceMatches request resolved) :=
  inferInstanceAs (Decidable (_ ∧ _))

/-- The planned volume satisfies the request. -/
def VolumeRequest.satisfiedBy (request : VolumeRequest) (volume : VolumeSpec) : Prop :=
  reservationReferenceMatches request.sourcePVC volume.sourcePVC ∧
    (∀ ref ∈ request.sourcePV, reservationReferenceMatches ref volume.sourcePV) ∧
    ∀ ref ∈ request.destinationPVC, reservationReferenceMatches ref volume.destinationPVC

instance (request : VolumeRequest) (volume : VolumeSpec) :
    Decidable (request.satisfiedBy volume) :=
  inferInstanceAs (Decidable (_ ∧ _))

def validateMigrationRequestedVolumes (requests : List VolumeRequest)
    (volumes : List VolumeSpec) : Except Error Unit := do
  refuse (requests.length ≠ volumes.length)
    (invalidMigration "migration plan must cover exactly the requested volumes")
  eachFresh (fun request : VolumeRequest => request.sourcePVC.name)
    (invalidMigration "migration plan does not satisfy the requested identities")
    (fun request : VolumeRequest =>
      refuse (¬ ∃ volume ∈ volumeNamed volumes request.sourcePVC.name,
          request.satisfiedBy volume)
        (invalidMigration "migration plan does not satisfy the requested identities"))
    [] requests

def validateMigrationVolumeCheckpoint (volume : VolumeSpec)
    (checkpoint : ClusterVolumeReservationStatus) (activation : ActivationStatus)
    (copyAttempts : Int) (destinationNamespace temporaryNamespace : String) :
    Except Error Unit := do
  refuse (∃ ref ∈ checkpoint.destinationPVC, ref.name ≠ volume.destinationPVC.name ∨
      ref.ns ≠ temporaryNamespace ∨ ref.uid = none)
    (invalidMigration "migration destination PVC checkpoint is invalid")
  refuse (∃ ref ∈ checkpoint.destinationPV, ref.name = "" ∨ ref.uid = none ∨ ref.ns ≠ "")
    (invalidMigration "migration destination PV checkpoint is invalid")
  refuse (checkpoint.reserved = true ∧
      (checkpoint.destinationPVC = none ∨ checkpoint.destinationPV = none))
    (invalidMigration "reserved migration volume requires destination PVC and PV identities")
  refuse (∃ ref ∈ activation.activePVC, ref.name ≠ volume.sourcePVC.name ∨
      ref.ns ≠ destinationNamespace ∨ ref.uid = none)
    (invalidMigration
      "migration active PVC must preserve the source name in the destination namespace")
  refuse (copyAttempts < 0) (invalidMigration "migration copy attempts cannot be negative")
  refuse (0 < copyAttempts ∧ checkpoint.reserved = false)
    (invalidMigration "migration copy attempts require reserved destination identities")
  refuse ((activation.activatedAt ≠ none ∨ activation.rolledBackAt ≠ none) ∧
      activation.activePVC = none)
    (invalidMigration "completed migration cutover requires an active PVC identity")

/-- The phases in which storage may still be unreserved. -/
def reservationOpen : WorkflowPhase → Bool
  | .planned | .reserving | .aborting | .aborted => true
  | _ => false

/-- The phases that require the final sync of every volume. -/
def requiresFinalSync : WorkflowPhase → Bool
  | .finalSynced | .activating | .activated | .resuming | .completed => true
  | _ => false

/-- The phases that require the activation of every volume. -/
def requiresActivation : WorkflowPhase → Bool
  | .activated | .resuming | .completed => true
  | _ => false

def validateMigrationVolumePhase (reserved : Bool)
    (finalCompletedAt activatedAt rolledBackAt : Option Time) (phase : WorkflowPhase) :
    Except Error Unit := do
  refuse (reservationOpen phase = false ∧ reserved = false)
    (invalidMigration "migration cannot advance before every volume is reserved")
  refuse (requiresFinalSync phase = true ∧ finalCompletedAt = none)
    (invalidMigration "migration cutover requires completed final sync for every volume")
  refuse (requiresActivation phase = true ∧ activatedAt = none)
    (invalidMigration "migration completion requires activation for every volume")
  refuse (phase = .rolledBack ∧ rolledBackAt = none)
    (invalidMigration "migration rollback requires a restored checkpoint for every volume")

/-- The body of the loop of `validateMigrationCheckpoints`, for a checkpoint not seen before. -/
def validateMigrationCheckpoint (volumes : List VolumeSpec)
    (destinationNamespace temporaryNamespace : String) (phase : WorkflowPhase)
    (checkpoint : ClusterMigrationVolumeStatus) : Except Error Unit :=
  match volumeNamed volumes checkpoint.reservation.sourcePVCName with
  | none => .error
      (invalidMigration "migration checkpoint contains an unknown or duplicate source PVC")
  | some volume => do
    validateMigrationVolumeCheckpoint volume checkpoint.reservation checkpoint.activation
      checkpoint.sync.attempts destinationNamespace temporaryNamespace
    validateMigrationVolumePhase checkpoint.reservation.reserved checkpoint.sync.finalCompletedAt
      checkpoint.activation.activatedAt checkpoint.activation.rolledBackAt phase

def validateMigrationCheckpoints (volumes : List VolumeSpec)
    (checkpoints : List ClusterMigrationVolumeStatus)
    (destinationNamespace temporaryNamespace : String) (phase : WorkflowPhase) :
    Except Error Unit :=
  if checkpoints = [] ∧ reservationOpen phase = true then pure ()
  else do
    refuse (checkpoints.length ≠ volumes.length)
      (invalidMigration "migration checkpoints must cover every planned volume")
    eachFresh (fun checkpoint : ClusterMigrationVolumeStatus =>
      checkpoint.reservation.sourcePVCName)
      (invalidMigration "migration checkpoint contains an unknown or duplicate source PVC")
      (validateMigrationCheckpoint volumes destinationNamespace temporaryNamespace phase)
      [] checkpoints

def validateClusterMigrationObject (object : ClusterMigration) : Except Error Unit := do
  refuse (object.name = "" ∨ object.ns ≠ "")
    (invalidMigration "a named cluster-scoped migration is required")
  validateMigrationLifecycle object.status
  onlyIf (¬ object.deleting) (validateUnusedStoragePolicy object.spec.unusedStoragePolicy)
  let phase := workflowResumePhase object.status
  match object.plan with
  | none =>
    refuse (object.volumes ≠ [] ∨ phase ≠ .unset ∧ phase ≠ .planned ∧ phase ≠ .aborted)
      (invalidMigration "migration progress requires an execution plan")
  | some plan => do
    refuse (plan.volumes = [] ∨ object.status.phase = .unset)
      (invalidMigration "migration plan requires volumes and a lifecycle phase")
    onlyIf (¬ object.deleting) (validateMigrationPlanNamespaces object.spec plan)
    validateUnusedStoragePolicy plan.unusedStoragePolicy
    validateReservationVolumes plan.sourceNamespace plan.temporaryNamespace [] plan.volumes
    onlyIf (¬ object.deleting)
      (validateMigrationRequestedVolumes object.spec.volumes plan.volumes)
    validateMigrationCheckpoints plan.volumes object.volumes plan.destinationNamespace
      plan.temporaryNamespace phase

/-- `validateMigrationObject`, of a Migration: a namespaced object whose references are local.  It
is kept here with its references qualified by its namespace (`qualifiedResourceReference`,
`qualifiedReservationCheckpoint`), so that what the namespaced validator does not ask of a local
reference holds of the qualified one. -/
def validateMigrationObject (object : ClusterMigration) : Except Error Unit := do
  refuse (object.name = "" ∨ object.ns = "")
    (invalidMigration "a named namespaced migration is required")
  validateMigrationLifecycle object.status
  onlyIf (¬ object.deleting) (validateUnusedStoragePolicy object.spec.unusedStoragePolicy)
  let phase := workflowResumePhase object.status
  match object.plan with
  | none =>
    refuse (object.volumes ≠ [] ∨ phase ≠ .unset ∧ phase ≠ .planned ∧ phase ≠ .aborted)
      (invalidMigration "migration progress requires an execution plan")
  | some plan => do
    refuse (plan.volumes = [] ∨ object.status.phase = .unset)
      (invalidMigration "migration plan requires volumes and a lifecycle phase")
    validateUnusedStoragePolicy plan.unusedStoragePolicy
    validateReservationVolumes object.ns object.ns [] plan.volumes
    onlyIf (¬ object.deleting)
      (validateMigrationRequestedVolumes object.spec.volumes plan.volumes)
    validateMigrationCheckpoints plan.volumes object.volumes object.ns object.ns phase

/-- The two kinds of offline migrations, whose executors are the same up to the namespaces of their
references and the validator they call. -/
inductive MigrationKind
  | clusterMigration
  | migration
  deriving DecidableEq, Repr

def MigrationKind.validate : MigrationKind → ClusterMigration → Except Error Unit
  | .clusterMigration => validateClusterMigrationObject
  | .migration => validateMigrationObject

/-! ## What the validators accept -/

/-- What `validateReservationVolume` asks of a volume by itself. -/
structure VolumeSpec.Planned (volume : VolumeSpec) (sourceNamespace destinationNamespace : String) :
    Prop where
  sourceName : volume.sourcePVC.name ≠ ""
  sourceUID : volume.sourcePVC.uid ≠ none
  volumeName : volume.sourcePV.name ≠ ""
  volumeUID : volume.sourcePV.uid ≠ none
  destinationName : volume.destinationPVC.name ≠ ""
  differs : sourceNamespace = destinationNamespace →
    volume.sourcePVC.name ≠ volume.destinationPVC.name
  sourceCapacity : positiveQuantity volume.sourceCapacity = true
  capacity : positiveQuantity volume.capacity = true

/-- Two planned volumes have different claims. -/
def VolumeSpec.Distinct (u v : VolumeSpec) : Prop :=
  u.sourcePVC.name ≠ v.sourcePVC.name ∧ u.destinationPVC.name ≠ v.destinationPVC.name

variable {destinationNamespace name : String} {volume : VolumeSpec}
  {status : ClusterMigrationVolumeStatus} {phase : WorkflowPhase} {volumes : List VolumeSpec}
  {plan : ClusterMigrationPlan} {checkpoints : List ClusterMigrationVolumeStatus}

theorem validateReservationVolume_eq_ok {sourceNamespace : String} {known : List VolumeSpec} :
    validateReservationVolume sourceNamespace destinationNamespace known volume = .ok () ↔
      volume.Planned sourceNamespace destinationNamespace ∧
        ∀ other ∈ known, other.Distinct volume := by
  simp only [validateReservationVolume, andThen_eq_ok, refuse_eq_ok, not_or, not_exists, not_and,
    VolumeSpec.Distinct, Bool.not_eq_false]
  constructor
  · rintro ⟨⟨h1, h2, h3, h4, h5⟩, hknown, hdiffers, hcapacities⟩
    exact ⟨⟨h1, h2, h3, h4, h5, hdiffers, hcapacities.1, hcapacities.2⟩, hknown⟩
  · rintro ⟨h, hknown⟩
    exact ⟨⟨h.sourceName, h.sourceUID, h.volumeName, h.volumeUID, h.destinationName⟩, hknown,
      h.differs, h.sourceCapacity, h.capacity⟩

theorem validateReservationVolumes_eq_ok {sourceNamespace : String}
    {known planned : List VolumeSpec} :
    validateReservationVolumes sourceNamespace destinationNamespace known planned = .ok () ↔
      (∀ volume ∈ planned, volume.Planned sourceNamespace destinationNamespace ∧
        ∀ other ∈ known, other.Distinct volume) ∧ planned.Pairwise VolumeSpec.Distinct := by
  induction planned generalizing known with
  | nil => simp [validateReservationVolumes, pure, Except.pure]
  | cons volume planned ih =>
    simp only [validateReservationVolumes, andThen_eq_ok, validateReservationVolume_eq_ok, ih,
      List.forall_mem_cons, List.pairwise_cons, List.forall_mem_append]
    constructor
    · rintro ⟨hvolume, hrest, hpairwise⟩
      exact ⟨⟨hvolume, fun v hv => ⟨(hrest v hv).1, (hrest v hv).2.1⟩⟩,
        fun v hv => (hrest v hv).2.2.1, hpairwise⟩
    · rintro ⟨⟨hvolume, hrest⟩, hdistinct, hpairwise⟩
      exact ⟨hvolume, fun v hv => ⟨(hrest v hv).1, (hrest v hv).2, hdistinct v hv, by simp⟩,
        hpairwise⟩

/-- What `validateMigrationVolumeCheckpoint` accepts. -/
structure ClusterMigrationVolumeStatus.Recorded (status : ClusterMigrationVolumeStatus)
    (volume : VolumeSpec) (destinationNamespace temporaryNamespace : String) : Prop where
  destinationPVC : ∀ ref ∈ status.reservation.destinationPVC,
    ref.name = volume.destinationPVC.name ∧ ref.ns = temporaryNamespace ∧ ref.uid ≠ none
  destinationPV : ∀ ref ∈ status.reservation.destinationPV,
    ref.name ≠ "" ∧ ref.uid ≠ none ∧ ref.ns = ""
  reserved : status.reservation.reserved = true →
    status.reservation.destinationPVC ≠ none ∧ status.reservation.destinationPV ≠ none
  activePVC : ∀ ref ∈ status.activation.activePVC,
    ref.name = volume.sourcePVC.name ∧ ref.ns = destinationNamespace ∧ ref.uid ≠ none
  attempts : 0 ≤ status.sync.attempts
  attemptsReserved : 0 < status.sync.attempts → status.reservation.reserved = true
  completed : status.activation.activatedAt ≠ none ∨ status.activation.rolledBackAt ≠ none →
    status.activation.activePVC ≠ none

/-- What `validateMigrationVolumePhase` accepts. -/
structure ClusterMigrationVolumeStatus.Reached (status : ClusterMigrationVolumeStatus)
    (phase : WorkflowPhase) : Prop where
  reserved : reservationOpen phase = false → status.reservation.reserved = true
  synced : requiresFinalSync phase = true → status.sync.finalCompletedAt ≠ none
  activated : requiresActivation phase = true → status.activation.activatedAt ≠ none
  rolledBack : phase = .rolledBack → status.activation.rolledBackAt ≠ none

theorem validateMigrationVolumeCheckpoint_eq_ok {temporaryNamespace : String} :
    validateMigrationVolumeCheckpoint volume status.reservation status.activation
        status.sync.attempts destinationNamespace temporaryNamespace = .ok () ↔
      status.Recorded volume destinationNamespace temporaryNamespace := by
  simp only [validateMigrationVolumeCheckpoint, andThen_eq_ok, refuse_eq_ok, not_exists, not_and,
    not_or, Bool.not_eq_false, not_not, ne_eq, not_lt]
  constructor
  · rintro ⟨h1, h2, h3, h4, h5, h6, h7⟩
    exact ⟨h1, h2, h3, h4, h5, h6, h7⟩
  · rintro ⟨h1, h2, h3, h4, h5, h6, h7⟩
    exact ⟨h1, h2, h3, h4, h5, h6, h7⟩

theorem validateMigrationVolumePhase_eq_ok :
    validateMigrationVolumePhase status.reservation.reserved status.sync.finalCompletedAt
        status.activation.activatedAt status.activation.rolledBackAt phase = .ok () ↔
      status.Reached phase := by
  simp only [validateMigrationVolumePhase, andThen_eq_ok, refuse_eq_ok, not_and,
    Bool.not_eq_false]
  constructor
  · rintro ⟨h1, h2, h3, h4⟩
    exact ⟨h1, h2, h3, h4⟩
  · rintro ⟨h1, h2, h3, h4⟩
    exact ⟨h1, h2, h3, h4⟩

/-- What `validateMigrationCheckpoints` accepts once there are checkpoints: one for each planned
volume. -/
structure CheckpointsCover (plan : ClusterMigrationPlan)
    (checkpoints : List ClusterMigrationVolumeStatus) (phase : WorkflowPhase) : Prop where
  length : checkpoints.length = plan.volumes.length
  distinct : checkpoints.Pairwise fun s t =>
    s.reservation.sourcePVCName ≠ t.reservation.sourcePVCName
  each : ∀ status ∈ checkpoints,
    ∃ volume ∈ volumeNamed plan.volumes status.reservation.sourcePVCName,
      status.Recorded volume plan.destinationNamespace plan.temporaryNamespace ∧
        status.Reached phase

theorem validateMigrationCheckpoint_eq_ok {temporaryNamespace : String} :
    validateMigrationCheckpoint volumes destinationNamespace temporaryNamespace phase status =
        .ok () ↔
      ∃ volume ∈ volumeNamed volumes status.reservation.sourcePVCName,
        status.Recorded volume destinationNamespace temporaryNamespace ∧
          status.Reached phase := by
  unfold validateMigrationCheckpoint
  cases volumeNamed volumes status.reservation.sourcePVCName with
  | none => simp
  | some volume =>
    simp [validateMigrationVolumeCheckpoint_eq_ok, validateMigrationVolumePhase_eq_ok]

theorem validateMigrationCheckpoints_eq_ok :
    validateMigrationCheckpoints plan.volumes checkpoints plan.destinationNamespace
        plan.temporaryNamespace phase = .ok () ↔
      (checkpoints = [] ∧ reservationOpen phase = true) ∨
        CheckpointsCover plan checkpoints phase := by
  unfold validateMigrationCheckpoints
  split
  · rename_i hempty
    simp [hempty, pure, Except.pure]
  · rename_i hnonempty
    simp only [andThen_eq_ok, refuse_eq_ok, eachFresh_eq_ok, validateMigrationCheckpoint_eq_ok,
      List.not_mem_nil, not_false_eq_true, true_and, not_not, hnonempty, false_or]
    constructor
    · rintro ⟨hlength, heach, hdistinct⟩
      exact ⟨hlength, hdistinct, heach⟩
    · rintro ⟨hlength, hdistinct, heach⟩
      exact ⟨hlength, heach, hdistinct⟩

/-- All namespaces of the plan are this one. -/
structure ClusterMigrationPlan.Local (plan : ClusterMigrationPlan) (ns : String) : Prop where
  source : plan.sourceNamespace = ns
  temporary : plan.temporaryNamespace = ns
  destination : plan.destinationNamespace = ns

/-- What the validation asks of the spec and the plan. -/
@[mk_iff] structure ClusterMigrationPlan.Admitted (kind : MigrationKind)
    (plan : ClusterMigrationPlan) (object : ClusterMigration) : Prop where
  nonempty : plan.volumes ≠ []
  namespaces : kind = .clusterMigration → ¬ object.deleting →
    validateMigrationPlanNamespaces object.spec plan = .ok ()
  policy : validateUnusedStoragePolicy plan.unusedStoragePolicy = .ok ()
  planned : ∀ volume ∈ plan.volumes,
    volume.Planned plan.sourceNamespace plan.temporaryNamespace
  distinct : plan.volumes.Pairwise VolumeSpec.Distinct
  requests : ¬ object.deleting →
    validateMigrationRequestedVolumes object.spec.volumes plan.volumes = .ok ()

/-- What the validation asks of the recorded progress. -/
def ClusterMigration.Progress (object : ClusterMigration) : Prop :=
  match object.plan with
  | none => object.volumes = [] ∧ (workflowResumePhase object.status = .unset ∨
      workflowResumePhase object.status = .planned ∨
      workflowResumePhase object.status = .aborted)
  | some plan => object.status.phase ≠ .unset ∧
      ((object.volumes = [] ∧ reservationOpen (workflowResumePhase object.status) = true) ∨
        CheckpointsCover plan object.volumes (workflowResumePhase object.status))

theorem ClusterMigration.progress_iff {object : ClusterMigration}
    (hplan : object.plan = some plan) :
    object.Progress ↔ object.status.phase ≠ .unset ∧
      ((object.volumes = [] ∧ reservationOpen (workflowResumePhase object.status) = true) ∨
        CheckpointsCover plan object.volumes (workflowResumePhase object.status)) := by
  simp only [ClusterMigration.Progress, hplan]

/-- What the validators accept.  Only `lifecycle` and `progress` depend on the recorded status. -/
@[mk_iff] structure MigrationKind.Valid (kind : MigrationKind) (object : ClusterMigration) :
    Prop where
  named : object.name ≠ "" ∧ (object.ns = "" ↔ kind = .clusterMigration)
  policy : ¬ object.deleting → validateUnusedStoragePolicy object.spec.unusedStoragePolicy = .ok ()
  admitted : ∀ plan ∈ object.plan, plan.Admitted kind object
  lifecycle : validateMigrationLifecycle object.status = .ok ()
  progress : object.Progress

theorem MigrationKind.validate_eq_ok {kind : MigrationKind} {object : ClusterMigration}
    (hlocal : kind = .migration → ∀ plan ∈ object.plan, plan.Local object.ns) :
    kind.validate object = .ok () ↔ kind.Valid object := by
  rw [MigrationKind.valid_iff]
  cases hplan : object.plan with
  | none =>
    simp only [ClusterMigration.Progress, hplan]
    cases kind <;>
      simp [MigrationKind.validate, validateClusterMigrationObject,
        validateMigrationObject, hplan] <;>
      tauto
  | some plan =>
    simp only [ClusterMigration.Progress, hplan, Option.mem_some_iff, forall_eq',
      ClusterMigrationPlan.admitted_iff]
    have hcheckpoints : validateMigrationCheckpoints plan.volumes object.volumes
        plan.destinationNamespace plan.temporaryNamespace (workflowResumePhase object.status) =
          .ok () ↔ _ := validateMigrationCheckpoints_eq_ok
    cases kind with
    | clusterMigration =>
      simp only [MigrationKind.validate, validateClusterMigrationObject, hplan, andThen_eq_ok,
        refuse_eq_ok, onlyIf_eq_ok, validateReservationVolumes_eq_ok, hcheckpoints,
        List.not_mem_nil, false_imp_iff, implies_true, and_true, not_or, not_not, iff_true]
      tauto
    | migration =>
      obtain ⟨hsource, htemporary, hdestination⟩ := hlocal rfl plan hplan
      rw [hdestination, htemporary] at hcheckpoints
      rw [hsource, htemporary]
      simp only [MigrationKind.validate, validateMigrationObject, hplan, andThen_eq_ok,
        refuse_eq_ok, onlyIf_eq_ok, validateReservationVolumes_eq_ok, hcheckpoints,
        List.not_mem_nil, false_imp_iff, implies_true, and_true, not_or, reduceCtorEq, iff_false]
      tauto

theorem validateClusterMigrationObject_eq_ok {object : ClusterMigration} :
    validateClusterMigrationObject object = .ok () ↔ MigrationKind.Valid .clusterMigration object :=
  MigrationKind.validate_eq_ok fun (h : MigrationKind.clusterMigration = .migration) => by cases h

/-! ## Checkpoints of a validated object -/

theorem volumeNamed_of_mem (hdistinct : volumes.Pairwise VolumeSpec.Distinct)
    (hmem : volume ∈ volumes) :
    volumeNamed volumes volume.sourcePVC.name = some volume := by
  induction volumes with
  | nil => cases hmem
  | cons head volumes ih =>
    rw [List.pairwise_cons] at hdistinct
    rcases List.mem_cons.mp hmem with rfl | hmem
    · simp [volumeNamed]
    · have hne : head.sourcePVC.name ≠ volume.sourcePVC.name := (hdistinct.1 volume hmem).1
      have hrest := ih hdistinct.2 hmem
      simp only [volumeNamed] at hrest
      simp [volumeNamed, hne, hrest]

theorem checkpointOf_eq_some (h : checkpointOf checkpoints name = some status) :
    status ∈ checkpoints ∧ status.reservation.sourcePVCName = name :=
  ⟨List.mem_of_find?_eq_some h, by simpa using List.find?_some h⟩

theorem checkpointOf_of_mem
    (hdistinct : checkpoints.Pairwise fun s t =>
      s.reservation.sourcePVCName ≠ t.reservation.sourcePVCName) (hmem : status ∈ checkpoints) :
    checkpointOf checkpoints status.reservation.sourcePVCName = some status := by
  induction checkpoints with
  | nil => cases hmem
  | cons head checkpoints ih =>
    rw [List.pairwise_cons] at hdistinct
    rcases List.mem_cons.mp hmem with rfl | hmem
    · simp [checkpointOf]
    · have hne := hdistinct.1 status hmem
      have hrest := ih hdistinct.2 hmem
      simp only [checkpointOf] at hrest
      simp [checkpointOf, hne, hrest]

theorem volumeNamed_eq_some (h : volumeNamed volumes name = some volume) :
    volume ∈ volumes ∧ volume.sourcePVC.name = name :=
  ⟨List.mem_of_find?_eq_some h, by simpa using List.find?_some h⟩

/-- Every planned volume has a checkpoint: there are as many checkpoints as volumes, and no two
are of one claim. -/
theorem CheckpointsCover.exists_checkpoint (h : CheckpointsCover plan checkpoints phase)
    (hdistinct : plan.volumes.Pairwise VolumeSpec.Distinct) (hmem : volume ∈ plan.volumes) :
    ∃ status, checkpointOf checkpoints volume.sourcePVC.name = some status ∧
      status.Recorded volume plan.destinationNamespace plan.temporaryNamespace ∧
      status.Reached phase := by
  have hnodup : (checkpoints.map fun s => s.reservation.sourcePVCName).Nodup :=
    List.pairwise_map.mpr h.distinct
  have hsubset : (checkpoints.map fun s => s.reservation.sourcePVCName) ⊆
      plan.volumes.map fun v => v.sourcePVC.name := by
    intro name hname
    obtain ⟨status, hstatus, rfl⟩ := List.mem_map.mp hname
    obtain ⟨planned, hplanned, -⟩ := h.each status hstatus
    obtain ⟨hmem, hname⟩ := volumeNamed_eq_some hplanned
    exact List.mem_map.mpr ⟨planned, hmem, hname⟩
  have hperm := (List.subperm_of_subset hnodup hsubset).perm_of_length_le (by simp [h.length])
  have hname : volume.sourcePVC.name ∈ checkpoints.map fun s => s.reservation.sourcePVCName :=
    hperm.mem_iff.mpr (List.mem_map.mpr ⟨volume, hmem, rfl⟩)
  obtain ⟨status, hstatus⟩ : ∃ status,
      checkpointOf checkpoints volume.sourcePVC.name = some status := by
    rw [← Option.isSome_iff_exists, checkpointOf, List.find?_isSome]
    obtain ⟨status, hmem, hname⟩ := List.mem_map.mp hname
    exact ⟨status, hmem, by simpa using hname⟩
  obtain ⟨hmem', hname'⟩ := checkpointOf_eq_some hstatus
  obtain ⟨planned, hplanned, hrecorded, hreached⟩ := h.each status hmem'
  rw [hname', volumeNamed_of_mem hdistinct hmem] at hplanned
  obtain rfl := Option.some.inj hplanned
  exact ⟨status, hstatus, hrecorded, hreached⟩

theorem checkpointOf_amendCheckpoint {other : String}
    {amend : ClusterMigrationVolumeStatus → ClusterMigrationVolumeStatus}
    (hname : ∀ status, status.reservation.sourcePVCName = name →
      (amend status).reservation.sourcePVCName = name) :
    checkpointOf (amendCheckpoint checkpoints name amend) other =
      (checkpointOf checkpoints other).map fun status =>
        if other = name then amend status else status := by
  induction checkpoints with
  | nil => rfl
  | cons status checkpoints ih =>
    simp only [checkpointOf, amendCheckpoint] at ih
    by_cases hhead : status.reservation.sourcePVCName = other
    · subst hhead
      by_cases hsame : status.reservation.sourcePVCName = name <;>
        simp [checkpointOf, amendCheckpoint, hsame, hname status]
    · have hhead' : ¬ (if status.reservation.sourcePVCName = name then amend status
          else status).reservation.sourcePVCName = other := by
        split
        · rename_i hsame
          rwa [hname status hsame, ← hsame]
        · exact hhead
      simp [checkpointOf, amendCheckpoint, hhead, hhead', ih]

theorem checkpointOf_withActivation {other : String} {activation : ActivationStatus} :
    checkpointOf (amendCheckpoint checkpoints name fun status =>
        status.withActivation activation) other =
      (checkpointOf checkpoints other).map fun status =>
        if other = name then status.withActivation activation else status :=
  checkpointOf_amendCheckpoint fun _ hname => hname

theorem amendCheckpoint_eq_self
    {amend : ClusterMigrationVolumeStatus → ClusterMigrationVolumeStatus}
    (h : ∀ status ∈ checkpoints, status.reservation.sourcePVCName = name → amend status = status) :
    amendCheckpoint checkpoints name amend = checkpoints := by
  refine (List.map_congr_left fun status hmem => ?_).trans (List.map_id _)
  split
  · exact h status hmem ‹_›
  · rfl

theorem CheckpointsCover.amend {phase' : WorkflowPhase}
    {amend : ClusterMigrationVolumeStatus → ClusterMigrationVolumeStatus}
    (h : CheckpointsCover plan checkpoints phase)
    (hdistinct : plan.volumes.Pairwise VolumeSpec.Distinct) (hmem : volume ∈ plan.volumes)
    (hname : ∀ status, status.reservation.sourcePVCName = volume.sourcePVC.name →
      (amend status).reservation.sourcePVCName = volume.sourcePVC.name)
    (hamend : ∀ status ∈ checkpoints,
      status.Recorded volume plan.destinationNamespace plan.temporaryNamespace →
      status.Reached phase →
      (amend status).Recorded volume plan.destinationNamespace plan.temporaryNamespace ∧
        (amend status).Reached phase')
    (hphase : ∀ status : ClusterMigrationVolumeStatus, status.Reached phase →
      status.Reached phase') :
    CheckpointsCover plan (amendCheckpoint checkpoints volume.sourcePVC.name amend) phase' := by
  refine ⟨by simpa [amendCheckpoint] using h.length, ?_, ?_⟩
  · refine List.pairwise_map.mpr (h.distinct.imp ?_)
    intro s t hne
    split <;> rename_i hs <;> split <;> rename_i ht
    · exact absurd (hs.trans ht.symm) hne
    · rw [hname s hs]
      exact fun h => ht h.symm
    · rw [hname t ht]
      exact hs
    · exact hne
  · intro status hstatus
    obtain ⟨old, hold, rfl⟩ := List.mem_map.mp hstatus
    obtain ⟨planned, hplanned, hrecorded, hreached⟩ := h.each old hold
    by_cases hsame : old.reservation.sourcePVCName = volume.sourcePVC.name
    · rw [hsame, volumeNamed_of_mem hdistinct hmem] at hplanned
      obtain rfl := Option.some.inj hplanned
      rw [if_pos hsame, hname old hsame]
      exact ⟨volume, volumeNamed_of_mem hdistinct hmem, hamend old hold hrecorded hreached⟩
    · rw [if_neg hsame]
      exact ⟨planned, hplanned, hrecorded, hphase old hreached⟩

end PvcMigrate
