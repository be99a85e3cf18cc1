import PvcMigrate.Kube.Offline

/-!
# Activation

`ActivatePVC` (`switcher_activation.go`, `switcher_active_pvc.go`) replaces the source claim of
a migrated volume by a claim on the destination volume: it pins both volumes, deletes the
temporary claim and the source claim, reserves the destination volume and creates the activated
claim on it.  After each of these it saves a checkpoint; a run that is stopped is run again from
the last one.

A save that fails leaves the in-memory checkpoint at its previous value, so the status is passed
along and handed to `progress` when it changes.
-/

namespace PvcMigrate.Kube

open Prog

variable {ρ : Type}

/-- `v1alpha1.ClusterVolumeActivationStatus`. -/
structure ActivationStatus where
  temporaryPVCDeleted : Bool := false
  sourcePVCDeleted : Bool := false
  destinationReserved : Bool := false
  activePVC : Option ObjectReference := none
  activatedAt : Option Time := none
  rolledBackAt : Option Time := none
  deriving DecidableEq, Repr

/-- The activation of the volume is recorded, at least in part. -/
def ActivationStatus.IsRecorded (activation : ActivationStatus) : Prop :=
  activation.activatedAt ≠ none ∨ activation.activePVC ≠ none

/-! ## The claim to create -/

/-- `v1alpha1.PVCMetadata`. -/
structure PVCMetadata where
  labels : StringMap := fun _ => none
  annotations : StringMap := fun _ => none
  ownerReferences : List String := []

/-- The annotations `PVCAnnotationsForRecreation` drops. -/
def controllerAnnotations : List String :=
  ["pv.kubernetes.io/bind-completed", "pv.kubernetes.io/bound-by-controller",
    "volume.kubernetes.io/selected-node", "volume.kubernetes.io/storage-provisioner",
    "volume.beta.kubernetes.io/storage-provisioner", "volume.kubernetes.io/storage-resizer",
    "kubectl.kubernetes.io/last-applied-configuration", sessionKey]

/-- `PVCAnnotationsForRecreation`. -/
def pvcAnnotationsForRecreation (input : StringMap) : StringMap :=
  fun key => if key ∈ controllerAnnotations then none else input key

variable (sessionID : String)

def boundPVCManifest (claim : ObjectReference) (pvName : String)
    (sourceSpec : PVCSpec) (metadata : PVCMetadata) : PVC where
  ns := claim.ns
  name := claim.name
  labels := (metadata.labels.set managedByLabel managedByValue).set sessionKey sessionID
  annotations := (pvcAnnotationsForRecreation metadata.annotations).set sessionKey sessionID
  ownerReferences := metadata.ownerReferences
  spec := { sourceSpec with
    volumeName := pvName
    selector := none
    dataSource := none
    dataSourceRef := none
    storageClassName := some (sourceSpec.storageClassName.getD "") }

/-! ## The steps -/

/-- `activePVC`: the claim at the place of the activated claim, unless it is the original. -/
def activePVC (sessionID activateNamespace : String) (sourcePVC sourcePV destinationPV :
    ObjectReference) : Switch ρ (Option PVC) := do
  match ← Api.getPVC activateNamespace sourcePVC.name with
  | none => pure none
  | some pvc =>
    if pvc.uid = sourcePVC.uid ∧ pvc.spec.volumeName = sourcePV.name then do
      verifyBinding pvc sourcePV
      pure none
    else if pvc.spec.volumeName = destinationPV.name ∧
        pvc.annotations.get sessionKey = sessionID then
      pure (some pvc)
    else fail (newError .conflict "activate volume"
      s!"PVC {pvc.ns}/{pvc.name} has unexpected UID or binding")

def validateTemporaryActivationPVC (temporaryPVC : PVC) (volume : PVCTransferBindings)
    (status : ActivationStatus) : Switch ρ Unit := do
  reject (status.temporaryPVCDeleted = true) (newError .conflict "activate volume"
    (s!"temporary destination PVC {temporaryPVC.ns}/{temporaryPVC.name} reappeared after " ++
      "its deletion checkpoint"))
  reject (temporaryPVC.uid ≠ volume.destinationPVC.uid) (newError .conflict "activate volume"
    s!"temporary destination PVC {temporaryPVC.ns}/{temporaryPVC.name} UID changed")
  verifyBinding temporaryPVC volume.destinationPV

/-- `deleteTemporaryActivationPVC` and `deleteSourceActivationPVC`: delete a claim once, wait
until its volume is detached, and save that it is gone. -/
def deleteCheckpointed (done : Bool) (claim pv : ObjectReference) (status : ActivationStatus)
    (progress : ActivationStatus → Switch ρ Unit) (next : ActivationStatus) :
    Switch ρ ActivationStatus :=
  if done then pure status
  else do
    deletePVC claim
    ensureDetached pv.name
    progress next
    pure next

variable (volume : PVCTransferBindings) (status : ActivationStatus)

def deleteTemporaryActivationPVC
    (progress : ActivationStatus → Switch ρ Unit) : Switch ρ ActivationStatus :=
  deleteCheckpointed status.temporaryPVCDeleted volume.destinationPVC volume.destinationPV status
    progress { status with temporaryPVCDeleted := true }

def deleteSourceActivationPVC
    (progress : ActivationStatus → Switch ρ Unit) : Switch ρ ActivationStatus :=
  deleteCheckpointed status.sourcePVCDeleted volume.sourcePVC volume.sourcePV status progress
    { status with sourcePVCDeleted := true }

variable (desired : PVC)

def reserveActivationDestination (status : ActivationStatus)
    (progress : ActivationStatus → Switch ρ Unit) : Switch ρ ActivationStatus :=
  if status.destinationReserved then pure status
  else do
    validateBoundPVC desired
    reservePV volume.destinationPV desired.ns desired.name sessionID
    progress { status with destinationReserved := true }
    pure { status with destinationReserved := true }

/-- `validateActivePVCRequest`, for a required capacity that is a quantity. -/
def validateActivePVCRequest (pvc : PVC) (capacity : Int) : Switch ρ Unit := do
  reject (capacity ≤ 0) (newError .validation "active PVC"
    s!"destination capacity \"{capacity}\" is invalid: capacity must be positive")
  reject (pvc.spec.request ≠ some capacity) (newError .conflict "active PVC"
    (s!"PVC {pvc.ns}/{pvc.name} requests " ++ (pvc.spec.request.elim "missing" toString) ++
      s!", session requires {capacity}"))

/-- The checkpoint of a completed activation. -/
def ActivationStatus.activated (pvc : PVC) (now : Time) :
    ActivationStatus :=
  { status with
    activePVC := some pvc.ref
    activatedAt := some now
    temporaryPVCDeleted := true
    sourcePVCDeleted := true
    destinationReserved := true }

def completeActivation
    (status : ActivationStatus) (pvc : PVC) (progress : ActivationStatus → Switch ρ Unit) :
    Switch ρ Unit := do
  validateActivePVCRequest pvc (desired.spec.request.getD 0)
  verifyBinding pvc volume.destinationPV
  markPVPair sessionID volume.sourcePV volume.destinationPV false
  progress (status.activated pvc (← Api.now))

def activateVolumeResources (sessionID activateNamespace : String)
    (volume : PVCTransferBindings) (desired : PVC) (status : ActivationStatus)
    (progress : ActivationStatus → Switch ρ Unit) : Switch ρ Unit := do
  ensureNoConsumers volume.sourcePVC.ns volume.sourcePVC.name
  ensureNoConsumers volume.destinationPVC.ns volume.destinationPVC.name
  ensureDetached volume.sourcePV.name
  ensureDetached volume.destinationPV.name
  match ← activePVC sessionID activateNamespace volume.sourcePVC volume.sourcePV
      volume.destinationPV with
  | some active => completeActivation sessionID volume desired status active progress
  | none => do
    ensureRetain volume.sourcePV sessionID "source"
    ensureRetain volume.destinationPV sessionID "destination"
    let status ← deleteTemporaryActivationPVC volume status progress
    let status ← deleteSourceActivationPVC volume status progress
    let status ← reserveActivationDestination sessionID volume desired status progress
    let created ← createBoundPVC sessionID desired
    completeActivation sessionID volume desired status created progress

/-- The manifest is the session's claim `name` of `ns` on the volume `pvName`. -/
def PVC.IsManifest (sessionID ns name pvName : String) : Prop :=
  desired.ns = ns ∧ desired.name = name ∧ desired.spec.volumeName = pvName ∧
    desired.OwnedBy sessionID

instance (sessionID ns name pvName : String) :
    Decidable (desired.IsManifest sessionID ns name pvName) :=
  inferInstanceAs (Decidable (_ ∧ _))

def activatePVC (sessionID activateNamespace : String) (volume : PVCTransferBindings)
    (desired : PVC) (status : ActivationStatus) (progress : ActivationStatus → Switch ρ Unit) :
    Switch ρ Unit := do
  reject (sessionID = "" ∨ activateNamespace = "") (newError .validation "activate PVC"
    "workflow ID, activate namespace, desired PVC and activation checkpoint are required")
  reject (¬ volume.Complete) (newError .precondition "activate PVC"
    "source and destination PVC/PV identities are required")
  reject (¬ desired.IsManifest sessionID activateNamespace volume.sourcePVC.name
      volume.destinationPV.name)
    (newError .conflict "activate PVC"
      "desired PVC differs from the recorded cutover identity or ownership")
  reject (desired.spec.request.getD 0 ≤ 0) (newError .validation "activate PVC"
    "desired PVC capacity must be positive")
  match ← Api.getPVC volume.destinationPVC.ns volume.destinationPVC.name with
  | none => activateVolumeResources sessionID activateNamespace volume desired status progress
  | some temporaryPVC => do
    validateTemporaryActivationPVC temporaryPVC volume status
    activateVolumeResources sessionID activateNamespace volume desired status progress

end PvcMigrate.Kube
