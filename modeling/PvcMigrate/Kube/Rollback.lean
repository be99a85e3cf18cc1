import PvcMigrate.Kube.Activation

/-!
# Rollback

`RollbackPVC` (`switcher_rollback.go`, and `completeRollback` in `switcher_active_pvc.go`) gives a
migrated volume back its source claim: it deletes the activated claim, wherever that landed,
reserves the source volume and creates the source claim on it.  The only checkpoint it saves is the
last one; a run that is stopped is recognised from the objects in the cluster.
-/

namespace PvcMigrate.Kube

open Prog

variable {ρ : Type}

def ActivationStatus.rolledBack (status : ActivationStatus) (pvc : PVC) (now : Time) :
    ActivationStatus :=
  { status with
    activePVC := some pvc.ref
    rolledBackAt := some now }

variable (sessionID : String) (volume : PVCTransferBindings)

def completeRollback
    (status : ActivationStatus) (pvc : PVC) (progress : ActivationStatus → Switch ρ Unit) :
    Switch ρ Unit := do
  verifyBinding pvc volume.sourcePV
  markPVPair sessionID volume.sourcePV volume.destinationPV true
  progress (status.rolledBack pvc (← Api.now))

/-- `removeActiveDestination`.  The volume is pinned first: a provisioner may have restored its
reclaim policy after the activation. -/
def removeActiveDestination (current : PVC) : Switch ρ Unit := do
  reject (current.spec.volumeName ≠ volume.destinationPV.name ∨
      current.annotations.get sessionKey ≠ sessionID)
    (newError .conflict "rollback volume"
      s!"PVC {current.ns}/{current.name} is not the session's active destination")
  verifyBinding current volume.destinationPV
  ensureRetain volume.destinationPV sessionID "destination"
  deletePVC current.ref
  ensureDetached volume.destinationPV.name

/-- The first part of `RollbackPVC`: the activated claim of another namespace is removed there. -/
def removeForeignDestination (sessionID activateNamespace : String)
    (volume : PVCTransferBindings) : Switch ρ Unit :=
  if activateNamespace = volume.sourcePVC.ns then pure ()
  else do
    match ← Api.getPVC activateNamespace volume.sourcePVC.name with
    | none => pure ()
    | some active => removeActiveDestination sessionID volume active

/-- The last part of `RollbackPVC`: the source claim is created again. -/
def restoreSource (desired : PVC)
    (status : ActivationStatus) (progress : ActivationStatus → Switch ρ Unit) :
    Switch ρ Unit := do
  ensureRetain volume.sourcePV sessionID "source"
  ensureRetain volume.destinationPV sessionID "destination"
  validateBoundPVC desired
  reservePV volume.sourcePV volume.sourcePVC.ns volume.sourcePVC.name sessionID
  let recreated ← createBoundPVC sessionID desired
  completeRollback sessionID volume status recreated progress

def PVCTransferBindings.Restorable : Prop :=
  volume.sourcePVC.ClaimComplete ∧ volume.sourcePV.VolumeComplete ∧
    volume.destinationPV.VolumeComplete

instance : Decidable volume.Restorable :=
  inferInstanceAs (Decidable (_ ∧ _))

def validateRollbackPVC (desired : PVC) : Switch ρ Unit := do
  reject (sessionID = "") (newError .validation "rollback PVC"
    "workflow ID, desired PVC and activation checkpoint are required")
  reject (¬ volume.Restorable) (newError .precondition "rollback PVC"
    "source PVC and source/destination PV identities are required")
  reject (¬ desired.IsManifest sessionID volume.sourcePVC.ns volume.sourcePVC.name
      volume.sourcePV.name)
    (newError .conflict "rollback PVC"
      "desired PVC differs from the recorded rollback identity or ownership")
  reject (desired.spec.request.getD 0 ≤ 0) (newError .validation "rollback PVC"
    "desired PVC capacity must be positive")

def rollbackPVC (sessionID activateNamespace : String) (volume : PVCTransferBindings)
    (desired : PVC) (status : ActivationStatus) (progress : ActivationStatus → Switch ρ Unit) :
    Switch ρ Unit := do
  validateRollbackPVC sessionID volume desired
  removeForeignDestination sessionID activateNamespace volume
  ensureNoConsumers volume.sourcePVC.ns volume.sourcePVC.name
  match ← Api.getPVC volume.sourcePVC.ns volume.sourcePVC.name with
  | none => restoreSource sessionID volume desired status progress
  | some current =>
    if current.spec.volumeName = volume.sourcePV.name then do
      reject (current.uid ≠ volume.sourcePVC.uid ∧
          current.annotations.get sessionKey ≠ sessionID)
        (newError .conflict "rollback volume"
          s!"PVC {current.ns}/{current.name} is not the original or session-owned source PVC")
      completeRollback sessionID volume status current progress
    else do
      removeActiveDestination sessionID volume current
      restoreSource sessionID volume desired status progress

end PvcMigrate.Kube
