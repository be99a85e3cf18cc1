import PvcMigrate.App.OrphanPlan

/-!
# The orphan cleanup

`CleanupOrphan` (`app/orphan_cleanup.go`) carries a plan out.  Before the activation it deletes the
consumer Pods, the destination claim and the destination volume; after it, the rollback volume.
Then it takes the session's metadata off the source claim, and off the volume of the claim, whose
reclaim policy it restores.  The record and the Lease go last.

Every deletion reads its target again and names the UID and the version of what it read, so what is
deleted carries the labels that were checked.
-/

namespace PvcMigrate

namespace Orphan

open Prog Kube

/-! ## Steps -/

/-- `checkpointFenceError`. -/
def checkpointFence : Action Unit := ask .fence plain

/-- An error of the deletion of a volume. -/
def pvFailure (category : ErrorCategory) (message : String) : Error :=
  ⟨category, "cleanup PV", message⟩

/-- `waitContextError`. -/
def timedOut (description : String) : Error :=
  ⟨.timeout, "wait", s!"timed out waiting for {description}"⟩

variable (id : String) (sourceUID : UID)

/-- The claim is a destination claim of the session, for the source claim with the UID. -/
def OwnedDestination (pvc : PVC) : Prop :=
  pvc.labels.get managedByLabel = managedByValue ∧ pvc.labels.get sessionKey = id ∧
    pvc.labels.get resourceRoleLabel = roleDestination ∧ annotationOwner pvc = id ∧
    pvc.annotations.get sourcePVCUIDAnnotation = sourceUID.text

instance (pvc : PVC) : Decidable (OwnedDestination id sourceUID pvc) :=
  inferInstanceAs (Decidable (_ ∧ _))

def deleteOrphanDestinationPVC (ref : Reference) : Action Unit :=
  let claim := s!"destination PVC {ref.ns}/{ref.name}"
  ask (.getClaim ref.key) (wrapped "cleanup orphan" s!"read {claim}") >>= fun
    | none => ret ()
    | some pvc => do
      reject (pvc.uid ≠ ref.uid ∨ some pvc.resourceVersion ≠ ref.resourceVersion ∨
          ¬ OwnedDestination id sourceUID pvc)
        (failure .conflict s!"{claim} identity or ownership changed")
      checkpointFence
      ask (.deleteClaim ref.key pvc.uid pvc.resourceVersion)
        (wrapped "cleanup orphan" s!"delete {claim}")
      checkpointFence

variable (pv : PV)

/-- `uncheckpointedDestinationPVMatches`. -/
def UncheckpointedDestination (claim : ObjectReference) : Prop :=
  claim.ClaimComplete ∧ pv.labels.get managedByLabel = "" ∧ pv.labels.get sessionKey = "" ∧
    pv.labels.get resourceRoleLabel = "" ∧ pv.annotations.get sessionKey = "" ∧
    pv.annotations.get originalPolicyAnnotation = "" ∧ pv.annotations.get pairedPVAnnotation = "" ∧
    pv.reclaimPolicy = .delete ∧ pv.claimRef = some claim

instance (claim : ObjectReference) : Decidable (UncheckpointedDestination pv claim) :=
  inferInstanceAs (Decidable (_ ∧ _))

/-- The volume carries the session and the role. -/
def InRole (id role : String) (pv : PV) : Prop :=
  pv.labels.get sessionKey = id ∧ pv.labels.get resourceRoleLabel = role

instance (id role : String) (pv : PV) : Decidable (InRole id role pv) :=
  inferInstanceAs (Decidable (_ ∧ _))

variable (ref : Reference)

/-- `cleanupPVIdentityMatches`. -/
def CleanupPVIdentity (id role : String) (claim : Option ObjectReference) (pv : PV) : Prop :=
  pv.uid = ref.uid ∧ (InRole id role pv ∨ ∃ c ∈ claim, UncheckpointedDestination pv c)

instance (id role : String) (claim : Option ObjectReference) (pv : PV) :
    Decidable (CleanupPVIdentity ref id role claim pv) := inferInstanceAs (Decidable (_ ∧ _))

variable (policy : String)

/-- `reclaimPVPolicyMatches`. -/
def ReclaimPVPolicy (claim : Option ObjectReference) (pv : PV) : Prop :=
  if ∃ c ∈ claim, UncheckpointedDestination pv c then policy = "Delete"
  else pv.annotations.get originalPolicyAnnotation = policy ∧ PolicyKept pv policy

instance (claim : Option ObjectReference) (pv : PV) :
    Decidable (ReclaimPVPolicy policy claim pv) :=
  inferInstanceAs (Decidable (ite _ _ _))

def IsReleased : Prop := pv.phase = .released ∨ pv.phase = .available

instance : Decidable (IsReleased pv) := inferInstanceAs (Decidable (_ ∨ _))

/-- The error about a volume that is not released. -/
def unreleased (pv : PV) : Error :=
  pvFailure .precondition s!"PV {pv.name} phase {pv.phase.text} must be Released or Available"

def validateDeletingPVClaim (pv : PV) : Action Unit :=
  match pv.claimRef with
  | none => fail (unreleased pv)
  | some ref => do
    reject (¬ ref.ClaimComplete) (unreleased pv)
    ask (.getClaim ref.key) (wrapped "cleanup PV" s!"read PVC {ref.ns}/{ref.name}") >>= fun
      | none => ret ()
      | some claim => do
        reject (claim.uid ≠ ref.uid) (pvFailure .conflict s!"PV {pv.name} ClaimRef UID changed")
        reject (claim.deletionTimestamp = none) (pvFailure .precondition
          s!"PV {pv.name} is still claimed by PVC {ref.ns}/{ref.name}")

variable (role : String)

/-- `waitForPVRelease`, with the poll of `reclaimedPVReleased`. -/
def waitForPVRelease (claim : Option ObjectReference) (pv : PV) : Action (Option PV) := do
  validateDeletingPVClaim pv
  let release := s!"PV {ref.name} release"
  ask .wait fun _ => timedOut release
  ask (.getVolume ref.name) (wrapped "cleanup PV" s!"wait for {release}") >>= fun
    | none => ret none
    | some current => do
      reject (¬ CleanupPVIdentity ref id role claim current) (pvFailure .conflict
        s!"PV {ref.name} identity, ownership, or role changed while waiting for release")
      reject (¬ IsReleased current) (timedOut release)
      ask (.getVolume ref.name) (wrapped "cleanup PV" s!"read PV {ref.name} after release") >>= fun
        | none => ret none
        | some current => do
          reject (¬ CleanupPVIdentity ref id role claim current)
            (pvFailure .conflict s!"PV {ref.name} identity, ownership, or role changed")
          ret (some current)

/-- The rounds of `restoreReclaimedPVPolicy`: a conflict is tried again. -/
def restoreReclaimedPVPolicyRounds (id : String) (ref : Reference) (role : String)
    (claim : Option ObjectReference) (policy : ReclaimPolicy) : Nat → Action (Option PV)
  | 0 => fail (pvFailure .kubernetes s!"restore reclaim policy for PV {ref.name}")
  | left + 1 => do
    checkpointFence
    ask (.getVolume ref.name)
        (wrapped "cleanup PV" s!"restore reclaim policy for PV {ref.name}") >>= fun
      | none => ret none
      | some current => do
        reject (¬ CleanupPVIdentity ref id role claim current ∨ ¬ IsReleased current ∨
            ¬ ReclaimPVPolicy policy.text claim current)
          (pvFailure .conflict
            s!"PV {ref.name} identity, ownership, state, or reclaim policy changed")
        if current.reclaimPolicy = policy then ret (some current)
        else do
          checkpointFence
          request (.updateVolume { current with reclaimPolicy := policy }) >>= fun
            | .ok updated => do
              checkpointFence
              ret (some updated)
            | .error .conflict => request .fence >>= fun _ =>
              restoreReclaimedPVPolicyRounds id ref role claim policy left
            | .error (.other _) =>
              fail (pvFailure .kubernetes s!"restore reclaim policy for PV {ref.name}")

/-- `restoreReclaimedPVPolicy`; `retry.DefaultRetry` has five steps. -/
def restoreReclaimedPVPolicy
    (claim : Option ObjectReference) (policy : String) : Action (Option PV) :=
  match reclaimPolicyOf policy with
  | none => fail (pvFailure .precondition s!"PV {ref.name} has no valid original reclaim policy")
  | some policy => restoreReclaimedPVPolicyRounds id ref role claim policy 5

def waitForPVDeletion : Action Unit := do
  let deletion := s!"PV {ref.name} deletion"
  ask .wait fun _ => timedOut deletion
  ask (.getVolume ref.name) (wrapped "cleanup PV" s!"wait for {deletion}") >>= fun
    | none => ret ()
    | some current => do
      reject (current.uid ≠ ref.uid)
        (pvFailure .conflict s!"PV {ref.name} was replaced while waiting for deletion")
      fail (timedOut deletion)

def deleteVolume (error : ApiFailure → Error) (pv : PV) : Action Unit := do
  checkpointFence
  ask (.deleteVolume ref.name pv.uid pv.resourceVersion) error
  checkpointFence
  waitForPVDeletion ref

/-- The end of `deleteReclaimedPV`: the policy is restored and the volume deleted. -/
def restoreAndDelete (role policy : String)
    (claim : Option ObjectReference) (pv : PV) : Action Unit := do
  reject (¬ IsReleased pv) (unreleased pv)
  restoreReclaimedPVPolicy id ref role claim policy >>= fun
    | none => ret ()
    | some pv => deleteVolume ref (wrapped "cleanup PV" s!"delete PV {pv.name}") pv

def deleteReclaimedPV (role policy : String) (claim : Option ObjectReference) : Action Unit := do
  checkpointFence
  ask (.getVolume ref.name) (wrapped "cleanup PV" s!"read PV {ref.name}") >>= fun
    | none => ret ()
    | some pv => do
      reject (¬ CleanupPVIdentity ref id role claim pv)
        (pvFailure .conflict s!"PV {ref.name} identity, ownership, or role changed")
      if pv.phase = .bound then
        waitForPVRelease id ref role claim pv >>= fun
          | none => ret ()
          | some pv => restoreAndDelete id ref role policy claim pv
      else restoreAndDelete id ref role policy claim pv

def restoreRollbackPolicy (policy : ReclaimPolicy) (pv : PV) : Action PV :=
  if pv.reclaimPolicy = policy then ret pv
  else do
    checkpointFence
    ask (.updateVolume { pv with reclaimPolicy := policy })
      (wrapped "cleanup orphan" s!"restore reclaim policy for rollback PV {pv.name}")

def deleteOrphanRollbackPV : Action Unit :=
  ask (.getVolume ref.name) (wrapped "cleanup orphan" s!"read rollback PV {ref.name}") >>= fun
    | none => ret ()
    | some pv => do
      reject (pv.uid ≠ ref.uid ∨ some pv.resourceVersion ≠ ref.resourceVersion ∨
          ¬ InRole id roleRollback pv ∨ ¬ IsReleased pv)
        (failure .conflict
          s!"rollback PV {ref.name} identity, ownership, or released state changed")
      let changed := failure .conflict s!"rollback PV {ref.name} original reclaim policy changed"
      match reclaimPolicyOf policy with
      | none => fail changed
      | some restored => do
        reject (pv.annotations.get originalPolicyAnnotation ≠ policy ∨
          ¬ PolicyKept pv policy) changed
        let pv ← restoreRollbackPolicy restored pv
        deleteVolume ref (wrapped "cleanup orphan" s!"delete rollback PV {pv.name}") pv

/-- The labels of a claim without those of the session. -/
def releasedLabels (labels : StringMap) : StringMap :=
  ((if labels.get managedByLabel = managedByValue then
    labels.erase managedByLabel else labels).erase
    sessionKey).erase resourceRoleLabel

/-- The annotations of a claim without those of the session. -/
def releasedAnnotations (annotations : StringMap) : StringMap :=
  (((annotations.erase sessionKey).erase rollbackPVAnnotation).erase sourcePVAnnotation).erase
    sourcePVCUIDAnnotation

/-- The source claim without the metadata of the session. -/
def releasedClaim (pvc : PVC) : PVC :=
  { pvc with
    labels := releasedLabels pvc.labels
    annotations := releasedAnnotations pvc.annotations }

/-- What a claim without a marker must not carry. -/
def Leftover (pvc : PVC) : Prop :=
  ¬ (pvc.labels.get managedByLabel = "" ∧ pvc.labels.get resourceRoleLabel = "" ∧
    annotationOwner pvc = "" ∧ pvc.annotations.get rollbackPVAnnotation = "")

instance (pvc : PVC) : Decidable (Leftover pvc) := inferInstanceAs (Decidable (¬ _))

def finalizeOrphanPVC : Action Unit :=
  let source := s!"source PVC {ref.ns}/{ref.name}"
  ask (.getClaim ref.key) (wrapped "cleanup orphan" s!"read {source}") >>= fun
    | none => fail (failure .kubernetes s!"read {source}")
    | some pvc => do
      reject (pvc.uid ≠ ref.uid ∨ some pvc.resourceVersion ≠ ref.resourceVersion ∨ Foreign id pvc)
        (failure .conflict s!"{source} identity or ownership changed")
      if ¬ Marked id pvc then
        reject (Leftover pvc)
          (failure .conflict s!"{source} has unexpected metadata after ownership cleanup")
      else do
        checkpointFence
        ask (.updateClaim (releasedClaim pvc)) (wrapped "cleanup orphan" s!"finalize {source}")
        checkpointFence

/-- The volume without the metadata of the session, and with its policy. -/
def releasedVolume (policy : ReclaimPolicy) (pv : PV) : PV :=
  { pv with
    reclaimPolicy := policy
    labels := ((pv.labels.erase managedByLabel).erase sessionKey).erase resourceRoleLabel
    annotations := (pv.annotations.erase originalPolicyAnnotation).erase pairedPVAnnotation }

/-- `orphanPVRoleName`, which gives the roles their own names. -/
def orphanPVRoleName (role : String) : String :=
  if role = roleSource ∨ role = roleDestination ∨ role = roleActive then role else "orphan"

def finalizeOrphanPV : Action Unit :=
  let volume := s!"{orphanPVRoleName role} PV {ref.name}"
  ask (.getVolume ref.name) (wrapped "cleanup orphan" s!"read {volume}") >>= fun
    | none => fail (failure .kubernetes s!"read {volume}")
    | some pv => do
      reject (pv.uid ≠ ref.uid ∨ some pv.resourceVersion ≠ ref.resourceVersion ∨
        ¬ InRole id role pv) (failure .conflict s!"{volume} identity or ownership changed")
      match reclaimPolicyOf (pv.annotations.get originalPolicyAnnotation) with
      | none => fail (failure .precondition s!"{volume} has no valid original reclaim policy")
      | some policy => do
        checkpointFence
        let _ ← ask (.updateVolume (releasedVolume policy pv))
          (wrapped "cleanup orphan" s!"finalize {volume}")
        checkpointFence

/-! ## Consumer Pods -/

/-- `inventoryReservationPods`, for one namespace. -/
def inventoryReservationPods (id ns : String) : Action (List Pod) := do
  reject (id = "" ∨ ns = "")
    ⟨.validation, "cleanup", "workflow identity and explicit namespaces are required"⟩
  let pods ← ask (.listPods (some ns) (reservationPodSelector id))
    (wrapped "cleanup" s!"list reservation Pods in {ns}")
  reject ((pods.any fun pod =>
      decide (pod.labels.get managedByLabel ≠ managedByValue ∨ pod.labels.get sessionKey ≠ id ∨
        pod.labels.get resourceRoleLabel ≠ roleReservationConsumer)) = true)
    ⟨.conflict, "cleanup", "reservation Pod ownership changed"⟩
  ret pods

def deleteReservationConsumer (pod : Pod) : Action Unit := do
  checkpointFence
  ask (.deletePod pod.key pod.uid pod.resourceVersion)
    (wrapped "cleanup" s!"delete reservation Pod {pod.name}")
  checkpointFence
  let deletion := s!"reservation Pod {pod.ns}/{pod.name} deletion"
  ask .wait fun _ => timedOut deletion
  ask (.getPod pod.key) plain >>= fun
    | none => ret ()
    | some current => do
      reject (current.uid ≠ pod.uid)
        ⟨.conflict, "cleanup", "reservation Pod was replaced while waiting for deletion"⟩
      fail (timedOut deletion)

def deleteReservationConsumers (pods : List Pod) : Action Unit :=
  each deleteReservationConsumer pods

/-! ## The operation -/

def cleanupPostActivationOrphan (resources : PostActivation) : Action Unit := do
  deleteOrphanRollbackPV id resources.rollbackPV resources.rollbackPolicy
  finalizeOrphanPVC id resources.sourcePVC
  finalizeOrphanPV id resources.activePV roleActive

variable (resources : PreActivation)

/-- The destination claim of `cleanupPreActivationOrphan`, and its consumers. -/
def cleanupDestinationPVC : Action Unit :=
  if resources.destinationPVC.ns = "" then ret ()
  else do
    let pods ← inventoryReservationPods id resources.destinationPVC.ns
    deleteReservationConsumers pods
    ensurePVCUnused resources.destinationPVC id
    deleteOrphanDestinationPVC id resources.sourcePVC.uid resources.destinationPVC

/-- The destination volume of `cleanupPreActivationOrphan`. -/
def cleanupDestinationPV : Action Unit :=
  if resources.destinationPV.name = "" then ret ()
  else deleteReclaimedPV id resources.destinationPV roleDestination resources.destinationPolicy none

def cleanupPreActivationOrphan : Action Unit := do
  cleanupDestinationPVC id resources
  cleanupDestinationPV id resources
  finalizeOrphanPVC id resources.sourcePVC
  finalizeOrphanPV id resources.sourcePV roleSource

def deleteStaleSessionRecord : Action Unit :=
  ask .findOwner plain >>= fun
    | none => ret ()
    | some owner =>
      if owner.stale then ask .deleteRecord (wrapped "cleanup orphan"
        s!"delete stale session record {owner.sessionNamespace}/pvc-migrate-session-{id}")
      else ret ()

def hasOrphanSessionResources : Action Bool := do
  let pvcs ← ask (.listClaims []) (wrapped "cleanup orphan" "list remaining PVC ownership")
  if pvcs.any fun pvc => labelOwner pvc = id || annotationOwner pvc = id then ret true
  else do
    let pvs ← ask (.listVolumes [(sessionKey, id)])
      (wrapped "cleanup orphan" "list remaining PV ownership")
    if 0 < pvs.length then ret true
    else do
      let pods ← ask (.listPods none [(sessionKey, id)])
        (wrapped "cleanup orphan" "list remaining Pod ownership")
      ret (0 < pods.length)

def cleanupResources (plan : Plan) : Action Unit :=
  match plan.mode with
  | some .preActivation =>
    match plan.preActivation with
    | none => fail (failure .internal "pre-activation resources are missing")
    | some resources => cleanupPreActivationOrphan id resources
  | some .postActivation =>
    match plan.postActivation with
    | none => fail (failure .internal "post-activation resources are missing")
    | some resources => cleanupPostActivationOrphan id resources
  | some .recordsOnly => ret ()
  | none => fail (failure .internal "unsupported orphan cleanup mode \"\"")

/-- The end of `CleanupOrphan`: the record and the Lease. -/
def cleanupRecords : Action Unit := do
  deleteStaleSessionRecord id
  let remaining ← hasOrphanSessionResources id
  if remaining then ret ()
  else do
    checkpointFence
    ask .deleteLease plain

/-- `CleanupOrphan`, under the lock. -/
def cleanupOrphanLocked (problems : String → List String) (o : Options) : Action Plan := do
  let plan ← planOrphanCleanup problems o
  reject (plan.ready = false)
    (failure .precondition "orphan cleanup plan contains failed checks")
  cleanupResources o.sessionID plan
  cleanupRecords o.sessionID
  ret plan

/-- The end of `withSessionIDLock`: the lock is released in any case.  Of joined errors the first
one is kept. -/
def releaseLock {α : Type} (result : Except Error α) : Action α :=
  request .fence >>= fun fenced => request .unlock >>= fun released =>
    match result, fenced, released with
    | .ok a, .ok _, .ok _ => ret a
    | .error e, _, _ => fail e
    | _, .error e, _ | _, _, .error e => fail (plain e)

def cleanupOrphan (problems : String → List String) (o : Options) : Action Plan := do
  reject (o.sessionNamespace = "" ∨ o.sessionID = "")
    (failure .validation "session namespace and id are required")
  ask .lock plain
  (cleanupOrphanLocked problems o).handle (fun plan => releaseLock (.ok plan))
    fun e => releaseLock (.error e)

/-! ## The environment -/

/-- The volume is the same, but for its phase: a bound volume is released. -/
structure SameVolume (new old : PV) : Prop where
  name : new.name = old.name
  uid : new.uid = old.uid
  labels : new.labels = old.labels
  annotations : new.annotations = old.annotations
  reclaimPolicy : new.reclaimPolicy = old.reclaimPolicy
  claimRef : new.claimRef = old.claimRef
  phase : new.phase = old.phase ∨ old.phase = .bound ∧ new.phase = .released

/-- The claim that the volume refers to is there. -/
def World.ClaimExists (w : World) (pv : PV) : Prop :=
  ∃ pvc ∈ w.claims.objects, pv.claimRef = some pvc.ref

/-- What the storage controllers may do: claims and Pods that are being deleted go, and volumes
whose claim is gone are released or go. -/
structure Controls (w w' : World) : Prop where
  claims : ∃ keep : PVC → Bool, w'.claims.objects = w.claims.objects.filter keep ∧
    ∀ pvc ∈ w.claims.objects, pvc.deletionTimestamp = none → keep pvc = true
  volumes : ∃ change : PV → Option PV, w'.volumes.objects = w.volumes.objects.filterMap change ∧
    ∀ pv ∈ w.volumes.objects, (∀ pv', change pv = some pv' → SameVolume pv' pv) ∧
      (w.ClaimExists pv → change pv = some pv)
  pods : ∃ keep : Pod → Bool, w'.pods.objects = w.pods.objects.filter keep
  attachments : w'.attachments ⊆ w.attachments
  owner : w'.owner = w.owner

theorem SameVolume.refl (pv : PV) : SameVolume pv pv := ⟨rfl, rfl, rfl, rfl, rfl, rfl, .inl rfl⟩

theorem Controls.refl (w : World) : Controls w w where
  claims := ⟨fun _ => true, by simp, fun _ _ _ => rfl⟩
  volumes := ⟨some, by simp, fun pv _ => ⟨fun pv' h => by cases h; exact .refl pv, fun _ => rfl⟩⟩
  pods := ⟨fun _ => true, by simp⟩
  attachments := List.Subset.refl _
  owner := rfl

/-- What a call can do: it is answered, it fails, or its effect is there although it failed. -/
inductive Observed (w : World) (op : Call) : op.Reply → World → Prop
  | served {w1 : World} : Controls w w1 → Observed w op (serve op w1).1 (serve op w1).2
  | failed {w1 : World} {e : ApiFailure} : Controls w w1 → Observed w op (.error e) w1
  | lost {w1 : World} {e : ApiFailure} : Controls w w1 → Observed w op (.error e) (serve op w1).2

end Orphan

end PvcMigrate
