import PvcMigrate.Kube.Cluster
import PvcMigrate.Lib.Observed
import PvcMigrate.Lib.Registry
import PvcMigrate.Lib.Text

/-!
# The plan of an orphan cleanup

When the record of a workflow is lost, its claims and volumes still carry the session's labels.
`PlanOrphanCleanup` (`app/orphan_cleanup.go`) works out from this metadata what the session was
doing: before the activation the claim is bound to a volume with the role `source`, and a
destination claim and a destination volume may be there; after it the claim is bound to a volume
with the role `active`, and the volume it had before has the role `rollback`.

The plan is recomputed from whatever is left, also by a cleanup that an earlier one was cut off in.
What it reads is a list of checks; a failed one makes the plan unready, but most do not end it.
-/

namespace PvcMigrate

namespace Orphan

open Prog Kube

/-! ## The cluster -/

/-- `corev1.Pod`. -/
structure Pod extends Kube.Pod where
  uid : UID
  resourceVersion : Nat := 0
  labels : StringMap := fun _ => none
  terminating : Bool := false

def Pod.key (pod : Pod) : String × String := (pod.ns, pod.name)

def claimKey (pvc : PVC) : String × String := (pvc.ns, pvc.name)

/-- `kube.WorkflowOwner`: whether the record is a ConfigMap, and the resource that serves it. -/
structure WorkflowOwner where
  id : String
  sessionNamespace : String
  configMap : Bool
  resource : String
  phase : WorkflowPhase
  deriving DecidableEq, Repr

def WorkflowOwner.backend (owner : WorkflowOwner) : String :=
  if owner.configMap then "configmap" else "crd"

/-- A record of a kind that this build no longer serves. -/
def WorkflowOwner.stale (owner : WorkflowOwner) : Bool := owner.configMap && owner.resource = ""

/-- The objects of the cluster, and the record that is found for the session. -/
structure World where
  claims : Registry claimKey
  volumes : Registry PV.name
  pods : Registry Pod.key
  attachments : List VolumeAttachment
  owner : Option WorkflowOwner
  /-- the next resource version -/
  nextVersion : Nat

/-- `v1alpha1.ObjectReference`, with the resource version, if there is one. -/
structure Reference extends ObjectReference where
  resourceVersion : Option Nat := none
  deriving DecidableEq, Repr

/-- `kube.PVCReference`. -/
def pvcReference (pvc : PVC) : Reference := ⟨pvc.ref, some pvc.resourceVersion⟩

variable (pv : PV)

/-- `kube.PVReference`. -/
def pvReference : Reference := ⟨⟨"", pv.name, pv.uid⟩, some pv.resourceVersion⟩

/-! ## Calls -/

abbrev Selector := List (String × String)

def Selector.matches (selector : Selector) (labels : StringMap) : Bool :=
  selector.all fun requirement => labels requirement.1 = some requirement.2

inductive Call
  /-- `AcquireRequiredSessionLock` -/
  | lock
  /-- the `Release` of the lock -/
  | unlock
  /-- `checkpointFenceError`, `LeaseFenceError` -/
  | fence
  /-- the `Delete` of the lock -/
  | deleteLease
  /-- `WorkflowOwnerFinder.Find` -/
  | findOwner
  | deleteRecord
  | getClaim (key : String × String)
  | listClaims (selector : Selector)
  | updateClaim (pvc : PVC)
  | deleteClaim (key : String × String) (uid : UID) (resourceVersion : Nat)
  | getVolume (name : String)
  | listVolumes (selector : Selector)
  | updateVolume (pv : PV)
  | deleteVolume (name : String) (uid : UID) (resourceVersion : Nat)
  | getPod (key : String × String)
  /-- the Pods of a namespace, or of all -/
  | listPods (ns : Option String) (selector : Selector)
  | deletePod (key : String × String) (uid : UID) (resourceVersion : Nat)
  | listAttachments
  /-- the time between two polls of `WaitFor` -/
  | wait

/-- What a call returns if it succeeds; an object that is not there is `none`. -/
@[reducible] def Call.Result : Call → Type
  | .findOwner => Option WorkflowOwner
  | .getClaim _ => Option PVC
  | .listClaims _ => List PVC
  | .getVolume _ => Option PV
  | .listVolumes _ => List PV
  | .updateVolume _ => PV
  | .getPod _ => Option Pod
  | .listPods .. => List Pod
  | .listAttachments => List VolumeAttachment
  | _ => Unit

/-- The errors of the API that the cleaner tells apart. -/
inductive ApiFailure
  | conflict
  | other (text : String)
  deriving DecidableEq, Repr

def ApiFailure.text : ApiFailure → String
  | .conflict => "conflict"
  | .other text => text

@[reducible] def Call.Reply (op : Call) : Type := Except ApiFailure op.Result

namespace World

def changeClaim (w : World) (key : String × String) (f : PVC → PVC)
    (hf : ∀ pvc, claimKey (f pvc) = claimKey pvc) : World :=
  { w with claims := w.claims.modify key f hf, nextVersion := w.nextVersion + 1 }

def changeVolume (w : World) (name : String) (f : PV → PV) (hf : ∀ pv, (f pv).name = pv.name) :
    World :=
  { w with volumes := w.volumes.modify name f hf, nextVersion := w.nextVersion + 1 }

def changePod (w : World) (key : String × String) (f : Pod → Pod)
    (hf : ∀ pod, (f pod).key = pod.key) : World :=
  { w with pods := w.pods.modify key f hf }

end World

def updatedClaim (version : Nat) (new old : PVC) : PVC :=
  { old with labels := new.labels, annotations := new.annotations, resourceVersion := version }

/-- A volume after an update of its metadata and its policy. -/
def updatedVolume (version : Nat) (new old : PV) : PV :=
  { old with
    labels := new.labels
    annotations := new.annotations
    reclaimPolicy := new.reclaimPolicy
    resourceVersion := version }

def PVC.deleting (pvc : PVC) : PVC := { pvc with deletionTimestamp := some "now" }

def PV.deleting : PV := { pv with deletionTimestamp := some "now" }

def Pod.deleting (pod : Pod) : Pod := { pod with terminating := true }

/-- What the API server answers, and the cluster after the call.  An update and a deletion name the
version they were decided on. -/
def serve : (op : Call) → World → op.Reply × World
  | .lock, w | .unlock, w | .fence, w | .deleteLease, w => (.ok (), w)
  | .findOwner, w => (.ok w.owner, w)
  | .deleteRecord, w => (.ok (), { w with owner := none })
  | .getClaim key, w => (.ok (w.claims.find key), w)
  | .listClaims selector, w => (.ok (w.claims.select fun pvc => selector.matches pvc.labels), w)
  | .updateClaim pvc, w =>
    match w.claims.find (claimKey pvc) with
    | none => (.error (.other "not found"), w)
    | some current =>
      if current.uid = pvc.uid ∧ current.resourceVersion = pvc.resourceVersion then
        (.ok (), w.changeClaim (claimKey pvc) (updatedClaim w.nextVersion pvc) fun _ => rfl)
      else (.error .conflict, w)
  | .deleteClaim key uid version, w =>
    match w.claims.find key with
    | none => (.ok (), w)
    | some current =>
      if current.uid = uid ∧ current.resourceVersion = version then
        (.ok (), w.changeClaim key PVC.deleting fun _ => rfl)
      else (.error .conflict, w)
  | .getVolume name, w => (.ok (w.volumes.find name), w)
  | .listVolumes selector, w => (.ok (w.volumes.select fun pv => selector.matches pv.labels), w)
  | .updateVolume pv, w =>
    match w.volumes.find pv.name with
    | none => (.error (.other "not found"), w)
    | some current =>
      if current.uid = pv.uid ∧ current.resourceVersion = pv.resourceVersion then
        (.ok (updatedVolume w.nextVersion pv current),
          w.changeVolume pv.name (updatedVolume w.nextVersion pv) fun _ => rfl)
      else (.error .conflict, w)
  | .deleteVolume name uid version, w =>
    match w.volumes.find name with
    | none => (.ok (), w)
    | some current =>
      if current.uid = uid ∧ current.resourceVersion = version then
        (.ok (), w.changeVolume name PV.deleting fun _ => rfl)
      else (.error .conflict, w)
  | .getPod key, w => (.ok (w.pods.find key), w)
  | .listPods ns selector, w =>
    (.ok (w.pods.select fun pod => (ns.all fun ns => decide (pod.ns = ns)) &&
      selector.matches pod.labels), w)
  | .deletePod key uid version, w =>
    match w.pods.find key with
    | none => (.ok (), w)
    | some current =>
      if current.uid = uid ∧ current.resourceVersion = version then
        (.ok (), w.changePod key Pod.deleting fun _ => rfl)
      else (.error .conflict, w)
  | .listAttachments, w => (.ok w.attachments, w)
  | .wait, w => (.ok (), w)

abbrev Action (α : Type) := Prog Call Call.Reply Error α

def failure (category : ErrorCategory) (message : String) : Error :=
  ⟨category, "cleanup orphan", message⟩

/-- An error that is returned as it is; it has no category of its own. -/
def plain (e : ApiFailure) : Error := ⟨.internal, "", e.text⟩

/-- `WrapError`. -/
def wrapped (operation message : String) (_ : ApiFailure) : Error :=
  ⟨.kubernetes, operation, message⟩

/-- A call whose error the program deals with. -/
def request (op : Call) : Action op.Reply := perform op

/-- A call whose error the program returns. -/
def ask (op : Call) (error : ApiFailure → Error) : Action op.Result :=
  request op >>= fun
    | .ok a => ret a
    | .error e => fail (error e)

/-! ## Metadata -/

def sourcePVCUIDAnnotation : String := "migrate.sealos.io/source-pvc-uid"

def sourcePVAnnotation : String := "migrate.sealos.io/source-pv"

/-- `ResourceRoleSource`. -/
def roleSource : String := "source"

/-- `ResourceRoleDestination`. -/
def roleDestination : String := "destination"

/-- `ResourceRoleActive`. -/
def roleActive : String := "active"

/-- `ResourceRoleRollback`. -/
def roleRollback : String := "rollback"

/-- `ResourceRoleReservationConsumer`. -/
def roleReservationConsumer : String := "reservation-consumer"

/-- The labels of an object of a session in a role. -/
def roleSelector (id role : String) : Selector :=
  [(managedByLabel, managedByValue), (sessionKey, id), (resourceRoleLabel, role)]

variable (id : String)

def preActivationDestinationSelector : Selector := roleSelector id roleDestination

def preActivationSourceSelector : Selector := roleSelector id roleSource

def reservationPodSelector : Selector := roleSelector id roleReservationConsumer

def sessionOwnedSelector : Selector :=
  [(managedByLabel, managedByValue), (sessionKey, id)]

variable (text : String)

def validReclaimPolicy : Bool := (reclaimPolicyOf text).isSome

/-- The policy is `Retain` or the given one. -/
def PolicyKept : Prop :=
  pv.reclaimPolicy = .retain ∨ pv.reclaimPolicy.text = text

instance : Decidable (PolicyKept pv text) :=
  inferInstanceAs (Decidable (_ ∨ _))

/-! ## The plan -/

/-- `domain.CheckName`. -/
inductive CheckName
  | sessionID
  | identity
  | sessionRecord
  | sourcePVC
  | sourcePV
  | sourceOwnership
  | currentPV
  | currentOwnership
  | currentClaim
  | currentPolicy
  | activationState
  | rollbackPV
  | rollbackOwnership
  | rollbackState
  | rollbackPolicy
  | pvPair
  | destinationPVC
  | destinationPV
  | destinationOwnership
  | destinationPolicy
  | destinationClaim
  | destinationConsumers
  | otherResources
  | resources
  deriving DecidableEq, Repr

/-- `domain.CheckSeverity`. -/
inductive CheckSeverity
  | info
  | warning
  | error
  deriving DecidableEq, Repr

/-- `domain.Check`. -/
structure Check where
  name : CheckName
  severity : CheckSeverity
  passed : Bool
  message : String
  deriving DecidableEq, Repr

variable (name : CheckName) (message : String)

def orphanPassed : Check := ⟨name, .info, true, message⟩

def orphanFailed : Check := ⟨name, .error, false, message⟩

def orphanWarning : Check := ⟨name, .warning, true, message⟩

def Check.blocks (check : Check) : Bool := check.severity = .error && !check.passed

def failIf (bad : Prop) [Decidable bad] (name : CheckName) (message : String) : List Check :=
  if bad then [orphanFailed name message] else []

def warnIf (cond : Prop) [Decidable cond] (name : CheckName) (message : String) : List Check :=
  if cond then [orphanWarning name message] else []

/-- `domain.OrphanCleanupMode`. -/
inductive Mode
  | preActivation
  | postActivation
  | recordsOnly
  deriving DecidableEq, Repr

/-- `domain.OrphanPreActivationCleanup`. -/
structure PreActivation where
  sourcePVC : Reference
  sourcePV : Reference
  destinationPVC : Reference := {}
  destinationPV : Reference := {}
  destinationPolicy : String := ""
  deriving DecidableEq, Repr

/-- `domain.OrphanPostActivationCleanup`. -/
structure PostActivation where
  sourcePVC : Reference
  activePV : Reference
  rollbackPV : Reference := {}
  rollbackPolicy : String := ""
  deriving DecidableEq, Repr

/-- `domain.OrphanCleanupPlan`. -/
structure Plan where
  mode : Option Mode := none
  preActivation : Option PreActivation := none
  postActivation : Option PostActivation := none
  checks : List Check := []
  ready : Bool := true
  deriving DecidableEq, Repr

variable (plan : Plan)

def Plan.addCheck (check : Check) : Plan :=
  { plan with checks := plan.checks ++ [check], ready := plan.ready && !check.blocks }

/-- The plan with a check that failed. -/
abbrev Plan.failed : Plan := plan.addCheck (orphanFailed name message)

def Plan.addChecks (checks : List Check) : Plan := checks.foldl Plan.addCheck plan

/-- A plan that is ready passes one more check. -/
def Plan.addReady (message : String) : Plan :=
  plan.addChecks (if plan.ready then [orphanPassed .resources message] else [])

def Plan.inMode (mode : Mode) : Plan := { plan with mode := some mode }

/-- The plan with the resources before the activation. -/
def Plan.withPreActivation (resources : PreActivation) : Plan :=
  { plan with preActivation := some resources }

/-- The plan with the resources after the activation. -/
def Plan.withPostActivation (resources : PostActivation) : Plan :=
  { plan with postActivation := some resources }

/-- `OrphanCleanupOptions`. -/
structure Options where
  sessionID : String
  sessionNamespace : String
  sourceNamespace : String
  sourcePVC : String
  deriving DecidableEq, Repr

variable (o : Options)

/-- The namespace and the name of the source claim. -/
def Options.sourceKey : String × String := (o.sourceNamespace, o.sourcePVC)

/-- The checks of the options; `problems` is `IsDNS1123Label`. -/
def optionChecks (problems : String → List String) (o : Options) : List Check :=
  failIf (problems o.sessionID ≠ []) .sessionID ("; ".intercalate (problems o.sessionID)) ++
  failIf (o.sessionNamespace = "" ∨ o.sourceNamespace = "" ∨ o.sourcePVC = "") .identity
    "session namespace, source namespace, and source PVC are required"

def checkOrphanSessionRecord : Action Check :=
  request .findOwner >>= fun
    | .error e => ret (orphanFailed .sessionRecord s!"read workflow records: {e.text}")
    | .ok none => ret (orphanPassed .sessionRecord
        "workflow records are absent; orphan ownership recovery is required")
    | .ok (some owner) =>
      let session := s!"session {owner.sessionNamespace}/{owner.id}"
      if owner.stale then ret (orphanPassed .sessionRecord
        (session ++ " uses a kind this build no " ++
        "longer serves; orphan ownership recovery applies and removes the stale record"))
      else ret (orphanFailed .sessionRecord (session ++ s!" still exists in the {owner.backend} " ++
        s!"backend (phase {owner.phase.text}); use the owning workflow lifecycle commands after " ++
        "reading its status"))

variable (pvc : PVC)

/-- The session that the annotation of a claim names. -/
def annotationOwner : String := pvc.annotations.get sessionKey

/-- The session that the label of a claim names. -/
def labelOwner : String := pvc.labels.get sessionKey

/-- The claim carries a marker of the session. -/
def Marked : Prop := annotationOwner pvc = id ∨ labelOwner pvc = id

instance : Decidable (Marked id pvc) := inferInstanceAs (Decidable (_ ∨ _))

/-- The claim carries a marker of another session. -/
def Foreign : Prop :=
  (annotationOwner pvc ≠ "" ∧ annotationOwner pvc ≠ id) ∨
    (labelOwner pvc ≠ "" ∧ labelOwner pvc ≠ id)

instance : Decidable (Foreign id pvc) := inferInstanceAs (Decidable (_ ∨ _))

def source : String := s!"source PVC {pvc.ns}/{pvc.name}"

/-- The checks of the markers of the source claim. -/
def ownershipChecks : List Check :=
  failIf (annotationOwner pvc ≠ id ∧ annotationOwner pvc ≠ "") .sourceOwnership
    s!"{source pvc} PVC annotation belongs to session {annotationOwner pvc}" ++
  failIf (labelOwner pvc ≠ id ∧ labelOwner pvc ≠ "") .sourceOwnership
    s!"{source pvc} PVC label belongs to session {labelOwner pvc}" ++
  warnIf (Marked id pvc ∧ labelOwner pvc = "") .sourceOwnership
    s!"{source pvc} has annotation ownership for session {id}; its session label is absent"

/-- The checks of the volume of the source claim. -/
def currentChecks (current : PV) : List Check :=
  let policy := current.annotations.get originalPolicyAnnotation
  failIf (pvc.uid = none ∨ current.claimRef ≠ some pvc.ref) .currentClaim
    (s!"current PV {current.name} claimRef does not match PVC {pvc.ns}/{pvc.name} " ++
      s!"UID {pvc.uid.text}") ++
  failIf (validReclaimPolicy policy = false) .currentPolicy
    s!"current PV {current.name} has no valid {originalPolicyAnnotation} annotation" ++
  failIf (¬ PolicyKept current policy) .currentPolicy
    (s!"current PV {current.name} reclaim policy must be Retain or its recorded original policy " ++
      s!"{Text.quote policy.toList} during orphan cleanup") ++
  warnIf (¬ Marked id pvc) .sourceOwnership
    (s!"{source pvc} metadata is already finalized; current PV ownership still proves " ++
      s!"session {id}")

/-! ## After the activation -/

/-- The checks of the policy of a volume that will be deleted. -/
def deletionPolicyChecks (what : String) : List Check :=
  let policy := pv.annotations.get originalPolicyAnnotation
  failIf (validReclaimPolicy policy = false) name
    s!"{what} PV {pv.name} has no valid original reclaim policy" ++
  failIf (¬ PolicyKept pv policy) name
    (s!"{what} PV {pv.name} reclaim policy must be Retain or its recorded original policy " ++
      "before deletion")

def rollbackChecks (active rollback : PV) : List Check :=
  failIf (rollback.labels.get sessionKey ≠ id ∨
      rollback.labels.get resourceRoleLabel ≠ roleRollback)
    .rollbackOwnership s!"rollback PV {rollback.name} must carry session={id} and role=rollback" ++
  failIf (rollback.annotations.get pairedPVAnnotation ≠ active.name) .pvPair
    s!"rollback PV {rollback.name} does not point back to active PV {active.name}" ++
  failIf (rollback.phase ≠ .released ∧ rollback.phase ≠ .available) .rollbackState
    s!"rollback PV {rollback.name} phase {rollback.phase.text} must be Released or Available" ++
  deletionPolicyChecks rollback .rollbackPolicy "rollback"

/-- The name of the rollback volume: from the claim, or from the active volume. -/
def rollbackName (active : PV) : String :=
  if pvc.annotations.get rollbackPVAnnotation ≠ "" then pvc.annotations.get rollbackPVAnnotation
  else active.annotations.get pairedPVAnnotation

/-- The resources of a session whose rollback volume is gone. -/
def absentRollback (active : PV) (name : String) : PostActivation where
  sourcePVC := pvcReference pvc
  activePV := pvReference active
  rollbackPV := ⟨⟨"", name, none⟩, none⟩

/-- The resources of a session with its rollback volume. -/
def presentRollback (active rollback : PV) : PostActivation where
  sourcePVC := pvcReference pvc
  activePV := pvReference active
  rollbackPV := pvReference rollback
  rollbackPolicy := rollback.annotations.get originalPolicyAnnotation

def planPostActivationOrphan (plan : Plan) (pvc : PVC) (active : PV) : Action Plan :=
  let plan := (plan.inMode .postActivation).withPostActivation
    ⟨pvcReference pvc, pvReference active, {}, ""⟩
  let name := rollbackName pvc active
  if name = "" then ret (plan.failed .rollbackPV
    "source PVC and active PV have no rollback PV reference")
  else
    let plan := plan.addChecks (
      warnIf (pvc.annotations.get rollbackPVAnnotation = "") .rollbackPV
        s!"source PVC metadata is already finalized; active PV records rollback PV {name}" ++
      failIf (active.annotations.get pairedPVAnnotation ≠ name) .pvPair
        s!"active PV {active.name} does not point to rollback PV {name}")
    let validated := s!"validated active PVC {pvc.ns}/{pvc.name}, active PV {active.name}, " ++
      s!"and rollback PV {name}"
    request (.getVolume name) >>= fun
      | .error e => ret (plan.failed .rollbackPV s!"read rollback PV {name}: {e.text}")
      | .ok none =>
        let plan := plan.withPostActivation (absentRollback pvc active name)
        ret ((plan.addChecks [orphanWarning .rollbackPV
          s!"rollback PV {name} is already absent; deletion will remain idempotent"]).addReady
          validated)
      | .ok (some rollback) =>
        let plan := plan.withPostActivation (presentRollback pvc active rollback)
        ret ((plan.addChecks (rollbackChecks o.sessionID active rollback)).addReady validated)

/-! ## The consumers of a claim -/

/-- A Pod that reserves a claim for the session. -/
def isSessionConsumer (pod : Pod) : Bool :=
  id ≠ "" && pod.labels.get sessionKey = id &&
    pod.labels.get resourceRoleLabel = roleReservationConsumer

/-- What is said about a Pod that uses a claim. -/
def blocker (pod : Pod) : String :=
  if pod.phase = .succeeded ∨ pod.phase = .failed then
    s!"protected by terminal Pod {pod.name} (phase {pod.phase.text}); delete the Pod object " ++
      "before cleanup"
  else s!"referenced by Pod {pod.name} (phase {pod.phase.text}); stop its controller or delete " ++
    "the Pod before cleanup"

/-- `inspectPVCUnusedWithOperations`. -/
def ensurePVCUnused (ref : Reference) (id : String) : Action Unit :=
  let claim := s!"PVC {ref.ns}/{ref.name}"
  ask (.getClaim ref.key) (wrapped "cleanup" s!"read {claim} consumers") >>= fun
    | none => ret ()
    | some pvc => do
      reject (ref.uid = none) ⟨.validation, "cleanup", s!"{claim} UID is required"⟩
      reject (pvc.uid ≠ ref.uid) ⟨.conflict, "cleanup", s!"{claim} identity changed"⟩
      let pods ← ask (.listPods (some ref.ns) [])
        (wrapped "cleanup" s!"list PVC consumers in {ref.ns}")
      let blockers := pods.filter fun pod => !isSessionConsumer id pod &&
        podPreventsSafePVCDeletion pod.toPod ref.name
      reject (blockers ≠ []) ⟨.precondition, "cleanup",
        s!"{claim} is still " ++ ((blockers.head?.map blocker).getD "")⟩
      if pvc.spec.volumeName = "" then ret ()
      else do
        let attachments ← ask .listAttachments
          (wrapped "cleanup" s!"list attachments for PV {pvc.spec.volumeName}")
        let attached := attachments.filter fun attachment =>
          attachment.persistentVolumeName = some pvc.spec.volumeName && attachment.attached
        reject (attached ≠ []) ⟨.precondition, "cleanup",
          s!"{claim} still has an attached PV on node " ++
          ((attached.head?.map VolumeAttachment.nodeName).getD "")⟩

/-! ## Before the activation -/

/-- The destination claims of a source claim, by the UID they are annotated with. -/
def matchingClaims (destinationPVCs : List PVC) : List PVC :=
  destinationPVCs.filter fun candidate =>
    candidate.annotations.get sourcePVCUIDAnnotation = pvc.uid.text

/-- The destination volumes that no destination claim is bound to. -/
def unclaimedVolumes (destinationPVCs : List PVC) (destinationPVs : List PV) : List PV :=
  destinationPVs.filter fun pv => !destinationPVCs.any fun candidate =>
    candidate.spec.volumeName ≠ "" && candidate.spec.volumeName = pv.name

def destinationPVForPVC (ref : Reference) : Action (Plan × Option PV) :=
  request (.getClaim ref.key) >>= fun
    | .error e => ret (plan.failed .destinationPVC
        s!"read destination PVC {ref.ns}/{ref.name}: {e.text}", none)
    | .ok none => ret (plan, none)
    | .ok (some claim) =>
      let name := claim.spec.volumeName
      if name = "" then ret (plan, none)
      else request (.getVolume name) >>= fun
        | .error e => ret (plan.failed .destinationPV
            s!"read destination PV {name}: {e.text}", none)
        | .ok none => ret (plan.addCheck (orphanWarning .destinationPV
            s!"destination PV {name} is already absent"), none)
        | .ok (some pv) => ret (plan, some pv)

/-- `resolvePreActivationDestinationPV`: the plan, the destination claim and the destination
volume. -/
def resolvePreActivationDestinationPV (destinationPVC : Reference) (sourcePVs : List PV)
    (destinationPVs : List PV) (destinationPVCs : List PVC) :
      Action (Plan × Reference × Option PV) :=
  if destinationPVC.name ≠ "" then
    destinationPVForPVC plan destinationPVC >>= fun found => ret (found.1, destinationPVC, found.2)
  else
    let orphanPVs := unclaimedVolumes destinationPVCs destinationPVs
    let unmapped := plan.failed .destinationPV
      (s!"{orphanPVs.length} unclaimed destination PVs cannot be mapped safely to " ++ source pvc)
    match orphanPVs with
    | [] => ret (plan, destinationPVC, none)
    | [pv] =>
      if sourcePVs.length = 1 then
        ret (plan.addCheck (orphanWarning .destinationPVC
          "destination PVC is already absent; its retained PV will be removed"),
          (pv.claimRef.map fun ref => ⟨ref, none⟩).getD destinationPVC, some pv)
      else ret (unmapped, destinationPVC, none)
    | _ => ret (unmapped, destinationPVC, none)

/-- `validatePreActivationDestinationPVC`. -/
def destinationPVCChecks (destination : PVC) : List Check :=
  failIf (annotationOwner destination ≠ id ∨ destination.uid = none) .destinationOwnership
    s!"destination PVC {destination.ns}/{destination.name} ownership or UID is incomplete"

/-- `validatePreActivationDestinationPV`. -/
def destinationPVChecks (destinationPVC : Reference) (pv : PV) : List Check :=
  failIf (pv.labels.get managedByLabel ≠ managedByValue ∨ pv.labels.get sessionKey ≠ id ∨
      pv.labels.get resourceRoleLabel ≠ roleDestination) .destinationOwnership
    s!"destination PV {pv.name} ownership changed" ++
  deletionPolicyChecks pv .destinationPolicy "destination" ++
  failIf (destinationPVC.uid ≠ none ∧ pv.claimRef ≠ some destinationPVC.toObjectReference)
    .destinationClaim
    s!"destination PV {pv.name} claimRef does not match destination PVC identity"

/-- `addPreActivationResourceChecks`, without the last one. -/
def resourceChecks (sourcePVs : List PV) (destinationPVCs matching : List PVC) : List Check :=
  failIf (matching.length < destinationPVCs.length ∧ sourcePVs.length = 1) .otherResources
    "single-volume orphan ownership includes an unrelated destination PVC" ++
  warnIf (matching.length < destinationPVCs.length ∧ sourcePVs.length ≠ 1) .otherResources
    ("the orphan session owns additional destination PVCs; clean each source PVC before the " ++
      "final Lease is removed")

/-- The resources of a session before the activation. -/
def destinationResources (sourcePV : PV) (claim : Reference) (pv : Option PV) : PreActivation where
  sourcePVC := pvcReference pvc
  sourcePV := pvReference sourcePV
  destinationPVC := claim
  destinationPV := (pv.map pvReference).getD {}
  destinationPolicy := (pv.map fun pv => pv.annotations.get originalPolicyAnnotation).getD ""

/-- The end of `planPreActivationOrphan`: the destination volume and the consumers of the claim. -/
def planDestination (plan : Plan) (pvc : PVC) (sourcePV : PV) (sourcePVs : List PV)
    (destinationPVCs : List PVC) (destinationPVs : List PV) : Action Plan :=
  let matching := matchingClaims pvc destinationPVCs
  let claim := (matching.head?.map pvcReference).getD {}
  resolvePreActivationDestinationPV plan pvc claim sourcePVs destinationPVs destinationPVCs >>=
  fun found =>
    let resources := destinationResources pvc sourcePV found.2.1 found.2.2
    let plan := (found.1.withPreActivation resources).addChecks
      ((found.2.2.map (destinationPVChecks o.sessionID found.2.1)).getD [])
    (if found.2.1.name = "" then ret plan
      else (ensurePVCUnused found.2.1 o.sessionID).handle (fun _ => ret plan)
        fun e => ret (plan.failed .destinationConsumers e.error)) >>=
      fun plan => ret ((plan.addChecks (resourceChecks sourcePVs destinationPVCs matching)).addReady
        (s!"validated pre-activation {source pvc}, source PV {sourcePV.name}, destination PVC " ++
          s!"{found.2.1.ns}/{found.2.1.name}, and destination PV {resources.destinationPV.name}"))

def planPreActivationOrphan (plan : Plan) (pvc : PVC) (sourcePV : PV) : Action Plan :=
  let plan := (plan.inMode .preActivation).withPreActivation
    ⟨pvcReference pvc, pvReference sourcePV, {}, {}, ""⟩
  if pvc.annotations.get rollbackPVAnnotation ≠ "" ∨
      sourcePV.annotations.get pairedPVAnnotation ≠ "" then
    ret (plan.failed .activationState
      "source-role resources contain rollback pairing metadata; activation state is ambiguous")
  else request (.listVolumes (preActivationSourceSelector o.sessionID)) >>= fun
    | .error e => ret (plan.failed .sourcePV s!"list source PVs: {e.text}")
    | .ok sourcePVs =>
      request (.listClaims (preActivationDestinationSelector o.sessionID)) >>= fun
        | .error e => ret (plan.failed .destinationPVC
            s!"list destination PVCs: {e.text}")
        | .ok destinationPVCs =>
          let matching := matchingClaims pvc destinationPVCs
          if 1 < matching.length then
            ret (plan.failed .destinationPVC
              s!"found {matching.length} destination PVCs for source PVC UID {pvc.uid.text}")
          else
            let plan := plan.addChecks
              ((matching.head?.map (destinationPVCChecks o.sessionID)).getD [])
            request (.listVolumes (preActivationDestinationSelector o.sessionID)) >>= fun
              | .error e => ret (plan.failed .destinationPV
                  s!"list destination PVs: {e.text}")
              | .ok destinationPVs =>
                planDestination o plan pvc sourcePV sourcePVs destinationPVCs destinationPVs

/-! ## The whole plan -/

/-- What is left of a session, for a message. -/
def remaining (pvs : List PV) (pvcs : List PVC) : String :=
  ", ".intercalate (pvs.map (fun pv => s!"PV {pv.name} (role {pv.labels.get resourceRoleLabel})") ++
    pvcs.map fun pvc => s!"PVC {pvc.ns}/{pvc.name} (role {pvc.labels.get resourceRoleLabel})")

def planDeletedSourceOrphan (plan : Plan) : Action Plan :=
  let source := s!"source PVC {o.sourceNamespace}/{o.sourcePVC}"
  request (.listVolumes (sessionOwnedSelector o.sessionID)) >>= fun
    | .error e => ret (plan.failed .sourcePV s!"list session PVs: {e.text}")
    | .ok pvs => request (.listClaims (sessionOwnedSelector o.sessionID)) >>= fun
      | .error e => ret (plan.failed .destinationPVC
          s!"list session PVCs: {e.text}")
      | .ok pvcs =>
        if pvs.length = 0 ∧ pvcs.length = 0 then
          ret ((plan.inMode .recordsOnly).addChecks
            [orphanWarning .sourcePVC
                s!"{source} is already deleted; no session-owned storage remains",
              orphanPassed .resources "stale session record and lease will be removed"])
        else ret (plan.failed .currentOwnership
          (s!"{source} is deleted but session-owned storage remains: {remaining pvs pvcs}; " ++
            "remove these resources or restore the source PVC before retrying"))

/-- The plan of a claim and its volume, by the role of the volume. -/
def planCurrent (plan : Plan) (pvc : PVC) (current : PV) : Action Plan :=
  let plan := plan.addChecks (currentChecks o.sessionID pvc current)
  if current.labels.get resourceRoleLabel = roleSource then
    planPreActivationOrphan o plan pvc current
  else if current.labels.get resourceRoleLabel = roleActive then
    planPostActivationOrphan o plan pvc current
  else ret (plan.failed .currentOwnership
    (s!"current PV {current.name} has unsupported orphan role " ++
      Text.quote (current.labels.get resourceRoleLabel).toList))

def planSource (plan : Plan) (pvc : PVC) : Action Plan :=
  let plan := plan.addChecks (ownershipChecks o.sessionID pvc)
  if pvc.phase ≠ .bound ∨ pvc.spec.volumeName = "" then
    ret (plan.failed .sourcePVC
      s!"{source pvc} must be Bound with a volumeName")
  else request (.getVolume pvc.spec.volumeName) >>= fun
    | .error e => ret (plan.failed .currentPV
        s!"read current PV {pvc.spec.volumeName}: {e.text}")
    | .ok none => ret (plan.failed .currentPV
        s!"read current PV {pvc.spec.volumeName}: not found")
    | .ok (some current) =>
      if current.labels.get sessionKey ≠ o.sessionID then
        ret (plan.failed .currentOwnership
          s!"current PV {current.name} must carry session={o.sessionID}")
      else planCurrent o plan pvc current

def planOrphanCleanup (problems : String → List String) (o : Options) : Action Plan :=
  let plan := ({} : Plan).addChecks (optionChecks problems o)
  if plan.ready = false then ret plan
  else checkOrphanSessionRecord >>= fun check =>
    let plan := plan.addCheck check
    request (.getClaim o.sourceKey) >>= fun
      | .error e => ret (plan.failed .sourcePVC s!"read source PVC: {e.text}")
      | .ok none => planDeletedSourceOrphan o plan
      | .ok (some pvc) => planSource o plan pvc

end Orphan

end PvcMigrate
