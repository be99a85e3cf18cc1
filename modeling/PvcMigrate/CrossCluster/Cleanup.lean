import PvcMigrate.CrossCluster.Reserve

/-!
# Cleaning up a session

`Cleanup` (`crosscluster/cleanup.go`, `reclaim.go`) ends a copy session, and `CleanupReservation`
(`reservation_cleanup.go`) a reservation.  Both look up the destination claim, the volume and the
consumer Pod, which an interrupted run may have created without recording them; then they delete the
claim and the volume, or keep them and take the labels of the session off the claim.

The two look up the destination in the same way, with one difference: `inspectCleanupDestination`
works on a copy of the volume, while `inspectReservationCleanupDestination` writes what it finds
into the session, and the name of a volume without its UID among it.
-/

namespace PvcMigrate

namespace CrossCluster

open Prog Kube

/-! ## Looking up the destination -/

/-- The labels of the session were taken off a claim that is recorded. -/
def Released (deleting : Bool) (v : Volume) (claim : Claim) : Prop :=
  deleting = false ∧ v.destination.pvc.uid = some claim.uid ∧ claim.labels = {}

instance (deleting : Bool) (v : Volume) (claim : Claim) : Decidable (Released deleting v claim) :=
  inferInstanceAs (Decidable (_ ∧ _))

variable (id : String)

/-- The claim is the session's, and bound to the recorded volume, if it is bound. -/
def inspectClaim (deleting : Bool) (v : Volume) (claim : Claim) : Action Unit := do
  reject ((v.destination.pvc.uid ≠ none ∧ v.destination.pvc.uid ≠ some claim.uid) ∨
      (claim.labels ≠ ownedBy id ∧ ¬ Released deleting v claim))
    (.refused "destination PVC UID or ownership changed")
  reject (v.destination.pv.name ≠ "" ∧ claim.volumeName ≠ "" ∧
      v.destination.pv.name ≠ claim.volumeName)
    (.refused "destination PVC binding changed")

variable (v : Volume)

/-- The name of the volume: the recorded one, or the one the claim is bound to. -/
def Volume.volumeName (found : Option Claim) : String :=
  if v.destination.pv.name ≠ "" then v.destination.pv.name
  else (found.map Claim.volumeName).getD ""

/-- The UID of the claim: of the one that was found, or the recorded one. -/
def Volume.claimUID (found : Option Claim) : UID :=
  (found.map fun claim => some claim.uid).getD v.destination.pvc.uid

/-- The volume of a name, and that it refers to the claim. -/
def inspectVolume (uid : UID) (name : String) : Action (Option PV) :=
  if name = "" then ret none
  else ask (.getVolume name) >>= fun
    | none => ret none
    | some pv => do
      reject ((v.destination.pv.uid ≠ none ∧ v.destination.pv.uid ≠ some pv.uid) ∨ uid = none ∨
          pv.claimRef ≠ some ⟨v.destination.pvc.ns, v.destination.pvc.name, uid⟩)
        (.refused "destination PV identity or claim reference changed")
      ret (some pv)

def inspectDestination (deleting : Bool) (v : Volume) : Action (Option Claim × Option PV) :=
  ask (.getClaim v.claimKey) >>= fun
    | none => do
      let pv ← inspectVolume v (v.claimUID none) (v.volumeName none)
      ret (none, pv)
    | some claim => do
      inspectClaim id deleting v claim
      let pv ← inspectVolume v (v.claimUID (some claim)) (v.volumeName (some claim))
      ret (some claim, pv)

variable (s : Session)

def inspectCleanupDestination (deleting : Bool) (v : Volume) :
    Action (Option Claim × Option PV) := inspectDestination s.id deleting v

/-- What `inspectReservationCleanupDestination` writes into the session: the UID of the claim, and
the name of its volume. -/
def Volume.inspected : Option Claim → Volume
  | none => v
  | some claim => { v with destination := { v.destination with
      pvc := { v.destination.pvc with uid := some claim.uid }
      pv := { v.destination.pv with name := v.volumeName (some claim) } } }

def inspectReservationCleanupDestination (deleting : Bool) (v : Volume) :
    Action (Option Claim × Volume) := do
  let found ← inspectDestination id deleting v
  ret (found.1, v.inspected found.1)

def isReservedConsumer (v : Volume) (pod : Pod) : Bool :=
  pod.name = v.reservation.consumerPod.name && pod.ns = v.reservation.consumerPod.ns &&
    some pod.uid = v.reservation.consumerPod.uid && pod.labels = ownedBy id

/-- `validateCleanupConsumers`, `validateReservationCleanupConsumers`. -/
def validateCleanupConsumers (v : Volume) : Action Unit :=
  ask (.listPods v.destination.pvc.ns) >>= fun pods =>
    reject ((pods.any fun pod => !isReservedConsumer id v pod &&
        activePodUsesPVC pod.toPod v.destination.pvc.name) = true)
      (.refused "destination PVC has consumer Pod; stop it before cleanup or select Retain")

/-- The consumers of a claim that was found are checked before it is deleted. -/
def checkConsumers (deleting : Bool) (v : Volume) (found : Option Claim) : Action Unit :=
  if deleting = true ∧ found ≠ none then validateCleanupConsumers id v else ret ()

/-! ## Deleting -/

def ensureNoActiveConsumers (key : String × String) : Action Unit :=
  ask (.listPods key.1) >>= fun pods =>
    reject ((pods.any fun pod => activePodUsesPVC pod.toPod key.2) = true)
      (.refused "destination PVC has active consumers; stop them before cleanup")

/-- The volume to delete: the one the claim was bound to, or the recorded one. -/
def Volume.target (bound : String) : String :=
  if bound = "" then v.destination.pv.name else bound

def cleanupDestinationPV (bound : String) : Action Unit :=
  if v.target bound = "" then ret ()
  else do
    ask .wait
    ask (.getVolume (v.target bound)) >>= fun
      | none => ret ()
      | some pv => do
        reject (v.destination.pv.uid ≠ none ∧ v.destination.pv.uid ≠ some pv.uid)
          (.refused "destination PV UID changed; refusing cleanup")
        reject (pv.claimRef ≠ none ∧ (v.destination.pvc.uid = none ∨
            pv.claimRef ≠ some ⟨v.destination.pvc.ns, v.destination.pvc.name,
              v.destination.pvc.uid⟩))
          (.refused "destination PV claim reference changed; refusing cleanup")
        reject (pv.phase = .failed)
          (.refused "destination PV is Failed; inspect the provisioner before deleting it")
        reject (pv.phase ≠ .released ∧ pv.phase ≠ .available)
          (.timeout "timed out waiting for destination PV release")
        ask .lease
        ask (.deleteVolume (v.target bound) pv.uid)
        ask .lease

def deleteClaim (v : Volume) (claim : Claim) : Action Volume := do
  reject (v.destination.pvc.uid ≠ none ∧ v.destination.pvc.uid ≠ some claim.uid)
    (.refused "destination PVC UID changed")
  reject (claim.labels ≠ ownedBy id)
    (.refused "destination PVC ownership changed; refusing to delete it")
  reject (v.destination.pv.name ≠ "" ∧ claim.volumeName ≠ "" ∧
      v.destination.pv.name ≠ claim.volumeName)
    (.refused "destination PVC is bound to unexpected PV")
  ensureNoActiveConsumers v.claimKey
  ask .lease
  ask (.deleteClaim v.claimKey claim.uid)
  ask .lease
  cleanupDestinationPV (v.withClaimUID claim.uid) claim.volumeName
  ret (v.withClaimUID claim.uid)

/-- `cleanupDestinationVolume`, `cleanupReservationDestinationVolume`. -/
def cleanupDestinationVolume (v : Volume) : Action Volume := do
  deleteReservationConsumer id v.reservation.consumerPod
  ask (.getClaim v.claimKey) >>= fun
    | none => do
      cleanupDestinationPV v ""
      ret v
    | some claim => deleteClaim id v claim

/-! ## Keeping -/

/-- A volume whose claim is gone, or about to go, is kept from being deleted with it. -/
def protectVolume (name : String) (found : Option Claim) (pv : Option PV) : Action Unit :=
  match pv with
  | none => ret ()
  | some pv =>
    if found.all Claim.terminating = true ∧ pv.reclaimPolicy ≠ .retain then do
      ask .lease
      ask (.updateVolume name { pv with reclaimPolicy := .retain })
      ask .lease
    else ret ()

/-- The labels of the session are taken off the claim. -/
def releaseClaim (key : String × String) (found : Option Claim) : Action Unit :=
  match found with
  | none => ret ()
  | some claim => do
    ask .lease
    ask (.updateClaim key { claim with labels := {} })
    ask .lease

/-- The volume with the identities that were found. -/
def Volume.withFound (cluster : String) (found : Option Claim) (pv : Option PV) : Volume :=
  let v' := match found with
    | none => v
    | some claim => v.withClaimUID claim.uid
  match pv with
  | none => v'
  | some pv => v'.withVolume cluster (v.volumeName found) pv.uid

variable (service : Service)

def retainDestinationVolume (s : Session) (i : Nat) (v : Volume) : Action Session := do
  deleteReservationConsumer s.id v.reservation.consumerPod
  let found ← inspectCleanupDestination s false v
  let s := s.setVolume i (v.withFound s.destinationCluster found.1 found.2)
  save service s
  protectVolume (v.volumeName found.1) found.1 found.2
  releaseClaim v.claimKey found.1
  ret s

def recordedVolume : Action (Option PV) :=
  if v.destination.pv.name = "" then ret none else ask (.getVolume v.destination.pv.name)

def Volume.withFoundVolume (cluster : String) : Option PV → Volume
  | none => v
  | some pv => v.withVolume cluster v.destination.pv.name pv.uid

def retainReservationDestinationVolume (s : Session) (i : Nat) (v : Volume) : Action Session := do
  deleteReservationConsumer s.id v.reservation.consumerPod
  let found ← inspectReservationCleanupDestination s.id false v
  save service (s.setVolume i found.2)
  let pv ← recordedVolume found.2
  let s := s.setVolume i (found.2.withFoundVolume s.destinationCluster pv)
  save service s
  protectVolume found.2.destination.pv.name found.1 pv
  releaseClaim v.claimKey found.1
  ret s

/-! ## The operations -/

def deletesUnusedStorage (policy : UnusedStoragePolicy) : Bool := policy = .delete

/-- The policy of a cleanup: the one that is given, or the recorded one. -/
def Session.policy (given : UnusedStoragePolicy) : UnusedStoragePolicy :=
  if given = .unset then s.unusedStoragePolicy else given

def cleanupDeletesDestination (policy : UnusedStoragePolicy) : Bool :=
  if s.phase = .completed ∨ s.completedAt ≠ none then false else deletesUnusedStorage policy

/-- `ValidateUnusedStoragePolicy`, as a step. -/
def requirePolicy (policy : UnusedStoragePolicy) : Action Unit :=
  match validateUnusedStoragePolicy policy with
  | .error e => fail (.refused e.message)
  | .ok _ => ret ()

def validateCleanup (s : Session) (given : UnusedStoragePolicy) : Action Unit := do
  validateSession service s
  requirePolicy (s.policy given)
  each (fun v => do
    let found ← inspectCleanupDestination s (cleanupDeletesDestination s (s.policy given)) v
    checkConsumers s.id (cleanupDeletesDestination s (s.policy given)) v found.1) s.volumes

/-- A round of `ValidateReservationCleanup`, which changes the session. -/
def validateReservationRound (deleting : Bool) (s : Session) (i : Nat) : Action Session :=
  match s.volumes[i]? with
  | none => ret s
  | some v => do
    let found ← inspectReservationCleanupDestination s.id deleting v
    checkConsumers s.id deleting found.2 found.1
    ret (s.setVolume i found.2)

def validateReservationCleanup (s : Session) (given : UnusedStoragePolicy) : Action Session := do
  validateSession service s
  requirePolicy (s.policy given)
  fold (validateReservationRound (deletesUnusedStorage (s.policy given))) s
    (List.range s.volumes.length)

def cleanedMessage : String :=
  "cleaned destination PVC " ++ v.destination.pvc.ns ++ "/" ++ v.destination.pvc.name

def saveWithMessage (s : Session) (message : String) : Action Session := do
  save service { s with message }
  ret { s with message }

def deleteRound (s : Session) (i : Nat) : Action Session :=
  match s.volumes[i]? with
  | none => ret s
  | some v => do
    let v ← cleanupDestinationVolume s.id v
    saveWithMessage service (s.setVolume i v) (cleanedMessage v)

/-- One volume of a cleanup of a copy that keeps. -/
def retainRound (s : Session) (i : Nat) : Action Session :=
  match s.volumes[i]? with
  | none => ret s
  | some v => retainDestinationVolume service s i v

/-- One volume of a cleanup of a reservation that keeps. -/
def retainReservationRound (s : Session) (i : Nat) : Action Session :=
  match s.volumes[i]? with
  | none => ret s
  | some v => do
    let s ← retainReservationDestinationVolume service s i v
    saveWithMessage service s (cleanedMessage v)

/-- `deleteSession` and `delete`: the Lease goes before the record. -/
def deleteSession : Action Unit := do
  ask (.check .deleteLease)
  ask .lease
  ask .deleteRecord
  ask .lease

def finishCleanup (s : Session) (message : String) (deleteRecord : Bool) : Action Session :=
  (if deleteRecord then deleteSession else save service { s with phase := .cleaned, message }) >>=
    fun _ => ret { s with phase := .cleaned, message }

/-- The session with the phase in which it is cleaned up. -/
def Session.cleaning (message : String) : Session := { s with phase := .cleaning, message }

/-- What both cleanups do after their checks. -/
def cleanVolumes (round : Session → Nat → Action Session) (s : Session) (start done : String)
    (deleteRecord : Bool) : Action Session := do
  save service (s.cleaning start)
  let s ← fold round (s.cleaning start) (List.range s.volumes.length)
  finishCleanup service s done deleteRecord

def cleanup (given : UnusedStoragePolicy) (deleteRecord : Bool) (s : Session) : Action Session := do
  validateCleanup service s given
  if cleanupDeletesDestination s (s.policy given) then
    cleanVolumes service (deleteRound service) s "cleaning cross-cluster resources"
      "cross-cluster cleanup completed" deleteRecord
  else
    cleanVolumes service (retainRound service) s "cleaning cross-cluster resources"
      "cross-cluster session cleaned; destination resources were retained" deleteRecord

variable (given : UnusedStoragePolicy) (deleteRecord : Bool)

def cleanupReservation (s : Session) : Action Session := do
  let checked ← validateReservationCleanup service s given
  if deletesUnusedStorage (s.policy given) then
    cleanVolumes service (deleteRound service) checked
      "cleaning cross-cluster reservation resources"
      "cross-cluster reservation cleanup completed" deleteRecord
  else
    cleanVolumes service (retainReservationRound service) checked
      "cleaning cross-cluster reservation resources"
      "cross-cluster reservation cleaned; destination resources were retained" deleteRecord

/-- `Cleanup` or `CleanupReservation`, by the kind of the session. -/
def cleanupSession (s : Session) : Action Session :=
  match s.kind with
  | .copy => cleanup service given deleteRecord s
  | .reservation => cleanupReservation service given deleteRecord s

/-! ## Convergence -/

/-- The states after any number of cleanups, each cut off anywhere, with the controllers at work. -/
inductive Interrupted (given : UnusedStoragePolicy) (deleteRecord : Bool) (start : World) :
    World → Prop
  | refl : Interrupted given deleteRecord start start
  | controllers {w w' : World} :
      Interrupted given deleteRecord start w → Controls w w' →
        Interrupted given deleteRecord start w'
  | run {w w' : World} {s : Session} {result : Option (Except Failure Session)} :
      Interrupted given deleteRecord start w → w.record = some s →
      (cleanupSession service given deleteRecord s).Runs
        (Observed service.digest false) w w' result →
      Interrupted given deleteRecord start w'

/-- After any number of interrupted cleanups the next one that is not disturbed returns without an
error and the phase is `Cleaned`; and none of them ends because the record does not pass its
check. -/
def Converges (start : World) : Prop :=
  ∀ w s, Interrupted service given deleteRecord start w → w.record = some s →
    (∃ s' w', run calmly (cleanupSession service given deleteRecord s) w = (.ok s', w') ∧
      s'.phase = .cleaned ∧ w'.record = if deleteRecord then none else some s') ∧
    ∀ w' e, (cleanupSession service given deleteRecord s).Runs (Observed service.digest false) w w'
      (some (.error e)) → ∀ text, e ≠ .invalid text

def Session.deletesDestination (given : UnusedStoragePolicy) : Bool :=
  match s.kind with
  | .copy => cleanupDeletesDestination s (s.policy given)
  | .reservation => deletesUnusedStorage (s.policy given)

/-- The identities that a cleanup cannot do without are recorded: that of the volume of a
reservation, as soon as its claim is bound or can be; the UID of the consumer Pod, if a Pod has its
name; and for a cleanup that deletes a claim, the consumer Pod is the only one that uses it. -/
structure Recorded (kind : Kind) (deleting : Bool) (w : World) (v : Volume) : Prop where
  unbound : kind = .reservation → v.destination.pv.name = "" →
    ∀ claim, w.claims v.claimKey = some claim → claim.volumeName = "" ∧
      ¬ w.Bindable v.claimKey claim
  consumerUID : v.reservation.consumerPod.name ≠ "" → ∀ pod ∈ w.pods, pod.key = v.podKey →
    v.reservation.consumerPod.uid = some pod.uid
  onlyConsumer : deleting = true → w.claims v.claimKey ≠ none → ∀ pod ∈ w.pods,
    pod.Uses v.claimKey → v.reservation.consumerPod.name ≠ "" ∧ pod.key = v.podKey

end CrossCluster

end PvcMigrate
