import PvcMigrate.CrossCluster.Tracking

/-!
# Reserving and copying

The operations of a session that come before its cleanup (`crosscluster/reservation.go`,
`crosscluster/execution.go`).  `reserveVolume` creates the destination claim of a volume, starts a
consumer Pod if the storage class waits for one, waits until the claim is bound and records the
identities it finds.  `Reserve` and `Copy` run it for every volume; `PromoteReservation` makes a
copy session of a finished reservation.

A run can be cut off at any call, and then the identities it has not saved are lost.
-/

namespace PvcMigrate

namespace CrossCluster

open Prog Kube

/-! ## The operations -/

structure Service where
  rules : Rules
  digest : String → String
  now : Time
  retries : Nat

variable (service : Service)

/-- `Validate`. -/
def requireValid (s : Session) : Action Unit :=
  match s.validate service.rules with
  | .error text => fail (.invalid text)
  | .ok _ => ret ()

/-- `validateSession`, `validateReservationSession`. -/
def validateSession (s : Session) : Action Unit := do
  requireValid service s
  ask (.check .identities)

/-- `save`, `saveReservation`. -/
def save (s : Session) : Action Unit := do
  ask .lease
  requireValid service s
  ask (.store s)
  ask .lease

/-- `fail`, `failReservation`: the failure is recorded, and returned in any case. -/
def failWith {α : Type} (s : Session) (cause : Failure) : Action α :=
  (save service { s with phase := .failed, message := cause.text }).handle
    (fun _ => fail cause) (fun _ => fail cause)

def deleteReservationConsumer (id : String) (ref : ClusterResourceRef) : Action Unit :=
  if ref.name = "" then ret ()
  else ask (.getPod (ref.ns, ref.name)) >>= fun
    | none => ret ()
    | some pod => do
      reject ((ref.uid ≠ none ∧ ref.uid ≠ some pod.uid) ∨ pod.labels ≠ ownedBy id)
        (.refused "reservation Pod ownership or UID changed")
      ask .lease
      ask (.deletePod (ref.ns, ref.name) pod.uid)
      ask .lease
      ask .wait
      ask (.getPod (ref.ns, ref.name)) >>= fun
        | none => ret ()
        | some current =>
          if current.uid = pod.uid then
            fail (.timeout "timed out waiting for reservation Pod deletion")
          else fail (.refused "reservation Pod UID changed during deletion")

/-- The claim with the UID of its destination recorded. -/
def Volume.withClaimUID (v : Volume) (uid : Nat) : Volume :=
  { v with destination := { v.destination with pvc := { v.destination.pvc with uid := some uid } } }

/-- The volume with the identity of its destination volume recorded. -/
def Volume.withVolume (v : Volume) (cluster name : String) (uid : Nat) : Volume :=
  { v with destination := { v.destination with
      pv := { clusterID := cluster, name, uid := some uid } } }

/-- The volume with its consumer Pod recorded. -/
def Volume.withConsumer (v : Volume) (cluster : String) (pod : Pod) : Volume :=
  { v with reservation := { v.reservation with
      consumerPod :=
        { clusterID := cluster, ns := pod.ns, name := pod.name, uid := some pod.uid } } }

def plannedSpec (v : Volume) (capacity : Int) : ClaimSpec where
  storageClassName := v.destination.storageClass.name
  volumeMode := v.destination.volumeMode
  request := capacity
  accessModes := v.destination.accessModes

def sameAccessModes (left right : List AccessMode) : Bool :=
  left.length = right.length && right.all (· ∈ left)

def validateDestinationPVCSpec (claim : Claim) (v : Volume) (capacity : Int) : Action Unit := do
  reject (claim.spec.storageClassName ≠ v.destination.storageClass.name)
    (.refused "destination PVC StorageClass does not match the plan")
  reject (claim.spec.volumeMode ≠ v.destination.volumeMode)
    (.refused "destination PVC volume mode does not match the plan")
  reject (claim.spec.request ≠ capacity)
    (.refused "destination PVC storage request does not match the plan")
  reject (sameAccessModes claim.spec.accessModes v.destination.accessModes = false)
    (.refused "destination PVC access modes do not match the plan")

def findOrCreateClaim (id : String) (v : Volume) (capacity : Int) : Action Claim :=
  ask (.getClaim v.claimKey) >>= fun
    | some claim => ret claim
    | none => do
      ask .lease
      let claim ← ask (.createClaim v.claimKey (ownedBy id) (plannedSpec v capacity))
      ask .lease
      ret claim

/-- The first part of `reserveVolume`: the claim, and that it is the one of the plan. -/
def reserveClaim (id : String) (v : Volume) : Action Claim :=
  match service.rules.parseQuantity v.destination.capacity with
  | none => fail (.refused "quantity is invalid")
  | some capacity => do
    let claim ← findOrCreateClaim id v capacity
    reject (claim.labels ≠ ownedBy id) (.refused "destination PVC is not owned by session")
    reject (v.destination.pvc.uid ≠ none ∧ v.destination.pvc.uid ≠ some claim.uid)
      (.refused "destination PVC UID changed")
    validateDestinationPVCSpec claim v capacity
    ret claim

def plannedStorageClass (v : Volume) : Action StorageClass :=
  ask (.getStorageClass v.destination.storageClass.name) >>= fun
    | none => fail (.api "StorageClass not found")
    | some storageClass => do
      reject (v.destination.storageClass.uid ≠ some storageClass.uid)
        (.refused "destination StorageClass UID changed")
      ret storageClass

def findOrCreatePod (id : String) (v : Volume) : Action Pod :=
  ask (.getPod (v.consumerKey service.digest id)) >>= fun
    | some pod => ret pod
    | none => do
      ask .lease
      let pod ← ask (.createPod (v.consumerKey service.digest id)
        (ownedBy id) v.destination.pvc.name)
      ask .lease
      ret pod

/-- The first part of `createReservationConsumer`: the Pod, and that it is the session's own. -/
def consumerPod (s : Session) (v : Volume) : Action Pod := do
  reject (s.targetNode = "" ∨ s.targetNode = autoValue)
    (.refused "WFFC destination PVC requires a resolved target node")
  ask (.check .targetNode)
  let pod ← findOrCreatePod service s.id v
  ask .lease
  reject (pod.labels ≠ ownedBy s.id) (.refused "reservation Pod is not owned by session")
  ret pod

/-- The wait of `createReservationConsumer`. -/
def awaitScheduled (key : String × String) (uid : Nat) : Action Unit := do
  ask .wait
  ask (.getPod key) >>= fun
    | none => fail (.api "Pod not found")
    | some current => do
      reject (current.uid ≠ uid) (.refused "reservation Pod UID changed")
      reject (current.phase = .failed) (.refused "reservation Pod failed")
      reject (current.nodeName = "" ∧ current.phase ≠ .running)
        (.timeout "timed out waiting for reservation Pod scheduling")

/-- The wait of `reserveVolume`: the name of the volume that the claim is bound to, and the
volume. -/
def awaitBound (v : Volume) (uid : Nat) : Action (String × PV) := do
  ask .wait
  ask (.getClaim v.claimKey) >>= fun
    | none => fail (.api "PersistentVolumeClaim not found")
    | some current => do
      reject (current.uid ≠ uid) (.refused "destination PVC UID changed")
      reject (current.bound = false ∨ current.volumeName = "")
        (.timeout "timed out waiting for destination PVC binding")
      ask (.getVolume current.volumeName) >>= fun
        | none => fail (.api "PersistentVolume not found")
        | some pv => ret (current.volumeName, pv)

/-- A program on a volume; an error carries the volume in memory. -/
abbrev VolumeAction (α : Type) := Prog Call Call.Reply (Failure × Volume) α

/-- Run an action that does not change the volume. -/
def leaving {α : Type} (v : Volume) (p : Action α) : VolumeAction α :=
  p.handle ret fun e => fail (e, v)

/-- `createReservationConsumer`: the Pod is recorded before it is waited for. -/
def createReservationConsumer (s : Session) (v : Volume) : VolumeAction Volume := do
  let pod ← leaving v (consumerPod service s v)
  leaving (v.withConsumer s.destinationCluster pod) (awaitScheduled pod.key pod.uid)
  ret (v.withConsumer s.destinationCluster pod)

/-- A consumer Pod for the claim, if its storage class waits for one, and its record; `commit` is
the `Save` of the reservation state. -/
def ensureConsumer (commit : Volume → Action Unit) (s : Session) (v : Volume)
    (storageClass : StorageClass) : VolumeAction Volume :=
  if storageClass.waitForFirstConsumer = true ∧ v.destination.pv.uid = none then do
    leaving v (ask .lease)
    let v ← createReservationConsumer service s v
    leaving v (commit v)
    ret v
  else ret v

/-- The end of `reserveVolume`: the consumer Pod has done its work. -/
def releaseConsumer (s : Session) (v : Volume) : VolumeAction Volume :=
  if v.reservation.consumerPod.uid ≠ none then do
    leaving v (deleteReservationConsumer s.id v.reservation.consumerPod)
    ret { v with reservation := { v.reservation with completedAt := some service.now } }
  else ret v

def reserveVolume (commit : Volume → Action Unit) (s : Session) (v : Volume) :
    VolumeAction Volume := do
  let claim ← leaving v (reserveClaim service s.id v)
  let storageClass ← leaving (v.withClaimUID claim.uid)
    (plannedStorageClass (v.withClaimUID claim.uid))
  let v ← ensureConsumer service commit s (v.withClaimUID claim.uid) storageClass
  let found ← leaving v (awaitBound v claim.uid)
  releaseConsumer service s (v.withVolume s.destinationCluster found.1 found.2.uid)

/-- The identities that were reserved, in the status of the volume. -/
def Volume.checkpoint (v : Volume) : Volume :=
  { v with reservation := { v.reservation with pvc := v.destination.pvc, pv := v.destination.pv } }

/-- One round of the loop of `reserve` and `reserveCopy`. -/
def reserveRound (s : Session) (i : Nat) : Action Session :=
  match s.volumes[i]? with
  | none => ret s
  | some v =>
    if v.reservation.pv.uid ≠ none then ret s
    else (reserveVolume service (fun v => save service (s.setVolume i v)) s v).handle
      (fun v => do
        save service (s.setVolume i v.checkpoint)
        ret (s.setVolume i v.checkpoint))
      (fun failure => failWith service (s.setVolume i failure.2) failure.1)

/-- The loop of `reserve` and `reserveCopy`, and the phase after it. -/
def reserveVolumes (s : Session) : Action Session := do
  let s ← fold (reserveRound service) s (List.range s.volumes.length)
  save service { s with phase := .reserved, message := "destination PVCs are bound" }
  ret { s with phase := .reserved, message := "destination PVCs are bound" }

/-- The session with the phase in which it creates its claims. -/
def Session.reserving (s : Session) : Session :=
  { s with phase := .reserving, message := "creating destination PVCs" }

/-- The phases in which there is nothing left to reserve. -/
def Phase.isReserved : Phase → Bool
  | .reserved | .transferring | .completed => true
  | _ => false

/-- What `reserve` and `reserveCopy` check first; `prepare` is where they differ. -/
def reserveAfter (prepare : Session → Action Unit) (s : Session) : Action Session := do
  ask .lease
  validateSession service s
  reject (s.phase = .cleaned ∨ s.phase = .cleaning)
    (.refused "cross-cluster session is already being cleaned or has been cleaned")
  if s.phase.isReserved then ret s
  else do
    prepare s.reserving
    reserveVolumes service s.reserving

def reserve (s : Session) : Action Session :=
  reserveAfter service (fun _ => ask (.check .destinationNamespace)) s

def reserveCopy (s : Session) : Action Session := reserveAfter service (save service) s

/-- The attempts to transfer a volume: the volume in memory, and the last error. -/
def transferAttempts (id : String) (i : Nat) :
    Nat → Volume → Option Failure → Action (Volume × Option Failure)
  | 0, v, last => ret (v, last)
  | left + 1, v, _ => do
    ask .lease
    let v := { v with transfer := { v.transfer with attempts := v.transfer.attempts + 1 } }
    perform (.transfer id i v.transfer.attempts) >>= fun
      | .error text => transferAttempts id i left v (some (.api text))
      | .ok _ => perform .lease >>= fun
        | .error text => transferAttempts id i left v (some (.api text))
        | .ok _ => ret (v, none)

def failVolume (s : Session) (i : Nat) (v : Volume) (cause : Failure) : Action Session :=
  failWith service
    (s.setVolume i { v with transfer := { v.transfer with lastError := cause.text } }) cause

def Volume.transferred (v : Volume) (now : Time) : Volume :=
  { v with transfer := { v.transfer with completedAt := some now, lastError := "" } }

def transferVolume (s : Session) (i : Nat) (v : Volume) : Action Session :=
  transferAttempts s.id i (max service.retries 1) v none >>= fun
    | (v, some cause) => failVolume service s i v cause
    | (v, none) => do
      save service (s.setVolume i (v.transferred service.now))
      ret (s.setVolume i (v.transferred service.now))

/-- One round of the loop of `copy`. -/
def copyRound (s : Session) (i : Nat) : Action Session :=
  match s.volumes[i]? with
  | none => ret s
  | some v =>
    if v.transfer.completedAt ≠ none then
      (ask (.check (.destinationVolume i))).handle (fun _ => ret s) (failVolume service s i v)
    else
      (ask (.check (.transferVolume i))).handle (fun _ => transferVolume service s i v)
        (failVolume service s i v)

def orFail (s : Session) (p : Action Unit) : Action Unit :=
  p.handle (fun _ => ret ()) (failWith service s)

def ensureServiceAccount (s : Session) : Action Unit := do
  ask .lease
  orFail service s (ask (.check .transferServiceAccount))
  ask .lease

/-- The session with the phase in which it copies. -/
def Session.transferring (s : Session) : Session :=
  { s with phase := .transferring, message := "copying PVC data" }

def Session.finished (s : Session) (now : Time) : Session :=
  { s with phase := .completed, completedAt := some now, message := "cross-cluster copy completed" }

/-- The transfer part of `copy`. -/
def copyVolumes (s : Session) : Action Session := do
  ask (.check .copyEngine)
  orFail service s (ask (.check .scheduling))
  ensureServiceAccount service s
  ensureServiceAccount service s
  save service s.transferring
  let s ← fold (copyRound service) s.transferring (List.range s.volumes.length)
  save service (s.finished service.now)
  ret (s.finished service.now)

def copy (s : Session) : Action Session := do
  validateSession service s
  ask .lease
  validateSession service s
  reject (s.phase = .cleaned ∨ s.phase = .cleaning)
    (.refused "cross-cluster session is already being cleaned or has been cleaned")
  let s ← reserveCopy service s
  copyVolumes service s

/-- The copy session of a finished reservation. -/
def Session.promoted (s : Session) : Session :=
  { s with kind := .copy, message := "destination PVCs reserved; ready to copy" }

def promoteReservation (s : Session) : Action Session := do
  reject (s.phase ≠ .reserved)
    (.refused "reserve all destination PVCs before copying")
  validateSession service s
  save service s.promoted
  ret s.promoted

/-! ## Runs -/

/-- The operations before the cleanup. -/
inductive Step
  | reserve
  | copy
  | promote
  deriving DecidableEq, Repr

/-- The kind of the session that the operation loads. -/
def Step.kind : Step → Kind
  | .reserve => .reservation
  | .copy => .copy
  | .promote => .reservation

def Step.program : Step → Session → Action Session
  | .reserve => CrossCluster.reserve service
  | .copy => CrossCluster.copy service
  | .promote => promoteReservation service

/-- A session that was created just now: nothing is recorded, and its names are free. -/
structure Fresh (w : World) (s : Session) : Prop where
  record : w.record = some s
  valid : s.Valid service.rules
  phase : s.phase = .planned
  blank : ∀ v ∈ s.volumes, v.destination.pvc.uid = none ∧ v.destination.pv = {} ∧ v.reservation = {}
  claims : ∀ v ∈ s.volumes, w.claims v.claimKey = none
  pods : ∀ v ∈ s.volumes, ∀ pod ∈ w.pods, pod.key ≠ v.consumerKey service.digest s.id

/-- The states after any number of runs, each cut off anywhere, with the controllers at work. -/
inductive Reachable (start : World) : World → Prop
  | refl : Reachable start start
  | controllers {w w' : World} : Reachable start w → Controls w w' → Reachable start w'
  | run {w w' : World} {s : Session} {result : Option (Except Failure Session)} (step : Step) :
      Reachable start w → w.record = some s → s.kind = step.kind →
      (step.program service s).Runs (Observed service.digest false) w w' result → Reachable start w'

/-! ## What every run keeps -/

/-- A session in memory that belongs to `base` and tracks the destination. -/
structure Ready (base : Session) (w : World) (s : Session) : Prop where
  fixed : s.fixed = base
  volumes : ∀ v ∈ s.volumes, Reserving service.digest w base.id v
  /-- the time of the completion is recorded with the phase -/
  completed : s.phase = .completed → s.completedAt ≠ none

/-- The record is valid and tracks the destination. -/
def Persisted (base : Session) (w : World) : Prop :=
  ∀ r, w.record = some r → r.Valid service.rules ∧ Ready service base w r

def Held (base : Session) (ss : List Session) (w : World) : Prop :=
  Persisted service base w ∧ ∀ s ∈ ss, Ready service base w s

variable {service} {base s : Session} {ss : List Session} {w w' : World} {op : Call} {v : Volume}
  {i : Nat}

theorem Ready.step (h : Ready service base w s)
    (hstep : ∀ v, Reserving service.digest w base.id v → Reserving service.digest w' base.id v) :
    Ready service base w' s := ⟨h.fixed, fun v hv => hstep v (h.volumes v hv), h.completed⟩

theorem Held.step (h : Held service base ss w) (hrecord : w'.record = w.record)
    (hstep : ∀ v, Reserving service.digest w base.id v → Reserving service.digest w' base.id v) :
    Held service base ss w' := by
  refine ⟨fun r hr => ?_, fun s hs => (h.2 s hs).step hstep⟩
  rw [hrecord] at hr
  exact ⟨(h.1 r hr).1, (h.1 r hr).2.step hstep⟩

theorem Held.controls (h : Held service base ss w) (hcontrols : Controls w w') :
    Held service base ss w' := h.step hcontrols.record fun _ hv => hv.controls hcontrols

theorem Held.ready (h : Held service base [s] w) : Ready service base w s :=
  h.2 s List.mem_cons_self

theorem Held.cons (h : Held service base ss w) (hs : Ready service base w s) :
    Held service base (s :: ss) w := ⟨h.1, List.forall_mem_cons.mpr ⟨hs, h.2⟩⟩

theorem Held.tail (h : Held service base (s :: ss) w) : Held service base ss w :=
  ⟨h.1, fun t ht => h.2 t (List.mem_cons_of_mem _ ht)⟩

theorem Held.of_persisted (h : Persisted service base w) : Held service base [] w :=
  ⟨h, fun _ hs => by cases hs⟩

theorem Held.single (h : Persisted service base w) (hs : Ready service base w s) :
    Held service base [s] w := ⟨h, List.forall_mem_singleton.mpr hs⟩

/-- A program that keeps the record and a session in memory. -/
abbrev KeepsHeld {ε α : Type} (service : Service) (base : Session) (ss : List Session)
    (A : World → α → Prop) (w : World) (p : Prog Call Call.Reply ε α) : Prop :=
  p.Keeps (Observed service.digest false) (Held service base ss) A (fun _ _ => True) w

/-- **One call**, served in a state that the controllers may have changed. -/
theorem keepsHeld_ask {A : World → op.Result → Prop} (htransfer : op.isTransfer = false)
    (hheld : Held service base ss w)
    (hserve : ∀ w1, Controls w w1 → Held service base ss w1 →
      Held service base ss (serve op w1).2 ∧
        ∀ a, (serve op w1).1 = .ok a → A (serve op w1).2 a) :
    KeepsHeld service base ss A w (ask op) := by
  refine keeps_ask htransfer hheld (fun _ _ _ => trivial) fun w1 hbefore => ?_
  have hheld1 := hheld.controls hbefore.controls
  obtain ⟨hafter, hA⟩ := hserve w1 hbefore.controls hheld1
  refine ⟨hheld1, hafter, ?_⟩
  split
  · rename_i a ha
    exact hA a ha
  · trivial

theorem keepsHeld_read {P : World → Prop} (hread : op.isRead = true)
    (hP : ∀ w', Controls w w' → P w') (hheld : Held service base ss w) :
    KeepsHeld service base ss (fun w a => P w ∧ (serve op w).1 = .ok a) w (ask op) := by
  refine keepsHeld_ask (Call.isTransfer_of_isRead hread) hheld fun w1 hcontrols hheld1 => ?_
  obtain ⟨_, hserve⟩ := exists_serve_of_isRead hread w1
  rw [congrArg Prod.snd hserve]
  exact ⟨hheld1, fun a ha => ⟨hP w1 hcontrols, ha⟩⟩

/-- A call that only reads. -/
theorem keepsHeld_silent (hread : op.isRead = true) (hheld : Held service base ss w) :
    KeepsHeld service base ss (fun _ _ => True) w (ask op) :=
  (keepsHeld_read (P := fun _ => True) hread (fun _ _ => trivial) hheld).post fun _ _ _ => trivial

theorem keepsHeld_check (external : External) (hheld : Held service base ss w) :
    KeepsHeld service base ss (fun _ _ => True) w (ask (.check external)) :=
  keepsHeld_silent rfl hheld

theorem keepsHeld_reject {ε : Type} {bad : Prop} [Decidable bad] {e : ε}
    (hheld : Held service base ss w) :
    KeepsHeld service base ss (fun w' _ => w' = w ∧ ¬ bad) w
      (reject bad e : Prog Call Call.Reply ε Unit) := keeps_reject hheld fun _ => trivial

/-! ### Saving -/

theorem keepsHeld_requireValid (hheld : Held service base ss w) :
    KeepsHeld service base ss (fun w' _ => w' = w ∧ s.Valid service.rules) w
      (requireValid service s) := by
  unfold requireValid
  split
  · exact ⟨hheld, trivial⟩
  · rename_i hvalid
    exact ⟨hheld, rfl, hvalid⟩

theorem keepsHeld_validateSession (hheld : Held service base ss w) :
    KeepsHeld service base ss (fun _ _ => True) w (validateSession service s) :=
  (keepsHeld_requireValid hheld).bind fun _ _ hheld _ =>
    keepsHeld_silent rfl hheld

/-- **Saving.**  What is stored has passed the check. -/
theorem keepsHeld_save (hheld : Held service base (s :: ss) w) :
    KeepsHeld service base (s :: ss) (fun _ _ => True) w (save service s) := by
  refine (keepsHeld_silent rfl hheld).bind fun w _ hheld _ => ?_
  refine (keepsHeld_requireValid (s := s) hheld).bind fun w _ hheld hvalid => ?_
  refine Keeps.bind (A := fun _ _ => True) (keepsHeld_ask rfl hheld fun w1 _ hheld1 => ?_)
    fun w _ hheld _ => keepsHeld_silent rfl hheld
  have hstep : ∀ v, Reserving service.digest w1 base.id v →
      Reserving service.digest (serve (.store s) w1).2 base.id v :=
    fun v hv => hv.step (fades_record w1 (some s)) (.of_claims_eq rfl)
  refine ⟨⟨fun r hr => ?_, fun t ht => (hheld1.2 t ht).step hstep⟩, fun _ _ => trivial⟩
  cases hr
  exact ⟨hvalid.2, (hheld1.2 s List.mem_cons_self).step hstep⟩

/-- A session that differs in its phase, its kind, its message or the time of its completion. -/
theorem Ready.of_volumes_eq {t : Session} (h : Ready service base w s) (hfixed : t.fixed = s.fixed)
    (hvolumes : t.volumes = s.volumes) (hcompleted : t.phase = .completed → t.completedAt ≠ none) :
    Ready service base w t :=
  ⟨hfixed.trans h.fixed, fun v hv => h.volumes v (by rw [← hvolumes]; exact hv), hcompleted⟩

variable {cause : Failure} {key : String × String} {id : String} {digest : String → String}
  {u : Volume}

theorem keepsHeld_failWith {α : Type} {A : World → α → Prop} (hheld : Held service base ss w)
    (hs : Ready service base w s) :
    KeepsHeld service base ss A w (failWith service s cause) := by
  have hfailed : Ready service base w { s with phase := .failed, message := cause.text } :=
    hs.of_volumes_eq rfl rfl nofun
  exact Keeps.handle (E := fun w _ => Held service base ss w)
    (A := fun w _ => Held service base ss w)
    ((keepsHeld_save (hheld.cons hfailed)).mono (fun _ h => h.tail) (fun _ _ h _ => h.tail)
      (fun _ _ h _ => h.tail))
    (fun _ _ h _ => ⟨h, trivial⟩) fun _ _ h _ => ⟨h, trivial⟩

/-! ### One volume -/

theorem keepsHeld_deletePod {uid : Nat} (hheld : Held service base ss w) :
    KeepsHeld service base ss (fun _ _ => True) w (ask (.deletePod key uid)) := by
  refine keepsHeld_ask rfl hheld fun w1 _ hheld1 => ⟨?_, fun _ _ => trivial⟩
  have hsame : (serve (.deletePod key uid) w1).2.claims = w1.claims ∧
      (serve (.deletePod key uid) w1).2.record = w1.record := by
    simp only [serve]
    split
    · exact ⟨rfl, rfl⟩
    · split <;> exact ⟨rfl, rfl⟩
  exact hheld1.step hsame.2 fun v hv => hv.step (fades_deletePod w1 key uid) (.of_claims_eq hsame.1)

theorem keepsHeld_deleteReservationConsumer {ref : ClusterResourceRef}
    (hheld : Held service base ss w) :
    KeepsHeld service base ss (fun _ _ => True) w (deleteReservationConsumer id ref) := by
  unfold deleteReservationConsumer
  refine keeps_ite (fun _ => ⟨hheld, trivial⟩) fun _ => ?_
  refine (keepsHeld_silent rfl hheld).bind fun w found hheld _ => ?_
  cases found with
  | none => exact ⟨hheld, trivial⟩
  | some pod =>
    refine (keepsHeld_reject hheld).bind fun w _ hheld _ => ?_
    refine (keepsHeld_silent rfl hheld).bind fun w _ hheld _ => ?_
    refine (keepsHeld_deletePod hheld).bind fun w _ hheld _ => ?_
    refine (keepsHeld_silent rfl hheld).bind fun w _ hheld _ => ?_
    refine (keepsHeld_silent rfl hheld).bind fun w _ hheld _ => ?_
    refine (keepsHeld_silent rfl hheld).bind fun w left hheld _ => ?_
    cases left with
    | none => exact ⟨hheld, trivial⟩
    | some current => exact keeps_ite (fun _ => ⟨hheld, trivial⟩) fun _ => ⟨hheld, trivial⟩

section

variable (h : Reserving digest w id v)
include h

theorem Reserving.withClaimUID {claim : Claim} (hclaim : w.claims v.claimKey = some claim) :
    Reserving digest w id (v.withClaimUID claim.uid) := by
  have hsame {claim' : Claim} (hclaim' : w.claims v.claimKey = some claim') : claim' = claim :=
    Option.some.inj (hclaim'.symm.trans hclaim)
  have huid (hname : v.destination.pv.name ≠ "") : v.destination.pvc.uid = some claim.uid := by
    rcases h.claimUID claim hclaim with hnone | hsome
    · exact absurd hnone (h.volume hname).1
    · exact hsome
  exact
    { labels := fun claim' hclaim' => .inl ((h.labels claim' hclaim').resolve_right (by simp))
      claimUID := fun claim' hclaim' => .inr (by rw [hsame hclaim']; rfl)
      binding := h.binding
      volume := fun hname => ⟨Option.some_ne_none _, (h.volume hname).2.1, fun pv hpv => by
        have hold := (h.volume hname).2.2 pv hpv
        rw [huid hname] at hold
        exact hold⟩
      volumeName := h.volumeName
      consumer := h.consumer
      alive := h.alive
      present := fun _ => ⟨claim, hclaim⟩
      consumerName := h.consumerName
      pods := h.pods }

theorem Reserving.withVolume {cluster : String} {claim : Claim} {pv : PV}
    (hclaim : w.claims v.claimKey = some claim)
    (huid : v.destination.pvc.uid = some claim.uid) (hname : claim.volumeName ≠ "")
    (hpv : w.volumes claim.volumeName = some pv) :
    Reserving digest w id (v.withVolume cluster claim.volumeName pv.uid) := by
  obtain ⟨hused, hbinding⟩ := h.binding claim hclaim hname
  exact
    { labels := h.labels
      claimUID := h.claimUID
      binding := h.binding
      volume := fun _ => by
        refine ⟨fun hnone => ?_, hused, fun pv' hpv' => ?_⟩
        · exact Option.some_ne_none _ (huid.symm.trans hnone)
        · cases hpv.symm.trans hpv'
          refine ⟨rfl, ?_, (hbinding pv hpv).2⟩
          rw [(hbinding pv hpv).1]
          exact congrArg (fun uid => some (ObjectReference.mk v.claimKey.1 v.claimKey.2 uid))
            huid.symm
      volumeName := fun _ claim' hclaim' => by
        cases hclaim.symm.trans hclaim'
        rfl
      consumer := h.consumer
      alive := h.alive
      present := h.present
      consumerName := h.consumerName
      pods := h.pods }

theorem Reserving.withConsumer {cluster : String} {pod : Pod}
    (hkey : pod.key = v.consumerKey digest id) :
    Reserving digest w id (v.withConsumer cluster pod) :=
  { h with
    consumer := fun _ pod' hpod' hkey' => h.pods pod' hpod' (hkey'.trans hkey)
    consumerName := fun _ => hkey }

theorem Reserving.of_eq (hsource : u.source = v.source)
    (hdestination : u.destination = v.destination)
    (hconsumer : u.reservation.consumerPod = v.reservation.consumerPod) :
    Reserving digest w id u := by
  obtain ⟨source, destination, _, _, _, ⟨_, _, consumerPod, _⟩, _⟩ := u
  obtain ⟨source', destination', _, _, _, ⟨_, _, consumerPod', _⟩, _⟩ := v
  subst hsource hdestination hconsumer
  exact ⟨⟨h.labels, h.claimUID, h.binding, h.volume, h.volumeName, h.consumer⟩, h.alive, h.present,
    h.consumerName, h.pods⟩

end

theorem Ready.setVolume (h : Ready service base w s) (hget : s.volumes[i]? = some u)
    (hfixed : v.fixed = u.fixed) (hv : Reserving service.digest w base.id v) :
    Ready service base w (s.setVolume i v) := by
  refine ⟨(Session.fixed_setVolume hget hfixed).trans h.fixed, fun x hx => ?_, h.completed⟩
  rcases Session.mem_setVolume hx with rfl | hx
  · exact hv
  · exact h.volumes x hx

theorem keepsHeld_carry (hread : op.isRead = true)
    (hheld : Held service base ss w) (hs : Ready service base w s) :
    KeepsHeld service base ss (fun w _ => Ready service base w s) w (ask op) :=
  (keepsHeld_read (P := fun w => Ready service base w s) hread
    (fun _ hcontrols => hs.step fun _ hv => hv.controls hcontrols) hheld).post
    fun _ _ h => h.1

theorem Ready.id_eq (h : Ready service base w s) : base.id = s.id := by
  rw [← h.fixed]
  rfl

theorem Ready.get (h : Ready service base w s) (hget : s.volumes[i]? = some v) :
    Reserving service.digest w s.id v := by
  rw [← h.id_eq]
  exact h.volumes v (List.mem_of_getElem? hget)

theorem Ready.set (h : Ready service base w s) (hget : s.volumes[i]? = some u)
    (hfixed : v.fixed = u.fixed) (hv : Reserving service.digest w s.id v) :
    Ready service base w (s.setVolume i v) :=
  h.setVolume hget hfixed (by rw [h.id_eq]; exact hv)

section

variable (hheld : Held service base [s] w)
include hheld

theorem keepsHeld_createClaim {spec : ClaimSpec} (hget : s.volumes[i]? = some v) :
    KeepsHeld service base [s]
      (fun w claim => Ready service base w (s.setVolume i (v.withClaimUID claim.uid))) w
      (ask (.createClaim v.claimKey (ownedBy s.id) spec)) := by
  refine keepsHeld_ask rfl hheld fun w1 _ hheld1 => ?_
  have hkept : Held service base [s]
      (serve (.createClaim v.claimKey (ownedBy s.id) spec) w1).2 := by
    refine hheld1.step ?_ fun u hu => ?_
    · simp only [serve]
      split <;> rfl
    · rw [← hheld.ready.id_eq]
      exact hu.createClaim _ _
  refine ⟨hkept, fun claim hclaim => hkept.ready.set hget rfl ?_⟩
  refine (hkept.ready.get hget).withClaimUID ?_
  simp only [serve] at hclaim ⊢
  split at hclaim
  · cases hclaim
  · cases hclaim
    exact Function.update_self ..

theorem keepsHeld_createPod {claim : String} :
    KeepsHeld service base [s] (fun _ pod => pod.key = key) w
      (ask (.createPod key (ownedBy s.id) claim)) := by
  refine keepsHeld_ask rfl hheld fun w1 _ hheld1 => ⟨?_, fun pod hpod => ?_⟩
  · refine hheld1.step ?_ fun u hu => ?_
    · simp only [serve]
      split <;> rfl
    · rw [← hheld.ready.id_eq]
      exact hu.createPod _ _
  · simp only [serve] at hpod
    split at hpod
    · cases hpod
    · cases hpod
      rfl

theorem keepsHeld_findOrCreateClaim {capacity : Int} (hget : s.volumes[i]? = some v) :
    KeepsHeld service base [s]
      (fun w claim => Ready service base w (s.setVolume i (v.withClaimUID claim.uid))) w
      (findOrCreateClaim s.id v capacity) := by
  refine (keepsHeld_read (P := fun _ => True) rfl (fun _ _ => trivial) hheld).bind
    fun w found hheld hfound => ?_
  have hfound : w.claims v.claimKey = found := Except.ok.inj hfound.2
  cases found with
  | some claim =>
    exact ⟨hheld, hheld.ready.set hget rfl ((hheld.ready.get hget).withClaimUID hfound)⟩
  | none =>
    refine (keepsHeld_silent rfl hheld).bind fun w _ hheld _ => ?_
    refine (keepsHeld_createClaim hheld hget).bind fun w claim hheld hready => ?_
    exact (keepsHeld_carry rfl hheld hready).bind fun w _ hheld hready =>
      ⟨hheld, hready⟩

theorem keepsHeld_reserveClaim (hget : s.volumes[i]? = some v) :
    KeepsHeld service base [s]
      (fun w claim => Ready service base w (s.setVolume i (v.withClaimUID claim.uid))) w
      (reserveClaim service s.id v) := by
  unfold reserveClaim
  split
  · exact ⟨hheld, trivial⟩
  · refine (keepsHeld_findOrCreateClaim hheld hget).bind fun w claim hheld hready => ?_
    refine keeps_reject_bind hheld (fun _ => trivial) fun _ => ?_
    refine keeps_reject_bind hheld (fun _ => trivial) fun _ => ?_
    refine Keeps.bind (A := fun w' _ => w' = w) ?_ fun w' _ hheld' h3 =>
      ⟨hheld', by rw [h3]; exact hready⟩
    refine keeps_reject_bind hheld (fun _ => trivial) fun _ => ?_
    refine keeps_reject_bind hheld (fun _ => trivial) fun _ => ?_
    refine keeps_reject_bind hheld (fun _ => trivial) fun _ => ?_
    exact (keepsHeld_reject hheld).post fun _ _ h => h.1

end

theorem keepsHeld_plannedStorageClass (hheld : Held service base ss w) :
    KeepsHeld service base ss (fun _ _ => True) w (plannedStorageClass v) := by
  refine (keepsHeld_silent rfl hheld).bind fun w found hheld _ => ?_
  cases found with
  | none => exact ⟨hheld, trivial⟩
  | some storageClass => exact (keepsHeld_reject hheld).bind fun w _ hheld _ => ⟨hheld, trivial⟩

theorem key_of_findPod {pod : Pod} (h : w.findPod key = some pod) :
    pod.key = key := by
  have := List.find?_some h
  simpa using this

theorem keepsHeld_consumerPod (hheld : Held service base [s] w) :
    KeepsHeld service base [s] (fun _ pod => pod.key = v.consumerKey service.digest s.id) w
      (consumerPod service s v) := by
  refine (keepsHeld_reject hheld).bind fun w _ hheld _ => ?_
  refine (keepsHeld_silent rfl hheld).bind fun w _ hheld _ => ?_
  refine Keeps.bind (A := fun _ pod => pod.key = v.consumerKey service.digest s.id) ?_
    fun w pod hheld hkey => (keepsHeld_silent rfl hheld).bind fun w _ hheld _ =>
      (keepsHeld_reject hheld).bind fun w _ hheld _ => ⟨hheld, hkey⟩
  refine (keepsHeld_read (P := fun _ => True) rfl (fun _ _ => trivial) hheld).bind
    fun w found hheld hfound => ?_
  have hfound : w.findPod (v.consumerKey service.digest s.id) = found := Except.ok.inj hfound.2
  cases found with
  | some pod => exact ⟨hheld, key_of_findPod hfound⟩
  | none =>
    refine (keepsHeld_silent rfl hheld).bind fun w _ hheld _ => ?_
    refine (keepsHeld_createPod hheld).bind fun w pod hheld hkey => ?_
    exact (keepsHeld_silent rfl hheld).bind fun w _ hheld _ => ⟨hheld, hkey⟩

theorem keepsHeld_awaitScheduled {uid : Nat} (hheld : Held service base ss w) :
    KeepsHeld service base ss (fun _ _ => True) w (awaitScheduled key uid) := by
  refine (keepsHeld_silent rfl hheld).bind fun w _ hheld _ => ?_
  refine (keepsHeld_silent rfl hheld).bind fun w found hheld _ => ?_
  cases found with
  | none => exact ⟨hheld, trivial⟩
  | some current =>
    refine (keepsHeld_reject hheld).bind fun w _ hheld _ => ?_
    refine (keepsHeld_reject hheld).bind fun w _ hheld _ => ?_
    exact (keepsHeld_reject hheld).post fun _ _ _ => trivial

theorem keepsHeld_awaitBound {uid : Nat} (hheld : Held service base [s] w)
    (hget : s.volumes[i]? = some v) (huid : v.destination.pvc.uid = some uid) :
    KeepsHeld service base [s] (fun w found => Ready service base w
        (s.setVolume i (v.withVolume s.destinationCluster found.1 found.2.uid))) w
      (awaitBound v uid) := by
  refine (keepsHeld_silent rfl hheld).bind fun w _ hheld _ => ?_
  refine (keepsHeld_read (P := fun _ => True) rfl (fun _ _ => trivial) hheld).bind
    fun w found hheld hfound => ?_
  have hfound : w.claims v.claimKey = found := Except.ok.inj hfound.2
  cases found with
  | none => exact ⟨hheld, trivial⟩
  | some current =>
    refine keeps_reject_bind hheld (fun _ => trivial) fun h1 => ?_
    have hsame : current.uid = uid := not_not.mp h1
    refine keeps_reject_bind hheld (fun _ => trivial) fun h2 => ?_
    have hname : current.volumeName ≠ "" := fun h => h2 (.inr h)
    -- the binding of a claim does not change any more
    have hbound : ∀ w', Controls w w' → ∃ claim, w'.claims v.claimKey = some claim ∧
        claim.uid = uid ∧ claim.volumeName = current.volumeName := by
      intro w' hcontrols
      obtain ⟨claim, hclaim, -⟩ :=
        hcontrols.stay _ current hfound ((hheld.ready.get hget).alive current hfound)
      obtain ⟨old, hold, ⟨hclaimUID, -, -, -⟩, hvolume⟩ := hcontrols.claims _ claim hclaim
      cases hfound.symm.trans hold
      refine ⟨claim, hclaim, hclaimUID.trans hsame, ?_⟩
      rcases hvolume with hvolume | ⟨hnone, -⟩
      · exact hvolume
      · exact absurd hnone hname
    refine (keepsHeld_read rfl hbound hheld).bind fun w found hheld hread => ?_
    obtain ⟨⟨claim, hclaim, hclaimUID, hclaimName⟩, hfound⟩ := hread
    have hfound : w.volumes current.volumeName = found := Except.ok.inj hfound
    cases found with
    | none => exact ⟨hheld, trivial⟩
    | some pv =>
      rw [← hclaimName] at hname hfound ⊢
      exact ⟨hheld, hheld.ready.set hget rfl ((hheld.ready.get hget).withVolume hclaim
        (by rw [hclaimUID]; exact huid) hname hfound)⟩

/-- The volume in memory belongs to the session, and tracks the destination. -/
def InMemory (service : Service) (base s : Session) (i : Nat) (w : World) (v : Volume) : Prop :=
  (∃ u, s.volumes[i]? = some u ∧ v.fixed = u.fixed) ∧ Ready service base w (s.setVolume i v)

/-- A program on a volume that keeps the record, and the volume in memory. -/
abbrev KeepsVolume {α : Type} (service : Service) (base s : Session) (i : Nat)
    (A : World → α → Prop) (w : World) (p : VolumeAction α) : Prop :=
  p.Keeps (Observed service.digest false) (Persisted service base) A
    (fun w e => InMemory service base s i w e.2) w

theorem InMemory.get (h : InMemory service base s i w v) :
    (s.setVolume i v).volumes[i]? = some v := by
  obtain ⟨u, hget, -⟩ := h.1
  exact Session.getElem?_setVolume hget

theorem InMemory.update (h : InMemory service base s i w v) (hfixed : u.fixed = v.fixed)
    (hready : Ready service base w' ((s.setVolume i v).setVolume i u)) :
    InMemory service base s i w' u := by
  obtain ⟨old, hget, hold⟩ := h.1
  refine ⟨⟨old, hget, hfixed.trans hold⟩, ?_⟩
  rw [← Session.setVolume_setVolume]
  exact hready

theorem keepsVolume_leaving {α : Type} {A : World → α → Prop} {p : Action α}
    (hv : InMemory service base s i w v) (hp : KeepsHeld service base [s.setVolume i v] A w p) :
    KeepsVolume service base s i
      (fun w a => Held service base [s.setVolume i v] w ∧ InMemory service base s i w v ∧ A w a) w
      (leaving v p) :=
  (hp.mono (C := fun w a => Held service base [s.setVolume i v] w ∧ A w a)
    (D := fun w _ => Ready service base w (s.setVolume i v)) (fun _ h => h.1)
    (fun _ _ h hA => ⟨h, hA⟩) (fun _ _ h _ => h.ready)).handle
    (fun _ _ hI h => ⟨hI, h.1, ⟨hv.1, h.1.ready⟩, h.2⟩)
    fun _ _ hI h => ⟨hI, hv.1, h⟩

section

variable (hI : Persisted service base w) (hv : InMemory service base s i w v)
include hI hv

theorem keepsVolume_createReservationConsumer :
    KeepsVolume service base s i (fun w v' => v'.destination = v.destination ∧
      InMemory service base s i w v') w (createReservationConsumer service s v) := by
  have hheld : Held service base [s.setVolume i v] w := .single hI hv.2
  refine (keepsVolume_leaving hv (keepsHeld_consumerPod hheld)).bind fun w pod hI h => ?_
  obtain ⟨hheld, hv, hkey⟩ := h
  have hpod : InMemory service base s i w (v.withConsumer s.destinationCluster pod) :=
    hv.update rfl (hv.2.set hv.get rfl ((hv.2.get hv.get).withConsumer hkey))
  refine (keepsVolume_leaving hpod (keepsHeld_awaitScheduled (.single hI hpod.2))).bind
    fun w _ hI h => ?_
  exact ⟨hI, rfl, h.2.1⟩

theorem keepsVolume_ensureConsumer {storageClass : StorageClass} :
    KeepsVolume service base s i (fun w v' => v'.destination = v.destination ∧
      InMemory service base s i w v') w
      (ensureConsumer service (fun v => save service (s.setVolume i v)) s v storageClass) := by
  refine keeps_ite (fun _ => ?_) fun _ => ⟨hI, rfl, hv⟩
  refine (keepsVolume_leaving hv (keepsHeld_silent rfl (.single hI hv.2))).bind
    fun w _ hI h => ?_
  refine (keepsVolume_createReservationConsumer hI h.2.1).bind fun w v' hI h => ?_
  refine (keepsVolume_leaving h.2 (keepsHeld_save (.single hI h.2.2))).bind fun w _ hI h' => ?_
  exact ⟨hI, h.1, h'.2.1⟩

theorem keepsVolume_releaseConsumer :
    KeepsVolume service base s i (fun w v' => InMemory service base s i w v') w
      (releaseConsumer service s v) := by
  refine keeps_ite (fun _ => ?_) fun _ => ⟨hI, hv⟩
  refine (keepsVolume_leaving hv (keepsHeld_deleteReservationConsumer (.single hI hv.2))).bind
    fun w _ hI h => ⟨hI, ?_⟩
  obtain ⟨-, hv, -⟩ := h
  exact hv.update rfl (hv.2.set hv.get rfl ((hv.2.get hv.get).of_eq rfl rfl rfl))

/-- **`reserveVolume`** leaves a record and a volume that track the destination, whatever
happens. -/
theorem keepsVolume_reserveVolume :
    KeepsVolume service base s i (fun w v' => InMemory service base s i w v') w
      (reserveVolume service (fun v => save service (s.setVolume i v)) s v) := by
  refine (keepsVolume_leaving hv (keepsHeld_reserveClaim (.single hI hv.2) hv.get)).bind
    fun w claim hI h => ?_
  have hclaim : InMemory service base s i w (v.withClaimUID claim.uid) := h.2.1.update rfl h.2.2
  refine (keepsVolume_leaving hclaim (keepsHeld_plannedStorageClass (.single hI hclaim.2))).bind
    fun w storageClass hI h => ?_
  refine (keepsVolume_ensureConsumer hI h.2.1).bind fun w v' hI hconsumer => ?_
  obtain ⟨hdestination, hv'⟩ := hconsumer
  have huid : v'.destination.pvc.uid = some claim.uid := by
    rw [hdestination]
    rfl
  refine (keepsVolume_leaving hv' (keepsHeld_awaitBound (.single hI hv'.2) hv'.get huid)).bind
    fun w found hI h => ?_
  exact keepsVolume_releaseConsumer hI (h.2.1.update rfl h.2.2)

end

/-! ### Whole runs -/

/-- A program that keeps the record and ends with a session that tracks the destination. -/
abbrev KeepsSession (service : Service) (base : Session) (w : World) (p : Action Session) : Prop :=
  p.Keeps (Observed service.digest false) (Persisted service base)
    (fun w s => Ready service base w s) (fun _ _ => True) w

theorem keepsSession_bind {α : Type} {A : World → α → Prop} {p : Action α} {f : α → Action Session}
    (hp : KeepsHeld service base [s] A w p)
    (hf : ∀ w a, Persisted service base w → Ready service base w s → A w a →
      KeepsSession service base w (f a)) : KeepsSession service base w (p >>= f) :=
  (hp.mono (C := fun w a => Ready service base w s ∧ A w a) (D := fun _ _ => True)
    (fun _ h => h.1) (fun _ _ h hA => ⟨h.ready, hA⟩) (fun _ _ _ _ => trivial)).bind
    fun w a hI h => hf w a hI h.1 h.2

section

variable (hI : Persisted service base w) (hs : Ready service base w s)
include hI hs

theorem keepsSession_saved : KeepsSession service base w (save service s >>= fun _ => ret s) :=
  keepsSession_bind (keepsHeld_save (.single hI hs)) fun _ _ hI hs _ => ⟨hI, hs⟩

theorem keepsSession_failWith : KeepsSession service base w (failWith service s cause) :=
  (keepsHeld_failWith (A := fun w s => Ready service base w s) (.of_persisted hI) hs).mono
    (fun _ h => h.1) (fun _ _ _ => id) fun _ _ _ => id

theorem keepsSession_reserveRound : KeepsSession service base w (reserveRound service s i) := by
  unfold reserveRound
  split
  · exact ⟨hI, hs⟩
  · rename_i v hget
    refine keeps_ite (fun _ => ⟨hI, hs⟩) fun _ => ?_
    have hv : InMemory service base s i w v := by
      refine ⟨⟨v, hget, rfl⟩, ?_⟩
      rw [Session.setVolume_of_getElem? hget]
      exact hs
    refine (keepsVolume_reserveVolume hI hv).handle (fun w v' hI hv' => ?_) fun w e hI hv' => ?_
    · have hcheckpoint : InMemory service base s i w v'.checkpoint :=
        hv'.update rfl (hv'.2.set hv'.get rfl ((hv'.2.get hv'.get).of_eq rfl rfl rfl))
      exact keepsSession_saved hI hcheckpoint.2
    · exact keepsSession_failWith hI hv'.2

end

theorem keepsSession_fold {round : Session → Nat → Action Session}
    (hround : ∀ w s i, Persisted service base w → Ready service base w s →
      KeepsSession service base w (round s i)) {indices : List Nat}
    (hI : Persisted service base w) (hs : Ready service base w s) :
    KeepsSession service base w (fold round s indices) :=
  keeps_fold (L := fun _ w s => Ready service base w s)
    (fun i _ w s hI hs => hround w s i hI hs) hI hs

theorem keepsSession_reserveVolumes (hI : Persisted service base w) (hs : Ready service base w s) :
    KeepsSession service base w (reserveVolumes service s) := by
  refine (keepsSession_fold (fun _ _ _ => keepsSession_reserveRound) hI hs).bind fun w s hI hs => ?_
  exact keepsSession_saved hI (hs.of_volumes_eq rfl rfl nofun)

theorem keepsSession_reserveAfter {prepare : Session → Action Unit}
    (hprepare : ∀ w, Held service base [s.reserving] w →
      KeepsHeld service base [s.reserving] (fun _ _ => True) w (prepare s.reserving))
    (hI : Persisted service base w) (hs : Ready service base w s) :
    KeepsSession service base w (reserveAfter service prepare s) := by
  refine keepsSession_bind (keepsHeld_silent rfl (.single hI hs)) fun w _ hI hs _ => ?_
  refine keepsSession_bind (keepsHeld_validateSession (.single hI hs)) fun w _ hI hs _ => ?_
  refine keepsSession_bind (keepsHeld_reject (.single hI hs)) fun w _ hI hs _ => ?_
  refine keeps_ite (fun _ => ⟨hI, hs⟩) fun _ => ?_
  have hreserving : Ready service base w s.reserving := hs.of_volumes_eq rfl rfl nofun
  refine keepsSession_bind (hprepare w (.single hI hreserving)) fun w _ hI hs _ => ?_
  exact keepsSession_reserveVolumes hI hs

theorem keepsSession_reserveCopy (hI : Persisted service base w) (hs : Ready service base w s) :
    KeepsSession service base w (reserveCopy service s) :=
  keepsSession_reserveAfter (fun _ hheld => keepsHeld_save hheld) hI hs

theorem Held.transfer {n : Int} {r : Except String Unit} (hheld : Held service base ss w)
    (hobs : Observed service.digest false w (.transfer base.id i n) r w') :
    Held service base ss w' := by
  cases hobs with
  | served hcontrols | failed hcontrols | lost hcontrols => exact hheld.controls hcontrols
  | transferred hcontrols hleft =>
    have hheld1 := hheld.controls hcontrols
    exact hheld1.step rfl fun _ hv => hv.transferred hleft

section

variable (hI : Persisted service base w) (hv : InMemory service base s i w v)
include hI hv

theorem InMemory.of_transfer {n : Int} {r : Except String Unit} {j : Nat}
    (hobs : Observed service.digest false w (.transfer s.id j n) r w') :
    Persisted service base w' ∧ InMemory service base s i w' v := by
  have hid : base.id = s.id := hv.2.id_eq
  rw [← hid] at hobs
  have hheld := (Held.single hI hv.2).transfer hobs
  exact ⟨hheld.1, hv.1, hheld.ready⟩

theorem keeps_transferAttempts {left : Nat} {last : Option Failure} :
    (transferAttempts s.id i left v last).Keeps (Observed service.digest false)
      (Persisted service base) (fun w r => InMemory service base s i w r.1)
        (fun _ _ => True) w := by
  induction left generalizing w v last with
  | zero => exact ⟨hI, hv⟩
  | succ left ih =>
    -- the lease is asked for twice, before and after the transfer
    have hlease {w : World} (hI : Persisted service base w) {v : Volume}
        (hv : InMemory service base s i w v) {r : Call.lease.Reply} {w' : World}
        (hobs : Observed service.digest false w .lease r w') :
        Persisted service base w' ∧ InMemory service base s i w' v := by
      obtain ⟨w1, hbefore, ⟨-, rfl⟩ | ⟨-, -, rfl | rfl⟩⟩ := hobs.inversion rfl <;>
      · have hheld := (Held.single hI hv.2).controls hbefore.controls
        exact ⟨hheld.1, hv.1, hheld.ready⟩
    refine Keeps.bind (A := fun w _ => InMemory service base s i w v) ?_ fun w _ hI hv => ?_
    · refine keeps_bind.mpr (keeps_perform.mpr ⟨hI, fun r w' hobs => ?_⟩)
      obtain ⟨hI', hv'⟩ := hlease hI hv hobs
      cases r with
      | ok _ => exact ⟨hI', hI', hv'⟩
      | error text => exact ⟨hI', hI', trivial⟩
    · have hcounted := hv.update (u := { v with
          transfer := { v.transfer with attempts := v.transfer.attempts + 1 } }) rfl
        (hv.2.set hv.get rfl ((hv.2.get hv.get).of_eq rfl rfl rfl))
      refine keeps_bind.mpr (keeps_perform.mpr ⟨hI, fun r w' hobs => ?_⟩)
      obtain ⟨hI', hv'⟩ := hcounted.of_transfer hI hobs
      cases r with
      | error text => exact ⟨hI', ih hI' hv'⟩
      | ok _ =>
        refine ⟨hI', keeps_bind.mpr (keeps_perform.mpr ⟨hI', fun r w'' hobs => ?_⟩)⟩
        obtain ⟨hI'', hv''⟩ := hlease hI' hv' hobs
        cases r with
        | error text => exact ⟨hI'', ih hI'' hv''⟩
        | ok _ => exact ⟨hI'', hI'', hv''⟩

theorem keepsSession_failVolume : KeepsSession service base w (failVolume service s i v cause) :=
  keepsSession_failWith hI (hv.update (u := { v with
    transfer := { v.transfer with lastError := cause.text } }) rfl
    (hv.2.set hv.get rfl ((hv.2.get hv.get).of_eq rfl rfl rfl))).2

theorem keepsSession_transferVolume :
    KeepsSession service base w (transferVolume service s i v) := by
  refine (keeps_transferAttempts hI hv).bind fun w r hI hv => ?_
  obtain ⟨v', last⟩ := r
  cases last with
  | some cause => exact keepsSession_failVolume hI hv
  | none =>
    exact keepsSession_saved hI (hv.update (u := v'.transferred service.now) rfl
      (hv.2.set hv.get rfl ((hv.2.get hv.get).of_eq rfl rfl rfl))).2

end

/-- A check in front of a part of a run, and what follows if it fails. -/
theorem keepsSession_handle {p : Action Unit} {f : Unit → Action Session}
    {k : Failure → Action Session} (hp : KeepsHeld service base [s] (fun _ _ => True) w p)
    (hf : ∀ w, Persisted service base w → Ready service base w s →
      KeepsSession service base w (f ()))
    (hk : ∀ w e, Persisted service base w → Ready service base w s →
      KeepsSession service base w (k e)) : KeepsSession service base w (p.handle f k) :=
  (hp.mono (C := fun w _ => Ready service base w s) (D := fun w _ => Ready service base w s)
    (fun _ h => h.1) (fun _ _ h _ => h.ready) (fun _ _ h _ => h.ready)).handle
    (fun w _ hI hs => hf w hI hs) hk

theorem keepsSession_copyRound (hI : Persisted service base w) (hs : Ready service base w s) :
    KeepsSession service base w (copyRound service s i) := by
  unfold copyRound
  split
  · exact ⟨hI, hs⟩
  · rename_i v hget
    have hv {w : World} (hs : Ready service base w s) : InMemory service base s i w v := by
      refine ⟨⟨v, hget, rfl⟩, ?_⟩
      rw [Session.setVolume_of_getElem? hget]
      exact hs
    refine keeps_ite (fun _ => ?_) fun _ => ?_
    · exact keepsSession_handle (keepsHeld_check _ (.single hI hs)) (fun w hI hs => ⟨hI, hs⟩)
        fun w _ hI hs => keepsSession_failVolume hI (hv hs)
    · exact keepsSession_handle (keepsHeld_check _ (.single hI hs))
        (fun w hI hs => keepsSession_transferVolume hI (hv hs))
        fun w _ hI hs => keepsSession_failVolume hI (hv hs)

theorem keepsHeld_orFail {p : Action Unit} (hp : KeepsHeld service base [s] (fun _ _ => True) w p) :
    KeepsHeld service base [s] (fun _ _ => True) w (orFail service s p) :=
  hp.handle (fun _ _ hheld _ => ⟨hheld, trivial⟩)
    fun _ _ hheld _ => keepsHeld_failWith hheld hheld.ready

theorem keepsHeld_ensureServiceAccount (hs : Held service base [s] w) :
    KeepsHeld service base [s] (fun _ _ => True) w (ensureServiceAccount service s) := by
  refine (keepsHeld_silent rfl hs).bind fun w _ hs _ => ?_
  refine (keepsHeld_orFail (keepsHeld_check _ hs)).bind fun w _ hs _ => ?_
  exact keepsHeld_silent rfl hs

section

variable (hI : Persisted service base w) (hs : Ready service base w s)
include hI hs

theorem keepsSession_copyVolumes : KeepsSession service base w (copyVolumes service s) := by
  refine keepsSession_bind (keepsHeld_silent rfl (.single hI hs)) fun w _ hI hs _ => ?_
  refine keepsSession_bind (keepsHeld_orFail (keepsHeld_check _ (.single hI hs)))
    fun w _ hI hs _ => ?_
  refine keepsSession_bind (keepsHeld_ensureServiceAccount (.single hI hs)) fun w _ hI hs _ => ?_
  refine keepsSession_bind (keepsHeld_ensureServiceAccount (.single hI hs)) fun w _ hI hs _ => ?_
  have htransferring : Ready service base w s.transferring :=
    hs.of_volumes_eq rfl rfl nofun
  refine keepsSession_bind (keepsHeld_save (.single hI htransferring)) fun w _ hI hs _ => ?_
  refine (keepsSession_fold (fun _ _ _ => keepsSession_copyRound) hI hs).bind fun w s hI hs => ?_
  exact keepsSession_saved hI (hs.of_volumes_eq rfl rfl fun _ => Option.some_ne_none _)

theorem keepsSession_reserve : KeepsSession service base w (reserve service s) := by
  unfold reserve
  exact keepsSession_reserveAfter (fun _ hheld => keepsHeld_check _ hheld) hI hs

/-- **Every operation keeps the record valid and tracking.** -/
theorem keepsSession_program {step : Step} : KeepsSession service base w
    (step.program service s) := by
  cases step with
  | reserve => exact keepsSession_reserve hI hs
  | copy =>
    refine keepsSession_bind (keepsHeld_validateSession (.single hI hs)) fun w _ hI hs _ => ?_
    refine keepsSession_bind (keepsHeld_silent rfl (.single hI hs))
      fun w _ hI hs _ => ?_
    refine keepsSession_bind (keepsHeld_validateSession (.single hI hs)) fun w _ hI hs _ => ?_
    refine keepsSession_bind (keepsHeld_reject (.single hI hs)) fun w _ hI hs _ => ?_
    refine (keepsSession_reserveCopy hI hs).bind fun w s hI hs => ?_
    exact keepsSession_copyVolumes hI hs
  | promote =>
    refine keepsSession_bind (keepsHeld_reject (.single hI hs)) fun w _ hI hs _ => ?_
    refine keepsSession_bind (keepsHeld_validateSession (.single hI hs)) fun w _ hI hs _ => ?_
    exact keepsSession_saved hI (hs.of_volumes_eq rfl rfl hs.completed)

end

theorem Fresh.reserving (h : Fresh service w s) (hv : v ∈ s.volumes) :
    Reserving service.digest w s.id v := by
  obtain ⟨huid, hpv, hreservation⟩ := h.blank v hv
  have hnone {claim : Claim} {p : Prop} (hclaim : w.claims v.claimKey = some claim) : p := by
    rw [h.claims v hv] at hclaim
    cases hclaim
  have hname : v.destination.pv.name = "" := by rw [hpv]
  have hconsumer : v.reservation.consumerPod.name = "" := by rw [hreservation]
  exact
    { labels := fun _ hclaim => hnone hclaim
      claimUID := fun _ _ => .inl huid
      binding := fun _ hclaim => hnone hclaim
      volume := fun hne => absurd hname hne
      volumeName := fun hne => absurd hname hne
      consumer := fun hne => absurd hconsumer hne
      alive := fun _ hclaim => hnone hclaim
      present := fun hne => absurd huid hne
      consumerName := fun hne => absurd hconsumer hne
      pods := fun pod hpod hkey => absurd hkey (h.pods v hv pod hpod) }

theorem Fresh.persisted (h : Fresh service w s) : Persisted service s.fixed w := by
  intro r hr
  cases h.record.symm.trans hr
  refine ⟨h.valid, rfl, fun v hv => ?_, fun hcompleted => ?_⟩
  · exact h.reserving hv
  · rw [h.phase] at hcompleted
    cases hcompleted

/-- **In every state the operations leave behind** the record is valid and tracks the
destination. -/
theorem persisted_of_reachable {start : World} (hfresh : Fresh service start s)
    (hreachable : Reachable service start w) : Persisted service s.fixed w := by
  induction hreachable with
  | refl => exact hfresh.persisted
  | controllers _ hcontrols ih => exact (Held.controls (.of_persisted ih) hcontrols).1
  | run step _ hrecord _ hruns ih =>
    exact (keepsSession_program ih (ih _ hrecord).2).invariant hruns

end CrossCluster

end PvcMigrate
