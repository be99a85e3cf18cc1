import PvcMigrate.CrossCluster.Session
import PvcMigrate.Lib.Observed

/-!
# The destination cluster and the calls of a session

The objects that a cross-cluster session creates in the destination cluster: claims, the volumes
their controllers provide, the Pods that make a claim bind; and the record of the session in the
source cluster.  `serve` is what the API server does with a call.

Between two calls the controllers act.  What they may do is `Controls`: bind a claim, if its storage
class binds immediately or some Pod uses it, to a volume that no other claim has; change the phase
of an object; remove what is being deleted; release and reclaim a volume.  They leave identities,
labels and records alone.

A process sees the environment in one of two ways.  In the *calm* one every call succeeds, nothing
happens between two calls, and a wait ends when the controllers have nothing left to do.  In the
other one controllers act before every call, and every call can fail, before or after it has had its
effect.
-/

namespace PvcMigrate

namespace CrossCluster

open Prog Kube

/-! ## Objects -/

/-- The two labels that say whose an object is; a label that is not set is the empty string. -/
structure Labels where
  managedBy : String := ""
  session : String := ""
  deriving DecidableEq, Repr

/-- The labels of an object of a session: `ManagedBy` and the session's id. -/
def ownedBy (id : String) : Labels := ⟨"pvc-migrate-cross-cluster", id⟩

/-- The part of a claim's spec that is compared with the plan. -/
structure ClaimSpec where
  storageClassName : String
  volumeMode : String
  request : Int
  accessModes : List AccessMode
  deriving DecidableEq, Repr

/-- `corev1.PersistentVolumeClaim`. -/
structure Claim where
  uid : Nat
  labels : Labels
  spec : ClaimSpec
  volumeName : String := ""
  bound : Bool := false
  terminating : Bool := false
  deriving DecidableEq, Repr

/-- `corev1.PersistentVolume`. -/
structure PV where
  uid : Nat
  claimRef : Option ObjectReference
  phase : VolumePhase
  reclaimPolicy : ReclaimPolicy
  deriving DecidableEq, Repr

/-- `corev1.Pod`. -/
structure Pod extends Kube.Pod where
  uid : Nat
  labels : Labels
  terminating : Bool := false
  deriving DecidableEq, Repr

/-- `storagev1.StorageClass`. -/
structure StorageClass where
  uid : Nat
  waitForFirstConsumer : Bool
  deriving DecidableEq, Repr

def Pod.key (pod : Pod) : String × String := (pod.ns, pod.name)

def Pod.Uses (pod : Pod) (key : String × String) : Prop := pod.ns = key.1 ∧ key.2 ∈ pod.claims

/-- The reference of a volume to the claim it is bound to. -/
def claimReference (key : String × String) (uid : Nat) : ObjectReference := ⟨key.1, key.2, some uid⟩

/-- The destination cluster, and the record of the session. -/
structure World where
  claims : String × String → Option Claim
  volumes : String → Option PV
  pods : List Pod
  classes : String → Option StorageClass
  nextUID : Nat
  /-- the names of the volumes there are and of those that are gone -/
  usedNames : List String
  record : Option Session

/-! ## Calls -/

/-- Checks and steps outside the destination's claims, volumes and Pods; they succeed or fail. -/
inductive External
  /-- the identities of both clusters are those of the session -/
  | identities
  | destinationNamespace
  | targetNode
  | copyEngine
  /-- `toolSchedulingValues` -/
  | scheduling
  /-- `EnsureTransferServiceAccount` -/
  | transferServiceAccount
  /-- `validateDestinationVolume` -/
  | destinationVolume (index : Nat)
  /-- `validateTransferVolume` -/
  | transferVolume (index : Nat)
  | deleteLease
  deriving DecidableEq, Repr

inductive Call
  /-- `requireSessionLease` -/
  | lease
  | check (external : External)
  /-- read the ConfigMap of the session and update it -/
  | store (session : Session)
  | deleteRecord
  | getClaim (key : String × String)
  | createClaim (key : String × String) (labels : Labels) (spec : ClaimSpec)
  | updateClaim (key : String × String) (claim : Claim)
  | deleteClaim (key : String × String) (uid : Nat)
  | getVolume (name : String)
  | updateVolume (name : String) (pv : PV)
  | deleteVolume (name : String) (uid : Nat)
  | getPod (key : String × String)
  | createPod (key : String × String) (labels : Labels) (claim : String)
  | deletePod (key : String × String) (uid : Nat)
  | listPods (ns : String)
  | getStorageClass (name : String)
  /-- the transfer of a volume by the copy engine -/
  | transfer (session : String) (index : Nat) (attempt : Int)
  /-- the time between two polls of `WaitFor` -/
  | wait

@[reducible] def Call.Result : Call → Type
  | .getClaim _ => Option Claim
  | .createClaim .. => Claim
  | .getVolume _ => Option PV
  | .getPod _ => Option Pod
  | .createPod .. => Pod
  | .listPods _ => List Pod
  | .getStorageClass _ => Option StorageClass
  | _ => Unit

@[reducible] def Call.Reply (op : Call) : Type := Except String op.Result

def Call.isWait : Call → Bool
  | .wait => true
  | _ => false

def Call.isTransfer : Call → Bool
  | .transfer .. => true
  | _ => false

/-- The calls that change nothing; waiting is one of them. -/
def Call.isRead : Call → Bool
  | .lease | .check _ | .getClaim _ | .getVolume _ | .getPod _ | .listPods _
  | .getStorageClass _ | .wait => true
  | _ => false

/-! ## The API server -/

namespace World

def setClaim (w : World) (key : String × String) (claim : Claim) : World :=
  { w with claims := Function.update w.claims key (some claim) }

def setVolume (w : World) (name : String) (pv : Option PV) : World :=
  { w with volumes := Function.update w.volumes name pv }

def findPod (w : World) (key : String × String) : Option Pod :=
  w.pods.find? fun pod => decide (pod.key = key)

end World

def newClaim (w : World) (labels : Labels) (spec : ClaimSpec) : Claim :=
  { uid := w.nextUID, labels, spec }

def newPod (w : World) (key : String × String) (labels : Labels) (claim : String) : Pod :=
  { ns := key.1, name := key.2, claims := [claim], uid := w.nextUID, labels }

/-- What the API server answers, and the cluster after the call.  A deletion of an object that is
not there counts as done. -/
def serve : (op : Call) → World → op.Reply × World
  | .lease, w | .check _, w => (.ok (), w)
  | .store session, w => (.ok (), { w with record := some session })
  | .deleteRecord, w => (.ok (), { w with record := none })
  | .getClaim key, w => (.ok (w.claims key), w)
  | .createClaim key labels spec, w =>
    match w.claims key with
    | some _ => (.error "already exists", w)
    | none => (.ok (newClaim w labels spec),
        { w.setClaim key (newClaim w labels spec) with nextUID := w.nextUID + 1 })
  | .updateClaim key claim, w =>
    match w.claims key with
    | none => (.error "not found", w)
    | some current =>
      if current.uid = claim.uid then
        (.ok (), w.setClaim key { current with labels := claim.labels })
      else (.error "conflict", w)
  | .deleteClaim key uid, w =>
    match w.claims key with
    | none => (.ok (), w)
    | some current =>
      if current.uid = uid then (.ok (), w.setClaim key { current with terminating := true })
      else (.error "conflict", w)
  | .getVolume name, w => (.ok (w.volumes name), w)
  | .updateVolume name pv, w =>
    match w.volumes name with
    | none => (.error "not found", w)
    | some current =>
      if current.uid = pv.uid then
        (.ok (), w.setVolume name (some { current with reclaimPolicy := pv.reclaimPolicy }))
      else (.error "conflict", w)
  | .deleteVolume name uid, w =>
    match w.volumes name with
    | none => (.ok (), w)
    | some current =>
      if current.uid = uid then (.ok (), w.setVolume name none) else (.error "conflict", w)
  | .getPod key, w => (.ok (w.findPod key), w)
  | .createPod key labels claim, w =>
    match w.findPod key with
    | some _ => (.error "already exists", w)
    | none => (.ok (newPod w key labels claim),
        { w with pods := w.pods ++ [newPod w key labels claim], nextUID := w.nextUID + 1 })
  | .deletePod key uid, w =>
    match w.findPod key with
    | none => (.ok (), w)
    | some current =>
      if current.uid = uid then
        (.ok (), { w with
          pods := w.pods.map fun pod =>
            if pod.key = key then { pod with terminating := true } else pod })
      else (.error "conflict", w)
  | .listPods ns, w => (.ok (w.pods.filter fun pod => decide (pod.ns = ns)), w)
  | .getStorageClass name, w => (.ok (w.classes name), w)
  | .transfer .., w | .wait, w => (.ok (), w)

theorem Call.isTransfer_of_isRead {op : Call} (h : op.isRead = true) : op.isTransfer = false := by
  cases op <;> first | rfl | cases h

theorem exists_serve_of_isRead {op : Call} (h : op.isRead = true) (w : World) :
    ∃ a, serve op w = (.ok a, w) := by
  cases op <;> first | exact ⟨_, rfl⟩ | cases h

/-! ## The controllers -/

/-- The Pod is the same but for its node and its phase; it stays under deletion. -/
def Pod.SameAs (new old : Pod) : Prop :=
  new.key = old.key ∧ new.uid = old.uid ∧ new.labels = old.labels ∧ new.claims = old.claims ∧
    (old.terminating = true → new.terminating = true)

/-- The claim is the same but for its volume; it stays under deletion. -/
def Claim.SameAs (new old : Claim) : Prop :=
  new.uid = old.uid ∧ new.labels = old.labels ∧ new.spec = old.spec ∧
    (old.terminating = true → new.terminating = true)

theorem Pod.SameAs.refl (pod : Pod) : pod.SameAs pod := ⟨rfl, rfl, rfl, rfl, id⟩

theorem Claim.SameAs.refl (claim : Claim) : claim.SameAs claim := ⟨rfl, rfl, rfl, id⟩

theorem Pod.SameAs.uses {new old : Pod} (h : new.SameAs old) {key : String × String}
    (huses : new.Uses key) : old.Uses key := by
  have hns : new.ns = old.ns := congrArg Prod.fst h.1
  refine ⟨?_, ?_⟩
  · rw [← hns]
    exact huses.1
  · rw [← h.2.2.2.1]
    exact huses.2

/-- The controllers may provide a volume for the claim: its class does not wait for a Pod, or there
is a Pod that uses the claim. -/
def World.Bindable (w : World) (key : String × String) (claim : Claim) : Prop :=
  (∃ storageClass, w.classes claim.spec.storageClassName = some storageClass ∧
    storageClass.waitForFirstConsumer = false) ∨ ∃ pod ∈ w.pods, pod.Uses key

/-- A volume of the name may be given to a claim: the name is new, or the volume has no claim. -/
def World.Unused (w : World) (name : String) : Prop :=
  name ∉ w.usedNames ∨ ∃ pv, w.volumes name = some pv ∧ pv.claimRef = none

/-- The controllers and deletions bring nothing new, except volumes for claims that have none. -/
structure Fades (w w' : World) : Prop where
  classes : w'.classes = w.classes
  names : ∀ name ∈ w.usedNames, name ∈ w'.usedNames
  pods : ∀ pod' ∈ w'.pods, ∃ pod ∈ w.pods, pod'.SameAs pod
  claims : ∀ key claim', w'.claims key = some claim' →
    ∃ claim, w.claims key = some claim ∧ claim'.SameAs claim ∧
      (claim'.volumeName = claim.volumeName ∨
        claim.volumeName = "" ∧ w.Bindable key claim ∧ w.Unused claim'.volumeName ∧
          claim'.volumeName ∈ w'.usedNames ∧
          ∀ pv', w'.volumes claim'.volumeName = some pv' →
            pv'.claimRef = some (claimReference key claim'.uid) ∧ pv'.phase ≠ .failed)
  volumes : ∀ name pv', w'.volumes name = some pv' →
    w.Unused name ∨ ∃ pv, w.volumes name = some pv ∧ pv'.uid = pv.uid ∧
      pv'.claimRef = pv.claimRef ∧ (pv'.phase = .failed → pv.phase = .failed)

/-- What the controllers may do. -/
structure Controls (w w' : World) : Prop extends Fades w w' where
  record : w'.record = w.record
  /-- a claim that nobody deletes stays -/
  stay : ∀ key claim, w.claims key = some claim → claim.terminating = false →
    ∃ claim', w'.claims key = some claim' ∧ claim'.terminating = false

theorem Fades.refl (w : World) : Fades w w where
  classes := rfl
  names _ h := h
  pods pod h := ⟨pod, h, .refl pod⟩
  claims _ claim h := ⟨claim, h, .refl claim, .inl rfl⟩
  volumes _ pv h := .inr ⟨pv, h, rfl, rfl, id⟩

theorem Controls.refl (w : World) : Controls w w where
  toFades := .refl w
  record := rfl
  stay _ claim h hstay := ⟨claim, h, hstay⟩

/-- The controllers have nothing left to do but binding: what is being deleted is gone, unless a Pod
holds it, and the volumes of claims that are gone are released. -/
structure World.Settled (w : World) : Prop where
  pods : ∀ pod ∈ w.pods, pod.terminating = false
  claims : ∀ key claim, w.claims key = some claim → claim.terminating = true →
    ∃ pod ∈ w.pods, pod.Uses key
  volumes : ∀ name pv ref, w.volumes name = some pv → pv.claimRef = some ref →
    w.claims ref.key = none → pv.phase = .released

def World.settledPods (w : World) : List Pod := w.pods.filter fun pod => !pod.terminating

/-- The claims that are not being deleted or that a Pod holds. -/
def World.settledClaims (w : World) (key : String × String) : Option Claim :=
  (w.claims key).filter fun claim => !claim.terminating ||
    w.settledPods.any fun pod => decide (pod.ns = key.1) && podBlocksPVCDeletion pod.toPod key.2

/-- A volume is released when its claim is gone, and removed if its policy is to delete it. -/
def World.settledVolume (w : World) (pv : PV) : Option PV :=
  match pv.claimRef with
  | none => some pv
  | some ref =>
    match w.settledClaims ref.key with
    | some _ => some pv
    | none => if pv.reclaimPolicy = .delete then none else some { pv with phase := .released }

/-- The cluster after the controllers have finished. -/
def World.settle (w : World) : World :=
  { w with
    pods := w.settledPods
    claims := w.settledClaims
    volumes := fun name => (w.volumes name).bind w.settledVolume }

theorem World.settledClaims_eq_some {w : World} {key : String × String} {claim : Claim} :
    w.settledClaims key = some claim ↔ w.claims key = some claim ∧
      (claim.terminating = false ∨ ∃ pod ∈ w.settledPods, pod.ns = key.1 ∧
        podBlocksPVCDeletion pod.toPod key.2 = true) := by
  simp [settledClaims, Option.filter_eq_some_iff, List.any_eq_true]

theorem World.settledVolume_eq_some {w : World} {pv pv' : PV} (h : w.settledVolume pv = some pv') :
    pv'.uid = pv.uid ∧ pv'.claimRef = pv.claimRef ∧ (pv' = pv ∨ pv'.phase = .released) ∧
      ∀ ref, pv'.claimRef = some ref → w.settledClaims ref.key = none → pv'.phase = .released := by
  unfold settledVolume at h
  split at h
  · rename_i hnone
    cases h
    refine ⟨rfl, rfl, .inl rfl, fun ref href => ?_⟩
    rw [hnone] at href
    cases href
  · rename_i ref href
    split at h
    · rename_i claim hclaim
      cases h
      refine ⟨rfl, rfl, .inl rfl, fun ref' href' hnone => ?_⟩
      rw [href] at href'
      cases href'
      rw [hclaim] at hnone
      cases hnone
    · split at h
      · cases h
      · cases h
        exact ⟨rfl, rfl, .inr rfl, fun _ _ _ => rfl⟩

theorem World.settled_settle (w : World) : w.settle.Settled where
  pods pod h := by simpa [settle, settledPods] using (List.mem_filter.mp h).2
  claims key claim h hterminating := by
    obtain ⟨-, hstays⟩ := settledClaims_eq_some.mp h
    rcases hstays with hstays | ⟨pod, hmem, hns, hblocks⟩
    · rw [hterminating] at hstays
      cases hstays
    · refine ⟨pod, hmem, hns, ?_⟩
      simp only [podBlocksPVCDeletion, podUsesPVC, Bool.and_eq_true, decide_eq_true_eq] at hblocks
      exact hblocks.2
  volumes name pv ref h href hnone := by
    obtain ⟨old, -, hold⟩ := Option.bind_eq_some_iff.mp h
    exact (settledVolume_eq_some hold).2.2.2 ref href hnone

theorem World.controls_settle (w : World) : Controls w w.settle where
  classes := rfl
  names _ h := h
  pods pod h := ⟨pod, (List.mem_filter.mp h).1, .refl pod⟩
  claims key claim h := ⟨claim, (settledClaims_eq_some.mp h).1, .refl claim, .inl rfl⟩
  volumes name pv' h := by
    obtain ⟨pv, hpv, hsettled⟩ := Option.bind_eq_some_iff.mp h
    obtain ⟨huid, href, hphase, -⟩ := settledVolume_eq_some hsettled
    refine .inr ⟨pv, hpv, huid, href, fun hfailed => ?_⟩
    rcases hphase with rfl | hreleased
    · exact hfailed
    · rw [hreleased] at hfailed
      cases hfailed
  record := rfl
  stay key claim h hstay := ⟨claim, settledClaims_eq_some.mpr ⟨h, .inl hstay⟩, hstay⟩

/-- The cluster after a claim was given a volume. -/
def World.bind (w : World) (key : String × String) (claim : Claim) (name : String)
    (pv : PV) : World :=
  { w with
    claims := Function.update w.claims key (some { claim with volumeName := name, bound := true })
    volumes := Function.update w.volumes name (some pv)
    usedNames := name :: w.usedNames }

/-- Binding a claim to a new volume is the work of the controllers. -/
theorem World.controls_bind {w : World} {key : String × String} {claim : Claim} {name : String}
    {pv : PV} (hclaim : w.claims key = some claim) (hunbound : claim.volumeName = "")
    (hbindable : w.Bindable key claim) (hname : name ∉ w.usedNames)
    (href : pv.claimRef = some (claimReference key claim.uid)) (hphase : pv.phase ≠ .failed) :
    Controls w (w.bind key claim name pv) where
  classes := rfl
  names _ h := List.mem_cons_of_mem _ h
  pods pod h := ⟨pod, h, .refl pod⟩
  claims key' claim' h := by
    by_cases hkey : key' = key
    · subst hkey
      simp only [bind, Function.update_self, Option.some.injEq] at h
      subst h
      refine ⟨claim, hclaim, ⟨rfl, rfl, rfl, id⟩, .inr ⟨hunbound, hbindable, .inl hname,
        List.mem_cons_self, fun pv' hpv' => ?_⟩⟩
      simp only [bind, Function.update_self, Option.some.injEq] at hpv'
      subst hpv'
      exact ⟨href, hphase⟩
    · simp only [bind, Function.update_of_ne hkey] at h
      exact ⟨claim', h, .refl claim', .inl rfl⟩
  volumes name' pv' h := by
    by_cases hsame : name' = name
    · subst hsame
      exact .inl (.inl hname)
    · simp only [bind, Function.update_of_ne hsame] at h
      exact .inr ⟨pv', h, rfl, rfl, id⟩
  record := rfl
  stay key' claim' h hstay := by
    by_cases hkey : key' = key
    · subst hkey
      cases hclaim.symm.trans h
      exact ⟨{ claim with volumeName := name, bound := true }, Function.update_self .., hstay⟩
    · exact ⟨claim', (Function.update_of_ne hkey ..).trans h, hstay⟩

/-! ## Environments -/

def calmly (op : Call) (w : World) : op.Reply × World :=
  serve op (if op.isWait then w.settle else w)

/-- `reservationConsumerName`, for the digest of a name. -/
def reservationConsumerName (digest : String → String) (sessionID pvc : String) : String :=
  let name := sessionID ++ "-reserve-" ++ pvc
  if name.utf8ByteSize ≤ 63 then name
  else
    let suffix := "-" ++ digest name
    let front := name.toList.take (63 - suffix.utf8ByteSize)
    String.ofList (front.reverse.dropWhile (· = '-')).reverse ++ suffix

variable (digest : String → String)

/-- What a call and its reply can do to the cluster.  A transfer can leave Pods of the engine
behind. -/
inductive Observed : Bool → World → (op : Call) → op.Reply → World → Prop
  | calm {w : World} {op : Call} : Observed true w op (calmly op w).1 (calmly op w).2
  | served {w w1 : World} {op : Call} :
      Controls w w1 → Observed false w op (serve op w1).1 (serve op w1).2
  | failed {w w1 : World} {op : Call} {text : String} :
      Controls w w1 → Observed false w op (.error text) w1
  | lost {w w1 : World} {op : Call} {text : String} :
      Controls w w1 → Observed false w op (.error text) (serve op w1).2
  | transferred {w w1 : World} {session : String} {index : Nat} {attempt : Int}
      {reply : Except String Unit} {left : List Pod} :
      Controls w w1 → (∀ pod ∈ left, ∀ pvc, pod.name ≠ reservationConsumerName digest session pvc) →
      Observed false w (.transfer session index attempt) reply { w1 with pods := w1.pods ++ left }

/-- The cluster in which a call is served. -/
structure Before (calm : Bool) (op : Call) (w w1 : World) : Prop where
  controls : Controls w w1
  still : calm = true → op.isWait = false → w1 = w
  settled : calm = true → op.isWait = true → w1.Settled

variable {digest} {calm : Bool} {w w' : World} {op : Call}

/-- **What a call can do.** -/
theorem Observed.inversion {r : op.Reply} (h : Observed digest calm w op r w')
    (htransfer : op.isTransfer = false) :
    ∃ w1, Before calm op w w1 ∧ (r = (serve op w1).1 ∧ w' = (serve op w1).2 ∨
      calm = false ∧ (∃ text, r = .error text) ∧ (w' = w1 ∨ w' = (serve op w1).2)) := by
  have hbefore {w1 : World} (hcontrols : Controls w w1) : Before false op w w1 :=
    ⟨hcontrols, (absurd · (by decide)), (absurd · (by decide))⟩
  cases h with
  | calm =>
    refine ⟨if op.isWait then w.settle else w, ?_, .inl ⟨rfl, rfl⟩⟩
    cases hwait : op.isWait with
    | true => exact ⟨w.controls_settle, fun _ h => absurd (hwait.symm.trans h) (by decide),
        fun _ _ => w.settled_settle⟩
    | false => exact ⟨.refl w, fun _ _ => rfl, fun _ h => absurd (hwait.symm.trans h) (by decide)⟩
  | served hcontrols => exact ⟨_, hbefore hcontrols, .inl ⟨rfl, rfl⟩⟩
  | failed hcontrols => exact ⟨_, hbefore hcontrols, .inr ⟨rfl, ⟨_, rfl⟩, .inl rfl⟩⟩
  | lost hcontrols => exact ⟨_, hbefore hcontrols, .inr ⟨rfl, ⟨_, rfl⟩, .inr rfl⟩⟩
  | transferred => cases htransfer

/-! ## Programs of the service -/

/-- Why an operation ends. -/
inductive Failure
  /-- an error of the API, or of a lease that is gone -/
  | api (text : String)
  /-- the record does not pass its check -/
  | invalid (text : String)
  | refused (text : String)
  | timeout (text : String)
  deriving DecidableEq, Repr

/-- `Error`. -/
def Failure.text : Failure → String
  | .api text | .invalid text | .refused text | .timeout text => text

abbrev Action (α : Type) := Prog Call Call.Reply Failure α

def ask (op : Call) : Action op.Result :=
  perform op >>= fun
    | .ok a => ret a
    | .error text => fail (.api text)

/-- **One call.**  It has to keep the invariant where it is served, and its errors have to be
allowed: an error of the environment, if that is not calm, and an error of the API server. -/
theorem keeps_ask {I : World → Prop} {A : World → op.Result → Prop} {E : World → Failure → Prop}
    (htransfer : op.isTransfer = false) (hI : I w)
    (hdisturbed : calm = false → ∀ w text, E w (.api text))
    (hserve : ∀ w1, Before calm op w w1 → I w1 ∧ I (serve op w1).2 ∧
      match (serve op w1).1 with
      | .ok a => A (serve op w1).2 a
      | .error text => E (serve op w1).2 (.api text)) :
    (ask op).Keeps (Observed digest calm) I A E w := by
  refine keeps_bind.mpr (keeps_perform.mpr ⟨hI, fun r w' hobs => ?_⟩)
  obtain ⟨w1, hbefore, ⟨rfl, rfl⟩ | ⟨hcalm, ⟨text, rfl⟩, hw'⟩⟩ := hobs.inversion htransfer
  · obtain ⟨-, hI', hreply⟩ := hserve w1 hbefore
    refine ⟨hI', ?_⟩
    split at hreply <;> exact ⟨hI', hreply⟩
  · obtain ⟨hI1, hI', -⟩ := hserve w1 hbefore
    have hIw : I w' := by
      rcases hw' with rfl | rfl
      · exact hI1
      · exact hI'
    exact ⟨hIw, hIw, hdisturbed hcalm _ _⟩

end CrossCluster

end PvcMigrate
