import Mathlib.Data.List.Sort
import Mathlib.Logic.Function.Basic
import PvcMigrate.Lib.Prog
import PvcMigrate.Workflow.Status

/-!
# Claims, volumes and the API they are changed through

The storage objects of a cluster as the switcher sees them, the API calls it makes on them,
and what those calls do when no other actor interferes.  `World ρ` is the cluster together
with the workflow record of type `ρ` that the store has persisted.

The built-in controllers take part in two places only, both waits of the program: they remove
a terminating claim and then treat its volume by its reclaim policy (`finishDeletion`), and
they bind a pending claim to the volume reserved for it (`bindClaim`).  A volume whose policy
is not `Retain` is gone with its claim.

UIDs are opaque: a UID is a number handed out by the API server, and `none` is the empty
string of an object that has none.  The `apiVersion`, `kind` and `resourceVersion` of an
object *reference* are recorded by the program but never read, and are left out.
-/

namespace PvcMigrate

/-- A UID; `none` is the empty string. -/
abbrev UID := Option Nat

def UID.text : UID → String
  | none => ""
  | some n => toString n

/-- `v1alpha1.ObjectReference`. -/
structure ObjectReference where
  ns : String := ""
  name : String := ""
  uid : UID := none
  deriving DecidableEq, Repr

variable (r : ObjectReference)

/-- The namespace and the name of a claim reference. -/
def ObjectReference.key : String × String := (r.ns, r.name)

/-- The reference is complete enough to find a claim. -/
def ObjectReference.ClaimComplete : Prop :=
  r.ns ≠ "" ∧ r.name ≠ "" ∧ r.uid ≠ none

instance : Decidable r.ClaimComplete :=
  inferInstanceAs (Decidable (_ ∧ _))

/-- The reference is complete enough to find a volume. -/
def ObjectReference.VolumeComplete : Prop :=
  r.name ≠ "" ∧ r.uid ≠ none

instance : Decidable r.VolumeComplete :=
  inferInstanceAs (Decidable (_ ∧ _))

/-- A string map of the API (labels, annotations). -/
abbrev StringMap := String → Option String

variable (m : StringMap)

/-- Reading a Go map: a missing key reads as the empty string. -/
def StringMap.get (key : String) : String := (m key).getD ""

def StringMap.set (key value : String) : StringMap :=
  Function.update m key (some value)

@[simp] theorem StringMap.get_set_self (key value : String) :
    (m.set key value).get key = value := by
  simp [StringMap.get, StringMap.set]

@[simp] theorem StringMap.get_set_of_ne {key key' : String} (value : String)
    (h : key' ≠ key) : (m.set key value).get key' = m.get key' := by
  simp [StringMap.get, StringMap.set, h]

def StringMap.erase (key : String) : StringMap := Function.update m key none

@[simp] theorem StringMap.get_erase_self (key : String) : (m.erase key).get key = "" := by
  simp [StringMap.get, StringMap.erase]

@[simp] theorem StringMap.get_erase_of_ne {key key' : String} (h : key' ≠ key) :
    (m.erase key).get key' = m.get key' := by
  simp [StringMap.get, StringMap.erase, h]

theorem StringMap.eq_some_of_get {m : StringMap} {key value : String} (h : m.get key = value)
    (hvalue : value ≠ "") : m key = some value := by
  unfold StringMap.get at h
  cases hm : m key with
  | none =>
    rw [hm] at h
    exact absurd h.symm hvalue
  | some v =>
    rw [hm] at h
    exact congrArg some h

namespace Kube

/-! ## Metadata keys -/

def managedByLabel : String := "app.kubernetes.io/managed-by"

def managedByValue : String := "pvc-migrate"

def sessionKey : String := "migrate.sealos.io/session"

def resourceRoleLabel : String := "migrate.sealos.io/role"

def originalPolicyAnnotation : String := "migrate.sealos.io/original-reclaim-policy"

def pairedPVAnnotation : String := "migrate.sealos.io/paired-pv"

def rollbackPVAnnotation : String := "migrate.sealos.io/rollback-pv"

/-- `PVCProtectionFinalizer`. -/
def pvcProtectionFinalizer : String := "kubernetes.io/pvc-protection"

/-! ## Objects -/

/-- `corev1.PersistentVolumeReclaimPolicy`. -/
inductive ReclaimPolicy
  | retain
  | delete
  | recycle
  deriving DecidableEq, Repr

def ReclaimPolicy.text : ReclaimPolicy → String
  | .retain => "Retain"
  | .delete => "Delete"
  | .recycle => "Recycle"

def reclaimPolicyOf (text : String) : Option ReclaimPolicy :=
  if text = "Delete" then some .delete
  else if text = "Retain" then some .retain
  else if text = "Recycle" then some .recycle
  else none

theorem reclaimPolicyOf_text (policy : ReclaimPolicy) :
    reclaimPolicyOf policy.text = some policy := by
  cases policy <;> decide

theorem reclaimPolicyOf_eq_some {text : String} {policy : ReclaimPolicy}
    (h : reclaimPolicyOf text = some policy) : policy.text = text := by
  unfold reclaimPolicyOf at h
  split at h
  · cases h
    rename_i htext
    exact htext.symm
  split at h
  · cases h
    rename_i htext
    exact htext.symm
  split at h
  · cases h
    rename_i htext
    exact htext.symm
  · cases h

/-- `corev1.PersistentVolumeClaimPhase`. -/
inductive ClaimPhase
  | pending
  | bound
  | lost
  deriving DecidableEq, Repr

def ClaimPhase.text : ClaimPhase → String
  | .pending => "Pending"
  | .bound => "Bound"
  | .lost => "Lost"

/-- `corev1.PersistentVolumePhase`. -/
inductive VolumePhase
  | pending
  | available
  | bound
  | released
  | failed
  deriving DecidableEq, Repr

def VolumePhase.text : VolumePhase → String
  | .pending => "Pending"
  | .available => "Available"
  | .bound => "Bound"
  | .released => "Released"
  | .failed => "Failed"

/-- The parts of a `PersistentVolumeClaimSpec` the program reads or rewrites. -/
structure PVCSpec where
  volumeName : String := ""
  /-- the storage request, in bytes -/
  request : Option Int := none
  storageClassName : Option String := none
  accessModes : List String := []
  volumeMode : Option String := none
  selector : Option String := none
  dataSource : Option String := none
  dataSourceRef : Option String := none
  deriving DecidableEq, Repr

/-- `corev1.PersistentVolumeClaim`. -/
structure PVC where
  ns : String
  name : String
  uid : UID := none
  resourceVersion : Nat := 0
  /-- set while the claim is terminating; the text of the time -/
  deletionTimestamp : Option String := none
  finalizers : List String := []
  labels : StringMap := fun _ => none
  annotations : StringMap := fun _ => none
  ownerReferences : List String := []
  spec : PVCSpec := {}
  phase : ClaimPhase := .pending

def PVC.ref (c : PVC) : ObjectReference := ⟨c.ns, c.name, c.uid⟩

/-- `corev1.PersistentVolume`; its claim reference has a namespace, a name and a UID. -/
structure PV where
  name : String
  uid : UID := none
  resourceVersion : Nat := 0
  deletionTimestamp : Option String := none
  labels : StringMap := fun _ => none
  annotations : StringMap := fun _ => none
  reclaimPolicy : ReclaimPolicy := .delete
  claimRef : Option ObjectReference := none
  phase : VolumePhase := .pending
  /-- the provisioned storage, in bytes -/
  capacity : Option Int := none

/-- `corev1.PodPhase`. -/
inductive PodPhase
  | pending
  | running
  | succeeded
  | failed
  | unknown
  deriving DecidableEq, Repr

def PodPhase.text : PodPhase → String
  | .pending => "Pending"
  | .running => "Running"
  | .succeeded => "Succeeded"
  | .failed => "Failed"
  | .unknown => "Unknown"

/-- The parts of a Pod that decide whether it uses a claim. -/
structure Pod where
  ns : String
  name : String
  claims : List String := []
  nodeName : String := ""
  phase : PodPhase := .pending
  deriving DecidableEq, Repr

/-- `storagev1.VolumeAttachment`. -/
structure VolumeAttachment where
  persistentVolumeName : Option String
  attached : Bool
  nodeName : String
  deriving DecidableEq, Repr

variable (pod : Pod) (claim : String)

def podUsesPVC : Bool := claim ∈ pod.claims

def activePodUsesPVC : Bool :=
  pod.phase ≠ .succeeded && pod.phase ≠ .failed && podUsesPVC pod claim

/-- `PodBlocksPVCDeletion`, the boundary of the PVC protection controller. -/
def podBlocksPVCDeletion : Bool :=
  pod.nodeName ≠ "" && podUsesPVC pod claim

def podPreventsSafePVCDeletion : Bool :=
  activePodUsesPVC pod claim || podBlocksPVCDeletion pod claim

variable (pvc : PVC)

/-- `BlockingPVCFinalizers`: the finalizers the protection controller cannot resolve, sorted
and without repetitions. -/
def blockingPVCFinalizers : List String :=
  ((pvc.finalizers.filter fun f => f ≠ "" && f ≠ pvcProtectionFinalizer).insertionSort
    (· ≤ ·)).eraseReps

/-! ## The world -/

/-- The cluster and the persisted workflow record. -/
structure World (ρ : Type) where
  /-- claims by namespace and name -/
  claims : String × String → Option PVC
  volumes : String → Option PV
  pods : List Pod
  attachments : List VolumeAttachment
  /-- the next UID the API server hands out -/
  nextUID : Nat
  /-- the API server's time as text, the process's time as a number -/
  clock : String
  time : Time
  record : ρ

namespace World

variable {ρ : Type} (w : World ρ)

def setClaim (key : String × String) (c : Option PVC) : World ρ :=
  { w with claims := Function.update w.claims key c }

def setVolume (name : String) (v : Option PV) : World ρ :=
  { w with volumes := Function.update w.volumes name v }

def setRecord (r : ρ) : World ρ := { w with record := r }

section Lemmas

variable {key key' : String × String} {name name' : String} {c : Option PVC} {v v' : Option PV}
  {r : ρ}

@[simp] theorem claims_setClaim_self : (w.setClaim key c).claims key = c := by
  simp [setClaim]

@[simp] theorem claims_setClaim_of_ne (h : key' ≠ key) :
    (w.setClaim key c).claims key' = w.claims key' := by
  simp [setClaim, h]

@[simp] theorem claims_setVolume : (w.setVolume name v).claims = w.claims := rfl
@[simp] theorem claims_setRecord : (w.setRecord r).claims = w.claims := rfl
@[simp] theorem volumes_setClaim : (w.setClaim key c).volumes = w.volumes := rfl
@[simp] theorem volumes_setRecord : (w.setRecord r).volumes = w.volumes := rfl

@[simp] theorem volumes_setVolume_self : (w.setVolume name v).volumes name = v := by
  simp [setVolume]

@[simp] theorem volumes_setVolume_of_ne (h : name' ≠ name) :
    (w.setVolume name v).volumes name' = w.volumes name' := by
  simp [setVolume, h]

theorem setVolume_eq_self (h : w.volumes name = v) : w.setVolume name v = w := by
  subst h
  simp [setVolume]

@[simp] theorem setClaim_setClaim {c' : Option PVC} :
    (w.setClaim key c).setClaim key c' = w.setClaim key c' := by
  simp [setClaim]

@[simp] theorem setVolume_setVolume :
    (w.setVolume name v).setVolume name v' = w.setVolume name v' := by
  simp [setVolume]

end Lemmas

end World

/-! ## API calls -/

/-- The API errors the program tells apart. -/
inductive ApiError
  | notFound
  | alreadyExists
  | conflict
  deriving DecidableEq, Repr

/-- The calls of a program that changes storage and persists a record of type `ρ`. -/
inductive Op (ρ : Type)
  | getPVC (ns name : String)
  | getPV (name : String)
  | listPods (ns : String)
  | listAttachments
  | now
  | load
  | createPVC (pvc : PVC) (dryRun : Bool)
  /-- delete a claim, with a UID and a resource version as preconditions -/
  | deletePVC (ns name : String) (uid : UID) (resourceVersion : Nat)
  | updatePV (pv : PV)
  | save (record : ρ)
  /-- let the protection controller handle a claim the program waits on -/
  | awaitDeletion (ns name : String)
  /-- let the volume controller handle a volume the program waits on -/
  | awaitRelease (name : String)
  /-- let the volume controller handle a claim the program waits on -/
  | awaitBinding (ns name : String)

@[reducible] def Op.Reply {ρ : Type} : Op ρ → Type
  | getPVC _ _ => Option PVC
  | getPV _ => Option PV
  | listPods _ => List Pod
  | listAttachments => List VolumeAttachment
  | now => Time
  | load => ρ
  | createPVC _ _ => Except ApiError PVC
  | deletePVC _ _ _ _ | updatePV _ => Except ApiError Unit
  | save _ | awaitDeletion _ _ | awaitRelease _ | awaitBinding _ _ => Unit

def Op.IsRead {ρ : Type} : Op ρ → Prop
  | getPVC _ _ | getPV _ | listPods _ | listAttachments | now | load => True
  | createPVC _ dryRun => dryRun = true
  | _ => False

/-! ## What the API server and the built-in controllers do -/

/-- A claim as the server stores it on creation. -/
def PVC.created (uid : Nat) : PVC :=
  { pvc with
    uid := some uid
    resourceVersion := 1
    deletionTimestamp := none
    finalizers := [pvcProtectionFinalizer]
    phase := .pending }

/-- A claim whose deletion has been requested; a second request changes nothing. -/
def PVC.terminating (clock : String) : PVC :=
  { pvc with
    deletionTimestamp := some (pvc.deletionTimestamp.getD clock)
    resourceVersion := pvc.resourceVersion + 1 }

def PVC.bind : PVC :=
  { pvc with phase := .bound, resourceVersion := pvc.resourceVersion + 1 }

section ClaimUpdates

variable (pvc : PVC) (n : Nat) (clock : String)

@[simp] theorem PVC.ns_created : (pvc.created n).ns = pvc.ns := rfl
@[simp] theorem PVC.name_created : (pvc.created n).name = pvc.name := rfl
@[simp] theorem PVC.uid_created : (pvc.created n).uid = some n := rfl
@[simp] theorem PVC.labels_created : (pvc.created n).labels = pvc.labels := rfl
@[simp] theorem PVC.annotations_created : (pvc.created n).annotations = pvc.annotations := rfl
@[simp] theorem PVC.spec_created : (pvc.created n).spec = pvc.spec := rfl
@[simp] theorem PVC.phase_created : (pvc.created n).phase = .pending := rfl
@[simp] theorem PVC.finalizers_created : (pvc.created n).finalizers = [pvcProtectionFinalizer] :=
  rfl

@[simp] theorem PVC.ns_bind : (pvc.bind).ns = pvc.ns := rfl
@[simp] theorem PVC.name_bind : (pvc.bind).name = pvc.name := rfl
@[simp] theorem PVC.uid_bind : (pvc.bind).uid = pvc.uid := rfl
@[simp] theorem PVC.labels_bind : (pvc.bind).labels = pvc.labels := rfl
@[simp] theorem PVC.annotations_bind : (pvc.bind).annotations = pvc.annotations := rfl
@[simp] theorem PVC.spec_bind : (pvc.bind).spec = pvc.spec := rfl
@[simp] theorem PVC.phase_bind : (pvc.bind).phase = .bound := rfl
@[simp] theorem PVC.finalizers_bind : (pvc.bind).finalizers = pvc.finalizers := rfl

end ClaimUpdates

variable (pv : PV)

def PV.bind (pvc : PVC) : PV :=
  { pv with
    claimRef := some pvc.ref
    phase := .bound
    resourceVersion := pv.resourceVersion + 1 }

def PV.stored : PV := { pv with resourceVersion := pv.resourceVersion + 1 }

def PV.inPhase (phase : VolumePhase) : PV := { pv with phase := phase }

/-- A claim the volume controller binds to `pv`: it is pending, names the volume, and the
volume is free or reserved for it. -/
def PVC.Binds : Prop :=
  pvc.phase = .pending ∧ pvc.deletionTimestamp = none ∧
    ∀ r ∈ pv.claimRef, r.ns = pvc.ns ∧ r.name = pvc.name ∧ (r.uid = none ∨ r.uid = pvc.uid)

instance : Decidable (pvc.Binds pv) := by
  unfold PVC.Binds
  exact inferInstance

namespace World

variable {ρ : Type} (w : World ρ)

/-- The protection controller removes its finalizer from a terminating claim no Pod uses; a
claim without other finalizers is then gone. -/
def finishDeletion (ns name : String) : World ρ :=
  match w.claims (ns, name) with
  | some pvc =>
    if pvc.deletionTimestamp.isSome ∧ blockingPVCFinalizers pvc = [] ∧
        ∀ pod ∈ w.pods, pod.ns = ns → podBlocksPVCDeletion pod name = false then
      w.setClaim (ns, name) none
    else w
  | none => w

/-- The volume controller releases a volume whose claim is gone: it keeps a retained volume
as `Released` and reclaims any other. -/
def releaseVolume (name : String) : World ρ :=
  match w.volumes name with
  | none => w
  | some pv =>
    match pv.claimRef with
    | none => w.setVolume name (some (pv.inPhase .available))
    | some r =>
      if r.uid = none then w.setVolume name (some (pv.inPhase .available))
      else if (w.claims (r.ns, r.name)).any (fun pvc => pvc.uid = r.uid) then w
      else match pv.reclaimPolicy with
        | .retain => w.setVolume name (some (pv.inPhase .released))
        | .delete => w.setVolume name none
        | .recycle => w.setVolume name (some { pv.inPhase .available with claimRef := none })

/-- The volume controller binds a pending claim to the volume it names. -/
def bindClaim (ns name : String) : World ρ :=
  match w.claims (ns, name) with
  | none => w
  | some pvc =>
    match w.volumes pvc.spec.volumeName with
    | none => w
    | some pv =>
      if pvc.Binds pv then
        (w.setClaim (ns, name) (some pvc.bind)).setVolume pvc.spec.volumeName
          (some (pv.bind pvc))
      else w

/-- The world with a new claim, under the next UID. -/
def addClaim (pvc : PVC) : World ρ :=
  { w.setClaim (pvc.ns, pvc.name) (some (pvc.created w.nextUID)) with
    nextUID := w.nextUID + 1 }

def create (pvc : PVC) (dryRun : Bool) : Except ApiError PVC × World ρ :=
  match w.claims (pvc.ns, pvc.name) with
  | some _ => (.error .alreadyExists, w)
  | none => (.ok (pvc.created w.nextUID), if dryRun then w else w.addClaim pvc)

/-- Deleting a claim under preconditions; a claim with a finalizer only starts to
terminate. -/
def delete (ns name : String) (uid : UID) (resourceVersion : Nat) :
    Except ApiError Unit × World ρ :=
  match w.claims (ns, name) with
  | none => (.error .notFound, w)
  | some pvc =>
    if pvc.uid ≠ uid ∨ pvc.resourceVersion ≠ resourceVersion then (.error .conflict, w)
    else if pvc.finalizers = [] then (.ok (), w.setClaim (ns, name) none)
    else (.ok (), w.setClaim (ns, name) (some (pvc.terminating w.clock)))

/-- Updating a volume, as a compare-and-swap on its resource version. -/
def update (pv : PV) : Except ApiError Unit × World ρ :=
  match w.volumes pv.name with
  | none => (.error .notFound, w)
  | some current =>
    if current.uid ≠ pv.uid ∨ current.resourceVersion ≠ pv.resourceVersion then
      (.error .conflict, w)
    else (.ok (), w.setVolume pv.name (some pv.stored))

end World

section AddClaim

variable {ρ : Type} (w : World ρ) (pvc : PVC)

@[simp] theorem World.claims_addClaim_self :
    (w.addClaim pvc).claims (pvc.ns, pvc.name) = some (pvc.created w.nextUID) :=
  w.claims_setClaim_self

@[simp] theorem World.claims_addClaim_of_ne {key : String × String}
    (h : key ≠ (pvc.ns, pvc.name)) : (w.addClaim pvc).claims key = w.claims key :=
  w.claims_setClaim_of_ne h

@[simp] theorem World.volumes_addClaim : (w.addClaim pvc).volumes = w.volumes := rfl
@[simp] theorem World.pods_addClaim : (w.addClaim pvc).pods = w.pods := rfl
@[simp] theorem World.attachments_addClaim : (w.addClaim pvc).attachments = w.attachments := rfl
@[simp] theorem World.record_addClaim : (w.addClaim pvc).record = w.record := rfl
@[simp] theorem World.time_addClaim : (w.addClaim pvc).time = w.time := rfl

end AddClaim

/-- **The cluster without other actors**: what each call answers and how it changes the
world. -/
def exec {ρ : Type} : (op : Op ρ) → World ρ → op.Reply × World ρ
  | .getPVC ns name, w => (w.claims (ns, name), w)
  | .getPV name, w => (w.volumes name, w)
  | .listPods ns, w => (w.pods.filter (fun pod => pod.ns = ns), w)
  | .listAttachments, w => (w.attachments, w)
  | .now, w => (w.time, w)
  | .load, w => (w.record, w)
  | .createPVC pvc dryRun, w => w.create pvc dryRun
  | .deletePVC ns name uid resourceVersion, w => w.delete ns name uid resourceVersion
  | .updatePV pv, w => w.update pv
  | .save record, w => ((), w.setRecord record)
  | .awaitDeletion ns name, w => ((), w.finishDeletion ns name)
  | .awaitRelease name, w => ((), w.releaseVolume name)
  | .awaitBinding ns name, w => ((), w.bindClaim ns name)

theorem exec_of_isRead {ρ : Type} (op : Op ρ) (h : op.IsRead) (w : World ρ) :
    (exec op w).2 = w := by
  cases op with
  | createPVC pvc dryRun =>
    have hdry : dryRun = true := h
    subst hdry
    simp only [exec, World.create, if_true]
    split <;> rfl
  | getPVC | getPV | listPods | listAttachments | now | load => rfl
  | deletePVC | updatePV | save | awaitDeletion | awaitRelease | awaitBinding => exact h.elim

/-! ## Programs -/

/-- Why a program stops with an error. -/
inductive Failure
  /-- an error of the program -/
  | domain (e : Error)
  /-- an API error passed on as it is -/
  | api (reason : ApiError)
  /-- a wait whose condition was not reached -/
  | waiting (description : String)
  deriving DecidableEq, Repr

abbrev Switch (ρ α : Type) := Prog (Op ρ) Op.Reply Failure α

variable {ρ α : Type}

/-- `domain.NewError`, as the failure of a program. -/
def newError (category : ErrorCategory) (op message : String) : Failure :=
  .domain ⟨category, op, message⟩

/-- `domain.CategoryOf`. -/
def Failure.category : Failure → ErrorCategory
  | .domain e => e.category
  | .api _ => .internal
  | .waiting _ => .timeout

namespace Api

/-- A read of one claim; `none` is `NotFound`. -/
def getPVC (ns name : String) : Switch ρ (Option PVC) := Prog.perform (Op.getPVC ns name)

/-- A read of one volume; `none` is `NotFound`. -/
def getPV (name : String) : Switch ρ (Option PV) := Prog.perform (Op.getPV name)

def listPods (ns : String) : Switch ρ (List Pod) := Prog.perform (Op.listPods ns)

def listAttachments : Switch ρ (List VolumeAttachment) := Prog.perform Op.listAttachments

def now : Switch ρ Time := Prog.perform Op.now

def load : Switch ρ ρ := Prog.perform Op.load

/-- Create a claim, or have the server check that it could be created. -/
def createPVC (pvc : PVC) (dryRun : Bool) : Switch ρ (Except ApiError PVC) :=
  Prog.perform (Op.createPVC pvc dryRun)

def deletePVC (ns name : String) (uid : UID) (resourceVersion : Nat) :
    Switch ρ (Except ApiError Unit) :=
  Prog.perform (Op.deletePVC ns name uid resourceVersion)

def updatePV (pv : PV) : Switch ρ (Except ApiError Unit) := Prog.perform (Op.updatePV pv)

def save (record : ρ) : Switch ρ Unit := Prog.perform (Op.save record)

/-- Give the protection controller time to remove a claim. -/
def awaitDeletion (ns name : String) : Switch ρ Unit := Prog.perform (Op.awaitDeletion ns name)

/-- Give the volume controller time to release a volume. -/
def awaitRelease (name : String) : Switch ρ Unit := Prog.perform (Op.awaitRelease name)

/-- Give the volume controller time to bind a claim. -/
def awaitBinding (ns name : String) : Switch ρ Unit := Prog.perform (Op.awaitBinding ns name)

end Api

/-- **Every stop of the program satisfies `C` and its result satisfies `Q`**, in the cluster
without other actors. -/
abbrev Runs (C : World ρ → Prop) (Q : Except Failure α → World ρ → Prop) (p : Switch ρ α)
    (w : World ρ) : Prop :=
  Prog.wp exec C (fun _ _ => True) Q p w

section Rules

variable {β : Type} {C : World ρ → Prop} {Q : Except Failure β → World ρ → Prop} {w : World ρ}
  {ns : String}

variable {name : String}

@[simp] theorem runs_getPVC {f : Option PVC → Switch ρ β} :
    Runs C Q (Api.getPVC ns name >>= f) w ↔ Runs C Q (f (w.claims (ns, name))) w :=
  Prog.wp_perform_bind_read rfl trivial

@[simp] theorem runs_getPV {f : Option PV → Switch ρ β} :
    Runs C Q (Api.getPV name >>= f) w ↔ Runs C Q (f (w.volumes name)) w :=
  Prog.wp_perform_bind_read rfl trivial

@[simp] theorem runs_now {f : Time → Switch ρ β} :
    Runs C Q (Api.now >>= f) w ↔ Runs C Q (f w.time) w :=
  Prog.wp_perform_bind_read rfl trivial

@[simp] theorem runs_load {f : ρ → Switch ρ β} :
    Runs C Q (Api.load >>= f) w ↔ Runs C Q (f w.record) w :=
  Prog.wp_perform_bind_read rfl trivial

@[simp] theorem runs_createPVC {pvc : PVC} {dryRun : Bool} {f : Except ApiError PVC → Switch ρ β} :
    Runs C Q (Api.createPVC pvc dryRun >>= f) w ↔
      C w ∧ Runs C Q (f (w.create pvc dryRun).1) (w.create pvc dryRun).2 := by
  refine Prog.wp_perform_bind.trans ?_
  simp [exec]

@[simp] theorem runs_deletePVC {uid : UID} {resourceVersion : Nat}
    {f : Except ApiError Unit → Switch ρ β} :
    Runs C Q (Api.deletePVC ns name uid resourceVersion >>= f) w ↔
      C w ∧ Runs C Q (f (w.delete ns name uid resourceVersion).1)
        (w.delete ns name uid resourceVersion).2 := by
  refine Prog.wp_perform_bind.trans ?_
  simp [exec]

@[simp] theorem runs_updatePV {pv : PV} {f : Except ApiError Unit → Switch ρ β} :
    Runs C Q (Api.updatePV pv >>= f) w ↔
      C w ∧ Runs C Q (f (w.update pv).1) (w.update pv).2 := by
  refine Prog.wp_perform_bind.trans ?_
  simp [exec]

theorem runs_save_spec {record : ρ} (Q : Except Failure Unit → World ρ → Prop) :
    Runs C Q (Api.save record) w ↔
      (C w ∧ C (w.setRecord record)) ∧ Q (.ok ()) (w.setRecord record) := by
  show C w ∧ True ∧ C (w.setRecord record) ∧ Q (.ok ()) (w.setRecord record) ↔ _
  tauto

variable {f : Unit → Switch ρ β}

@[simp] theorem runs_awaitDeletion :
    Runs C Q (Api.awaitDeletion ns name >>= f) w ↔
      C w ∧ Runs C Q (f ()) (w.finishDeletion ns name) := by
  refine Prog.wp_perform_bind.trans ?_
  simp [exec]

@[simp] theorem runs_awaitRelease :
    Runs C Q (Api.awaitRelease name >>= f) w ↔ C w ∧ Runs C Q (f ()) (w.releaseVolume name) := by
  refine Prog.wp_perform_bind.trans ?_
  simp [exec]

@[simp] theorem runs_awaitBinding :
    Runs C Q (Api.awaitBinding ns name >>= f) w ↔
      C w ∧ Runs C Q (f ()) (w.bindClaim ns name) := by
  refine Prog.wp_perform_bind.trans ?_
  simp [exec]

theorem runs_bind_of_spec {p : Switch ρ α} {f : α → Switch ρ β} {a : α} {P : Prop}
    {w' : World ρ} (h : ∀ Q, Runs C Q p w ↔ P ∧ Q (.ok a) w') :
    Runs C Q (p >>= f) w ↔ P ∧ Runs C Q (f a) w' :=
  Prog.wp_bind.trans (h _)

@[simp] theorem runs_reject {bad : Prop} [Decidable bad] {e : Failure} :
    Runs C Q (Prog.reject bad e >>= f) w ↔
      if bad then C w ∧ Q (.error e) w else Runs C Q (f ()) w :=
  Prog.wp_reject_bind

end Rules

/-! ## Checks -/

/-- The program makes no call that changes the world. -/
abbrev ReadOnly (p : Switch ρ α) : Prop := p.Only Op.IsRead

/-- The check passes in the world `w`. -/
def Accepts (p : Switch ρ Unit) (w : World ρ) : Prop := (Prog.run exec p w).1 = .ok ()

section Checks

variable {p : Switch ρ Unit} {w : World ρ}

theorem runs_of_accepts {C : World ρ → Prop} {Q : Except Failure Unit → World ρ → Prop}
    (hread : ReadOnly p) (h : Accepts p w) : Runs C Q p w ↔ C w ∧ Q (.ok ()) w := by
  have hwp := Prog.wp_of_only (C := C) (G := fun _ _ => True) (Q := Q) (s := w) hread
    exec_of_isRead (fun _ _ => trivial)
  rw [show (Prog.run exec p w).1 = .ok () from h] at hwp
  exact hwp

theorem runs_bind_of_accepts {β : Type} {C : World ρ → Prop}
    {Q : Except Failure β → World ρ → Prop} {f : Unit → Switch ρ β} (hread : ReadOnly p)
    (h : Accepts p w) : Runs C Q (p >>= f) w ↔ Runs C Q (f ()) w := by
  refine Prog.wp_bind.trans ((runs_of_accepts hread h).trans ?_)
  exact ⟨fun hwp => hwp.2, fun hwp => ⟨Prog.wp_crash hwp, hwp⟩⟩

variable {ns : String} {e : Failure} {name : String}

theorem readOnly_getPVC : ReadOnly (Api.getPVC ns name : Switch ρ _) :=
  Prog.only_perform trivial

theorem readOnly_getPV : ReadOnly (Api.getPV name : Switch ρ _) :=
  Prog.only_perform trivial

theorem readOnly_listPods : ReadOnly (Api.listPods ns : Switch ρ _) :=
  Prog.only_perform trivial

theorem readOnly_listAttachments : ReadOnly (Api.listAttachments : Switch ρ _) :=
  Prog.only_perform trivial

@[simp] theorem accepts_pure : Accepts (pure () : Switch ρ Unit) w := rfl

@[simp] theorem not_accepts_fail : ¬ Accepts (.fail e : Switch ρ Unit) w := by
  simp [Accepts]

@[simp] theorem accepts_getPVC {f : Option PVC → Switch ρ Unit} :
    Accepts (Api.getPVC ns name >>= f) w ↔ Accepts (f (w.claims (ns, name))) w := Iff.rfl

@[simp] theorem accepts_getPV {f : Option PV → Switch ρ Unit} :
    Accepts (Api.getPV name >>= f) w ↔ Accepts (f (w.volumes name)) w := Iff.rfl

@[simp] theorem accepts_listPods {f : List Pod → Switch ρ Unit} :
    Accepts (Api.listPods ns >>= f) w ↔
      Accepts (f (w.pods.filter fun pod => pod.ns = ns)) w := Iff.rfl

@[simp] theorem accepts_listAttachments {f : List VolumeAttachment → Switch ρ Unit} :
    Accepts (Api.listAttachments >>= f) w ↔ Accepts (f w.attachments) w := Iff.rfl

variable {bad : Prop}

@[simp] theorem accepts_reject [Decidable bad] :
    Accepts (Prog.reject bad e : Switch ρ Unit) w ↔ ¬ bad := by
  by_cases hbad : bad <;> simp [Accepts, hbad]

variable {f : Unit → Switch ρ Unit}

@[simp] theorem accepts_reject_bind [Decidable bad] :
    Accepts (Prog.reject bad e >>= f) w ↔ ¬ bad ∧ Accepts (f ()) w := by
  by_cases hbad : bad <;> simp [Accepts, hbad]

/-- A check of the program's own data, as a program. -/
def ofCheck : Except Error Unit → Switch ρ Unit
  | .ok () => pure ()
  | .error e => .fail (.domain e)

@[simp] theorem accepts_ofCheck_bind {check : Except Error Unit} :
    Accepts (ofCheck check >>= f) w ↔ check = .ok () ∧ Accepts (f ()) w := by
  rcases check with e | ⟨⟩ <;> simp [Accepts, ofCheck]

theorem accepts_bind (hread : ReadOnly p) :
    Accepts (p >>= f) w ↔ Accepts p w ∧ Accepts (f ()) w := by
  have hworld : (Prog.run exec p w).2 = w := Prog.run_snd_of_only hread exec_of_isRead
  unfold Accepts
  rw [Prog.run_bind]
  rcases hrun : Prog.run exec p w with ⟨_ | _, t⟩
  · simp
  · rw [hrun] at hworld
    simp only at hworld
    simp [hworld]

/-- The program returns `a` in the world `w`. -/
def Yields (p : Switch ρ α) (w : World ρ) (a : α) : Prop := (Prog.run exec p w).1 = .ok a

variable {a : α}

@[simp] theorem yields_pure {b : α} : Yields (pure a : Switch ρ α) w b ↔ a = b := by
  simp [Yields]

@[simp] theorem yields_getPVC {f : Option PVC → Switch ρ α} :
    Yields (Api.getPVC ns name >>= f) w a ↔ Yields (f (w.claims (ns, name))) w a := Iff.rfl

@[simp] theorem yields_reject_bind [Decidable bad] {f : Unit → Switch ρ α} :
    Yields (Prog.reject bad e >>= f) w a ↔ ¬ bad ∧ Yields (f ()) w a := by
  by_cases hbad : bad <;> simp [Yields, hbad]

theorem yields_bind {β : Type} {q : Switch ρ α} {f : α → Switch ρ β} (hread : ReadOnly q)
    {b : β} : Yields (q >>= f) w b ↔ ∃ a, Yields q w a ∧ Yields (f a) w b := by
  have hworld : (Prog.run exec q w).2 = w := Prog.run_snd_of_only hread exec_of_isRead
  unfold Yields
  rw [Prog.run_bind]
  rcases hrun : Prog.run exec q w with ⟨_ | a, t⟩
  · simp
  · rw [hrun] at hworld
    simp only at hworld
    simp [hworld]

theorem accepts_bind_of_readOnly {q : Switch ρ α} {f : α → Switch ρ Unit} (hread : ReadOnly q) :
    Accepts (q >>= f) w ↔ ∃ a, Yields q w a ∧ Accepts (f a) w :=
  yields_bind hread

section Gather

variable {β : Type} {f : α → Switch ρ (Option β)} {x : α} {xs : List α} {ys : List β}

theorem yields_gather_cons (hread : ∀ y ∈ x :: xs, ReadOnly (f y)) :
    Yields (Prog.gather f (x :: xs)) w ys ↔
      ∃ o rest, Yields (f x) w o ∧ Yields (Prog.gather f xs) w rest ∧ ys = o.toList ++ rest := by
  rw [List.forall_mem_cons] at hread
  rw [Prog.gather, yields_bind hread.1]
  simp only [yields_bind (Prog.only_gather hread.2), yields_pure]
  constructor
  · rintro ⟨o, ho, rest, hrest, hys⟩
    exact ⟨o, rest, ho, hrest, hys.symm⟩
  · rintro ⟨o, rest, ho, hrest, hys⟩
    exact ⟨o, ho, rest, hrest, hys.symm⟩

section

variable (hread : ∀ x ∈ xs, ReadOnly (f x))
include hread

theorem yields_gather_of_forall {A : β → Prop}
    (h : ∀ x ∈ xs, ∃ o, Yields (f x) w o ∧ ∀ y ∈ o, A y) :
    ∃ ys, Yields (Prog.gather f xs) w ys ∧ ∀ y ∈ ys, A y := by
  induction xs with
  | nil => exact ⟨[], rfl, by simp⟩
  | cons x xs ih =>
    obtain ⟨o, ho, hA⟩ := h x List.mem_cons_self
    rw [List.forall_mem_cons] at h
    obtain ⟨rest, hrest, hArest⟩ := ih (fun y hy => hread y (List.mem_cons_of_mem x hy)) h.2
    refine ⟨_, (yields_gather_cons hread).mpr ⟨o, rest, ho, hrest, rfl⟩, ?_⟩
    intro y hy
    rcases List.mem_append.mp hy with hy | hy
    · exact hA y (by simpa using hy)
    · exact hArest y hy

theorem exists_of_yields_gather (h : Yields (Prog.gather f xs) w ys) (hx : x ∈ xs) :
    ∃ o, Yields (f x) w o ∧ ∀ y ∈ o, y ∈ ys := by
  induction xs generalizing ys with
  | nil => cases hx
  | cons head xs ih =>
    obtain ⟨o, rest, ho, hrest, rfl⟩ := (yields_gather_cons hread).mp h
    rcases List.mem_cons.mp hx with rfl | hx
    · exact ⟨o, ho, fun y hy => List.mem_append_left _ (by simpa using hy)⟩
    · obtain ⟨o', ho', hsub⟩ := ih (fun y hy => hread y (List.mem_cons_of_mem head hy)) hrest hx
      exact ⟨o', ho', fun y hy => List.mem_append_right _ (hsub y hy)⟩

theorem mem_of_yields_gather {y : β} (h : Yields (Prog.gather f xs) w ys) (hy : y ∈ ys) :
    ∃ x ∈ xs, Yields (f x) w (some y) := by
  induction xs generalizing ys with
  | nil =>
    obtain rfl : [] = ys := by simpa [Prog.gather, Yields] using h
    cases hy
  | cons head xs ih =>
    obtain ⟨o, rest, ho, hrest, rfl⟩ := (yields_gather_cons hread).mp h
    rcases List.mem_append.mp hy with hy | hy
    · obtain rfl : o = some y := by simpa using hy
      exact ⟨head, List.mem_cons_self, ho⟩
    · obtain ⟨x, hx, hfx⟩ := ih (fun y hy => hread y (List.mem_cons_of_mem head hy)) hrest hy
      exact ⟨x, List.mem_cons_of_mem head hx, hfx⟩

end

end Gather

theorem accepts_each {f : α → Switch ρ Unit} {xs : List α} (hread : ∀ x ∈ xs, ReadOnly (f x)) :
    Accepts (Prog.each f xs) w ↔ ∀ x ∈ xs, Accepts (f x) w := by
  induction xs with
  | nil => simp [Prog.each, Accepts]
  | cons x xs ih =>
    rw [List.forall_mem_cons] at hread
    rw [Prog.each, accepts_bind hread.1, ih hread.2, List.forall_mem_cons]

end Checks

/-- `retry.RetryOnConflict` with `retry.DefaultRetry`'s number of attempts: the attempt is
made again while it fails with an API conflict. -/
def retryOnConflict (attempt : Switch ρ Unit) : Nat → Switch ρ Unit
  | 0 => attempt
  | n + 1 => attempt.tryCatch fun e =>
    if e = .api .conflict then retryOnConflict attempt n else .fail e

/-- The number of attempts after the first in `retry.DefaultRetry`. -/
def defaultRetry : Nat := 4

end Kube

end PvcMigrate
