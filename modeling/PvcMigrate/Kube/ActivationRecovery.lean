import PvcMigrate.Kube.Activation

/-!
# Recovering an interrupted activation

An activation that stops anywhere leaves the volume in one of five stages: both claims are
there, the temporary claim is gone, both are gone, the activated claim is bound, the activation
is recorded.  From each stage, in any namespace, running `activatePVC` again with the persisted
checkpoint passes only through these stages and ends with the activated claim in place.
-/

namespace PvcMigrate.Kube

open Prog

variable {ρ : Type}

/-- What an activation is about.  The conditions are those `activatePVC` checks first, and that
the two claims and the two volumes of the transfer are different objects. -/
structure Cutover where
  sessionID : String
  activateNamespace : String
  volume : PVCTransferBindings
  desired : PVC
  /-- the storage the activated claim asks for -/
  capacity : Int
  session_ne : sessionID ≠ ""
  namespace_ne : activateNamespace ≠ ""
  complete : volume.Complete
  manifest : desired.IsManifest sessionID activateNamespace volume.sourcePVC.name
    volume.destinationPV.name
  request : desired.spec.request = some capacity
  positive : 0 < capacity
  volumes_ne : volume.sourcePV.name ≠ volume.destinationPV.name
  claims_ne : volume.destinationPVC.key ≠ volume.sourcePVC.key

/-- Where the records that have a place for it keep the checkpoint of the volume. -/
structure Slot (ρ : Type) where
  get : ρ → ActivationStatus
  set : ρ → ActivationStatus → ρ
  owns : ρ → Prop
  get_set : ∀ record status, owns record → get (set record status) = status
  set_set : ∀ record status status', set (set record status) status' = set record status'

def World.Settled (w : World ρ) : Prop :=
  ∀ key pvc, w.claims key = some pvc → pvc.phase = .bound

theorem World.Settled.setClaim_none {w : World ρ} {key : String × String} (h : w.Settled) :
    (w.setClaim key none).Settled := by
  intro other pvc hclaim
  by_cases hkey : other = key
  · subst hkey
    rw [w.claims_setClaim_self] at hclaim
    cases hclaim
  · rw [w.claims_setClaim_of_ne hkey] at hclaim
    exact h other pvc hclaim

/-- The volume `pv'` is `pv` as far as its identity, its binding and its size go, and the session
has not lost it. -/
structure PV.Carries (pv pv' : PV) (sessionID : String) : Prop where
  name : pv'.name = pv.name
  uid : pv'.uid = pv.uid
  deletionTimestamp : pv'.deletionTimestamp = pv.deletionTimestamp
  claimRef : pv'.claimRef = pv.claimRef
  capacity : pv'.capacity = pv.capacity
  ours : pv.Ours sessionID → pv'.Ours sessionID
  pinned : pv.Pinned sessionID → pv'.Pinned sessionID

theorem PV.Carries.refl (pv : PV) (sessionID : String) : pv.Carries pv sessionID :=
  ⟨rfl, rfl, rfl, rfl, rfl, id, id⟩

theorem PV.PinnedFrom.carries {pv pv' : PV} {sessionID role : String}
    (h : pv.PinnedFrom pv' sessionID role) : pv.Carries pv' sessionID :=
  ⟨h.name, h.uid, h.deletionTimestamp, h.claimRef, h.capacity, fun _ => h.pinned.ours,
    fun _ => h.pinned⟩

theorem validateBoundVolumeCapacity_congr {pvc : PVC} {pv pv' : PV}
    (hcapacity : pv'.capacity = pv.capacity) (hname : pv'.name = pv.name) :
    validateBoundVolumeCapacity pvc pv' = validateBoundVolumeCapacity pvc pv := by
  simp [validateBoundVolumeCapacity, hcapacity, hname]

namespace Cutover

variable (P : Cutover)

def target : String × String := (P.activateNamespace, P.volume.sourcePVC.name)

/-- The activated claim does not take the place of the temporary claim. -/
def Disjoint : Prop := P.target ≠ P.volume.destinationPVC.key

/-- Run the activation from the persisted checkpoint. -/
def resume (slot : Slot ρ) : Switch ρ Unit := do
  let record ← Api.load
  activatePVC P.sessionID P.activateNamespace P.volume P.desired (slot.get record)
    fun status => Api.save (slot.set record status)

/-! ## Stages -/

/-- No Pod uses a claim of the transfer and no node holds a volume of it. -/
structure Quiet (w : World ρ) : Prop where
  source : w.NoConsumers P.volume.sourcePVC.ns P.volume.sourcePVC.name
  temporary : w.NoConsumers P.volume.destinationPVC.ns P.volume.destinationPVC.name
  target : w.NoConsumers P.activateNamespace P.volume.sourcePVC.name
  sourceDetached : w.Detached P.volume.sourcePV.name
  destinationDetached : w.Detached P.volume.destinationPV.name

/-- The two volumes are there, may be the session's, and the destination is large enough. -/
structure Volumes (w : World ρ) (source destination : PV) : Prop where
  sourceHeld : Holds w P.volume.sourcePV P.sessionID source
  destinationHeld : Holds w P.volume.destinationPV P.sessionID destination
  sourceAlive : source.deletionTimestamp = none
  destinationAlive : destination.deletionTimestamp = none
  fits : validateBoundVolumeCapacity P.desired destination = none
  quiet : P.Quiet w

/-- The recorded claim is there and bound to its volume; it may be terminating. -/
structure Claimed (w : World ρ) (sessionID : String) (ref pvRef : ObjectReference) (pvc : PVC)
    (pv : PV) : Prop where
  claim : w.claims ref.key = some pvc
  identity : pvc.ref = ref
  finalizers : blockingPVCFinalizers pvc = []
  annotated : ¬ foreignOwner sessionID (pvc.annotations.get sessionKey)
  labelled : ¬ foreignOwner sessionID (pvc.labels.get sessionKey)
  phase : pvc.phase = .bound
  volumeName : pvc.spec.volumeName = pvRef.name
  claimRef : pv.claimRef = some ref
  fits : validateBoundVolumeCapacity pvc pv = none

/-- The activated claim: the session's, bound, of the size asked for. -/
structure Activated (w : World ρ) (pvc : PVC) (pv : PV) : Prop where
  claim : w.claims P.target = some pvc
  ns : pvc.ns = P.activateNamespace
  name : pvc.name = P.volume.sourcePVC.name
  uid : pvc.uid ≠ none
  owned : pvc.OwnedBy P.sessionID
  finalizers : blockingPVCFinalizers pvc = []
  alive : pvc.deletionTimestamp = none
  phase : pvc.phase = .bound
  volumeName : pvc.spec.volumeName = P.volume.destinationPV.name
  request : pvc.spec.request = some P.capacity
  claimRef : pv.claimRef = some pvc.ref
  fits : validateBoundVolumeCapacity pvc pv = none

/-- The volume is reserved for the activated claim. -/
def Reserved (pv : PV) : Prop :=
  pv.claimRef = some ⟨P.activateNamespace, P.volume.sourcePVC.name, none⟩

/-- The checkpoint once the activated claim is bound, and recorded at some time or not yet. -/
def boundStatus (active : PVC) (recorded : Option Time) : ActivationStatus where
  temporaryPVCDeleted := true
  sourcePVCDeleted := true
  destinationReserved := true
  activePVC := recorded.map fun _ => active.ref
  activatedAt := recorded

/-- How far the activation has come, with the checkpoint persisted so far. -/
inductive Stage (w : World ρ) (source destination : PV) : ActivationStatus → Prop
  /-- both claims are there -/
  | staged {temporary original : PVC}
      (temporary_claimed : Claimed w P.sessionID P.volume.destinationPVC P.volume.destinationPV
        temporary destination)
      (source_claimed : Claimed w P.sessionID P.volume.sourcePVC P.volume.sourcePV original
        source)
      (free : P.target = P.volume.sourcePVC.key ∨ w.claims P.target = none) :
      Stage w source destination {}
  | temporaryGone {original : PVC} (saved : Bool)
      (gone : w.claims P.volume.destinationPVC.key = none)
      (source_claimed : Claimed w P.sessionID P.volume.sourcePVC P.volume.sourcePV original
        source)
      (free : P.target = P.volume.sourcePVC.key ∨ w.claims P.target = none)
      (source_pinned : source.Pinned P.sessionID)
      (destination_pinned : destination.Pinned P.sessionID)
      (claimRef : destination.claimRef = some P.volume.destinationPVC) :
      Stage w source destination { temporaryPVCDeleted := saved }
  | claimsGone (saved reserved : Bool)
      (temporary_gone : w.claims P.volume.destinationPVC.key = none)
      (source_gone : w.claims P.volume.sourcePVC.key = none)
      (free : w.claims P.target = none)
      (source_pinned : source.Pinned P.sessionID)
      (destination_pinned : destination.Pinned P.sessionID)
      (source_ref : source.claimRef = some P.volume.sourcePVC)
      (destination_ref : destination.claimRef = some P.volume.destinationPVC ∨
        P.Reserved destination)
      (reserved_ref : reserved = true → saved = true ∧ P.Reserved destination) :
      Stage w source destination
        { temporaryPVCDeleted := true, sourcePVCDeleted := saved, destinationReserved := reserved }
  /-- the activated claim is bound, and possibly recorded -/
  | bound {active : PVC} (recorded : Option Time)
      (temporary_gone : w.claims P.volume.destinationPVC.key = none)
      (source_gone : P.target = P.volume.sourcePVC.key ∨
        w.claims P.volume.sourcePVC.key = none)
      (activated : P.Activated w active destination)
      (source_pinned : source.Pinned P.sessionID)
      (destination_pinned : destination.Pinned P.sessionID)
      (source_ref : source.claimRef = some P.volume.sourcePVC) :
      Stage w source destination (boundStatus active recorded)

/-- The claims and the volumes of other transfers, the Pods and the attachments are those of
`base`. -/
structure Elsewhere (base w : World ρ) : Prop where
  claims : ∀ key, key ≠ P.volume.destinationPVC.key → key ≠ P.volume.sourcePVC.key →
    key ≠ P.target → w.claims key = base.claims key
  volumes : ∀ name, name ≠ P.volume.sourcePV.name → name ≠ P.volume.destinationPV.name →
    w.volumes name = base.volumes name
  pods : w.pods = base.pods
  attachments : w.attachments = base.attachments

/-- A world an activation that started in `base` has left behind. -/
structure Mid (slot : Slot ρ) (base w : World ρ) : Prop where
  stage : ∃ source destination status, P.Volumes w source destination ∧
    P.Stage w source destination status ∧ w.record = slot.set base.record status
  elsewhere : P.Elsewhere base w

/-- The activated claim is in place: it is the only claim left, both volumes are retained, and
they know their roles. -/
def Final (w : World ρ) : Prop :=
  ∃ source destination active, P.Volumes w source destination ∧
    P.Activated w active destination ∧
    w.claims P.volume.destinationPVC.key = none ∧
    (P.target = P.volume.sourcePVC.key ∨ w.claims P.volume.sourcePVC.key = none) ∧
    source.reclaimPolicy = .retain ∧ destination.reclaimPolicy = .retain ∧
    source.labels.get resourceRoleLabel = "rollback" ∧
    destination.labels.get resourceRoleLabel = "active"

/-! ## Steps between stages -/

section Steps

variable {P} {w w' : World ρ} {source destination source' destination' : PV}
  {status : ActivationStatus}

theorem Quiet.congr (h : P.Quiet w) (hpods : w'.pods = w.pods)
    (hattachments : w'.attachments = w.attachments) : P.Quiet w' := by
  obtain ⟨h1, h2, h3, h4, h5⟩ := h
  constructor <;> simpa only [World.NoConsumers, World.Detached, hpods, hattachments]

theorem Claimed.congr {ref pvRef : ObjectReference} {pvc : PVC} {pv pv' : PV}
    (h : Claimed w P.sessionID ref pvRef pvc pv) (hclaim : w'.claims ref.key = w.claims ref.key)
    (hpv : pv.Carries pv' P.sessionID) : Claimed w' P.sessionID ref pvRef pvc pv' :=
  { h with
    claim := hclaim.trans h.claim
    claimRef := hpv.claimRef.trans h.claimRef
    fits := (validateBoundVolumeCapacity_congr hpv.capacity hpv.name).trans h.fits }

theorem Activated.congr {pvc : PVC} {pv pv' : PV} (h : P.Activated w pvc pv)
    (hclaim : w'.claims P.target = w.claims P.target) (hpv : pv.Carries pv' P.sessionID) :
    P.Activated w' pvc pv' :=
  { h with
    claim := hclaim.trans h.claim
    claimRef := hpv.claimRef.trans h.claimRef
    fits := (validateBoundVolumeCapacity_congr hpv.capacity hpv.name).trans h.fits }

/-- A stage is about the claims and the bindings of the volumes only. -/
theorem Stage.congr (h : P.Stage w source destination status) (hclaims : w'.claims = w.claims)
    (hsource : source.Carries source' P.sessionID)
    (hdestination : destination.Carries destination' P.sessionID) :
    P.Stage w' source' destination' status := by
  cases h with
  | staged temporary original free =>
    exact .staged (temporary.congr (by rw [hclaims]) hdestination)
      (original.congr (by rw [hclaims]) hsource) (by rwa [hclaims])
  | temporaryGone saved gone original free spin dpin href =>
    exact .temporaryGone saved (by rwa [hclaims]) (original.congr (by rw [hclaims]) hsource)
      (by rwa [hclaims]) (hsource.pinned spin) (hdestination.pinned dpin)
      (hdestination.claimRef.trans href)
  | claimsGone saved reserved tgone sgone free spin dpin sref dref hreserved =>
    have hres : P.Reserved destination → P.Reserved destination' := hdestination.claimRef.trans
    exact .claimsGone saved reserved (by rwa [hclaims]) (by rwa [hclaims]) (by rwa [hclaims])
      (hsource.pinned spin) (hdestination.pinned dpin) (hsource.claimRef.trans sref)
      (dref.imp hdestination.claimRef.trans hres)
      fun hr => ⟨(hreserved hr).1, hres (hreserved hr).2⟩
  | bound recorded tgone sgone activated spin dpin sref =>
    exact .bound recorded (by rwa [hclaims]) (by rwa [hclaims])
      (activated.congr (by rw [hclaims]) hdestination) (hsource.pinned spin)
      (hdestination.pinned dpin) (hsource.claimRef.trans sref)

section

variable (h : P.Volumes w source destination)
include h

theorem Volumes.setSource (hpv : source.Carries source' P.sessionID) :
    P.Volumes (w.setVolume P.volume.sourcePV.name (some source')) source' destination where
  sourceHeld := ⟨w.volumes_setVolume_self, hpv.name.trans h.sourceHeld.name,
    hpv.uid.trans h.sourceHeld.uid, hpv.ours h.sourceHeld.ours⟩
  destinationHeld := ⟨by simpa [P.volumes_ne.symm] using h.destinationHeld.volume,
    h.destinationHeld.name, h.destinationHeld.uid, h.destinationHeld.ours⟩
  sourceAlive := hpv.deletionTimestamp.trans h.sourceAlive
  destinationAlive := h.destinationAlive
  fits := h.fits
  quiet := h.quiet.congr rfl rfl

theorem Volumes.setDestination
    (hname : destination'.name = destination.name) (huid : destination'.uid = destination.uid)
    (halive : destination'.deletionTimestamp = destination.deletionTimestamp)
    (hcapacity : destination'.capacity = destination.capacity)
    (hours : destination'.Ours P.sessionID) :
    P.Volumes (w.setVolume P.volume.destinationPV.name (some destination')) source
      destination' where
  sourceHeld := ⟨by simpa [P.volumes_ne] using h.sourceHeld.volume,
    h.sourceHeld.name, h.sourceHeld.uid, h.sourceHeld.ours⟩
  destinationHeld := ⟨w.volumes_setVolume_self, hname.trans h.destinationHeld.name,
    huid.trans h.destinationHeld.uid, hours⟩
  sourceAlive := h.sourceAlive
  destinationAlive := halive.trans h.destinationAlive
  fits := (validateBoundVolumeCapacity_congr hcapacity hname).trans h.fits
  quiet := h.quiet.congr rfl rfl

theorem Volumes.carryDestination (hpv : destination.Carries destination' P.sessionID) :
    P.Volumes (w.setVolume P.volume.destinationPV.name (some destination')) source
      destination' :=
  h.setDestination hpv.name hpv.uid hpv.deletionTimestamp hpv.capacity
    (hpv.ours h.destinationHeld.ours)

theorem Volumes.congr (hvolumes : w'.volumes = w.volumes)
    (hpods : w'.pods = w.pods) (hattachments : w'.attachments = w.attachments) :
    P.Volumes w' source destination :=
  { h with
    sourceHeld := { h.sourceHeld with volume := by rw [hvolumes]; exact h.sourceHeld.volume }
    destinationHeld :=
      { h.destinationHeld with volume := by rw [hvolumes]; exact h.destinationHeld.volume }
    quiet := h.quiet.congr hpods hattachments }

end

theorem Elsewhere.setClaim {base : World ρ} {key : String × String} {c : Option PVC}
    (h : P.Elsewhere base w)
    (hkey : key = P.volume.destinationPVC.key ∨ key = P.volume.sourcePVC.key ∨ key = P.target) :
    P.Elsewhere base (w.setClaim key c) :=
  { h with
    claims := fun other hd hs ht => by
      have hne : other ≠ key := by
        rintro rfl
        tauto
      simpa [hne] using h.claims other hd hs ht }

theorem Elsewhere.setVolume {base : World ρ} {name : String} {v : Option PV}
    (h : P.Elsewhere base w)
    (hname : name = P.volume.sourcePV.name ∨ name = P.volume.destinationPV.name) :
    P.Elsewhere base (w.setVolume name v) :=
  { h with
    volumes := fun other hs hd => by
      have hne : other ≠ name := by
        rintro rfl
        tauto
      simpa [hne] using h.volumes other hs hd }

theorem Elsewhere.setRecord {base : World ρ} {record : ρ} (h : P.Elsewhere base w) :
    P.Elsewhere base (w.setRecord record) :=
  { h with }

/-- What is the same at every stage of a run: the volumes, the persisted checkpoint, and what the
run leaves alone. -/
structure At (P : Cutover) (slot : Slot ρ) (base w : World ρ) (source destination : PV)
    (status : ActivationStatus) : Prop where
  volumes : P.Volumes w source destination
  record : w.record = slot.set base.record status
  elsewhere : P.Elsewhere base w

section At

variable {slot : Slot ρ} {base : World ρ}

section

variable (h : P.At slot base w source destination status)
include h

/-- A stage is one of the worlds left behind, and so is a world that only shares its claims. -/
theorem At.mid (hstage : P.Stage w' source destination status) (hclaims : w.claims = w'.claims) :
    P.Mid slot base w :=
  ⟨⟨source, destination, status, h.volumes, hstage.congr hclaims (.refl _ _) (.refl _ _),
    h.record⟩, h.elsewhere⟩

theorem At.setRecord (next : ActivationStatus) :
    P.At slot base (w.setRecord (slot.set base.record next)) source destination next :=
  ⟨h.volumes.congr rfl rfl rfl, rfl, h.elsewhere.setRecord⟩

theorem At.setClaim (key : String × String) (c : Option PVC)
    (hkey : key = P.volume.destinationPVC.key ∨ key = P.volume.sourcePVC.key ∨ key = P.target) :
    P.At slot base (w.setClaim key c) source destination status :=
  ⟨h.volumes.congr rfl rfl rfl, h.record, h.elsewhere.setClaim hkey⟩

theorem At.setSource (hpv : source.Carries source' P.sessionID) :
    P.At slot base (w.setVolume P.volume.sourcePV.name (some source')) source' destination
      status :=
  ⟨h.volumes.setSource hpv, h.record, h.elsewhere.setVolume (.inl rfl)⟩

theorem At.setDestination
    (hvolumes : P.Volumes (w.setVolume P.volume.destinationPV.name (some destination')) source
      destination') :
    P.At slot base (w.setVolume P.volume.destinationPV.name (some destination')) source
      destination' status :=
  ⟨hvolumes, h.record, h.elsewhere.setVolume (.inr rfl)⟩

end

end At

/-- Both claims are there. -/
structure Untouched (P : Cutover) (w : World ρ) (temporary original : PVC)
    (source destination : PV) : Prop where
  temporary : Claimed w P.sessionID P.volume.destinationPVC P.volume.destinationPV temporary
    destination
  original : Claimed w P.sessionID P.volume.sourcePVC P.volume.sourcePV original source
  free : P.target = P.volume.sourcePVC.key ∨ w.claims P.target = none

/-- The temporary claim is gone and the original is there. -/
structure Halfway (P : Cutover) (w : World ρ) (original : PVC) (source destination : PV) :
    Prop where
  temporary : w.claims P.volume.destinationPVC.key = none
  original : Claimed w P.sessionID P.volume.sourcePVC P.volume.sourcePV original source
  free : P.target = P.volume.sourcePVC.key ∨ w.claims P.target = none
  source_pinned : source.Pinned P.sessionID
  destination_pinned : destination.Pinned P.sessionID
  claimRef : destination.claimRef = some P.volume.destinationPVC

/-- Both claims are gone, and the activated claim is not there yet. -/
structure Emptied (P : Cutover) (w : World ρ) (source destination : PV) : Prop where
  temporary : w.claims P.volume.destinationPVC.key = none
  original : w.claims P.volume.sourcePVC.key = none
  free : w.claims P.target = none
  source_pinned : source.Pinned P.sessionID
  destination_pinned : destination.Pinned P.sessionID
  source_ref : source.claimRef = some P.volume.sourcePVC
  destination_ref : destination.claimRef = some P.volume.destinationPVC ∨ P.Reserved destination

/-- The activated claim is bound. -/
structure Bound (P : Cutover) (w : World ρ) (active : PVC) (source destination : PV) : Prop where
  temporary : w.claims P.volume.destinationPVC.key = none
  original : P.target = P.volume.sourcePVC.key ∨ w.claims P.volume.sourcePVC.key = none
  activated : P.Activated w active destination
  source_pinned : source.Pinned P.sessionID
  destination_pinned : destination.Pinned P.sessionID
  source_ref : source.claimRef = some P.volume.sourcePVC

theorem Halfway.stage {original : PVC} {saved : Bool} (h : P.Halfway w original source destination)
    (hstatus : status = { temporaryPVCDeleted := saved }) : P.Stage w source destination status :=
  hstatus ▸ .temporaryGone saved h.temporary h.original h.free h.source_pinned
    h.destination_pinned h.claimRef

theorem Emptied.stage {saved reserved : Bool} (h : P.Emptied w source destination)
    (hstatus : status = ⟨true, saved, reserved, none, none, none⟩)
    (hreserved : reserved = true → saved = true ∧ P.Reserved destination) :
    P.Stage w source destination status :=
  hstatus ▸ .claimsGone saved reserved h.temporary h.original h.free h.source_pinned
    h.destination_pinned h.source_ref h.destination_ref hreserved

theorem Bound.stage {active : PVC} {recorded : Option Time}
    (h : P.Bound w active source destination) (hstatus : status = boundStatus active recorded) :
    P.Stage w source destination status :=
  hstatus ▸ .bound recorded h.temporary h.original h.activated h.source_pinned
    h.destination_pinned h.source_ref

end Steps

/-! ## One run -/

section Run

variable {P} {slot : Slot ρ} {base w : World ρ} {source destination : PV}
  {status : ActivationStatus}

/-- The crash condition: once every claim is bound, the world is one of those left behind. -/
abbrev Crash (P : Cutover) (slot : Slot ρ) (base : World ρ) : World ρ → Prop :=
  fun u => u.Settled → P.Mid slot base u

/-- The outcome: the run succeeds and the activated claim is in place. -/
abbrev Done (P : Cutover) (slot : Slot ρ) (base : World ρ) :
    Except Failure Unit → World ρ → Prop :=
  fun result u => result = .ok () ∧ P.Final u ∧ P.Mid slot base u

/-- The checkpoint is saved into the record the run started with. -/
abbrev saveSlot (slot : Slot ρ) (base : World ρ) : ActivationStatus → Switch ρ Unit :=
  fun status => Api.save (slot.set base.record status)

variable {pvc original temporary : PVC} {C : World ρ → Prop}
  {Q : Except Failure Unit → World ρ → Prop} {ref pvRef : ObjectReference}

theorem accepts_validateActivePVCRequest (h : pvc.spec.request = some P.capacity) :
    Accepts (validateActivePVCRequest pvc (P.desired.spec.request.getD 0)) w := by
  have hpositive := P.positive
  simp only [validateActivePVCRequest, P.request, Option.getD_some, accepts_reject_bind,
    accepts_reject, h, ne_eq, not_true_eq_false, not_false_eq_true, and_true]
  omega

theorem readOnly_validateActivePVCRequest {capacity : Int} :
    ReadOnly (validateActivePVCRequest pvc capacity : Switch ρ Unit) :=
  only_reject_bind only_reject

theorem runs_completeActivation {active : PVC} {recorded : Option Time}
    (hat : P.At slot base w source destination status)
    (hbound : P.Bound w active source destination)
    (hstatus : status = boundStatus active recorded) :
    Runs (P.Crash slot base) (P.Done slot base)
      (completeActivation P.sessionID P.volume P.desired status active
        (saveSlot slot base)) w := by
  have hstage : P.Stage w source destination status := hbound.stage hstatus
  have hvolumes := hat.volumes
  have hactive := hbound.activated
  have hbinding : Accepts (verifyBinding active P.volume.destinationPV) w := by
    refine accepts_verifyBinding.mpr ⟨⟨?_, ?_, hactive.uid⟩, P.complete.2.2.2, destination,
      hactive.phase, hactive.volumeName, hvolumes.destinationHeld.volume,
      hvolumes.destinationHeld.uid, hactive.claimRef, hactive.fits⟩
    · exact fun h => P.namespace_ne (hactive.ns.symm.trans h)
    · exact fun h => P.complete.1.2.1 (hactive.name.symm.trans h)
  rw [completeActivation, runs_bind_of_accepts readOnly_validateActivePVCRequest
    (accepts_validateActivePVCRequest hactive.request),
    runs_bind_of_accepts readOnly_verifyBinding hbinding,
    runs_bind_of_spec (runs_markPVPair_activated P.session_ne P.complete.2.1
      P.complete.2.2.2 P.volumes_ne hvolumes.sourceHeld hvolumes.destinationHeld), runs_now]
  -- the worlds of the marking
  have hpaired : destination.PinnedFrom
      (destination.paired P.sessionID "active" P.volume.sourcePV.name) P.sessionID "active" :=
    pinnedFrom_paired destination
  have hrolled : source.PinnedFrom
      (source.paired P.sessionID "rollback" P.volume.destinationPV.name) P.sessionID "rollback" :=
    pinnedFrom_paired source
  have hat1 := hat.setDestination (hvolumes.carryDestination hpaired.carries)
  have hat2 := hat1.setSource hrolled.carries
  have hmid2 := hat2.mid (hstage.congr rfl hrolled.carries hpaired.carries) rfl
  -- the world in which the activation is recorded
  have hat3 := hat2.setRecord (status.activated active w.time)
  have hbound3 : P.Bound _ active (source.paired P.sessionID "rollback"
      P.volume.destinationPV.name) (destination.paired P.sessionID "active"
      P.volume.sourcePV.name) :=
    ⟨hbound.temporary, hbound.original, hactive.congr rfl hpaired.carries, hrolled.pinned,
      hpaired.pinned, hrolled.claimRef.trans hbound.source_ref⟩
  have hstatus3 : status.activated active w.time = boundStatus active (some w.time) := by
    rw [hstatus]
    rfl
  have hmid3 := hat3.mid (hbound3.stage hstatus3) rfl
  refine ⟨⟨fun _ => hat.mid hstage rfl, fun _ => hat1.mid
    (hstage.congr rfl (.refl source _) hpaired.carries) rfl, fun _ => hmid2⟩, ?_⟩
  refine (runs_save_spec _).mpr ⟨⟨fun _ => hmid2, fun _ => hmid3⟩, rfl, ?_, hmid3⟩
  exact ⟨_, _, active, hat3.volumes, hactive.congr rfl hpaired.carries, hbound.temporary,
    hbound.original, hrolled.pinned.1, hpaired.pinned.1, hrolled.labelled, hpaired.labelled⟩

theorem target_eq (P : Cutover) : (P.desired.ns, P.desired.name) = P.target := by
  rw [P.manifest.1, P.manifest.2.1]
  rfl

theorem key_ns_name (ref : ObjectReference) : (ref.ns, ref.name) = ref.key := rfl

theorem not_settled_addClaim (pvc : PVC) : ¬ (w.addClaim pvc).Settled := by
  intro h
  have hphase := h _ _ (w.claims_addClaim_self pvc)
  simp at hphase

/-- The activated claim that `createBoundPVC` leaves, and its volume. -/
theorem activated_addBound (hvolumes : P.Volumes w source destination) :
    P.Activated (w.addBound P.desired destination) (P.desired.created w.nextUID).bind
      (destination.bind (P.desired.created w.nextUID)) := by
  have howned : P.desired.OwnedBy P.sessionID := P.manifest.2.2.2
  constructor
  case claim => simp [World.addBound, ← P.target_eq]
  case ns => simpa using P.manifest.1
  case name => simpa using P.manifest.2.1
  case uid => simp
  case owned => exact howned
  case finalizers => rfl
  case alive => rfl
  case phase => rfl
  case volumeName => simpa using P.manifest.2.2.1
  case request => simpa using P.request
  case claimRef => rfl
  case fits => exact hvolumes.fits

/-- From the reservation on: create the claim and complete the activation. -/
theorem runs_create (hat : P.At slot base w source destination status)
    (hempty : P.Emptied w source destination) (hdisjoint : P.Disjoint)
    (hreserved : P.Reserved destination) (hstatus : status = ⟨true, true, true, none, none, none⟩) :
    Runs (P.Crash slot base) (P.Done slot base)
      (createBoundPVC P.sessionID P.desired >>= fun created =>
        completeActivation P.sessionID P.volume P.desired status created (saveSlot slot base))
      w := by
  have hvolumes := hat.volumes
  have hvolumeName : P.desired.spec.volumeName = P.volume.destinationPV.name := P.manifest.2.2.1
  have hclaim : w.claims (P.desired.ns, P.desired.name) = none := P.target_eq ▸ hempty.free
  have hpv : w.volumes P.desired.spec.volumeName = some destination := by
    rw [hvolumeName]
    exact hvolumes.destinationHeld.volume
  have href : destination.claimRef = some ⟨P.desired.ns, P.desired.name, none⟩ := by
    rw [P.manifest.1, P.manifest.2.1]
    exact hreserved
  rw [runs_bind_of_spec (runs_createBoundPVC hclaim P.manifest.2.2.2 hpv href)]
  -- the world with the bound claim
  have hbase : w.addBound P.desired destination =
      ((w.addClaim P.desired).setClaim P.target
        (some (P.desired.created w.nextUID).bind)).setVolume P.volume.destinationPV.name
          (some (destination.bind (P.desired.created w.nextUID))) := by
    rw [World.addBound, P.target_eq, hvolumeName]
  have hat' : P.At slot base (w.addBound P.desired destination) source
      (destination.bind (P.desired.created w.nextUID)) status := by
    have hadd : P.At slot base (w.addClaim P.desired) source destination status :=
      have hset := hat.setClaim _ (some (P.desired.created w.nextUID)) (.inr (.inr P.target_eq))
      ⟨hvolumes.congr rfl rfl rfl, hat.record, { hset.elsewhere with }⟩
    rw [hbase]
    have hclaimed := hadd.setClaim _ (some (P.desired.created w.nextUID).bind) (.inr (.inr rfl))
    exact hclaimed.setDestination (hclaimed.volumes.setDestination rfl rfl rfl rfl
      hvolumes.destinationHeld.ours)
  have hother : ∀ key, key ≠ P.target →
      (w.addBound P.desired destination).claims key = w.claims key := by
    intro key hkey
    have hkey' : key ≠ (P.desired.ns, P.desired.name) := by rwa [P.target_eq]
    simp [hbase, hkey, hkey']
  have hsource' : P.target = P.volume.sourcePVC.key ∨
      (w.addBound P.desired destination).claims P.volume.sourcePVC.key = none := by
    by_cases hsame : P.target = P.volume.sourcePVC.key
    · exact .inl hsame
    · exact .inr ((hother _ (Ne.symm hsame)).trans hempty.original)
  have hbound : P.Bound (w.addBound P.desired destination) (P.desired.created w.nextUID).bind
      source (destination.bind (P.desired.created w.nextUID)) :=
    ⟨(hother _ hdisjoint.symm).trans hempty.temporary, hsource', P.activated_addBound hvolumes,
      hempty.source_pinned, hempty.destination_pinned, hempty.source_ref⟩
  have hstatus' : status = boundStatus (P.desired.created w.nextUID).bind none := hstatus
  refine ⟨⟨fun _ => ?_, fun h => absurd h (not_settled_addClaim _), fun _ => ?_⟩, ?_⟩
  · exact hat.mid (hempty.stage hstatus fun _ => ⟨rfl, hreserved⟩) rfl
  · exact hat'.mid (hbound.stage hstatus') rfl
  · exact runs_completeActivation hat' hbound hstatus'

/-- The world of a reservation of the destination volume, before or after it is written. -/
theorem runs_reserveDestination (hvolumes : P.Volumes w source destination)
    (hempty : P.Emptied w source destination)
    (hC : ∀ destination' : PV, destination'.Pinned P.sessionID →
      (destination'.claimRef = destination.claimRef ∨ P.Reserved destination') →
      P.Volumes (w.setVolume P.volume.destinationPV.name (some destination')) source
        destination' →
      C (w.setVolume P.volume.destinationPV.name (some destination')))
    (hQ : ∀ destination' : PV, destination'.Pinned P.sessionID → P.Reserved destination' →
      P.Volumes (w.setVolume P.volume.destinationPV.name (some destination')) source
        destination' →
      Q (.ok ()) (w.setVolume P.volume.destinationPV.name (some destination'))) :
    Runs C Q (reservePV P.volume.destinationPV P.desired.ns P.desired.name P.sessionID) w := by
  have hns : P.desired.ns ≠ "" := by
    rw [P.manifest.1]
    exact P.namespace_ne
  have hname : P.desired.name ≠ "" := by
    rw [P.manifest.2.1]
    exact P.complete.1.2.1
  have hclaim : w.claims (P.desired.ns, P.desired.name) = none := P.target_eq ▸ hempty.free
  have hdpin := hempty.destination_pinned
  have hreservation : (⟨P.desired.ns, P.desired.name, none⟩ : ObjectReference) =
      ⟨P.activateNamespace, P.volume.sourcePVC.name, none⟩ := by
    rw [P.manifest.1, P.manifest.2.1]
  have href : destination.claimRef = some ⟨P.desired.ns, P.desired.name, none⟩ ∨
      ∃ r : ObjectReference, destination.claimRef = some r ∧ r.uid ≠ none ∧
        (w.claims r.key).any (fun pvc => pvc.uid = r.uid) = false := by
    rcases hempty.destination_ref with hdref | hreserved
    · exact .inr ⟨_, hdref, P.complete.2.2.1.2.2, by rw [hempty.temporary]; rfl⟩
    · exact .inl (hreservation ▸ hreserved)
  have hvolumes' {destination' : PV}
      (h : destination.Reserving destination' P.desired.ns P.desired.name) :
      P.Volumes (w.setVolume P.volume.destinationPV.name (some destination')) source
        destination' :=
    hvolumes.setDestination h.name h.uid h.deletionTimestamp h.capacity (h.pinned hdpin).ours
  refine runs_reservePV hvolumes.destinationHeld hclaim P.complete.2.2.2 hns hname P.session_ne
    hdpin.1 href (fun destination' h => ?_) (fun destination' h hreserved => ?_)
  · exact hC destination' (h.pinned hdpin)
      (h.claimRef.imp_right fun href => href.trans (congrArg some hreservation)) (hvolumes' h)
  · exact hQ destination' (h.pinned hdpin) (hreserved.trans (congrArg some hreservation))
      (hvolumes' h)

abbrev fromReservation (P : Cutover) (slot : Slot ρ) (base : World ρ)
    (status : ActivationStatus) : Switch ρ Unit := do
  let status ← reserveActivationDestination P.sessionID P.volume P.desired status
    (saveSlot slot base)
  let created ← createBoundPVC P.sessionID P.desired
  completeActivation P.sessionID P.volume P.desired status created (saveSlot slot base)

/-- The run from the deletion of the source claim on. -/
abbrev fromSource (P : Cutover) (slot : Slot ρ) (base : World ρ) (status : ActivationStatus) :
    Switch ρ Unit := do
  let status ← deleteSourceActivationPVC P.volume status (saveSlot slot base)
  P.fromReservation slot base status

/-- The run from the deletion of the temporary claim on. -/
abbrev fromTemporary (P : Cutover) (slot : Slot ρ) (base : World ρ) (status : ActivationStatus) :
    Switch ρ Unit := do
  let status ← deleteTemporaryActivationPVC P.volume status (saveSlot slot base)
  P.fromSource slot base status

theorem runs_reserve {reserved : Bool} (hat : P.At slot base w source destination status)
    (hempty : P.Emptied w source destination) (hdisjoint : P.Disjoint)
    (hreserved : reserved = true → P.Reserved destination)
    (hstatus : status = ⟨true, true, reserved, none, none, none⟩) :
    Runs (P.Crash slot base) (P.Done slot base) (P.fromReservation slot base status) w := by
  have hclaim : w.claims (P.desired.ns, P.desired.name) = none := P.target_eq ▸ hempty.free
  cases reserved with
  | true =>
    have hflag : status.destinationReserved = true := by rw [hstatus]
    rw [fromReservation, reserveActivationDestination, if_pos hflag]
    exact runs_create hat hempty hdisjoint (hreserved rfl) hstatus
  | false =>
    have hflag : ¬ status.destinationReserved = true := by simp [hstatus]
    rw [fromReservation, reserveActivationDestination, if_neg hflag]
    refine wp_bind.mpr ((runs_bind_of_spec (runs_validateBoundPVC hclaim)).mpr ⟨?_, ?_⟩)
    · exact fun _ => hat.mid (hempty.stage hstatus nofun) rfl
    refine wp_bind.mpr (runs_reserveDestination hat.volumes hempty ?_ ?_)
    · intro destination' hpin href hvolumes' _
      have href' : destination'.claimRef = some P.volume.destinationPVC ∨
          P.Reserved destination' := by
        rcases href with href | href
        · exact hempty.destination_ref.imp href.trans href.trans
        · exact .inr href
      have hempty' : P.Emptied _ source destination' :=
        { hempty with destination_pinned := hpin, destination_ref := href' }
      exact (hat.setDestination hvolumes').mid (hempty'.stage hstatus nofun) rfl
    · intro destination' hpin href hvolumes'
      have hstatus' : { status with destinationReserved := true } =
          (⟨true, true, true, none, none, none⟩ : ActivationStatus) := by rw [hstatus]
      have hempty' : P.Emptied _ source destination' :=
        { hempty with destination_pinned := hpin, destination_ref := .inr href }
      have hat' := hat.setDestination hvolumes'
      have hsaved := hat'.setRecord { status with destinationReserved := true }
      have hafter := hsaved.mid (hempty'.stage hstatus' fun _ => ⟨rfl, href⟩) rfl
      simp only [andThen_ok]
      refine (runs_bind_of_spec runs_save_spec).mpr
        ⟨⟨fun _ => hat'.mid (hempty'.stage hstatus nofun) rfl, fun _ => hafter⟩,
          fun _ => hafter, ?_⟩
      exact runs_create hsaved { hempty' with } hdisjoint href hstatus'

theorem Claimed.terminating {pv : PV} {clock : String}
    (h : Claimed w P.sessionID ref pvRef pvc pv) :
    Claimed (w.setClaim ref.key (some (pvc.terminating clock))) P.sessionID ref pvRef
      (pvc.terminating clock) pv :=
  { claim := w.claims_setClaim_self
    identity := h.identity
    finalizers := h.finalizers
    annotated := h.annotated
    labelled := h.labelled
    phase := h.phase
    volumeName := h.volumeName
    claimRef := h.claimRef
    fits := h.fits }

theorem Claimed.uid {pv : PV} (h : Claimed w P.sessionID ref pvRef pvc pv) : pvc.uid = ref.uid :=
  congrArg ObjectReference.uid h.identity

section

variable (hat : P.At slot base w source destination status)
include hat

/-- Both claims are gone and the source's deletion is yet to be saved. -/
theorem runs_saveSource (hempty : P.Emptied w source destination) (hdisjoint : P.Disjoint)
    (hstatus : status = ⟨true, false, false, none, none, none⟩) :
    Runs (P.Crash slot base)
      (andThen exec (P.Crash slot base) (fun _ _ => True) (P.Done slot base)
        (P.fromReservation slot base))
      (ensureDetached P.volume.sourcePV.name >>= fun _ =>
        saveSlot slot base { status with sourcePVCDeleted := true } >>= fun _ =>
          pure { status with sourcePVCDeleted := true }) w := by
  have hdetached : Accepts (ensureDetached P.volume.sourcePV.name) w :=
    (accepts_ensureDetached P.complete.2.1.1).mpr hat.volumes.quiet.sourceDetached
  have hstatus' : { status with sourcePVCDeleted := true } =
      (⟨true, true, false, none, none, none⟩ : ActivationStatus) := by rw [hstatus]
  have hat' := hat.setRecord { status with sourcePVCDeleted := true }
  have hafter := hat'.mid (hempty.stage hstatus' nofun) rfl
  rw [runs_bind_of_accepts readOnly_ensureDetached hdetached, runs_bind_of_spec runs_save_spec]
  refine ⟨⟨fun _ => hat.mid (hempty.stage hstatus nofun) rfl, fun _ => hafter⟩, fun _ => hafter, ?_⟩
  exact runs_reserve hat' { hempty with } hdisjoint (fun h => absurd h Bool.false_ne_true) hstatus'

theorem runs_source_gone {saved reserved : Bool}
    (hempty : P.Emptied w source destination) (hdisjoint : P.Disjoint)
    (hreserved : reserved = true → saved = true ∧ P.Reserved destination)
    (hstatus : status = ⟨true, saved, reserved, none, none, none⟩) :
    Runs (P.Crash slot base) (P.Done slot base) (P.fromSource slot base status) w := by
  cases saved with
  | true =>
    have hflag : status.sourcePVCDeleted = true := by rw [hstatus]
    rw [fromSource, deleteSourceActivationPVC, deleteCheckpointed, if_pos hflag]
    exact runs_reserve hat hempty hdisjoint (fun h => (hreserved h).2) hstatus
  | false =>
    obtain rfl : reserved = false := by
      cases reserved with
      | true => exact absurd (hreserved rfl).1 (by decide)
      | false => rfl
    have hflag : ¬ status.sourcePVCDeleted = true := by simp [hstatus]
    rw [fromSource, deleteSourceActivationPVC, deleteCheckpointed, if_neg hflag]
    refine wp_bind.mpr ((runs_bind_of_spec
      (runs_deletePVC_absent P.complete.1 hempty.original)).mpr ⟨fun _ => ?_, ?_⟩)
    · exact hat.mid (hempty.stage hstatus nofun) rfl
    · exact runs_saveSource hat hempty hdisjoint hstatus

theorem runs_source_present
    (hhalf : P.Halfway w original source destination) (hdisjoint : P.Disjoint)
    (hstatus : status = ⟨true, false, false, none, none, none⟩) :
    Runs (P.Crash slot base) (P.Done slot base) (P.fromSource slot base status) w := by
  have hflag : ¬ status.sourcePVCDeleted = true := by simp [hstatus]
  rw [fromSource, deleteSourceActivationPVC, deleteCheckpointed, if_neg hflag]
  -- the claims of the other places are those of `w`
  have htemporary' (c : Option PVC) :
      (w.setClaim P.volume.sourcePVC.key c).claims P.volume.destinationPVC.key = none := by
    rw [w.claims_setClaim_of_ne P.claims_ne]
    exact hhalf.temporary
  have hfree' (c : Option PVC) : P.target = P.volume.sourcePVC.key ∨
      (w.setClaim P.volume.sourcePVC.key c).claims P.target = none := by
    by_cases hsame : P.target = P.volume.sourcePVC.key
    · exact .inl hsame
    · refine .inr ?_
      rw [w.claims_setClaim_of_ne hsame]
      exact hhalf.free.resolve_left hsame
  have hempty : P.Emptied (w.setClaim P.volume.sourcePVC.key none) source destination := by
    refine ⟨htemporary' none, w.claims_setClaim_self, ?_, hhalf.source_pinned,
      hhalf.destination_pinned, hhalf.original.claimRef, .inl hhalf.claimRef⟩
    rcases hfree' none with hsame | hgone
    · rw [hsame]
      exact w.claims_setClaim_self
    · exact hgone
  have hat' (c : Option PVC) := hat.setClaim P.volume.sourcePVC.key c (.inr (.inl rfl))
  refine wp_bind.mpr ((runs_bind_of_spec (runs_deletePVC_present P.complete.1 hhalf.original.claim
    hhalf.original.uid hhalf.original.finalizers hat.volumes.quiet.source)).mpr
    ⟨⟨fun _ => ?_, fun _ _ => ?_, fun _ => ?_⟩, ?_⟩)
  · exact hat.mid (hhalf.stage hstatus) rfl
  · exact (hat' _).mid (Halfway.stage { hhalf with
      temporary := htemporary' _, original := hhalf.original.terminating, free := hfree' _ }
      hstatus) rfl
  · exact (hat' none).mid (hempty.stage hstatus nofun) rfl
  · exact runs_saveSource (hat' none) hempty hdisjoint hstatus

end

/-- The temporary claim is gone and its deletion is yet to be saved. -/
theorem runs_saveTemporary (hat : P.At slot base w source destination {})
    (hhalf : P.Halfway w original source destination) (hdisjoint : P.Disjoint) :
    Runs (P.Crash slot base)
      (andThen exec (P.Crash slot base) (fun _ _ => True) (P.Done slot base)
        (P.fromSource slot base))
      (ensureDetached P.volume.destinationPV.name >>= fun _ =>
        saveSlot slot base { temporaryPVCDeleted := true } >>= fun _ =>
          pure { temporaryPVCDeleted := true }) w := by
  have hdetached : Accepts (ensureDetached P.volume.destinationPV.name) w :=
    (accepts_ensureDetached P.complete.2.2.2.1).mpr hat.volumes.quiet.destinationDetached
  have hat' := hat.setRecord { temporaryPVCDeleted := true }
  have hafter := hat'.mid (hhalf.stage rfl) rfl
  rw [runs_bind_of_accepts readOnly_ensureDetached hdetached, runs_bind_of_spec runs_save_spec]
  refine ⟨⟨fun _ => hat.mid (hhalf.stage rfl) rfl, fun _ => hafter⟩, fun _ => hafter, ?_⟩
  exact runs_source_present hat'
    { hhalf with original := hhalf.original.congr rfl (.refl source _) } hdisjoint rfl

theorem runs_temporary_gone {saved : Bool}
    (hat : P.At slot base w source destination { temporaryPVCDeleted := saved })
    (hhalf : P.Halfway w original source destination) (hdisjoint : P.Disjoint) :
    Runs (P.Crash slot base) (P.Done slot base)
      (P.fromTemporary slot base { temporaryPVCDeleted := saved }) w := by
  cases saved with
  | true => exact runs_source_present hat hhalf hdisjoint rfl
  | false =>
    refine wp_bind.mpr ((runs_bind_of_spec
      (runs_deletePVC_absent P.complete.2.2.1 hhalf.temporary)).mpr ⟨fun _ => ?_, ?_⟩)
    · exact hat.mid (hhalf.stage rfl) rfl
    · exact runs_saveTemporary hat hhalf hdisjoint

theorem runs_temporary_present (hat : P.At slot base w source destination {})
    (hboth : P.Untouched w temporary original source destination) (hdisjoint : P.Disjoint)
    (hspin : source.Pinned P.sessionID) (hdpin : destination.Pinned P.sessionID) :
    Runs (P.Crash slot base) (P.Done slot base) (P.fromTemporary slot base {}) w := by
  have htemporary := hboth.temporary
  have hclaimed' (c : Option PVC) : Claimed (w.setClaim P.volume.destinationPVC.key c)
      P.sessionID P.volume.sourcePVC P.volume.sourcePV original source :=
    hboth.original.congr (w.claims_setClaim_of_ne P.claims_ne.symm) (.refl source _)
  have hfree' (c : Option PVC) : P.target = P.volume.sourcePVC.key ∨
      (w.setClaim P.volume.destinationPVC.key c).claims P.target = none := by
    rw [w.claims_setClaim_of_ne hdisjoint]
    exact hboth.free
  have hat' (c : Option PVC) := hat.setClaim P.volume.destinationPVC.key c (.inl rfl)
  have hhalf : P.Halfway _ original source destination :=
    ⟨w.claims_setClaim_self, hclaimed' none, hfree' none, hspin, hdpin, htemporary.claimRef⟩
  refine wp_bind.mpr ((runs_bind_of_spec (runs_deletePVC_present P.complete.2.2.1
    htemporary.claim htemporary.uid htemporary.finalizers hat.volumes.quiet.temporary)).mpr
    ⟨⟨fun _ => ?_, fun _ _ => ?_, fun _ => ?_⟩, ?_⟩)
  · exact hat.mid (.staged htemporary hboth.original hboth.free) rfl
  · exact (hat' _).mid (.staged htemporary.terminating (hclaimed' _) (hfree' _)) rfl
  · exact (hat' none).mid (hhalf.stage rfl) rfl
  · exact runs_saveTemporary (hat' none) hhalf hdisjoint

theorem accepts_verifyBinding_claimed {pv : PV} (hcomplete : ref.ClaimComplete)
    (hpvcomplete : pvRef.VolumeComplete) (h : Claimed w P.sessionID ref pvRef pvc pv)
    (hpv : Holds w pvRef P.sessionID pv) :
    Accepts (verifyBinding pvc pvRef) w :=
  accepts_verifyBinding.mpr ⟨h.identity ▸ hcomplete, hpvcomplete, pv, h.phase, h.volumeName,
    hpv.volume, hpv.uid, h.identity ▸ h.claimRef, h.fits⟩

/-- There is no activated claim yet: the place is free, or the original is there. -/
def Inactive (P : Cutover) (w : World ρ) (source : PV) : Prop :=
  w.claims P.target = none ∨ P.target = P.volume.sourcePVC.key ∧
    ∃ original, Claimed w P.sessionID P.volume.sourcePVC P.volume.sourcePV original source

theorem runs_activePVC_inactive (hvolumes : P.Volumes w source destination)
    (hinactive : P.Inactive w source) (Q : Except Failure (Option PVC) → World ρ → Prop) :
    Runs C Q (activePVC P.sessionID P.activateNamespace P.volume.sourcePVC P.volume.sourcePV
      P.volume.destinationPV) w ↔ C w ∧ Q (.ok none) w := by
  rw [activePVC, runs_getPVC]
  rcases hinactive with hfree | ⟨hsame, original, hclaimed⟩
  · rw [show w.claims (P.activateNamespace, P.volume.sourcePVC.name) = none from hfree]
    exact wp_pure
  · have hget : w.claims (P.activateNamespace, P.volume.sourcePVC.name) = some original :=
      (congrArg w.claims hsame).trans hclaimed.claim
    simp only [hget, hclaimed.uid, hclaimed.volumeName, and_self, if_true]
    rw [runs_bind_of_accepts readOnly_verifyBinding (accepts_verifyBinding_claimed P.complete.1
      P.complete.2.1 hclaimed hvolumes.sourceHeld)]
    exact wp_pure

theorem runs_activePVC_activated {active : PVC} (hactive : P.Activated w active destination)
    (Q : Except Failure (Option PVC) → World ρ → Prop) :
    Runs C Q (activePVC P.sessionID P.activateNamespace P.volume.sourcePVC P.volume.sourcePV
      P.volume.destinationPV) w ↔ C w ∧ Q (.ok (some active)) w := by
  have hget : w.claims (P.activateNamespace, P.volume.sourcePVC.name) = some active :=
    hactive.claim
  have hother : ¬ (active.uid = P.volume.sourcePVC.uid ∧
      P.volume.destinationPV.name = P.volume.sourcePV.name) := fun h => P.volumes_ne h.2.symm
  rw [activePVC, runs_getPVC, hget]
  simp only [hactive.volumeName, hother, if_false, hactive.owned.2.2, and_self, if_true, wp_pure]

theorem runs_pin (hat : P.At slot base w source destination status)
    (hstage : P.Stage w source destination status) {f : Unit → Switch ρ Unit}
    (hf : ∀ source' destination' : PV, ∀ w' : World ρ, source.Carries source' P.sessionID →
      destination.Carries destination' P.sessionID → source'.Pinned P.sessionID →
      destination'.Pinned P.sessionID → w'.claims = w.claims →
      P.At slot base w' source' destination' status →
      Runs (P.Crash slot base) (P.Done slot base) (f ()) w') :
    Runs (P.Crash slot base) (P.Done slot base)
      (ensureRetain P.volume.sourcePV P.sessionID "source" >>= fun _ =>
        ensureRetain P.volume.destinationPV P.sessionID "destination" >>= f) w := by
  have hsource := pinnedFrom_retained source P.sessionID "source"
  have hdestination := pinnedFrom_retained destination P.sessionID "destination"
  have hat1 := hat.setSource hsource.carries
  have hat2 := hat1.setDestination (hat1.volumes.carryDestination hdestination.carries)
  have hmid1 := hat1.mid (hstage.congr rfl hsource.carries (.refl destination _)) rfl
  have hmid2 := hat2.mid (hstage.congr rfl hsource.carries hdestination.carries) rfl
  rw [runs_bind_of_spec (runs_ensureRetain hat.volumes.sourceHeld P.complete.2.1 P.session_ne
    (by decide)), runs_bind_of_spec (runs_ensureRetain hat1.volumes.destinationHeld
    P.complete.2.2.2 P.session_ne (by decide))]
  exact ⟨⟨fun _ => hat.mid hstage rfl, fun _ => hmid1⟩, ⟨fun _ => hmid1, fun _ => hmid2⟩,
    hf _ _ _ hsource.carries hdestination.carries hsource.pinned hdestination.pinned rfl hat2⟩

theorem runs_inactive (hat : P.At slot base w source destination status)
    (hstage : P.Stage w source destination status) (hinactive : P.Inactive w source)
    (hdisjoint : P.Disjoint) :
    Runs (P.Crash slot base) (P.Done slot base)
      (ensureRetain P.volume.sourcePV P.sessionID "source" >>= fun _ =>
        ensureRetain P.volume.destinationPV P.sessionID "destination" >>= fun _ =>
          P.fromTemporary slot base status) w := by
  refine runs_pin hat hstage ?_
  intro source' destination' w' hsource hdestination hspin hdpin hclaims hat'
  cases hstage.congr hclaims hsource hdestination with
  | staged temporary original free =>
    exact runs_temporary_present hat' ⟨temporary, original, free⟩ hdisjoint hspin hdpin
  | temporaryGone saved gone original free _ _ href =>
    exact runs_temporary_gone hat' ⟨gone, original, free, hspin, hdpin, href⟩ hdisjoint
  | claimsGone saved reserved tgone sgone free _ _ sref dref hreserved =>
    exact runs_source_gone hat' ⟨tgone, sgone, free, hspin, hdpin, sref, dref⟩ hdisjoint
      hreserved rfl
  | bound recorded tgone sgone activated _ _ sref =>
    -- the place of the activated claim is not taken by another claim
    exfalso
    have hget := activated.claim
    rw [hclaims] at hget
    rcases hinactive with hfree | ⟨hsame, original, hclaimed⟩
    · exact Option.some_ne_none _ (hget.symm.trans hfree)
    · have heq := Option.some.inj (hget.symm.trans ((congrArg w.claims hsame).trans
        hclaimed.claim))
      refine P.volumes_ne (hclaimed.volumeName.symm.trans ?_)
      rw [← heq]
      exact activated.volumeName

/-- The world is in a stage without the activated claim, or the activated claim is bound. -/
theorem Stage.inactive_or_bound (h : P.Stage w source destination status) :
    P.Inactive w source ∨ ∃ active recorded, status = boundStatus active recorded ∧
      P.Bound w active source destination := by
  cases h with
  | staged temporary original free | temporaryGone saved gone original free spin dpin href =>
    exact .inl (free.elim (fun hsame => .inr ⟨hsame, _, original⟩) .inl)
  | claimsGone saved reserved tgone sgone free spin dpin sref dref hreserved =>
    exact .inl (.inl free)
  | bound recorded tgone sgone activated spin dpin sref =>
    exact .inr ⟨_, recorded, rfl, tgone, sgone, activated, spin, dpin, sref⟩

theorem runs_activateVolumeResources_iff (hvolumes : P.Volumes w source destination)
    {progress : ActivationStatus → Switch ρ Unit} :
    Runs C Q (activateVolumeResources P.sessionID P.activateNamespace P.volume P.desired status
        progress) w ↔
      Runs C Q (activePVC P.sessionID P.activateNamespace P.volume.sourcePVC P.volume.sourcePV
        P.volume.destinationPV >>= fun
          | some active =>
            completeActivation P.sessionID P.volume P.desired status active progress
          | none => do
            ensureRetain P.volume.sourcePV P.sessionID "source"
            ensureRetain P.volume.destinationPV P.sessionID "destination"
            let status ← deleteTemporaryActivationPVC P.volume status progress
            let status ← deleteSourceActivationPVC P.volume status progress
            let status ← reserveActivationDestination P.sessionID P.volume P.desired status
              progress
            let created ← createBoundPVC P.sessionID P.desired
            completeActivation P.sessionID P.volume P.desired status created progress) w := by
  rewrite [activateVolumeResources,
    runs_bind_of_accepts readOnly_ensureNoConsumers
      (accepts_ensureNoConsumers.mpr hvolumes.quiet.source),
    runs_bind_of_accepts readOnly_ensureNoConsumers
      (accepts_ensureNoConsumers.mpr hvolumes.quiet.temporary),
    runs_bind_of_accepts readOnly_ensureDetached
      ((accepts_ensureDetached P.complete.2.1.1).mpr hvolumes.quiet.sourceDetached),
    runs_bind_of_accepts readOnly_ensureDetached
      ((accepts_ensureDetached P.complete.2.2.2.1).mpr hvolumes.quiet.destinationDetached)]
  exact Iff.rfl

theorem runs_activateVolumeResources (hat : P.At slot base w source destination status)
    (hstage : P.Stage w source destination status) (hdisjoint : P.Disjoint) :
    Runs (P.Crash slot base) (P.Done slot base)
      (activateVolumeResources P.sessionID P.activateNamespace P.volume P.desired status
        (saveSlot slot base)) w := by
  have hmid := hat.mid hstage rfl
  rw [runs_activateVolumeResources_iff hat.volumes]
  rcases hstage.inactive_or_bound with hinactive | ⟨active, recorded, hstatus, hbound⟩
  · rw [runs_bind_of_spec (runs_activePVC_inactive hat.volumes hinactive)]
    exact ⟨fun _ => hmid, runs_inactive hat hstage hinactive hdisjoint⟩
  · rw [runs_bind_of_spec (runs_activePVC_activated hbound.activated)]
    exact ⟨fun _ => hmid, runs_completeActivation hat hbound hstatus⟩

/-- The temporary claim is gone, or it is the recorded one and not marked as deleted. -/
def TemporaryKnown (P : Cutover) (w : World ρ) (destination : PV) (status : ActivationStatus) :
    Prop :=
  w.claims P.volume.destinationPVC.key = none ∨ ∃ temporary,
    Claimed w P.sessionID P.volume.destinationPVC P.volume.destinationPV temporary destination ∧
      status.temporaryPVCDeleted = false

theorem Stage.temporaryKnown (h : P.Stage w source destination status) :
    P.TemporaryKnown w destination status := by
  cases h with
  | staged temporary original free => exact .inr ⟨_, temporary, rfl⟩
  | temporaryGone saved gone original free spin dpin href => exact .inl gone
  | claimsGone saved reserved tgone sgone free spin dpin sref dref hreserved
  | bound recorded tgone sgone activated spin dpin sref => exact .inl tgone

/-- A run starts with the persisted checkpoint and passes the checks on its arguments. -/
theorem runs_resume_iff (hvolumes : P.Volumes w source destination)
    (hknown : P.TemporaryKnown w destination status)
    (hrecord : w.record = slot.set base.record status) (howns : slot.owns base.record) :
    Runs C Q (P.resume slot) w ↔
      Runs C Q (activateVolumeResources P.sessionID P.activateNamespace P.volume P.desired status
        (saveSlot slot base)) w := by
  have hget : slot.get w.record = status := by rw [hrecord, slot.get_set _ _ howns]
  have hsave : (fun status => Api.save (slot.set w.record status)) = saveSlot slot base := by
    funext status
    rw [hrecord, slot.set_set]
  rw [resume, runs_load, hget, hsave, activatePVC, runs_reject,
    if_neg (by simp [P.session_ne, P.namespace_ne]), runs_reject, if_neg (by simp [P.complete]),
    runs_reject, if_neg (by simp [P.manifest]), runs_reject,
    if_neg (by have := P.positive; simp only [P.request, Option.getD_some]; omega), runs_getPVC]
  rw [key_ns_name]
  rcases hknown with hgone | ⟨temporary, hclaimed, hflag⟩
  · rw [hgone]
  · have hvalid : Accepts (validateTemporaryActivationPVC temporary P.volume status) w := by
      simp only [validateTemporaryActivationPVC, accepts_reject_bind, hflag, hclaimed.uid, ne_eq,
        not_true_eq_false, not_false_eq_true, true_and, Bool.false_eq_true]
      exact accepts_verifyBinding_claimed P.complete.2.2.1 P.complete.2.2.2 hclaimed
        hvolumes.destinationHeld
    have hread : ReadOnly (validateTemporaryActivationPVC temporary P.volume status :
        Switch ρ Unit) :=
      only_reject_bind <| only_reject_bind readOnly_verifyBinding
    rw [hclaimed.claim]
    exact runs_bind_of_accepts hread hvalid

/-- **One run from a world left behind**, in whatever namespace: every stop with all claims
bound is again such a world, and a run that is not stopped ends with the activated claim in
place. -/
theorem runs_resume (hmid : P.Mid slot base w) (hdisjoint : P.Disjoint)
    (howns : slot.owns base.record) :
    Runs (P.Crash slot base) (P.Done slot base) (P.resume slot) w := by
  obtain ⟨⟨source, destination, status, hvolumes, hstage, hrecord⟩, helse⟩ := hmid
  exact (runs_resume_iff hvolumes hstage.temporaryKnown hrecord howns).mpr
    (runs_activateVolumeResources ⟨hvolumes, hrecord, helse⟩ hstage hdisjoint)

/-- **Convergence.**  After any number of interrupted runs, each restarted once all claims are
bound, the next run that is not interrupted succeeds and leaves the activated claim in place. -/
theorem converges (hdisjoint : P.Disjoint) (howns : slot.owns base.record) {w' : World ρ}
    (hmid : P.Mid slot base w) (hreruns : Reruns exec (P.resume slot) w World.Settled w') :
    P.Mid slot base w' ∧ (run exec (P.resume slot) w').1 = .ok () ∧
      P.Final (run exec (P.resume slot) w').2 := by
  have h := recovers (fun t ht => runs_resume ht hdisjoint howns) hmid hreruns
  exact ⟨h.1, h.2.1, h.2.2.1⟩

/-! ## Two stops that matter -/

/-- The destination is reserved and neither claim is there: the checkpoint does not know of the
reservation yet. -/
structure ReservedUnsaved (P : Cutover) (slot : Slot ρ) (base w : World ρ)
    (source destination : PV) : Prop where
  volumes : P.Volumes w source destination
  temporary_gone : w.claims P.volume.destinationPVC.key = none
  source_gone : w.claims P.volume.sourcePVC.key = none
  free : w.claims P.target = none
  reserved : P.Reserved destination
  record : w.record =
    slot.set base.record { temporaryPVCDeleted := true, sourcePVCDeleted := true }
  elsewhere : P.Elsewhere base w
  settled : base.Settled → w.Settled

/-- Deleting a claim that is there and saving the checkpoint, as a step. -/
theorem runs_deleteCheckpointed {done : Bool} {claim pv : ObjectReference} {next : ActivationStatus}
    (hdone : done = false) (hcomplete : claim.ClaimComplete) (hpv : pv.VolumeComplete)
    (hclaim : w.claims claim.key = some pvc) (huid : pvc.uid = claim.uid)
    (hfinalizers : blockingPVCFinalizers pvc = []) (hunused : w.NoConsumers claim.ns claim.name)
    (hdetached : w.Detached pv.name) {Q : Except Failure ActivationStatus → World ρ → Prop}
    (h : Runs C Q (deleteCheckpointed done claim pv status (saveSlot slot base) next) w) :
    Q (.ok next) ((w.setClaim claim.key none).setRecord (slot.set base.record next)) := by
  have hdetached' : Accepts (ensureDetached pv.name) (w.setClaim claim.key none) :=
    (accepts_ensureDetached hpv.1).mpr hdetached
  rw [deleteCheckpointed, hdone, if_neg Bool.false_ne_true,
    runs_bind_of_spec (runs_deletePVC_present hcomplete hclaim huid hfinalizers hunused),
    runs_bind_of_accepts readOnly_ensureDetached hdetached',
    runs_bind_of_spec runs_save_spec] at h
  exact (wp_pure.mp h.2.2).2

/-- The run passes from the pinned volumes to the reservation of the destination. -/
theorem reservedUnsaved_of_runs (hvolumes : P.Volumes w source destination)
    (hboth : P.Untouched w temporary original source destination) (hdisjoint : P.Disjoint)
    (hdpin : destination.Pinned P.sessionID) (helse : P.Elsewhere base w)
    (hsettled : base.Settled → w.Settled) (h : Runs C Q (P.fromTemporary slot base {}) w) :
    ∃ u source' destination', C u ∧ P.ReservedUnsaved slot base u source' destination' := by
  have htemporary := hboth.temporary
  -- the temporary claim is deleted
  have h1 := runs_deleteCheckpointed rfl P.complete.2.2.1 P.complete.2.2.2
    htemporary.claim htemporary.uid htemporary.finalizers hvolumes.quiet.temporary
    hvolumes.quiet.destinationDetached (wp_bind.mp h)
  -- the source claim is deleted
  let w1 := (w.setClaim P.volume.destinationPVC.key none).setRecord
    (slot.set base.record { temporaryPVCDeleted := true })
  have hclaimed1 : Claimed w1 P.sessionID P.volume.sourcePVC P.volume.sourcePV original source :=
    hboth.original.congr (w.claims_setClaim_of_ne P.claims_ne.symm) (.refl source _)
  have h2 := runs_deleteCheckpointed rfl P.complete.1 P.complete.2.1
    hclaimed1.claim hclaimed1.uid hclaimed1.finalizers hvolumes.quiet.source
    hvolumes.quiet.sourceDetached (wp_bind.mp h1)
  -- the destination is reserved
  let w2 := (w1.setClaim P.volume.sourcePVC.key none).setRecord
    (slot.set base.record { temporaryPVCDeleted := true, sourcePVCDeleted := true })
  have hvolumes2 : P.Volumes w2 source destination := hvolumes.congr rfl rfl rfl
  have htemporary2 : w2.claims P.volume.destinationPVC.key = none := by
    rw [show w2.claims P.volume.destinationPVC.key = w1.claims P.volume.destinationPVC.key from
      w1.claims_setClaim_of_ne P.claims_ne]
    exact w.claims_setClaim_self
  have hsource2 : w2.claims P.volume.sourcePVC.key = none := w1.claims_setClaim_self
  have hfree2 : w2.claims P.target = none := by
    by_cases hsame : P.target = P.volume.sourcePVC.key
    · rw [hsame]
      exact hsource2
    · rw [show w2.claims P.target = w1.claims P.target from w1.claims_setClaim_of_ne hsame,
        show w1.claims P.target = w.claims P.target from w.claims_setClaim_of_ne hdisjoint]
      exact hboth.free.resolve_left hsame
  have helse2 : P.Elsewhere base w2 :=
    ((helse.setClaim (.inl rfl)).setRecord.setClaim (.inr (.inl rfl))).setRecord
  have hns : P.desired.ns ≠ "" := by
    rw [P.manifest.1]
    exact P.namespace_ne
  have hname : P.desired.name ≠ "" := by
    rw [P.manifest.2.1]
    exact P.complete.1.2.1
  have hclaim2 : w2.claims (P.desired.ns, P.desired.name) = none := by rwa [P.target_eq]
  have hgone2 : (w2.claims (P.volume.destinationPVC.ns, P.volume.destinationPVC.name)).any
      (fun pvc => pvc.uid = P.volume.destinationPVC.uid) = false := by
    rw [key_ns_name, htemporary2]
    rfl
  have hreserve := wp_bind.mp h2
  rw [reserveActivationDestination, if_neg Bool.false_ne_true] at hreserve
  have hreserve' := ((runs_bind_of_spec (runs_validateBoundPVC hclaim2)).mp hreserve).2
  have hC := ((runs_bind_of_spec (runs_reservePV_released hvolumes2.destinationHeld hclaim2
    P.complete.2.2.2 hns hname P.session_ne hdpin.1 htemporary.claimRef P.complete.2.2.1.2.2
    hgone2)).mp hreserve').1.2.2
  have hvolumes3 : P.Volumes (w2.setVolume P.volume.destinationPV.name
      (some ((destination.inPhase .released).reservedFor P.desired.ns P.desired.name).stored))
      source ((destination.inPhase .released).reservedFor P.desired.ns P.desired.name).stored :=
    hvolumes2.setDestination rfl rfl rfl rfl hvolumes.destinationHeld.ours
  refine ⟨_, source, _, hC, hvolumes3, htemporary2, hsource2, hfree2, ?_, rfl,
    helse2.setVolume (.inr rfl), fun hbase => ?_⟩
  · show _ = _
    rw [← P.manifest.1, ← P.manifest.2.1]
    rfl
  · exact (hsettled hbase).setClaim_none.setClaim_none

/-- **The stop after the reservation is reached** by a run that starts with both claims. -/
theorem exists_reservedUnsaved (hat : P.At slot base w source destination {})
    (hboth : P.Untouched w temporary original source destination) (hdisjoint : P.Disjoint)
    (howns : slot.owns base.record) (hsettled : base.Settled → w.Settled) :
    ∃ u ∈ stops exec (P.resume slot) w, ∃ source' destination',
      P.ReservedUnsaved slot base u source' destination' := by
  refine exists_mem_stops fun C hruns => ?_
  change Runs C _ _ w at hruns
  have hvolumes := hat.volumes
  have hknown : P.TemporaryKnown w destination {} := .inr ⟨_, hboth.temporary, rfl⟩
  have hinactive : P.Inactive w source :=
    hboth.free.elim (fun hsame => .inr ⟨hsame, _, hboth.original⟩) .inl
  rw [runs_resume_iff hvolumes hknown hat.record howns,
    runs_activateVolumeResources_iff hvolumes,
    runs_bind_of_spec (runs_activePVC_inactive hvolumes hinactive)] at hruns
  have hsource := pinnedFrom_retained source P.sessionID "source"
  have hdestination := pinnedFrom_retained destination P.sessionID "destination"
  have hvolumes1 := hvolumes.setSource hsource.carries
  have hvolumes2 := hvolumes1.carryDestination hdestination.carries
  have hruns1 := ((runs_bind_of_spec (runs_ensureRetain hvolumes.sourceHeld P.complete.2.1
    P.session_ne (by decide))).mp hruns.2).2
  have hruns2 := ((runs_bind_of_spec (runs_ensureRetain hvolumes1.destinationHeld
    P.complete.2.2.2 P.session_ne (by decide))).mp hruns1).2
  obtain ⟨u, source', destination', hu, hreserved⟩ := reservedUnsaved_of_runs hvolumes2
    ⟨hboth.temporary.congr rfl hdestination.carries, hboth.original.congr rfl hsource.carries,
      hboth.free⟩ hdisjoint hdestination.pinned
    ((hat.elsewhere.setVolume (.inl rfl)).setVolume (.inr rfl)) hsettled hruns2
  exact ⟨u, hu, source', destination', hreserved⟩

/-- Completing the activation with the temporary claim, or failing to, deletes no claim. -/
theorem runs_completeActivation_temporary (hvolumes : P.Volumes w source destination)
    (htemporary : Claimed w P.sessionID P.volume.destinationPVC P.volume.destinationPV temporary
      destination) :
    Runs (fun _ => True) (fun _ u => u.claims = w.claims)
      (completeActivation P.sessionID P.volume P.desired status temporary (saveSlot slot base))
      w := by
  refine wp_bind.mpr ((wp_of_only readOnly_validateActivePVCRequest exec_of_isRead
    fun _ _ => trivial).mpr ⟨trivial, ?_⟩)
  rcases (run exec (validateActivePVCRequest temporary (P.desired.spec.request.getD 0) :
    Switch ρ Unit) w).1 with e | ⟨⟩
  · exact rfl
  · refine (runs_bind_of_accepts readOnly_verifyBinding (accepts_verifyBinding_claimed
      P.complete.2.2.1 P.complete.2.2.2 htemporary hvolumes.destinationHeld)).mpr ?_
    refine (runs_bind_of_spec (runs_markPVPair_activated P.session_ne P.complete.2.1
      P.complete.2.2.2 P.volumes_ne hvolumes.sourceHeld hvolumes.destinationHeld)).mpr
      ⟨by simp, ?_⟩
    rw [runs_now]
    exact (runs_save_spec _).mpr ⟨⟨trivial, trivial⟩, rfl⟩

/-- If the temporary claim takes the place of the activated claim, a run takes it for the
activated claim, or fails, and no claim is deleted. -/
theorem claims_run_of_alias (hvolumes : P.Volumes w source destination)
    (htemporary : Claimed w P.sessionID P.volume.destinationPVC P.volume.destinationPV temporary
      destination) (halias : P.target = P.volume.destinationPVC.key) (howns : slot.owns base.record)
    (hrecord : w.record = slot.set base.record {}) :
    (run exec (P.resume slot) w).2.claims = w.claims := by
  have hruns : Runs (fun _ => True) (fun _ u => u.claims = w.claims) (P.resume slot) w := by
    have hget : w.claims (P.activateNamespace, P.volume.sourcePVC.name) = some temporary :=
      (congrArg w.claims halias).trans htemporary.claim
    have hother : ¬ (temporary.uid = P.volume.sourcePVC.uid ∧
        P.volume.destinationPV.name = P.volume.sourcePV.name) := fun h => P.volumes_ne h.2.symm
    rw [runs_resume_iff hvolumes (.inr ⟨temporary, htemporary, rfl⟩) hrecord howns,
      runs_activateVolumeResources_iff hvolumes]
    refine wp_bind.mpr ?_
    change Runs _ _ _ w
    rw [activePVC, runs_getPVC, hget]
    simp only [htemporary.volumeName, hother, if_false, true_and]
    by_cases howned : temporary.annotations.get sessionKey = P.sessionID
    · rw [if_pos howned]
      exact ⟨trivial, runs_completeActivation_temporary hvolumes htemporary⟩
    · rw [if_neg howned]
      exact ⟨trivial, rfl⟩
  exact (wp_iff.mp hruns).2.2

end Run

end Cutover

end PvcMigrate.Kube
