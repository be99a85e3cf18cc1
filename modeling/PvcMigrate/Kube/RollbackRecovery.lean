import PvcMigrate.Kube.ActivationRecovery
import PvcMigrate.Kube.Rollback

/-!
# Recovering an interrupted rollback

A rollback starts from a world that an activation has left behind.  If the volume stays in its
namespace, and the source claim is still there or the activated claim is recorded, a rollback that
stops anywhere leaves the volume in one of four states: the activated claim is in place, it is
gone, the source claim is back, the rollback is recorded.  Running `rollbackPVC` again passes only
through these states and ends with the last one.

The other starts lead to stops of their own: `ReservedStop` and `RecordedStop` say which.
-/

namespace PvcMigrate.Kube

open Prog

variable {ρ : Type}

/-- Every claim that exists is bound, and none of them is terminating. -/
def World.Calm (w : World ρ) : Prop :=
  ∀ key pvc, w.claims key = some pvc → pvc.phase = .bound ∧ pvc.deletionTimestamp = none

theorem World.Calm.setClaim_none {w : World ρ} {key : String × String} (h : w.Calm) :
    (w.setClaim key none).Calm := by
  intro other pvc hclaim
  by_cases hkey : other = key
  · subst hkey
    rw [w.claims_setClaim_self] at hclaim
    cases hclaim
  · rw [w.claims_setClaim_of_ne hkey] at hclaim
    exact h other pvc hclaim

/-- What a rollback is about: the activation it undoes, and the source claim it restores.  The
conditions are those `rollbackPVC` checks first. -/
structure Rollback extends Cutover where
  restored : PVC
  restored_manifest : restored.IsManifest sessionID volume.sourcePVC.ns volume.sourcePVC.name
    volume.sourcePV.name
  restored_positive : 0 < restored.spec.request.getD 0

namespace Rollback

open Cutover

variable (P : Rollback)

/-- Run the rollback from the persisted checkpoint; a volume that is rolled back is skipped. -/
def rollback (slot : Slot ρ) : Switch ρ Unit := do
  let record ← Api.load
  if (slot.get record).rolledBackAt ≠ none then pure ()
  else
    rollbackPVC P.sessionID P.activateNamespace P.volume P.restored (slot.get record)
      fun status => Api.save (slot.set record status)

/-- The two volumes are there, and the planner has checked that the source volume is as large as
the source claim asks for. -/
structure Storage (w : World ρ) (source destination : PV) : Prop extends
    Cutover.Volumes P.toCutover w source destination where
  sized : validateBoundVolumeCapacity P.restored source = none

/-- The source claim is in place: the original, or a new one of the session. -/
structure Home (w : World ρ) (pvc : PVC) (source : PV) : Prop where
  claim : w.claims P.volume.sourcePVC.key = some pvc
  ns : pvc.ns = P.volume.sourcePVC.ns
  name : pvc.name = P.volume.sourcePVC.name
  uid : pvc.uid ≠ none
  phase : pvc.phase = .bound
  volumeName : pvc.spec.volumeName = P.volume.sourcePV.name
  owned : pvc.uid = P.volume.sourcePVC.uid ∨ pvc.annotations.get sessionKey = P.sessionID
  claimRef : source.claimRef = some pvc.ref
  fits : validateBoundVolumeCapacity pvc source = none

/-- The source volume is reserved for the source claim. -/
def ReservedBack (source : PV) : Prop :=
  source.claimRef = some ⟨P.volume.sourcePVC.ns, P.volume.sourcePVC.name, none⟩

/-- The checkpoint records the activated claim, or nothing. -/
structure Consistent (status : ActivationStatus) : Prop where
  activePVC : ∀ ref ∈ status.activePVC, ref.name = P.volume.sourcePVC.name ∧
    ref.ns = P.activateNamespace ∧ ref.uid ≠ none
  activatedAt : status.activatedAt ≠ none → status.activePVC ≠ none
  rolledBackAt : status.rolledBackAt = none

/-- How far the rollback has come, with the checkpoint persisted so far. -/
inductive Restoring (w : World ρ) (source destination : PV) : ActivationStatus → Prop
  /-- the activated claim is in place, and recorded -/
  | active {active : PVC} (time : Time) (activated : P.Activated w active destination)
      (source_pinned : source.Pinned P.sessionID)
      (destination_pinned : destination.Pinned P.sessionID)
      (source_ref : source.claimRef = some P.volume.sourcePVC) :
      Restoring w source destination (boundStatus active (some time))
  /-- no claim is there -/
  | removed {active : PVC} (time : Time)
      (gone : w.claims P.volume.sourcePVC.key = none)
      (consistent : P.Consistent (boundStatus active (some time)))
      (source_pinned : source.Pinned P.sessionID)
      (destination_pinned : destination.Pinned P.sessionID)
      (source_ref : source.claimRef = some P.volume.sourcePVC ∨ P.ReservedBack source)
      (destination_ref : destination.claimRef = some active.ref) :
      Restoring w source destination (boundStatus active (some time))
  /-- the source claim is in place, and that is not recorded -/
  | home {pvc : PVC} {status : ActivationStatus} (present : P.Home w pvc source)
      (consistent : P.Consistent status) : Restoring w source destination status
  /-- the rollback is recorded -/
  | saved {pvc : PVC} {status : ActivationStatus} (time : Time) (present : P.Home w pvc source)
      (consistent : P.Consistent status)
      (source_pinned : source.Pinned P.sessionID)
      (destination_pinned : destination.Pinned P.sessionID)
      (source_role : source.labels.get resourceRoleLabel = "active")
      (destination_role : destination.labels.get resourceRoleLabel = "rollback") :
      Restoring w source destination (status.rolledBack pvc time)

/-- A world a rollback that started in `base` has left behind. -/
structure Underway (slot : Slot ρ) (base w : World ρ) : Prop where
  state : ∃ source destination status, P.Storage w source destination ∧
    P.Restoring w source destination status ∧ w.record = slot.set base.record status
  elsewhere : P.Elsewhere base w

/-- The source claim is back, both volumes are retained and know their roles, and the rollback is
recorded. -/
def Final (slot : Slot ρ) (base w : World ρ) : Prop :=
  ∃ (source destination : PV) (pvc : PVC) (status : ActivationStatus) (time : Time),
    P.Storage w source destination ∧ P.Home w pvc source ∧
    w.record = slot.set base.record (status.rolledBack pvc time) ∧
    source.reclaimPolicy = .retain ∧ destination.reclaimPolicy = .retain ∧
    source.labels.get resourceRoleLabel = "active" ∧
    destination.labels.get resourceRoleLabel = "rollback"

/-! ## The parts of a run -/

section Parts

variable {P} {slot : Slot ρ} {base w w' : World ρ} {source destination source' destination' : PV}
  {status : ActivationStatus} {C : World ρ → Prop}

section

variable (h : P.Storage w source destination)
include h

theorem Storage.congr (hvolumes : w'.volumes = w.volumes)
    (hpods : w'.pods = w.pods) (hattachments : w'.attachments = w.attachments) :
    P.Storage w' source destination :=
  ⟨h.toVolumes.congr hvolumes hpods hattachments, h.sized⟩

theorem Storage.carryDestination (hpv : destination.Carries destination' P.sessionID) :
    P.Storage (w.setVolume P.volume.destinationPV.name (some destination')) source destination' :=
  ⟨h.toVolumes.carryDestination hpv, h.sized⟩

theorem Storage.carrySource (hpv : source.Carries source' P.sessionID) :
    P.Storage (w.setVolume P.volume.sourcePV.name (some source')) source' destination :=
  ⟨h.toVolumes.setSource hpv,
    (validateBoundVolumeCapacity_congr hpv.capacity hpv.name).trans h.sized⟩

theorem Storage.setSource (hname : source'.name = source.name) (huid : source'.uid = source.uid)
    (halive : source'.deletionTimestamp = source.deletionTimestamp)
    (hcapacity : source'.capacity = source.capacity) (hours : source'.Ours P.sessionID) :
    P.Storage (w.setVolume P.volume.sourcePV.name (some source')) source' destination where
  sourceHeld := ⟨w.volumes_setVolume_self, hname.trans h.sourceHeld.name,
    huid.trans h.sourceHeld.uid, hours⟩
  destinationHeld := ⟨by simpa [P.volumes_ne.symm] using h.destinationHeld.volume,
    h.destinationHeld.name, h.destinationHeld.uid, h.destinationHeld.ours⟩
  sourceAlive := halive.trans h.sourceAlive
  destinationAlive := h.destinationAlive
  fits := h.fits
  quiet := h.quiet.congr rfl rfl
  sized := (validateBoundVolumeCapacity_congr hcapacity hname).trans h.sized

end

theorem Home.congr {pvc : PVC} (h : P.Home w pvc source)
    (hclaim : w'.claims P.volume.sourcePVC.key = w.claims P.volume.sourcePVC.key)
    (hpv : source.Carries source' P.sessionID) : P.Home w' pvc source' :=
  { h with
    claim := hclaim.trans h.claim
    claimRef := hpv.claimRef.trans h.claimRef
    fits := (validateBoundVolumeCapacity_congr hpv.capacity hpv.name).trans h.fits }

theorem home_of_claimed {original : PVC}
    (h : Claimed w P.sessionID P.volume.sourcePVC P.volume.sourcePV original source) :
    P.Home w original source where
  claim := h.claim
  ns := congrArg ObjectReference.ns h.identity
  name := congrArg ObjectReference.name h.identity
  uid := by
    rw [h.uid]
    exact P.complete.1.2.2
  phase := h.phase
  volumeName := h.volumeName
  owned := .inl h.uid
  claimRef := h.claimRef.trans (congrArg some h.identity.symm)
  fits := h.fits

/-- The world in which the rollback to the claim `pvc` is recorded. -/
def recordedBack (P : Rollback) (slot : Slot ρ) (base w : World ρ) (status : ActivationStatus)
    (pvc : PVC) (source destination : PV) : World ρ :=
  (w.markPair P.sessionID P.volume.sourcePV P.volume.destinationPV source destination).setRecord
    (slot.set base.record (status.rolledBack pvc w.time))

theorem runs_completeRollback {pvc : PVC} (hstorage : P.Storage w source destination)
    (hhome : P.Home w pvc source) (Q : Except Failure Unit → World ρ → Prop) :
    Runs C Q (completeRollback P.sessionID P.volume status pvc (saveSlot slot base)) w ↔
      ((C w ∧ C (w.setVolume P.volume.sourcePV.name
          (some (source.paired P.sessionID "active" P.volume.destinationPV.name))) ∧
        C (w.markPair P.sessionID P.volume.sourcePV P.volume.destinationPV source destination)) ∧
        C (P.recordedBack slot base w status pvc source destination)) ∧
        Q (.ok ()) (P.recordedBack slot base w status pvc source destination) := by
  have hbinding : Accepts (verifyBinding pvc P.volume.sourcePV) w := by
    refine accepts_verifyBinding.mpr ⟨⟨?_, ?_, hhome.uid⟩, P.complete.2.1, source, hhome.phase,
      hhome.volumeName, hstorage.sourceHeld.volume, hstorage.sourceHeld.uid, hhome.claimRef,
      hhome.fits⟩
    · exact fun h => P.complete.1.1 (hhome.ns.symm.trans h)
    · exact fun h => P.complete.1.2.1 (hhome.name.symm.trans h)
  rw [completeRollback, runs_bind_of_accepts readOnly_verifyBinding hbinding,
    runs_bind_of_spec (runs_markPVPair_rolledBack P.session_ne P.complete.2.1 P.complete.2.2.2
      P.volumes_ne hstorage.sourceHeld hstorage.destinationHeld), runs_now, runs_save_spec]
  constructor
  · rintro ⟨hmarks, ⟨-, hsaved⟩, hdone⟩
    exact ⟨⟨hmarks, hsaved⟩, hdone⟩
  · rintro ⟨⟨hmarks, hsaved⟩, hdone⟩
    exact ⟨hmarks, ⟨hmarks.2.2, hsaved⟩, hdone⟩

/-- The world in which the destination volume is pinned. -/
abbrev pinDestination (P : Rollback) (w : World ρ) (destination : PV) : World ρ :=
  w.setVolume P.volume.destinationPV.name
    (some (destination.retained P.sessionID "destination"))

/-- The world in which the source volume is pinned. -/
abbrev pinSource (P : Rollback) (w : World ρ) (source : PV) : World ρ :=
  w.setVolume P.volume.sourcePV.name (some (source.retained P.sessionID "source"))

theorem Storage.pinSource (h : P.Storage w source destination) :
    P.Storage (P.pinSource w source) (source.retained P.sessionID "source") destination :=
  h.carrySource (pinnedFrom_retained source _ _).carries

theorem Storage.pinDestination (h : P.Storage w source destination) :
    P.Storage (P.pinDestination w destination) source
      (destination.retained P.sessionID "destination") :=
  h.carryDestination (pinnedFrom_retained destination _ _).carries

theorem runs_removeActiveDestination {current : PVC} (hvolumes : P.Volumes w source destination)
    (hclaimed : Claimed w P.sessionID current.ref P.volume.destinationPV current destination)
    (hannotated : current.annotations.get sessionKey = P.sessionID)
    (hcomplete : current.ref.ClaimComplete) (hunused : w.NoConsumers current.ns current.name)
    (Q : Except Failure Unit → World ρ → Prop) :
    Runs C Q (removeActiveDestination P.sessionID P.volume current) w ↔
      ((C w ∧ C (P.pinDestination w destination)) ∧
        (current.finalizers ≠ [] → C ((P.pinDestination w destination).setClaim current.ref.key
          (some (current.terminating w.clock)))) ∧
        C ((P.pinDestination w destination).setClaim current.ref.key none)) ∧
        Q (.ok ()) ((P.pinDestination w destination).setClaim current.ref.key none) := by
  have hbinding : Accepts (verifyBinding current P.volume.destinationPV) w :=
    accepts_verifyBinding_claimed hcomplete P.complete.2.2.2 hclaimed hvolumes.destinationHeld
  have hdetached : Accepts (ensureDetached P.volume.destinationPV.name)
      ((P.pinDestination w destination).setClaim current.ref.key none) :=
    (accepts_ensureDetached P.complete.2.2.2.1).mpr hvolumes.quiet.destinationDetached
  have hclaim : (P.pinDestination w destination).claims current.ref.key = some current :=
    hclaimed.claim
  have hunused' : (P.pinDestination w destination).NoConsumers current.ref.ns current.ref.name :=
    hunused
  rw [removeActiveDestination, runs_reject, if_neg (by simp [hclaimed.volumeName, hannotated]),
    runs_bind_of_accepts readOnly_verifyBinding hbinding,
    runs_bind_of_spec (runs_ensureRetain hvolumes.destinationHeld P.complete.2.2.2 P.session_ne
      (by decide)),
    runs_bind_of_spec (runs_deletePVC_present hcomplete hclaim rfl hclaimed.finalizers hunused'),
    runs_of_accepts readOnly_ensureDetached hdetached]
  constructor
  · rintro ⟨hpins, ⟨-, hterminating, hgone⟩, -, hdone⟩
    exact ⟨⟨hpins, hterminating, hgone⟩, hdone⟩
  · rintro ⟨⟨hpins, hterminating, hgone⟩, hdone⟩
    exact ⟨hpins, ⟨hpins.2, hterminating, hgone⟩, hgone, hdone⟩

end Parts

/-! ## One run in the volume's own namespace -/

section Run

variable {P} {slot : Slot ρ} {base w : World ρ} {source destination : PV}
  {status : ActivationStatus}

/-- The crash condition: once every claim is bound and none is terminating, the world is one of
those left behind. -/
abbrev Crash (P : Rollback) (slot : Slot ρ) (base : World ρ) : World ρ → Prop :=
  fun u => u.Calm → P.Underway slot base u

/-- The outcome: the run succeeds, and the rollback is recorded. -/
abbrev Done (P : Rollback) (slot : Slot ρ) (base : World ρ) :
    Except Failure Unit → World ρ → Prop :=
  fun result u => result = .ok () ∧ P.Final slot base u ∧ P.Underway slot base u

/-- The volumes are there, the checkpoint is persisted, and nothing else has changed. -/
structure At (P : Rollback) (slot : Slot ρ) (base w : World ρ) (source destination : PV)
    (status : ActivationStatus) : Prop where
  storage : P.Storage w source destination
  record : w.record = slot.set base.record status
  elsewhere : P.Elsewhere base w

theorem At.underway (h : P.At slot base w source destination status)
    (hstate : P.Restoring w source destination status) : P.Underway slot base w :=
  ⟨⟨source, destination, status, h.storage, hstate, h.record⟩, h.elsewhere⟩

variable {source' : PV}

theorem At.carrySource (h : P.At slot base w source destination status)
    (hpv : source.Carries source' P.sessionID) :
    P.At slot base (w.setVolume P.volume.sourcePV.name (some source')) source' destination status :=
  ⟨h.storage.carrySource hpv, h.record, h.elsewhere.setVolume (.inl rfl)⟩

theorem At.carryDestination {destination' : PV} (h : P.At slot base w source destination status)
    (hpv : destination.Carries destination' P.sessionID) :
    P.At slot base (w.setVolume P.volume.destinationPV.name (some destination')) source
      destination' status :=
  ⟨h.storage.carryDestination hpv, h.record, h.elsewhere.setVolume (.inr rfl)⟩

variable {pvc : PVC}

/-- A run that finds the source claim in place records the rollback. -/
theorem runs_home (hat : P.At slot base w source destination status) (hhome : P.Home w pvc source)
    (hconsistent : P.Consistent status) :
    Runs (P.Crash slot base) (P.Done slot base)
      (completeRollback P.sessionID P.volume status pvc (saveSlot slot base)) w := by
  have hactive : source.PinnedFrom
      (source.paired P.sessionID "active" P.volume.destinationPV.name) P.sessionID "active" :=
    pinnedFrom_paired source
  have hrolled : destination.PinnedFrom
      (destination.paired P.sessionID "rollback" P.volume.sourcePV.name) P.sessionID
      "rollback" := pinnedFrom_paired destination
  have hat1 := hat.carrySource hactive.carries
  have hat2 := hat1.carryDestination hrolled.carries
  have hhome' {u : World ρ} (hclaims : u.claims = w.claims) : P.Home u pvc
      (source.paired P.sessionID "active" P.volume.destinationPV.name) :=
    hhome.congr (congrFun hclaims _) hactive.carries
  have hstorage : P.Storage (P.recordedBack slot base w status pvc source destination)
      (source.paired P.sessionID "active" P.volume.destinationPV.name)
      (destination.paired P.sessionID "rollback" P.volume.sourcePV.name) :=
    hat2.storage.congr rfl rfl rfl
  have hsaved : P.Underway slot base (P.recordedBack slot base w status pvc source destination) :=
    At.underway ⟨hstorage, rfl, hat2.elsewhere.setRecord⟩ (.saved w.time (hhome' rfl) hconsistent
      hactive.pinned hrolled.pinned hactive.labelled hrolled.labelled)
  refine (runs_completeRollback hat.storage hhome _).mpr ⟨⟨⟨fun _ => ?_, fun _ => ?_, fun _ => ?_⟩,
    fun _ => hsaved⟩, rfl, ?_, hsaved⟩
  · exact hat.underway (.home hhome hconsistent)
  · exact hat1.underway (.home (hhome' rfl) hconsistent)
  · exact hat2.underway (.home (hhome' rfl) hconsistent)
  · exact ⟨_, _, pvc, status, w.time, hstorage, hhome' rfl, rfl, hactive.pinned.1,
      hrolled.pinned.1, hactive.labelled, hrolled.labelled⟩

theorem restored_key (P : Rollback) :
    (P.restored.ns, P.restored.name) = P.volume.sourcePVC.key := by
  rw [P.restored_manifest.1, P.restored_manifest.2.1]
  rfl

theorem not_calm_addClaim (pvc : PVC) : ¬ (w.addClaim pvc).Calm := by
  intro h
  have hphase := (h _ _ (w.claims_addClaim_self pvc)).1
  simp at hphase

theorem home_addBound (hstorage : P.Storage w source destination) :
    P.Home (w.addBound P.restored source) (P.restored.created w.nextUID).bind
      (source.bind (P.restored.created w.nextUID)) where
  claim := by simp [World.addBound, ← P.restored_key]
  ns := by simpa using P.restored_manifest.1
  name := by simpa using P.restored_manifest.2.1
  uid := by simp
  phase := rfl
  volumeName := by simpa using P.restored_manifest.2.2.1
  owned := .inr P.restored_manifest.2.2.2.2.2
  claimRef := rfl
  fits := hstorage.sized

variable {active : PVC} {time : Time} {Q : Except Failure Unit → World ρ → Prop}

/-- The activated claim was recorded, and no claim is there. -/
structure Removed (P : Rollback) (w : World ρ) (source destination : PV) (active : PVC)
    (time : Time) : Prop where
  gone : w.claims P.volume.sourcePVC.key = none
  consistent : P.Consistent (boundStatus active (some time))
  source_pinned : source.Pinned P.sessionID
  destination_pinned : destination.Pinned P.sessionID
  source_ref : source.claimRef = some P.volume.sourcePVC ∨ P.ReservedBack source
  destination_ref : destination.claimRef = some active.ref

theorem Removed.state (h : P.Removed w source destination active time) :
    P.Restoring w source destination (boundStatus active (some time)) :=
  .removed time h.gone h.consistent h.source_pinned h.destination_pinned h.source_ref
    h.destination_ref

theorem At.reserve (hat : P.At slot base w source destination status)
    (h : source.Reserving source' P.volume.sourcePVC.ns P.volume.sourcePVC.name)
    (hpinned : source.Pinned P.sessionID) :
    P.At slot base (w.setVolume P.volume.sourcePV.name (some source')) source' destination status :=
  ⟨hat.storage.setSource h.name h.uid h.deletionTimestamp h.capacity (h.pinned hpinned).ours,
    hat.record, hat.elsewhere.setVolume (.inl rfl)⟩

theorem Removed.reserve (hremoved : P.Removed w source destination active time)
    (h : source.Reserving source' P.volume.sourcePVC.ns P.volume.sourcePVC.name) :
    P.Removed (w.setVolume P.volume.sourcePV.name (some source')) source' destination active time :=
  { hremoved with
    source_pinned := h.pinned hremoved.source_pinned
    source_ref := by
      rcases h.claimRef with hsame | hreserved
      · exact hremoved.source_ref.imp hsame.trans hsame.trans
      · exact .inr hreserved }

/-- From the reservation on: create the source claim and record the rollback. -/
theorem runs_recreate (hat : P.At slot base w source destination (boundStatus active (some time)))
    (hremoved : P.Removed w source destination active time) (hreserved : P.ReservedBack source) :
    Runs (P.Crash slot base) (P.Done slot base)
      (createBoundPVC P.sessionID P.restored >>= fun recreated =>
        completeRollback P.sessionID P.volume (boundStatus active (some time)) recreated
          (saveSlot slot base)) w := by
  have hvolumeName : P.restored.spec.volumeName = P.volume.sourcePV.name :=
    P.restored_manifest.2.2.1
  have hclaim : w.claims (P.restored.ns, P.restored.name) = none := by
    rw [P.restored_key]
    exact hremoved.gone
  have hpv : w.volumes P.restored.spec.volumeName = some source := by
    rw [hvolumeName]
    exact hat.storage.sourceHeld.volume
  have href : source.claimRef = some ⟨P.restored.ns, P.restored.name, none⟩ := by
    rw [P.restored_manifest.1, P.restored_manifest.2.1]
    exact hreserved
  have hbound : w.addBound P.restored source =
      ((w.addClaim P.restored).setClaim P.volume.sourcePVC.key
        (some (P.restored.created w.nextUID).bind)).setVolume P.volume.sourcePV.name
          (some (source.bind (P.restored.created w.nextUID))) := by
    rw [World.addBound, P.restored_key, hvolumeName]
  have hat' : P.At slot base (w.addBound P.restored source)
      (source.bind (P.restored.created w.nextUID)) destination
        (boundStatus active (some time)) := by
    have hclaimed : P.Storage ((w.addClaim P.restored).setClaim P.volume.sourcePVC.key
        (some (P.restored.created w.nextUID).bind)) source destination :=
      hat.storage.congr rfl rfl rfl
    have hset : P.Elsewhere base (w.setClaim (P.restored.ns, P.restored.name)
        (some (P.restored.created w.nextUID))) := hat.elsewhere.setClaim
          (.inr (.inl P.restored_key))
    have hadd : P.Elsewhere base (w.addClaim P.restored) := { hset with }
    rw [hbound]
    exact ⟨hclaimed.setSource rfl rfl rfl rfl hat.storage.sourceHeld.ours, hat.record,
      (hadd.setClaim (.inr (.inl rfl))).setVolume (.inl rfl)⟩
  have hhome := home_addBound hat.storage
  rw [runs_bind_of_spec (runs_createBoundPVC hclaim P.restored_manifest.2.2.2 hpv href)]
  refine ⟨⟨fun _ => ?_, fun h => absurd h (not_calm_addClaim _), fun _ => ?_⟩, ?_⟩
  · exact hat.underway hremoved.state
  · exact hat'.underway (.home hhome hremoved.consistent)
  · exact runs_home hat' hhome hremoved.consistent

variable {C : World ρ → Prop}

theorem runs_pinVolumes (hstorage : P.Storage w source destination) {f : Unit → Switch ρ Unit} :
    Runs C Q (ensureRetain P.volume.sourcePV P.sessionID "source" >>= fun _ =>
        ensureRetain P.volume.destinationPV P.sessionID "destination" >>= f) w ↔
      (C w ∧ C (P.pinSource w source) ∧ C (P.pinDestination (P.pinSource w source) destination)) ∧
        Runs C Q (f ()) (P.pinDestination (P.pinSource w source) destination) := by
  rw [runs_bind_of_spec (runs_ensureRetain hstorage.sourceHeld P.complete.2.1 P.session_ne
      (by decide)),
    runs_bind_of_spec (runs_ensureRetain hstorage.pinSource.destinationHeld
      P.complete.2.2.2 P.session_ne (by decide))]
  constructor
  · rintro ⟨⟨hw, hs⟩, ⟨-, hp⟩, hrest⟩
    exact ⟨⟨hw, hs, hp⟩, hrest⟩
  · rintro ⟨⟨hw, hs, hp⟩, hrest⟩
    exact ⟨⟨hw, hs⟩, ⟨hs, hp⟩, hrest⟩

theorem runs_restoreSource
    (hat : P.At slot base w source destination (boundStatus active (some time)))
    (hremoved : P.Removed w source destination active time) :
    Runs (P.Crash slot base) (P.Done slot base)
      (restoreSource P.sessionID P.volume P.restored (boundStatus active (some time))
        (saveSlot slot base)) w := by
  have hsource := pinnedFrom_retained source P.sessionID "source"
  have hdestination := pinnedFrom_retained destination P.sessionID "destination"
  have hat1 := hat.carrySource hsource.carries
  have hat2 := hat1.carryDestination hdestination.carries
  have hremoved1 : P.Removed (P.pinSource w source) (source.retained P.sessionID "source")
      destination active time :=
    { hremoved with
      source_pinned := hsource.pinned
      source_ref := hremoved.source_ref.imp hsource.claimRef.trans hsource.claimRef.trans }
  have hremoved2 : P.Removed (P.pinDestination (P.pinSource w source) destination)
      (source.retained P.sessionID "source") (destination.retained P.sessionID "destination")
      active time :=
    { hremoved1 with
      destination_pinned := hdestination.pinned
      destination_ref := hdestination.claimRef.trans hremoved.destination_ref }
  rw [restoreSource, runs_pinVolumes hat.storage]
  refine ⟨⟨fun _ => ?_, fun _ => ?_, fun _ => hat2.underway hremoved2.state⟩, ?_⟩
  · exact hat.underway hremoved.state
  · exact hat1.underway hremoved1.state
  -- the dry run, and the reservation of the source volume
  have hclaim : (P.pinDestination (P.pinSource w source) destination).claims
      (P.restored.ns, P.restored.name) = none := by
    rw [P.restored_key]
    exact hremoved.gone
  rw [runs_bind_of_spec (runs_validateBoundPVC hclaim)]
  refine ⟨fun _ => hat2.underway hremoved2.state, wp_bind.mpr ?_⟩
  have href : (source.retained P.sessionID "source").claimRef =
      some ⟨P.volume.sourcePVC.ns, P.volume.sourcePVC.name, none⟩ ∨
      ∃ r : ObjectReference, (source.retained P.sessionID "source").claimRef = some r ∧
        r.uid ≠ none ∧ (w.claims r.key).any (fun pvc => pvc.uid = r.uid) = false := by
    rcases hremoved1.source_ref with href | hreserved
    · exact .inr ⟨_, href, P.complete.1.2.2, by rw [hremoved.gone]; rfl⟩
    · exact .inl hreserved
  refine runs_reservePV hat2.storage.sourceHeld hremoved.gone P.complete.2.1 P.complete.1.1
    P.complete.1.2.1 P.session_ne hsource.pinned.1 href (fun source' h _ => ?_)
    (fun source' h hreserved => ?_)
  · exact (hat2.reserve h hsource.pinned).underway (hremoved2.reserve h).state
  · exact runs_recreate (hat2.reserve h hsource.pinned) (hremoved2.reserve h) hreserved

theorem accepts_validateRollbackPVC (P : Rollback) :
    Accepts (validateRollbackPVC P.sessionID P.volume P.restored) w := by
  have hrestorable : P.volume.Restorable := ⟨P.complete.1, P.complete.2.1, P.complete.2.2.2⟩
  have hpositive := P.restored_positive
  simp only [validateRollbackPVC, accepts_reject_bind, accepts_reject, P.session_ne, hrestorable,
    P.restored_manifest, not_true_eq_false, not_false_eq_true, true_and]
  omega

theorem readOnly_validateRollbackPVC {sessionID : String} {volume : PVCTransferBindings}
    {desired : PVC} :
    ReadOnly (validateRollbackPVC sessionID volume desired : Switch ρ Unit) :=
  only_reject_bind <| only_reject_bind <| only_reject_bind <|
    only_reject

/-- The part of a run after the removal of a claim in another namespace. -/
abbrev fromSource (P : Rollback) (slot : Slot ρ) (base : World ρ) (status : ActivationStatus) :
    Switch ρ Unit := do
  ensureNoConsumers P.volume.sourcePVC.ns P.volume.sourcePVC.name
  match ← Api.getPVC P.volume.sourcePVC.ns P.volume.sourcePVC.name with
  | none => restoreSource P.sessionID P.volume P.restored status (saveSlot slot base)
  | some current =>
    if current.spec.volumeName = P.volume.sourcePV.name then do
      reject (current.uid ≠ P.volume.sourcePVC.uid ∧
          current.annotations.get sessionKey ≠ P.sessionID)
        (newError .conflict "rollback volume"
          s!"PVC {current.ns}/{current.name} is not the original or session-owned source PVC")
      completeRollback P.sessionID P.volume status current (saveSlot slot base)
    else do
      removeActiveDestination P.sessionID P.volume current
      restoreSource P.sessionID P.volume P.restored status (saveSlot slot base)

/-- A run starts with the persisted checkpoint and passes the checks on its arguments. -/
theorem runs_rollback_iff (hrecord : w.record = slot.set base.record status)
    (howns : slot.owns base.record) (hopen : status.rolledBackAt = none) :
    Runs C Q (P.rollback slot) w ↔
      Runs C Q (removeForeignDestination P.sessionID P.activateNamespace P.volume >>= fun _ =>
        P.fromSource slot base status) w := by
  have hget : slot.get w.record = status := by rw [hrecord, slot.get_set _ _ howns]
  have hsave : (fun status => Api.save (slot.set w.record status)) = saveSlot slot base := by
    funext status
    rw [hrecord, slot.set_set]
  rewrite [rollback, runs_load, hget, hsave, if_neg (by simp [hopen]), rollbackPVC,
    runs_bind_of_accepts readOnly_validateRollbackPVC P.accepts_validateRollbackPVC]
  exact Iff.rfl

theorem runs_fromSource_home (hstorage : P.Storage w source destination)
    (hhome : P.Home w pvc source) :
    Runs C Q (P.fromSource slot base status) w ↔
      Runs C Q (completeRollback P.sessionID P.volume status pvc (saveSlot slot base)) w := by
  have hclaim : w.claims (P.volume.sourcePVC.ns, P.volume.sourcePVC.name) = some pvc := hhome.claim
  have howned : ¬ (pvc.uid ≠ P.volume.sourcePVC.uid ∧
      pvc.annotations.get sessionKey ≠ P.sessionID) := by
    rintro ⟨huid, hsession⟩
    exact hhome.owned.elim huid hsession
  rw [fromSource, runs_bind_of_accepts readOnly_ensureNoConsumers
    (accepts_ensureNoConsumers.mpr hstorage.quiet.source), runs_getPVC, hclaim]
  simp only [hhome.volumeName, if_true]
  rw [runs_reject, if_neg howned]

/-- No claim is there: the run goes on to restore the source claim. -/
theorem runs_fromSource_gone (hstorage : P.Storage w source destination)
    (hgone : w.claims P.volume.sourcePVC.key = none) :
    Runs C Q (P.fromSource slot base status) w ↔
      Runs C Q (restoreSource P.sessionID P.volume P.restored status (saveSlot slot base)) w := by
  have hclaim : w.claims (P.volume.sourcePVC.ns, P.volume.sourcePVC.name) = none := hgone
  rw [fromSource, runs_bind_of_accepts readOnly_ensureNoConsumers
    (accepts_ensureNoConsumers.mpr hstorage.quiet.source), runs_getPVC, hclaim]

theorem not_calm_terminating {key : String × String} {clock : String} :
    ¬ (w.setClaim key (some (pvc.terminating clock))).Calm := by
  intro h
  have halive := (h _ _ w.claims_setClaim_self).2
  simp [PVC.terminating] at halive

theorem claimed_of_activated (h : P.Activated w active destination) :
    Claimed w P.sessionID active.ref P.volume.destinationPV active destination where
  claim := by
    rw [show active.ref.key = P.target from Prod.ext h.ns h.name]
    exact h.claim
  identity := rfl
  finalizers := h.finalizers
  annotated := fun hforeign => hforeign.2.2 h.owned.2.2
  labelled := fun hforeign => hforeign.2.2 h.owned.2.1
  phase := h.phase
  volumeName := h.volumeName
  claimRef := h.claimRef
  fits := h.fits

theorem complete_of_activated (h : P.Activated w active destination) :
    active.ref.ClaimComplete :=
  ⟨fun hns => P.namespace_ne (h.ns.symm.trans hns),
    fun hname => P.complete.1.2.1 (h.name.symm.trans hname), h.uid⟩

theorem unused_of_activated (hvolumes : P.Volumes w source destination)
    (h : P.Activated w active destination) : w.NoConsumers active.ns active.name := by
  rw [h.ns, h.name]
  exact hvolumes.quiet.target

theorem consistent_of_activated
    (h : P.Activated w active destination) : P.Consistent (boundStatus active (some time)) where
  activePVC := by
    rintro ref ⟨⟩
    exact ⟨h.name, h.ns, h.uid⟩
  activatedAt := by simp [boundStatus]
  rolledBackAt := rfl

section

variable (hsame : P.activateNamespace = P.volume.sourcePVC.ns)
include hsame

/-- A run that finds the activated claim in place removes it and restores the source claim. -/
theorem runs_fromSource_active
    (hat : P.At slot base w source destination (boundStatus active (some time)))
    (hactive : P.Activated w active destination) (hspin : source.Pinned P.sessionID)
    (hdpin : destination.Pinned P.sessionID) (hsref : source.claimRef = some P.volume.sourcePVC) :
    Runs (P.Crash slot base) (P.Done slot base)
      (P.fromSource slot base (boundStatus active (some time))) w := by
  have hstorage := hat.storage
  have htarget : P.target = P.volume.sourcePVC.key := by rw [Cutover.target, hsame]; rfl
  have hkey : active.ref.key = P.volume.sourcePVC.key :=
    (Prod.ext hactive.ns hactive.name : active.ref.key = P.target).trans htarget
  have hclaim : w.claims (P.volume.sourcePVC.ns, P.volume.sourcePVC.name) = some active := by
    rw [key_ns_name, ← htarget]
    exact hactive.claim
  have hother : ¬ active.spec.volumeName = P.volume.sourcePV.name := fun h =>
    P.volumes_ne (h.symm.trans hactive.volumeName)
  rw [fromSource, runs_bind_of_accepts readOnly_ensureNoConsumers
    (accepts_ensureNoConsumers.mpr hstorage.quiet.source), runs_getPVC, hclaim]
  simp only [hother, if_false]
  rw [runs_bind_of_spec (runs_removeActiveDestination hstorage.toVolumes
    (claimed_of_activated hactive) hactive.owned.2.2 (complete_of_activated hactive)
    (unused_of_activated hstorage.toVolumes hactive))]
  have hdestination := pinnedFrom_retained destination P.sessionID "destination"
  have hat1 := hat.carryDestination hdestination.carries
  have hat2 : P.At slot base ((P.pinDestination w destination).setClaim active.ref.key none) source
      (destination.retained P.sessionID "destination") (boundStatus active (some time)) :=
    ⟨hat1.storage.congr rfl rfl rfl, hat.record, hat1.elsewhere.setClaim (.inr (.inl hkey))⟩
  have hremoved : P.Removed ((P.pinDestination w destination).setClaim active.ref.key none) source
      (destination.retained P.sessionID "destination") active time :=
    { gone := by
        rw [hkey]
        exact World.claims_setClaim_self _
      consistent := consistent_of_activated hactive
      source_pinned := hspin
      destination_pinned := hdestination.pinned
      source_ref := .inl hsref
      destination_ref := hdestination.claimRef.trans hactive.claimRef }
  refine ⟨⟨⟨fun _ => ?_, fun _ => ?_⟩, fun _ h => absurd h not_calm_terminating, fun _ => ?_⟩, ?_⟩
  · exact hat.underway (.active time hactive hspin hdpin hsref)
  · exact hat1.underway (.active time (hactive.congr rfl hdestination.carries) hspin
      hdestination.pinned hsref)
  · exact hat2.underway hremoved.state
  · exact runs_restoreSource hat2 hremoved

/-- **One run from a world left behind**, if the volume stays in its namespace: every stop with
all claims bound is again such a world, and a run that is not stopped ends with the rollback
recorded. -/
theorem runs_rollback (hunderway : P.Underway slot base w) (howns : slot.owns base.record) :
    Runs (P.Crash slot base) (P.Done slot base) (P.rollback slot) w := by
  have hself := hunderway
  obtain ⟨⟨source, destination, status, hstorage, hstate, hrecord⟩, helse⟩ := hunderway
  have hlocal {C : World ρ → Prop} {Q : Except Failure Unit → World ρ → Prop} :
      Runs C Q (removeForeignDestination P.sessionID P.activateNamespace P.volume >>= fun _ =>
        P.fromSource slot base status) w ↔ Runs C Q (P.fromSource slot base status) w := by
    rw [removeForeignDestination, if_pos hsame]
    exact Iff.rfl
  cases hstate with
  | active time activated spin dpin sref =>
    rw [runs_rollback_iff hrecord howns rfl, hlocal]
    exact runs_fromSource_active hsame ⟨hstorage, hrecord, helse⟩ activated spin dpin sref
  | removed time gone consistent spin dpin sref dref =>
    rw [runs_rollback_iff hrecord howns rfl, hlocal, runs_fromSource_gone hstorage gone]
    exact runs_restoreSource ⟨hstorage, hrecord, helse⟩ ⟨gone, consistent, spin, dpin, sref, dref⟩
  | home present consistent =>
    rw [runs_rollback_iff hrecord howns consistent.rolledBackAt, hlocal,
      runs_fromSource_home hstorage present]
    exact runs_home ⟨hstorage, hrecord, helse⟩ present consistent
  | @saved pvc status time present consistent spin dpin srole drole =>
    have hget : (slot.get w.record).rolledBackAt ≠ none := by
      rw [hrecord, slot.get_set _ _ howns]
      simp [ActivationStatus.rolledBack]
    rw [rollback, runs_load, if_pos hget]
    exact ⟨fun _ => hself, rfl, ⟨source, destination, pvc, status, time, hstorage, present, hrecord,
      spin.1, dpin.1, srole, drole⟩, hself⟩

/-- **Convergence.**  After any number of interrupted runs, each restarted once all claims are
bound, the next run that is not interrupted succeeds and leaves the rollback recorded. -/
theorem converges
    (howns : slot.owns base.record) {w' : World ρ} (hunderway : P.Underway slot base w)
    (hreruns : Reruns exec (P.rollback slot) w World.Calm w') :
    P.Underway slot base w' ∧ (run exec (P.rollback slot) w').1 = .ok () ∧
      P.Final slot base (run exec (P.rollback slot) w').2 := by
  have h := recovers (fun t ht => runs_rollback hsame ht howns) hunderway hreruns
  exact ⟨h.1, h.2.1, h.2.2.1⟩

end

end Run

/-! ## The stops of the other starts -/

section Stops

variable {P} {slot : Slot ρ} {base w : World ρ} {source destination : PV}
  {status : ActivationStatus}

/-- The source volume is reserved for the source claim, which is not there; the checkpoint is that
of the start. -/
structure ReservedStop (P : Rollback) (w u : World ρ) (source : PV) : Prop where
  volume : u.volumes P.volume.sourcePV.name = some source
  reserved : P.ReservedBack source
  gone : u.claims P.volume.sourcePVC.key = none
  record : u.record = w.record
  calm : w.Calm → u.Calm

/-- The rollback is recorded, with a claim of the source namespace. -/
structure RecordedStop (P : Rollback) (slot : Slot ρ) (base w u : World ρ)
    (status : ActivationStatus) (pvc : PVC) (time : Time) : Prop where
  record : u.record = slot.set base.record (status.rolledBack pvc time)
  ns : pvc.ns = P.volume.sourcePVC.ns
  calm : w.Calm → u.Calm

variable {Q : Except Failure Unit → World ρ → Prop} {C : World ρ → Prop}

/-- A run that restores the source claim passes the reservation of the source volume. -/
theorem reserved_of_restoreSource (hstorage : P.Storage w source destination)
    (hgone : w.claims P.volume.sourcePVC.key = none)
    (hsref : source.claimRef = some P.volume.sourcePVC)
    (h : Runs C Q (restoreSource P.sessionID P.volume P.restored status (saveSlot slot base)) w) :
    ∃ u source', C u ∧ P.ReservedStop w u source' := by
  have hsource := pinnedFrom_retained source P.sessionID "source"
  have hpinned := hstorage.pinSource.pinDestination
  have hclaim : (P.pinDestination (P.pinSource w source) destination).claims
      (P.restored.ns, P.restored.name) = none := by rwa [P.restored_key]
  have hgone' : ((P.pinDestination (P.pinSource w source) destination).claims
      (P.volume.sourcePVC.ns, P.volume.sourcePVC.name)).any
      (fun pvc => pvc.uid = P.volume.sourcePVC.uid) = false := by
    rw [key_ns_name, show (P.pinDestination (P.pinSource w source) destination).claims
      P.volume.sourcePVC.key = none from hgone]
    rfl
  rw [restoreSource, runs_pinVolumes hstorage,
    runs_bind_of_spec (runs_validateBoundPVC hclaim)] at h
  have hreserved := ((runs_bind_of_spec (runs_reservePV_released hpinned.sourceHeld hgone
    P.complete.2.1 P.complete.1.1 P.complete.1.2.1 P.session_ne hsource.pinned.1
    (hsource.claimRef.trans hsref) P.complete.1.2.2 hgone')).mp h.2.2).1.2.2
  exact ⟨_, _, hreserved, World.volumes_setVolume_self _, rfl, hgone, rfl, id⟩

/-- If no claim is in the place of the activated claim in another namespace, a run has nothing to
remove there. -/
theorem runs_removeForeign_free
    (hfree : P.activateNamespace = P.volume.sourcePVC.ns ∨ w.claims P.target = none)
    {f : Unit → Switch ρ Unit} :
    Runs C Q (removeForeignDestination P.sessionID P.activateNamespace P.volume >>= f) w ↔
      Runs C Q (f ()) w := by
  by_cases hsame : P.activateNamespace = P.volume.sourcePVC.ns
  · rw [removeForeignDestination, if_pos hsame]
    exact Iff.rfl
  · have hclaim : w.claims (P.activateNamespace, P.volume.sourcePVC.name) = none :=
      hfree.resolve_left hsame
    rw [removeForeignDestination, if_neg hsame]
    refine wp_bind.trans ?_
    change Runs C _ _ w ↔ _
    rw [runs_getPVC, hclaim]
    exact ⟨fun h => h.2, fun h => ⟨wp_crash h, h⟩⟩

/-- A claim of the session in the place of the activated claim, in another namespace, is removed
first. -/
theorem runs_removeForeign_present {current : PVC}
    (hother : P.activateNamespace ≠ P.volume.sourcePVC.ns)
    (hvolumes : P.Volumes w source destination)
    (hclaimed : Claimed w P.sessionID current.ref P.volume.destinationPV current destination)
    (hplace : current.ref.key = P.target)
    (hannotated : current.annotations.get sessionKey = P.sessionID)
    (hcomplete : current.ref.ClaimComplete) {f : Unit → Switch ρ Unit}
    (h : Runs C Q (removeForeignDestination P.sessionID P.activateNamespace P.volume >>= f) w) :
    Runs C Q (f ()) ((P.pinDestination w destination).setClaim current.ref.key none) := by
  have hclaim : w.claims (P.activateNamespace, P.volume.sourcePVC.name) = some current := by
    rw [show (P.activateNamespace, P.volume.sourcePVC.name) = current.ref.key from hplace.symm]
    exact hclaimed.claim
  have hunused : w.NoConsumers current.ns current.name := by
    have hns : current.ns = P.activateNamespace := congrArg Prod.fst hplace
    have hname : current.name = P.volume.sourcePVC.name := congrArg Prod.snd hplace
    rw [hns, hname]
    exact hvolumes.quiet.target
  rw [removeForeignDestination, if_neg hother] at h
  have hbind := wp_bind.mp h
  change Runs C _ _ w at hbind
  rw [runs_getPVC, hclaim] at hbind
  exact ((runs_removeActiveDestination hvolumes hclaimed hannotated hcomplete hunused _).mp
    hbind).2

variable (hstorage : P.Storage w source destination)
  (hrecord : w.record = slot.set base.record status) (howns : slot.owns base.record)
  (hopen : status.rolledBackAt = none)
include hstorage hrecord howns hopen

/-- Both claims are gone: the run stops with the source volume reserved. -/
theorem exists_reservedStop_gone (hgone : w.claims P.volume.sourcePVC.key = none)
    (hfree : P.activateNamespace = P.volume.sourcePVC.ns ∨ w.claims P.target = none)
    (hsref : source.claimRef = some P.volume.sourcePVC) :
    ∃ u ∈ stops exec (P.rollback slot) w, ∃ source', P.ReservedStop w u source' := by
  refine exists_mem_stops fun C hruns => ?_
  change Runs C _ _ w at hruns
  rw [runs_rollback_iff hrecord howns hopen, runs_removeForeign_free hfree,
    runs_fromSource_gone hstorage hgone] at hruns
  obtain ⟨u, source', hC, hstop⟩ := reserved_of_restoreSource hstorage hgone hsref hruns
  exact ⟨u, hC, source', hstop⟩

/-- The activated claim is in another namespace: the run removes it there and stops with the source
volume reserved. -/
theorem exists_reservedStop_active {active : PVC}
    (hother : P.activateNamespace ≠ P.volume.sourcePVC.ns)
    (hactive : P.Activated w active destination) (hgone : w.claims P.volume.sourcePVC.key = none)
    (hsref : source.claimRef = some P.volume.sourcePVC) :
    ∃ u ∈ stops exec (P.rollback slot) w, ∃ source', P.ReservedStop w u source' := by
  refine exists_mem_stops fun C hruns => ?_
  change Runs C _ _ w at hruns
  rw [runs_rollback_iff hrecord howns hopen] at hruns
  have hplace : active.ref.key = P.target := Prod.ext hactive.ns hactive.name
  have hrest := runs_removeForeign_present hother hstorage.toVolumes
    (claimed_of_activated hactive) hplace hactive.owned.2.2 (complete_of_activated hactive) hruns
  have hne : P.volume.sourcePVC.key ≠ active.ref.key := by
    rw [hplace]
    exact fun h => hother (congrArg Prod.fst h).symm
  have hstorage' : P.Storage ((P.pinDestination w destination).setClaim active.ref.key none) source
      (destination.retained P.sessionID "destination") :=
    hstorage.pinDestination.congr rfl rfl rfl
  have hgone' : ((P.pinDestination w destination).setClaim active.ref.key none).claims
      P.volume.sourcePVC.key = none := by
    rw [World.claims_setClaim_of_ne _ hne]
    exact hgone
  rw [runs_fromSource_gone hstorage' hgone'] at hrest
  obtain ⟨u, source', hC, hstop⟩ := reserved_of_restoreSource hstorage' hgone' hsref hrest
  exact ⟨u, hC, source', hstop.volume, hstop.reserved, hstop.gone, hstop.record,
    fun hcalm => hstop.calm (World.Calm.setClaim_none hcalm)⟩

/-- The source claim is there: the run records the rollback with it. -/
theorem exists_recordedStop_home {original : PVC}
    (hfree : P.activateNamespace = P.volume.sourcePVC.ns ∨ w.claims P.target = none)
    (hclaimed : Claimed w P.sessionID P.volume.sourcePVC P.volume.sourcePV original source) :
    ∃ u ∈ stops exec (P.rollback slot) w, ∃ pvc time,
      P.RecordedStop slot base w u status pvc time := by
  refine exists_mem_stops fun C hruns => ?_
  change Runs C _ _ w at hruns
  have hhome := home_of_claimed hclaimed
  rw [runs_rollback_iff hrecord howns hopen, runs_removeForeign_free hfree,
    runs_fromSource_home hstorage hhome, runs_completeRollback hstorage hhome] at hruns
  exact ⟨_, hruns.1.2, original, w.time, rfl, hhome.ns, id⟩

/-- The temporary claim is in the place of the activated claim: the run removes it, and records the
rollback with the source claim. -/
theorem exists_recordedStop_alias {temporary original : PVC}
    (halias : P.target = P.volume.destinationPVC.key)
    (htemporary : Claimed w P.sessionID P.volume.destinationPVC P.volume.destinationPV temporary
      destination)
    (hannotated : temporary.annotations.get sessionKey = P.sessionID)
    (hclaimed : Claimed w P.sessionID P.volume.sourcePVC P.volume.sourcePV original source) :
    ∃ u ∈ stops exec (P.rollback slot) w, ∃ pvc time,
      P.RecordedStop slot base w u status pvc time := by
  refine exists_mem_stops fun C hruns => ?_
  change Runs C _ _ w at hruns
  have hne : P.volume.sourcePVC.key ≠ P.target := by
    rw [halias]
    exact P.claims_ne.symm
  have hother : P.activateNamespace ≠ P.volume.sourcePVC.ns := fun hsame => hne (by
    rw [Cutover.target, hsame]
    rfl)
  have href : temporary.ref = P.volume.destinationPVC := htemporary.identity
  have hplace : temporary.ref.key = P.target := by rw [href, halias]
  have htemporary' : Claimed w P.sessionID temporary.ref P.volume.destinationPV temporary
      destination := by
    rw [href]
    exact htemporary
  rw [runs_rollback_iff hrecord howns hopen] at hruns
  have hrest := runs_removeForeign_present hother hstorage.toVolumes htemporary' hplace hannotated
    (href ▸ P.complete.2.2.1) hruns
  have hstorage' : P.Storage ((P.pinDestination w destination).setClaim temporary.ref.key none)
      source (destination.retained P.sessionID "destination") :=
    hstorage.pinDestination.congr rfl rfl rfl
  have hhome : P.Home ((P.pinDestination w destination).setClaim temporary.ref.key none) original
      source := by
    refine (home_of_claimed hclaimed).congr ?_ (.refl source _)
    rw [World.claims_setClaim_of_ne _ (by rwa [hplace])]
    rfl
  rw [runs_fromSource_home hstorage' hhome, runs_completeRollback hstorage' hhome] at hrest
  refine ⟨_, hrest.1.2, original, w.time, ?_, ?_, ?_⟩
  · rfl
  · exact hhome.ns
  · intro hcalm key pvc hclaim
    have hpinned : (P.pinDestination w destination).Calm := hcalm
    exact hpinned.setClaim_none key pvc hclaim

end Stops

/-! ## Where a rollback starts -/

section Start

variable {P} {slot : Slot ρ} {base w : World ρ} {source destination : PV}
  {status : ActivationStatus}

/-- Where a rollback can start: in any stage of the activation, or with the temporary claim of the
session in the place of the activated claim. -/
inductive Start (P : Rollback) (w : World ρ) (source destination : PV)
    (status : ActivationStatus) : Prop
  | stage (stage : Cutover.Stage P.toCutover w source destination status)
  | aliased {temporary original : PVC} (place : P.target = P.volume.destinationPVC.key)
      (temporary_claimed : Claimed w P.sessionID P.volume.destinationPVC P.volume.destinationPV
        temporary destination)
      (annotated : temporary.annotations.get sessionKey = P.sessionID)
      (source_claimed : Claimed w P.sessionID P.volume.sourcePVC P.volume.sourcePV original source)
      (consistent : P.Consistent status)

/-- The source claim is still there, or the activated claim is recorded. -/
def Restartable (P : Rollback) (w : World ρ) (status : ActivationStatus) : Prop :=
  (∃ pvc, w.claims P.volume.sourcePVC.key = some pvc ∧
    pvc.spec.volumeName = P.volume.sourcePV.name) ∨ status.activePVC ≠ none

theorem consistent_of_stage (h : Cutover.Stage P.toCutover w source destination status) :
    P.Consistent status := by
  cases h with
  | staged temporary original free | temporaryGone saved gone original free spin dpin href
  | claimsGone saved reserved tgone sgone free spin dpin sref dref hreserved =>
    exact ⟨by simp, by simp, rfl⟩
  | @bound active recorded tgone sgone activated spin dpin sref =>
    cases recorded with
    | none => exact ⟨by simp [boundStatus], by simp [boundStatus], rfl⟩
    | some time => exact consistent_of_activated activated

theorem Start.consistent (h : P.Start w source destination status) : P.Consistent status := by
  cases h with
  | stage stage => exact consistent_of_stage stage
  | aliased place temporary annotated original consistent => exact consistent

/-- The start is one of the states of a rollback, if the volume stays in its namespace and the
source claim is there or the activated claim recorded. -/
theorem Start.restoring (hsame : P.activateNamespace = P.volume.sourcePVC.ns)
    (hrestartable : P.Restartable w status) (h : P.Start w source destination status) :
    P.Restoring w source destination status := by
  have htarget : P.target = P.volume.sourcePVC.key := by rw [Cutover.target, hsame]; rfl
  have hconsistent := h.consistent
  cases h with
  | aliased place temporary annotated original consistent =>
    exact absurd (place.symm.trans htarget) P.claims_ne
  | stage stage =>
    cases stage with
    | staged temporary original free => exact .home (home_of_claimed original) hconsistent
    | temporaryGone saved gone original free spin dpin href =>
      exact .home (home_of_claimed original) hconsistent
    | claimsGone saved reserved tgone sgone free spin dpin sref dref hreserved =>
      rcases hrestartable with ⟨pvc, hclaim, -⟩ | hrecorded
      · exact absurd (hclaim.symm.trans sgone) (Option.some_ne_none pvc)
      · exact absurd rfl hrecorded
    | @bound active recorded tgone sgone activated spin dpin sref =>
      cases recorded with
      | some time => exact .active time activated spin dpin sref
      | none =>
        rcases hrestartable with ⟨pvc, hclaim, hvolume⟩ | hrecorded
        · rw [← htarget, activated.claim] at hclaim
          obtain rfl := Option.some.inj hclaim
          exact absurd (hvolume.symm.trans activated.volumeName) P.volumes_ne
        · exact absurd rfl hrecorded

end Start

end Rollback

end PvcMigrate.Kube
