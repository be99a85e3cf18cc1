import PvcMigrate.App.MigrationObject
import PvcMigrate.Kube.ActivationRecovery

/-!
# The volumes of a migration during its cutover

While a migration activates its volumes or rolls them back, it handles one volume after the other
and persists the checkpoint of that volume only.  This module relates the persisted object to the
checkpoint of the volume in hand.
-/

namespace PvcMigrate

open Kube Prog

variable {ρ : Type}

def ClusterMigration.checkpoint (object : ClusterMigration) (volume : VolumeSpec) :
    ClusterMigrationVolumeStatus :=
  (checkpointOf object.volumes volume.sourcePVC.name).getD ⟨⟨volume.sourcePVC.name, none, none,
    none, false⟩, {}, {}⟩

/-- `plannedMigrationBindings`; a reserved volume has both references. -/
def plannedMigrationBindings (sourceNamespace : String) (volume : VolumeSpec)
    (checkpoint : ClusterVolumeReservationStatus) : PVCTransferBindings where
  sourcePVC := qualifiedResourceReference volume.sourcePVC sourceNamespace
  sourcePV := qualifiedResourceReference volume.sourcePV ""
  destinationPVC := checkpoint.destinationPVC.getD {}
  destinationPV := checkpoint.destinationPV.getD {}

def ClusterMigration.bindings (object : ClusterMigration) (plan : ClusterMigrationPlan)
    (volume : VolumeSpec) : PVCTransferBindings :=
  plannedMigrationBindings plan.sourceNamespace volume (object.checkpoint volume).reservation

/-- The activation checkpoint of a source claim, in the record of a migration. -/
def activationSlot (sourcePVCName : String) : Slot ClusterMigration where
  get object := ((checkpointOf object.volumes sourcePVCName).map
    ClusterMigrationVolumeStatus.activation).getD {}
  set object activation :=
    { object with
      volumes := amendCheckpoint object.volumes sourcePVCName fun status =>
        status.withActivation activation }
  owns object := (checkpointOf object.volumes sourcePVCName).isSome
  get_set object activation howns := by
    obtain ⟨status, hstatus⟩ := Option.isSome_iff_exists.mp howns
    simp only
    rw [checkpointOf_withActivation, hstatus]
    simp [ClusterMigrationVolumeStatus.withActivation]
  set_set object activation activation' := by
    simp only [amendCheckpoint, List.map_map]
    congr 1
    refine List.map_congr_left fun status _ => ?_
    by_cases hname : status.reservation.sourcePVCName = sourcePVCName <;>
      simp [hname, ClusterMigrationVolumeStatus.withActivation]

/-- The transfer shares no claim, no volume and no place with the cutover. -/
structure Kube.Cutover.Apart (P : Cutover) (binding : PVCTransferBindings) : Prop where
  claims : ∀ key ∈ [binding.sourcePVC.key, binding.destinationPVC.key,
      (P.activateNamespace, binding.sourcePVC.name)],
    key ≠ P.volume.destinationPVC.key ∧ key ≠ P.volume.sourcePVC.key ∧ key ≠ P.target
  volumes : ∀ name ∈ [binding.sourcePV.name, binding.destinationPV.name],
    name ≠ P.volume.sourcePV.name ∧ name ≠ P.volume.destinationPV.name

theorem Kube.Cutover.Apart.samePlaces {P : Cutover} {binding : PVCTransferBindings}
    {base w : World ρ} (h : P.Apart binding) (helse : P.Elsewhere base w) :
    SamePlaces base w binding (P.activateNamespace, binding.sourcePVC.name) := by
  have hclaims := h.claims
  have hvolumes := h.volumes
  simp only [List.forall_mem_cons, List.not_mem_nil, false_imp_iff, implies_true, and_true]
    at hclaims hvolumes
  obtain ⟨hs, hd, ht⟩ := hclaims
  exact ⟨helse.claims _ hs.1 hs.2.1 hs.2.2, helse.claims _ hd.1 hd.2.1 hd.2.2,
    helse.claims _ ht.1 ht.2.1 ht.2.2, helse.volumes _ hvolumes.1.1 hvolumes.1.2,
    helse.volumes _ hvolumes.2.1 hvolumes.2.2, helse.pods, helse.attachments⟩

/-- No other transfer names the temporary claim of the cutover. -/
theorem Kube.Cutover.destination_unshared {P : Cutover} {transfer : PVCTransferBindings}
    (h : transfer = P.volume ∨ P.Apart transfer) :
    transfer.sourcePVC ≠ P.volume.destinationPVC ∧
      (transfer.destinationPVC = P.volume.destinationPVC → transfer = P.volume) := by
  rcases h with rfl | hapart
  · exact ⟨fun heq => P.claims_ne (congrArg ObjectReference.key heq).symm, fun _ => rfl⟩
  · exact ⟨fun heq => (hapart.claims _ (by simp)).1 (congrArg ObjectReference.key heq),
      fun heq => absurd (congrArg ObjectReference.key heq) (hapart.claims _ (by simp)).1⟩

/-- The phases in which volumes are switched. -/
def inCutover : WorkflowPhase → Bool
  | .activating | .rollingBack => true
  | _ => false

/-- What the validators ask for in these phases. -/
structure CutoverPhase (phase : WorkflowPhase) : Prop where
  set : phase ≠ .unset
  reserved : reservationOpen phase = false
  pending : requiresActivation phase = false
  unfinished : phase ≠ .rolledBack

theorem cutoverPhase_of_inCutover {phase : WorkflowPhase} (h : inCutover phase = true) :
    CutoverPhase phase := by
  cases phase with
  | activating | rollingBack => exact ⟨by decide, rfl, rfl, by decide⟩
  | _ => cases h

/-- A validated migration in the phase `phase` of its cutover, and a volume of its plan. -/
structure InHand (kind : MigrationKind) (object : ClusterMigration) (plan : ClusterMigrationPlan)
    (volume : VolumeSpec) (phase : WorkflowPhase) : Prop where
  valid : kind.Valid object
  planned : object.plan = some plan
  /-- the references of a Migration are local -/
  home : kind = .migration → plan.Local object.ns
  member : volume ∈ plan.volumes
  phase_eq : workflowResumePhase object.status = phase
  cutover : inCutover phase = true
  named : blank object.name = false

namespace InHand

variable {kind : MigrationKind} {object : ClusterMigration} {plan : ClusterMigrationPlan}
  {volume : VolumeSpec} {phase : WorkflowPhase} {activation : ActivationStatus}

/-- The persisted object, with the checkpoint `activation` of the volume and the workflow status
`status`. -/
abbrev persisted (object : ClusterMigration) (volume : VolumeSpec) (activation : ActivationStatus)
    (status : WorkflowStatus) : ClusterMigration :=
  { (activationSlot volume.sourcePVC.name).set object activation with status := status }

section

variable (h : InHand kind object plan volume phase)
include h

theorem cover : CheckpointsCover plan object.volumes phase := by
  have hprogress := (ClusterMigration.progress_iff h.planned).mp h.valid.progress
  rw [h.phase_eq] at hprogress
  rcases hprogress.2 with hempty | hcover
  · rw [(cutoverPhase_of_inCutover h.cutover).reserved] at hempty
    cases hempty.2
  · exact hcover

theorem admitted : plan.Admitted kind object :=
  h.valid.admitted plan h.planned

theorem distinct : plan.volumes.Pairwise VolumeSpec.Distinct := h.admitted.distinct

theorem checkpointOf_volume :
    checkpointOf object.volumes volume.sourcePVC.name = some (object.checkpoint volume) := by
  obtain ⟨status, hstatus, -⟩ := h.cover.exists_checkpoint h.distinct h.member
  rw [ClusterMigration.checkpoint, hstatus]
  rfl

theorem owns {w : World ClusterMigration}
    (hrecord : w.record = object) : (activationSlot volume.sourcePVC.name).owns w.record := by
  show (checkpointOf w.record.volumes volume.sourcePVC.name).isSome
  rw [hrecord, h.checkpointOf_volume]
  rfl

end

variable {other : VolumeSpec} {status : WorkflowStatus}

theorem name_ne (h : InHand kind object plan volume phase) (hother : other ∈ plan.volumes)
    (hne : other ≠ volume) :
    other.sourcePVC.name ≠ volume.sourcePVC.name := by
  intro hname
  have hvolume := volumeNamed_of_mem h.distinct h.member
  rw [← hname, volumeNamed_of_mem h.distinct hother] at hvolume
  exact hne (Option.some.inj hvolume)

theorem checkpoint_persisted_self (h : InHand kind object plan volume phase) :
    (persisted object volume activation status).checkpoint volume =
      (object.checkpoint volume).withActivation activation := by
  show (checkpointOf (amendCheckpoint object.volumes volume.sourcePVC.name _)
    volume.sourcePVC.name).getD _ = _
  rw [checkpointOf_withActivation, h.checkpointOf_volume]
  simp

theorem checkpoint_persisted_of_ne (hname : other.sourcePVC.name ≠ volume.sourcePVC.name) :
    (persisted object volume activation status).checkpoint other = object.checkpoint other := by
  show (checkpointOf (amendCheckpoint object.volumes volume.sourcePVC.name _)
    other.sourcePVC.name).getD _ = _
  rw [checkpointOf_withActivation]
  simp only [hname, if_false, Option.map_id']
  rfl

section

variable (h : InHand kind object plan volume phase)
include h

theorem bindings_persisted (hother : other ∈ plan.volumes) :
    (persisted object volume activation status).bindings plan other =
      object.bindings plan other := by
  unfold ClusterMigration.bindings
  by_cases hsame : other = volume
  · rw [hsame, h.checkpoint_persisted_self]
    rfl
  · rw [checkpoint_persisted_of_ne (h.name_ne hother hsame)]

theorem validate_persisted_iff : kind.validate (persisted object volume activation status) =
    .ok () ↔ kind.Valid (persisted object volume activation status) := by
  refine MigrationKind.validate_eq_ok fun hkind plan' hplan' => ?_
  obtain rfl : plan = plan' := Option.some.inj (h.planned.symm.trans hplan')
  exact h.home hkind

theorem valid_persisted (hlifecycle : validateMigrationLifecycle status = .ok ())
    (hphase : workflowResumePhase status = phase)
    (hactive : ∀ ref ∈ activation.activePVC, ref.name = volume.sourcePVC.name ∧
      ref.ns = plan.destinationNamespace ∧ ref.uid ≠ none)
    (hcompleted : activation.activatedAt ≠ none ∨ activation.rolledBackAt ≠ none →
      activation.activePVC ≠ none) :
    kind.Valid (persisted object volume activation status) := by
  refine ⟨h.valid.named, h.valid.policy, ?_, hlifecycle, ?_⟩
  · intro plan' hplan'
    have hadmitted := h.valid.admitted plan' hplan'
    exact { hadmitted with }
  · have hcutover := cutoverPhase_of_inCutover h.cutover
    have hset : status.phase ≠ .unset := by
      intro hunset
      rw [workflowResumePhase, hunset, if_neg (by decide)] at hphase
      exact hcutover.set hphase.symm
    have hcover : CheckpointsCover plan (amendCheckpoint object.volumes volume.sourcePVC.name
        fun status => status.withActivation activation) phase :=
      h.cover.amend h.distinct h.member (fun _ hname => hname) (fun old _ hrecorded hreached =>
        ⟨{ hrecorded with
          activePVC := hactive
          completed := hcompleted }, { hreached with
          activated := fun hrequired => absurd hrequired (by simp [hcutover.pending])
          rolledBack := fun hrolled => absurd hrolled hcutover.unfinished }⟩) fun _ => id
    have hplan : (persisted object volume activation status).plan = some plan := h.planned
    refine (ClusterMigration.progress_iff hplan).mpr ⟨hset, .inr ?_⟩
    rw [hphase]
    exact hcover

theorem set_checkpoint :
    (activationSlot volume.sourcePVC.name).set object (object.checkpoint volume).activation =
      object := by
  have hself : amendCheckpoint object.volumes volume.sourcePVC.name
      (fun status => status.withActivation (object.checkpoint volume).activation) =
      object.volumes := by
    refine amendCheckpoint_eq_self fun status hmem hname => ?_
    have hstatus := checkpointOf_of_mem h.cover.distinct hmem
    rw [hname, h.checkpointOf_volume] at hstatus
    rw [← Option.some.inj hstatus, ClusterMigrationVolumeStatus.withActivation]
  show { object with volumes := _ } = object
  rw [hself]

/-- A checkpoint with a claim outside of the destination namespace makes the object invalid. -/
theorem not_valid_persisted (hphase : workflowResumePhase status = phase) {ref : ObjectReference}
    (hactive : activation.activePVC = some ref) (hns : ref.ns ≠ plan.destinationNamespace) :
    ¬ kind.Valid (persisted object volume activation status) := by
  intro hvalid
  have hplan : (persisted object volume activation status).plan = some plan := h.planned
  have hresume : workflowResumePhase (persisted object volume activation status).status = phase :=
    hphase
  have hprogress := ((ClusterMigration.progress_iff hplan).mp hvalid.progress).2
  rw [hresume] at hprogress
  rcases hprogress with hempty | hcover
  · rw [(cutoverPhase_of_inCutover h.cutover).reserved] at hempty
    cases hempty.2
  · obtain ⟨checkpoint, hcheckpoint, hrecorded, -⟩ :=
      hcover.exists_checkpoint h.distinct h.member
    have hself : checkpointOf (persisted object volume activation status).volumes
        volume.sourcePVC.name = some ((object.checkpoint volume).withActivation activation) := by
      show checkpointOf (amendCheckpoint object.volumes volume.sourcePVC.name _) _ = _
      rw [checkpointOf_withActivation, h.checkpointOf_volume]
      simp
    rw [hself] at hcheckpoint
    obtain rfl := Option.some.inj hcheckpoint
    exact hns (hrecorded.activePVC ref hactive).2.1

end

end InHand

end PvcMigrate
