import PvcMigrate.App.MigrationStorage
import PvcMigrate.App.MigrationVolume

/-!
# Resuming an activation

`ValidateActivation` (`migration_executor_activation.go`) decides whether a ClusterMigration may
activate its volumes, or continue to.  It looks at each volume by itself: an activation that is
recorded, or that is found in the cluster, is checked as such; the other volumes have to pass the
offline check, which in the phase Activating tolerates claims that are already deleted.

The check of the admission policies of the destination namespace is a parameter: it reads quotas
and limit ranges that nothing else depends on.
-/

namespace PvcMigrate

open Kube Prog

variable {ρ : Type}

/-- `migrationPVCManifest`, for a capacity that is a positive quantity. -/
def migrationPVCManifest (workflowID : String) (binding : PVCTransferBindings)
    (destinationNamespace : String) (volume : VolumeSpec) (quantity : Int) : PVC :=
  let pvc := boundPVCManifest workflowID { binding.sourcePVC with ns := destinationNamespace }
    binding.destinationPV.name volume.sourcePVCSpec volume.sourcePVCMetadata
  { pvc with
    annotations := pvc.annotations.set rollbackPVAnnotation binding.sourcePV.name
    spec := { pvc.spec with
      storageClassName := some volume.storageClass
      request := some quantity } }

/-! ## Admission -/

/-- `kube.PVCAdmissionChange`. -/
structure PVCAdmissionChange where
  ns : String
  name : String
  requestedStorage : Int
  requestedStorageClass : String
  existing : Bool
  existingUID : UID
  existingStorage : Option Int
  existingStorageClass : String
  deriving DecidableEq, Repr

/-- `kube.PVCAdmissionReport`. -/
structure PVCAdmissionReport where
  quotaViolations : List String := []
  limitRangeViolations : List String := []
  deriving DecidableEq, Repr

/-- `CheckPVCAdmissionPolicies` of a cluster. -/
abbrev AdmissionPolicies := List PVCAdmissionChange → Except String PVCAdmissionReport

/-- The policies have nothing against any change. -/
def AdmissionPolicies.Satisfied (policies : AdmissionPolicies) : Prop :=
  ∀ changes, policies changes = .ok {}

def migrationActivationAdmission (ns : String) (volume : VolumeSpec) (sourceExists : Bool) :
    Switch ρ PVCAdmissionChange := do
  reject (positiveQuantity volume.capacity = false) (newError .validation "migration activation"
    "destination capacity must be positive")
  pure
    { ns := ns
      name := volume.sourcePVC.name
      requestedStorage := volume.capacity.getD 0
      requestedStorageClass := volume.storageClass
      existing := sourceExists
      existingUID := volume.sourcePVC.uid
      existingStorage := volume.sourcePVCSpec.request
      existingStorageClass := volume.sourcePVCSpec.storageClassName.getD "" }

/-- `validateMigrationPVCAdmission`, for the changes in one namespace. -/
def validateMigrationPVCAdmission (policies : AdmissionPolicies) (ns : String)
    (changes : List PVCAdmissionChange) : Switch ρ Unit :=
  if changes = [] then pure ()
  else match policies changes with
    | .error _ => fail (newError .kubernetes "activation preflight"
        ("check application PVC admission in " ++ ns))
    | .ok report => do
      reject (report.quotaViolations ≠ []) (newError .precondition "activation preflight"
        ("application PVC quota rejected the replacement: " ++
          "; ".intercalate report.quotaViolations))
      reject (report.limitRangeViolations ≠ []) (newError .precondition "activation preflight"
        ("application PVC LimitRange rejected the replacement: " ++
          "; ".intercalate report.limitRangeViolations))

/-! ## Validation -/

section Validation

variable (deleting : Bool) (policies : AdmissionPolicies) (object : ClusterMigration)

/-- The body of the loop of `ValidateActivation`: a volume that is not active yet is left to the
admission and the offline check. -/
def activationVolume (plan : ClusterMigrationPlan) (volume : VolumeSpec) :
    Switch ρ (Option (PVCTransferBindings × PVCAdmissionChange)) := do
  let activation := (object.checkpoint volume).activation
  let binding := object.bindings plan volume
  if activation.activatedAt ≠ none ∨ activation.activePVC ≠ none then do
    verifyActiveStorageVolume deleting object.name binding.sourcePVC plan.destinationNamespace
      binding.destinationPV activation.activePVC
    pure none
  else do
    let probe ← unrecordedActivePVC binding.sourcePVC binding.sourcePV plan.destinationNamespace
    match probe.1 with
    | some active => do
      verifyActiveStorageVolume deleting object.name binding.sourcePVC plan.destinationNamespace
        binding.destinationPV (some active)
      verifyVolumesOfflineForSession object.name
        [⟨active, binding.destinationPV, active, binding.destinationPV⟩]
      pure none
    | none => do
      let change ← migrationActivationAdmission plan.destinationNamespace volume
        (probe.2 && !activation.sourcePVCDeleted)
      pure (some (binding, change))

def verifyActiveVolumes (plan : ClusterMigrationPlan) : Switch ρ Unit :=
  each (fun volume =>
    let binding := object.bindings plan volume
    verifyActiveStorageVolume deleting object.name binding.sourcePVC plan.destinationNamespace
      binding.destinationPV (object.checkpoint volume).activation.activePVC) plan.volumes

/-- `ClusterMigrationExecutor.ValidateActivation`. -/
def validateActivation : Switch ρ Unit := do
  ofCheck (validateClusterMigrationObject object)
  let phase := workflowResumePhase object.status
  match object.plan with
  | none => fail (newError .precondition "migration activation"
      "migration must complete final sync before activation")
  | some plan =>
    if phase = .activated ∨ phase = .completed ∨ phase = .resuming then
      verifyActiveVolumes deleting object plan
    else do
      reject (phase ≠ .finalSynced ∧ phase ≠ .activating)
        (newError .precondition "migration activation"
          "migration must complete final sync before activation")
      let staged ← gather (activationVolume deleting object plan) plan.volumes
      validateMigrationPVCAdmission policies plan.destinationNamespace (staged.map Prod.snd)
      if phase = .activating ∨ object.status.phase = .failed then
        verifyActivationRecovery object.name (staged.map Prod.fst)
      else verifyVolumesOfflineForSession object.name (staged.map Prod.fst)

end Validation

/-! ## What the validation accepts -/

section Accepts

variable {w : World ρ} {sessionID destinationNamespace : String} {binding : PVCTransferBindings}
  {activation : ActivationStatus} {policies : AdmissionPolicies} {object : ClusterMigration}
  {plan : ClusterMigrationPlan} {volume : VolumeSpec}

/-- What `ValidateActivation` accepts of one volume while it activates. -/
inductive ActivationAccepted (w : World ρ) (sessionID destinationNamespace : String)
    (binding : PVCTransferBindings) (activation : ActivationStatus) : Prop
  /-- the recorded claim is in place -/
  | recorded {active : ObjectReference} {pvc : PVC} {pv : PV}
      (recorded : activation.activePVC = some active)
      (storage : ActiveStorage w sessionID binding.sourcePVC destinationNamespace
        binding.destinationPV active pvc pv)
  /-- the activated claim is in place and not recorded -/
  | unrecorded {pvc : PVC} {pv : PV} (unrecorded : ¬ activation.IsRecorded)
      (other : ¬ binding.IsSource pvc)
      (storage : ActiveStorage w sessionID binding.sourcePVC destinationNamespace
        binding.destinationPV pvc.ref pvc pv)
      (offline : BindingsAccepted w sessionID
        ⟨pvc.ref, binding.destinationPV, pvc.ref, binding.destinationPV⟩ false)
  /-- there is no activated claim, and the volume is offline -/
  | staged (unrecorded : ¬ activation.IsRecorded)
      (free : ∀ pvc, w.claims (destinationNamespace, binding.sourcePVC.name) = some pvc →
        pvc.name ≠ "" ∧ binding.IsSource pvc)
      (offline : BindingsAccepted w sessionID binding true)

theorem readOnly_unrecordedActivePVC {sourcePVC sourcePV : ObjectReference} :
    ReadOnly (unrecordedActivePVC sourcePVC sourcePV destinationNamespace :
      Switch ρ (Option ObjectReference × Bool)) := by
  refine only_bind readOnly_getPVC fun pvc => ?_
  cases pvc with
  | none => exact only_pure
  | some pvc => exact only_reject_bind <| only_ite only_pure only_pure

theorem readOnly_verifyVolumesOfflineForSession {volumes : List PVCTransferBindings} :
    ReadOnly (verifyVolumesOfflineForSession sessionID volumes : Switch ρ Unit) :=
  only_reject_bind readOnly_verifyOfflineBindings

theorem readOnly_activationVolume :
    ReadOnly (activationVolume false object plan volume :
      Switch ρ (Option (PVCTransferBindings × PVCAdmissionChange))) := by
  refine only_ite (only_bind readOnly_verifyActiveStorageVolume fun _ => only_pure)
    (only_bind readOnly_unrecordedActivePVC fun probe => ?_)
  rcases probe with ⟨_ | active, found⟩
  · exact only_bind (only_reject_bind only_pure) fun _ => only_pure
  · exact only_bind readOnly_verifyActiveStorageVolume fun _ =>
      only_bind readOnly_verifyVolumesOfflineForSession fun _ => only_pure

theorem yields_bind_of_accepts {α : Type} {check : Switch ρ Unit} {f : Unit → Switch ρ α} {a : α}
    (hread : ReadOnly check) : Yields (check >>= f) w a ↔ Accepts check w ∧ Yields (f ()) w a := by
  rw [yields_bind hread]
  exact ⟨fun ⟨_, hcheck, hf⟩ => ⟨hcheck, hf⟩, fun ⟨hcheck, hf⟩ => ⟨(), hcheck, hf⟩⟩

/-- The volume is left to the offline check, or it is accepted at once. -/
theorem yields_activationVolume_of_accepted (hcapacity : positiveQuantity volume.capacity = true)
    (hsession : blank object.name = false)
    (h : ActivationAccepted w object.name plan.destinationNamespace
      (object.bindings plan volume) (object.checkpoint volume).activation) :
    ∃ result, Yields (activationVolume false object plan volume) w result ∧
      ∀ staged ∈ result, BindingsAccepted w object.name staged.1 true := by
  cases h with
  | recorded hactive hstorage =>
    refine ⟨none, ?_, by simp⟩
    have hrecorded : (object.checkpoint volume).activation.activatedAt ≠ none ∨
        (object.checkpoint volume).activation.activePVC ≠ none := .inr (by simp [hactive])
    rw [activationVolume, if_pos hrecorded, hactive,
      yields_bind_of_accepts readOnly_verifyActiveStorageVolume]
    exact ⟨accepts_verifyActiveStorageVolume.mpr ⟨_, _, hstorage⟩, yields_pure.mpr rfl⟩
  | @unrecorded pvc pv hunrecorded hother hstorage hoffline =>
    refine ⟨none, ?_, by simp⟩
    have hprobe : Yields (unrecordedActivePVC (object.bindings plan volume).sourcePVC
        (object.bindings plan volume).sourcePV plan.destinationNamespace) w
        (some pvc.ref, true) := by
      rw [unrecordedActivePVC, yields_getPVC, hstorage.claim]
      exact yields_reject_bind.mpr ⟨hstorage.named, by
        rw [if_neg (show ¬ (_ ∧ _) from hother)]; exact yields_pure.mpr rfl⟩
    rw [activationVolume, if_neg (show ¬ (_ ∨ _) from hunrecorded),
      yields_bind readOnly_unrecordedActivePVC]
    refine ⟨_, hprobe, ?_⟩
    refine (yields_bind_of_accepts readOnly_verifyActiveStorageVolume).mpr
      ⟨accepts_verifyActiveStorageVolume.mpr ⟨pvc, pv, hstorage⟩, ?_⟩
    refine (yields_bind_of_accepts readOnly_verifyVolumesOfflineForSession).mpr
      ⟨?_, yields_pure.mpr rfl⟩
    rw [verifyVolumesOfflineForSession, accepts_reject_bind]
    refine ⟨by simp [hsession], accepts_verifyOfflineBindings ?_⟩
    intro transfer hmem
    rw [List.mem_singleton.mp hmem]
    exact hoffline
  | staged hunrecorded hfree hoffline =>
    have hprobe : ∃ found, Yields (unrecordedActivePVC (object.bindings plan volume).sourcePVC
        (object.bindings plan volume).sourcePV plan.destinationNamespace) w (none, found) := by
      rw [unrecordedActivePVC]
      simp only [yields_getPVC]
      cases hclaim : w.claims
          (plan.destinationNamespace, (object.bindings plan volume).sourcePVC.name) with
      | none => exact ⟨false, yields_pure.mpr rfl⟩
      | some pvc =>
        obtain ⟨hnamed, hsource⟩ := hfree pvc hclaim
        exact ⟨true, yields_reject_bind.mpr ⟨hnamed, by
          rw [if_pos (show _ ∧ _ from hsource)]; exact yields_pure.mpr rfl⟩⟩
    obtain ⟨found, hprobe⟩ := hprobe
    have hchange : ∃ change, Yields (migrationActivationAdmission plan.destinationNamespace volume
        (found && !(object.checkpoint volume).activation.sourcePVCDeleted) : Switch ρ _) w
        change := by
      rw [migrationActivationAdmission]
      exact ⟨_, yields_reject_bind.mpr ⟨by simp [hcapacity], yields_pure.mpr rfl⟩⟩
    obtain ⟨change, hchange⟩ := hchange
    refine ⟨some (object.bindings plan volume, change), ?_, ?_⟩
    · rw [activationVolume, if_neg (show ¬ (_ ∨ _) from hunrecorded),
        yields_bind readOnly_unrecordedActivePVC]
      refine ⟨_, hprobe, ?_⟩
      exact (yields_bind (only_bind only_reject fun _ => only_pure)).mpr
        ⟨change, hchange, yields_pure.mpr rfl⟩
    · intro staged hstaged
      obtain rfl := Option.some.inj hstaged
      exact hoffline

theorem accepts_validateMigrationPVCAdmission (hpolicies : policies.Satisfied) {ns : String}
    {changes : List PVCAdmissionChange} :
    Accepts (validateMigrationPVCAdmission policies ns changes : Switch ρ Unit) w := by
  unfold validateMigrationPVCAdmission
  split
  · exact accepts_pure
  · rw [hpolicies changes]
    simp

theorem readOnly_validateMigrationPVCAdmission {ns : String} {changes : List PVCAdmissionChange} :
    ReadOnly (validateMigrationPVCAdmission policies ns changes : Switch ρ Unit) := by
  refine only_ite only_pure ?_
  split
  · exact only_fail
  · exact only_reject_bind only_reject

/-- While it activates, `ValidateActivation` is the validation of the object, the checks of the
single volumes and the offline check of those that are not active. -/
theorem accepts_validateActivation_iff (hplan : object.plan = some plan)
    (hphase : workflowResumePhase object.status = .activating) (hpolicies : policies.Satisfied)
    (hsession : blank object.name = false) :
    Accepts (validateActivation false policies object) w ↔
      MigrationKind.Valid .clusterMigration object ∧ ∃ staged,
        Yields (gather (activationVolume false object plan) plan.volumes) w
        staged ∧ Accepts (verifyOfflineBindings object.name (staged.map Prod.fst) true) w := by
  rw [validateActivation, accepts_ofCheck_bind, validateClusterMigrationObject_eq_ok, hplan, hphase]
  refine and_congr_right fun _ => ?_
  simp only [reduceCtorEq, or_self, if_false, accepts_reject_bind, ne_eq, not_true_eq_false,
    and_false, not_false_eq_true, true_and, true_or, if_true]
  rw [accepts_bind_of_readOnly (only_gather fun _ _ => readOnly_activationVolume)]
  refine exists_congr fun staged => and_congr_right fun _ => ?_
  rw [accepts_bind readOnly_validateMigrationPVCAdmission]
  simp [accepts_validateMigrationPVCAdmission hpolicies, verifyActivationRecovery, hsession]

theorem accepts_validateActivation (hvalid : MigrationKind.Valid .clusterMigration object)
    (hplan : object.plan = some plan)
    (hphase : workflowResumePhase object.status = .activating) (hpolicies : policies.Satisfied)
    (hsession : blank object.name = false)
    (h : ∀ volume ∈ plan.volumes, ActivationAccepted w object.name plan.destinationNamespace
      (object.bindings plan volume) (object.checkpoint volume).activation) :
    Accepts (validateActivation false policies object) w := by
  refine (accepts_validateActivation_iff hplan hphase hpolicies hsession).mpr ⟨hvalid, ?_⟩
  have hplanned := (hvalid.admitted plan hplan).planned
  obtain ⟨staged, hstaged, haccepted⟩ := yields_gather_of_forall
    (fun _ _ => readOnly_activationVolume) (fun volume hmem =>
      yields_activationVolume_of_accepted (hplanned volume hmem).capacity hsession (h volume hmem))
  refine ⟨staged, hstaged, accepts_verifyOfflineBindings fun transfer htransfer => ?_⟩
  obtain ⟨result, hresult, rfl⟩ := List.mem_map.mp htransfer
  exact haccepted result hresult

/-- What is left to the offline check is the transfer of the volume. -/
theorem bindings_of_yields_activationVolume {staged : PVCTransferBindings × PVCAdmissionChange}
    (h : Yields (activationVolume false object plan volume) w (some staged)) :
    staged.1 = object.bindings plan volume := by
  unfold activationVolume at h
  simp only at h
  split at h
  · obtain ⟨-, h⟩ := (yields_bind_of_accepts readOnly_verifyActiveStorageVolume).mp h
    cases yields_pure.mp h
  · obtain ⟨⟨active, found⟩, -, h⟩ := (yields_bind readOnly_unrecordedActivePVC).mp h
    cases active with
    | some active =>
      obtain ⟨-, h⟩ := (yields_bind_of_accepts readOnly_verifyActiveStorageVolume).mp h
      obtain ⟨-, h⟩ := (yields_bind_of_accepts readOnly_verifyVolumesOfflineForSession).mp h
      cases yields_pure.mp h
    | none =>
      obtain ⟨change, -, h⟩ := (yields_bind (only_bind only_reject fun _ => only_pure)).mp h
      exact congrArg Prod.fst (Option.some.inj (yields_pure.mp h)).symm

/-- A volume whose activated claim is missing has to pass the offline check. -/
theorem yields_activationVolume_free {result : Option (PVCTransferBindings × PVCAdmissionChange)}
    (hunrecorded : ¬ (object.checkpoint volume).activation.IsRecorded)
    (hfree : w.claims (plan.destinationNamespace, volume.sourcePVC.name) = none)
    (h : Yields (activationVolume false object plan volume) w result) :
    ∃ change, result = some (object.bindings plan volume, change) := by
  have hprobe : ∀ probe, Yields (unrecordedActivePVC (object.bindings plan volume).sourcePVC
      (object.bindings plan volume).sourcePV plan.destinationNamespace) w probe →
      probe = (none, false) := by
    intro probe hprobe
    have hfree' : w.claims (plan.destinationNamespace,
        (object.bindings plan volume).sourcePVC.name) = none := hfree
    rw [unrecordedActivePVC, yields_getPVC, hfree'] at hprobe
    exact (yields_pure.mp hprobe).symm
  rw [activationVolume, if_neg (show ¬ (_ ∨ _) from hunrecorded),
    yields_bind readOnly_unrecordedActivePVC] at h
  obtain ⟨probe, hyields, h⟩ := h
  rw [hprobe probe hyields] at h
  obtain ⟨change, -, h⟩ := (yields_bind (only_bind only_reject fun _ => only_pure)).mp h
  exact ⟨change, (yields_pure.mp h).symm⟩

/-- What is accepted of a volume depends on the objects of that volume. -/
theorem ActivationAccepted.congr {u : World ρ}
    (h : ActivationAccepted w sessionID destinationNamespace binding activation)
    (hsame : SamePlaces w u binding (destinationNamespace, binding.sourcePVC.name)) :
    ActivationAccepted u sessionID destinationNamespace binding activation := by
  cases h with
  | recorded hactive hstorage =>
    exact .recorded hactive (hstorage.congr hsame.target hsame.destinationPV)
  | @unrecorded pvc pv hunrecorded hother hstorage hoffline =>
    have hplace : pvc.ref.key = (destinationNamespace, binding.sourcePVC.name) :=
      Prod.ext hstorage.ns hstorage.name
    have htarget : u.claims pvc.ref.key = w.claims pvc.ref.key := by
      rw [hplace]
      exact hsame.target
    have hpair : SamePlaces w u
        ⟨pvc.ref, binding.destinationPV, pvc.ref, binding.destinationPV⟩ pvc.ref.key :=
      ⟨htarget, htarget, htarget, hsame.destinationPV, hsame.destinationPV, hsame.pods,
        hsame.attachments⟩
    exact .unrecorded hunrecorded hother (hstorage.congr hsame.target hsame.destinationPV)
      (hoffline.congr hpair)
  | staged hunrecorded hfree hoffline =>
    refine .staged hunrecorded (fun pvc hclaim => hfree pvc ?_) (hoffline.congr hsame)
    rw [← hsame.target]
    exact hclaim

end Accepts

/-! ## The stages of an activation are accepted -/

section Stages

variable {P : Cutover} {w : World ρ} {source destination : PV} {status : ActivationStatus}

theorem liveIdentity_of_claimed {ref pvRef : ObjectReference} {pvc : PVC} {pv : PV}
    (h : Cutover.Claimed w P.sessionID ref pvRef pvc pv) (hpv : Holds w pvRef P.sessionID pv) :
    LiveIdentity w P.sessionID ref pvRef pvc pv where
  claim := h.claim
  claimUID := h.uid
  finalizers := h.finalizers
  annotated := h.annotated
  labelled := h.labelled
  phase := h.phase
  volumeName := h.volumeName
  volume := hpv.volume
  volumeUID := hpv.uid
  owner := fun hforeign => hpv.not_foreign hforeign.2
  claimRef := h.identity ▸ h.claimRef

/-- The activated claim is a live identity of the destination volume. -/
theorem liveIdentity_of_activated {active : PVC} (h : P.Activated w active destination)
    (hpv : Holds w P.volume.destinationPV P.sessionID destination) :
    LiveIdentity w P.sessionID active.ref P.volume.destinationPV active destination where
  claim := by
    rw [show (active.ref.ns, active.ref.name) = P.target from Prod.ext h.ns h.name]
    exact h.claim
  claimUID := rfl
  finalizers := h.finalizers
  annotated := fun hforeign => hforeign.2.2 h.owned.2.2
  labelled := fun hforeign => hforeign.2.2 h.owned.2.1
  phase := h.phase
  volumeName := h.volumeName
  volume := hpv.volume
  volumeUID := hpv.uid
  owner := fun hforeign => hpv.not_foreign hforeign.2
  claimRef := h.claimRef

theorem activeStorage_of_activated {active : PVC} (h : P.Activated w active destination)
    (hpv : Holds w P.volume.destinationPV P.sessionID destination) :
    ActiveStorage w P.sessionID P.volume.sourcePVC P.activateNamespace P.volume.destinationPV
      active.ref active destination where
  complete := ⟨fun hns => P.namespace_ne (h.ns.symm.trans hns),
    fun hname => P.complete.1.2.1 (h.name.symm.trans hname), h.uid⟩
  ns := h.ns
  name := h.name
  volumeComplete := P.complete.2.2.2
  claim := h.claim
  named := fun hname => P.complete.1.2.1 (h.name.symm.trans hname)
  alive := h.alive
  phase := h.phase
  volumeName := h.volumeName
  annotated := h.owned.2.2
  uid := rfl
  storage := ⟨hpv.volume, fun hname => P.complete.2.2.2.1 (hpv.name.symm.trans hname), hpv.uid,
    h.claimRef⟩

/-- A volume in whatever stage of its activation passes, if it stays in its namespace: the
reservation that `ActivatePVC` makes is the one that the recovery check expects. -/
theorem activationAccepted_of_stage (hvolumes : P.Volumes w source destination)
    (hstage : P.Stage w source destination status)
    (hsame : P.activateNamespace = P.volume.sourcePVC.ns) :
    ActivationAccepted w P.sessionID P.activateNamespace P.volume status := by
  have hbindings : IdentityAccepted w P.sessionID P.volume.sourcePVC P.volume.sourcePV
      (some {}) → IdentityAccepted w P.sessionID P.volume.destinationPVC P.volume.destinationPV
      (some P.volume.sourcePVC) → BindingsAccepted w P.sessionID P.volume true :=
    fun hsource hdestination => ⟨P.complete, hsource, hdestination, hvolumes.quiet.source,
      hvolumes.quiet.temporary, hvolumes.quiet.sourceDetached,
      hvolumes.quiet.destinationDetached⟩
  have hlive {original : PVC} (hclaimed : Cutover.Claimed w P.sessionID P.volume.sourcePVC
      P.volume.sourcePV original source) :
      IdentityAccepted w P.sessionID P.volume.sourcePVC P.volume.sourcePV (some {}) ∧
        ∀ pvc, w.claims (P.activateNamespace, P.volume.sourcePVC.name) = some pvc →
          pvc.name ≠ "" ∧ P.volume.IsSource pvc := by
    refine ⟨.inl ⟨_, _, liveIdentity_of_claimed hclaimed hvolumes.sourceHeld⟩, ?_⟩
    intro pvc hpvc
    rw [hsame] at hpvc
    obtain rfl : original = pvc := Option.some.inj (hclaimed.claim.symm.trans hpvc)
    refine ⟨fun hname => P.complete.1.2.1 ?_, hclaimed.uid, hclaimed.volumeName⟩
    rw [← hclaimed.identity]
    exact hname
  cases hstage with
  | staged temporary original free =>
    exact .staged (by simp [ActivationStatus.IsRecorded]) (hlive original).2
      (hbindings (hlive original).1
        (.inl ⟨_, _, liveIdentity_of_claimed temporary hvolumes.destinationHeld⟩))
  | temporaryGone saved gone original free spin dpin href =>
    refine .staged (by simp [ActivationStatus.IsRecorded]) (hlive original).2
      (hbindings (hlive original).1 (.inr ⟨gone, _, rfl, destination, ?_⟩))
    exact ⟨hvolumes.destinationHeld.volume, hvolumes.destinationHeld.uid,
      hvolumes.destinationAlive, dpin, .inl href⟩
  | claimsGone saved reserved tgone sgone free spin dpin sref dref hreserved =>
    refine .staged (by simp [ActivationStatus.IsRecorded]) ?_ (hbindings
      (.inr ⟨sgone, _, rfl, source, ?_⟩) (.inr ⟨tgone, _, rfl, destination, ?_⟩))
    · intro pvc hpvc
      exact absurd (free.symm.trans hpvc) (Option.some_ne_none pvc).symm
    · exact ⟨hvolumes.sourceHeld.volume, hvolumes.sourceHeld.uid, hvolumes.sourceAlive, spin,
        .inl sref⟩
    · refine ⟨hvolumes.destinationHeld.volume, hvolumes.destinationHeld.uid,
        hvolumes.destinationAlive, dpin, dref.imp_right fun hreserved => ?_⟩
      exact ⟨P.complete.1.2.1, hsame ▸ hreserved⟩
  | @bound active recorded tgone sgone activated spin dpin sref =>
    have hstorage := activeStorage_of_activated activated hvolumes.destinationHeld
    cases recorded with
    | some time => exact .recorded rfl hstorage
    | none =>
      have hidentity : IdentityAccepted w P.sessionID active.ref P.volume.destinationPV none :=
        .inl ⟨_, _, liveIdentity_of_activated activated hvolumes.destinationHeld⟩
      have hunused : w.NoConsumers active.ref.ns active.ref.name := by
        rw [show active.ref.ns = P.activateNamespace from activated.ns,
          show active.ref.name = P.volume.sourcePVC.name from activated.name]
        exact hvolumes.quiet.target
      refine .unrecorded (by simp [ActivationStatus.IsRecorded, Cutover.boundStatus])
        (fun hsource => P.volumes_ne (hsource.2.symm.trans activated.volumeName)) hstorage ?_
      exact ⟨⟨hstorage.complete, P.complete.2.2.2, hstorage.complete, P.complete.2.2.2⟩,
        hidentity, hidentity, hunused, hunused, hvolumes.quiet.destinationDetached,
        hvolumes.quiet.destinationDetached⟩

end Stages

/-! ## Recovery of one volume of a migration -/

/-- A migration in the phase Activating, about to run the cutover `P` of its volume `volume`.
The other volumes are in a state that `ValidateActivation` accepts. -/
structure ActivationEntry (P : Cutover) (object : ClusterMigration) (plan : ClusterMigrationPlan)
    (volume : VolumeSpec) (w : World ClusterMigration) : Prop extends
    InHand .clusterMigration object plan volume .activating where
  record : w.record = object
  -- the arguments `activate` passes to `ActivatePVC`
  session : P.sessionID = object.name
  destination : P.activateNamespace = plan.destinationNamespace
  transfer : P.volume = object.bindings plan volume
  capacity : volume.capacity = some P.capacity
  manifest : P.desired = migrationPVCManifest object.name P.volume plan.destinationNamespace
    volume P.capacity
  -- nothing is done yet, and the storage is offline
  untouched : (object.checkpoint volume).activation = {}
  settled : w.Settled
  storage : ∃ source destination temporary original, P.Volumes w source destination ∧
    Cutover.Claimed w P.sessionID P.volume.destinationPVC P.volume.destinationPV temporary
      destination ∧
    Cutover.Claimed w P.sessionID P.volume.sourcePVC P.volume.sourcePV original source
  place : P.target = P.volume.sourcePVC.key ∨ w.claims P.target = none ∨
    P.target = P.volume.destinationPVC.key
  others : ∀ other ∈ plan.volumes, other ≠ volume →
    P.Apart (object.bindings plan other) ∧
      ActivationAccepted w object.name plan.destinationNamespace (object.bindings plan other)
        (object.checkpoint other).activation

/-- In whatever world the activation is stopped, once the claims that exist are bound:
`ValidateActivation` accepts the persisted object, in the phase Activating and as Failed with this
checkpoint, and running the activation again ends with the activated claim in place. -/
def ActivationRecovers (P : Cutover) (policies : AdmissionPolicies) (volume : VolumeSpec)
    (w : World ClusterMigration) : Prop :=
  ∀ u, Reruns exec (P.resume (activationSlot volume.sourcePVC.name)) w World.Settled u →
    (∀ status, validateMigrationLifecycle status = .ok () →
      workflowResumePhase status = .activating →
      Accepts (validateActivation false policies { u.record with status := status }) u) ∧
    (run exec (P.resume (activationSlot volume.sourcePVC.name)) u).1 = .ok () ∧
    P.Final (run exec (P.resume (activationSlot volume.sourcePVC.name)) u).2

namespace ActivationEntry

variable {P : Cutover} {object : ClusterMigration} {plan : ClusterMigrationPlan}
  {volume : VolumeSpec} {w u : World ClusterMigration} {activation : ActivationStatus}
  {policies : AdmissionPolicies}

/-- The record at the start is the one with the untouched checkpoint. -/
theorem record_untouched (h : ActivationEntry P object plan volume w) :
    w.record = (activationSlot volume.sourcePVC.name).set w.record {} := by
  have hset := h.set_checkpoint
  rw [h.untouched] at hset
  rw [h.record, hset]

theorem mid (h : ActivationEntry P object plan volume w) (hdisjoint : P.Disjoint) :
    P.Mid (activationSlot volume.sourcePVC.name) w w := by
  obtain ⟨source, destination, temporary, original, hvolumes, htemporary, hclaimed⟩ := h.storage
  have hfree : P.target = P.volume.sourcePVC.key ∨ w.claims P.target = none := by
    rcases h.place with hsame | hfree | halias
    · exact .inl hsame
    · exact .inr hfree
    · exact absurd halias hdisjoint
  have hat : P.At _ w w source destination {} :=
    ⟨hvolumes, h.record_untouched, fun _ _ _ _ => rfl, fun _ _ _ => rfl, rfl, rfl⟩
  exact hat.mid (.staged htemporary hclaimed hfree) rfl

theorem recorded_of_stage {source destination : PV}
    (hstage : P.Stage u source destination activation) :
    (∀ ref ∈ activation.activePVC, ref.name = P.volume.sourcePVC.name ∧
      ref.ns = P.activateNamespace ∧ ref.uid ≠ none) ∧
    (activation.activatedAt ≠ none ∨ activation.rolledBackAt ≠ none →
      activation.activePVC ≠ none) := by
  cases hstage with
  | staged temporary original free | temporaryGone saved gone original free spin dpin href
  | claimsGone saved reserved tgone sgone free spin dpin sref dref hreserved => simp
  | @bound active recorded tgone sgone activated spin dpin sref =>
    cases recorded with
    | none => simp [Cutover.boundStatus]
    | some time =>
      simp only [Cutover.boundStatus, Option.map_some, Option.mem_def, Option.some.injEq,
        forall_eq', ne_eq, reduceCtorEq, not_false_eq_true, implies_true, and_true]
      exact ⟨activated.name, activated.ns, activated.uid⟩

section

variable (h : ActivationEntry P object plan volume w)
include h

/-- Every world left behind is accepted if the volume stays in its namespace. -/
theorem accepts_of_mid
    (hsame : plan.destinationNamespace = plan.sourceNamespace) (hpolicies : policies.Satisfied)
    (hmid : P.Mid (activationSlot volume.sourcePVC.name) w u) {status : WorkflowStatus}
    (hlifecycle : validateMigrationLifecycle status = .ok ())
    (hphase : workflowResumePhase status = .activating) :
    Accepts (validateActivation false policies { u.record with status := status }) u := by
  obtain ⟨⟨source, destination, activation, hvolumes, hstage, hrecord⟩, helse⟩ := hmid
  rw [h.record] at hrecord
  rw [hrecord]
  have hname : P.volume.sourcePVC.name = volume.sourcePVC.name := by
    rw [h.transfer]
    rfl
  have hrecorded := recorded_of_stage hstage
  rw [hname, h.destination] at hrecorded
  have hns : P.activateNamespace = P.volume.sourcePVC.ns := by
    rw [h.destination, hsame, h.transfer]
    rfl
  refine accepts_validateActivation (h.valid_persisted hlifecycle hphase hrecorded.1 hrecorded.2)
    h.planned hphase hpolicies h.named fun other hother => ?_
  rw [h.bindings_persisted hother]
  by_cases hvolume : other = volume
  · have haccepted := activationAccepted_of_stage hvolumes hstage hns
    rw [h.session, h.destination, h.transfer] at haccepted
    rw [hvolume, h.checkpoint_persisted_self]
    exact haccepted
  · obtain ⟨hapart, haccepted⟩ := h.others other hother hvolume
    have hplaces := hapart.samePlaces helse
    rw [h.destination] at hplaces
    rw [InHand.checkpoint_persisted_of_ne (h.name_ne hother hvolume)]
    exact haccepted.congr hplaces

/-- The stop after the reservation is rejected if the volume leaves its namespace: the recovery
check expects the destination volume to be reserved for the name in the source namespace. -/
theorem rejects_reservedUnsaved
    (hne : plan.destinationNamespace ≠ plan.sourceNamespace) (hpolicies : policies.Satisfied)
    {source destination : PV}
    (hu : P.ReservedUnsaved (activationSlot volume.sourcePVC.name) w u source destination) :
    ¬ Accepts (validateActivation false policies { u.record with status := object.status }) u := by
  have hrecord := hu.record
  rw [h.record] at hrecord
  rw [hrecord]
  intro haccepts
  let stopped := InHand.persisted object volume
    { temporaryPVCDeleted := true, sourcePVCDeleted := true } object.status
  have hplan : stopped.plan = some plan := h.planned
  have hphase : workflowResumePhase stopped.status = .activating := h.phase_eq
  have hnamed : blank stopped.name = false := h.named
  obtain ⟨-, staged, hstaged, haccepts⟩ :=
    (accepts_validateActivation_iff hplan hphase hpolicies hnamed).mp haccepts
  have htransfer := h.transfer
  -- the volume is left to the offline check
  have hmem : P.volume ∈ staged.map Prod.fst := by
    obtain ⟨result, hresult, hin⟩ := exists_of_yields_gather
      (fun _ _ => readOnly_activationVolume) hstaged h.member
    have hunrecorded : ¬ (stopped.checkpoint volume).activation.IsRecorded := by
      rw [h.checkpoint_persisted_self]
      simp [ActivationStatus.IsRecorded, ClusterMigrationVolumeStatus.withActivation]
    have hfree : u.claims (plan.destinationNamespace, volume.sourcePVC.name) = none := by
      have hplace : P.target = (plan.destinationNamespace, volume.sourcePVC.name) := by
        rw [Cutover.target, h.destination, htransfer]
        rfl
      rw [← hplace]
      exact hu.free
    obtain ⟨change, rfl⟩ := yields_activationVolume_free hunrecorded hfree hresult
    rw [htransfer, ← h.bindings_persisted h.member]
    exact List.mem_map.mpr ⟨_, hin _ rfl, rfl⟩
  have hother : ∀ transfer ∈ staged.map Prod.fst, transfer = P.volume ∨ P.Apart transfer := by
    intro transfer hmem
    obtain ⟨result, hresult, rfl⟩ := List.mem_map.mp hmem
    obtain ⟨other, hother, hyields⟩ := mem_of_yields_gather
      (fun _ _ => readOnly_activationVolume) hstaged hresult
    have hbindings := bindings_of_yields_activationVolume hyields
    rw [h.bindings_persisted hother] at hbindings
    rw [hbindings]
    by_cases hvolume : other = volume
    · exact .inl (by rw [hvolume, htransfer])
    · exact .inr (h.others other hother hvolume).1
  have hdestination := destination_accepted_of_accepts haccepts hmem fun transfer htransfer =>
    Cutover.destination_unshared (hother transfer htransfer)
  have hgone : u.claims P.volume.destinationPVC.key = none := hu.temporary_gone
  rcases hdestination with ⟨pvc, pv, hlive⟩ | ⟨-, reservation, hreservation, pv, hretained⟩
  · exact Option.some_ne_none pvc (hlive.claim.symm.trans hgone)
  · obtain rfl : destination = pv :=
      Option.some.inj (hu.volumes.destinationHeld.volume.symm.trans hretained.volume)
    obtain rfl : P.volume.sourcePVC = reservation := Option.some.inj hreservation
    have hreserved : destination.claimRef =
        some ⟨P.activateNamespace, P.volume.sourcePVC.name, none⟩ := hu.reserved
    rcases hretained.claimRef with horiginal | ⟨-, hreservation⟩
    · have huid := congrArg ObjectReference.uid (Option.some.inj (hreserved.symm.trans horiginal))
      exact P.complete.2.2.1.2.2 huid.symm
    · have hns := congrArg ObjectReference.ns
        (Option.some.inj (hreserved.symm.trans hreservation))
      have hsource : P.volume.sourcePVC.ns = plan.sourceNamespace := by
        rw [htransfer]
        rfl
      exact hne (h.destination.symm.trans (hns.trans hsource))

theorem recovers
    (hsame : plan.destinationNamespace = plan.sourceNamespace) (hpolicies : policies.Satisfied) :
    ActivationRecovers P policies volume w := by
  intro u hreruns
  have hdisjoint : P.Disjoint := by
    intro halias
    refine P.claims_ne ?_
    rw [← halias, Cutover.target, h.destination, hsame, h.transfer]
    rfl
  obtain ⟨hmid, hok, hfinal⟩ := Cutover.converges hdisjoint (h.owns h.record)
    (h.mid hdisjoint) hreruns
  exact ⟨fun status hlifecycle hphase => h.accepts_of_mid hsame hpolicies hmid hlifecycle hphase,
    hok, hfinal⟩

theorem not_recovers
    (hne : plan.destinationNamespace ≠ plan.sourceNamespace) (hpolicies : policies.Satisfied) :
    ¬ ActivationRecovers P policies volume w := by
  intro hrecovers
  obtain ⟨source, destination, temporary, original, hvolumes, htemporary, hclaimed⟩ := h.storage
  by_cases hdisjoint : P.Disjoint
  · have hfree : P.target = P.volume.sourcePVC.key ∨ w.claims P.target = none := by
      rcases h.place with hsame | hfree | halias
      · exact .inl hsame
      · exact .inr hfree
      · exact absurd halias hdisjoint
    obtain ⟨u, hu, source', destination', hreserved⟩ := Cutover.exists_reservedUnsaved
      ⟨hvolumes, h.record_untouched, fun _ _ _ _ => rfl, fun _ _ _ => rfl, rfl, rfl⟩
      ⟨htemporary, hclaimed, hfree⟩ hdisjoint (h.owns h.record) id
    have hstop := (hrecovers u (.step .refl hu (hreserved.settled h.settled))).1 object.status
      h.valid.lifecycle h.phase_eq
    exact h.rejects_reservedUnsaved hne hpolicies hreserved hstop
  · -- the temporary claim is taken for the activated claim, and the source claim stays
    have halias : P.target = P.volume.destinationPVC.key := not_not.mp hdisjoint
    obtain ⟨_, _, _, _, _, hgone, _⟩ := (hrecovers w .refl).2.2
    rw [Cutover.claims_run_of_alias hvolumes htemporary halias (h.owns h.record) h.record_untouched,
      htemporary.claim] at hgone
    cases hgone

end

/-- **An activation puts no data at risk**, in any namespace.  At every settled stop both volumes
are there, and retained as soon as a claim is gone; nothing else has changed; and the next whole run
ends with the activated claim in place. -/
theorem keeps_data (h : ActivationEntry P object plan volume w) (hdisjoint : P.Disjoint)
    (hreruns : Reruns exec (P.resume (activationSlot volume.sourcePVC.name)) w World.Settled u) :
    (∃ source destination, P.Volumes u source destination ∧
      (u.claims P.volume.sourcePVC.key = none ∨ u.claims P.volume.destinationPVC.key = none →
        source.Pinned P.sessionID ∧ destination.Pinned P.sessionID)) ∧
    P.Elsewhere w u ∧
    ∃ v, run exec (P.resume (activationSlot volume.sourcePVC.name)) u = (.ok (), v) ∧
      P.Final v := by
  obtain ⟨⟨⟨source, destination, _, hvolumes, hstage, -⟩, helse⟩, hok, hfinal⟩ :=
    Cutover.converges hdisjoint (h.owns h.record) (h.mid hdisjoint) hreruns
  refine ⟨⟨source, destination, hvolumes, fun hgone => ?_⟩, helse, _, Prod.ext hok rfl, hfinal⟩
  cases hstage with
  | staged temporary original => simp [temporary.claim, original.claim] at hgone
  | temporaryGone _ _ _ _ spin dpin | claimsGone _ _ _ _ _ spin dpin | bound _ _ _ _ spin dpin =>
    exact ⟨spin, dpin⟩

end ActivationEntry

/-- **Recovery of an activation.**  Every world in which an activation can be stopped is accepted
again and leads to the activated claim, whatever the number of interrupted runs, if and only if
the destination namespace is the source namespace. -/
theorem activation_recovers_iff {P : Cutover} {object : ClusterMigration}
    {plan : ClusterMigrationPlan} {volume : VolumeSpec} {w : World ClusterMigration}
    {policies : AdmissionPolicies} (h : ActivationEntry P object plan volume w)
    (hpolicies : policies.Satisfied) :
    ActivationRecovers P policies volume w ↔
      plan.destinationNamespace = plan.sourceNamespace := by
  constructor
  · intro hrecovers
    by_contra hne
    exact h.not_recovers hne hpolicies hrecovers
  · intro hsame
    exact h.recovers hsame hpolicies

/-! ## One volume, in its namespace and out of it -/

section Sample

/-- A claim `data` of the namespace `app`, copied to another volume. -/
def sampleVolume : VolumeSpec where
  sourcePVC := { name := "data", uid := some 1 }
  sourcePV := { name := "pv-source", uid := some 2 }
  destinationPVC := { name := "data-copy" }
  sourcePVCSpec := { request := some 10 }
  sourceCapacity := some 10
  capacity := some 10

/-- The temporary claim and the destination volume that were reserved. -/
def sampleReservation : ClusterVolumeReservationStatus where
  sourcePVCName := "data"
  destinationPVC := some ⟨"app", "data-copy", some 3⟩
  destinationPV := some ⟨"", "pv-destination", some 4⟩
  reserved := true

def samplePlan (destinationNamespace : String) : ClusterMigrationPlan where
  sourceNamespace := "app"
  temporaryNamespace := "app"
  destinationNamespace := destinationNamespace
  sessionNamespace := "app"
  volumes := [sampleVolume]

/-- The migration of the claim, copied and about to be activated in the namespace. -/
def sampleMigration (destinationNamespace : String) : ClusterMigration where
  name := "move-data"
  spec :=
    { sourceNamespace := "app"
      destinationNamespace := destinationNamespace
      volumes := [{ sourcePVC := { name := "data" } }] }
  status := { phase := .activating }
  plan := some (samplePlan destinationNamespace)
  volumes := [⟨sampleReservation, { finalCompletedAt := some 1, attempts := 1 }, {}⟩]

def sampleClaim (name pvName : String) (uid : Nat) : PVC where
  ns := "app"
  name := name
  uid := some uid
  spec := { volumeName := pvName, request := some 10 }
  phase := .bound

def sampleVolumeOf (name : String) (uid : Nat) (claim : PVC) : PV where
  name := name
  uid := some uid
  claimRef := some claim.ref
  phase := .bound
  capacity := some 10

def sampleSource : PVC := sampleClaim "data" "pv-source" 1

def sampleTemporary : PVC := sampleClaim "data-copy" "pv-destination" 3

/-- The cluster before the activation: both claims are there. -/
def sampleWorld (destinationNamespace : String) : World ClusterMigration where
  claims key :=
    if key = ("app", "data") then some sampleSource
    else if key = ("app", "data-copy") then some sampleTemporary
    else none
  volumes name :=
    if name = "pv-source" then some (sampleVolumeOf "pv-source" 2 sampleSource)
    else if name = "pv-destination" then some (sampleVolumeOf "pv-destination" 4 sampleTemporary)
    else none
  pods := []
  attachments := []
  nextUID := 5
  clock := ""
  time := 1
  record := sampleMigration destinationNamespace

def sampleBindings : PVCTransferBindings :=
  plannedMigrationBindings "app" sampleVolume sampleReservation

def sampleCutover (destinationNamespace : String) (hne : destinationNamespace ≠ "") : Cutover where
  sessionID := "move-data"
  activateNamespace := destinationNamespace
  volume := sampleBindings
  desired := migrationPVCManifest "move-data" sampleBindings destinationNamespace sampleVolume 10
  capacity := 10
  session_ne := by decide
  namespace_ne := hne
  complete := by decide
  manifest := ⟨rfl, rfl, rfl, rfl, rfl, rfl⟩
  request := rfl
  positive := by decide
  volumes_ne := by decide
  claims_ne := by decide

variable {destinationNamespace : String}

theorem sampleSource_claimed :
    Cutover.Claimed (sampleWorld destinationNamespace) "move-data" sampleBindings.sourcePVC
      sampleBindings.sourcePV sampleSource (sampleVolumeOf "pv-source" 2 sampleSource) where
  claim := rfl
  identity := rfl
  finalizers := by decide
  annotated := by decide
  labelled := by decide
  phase := rfl
  volumeName := rfl
  claimRef := rfl
  fits := by decide

theorem sampleTemporary_claimed :
    Cutover.Claimed (sampleWorld destinationNamespace) "move-data" sampleBindings.destinationPVC
      sampleBindings.destinationPV sampleTemporary
      (sampleVolumeOf "pv-destination" 4 sampleTemporary) where
  claim := rfl
  identity := rfl
  finalizers := by decide
  annotated := by decide
  labelled := by decide
  phase := rfl
  volumeName := rfl
  claimRef := rfl
  fits := by decide

theorem sample_volumes (hne : destinationNamespace ≠ "") :
    (sampleCutover destinationNamespace hne).Volumes (sampleWorld destinationNamespace)
      (sampleVolumeOf "pv-source" 2 sampleSource)
      (sampleVolumeOf "pv-destination" 4 sampleTemporary) where
  sourceHeld := ⟨rfl, rfl, rfl, .inl rfl⟩
  destinationHeld := ⟨rfl, rfl, rfl, .inl rfl⟩
  sourceAlive := rfl
  destinationAlive := rfl
  fits := by rfl
  quiet := by constructor <;> simp [World.NoConsumers, World.Detached, sampleWorld]

theorem sample_settled : (sampleWorld destinationNamespace).Settled := by
  intro key pvc hclaim
  simp only [sampleWorld] at hclaim
  split at hclaim
  · rw [← Option.some.inj hclaim]
    rfl
  · split at hclaim
    · rw [← Option.some.inj hclaim]
      rfl
    · cases hclaim

theorem sample_entry (destinationNamespace : String) (hne : destinationNamespace ≠ "")
    (hvalid : validateClusterMigrationObject (sampleMigration destinationNamespace) = .ok ())
    (hplace : (destinationNamespace, "data") = ("app", "data") ∨
      (sampleWorld destinationNamespace).claims (destinationNamespace, "data") = none) :
    ActivationEntry (sampleCutover destinationNamespace hne)
      (sampleMigration destinationNamespace) (samplePlan destinationNamespace) sampleVolume
      (sampleWorld destinationNamespace) where
  record := rfl
  valid := validateClusterMigrationObject_eq_ok.mp hvalid
  planned := rfl
  home := nofun
  member := List.mem_singleton.mpr rfl
  phase_eq := rfl
  cutover := rfl
  named := show blank "move-data" = false by decide
  session := rfl
  destination := rfl
  transfer := rfl
  capacity := rfl
  manifest := rfl
  untouched := rfl
  settled := sample_settled
  storage := ⟨_, _, _, _, sample_volumes hne, sampleTemporary_claimed, sampleSource_claimed⟩
  place := hplace.imp_right .inl
  others other hmem hne := absurd (List.mem_singleton.mp hmem) hne

def admitsAll : AdmissionPolicies := fun _ => .ok {}

/-- In the namespace `app` the sample recovers. -/
theorem activation_recovers_iff_sameNamespace :
    ActivationEntry (sampleCutover "app" (by decide)) (sampleMigration "app") (samplePlan "app")
      sampleVolume (sampleWorld "app") ∧ AdmissionPolicies.Satisfied admitsAll ∧
    (ActivationRecovers (sampleCutover "app" (by decide)) admitsAll sampleVolume
      (sampleWorld "app") ↔ (samplePlan "app").destinationNamespace = "app") :=
  have hentry := sample_entry "app" (by decide) (by decide) (.inl rfl)
  ⟨hentry, fun _ => rfl, activation_recovers_iff hentry fun _ => rfl⟩

/-- Moved to the namespace `other`, the sample does not recover from every stop. -/
theorem crossNamespace_activation_not_recovers :
    ActivationEntry (sampleCutover "other" (by decide)) (sampleMigration "other")
      (samplePlan "other") sampleVolume (sampleWorld "other") ∧
    AdmissionPolicies.Satisfied admitsAll ∧
    ¬ ActivationRecovers (sampleCutover "other" (by decide)) admitsAll sampleVolume
      (sampleWorld "other") :=
  have hentry := sample_entry "other" (by decide) (by decide) (.inr rfl)
  ⟨hentry, fun _ => rfl, hentry.not_recovers (by decide) fun _ => rfl⟩

theorem keeps_data_crossNamespace :
    ∃ v, run exec ((sampleCutover "other" (by decide)).resume (activationSlot "data"))
      (sampleWorld "other") = (.ok (), v) ∧ (sampleCutover "other" (by decide)).Final v :=
  ((sample_entry "other" (by decide) (by decide) (.inr rfl)).keeps_data
    (show _ ≠ _ by decide) .refl).2.2

end Sample

end PvcMigrate
