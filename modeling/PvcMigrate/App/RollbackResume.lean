import PvcMigrate.App.ActivationResume
import PvcMigrate.Kube.RollbackRecovery

/-!
# Resuming a rollback

`ValidateRollback` (`migration_executor_lifecycle.go`, `namespaced_migration_lifecycle.go`) decides
whether a ClusterMigration or a Migration may be rolled back, or its rollback continued.  In the
phase RollingBack it first looks for a rollback that was stopped before its checkpoint
(`validateUnrecordedRollbackStorage`); an activation that is recorded is checked as such, and the
other volumes have to pass the offline check.
-/

namespace PvcMigrate

open Kube Prog

variable {ρ : Type}

/-! ## Validation -/

section Validation

variable (deleting : Bool) (object : ClusterMigration)

def mayRollBack : WorkflowPhase → Bool
  | .finalSynced | .activating | .activated | .resuming | .completed | .rollingBack => true
  | _ => false

variable (plan : ClusterMigrationPlan)

/-- The last part of the loop of `ValidateRollback`: an activated claim is checked, a volume without
one is left to the offline check. -/
def rollbackActivated (phase : WorkflowPhase) (volume : VolumeSpec) :
    Switch ρ (Option PVCTransferBindings) := do
  let activation := (object.checkpoint volume).activation
  let binding := object.bindings plan volume
  if activation.activatedAt ≠ none ∨ activation.activePVC ≠ none then do
    verifyActiveStorageVolume deleting object.name binding.sourcePVC plan.destinationNamespace
      binding.destinationPV activation.activePVC
    pure none
  else if phase = .activating then do
    let probe ← unrecordedActivePVC binding.sourcePVC binding.sourcePV plan.destinationNamespace
    match probe.1 with
    | some active => do
      verifyActiveStorageVolume deleting object.name binding.sourcePVC plan.destinationNamespace
        binding.destinationPV (some active)
      pure none
    | none => pure (some binding)
  else pure (some binding)

/-- The body of the loop of `ValidateRollback`. -/
def rollbackVolume (phase : WorkflowPhase) (volume : VolumeSpec) :
    Switch ρ (Option PVCTransferBindings) := do
  let activation := (object.checkpoint volume).activation
  let binding := object.bindings plan volume
  if activation.rolledBackAt ≠ none then do
    verifyRollbackStorageVolume deleting object.name binding.sourcePVC binding.sourcePV
      activation.activePVC
    pure none
  else if phase = .rollingBack then do
    let recovered ← validateUnrecordedRollbackStorage deleting object.name binding.sourcePVC
      binding.sourcePV binding.destinationPV activation.activePVC
    if recovered then pure none
    else rollbackActivated deleting object plan phase volume
  else rollbackActivated deleting object plan phase volume

def verifyRestoredVolumes : Switch ρ Unit :=
  each (fun volume =>
    let binding := object.bindings plan volume
    verifyRollbackStorageVolume deleting object.name binding.sourcePVC binding.sourcePV
      (object.checkpoint volume).activation.activePVC) plan.volumes

/-- `ValidateRollback`, of either kind of migration.  A validated object without a plan is in no
phase that can roll back. -/
def validateRollbackOf (validate : ClusterMigration → Except Error Unit) : Switch ρ Unit := do
  ofCheck (validate object)
  let phase := workflowResumePhase object.status
  match object.plan with
  | none => fail (newError .precondition "rollback migration" "migration phase cannot roll back")
  | some plan =>
    if phase = .rolledBack then verifyRestoredVolumes deleting object plan
    else do
      reject (mayRollBack phase = false) (newError .precondition "rollback migration"
        "migration phase cannot roll back")
      let offline ← gather (rollbackVolume deleting object plan phase) plan.volumes
      if phase = .activating ∨ phase = .rollingBack then
        verifyActivationRecovery object.name offline
      else verifyVolumesOfflineForSession object.name offline

def ClusterMigrationExecutor.validateRollback : Switch ρ Unit :=
  validateRollbackOf deleting object validateClusterMigrationObject

def MigrationExecutor.validateRollback : Switch ρ Unit :=
  validateRollbackOf deleting object validateMigrationObject

def MigrationKind.validateRollback : MigrationKind → Switch ρ Unit
  | .clusterMigration => ClusterMigrationExecutor.validateRollback deleting object
  | .migration => MigrationExecutor.validateRollback deleting object

theorem MigrationKind.validateRollback_eq (kind : MigrationKind) :
    (kind.validateRollback deleting object : Switch ρ Unit) =
      validateRollbackOf deleting object kind.validate := by
  cases kind <;> rfl

end Validation

/-! ## What the validation accepts -/

section Accepts

variable {w : World ρ} {sessionID destinationNamespace : String} {binding : PVCTransferBindings}
  {activation : ActivationStatus} {kind : MigrationKind} {object : ClusterMigration}
  {plan : ClusterMigrationPlan} {volume : VolumeSpec}

/-- The source claim is missing, or bound to another volume. -/
def Unrestored (w : World ρ) (binding : PVCTransferBindings) : Prop :=
  ∀ pvc, w.claims binding.sourcePVC.key = some pvc →
    pvc.spec.volumeName ≠ binding.sourcePV.name

/-- What `ValidateRollback` accepts of one volume in the phase RollingBack. -/
inductive RollbackAccepted (w : World ρ) (sessionID destinationNamespace : String)
    (binding : PVCTransferBindings) (activation : ActivationStatus) : Prop
  /-- the rollback is recorded, and the restored claim is in place -/
  | rolledBack {restored : ObjectReference} {pvc : PVC} {pv : PV}
      (finished : activation.rolledBackAt ≠ none)
      (recorded : activation.activePVC = some restored)
      (storage : RestoredStorage w sessionID binding.sourcePVC binding.sourcePV restored pvc pv)
  /-- the restored claim is in place and not recorded -/
  | restored {pvc : PVC} {pv : PV} (unfinished : activation.rolledBackAt = none)
      (storage : RestoredStorage w sessionID binding.sourcePVC binding.sourcePV pvc.ref pvc pv)
  /-- the source claim is missing, and both volumes prove where they come from -/
  | removed {active : ObjectReference} (unfinished : activation.rolledBackAt = none)
      (gone : w.claims binding.sourcePVC.key = none)
      (recorded : activation.activePVC = some active)
      (place : active.key = (destinationNamespace, binding.sourcePVC.name))
      (complete : active.name ≠ "" ∧ active.uid ≠ none)
      (offline : BindingsAccepted w sessionID
        ⟨active, binding.destinationPV, binding.sourcePVC, binding.sourcePV⟩ true)
  /-- the activated claim is in the place of the source claim -/
  | active {active : ObjectReference} {current pvc : PVC} {pv : PV}
      (unfinished : activation.rolledBackAt = none)
      (present : w.claims binding.sourcePVC.key = some current)
      (other : current.spec.volumeName ≠ binding.sourcePV.name)
      (recorded : activation.activePVC = some active)
      (storage : ActiveStorage w sessionID binding.sourcePVC destinationNamespace
        binding.destinationPV active pvc pv)
  /-- no activation is recorded, and the volume is offline -/
  | staged (unfinished : activation.rolledBackAt = none) (unrecorded : ¬ activation.IsRecorded)
      (unrestored : Unrestored w binding)
      (offline : BindingsAccepted w sessionID binding true)

theorem readOnly_verifyActivationRecovery {volumes : List PVCTransferBindings} :
    ReadOnly (verifyActivationRecovery sessionID volumes : Switch ρ Unit) :=
  only_reject_bind readOnly_verifyOfflineBindings

theorem accepts_verifyActivationRecovery {volumes : List PVCTransferBindings}
    (hsession : blank sessionID = false) :
    Accepts (verifyActivationRecovery sessionID volumes) w ↔
      Accepts (verifyOfflineBindings sessionID volumes true) w := by
  simp [verifyActivationRecovery, hsession]

theorem readOnly_validateUnrecordedRollbackStorage
    {sourcePVC sourcePV destinationPV : ObjectReference} {active : Option ObjectReference} :
    ReadOnly (validateUnrecordedRollbackStorage false sessionID sourcePVC sourcePV destinationPV
      active : Switch ρ Bool) := by
  refine only_bind readOnly_getPVC fun pvc => ?_
  cases pvc with
  | none =>
    exact only_ite only_pure (only_bind readOnly_verifyActivationRecovery fun _ => only_pure)
  | some pvc =>
    exact only_ite only_pure (only_bind readOnly_verifyRollbackStorageVolume fun _ => only_pure)

theorem readOnly_rollbackActivated {phase : WorkflowPhase} :
    ReadOnly (rollbackActivated false object plan phase volume :
      Switch ρ (Option PVCTransferBindings)) := by
  refine only_ite (only_bind readOnly_verifyActiveStorageVolume fun _ => only_pure)
    (only_ite (only_bind readOnly_unrecordedActivePVC fun probe => ?_) only_pure)
  rcases probe with ⟨_ | active, found⟩
  · exact only_pure
  · exact only_bind readOnly_verifyActiveStorageVolume fun _ => only_pure

theorem readOnly_rollbackVolume {phase : WorkflowPhase} :
    ReadOnly (rollbackVolume false object plan phase volume :
      Switch ρ (Option PVCTransferBindings)) :=
  only_ite (only_bind readOnly_verifyRollbackStorageVolume fun _ => only_pure)
    (only_ite (only_bind readOnly_validateUnrecordedRollbackStorage fun _ =>
      only_ite only_pure readOnly_rollbackActivated) readOnly_rollbackActivated)

/-- A volume that is not rolled back is looked for in the cluster first. -/
theorem yields_rollbackVolume_open {result : Option PVCTransferBindings}
    (hopen : (object.checkpoint volume).activation.rolledBackAt = none) :
    Yields (rollbackVolume false object plan .rollingBack volume) w result ↔
      ∃ recovered, Yields (validateUnrecordedRollbackStorage false object.name
          (object.bindings plan volume).sourcePVC (object.bindings plan volume).sourcePV
          (object.bindings plan volume).destinationPV
          (object.checkpoint volume).activation.activePVC) w recovered ∧
        Yields (if recovered then pure none
          else rollbackActivated false object plan .rollingBack volume) w result := by
  rw [rollbackVolume, if_neg (by simp [hopen]), if_pos rfl,
    yields_bind readOnly_validateUnrecordedRollbackStorage]

/-- There is no rollback to recognise: the source claim is missing without a recorded activation,
or bound to another volume. -/
theorem yields_validateUnrecorded_false {active : Option ObjectReference} {recovered : Bool}
    (hunrestored : Unrestored w binding)
    (hactive : w.claims binding.sourcePVC.key = none → active = none) :
    Yields (validateUnrecordedRollbackStorage false sessionID binding.sourcePVC binding.sourcePV
      binding.destinationPV active) w recovered ↔ recovered = false := by
  rw [validateUnrecordedRollbackStorage, yields_getPVC, Cutover.key_ns_name]
  cases hclaim : w.claims binding.sourcePVC.key with
  | none => simp [hactive hclaim, eq_comm]
  | some pvc => simp [hunrestored pvc hclaim, eq_comm]

/-- In the phase RollingBack an unrecorded volume is left to the offline check. -/
theorem rollbackActivated_unrecorded
    (hunrecorded : ¬ (object.checkpoint volume).activation.IsRecorded) :
    (rollbackActivated false object plan .rollingBack volume : Switch ρ _) =
      pure (some (object.bindings plan volume)) := by
  rw [rollbackActivated, if_neg (show ¬ (_ ∨ _) from hunrecorded), if_neg (by decide)]

/-- The volume is left to the offline check, or it is accepted at once. -/
theorem yields_rollbackVolume_of_accepted (hsession : blank object.name = false)
    (h : RollbackAccepted w object.name plan.destinationNamespace (object.bindings plan volume)
      (object.checkpoint volume).activation) :
    ∃ result, Yields (rollbackVolume false object plan .rollingBack volume) w result ∧
      ∀ staged ∈ result, BindingsAccepted w object.name staged true := by
  cases h with
  | rolledBack hfinished hrecorded hstorage =>
    refine ⟨none, ?_, by simp⟩
    rw [rollbackVolume, if_pos hfinished, hrecorded,
      yields_bind_of_accepts readOnly_verifyRollbackStorageVolume]
    exact ⟨accepts_verifyRollbackStorageVolume.mpr ⟨_, _, hstorage⟩, yields_pure.mpr rfl⟩
  | @restored pvc pv hopen hstorage =>
    refine ⟨none, (yields_rollbackVolume_open hopen).mpr ⟨true, ?_, yields_pure.mpr rfl⟩, by simp⟩
    have hclaim : w.claims ((object.bindings plan volume).sourcePVC.ns,
        (object.bindings plan volume).sourcePVC.name) = some pvc := by
      rw [← hstorage.ns, ← hstorage.name]
      exact hstorage.claim
    rw [validateUnrecordedRollbackStorage, yields_getPVC, hclaim]
    simp only [hstorage.volumeName, ne_eq, not_true_eq_false, if_false]
    exact (yields_bind_of_accepts readOnly_verifyRollbackStorageVolume).mpr
      ⟨accepts_verifyRollbackStorageVolume.mpr ⟨pvc, pv, hstorage⟩, yields_pure.mpr rfl⟩
  | @removed active hopen hgone hrecorded hplace hcomplete hoffline =>
    refine ⟨none, (yields_rollbackVolume_open hopen).mpr ⟨true, ?_, yields_pure.mpr rfl⟩, by simp⟩
    have hclaim : w.claims ((object.bindings plan volume).sourcePVC.ns,
        (object.bindings plan volume).sourcePVC.name) = none := hgone
    rw [validateUnrecordedRollbackStorage, yields_getPVC, hclaim, hrecorded]
    simp only [Option.getD_some, hcomplete.1, hcomplete.2, or_self, if_false]
    refine (yields_bind_of_accepts readOnly_verifyActivationRecovery).mpr
      ⟨(accepts_verifyActivationRecovery hsession).mpr (accepts_verifyOfflineBindings ?_),
        yields_pure.mpr rfl⟩
    intro transfer hmem
    rw [List.mem_singleton.mp hmem]
    exact hoffline
  | @active active current pvc pv hopen hpresent hother hrecorded hstorage =>
    have hunrestored : Unrestored w (object.bindings plan volume) := by
      intro found hfound
      obtain rfl := Option.some.inj (hpresent.symm.trans hfound)
      exact hother
    have habsent : w.claims (object.bindings plan volume).sourcePVC.key = none →
        (object.checkpoint volume).activation.activePVC = none := fun hgone =>
      absurd (hpresent.symm.trans hgone) (Option.some_ne_none current)
    refine ⟨none, (yields_rollbackVolume_open hopen).mpr ⟨false,
      (yields_validateUnrecorded_false hunrestored habsent).mpr rfl, ?_⟩, by simp⟩
    have hrecorded' : (object.checkpoint volume).activation.activatedAt ≠ none ∨
        (object.checkpoint volume).activation.activePVC ≠ none := .inr (by simp [hrecorded])
    rw [if_neg Bool.false_ne_true, rollbackActivated, if_pos hrecorded', hrecorded]
    exact (yields_bind_of_accepts readOnly_verifyActiveStorageVolume).mpr
      ⟨accepts_verifyActiveStorageVolume.mpr ⟨pvc, pv, hstorage⟩, yields_pure.mpr rfl⟩
  | staged hopen hunrecorded hunrestored hoffline =>
    have habsent : w.claims (object.bindings plan volume).sourcePVC.key = none →
        (object.checkpoint volume).activation.activePVC = none := fun _ => by
      by_contra hactive
      exact hunrecorded (.inr hactive)
    refine ⟨some (object.bindings plan volume), (yields_rollbackVolume_open hopen).mpr ⟨false,
      (yields_validateUnrecorded_false hunrestored habsent).mpr rfl, ?_⟩, ?_⟩
    · rw [if_neg Bool.false_ne_true, rollbackActivated_unrecorded hunrecorded]
      exact yields_pure.mpr rfl
    · intro staged hstaged
      obtain rfl := Option.some.inj hstaged
      exact hoffline

/-- While it rolls back, `ValidateRollback` is the validation of the object, the checks of the
single volumes and the offline check of those that were not activated. -/
theorem accepts_validateRollback_iff (hplan : object.plan = some plan)
    (hphase : workflowResumePhase object.status = .rollingBack)
    (hsession : blank object.name = false) :
    Accepts (kind.validateRollback false object) w ↔
      kind.validate object = .ok () ∧ ∃ offline,
        Yields (gather (rollbackVolume false object plan .rollingBack) plan.volumes) w offline ∧
          Accepts (verifyOfflineBindings object.name offline true) w := by
  rw [MigrationKind.validateRollback_eq, validateRollbackOf, accepts_ofCheck_bind, hplan, hphase]
  refine and_congr_right fun _ => ?_
  simp only [reduceCtorEq, if_false, accepts_reject_bind, mayRollBack, not_false_eq_true, true_and,
    or_true, if_true, Bool.true_eq_false]
  rw [accepts_bind_of_readOnly (only_gather fun _ _ => readOnly_rollbackVolume)]
  refine exists_congr fun offline => and_congr_right fun _ => ?_
  exact accepts_verifyActivationRecovery hsession

theorem accepts_validateRollback (hvalid : kind.validate object = .ok ())
    (hplan : object.plan = some plan) (hphase : workflowResumePhase object.status = .rollingBack)
    (hsession : blank object.name = false)
    (h : ∀ volume ∈ plan.volumes, RollbackAccepted w object.name plan.destinationNamespace
      (object.bindings plan volume) (object.checkpoint volume).activation) :
    Accepts (kind.validateRollback false object) w := by
  refine (accepts_validateRollback_iff hplan hphase hsession).mpr ⟨hvalid, ?_⟩
  obtain ⟨offline, hoffline, haccepted⟩ := yields_gather_of_forall
    (fun _ _ => readOnly_rollbackVolume) (fun volume hmem =>
      yields_rollbackVolume_of_accepted hsession (h volume hmem))
  exact ⟨offline, hoffline, accepts_verifyOfflineBindings haccepted⟩

/-- What is accepted of a volume depends on the objects of that volume. -/
theorem RollbackAccepted.congr {u : World ρ}
    (h : RollbackAccepted w sessionID destinationNamespace binding activation)
    (hsame : SamePlaces w u binding (destinationNamespace, binding.sourcePVC.name)) :
    RollbackAccepted u sessionID destinationNamespace binding activation := by
  cases h with
  | rolledBack hfinished hrecorded hstorage =>
    exact .rolledBack hfinished hrecorded (hstorage.congr hsame.source hsame.sourcePV)
  | restored hopen hstorage =>
    exact .restored hopen (hstorage.congr hsame.source hsame.sourcePV)
  | @removed active hopen hgone hrecorded hplace hcomplete hoffline =>
    have hactive : u.claims active.key = w.claims active.key := by
      rw [hplace]
      exact hsame.target
    have hreversed : SamePlaces w u
        ⟨active, binding.destinationPV, binding.sourcePVC, binding.sourcePV⟩ active.key :=
      ⟨hactive, hsame.source, hactive, hsame.destinationPV, hsame.sourcePV, hsame.pods,
        hsame.attachments⟩
    exact .removed hopen (hsame.source.trans hgone) hrecorded hplace hcomplete
      (hoffline.congr hreversed)
  | active hopen hpresent hother hrecorded hstorage =>
    exact .active hopen (hsame.source.trans hpresent) hother hrecorded
      (hstorage.congr hsame.target hsame.destinationPV)
  | staged hopen hunrecorded hunrestored hoffline =>
    refine .staged hopen hunrecorded (fun pvc hclaim => hunrestored pvc ?_) (hoffline.congr hsame)
    rw [← hsame.source]
    exact hclaim

end Accepts

/-! ## The states of a rollback are accepted -/

section States

variable {P : Rollback} {w : World ρ} {source destination : PV} {status : ActivationStatus}

theorem restoredStorage_of_home {pvc : PVC} (hstorage : P.Storage w source destination)
    (hhome : P.Home w pvc source) :
    RestoredStorage w P.sessionID P.volume.sourcePVC P.volume.sourcePV pvc.ref pvc source where
  complete := ⟨fun hns => P.complete.1.1 (hhome.ns.symm.trans hns),
    fun hname => P.complete.1.2.1 (hhome.name.symm.trans hname), hhome.uid⟩
  ns := hhome.ns
  name := hhome.name
  volumeComplete := P.complete.2.1
  claim := by
    rw [show (pvc.ref.ns, pvc.ref.name) = P.volume.sourcePVC.key from
      Prod.ext hhome.ns hhome.name]
    exact hhome.claim
  named := fun hname => P.complete.1.2.1 (hhome.name.symm.trans hname)
  uid := rfl
  phase := hhome.phase
  volumeName := hhome.volumeName
  owned := hhome.owned
  storage := ⟨hstorage.sourceHeld.volume,
    fun hname => P.complete.2.1.1 (hstorage.sourceHeld.name.symm.trans hname),
    hstorage.sourceHeld.uid, hhome.claimRef⟩

/-- A volume in whatever state of its rollback passes, if it stays in its namespace: the reversed
pair expects the reservation that `RollbackPVC` makes. -/
theorem rollbackAccepted_of_restoring (hsame : P.activateNamespace = P.volume.sourcePVC.ns)
    (hstorage : P.Storage w source destination) (hstate : P.Restoring w source destination status) :
    RollbackAccepted w P.sessionID P.activateNamespace P.volume status := by
  have htarget : P.target = P.volume.sourcePVC.key := by rw [Cutover.target, hsame]; rfl
  cases hstate with
  | @active active time activated spin dpin sref =>
    refine .active rfl (htarget ▸ activated.claim) (fun hvolume => ?_) rfl
      (activeStorage_of_activated activated hstorage.destinationHeld)
    exact P.volumes_ne (hvolume.symm.trans activated.volumeName)
  | @removed active time gone consistent spin dpin sref dref =>
    obtain ⟨hname, hns, huid⟩ := consistent.activePVC active.ref rfl
    have hplace : active.ref.key = P.target := Prod.ext hns hname
    have hnamed : active.ref.name ≠ "" := by
      rw [hname]
      exact P.complete.1.2.1
    have hcomplete : active.ref.ClaimComplete :=
      ⟨by rw [hns]; exact P.namespace_ne, hnamed, huid⟩
    have hunused : w.NoConsumers active.ref.ns active.ref.name := by
      rw [hns, hname]
      exact hstorage.quiet.target
    have hgone : w.claims active.ref.key = none := by rwa [hplace, htarget]
    refine .removed rfl gone rfl hplace ⟨hnamed, huid⟩ ⟨⟨hcomplete, P.complete.2.2.2,
      P.complete.1, P.complete.2.1⟩, .inr ⟨hgone, _, rfl, destination, ?_⟩,
      .inr ⟨gone, _, rfl, source, ?_⟩, hunused, hstorage.quiet.source,
      hstorage.quiet.destinationDetached, hstorage.quiet.sourceDetached⟩
    · exact ⟨hstorage.destinationHeld.volume, hstorage.destinationHeld.uid,
        hstorage.destinationAlive, dpin, .inl dref⟩
    · refine ⟨hstorage.sourceHeld.volume, hstorage.sourceHeld.uid, hstorage.sourceAlive, spin,
        sref.imp_right fun hreserved => ⟨hnamed, ?_⟩⟩
      rw [hns, hname, hsame]
      exact hreserved
  | home present consistent =>
    exact .restored consistent.rolledBackAt (restoredStorage_of_home hstorage present)
  | saved time present consistent spin dpin srole drole =>
    exact .rolledBack (by simp [ActivationStatus.rolledBack]) rfl
      (restoredStorage_of_home hstorage present)

end States

/-! ## Recovery of one volume of a migration -/

/-- The claim `rollback` asks `RollbackPVC` to restore. -/
def rollbackPVCManifest (workflowID : String) (binding : PVCTransferBindings)
    (volume : VolumeSpec) : PVC :=
  let pvc := boundPVCManifest workflowID binding.sourcePVC binding.sourcePV.name
    volume.sourcePVCSpec volume.sourcePVCMetadata
  { pvc with annotations := pvc.annotations.set rollbackPVAnnotation binding.destinationPV.name }

/-- A migration in the phase RollingBack, about to roll back its volume `volume`.  The other volumes
are in a state that `ValidateRollback` accepts. -/
structure RollbackEntry (kind : MigrationKind) (P : Rollback) (object : ClusterMigration)
    (plan : ClusterMigrationPlan) (volume : VolumeSpec) (w : World ClusterMigration) : Prop extends
    InHand kind object plan volume .rollingBack where
  record : w.record = object
  -- the arguments `rollback` passes to `RollbackPVC`
  session : P.sessionID = object.name
  destination : P.activateNamespace = plan.destinationNamespace
  transfer : P.volume = object.bindings plan volume
  manifest : P.restored = rollbackPVCManifest object.name P.volume volume
  -- the storage is offline, however far the activation has come
  calm : w.Calm
  start : ∃ source destination, P.Storage w source destination ∧
    P.Start w source destination (object.checkpoint volume).activation
  others : ∀ other ∈ plan.volumes, other ≠ volume →
    P.Apart (object.bindings plan other) ∧
      RollbackAccepted w object.name plan.destinationNamespace (object.bindings plan other)
        (object.checkpoint other).activation

/-- In whatever world the rollback is stopped, once the claims that exist are bound:
`ValidateRollback` accepts the persisted object, in the phase RollingBack and as Failed with this
checkpoint. -/
def RollbackRecovers (kind : MigrationKind) (P : Rollback) (volume : VolumeSpec)
    (w : World ClusterMigration) : Prop :=
  ∀ u, Reruns exec (P.rollback (activationSlot volume.sourcePVC.name)) w World.Calm u →
    ∀ status, validateMigrationLifecycle status = .ok () →
      workflowResumePhase status = .rollingBack →
      Accepts (kind.validateRollback false { u.record with status := status }) u

/-- What is left to the offline check is the transfer of the volume. -/
theorem bindings_of_yields_rollbackVolume {object : ClusterMigration} {plan : ClusterMigrationPlan}
    {volume : VolumeSpec} {w : World ρ} {transfer : PVCTransferBindings}
    (h : Yields (rollbackVolume false object plan .rollingBack volume) w (some transfer)) :
    transfer = object.bindings plan volume := by
  by_cases hopen : (object.checkpoint volume).activation.rolledBackAt = none
  · obtain ⟨recovered, -, hrest⟩ := (yields_rollbackVolume_open hopen).mp h
    cases recovered with
    | true => cases yields_pure.mp hrest
    | false =>
      rw [if_neg Bool.false_ne_true] at hrest
      by_cases hrecorded : (object.checkpoint volume).activation.IsRecorded
      · rw [rollbackActivated, if_pos (show _ ∨ _ from hrecorded),
          yields_bind_of_accepts readOnly_verifyActiveStorageVolume] at hrest
        cases yields_pure.mp hrest.2
      · rw [rollbackActivated_unrecorded hrecorded] at hrest
        exact (Option.some.inj (yields_pure.mp hrest)).symm
  · rw [rollbackVolume, if_pos hopen,
      yields_bind_of_accepts readOnly_verifyRollbackStorageVolume] at h
    cases yields_pure.mp h.2

namespace RollbackEntry

open InHand

variable {kind : MigrationKind} {P : Rollback} {object : ClusterMigration}
  {plan : ClusterMigrationPlan} {volume : VolumeSpec} {w u : World ClusterMigration}
  {activation : ActivationStatus} {status : WorkflowStatus}
  (h : RollbackEntry kind P object plan volume w)
include h

theorem record_start : w.record = (activationSlot volume.sourcePVC.name).set w.record
      (object.checkpoint volume).activation := by
  rw [h.record, h.set_checkpoint]

theorem source_eq :
    P.volume.sourcePVC = ⟨plan.sourceNamespace, volume.sourcePVC.name, volume.sourcePVC.uid⟩ := by
  rw [h.transfer]
  rfl

theorem sameNamespace_iff : P.activateNamespace = P.volume.sourcePVC.ns ↔
      plan.destinationNamespace = plan.sourceNamespace := by
  rw [h.destination, h.source_eq]

/-- Every world left behind is accepted if the volume stays in its namespace. -/
theorem accepts_of_underway (hsame : P.activateNamespace = P.volume.sourcePVC.ns)
    (hunderway : P.Underway (activationSlot volume.sourcePVC.name) w u)
    (hlifecycle : validateMigrationLifecycle status = .ok ())
    (hphase : workflowResumePhase status = .rollingBack) :
    Accepts (kind.validateRollback false { u.record with status := status }) u := by
  obtain ⟨⟨source, destination, activation, hstorage, hstate, hrecord⟩, helse⟩ := hunderway
  rw [h.record] at hrecord
  rw [hrecord]
  have hname : P.volume.sourcePVC.name = volume.sourcePVC.name := by rw [h.source_eq]
  have haccepted := rollbackAccepted_of_restoring hsame hstorage hstate
  have hrecorded : (∀ ref ∈ activation.activePVC, ref.name = volume.sourcePVC.name ∧
      ref.ns = plan.destinationNamespace ∧ ref.uid ≠ none) ∧
      (activation.activatedAt ≠ none ∨ activation.rolledBackAt ≠ none →
        activation.activePVC ≠ none) := by
    have hopen (status : ActivationStatus) (hconsistent : P.Consistent status) :
        (∀ ref ∈ status.activePVC, ref.name = volume.sourcePVC.name ∧
          ref.ns = plan.destinationNamespace ∧ ref.uid ≠ none) ∧
        (status.activatedAt ≠ none ∨ status.rolledBackAt ≠ none → status.activePVC ≠ none) := by
      rw [← hname, ← h.destination]
      exact ⟨hconsistent.activePVC, fun hor => hor.elim hconsistent.activatedAt
        fun hrolled => absurd hconsistent.rolledBackAt hrolled⟩
    cases hstate with
    | active time activated spin dpin sref =>
      exact hopen _ (Rollback.consistent_of_activated activated)
    | removed time gone consistent spin dpin sref dref | home present consistent =>
      exact hopen _ consistent
    | @saved pvc status time present consistent spin dpin srole drole =>
      refine ⟨?_, by simp [ActivationStatus.rolledBack]⟩
      rintro ref ⟨⟩
      refine ⟨present.name.trans hname, ?_, present.uid⟩
      exact present.ns.trans (hsame.symm.trans h.destination)
  have hvalid := h.valid_persisted hlifecycle hphase hrecorded.1 hrecorded.2
  refine accepts_validateRollback (h.validate_persisted_iff.mpr hvalid) h.planned hphase h.named
    fun other hother => ?_
  rw [h.bindings_persisted hother]
  by_cases hvolume : other = volume
  · rw [h.session, h.destination, h.transfer] at haccepted
    rw [hvolume, h.checkpoint_persisted_self]
    exact haccepted
  · obtain ⟨hapart, haccepted⟩ := h.others other hother hvolume
    have hplaces := hapart.samePlaces helse
    rw [h.destination] at hplaces
    rw [checkpoint_persisted_of_ne (h.name_ne hother hvolume)]
    exact haccepted.congr hplaces

/-- In its own namespace, with the source claim or a recorded activation, the volume recovers from
every stop. -/
theorem recovers (hsame : P.activateNamespace = P.volume.sourcePVC.ns)
    (hrestartable : P.Restartable w (object.checkpoint volume).activation) :
    RollbackRecovers kind P volume w := by
  intro u hreruns status hlifecycle hphase
  obtain ⟨source, destination, hstorage, hstart⟩ := h.start
  have hunderway := Rollback.At.underway ⟨hstorage, h.record_start,
    ⟨fun _ _ _ _ => rfl, fun _ _ _ => rfl, rfl, rfl⟩⟩ (hstart.restoring hsame hrestartable)
  obtain ⟨hunderway', -⟩ := Rollback.converges hsame (h.owns h.record) hunderway hreruns
  exact h.accepts_of_underway hsame hunderway' hlifecycle hphase

/-- Without a recorded activation and a source claim on its volume, the transfer has to pass the
offline check, and no other transfer in it shares a claim with it. -/
theorem offline_of_accepts (hphase : workflowResumePhase status = .rollingBack)
    (hunrecorded : ¬ activation.IsRecorded) (hopen : activation.rolledBackAt = none)
    (hunrestored : Unrestored u P.volume) (haccepts :
      Accepts (kind.validateRollback false (persisted object volume activation status)) u) :
    ∃ offline, P.volume ∈ offline ∧
      Accepts (verifyOfflineBindings object.name offline true) u ∧
      ∀ transfer ∈ offline, transfer = P.volume ∨ P.Apart transfer := by
  have hplan : (persisted object volume activation status).plan = some plan := h.planned
  have hphase' : workflowResumePhase (persisted object volume activation status).status =
      .rollingBack := hphase
  have hnamed : blank (persisted object volume activation status).name = false := h.named
  obtain ⟨-, offline, hoffline, hidentities⟩ :=
    (accepts_validateRollback_iff hplan hphase' hnamed).mp haccepts
  refine ⟨offline, ?_, hidentities, ?_⟩
  · obtain ⟨result, hresult, hin⟩ := exists_of_yields_gather
      (fun _ _ => readOnly_rollbackVolume) hoffline h.member
    have hcheckpoint : ((persisted object volume activation status).checkpoint
        volume).activation = activation := by
      rw [h.checkpoint_persisted_self]
      rfl
    have hbindings : (persisted object volume activation status).bindings plan volume =
        P.volume := (h.bindings_persisted h.member).trans h.transfer.symm
    obtain ⟨recovered, hrecovered, hrest⟩ := (yields_rollbackVolume_open
      (by rw [hcheckpoint]; exact hopen)).mp hresult
    rw [hbindings, hcheckpoint] at hrecovered
    have hnone : activation.activePVC = none := by
      by_contra hactive
      exact hunrecorded (.inr hactive)
    rw [(yields_validateUnrecorded_false hunrestored fun _ => hnone).mp hrecovered,
      if_neg Bool.false_ne_true, rollbackActivated_unrecorded (by rwa [hcheckpoint]),
      hbindings] at hrest
    exact hin P.volume (yields_pure.mp hrest).symm
  · intro transfer hmem
    obtain ⟨other, hother, hyields⟩ := mem_of_yields_gather
      (fun _ _ => readOnly_rollbackVolume) hoffline hmem
    have hbindings := bindings_of_yields_rollbackVolume hyields
    rw [h.bindings_persisted hother] at hbindings
    by_cases hvolume : other = volume
    · rw [hbindings, hvolume]
      exact .inl h.transfer.symm
    · rw [hbindings]
      exact .inr (h.others other hother hvolume).1

/-- An activated claim that is not recorded is rejected before the rollback does anything: the
destination volume is bound to a claim the offline check does not know. -/
theorem rejects_unrecorded {active : PVC} {pv : PV} (hactive : P.Activated w active pv)
    (hdestination : w.volumes P.volume.destinationPV.name = some pv)
    (htemporary : w.claims P.volume.destinationPVC.key = none)
    (hsource : P.target = P.volume.sourcePVC.key ∨ w.claims P.volume.sourcePVC.key = none)
    (hunrecorded : ¬ (object.checkpoint volume).activation.IsRecorded)
    (hopen : (object.checkpoint volume).activation.rolledBackAt = none) :
    ¬ Accepts (kind.validateRollback false { w.record with status := object.status }) w := by
  intro haccepts
  have hself : { w.record with status := object.status } =
      persisted object volume (object.checkpoint volume).activation object.status := by
    rw [h.record, persisted, h.set_checkpoint]
  rw [hself] at haccepts
  have hunrestored : Unrestored w P.volume := by
    intro pvc hclaim hvolume
    rcases hsource with htarget | hgone
    · rw [← htarget, hactive.claim] at hclaim
      obtain rfl := Option.some.inj hclaim
      exact P.volumes_ne (hvolume.symm.trans hactive.volumeName)
    · exact Option.some_ne_none pvc (hclaim.symm.trans hgone)
  obtain ⟨offline, hmem, hidentities, hothers⟩ :=
    h.offline_of_accepts h.phase_eq hunrecorded hopen hunrestored haccepts
  have haccepted := destination_accepted_of_accepts hidentities hmem fun transfer htransfer =>
    Cutover.destination_unshared (hothers transfer htransfer)
  rcases haccepted with ⟨pvc, pv', hlive⟩ | ⟨-, reservation, -, pv', hretained⟩
  · exact Option.some_ne_none pvc (hlive.claim.symm.trans htemporary)
  · obtain rfl := Option.some.inj (hdestination.symm.trans hretained.volume)
    rcases hretained.claimRef with horiginal | ⟨-, hreserved⟩
    · -- the activated claim would be the temporary claim, which is gone
      have href : active.ref = P.volume.destinationPVC :=
        Option.some.inj (hactive.claimRef.symm.trans horiginal)
      have hplace : active.ref.key = P.target := Prod.ext hactive.ns hactive.name
      rw [← href, hplace, hactive.claim] at htemporary
      cases htemporary
    · exact hactive.uid (congrArg ObjectReference.uid
        (Option.some.inj (hactive.claimRef.symm.trans hreserved)))

/-- A reserved source volume without a recorded activation is rejected: the offline check expects
no reservation of the source volume. -/
theorem rejects_reserved {source : PV} (hstop : P.ReservedStop w u source)
    (hunrecorded : ¬ (object.checkpoint volume).activation.IsRecorded)
    (hopen : (object.checkpoint volume).activation.rolledBackAt = none) :
    ¬ Accepts (kind.validateRollback false { u.record with status := object.status }) u := by
  intro haccepts
  have hself : { u.record with status := object.status } =
      persisted object volume (object.checkpoint volume).activation object.status := by
    rw [hstop.record, h.record, persisted, h.set_checkpoint]
  rw [hself] at haccepts
  have hunrestored : Unrestored u P.volume := fun pvc hclaim _ =>
    Option.some_ne_none pvc (hclaim.symm.trans hstop.gone)
  obtain ⟨offline, hmem, hidentities, hothers⟩ :=
    h.offline_of_accepts h.phase_eq hunrecorded hopen hunrestored haccepts
  have haccepted := source_accepted_of_accepts hidentities hmem fun transfer htransfer heq => by
    rcases hothers transfer htransfer with rfl | hapart
    · exact P.claims_ne (congrArg ObjectReference.key heq)
    · exact (hapart.claims _ (by simp)).2.1 (congrArg ObjectReference.key heq)
  rcases haccepted with ⟨pvc, pv, hlive⟩ | ⟨-, reservation, hreservation, pv, hretained⟩
  · exact Option.some_ne_none pvc (hlive.claim.symm.trans hstop.gone)
  · obtain rfl := Option.some.inj (hstop.volume.symm.trans hretained.volume)
    obtain rfl : ({} : ObjectReference) = reservation := Option.some.inj hreservation
    rcases hretained.claimRef with horiginal | ⟨hnamed, -⟩
    · exact P.complete.1.2.2 (congrArg ObjectReference.uid
        (Option.some.inj (hstop.reserved.symm.trans horiginal))).symm
    · exact hnamed rfl

/-- A reserved source volume is rejected too if the recorded activated claim is of another
namespace: the reversed pair expects a reservation for that claim. -/
theorem rejects_reserved_foreign {source : PV}
    (hother : P.activateNamespace ≠ P.volume.sourcePVC.ns)
    (hstop : P.ReservedStop w u source) {active : ObjectReference}
    (hrecorded : (object.checkpoint volume).activation.activePVC = some active)
    (hactive : active.name = P.volume.sourcePVC.name ∧ active.ns = P.activateNamespace ∧
      active.uid ≠ none)
    (hopen : (object.checkpoint volume).activation.rolledBackAt = none) :
    ¬ Accepts (kind.validateRollback false { u.record with status := object.status }) u := by
  intro haccepts
  have hself : { u.record with status := object.status } = object := by
    rw [hstop.record, h.record]
  rw [hself] at haccepts
  obtain ⟨-, offline, hoffline, -⟩ :=
    (accepts_validateRollback_iff h.planned h.phase_eq h.named).mp haccepts
  obtain ⟨result, hresult, -⟩ := exists_of_yields_gather
    (fun _ _ => readOnly_rollbackVolume) hoffline h.member
  obtain ⟨recovered, hrecovered, -⟩ := (yields_rollbackVolume_open hopen).mp hresult
  have hgone : u.claims (P.volume.sourcePVC.ns, P.volume.sourcePVC.name) = none := hstop.gone
  have hincomplete : ¬ (active.name = "" ∨ active.uid = none) := by
    rintro (hname | huid)
    · exact P.complete.1.2.1 (hactive.1.symm.trans hname)
    · exact hactive.2.2 huid
  rw [← h.transfer, hrecorded, validateUnrecordedRollbackStorage, yields_getPVC, hgone]
    at hrecovered
  simp only [Option.getD_some, hincomplete, if_false] at hrecovered
  have haccepts' := (accepts_verifyActivationRecovery h.named).mp
    ((yields_bind_of_accepts readOnly_verifyActivationRecovery).mp hrecovered).1
  have haccepted := destination_accepted_of_accepts haccepts' (List.mem_singleton.mpr rfl)
    fun transfer htransfer => by
      rw [List.mem_singleton.mp htransfer]
      refine ⟨fun heq => hother ?_, fun _ => rfl⟩
      rw [← hactive.2.1]
      exact congrArg ObjectReference.ns heq
  rcases haccepted with ⟨pvc, pv, hlive⟩ | ⟨-, reservation, hreservation, pv, hretained⟩
  · exact Option.some_ne_none pvc (hlive.claim.symm.trans hstop.gone)
  · obtain rfl := Option.some.inj (hstop.volume.symm.trans hretained.volume)
    obtain rfl : active = reservation := Option.some.inj hreservation
    rcases hretained.claimRef with horiginal | ⟨-, hreserved⟩
    · exact P.complete.1.2.2 (congrArg ObjectReference.uid
        (Option.some.inj (hstop.reserved.symm.trans horiginal))).symm
    · refine hother ?_
      rw [← hactive.2.1]
      exact (congrArg ObjectReference.ns
        (Option.some.inj (hstop.reserved.symm.trans hreserved))).symm

/-- A recorded rollback is rejected if the destination namespace is another one: the object with
the restored claim is not valid. -/
theorem rejects_recorded (hother : P.activateNamespace ≠ P.volume.sourcePVC.ns)
    {pvc : PVC} {time : Time}
    (hstop : P.RecordedStop (activationSlot volume.sourcePVC.name) w w u activation pvc time) :
    ¬ Accepts (kind.validateRollback false { u.record with status := object.status }) u := by
  intro haccepts
  have hrecord := hstop.record
  rw [h.record] at hrecord
  rw [hrecord, MigrationKind.validateRollback_eq, validateRollbackOf, accepts_ofCheck_bind,
    h.validate_persisted_iff] at haccepts
  have hforeign : pvc.ref.ns ≠ plan.destinationNamespace := by
    rw [← h.destination]
    exact fun hns => hother (hns.symm.trans hstop.ns)
  have hactive : (activation.rolledBack pvc time).activePVC = some pvc.ref := rfl
  exact h.not_valid_persisted h.phase_eq hactive hforeign haccepts.1

theorem accepts_stop (hrecovers : RollbackRecovers kind P volume w)
    (hstop : u ∈ stops exec (P.rollback (activationSlot volume.sourcePVC.name)) w)
    (hcalm : w.Calm → u.Calm) :
    Accepts (kind.validateRollback false { u.record with status := object.status }) u :=
  hrecovers u (.step .refl hstop (hcalm h.calm)) object.status h.valid.lifecycle h.phase_eq

/-- In another namespace, or with neither the source claim nor a recorded activation, it does
not. -/
theorem not_recovers (hcond : ¬ (P.activateNamespace = P.volume.sourcePVC.ns ∧
      P.Restartable w (object.checkpoint volume).activation)) :
    ¬ RollbackRecovers kind P volume w := by
  intro hrecovers
  obtain ⟨source, destination, hstorage, hstart⟩ := h.start
  have hrecord := h.record_start
  have howns := h.owns h.record
  have hconsistent := hstart.consistent
  have hopen := hconsistent.rolledBackAt
  -- the source claim on its volume makes the volume restartable, so the namespace is another one
  have hforeign {original : PVC} (hclaimed : Cutover.Claimed w P.sessionID P.volume.sourcePVC
      P.volume.sourcePV original source) : P.activateNamespace ≠ P.volume.sourcePVC.ns :=
    fun hsame => hcond ⟨hsame, .inl ⟨original, hclaimed.claim, hclaimed.volumeName⟩⟩
  have hrestored {original : PVC}
      (hfree : P.target = P.volume.sourcePVC.key ∨ w.claims P.target = none)
      (hclaimed : Cutover.Claimed w P.sessionID P.volume.sourcePVC P.volume.sourcePV original
        source) : False := by
    have hother := hforeign hclaimed
    obtain ⟨u, hu, pvc, time, hstop⟩ := Rollback.exists_recordedStop_home hstorage hrecord howns
      hopen (hfree.imp_left (congrArg Prod.fst)) hclaimed
    exact h.rejects_recorded hother hstop (h.accepts_stop hrecovers hu hstop.calm)
  generalize hactivation : (object.checkpoint volume).activation = activation at *
  cases hstart with
  | aliased place temporary annotated original consistent =>
    obtain ⟨u, hu, pvc, time, hstop⟩ := Rollback.exists_recordedStop_alias hstorage hrecord howns
      hopen place temporary annotated original
    exact h.rejects_recorded (hforeign original) hstop (h.accepts_stop hrecovers hu hstop.calm)
  | stage stage =>
    cases stage with
    | staged temporary original free | temporaryGone saved gone original free spin dpin href =>
      exact hrestored free original
    | claimsGone saved reserved tgone sgone free spin dpin sref dref hreserved =>
      obtain ⟨u, hu, source', hstop⟩ := Rollback.exists_reservedStop_gone hstorage hrecord howns
        hopen sgone (.inr free) sref
      refine h.rejects_reserved hstop ?_ ?_ (h.accepts_stop hrecovers hu hstop.calm)
      · simp [hactivation, ActivationStatus.IsRecorded]
      · rw [hactivation]
    | @bound active recorded tgone sgone activated spin dpin sref =>
      cases recorded with
      | none =>
        -- the entry itself is rejected
        refine h.rejects_unrecorded activated hstorage.destinationHeld.volume tgone sgone ?_ ?_
          (hrecovers w .refl object.status h.valid.lifecycle h.phase_eq)
        · simp [hactivation, ActivationStatus.IsRecorded, Cutover.boundStatus]
        · rw [hactivation]
          rfl
      | some time =>
        have hother : P.activateNamespace ≠ P.volume.sourcePVC.ns := fun hsame =>
          hcond ⟨hsame, .inr (by simp [Cutover.boundStatus])⟩
        have hgone : w.claims P.volume.sourcePVC.key = none :=
          sgone.resolve_left fun htarget => hother (congrArg Prod.fst htarget)
        obtain ⟨u, hu, source', hstop⟩ := Rollback.exists_reservedStop_active hstorage hrecord howns
          hopen hother activated hgone sref
        have hactive : (object.checkpoint volume).activation.activePVC = some active.ref := by
          rw [hactivation]
          rfl
        refine h.rejects_reserved_foreign hother hstop hactive
          ⟨activated.name, activated.ns, activated.uid⟩ ?_ (h.accepts_stop hrecovers hu hstop.calm)
        rw [hactivation]
        rfl

end RollbackEntry

variable {kind : MigrationKind} {P : Rollback} {object : ClusterMigration}
  {plan : ClusterMigrationPlan} {volume : VolumeSpec} {w u : World ClusterMigration}

/-- **A rollback brings the source back.**  At every calm stop both volumes are there, and retained
as soon as the source claim is gone; nothing else has changed; and the next whole run ends with the
source claim on its volume. -/
theorem RollbackEntry.restores_source (h : RollbackEntry kind P object plan volume w)
    (hsame : P.activateNamespace = P.volume.sourcePVC.ns)
    (hrestartable : P.Restartable w (object.checkpoint volume).activation)
    (hreruns : Reruns exec (P.rollback (activationSlot volume.sourcePVC.name)) w World.Calm u) :
    (∃ source destination, P.Storage u source destination ∧
      (u.claims P.volume.sourcePVC.key = none →
        source.Pinned P.sessionID ∧ destination.Pinned P.sessionID)) ∧
    P.Elsewhere w u ∧
    ∃ v, run exec (P.rollback (activationSlot volume.sourcePVC.name)) u = (.ok (), v) ∧
      P.Final (activationSlot volume.sourcePVC.name) w v := by
  obtain ⟨_, _, hstorage, hstart⟩ := h.start
  have hunderway := Rollback.At.underway ⟨hstorage, h.record_start,
    ⟨fun _ _ _ _ => rfl, fun _ _ _ => rfl, rfl, rfl⟩⟩ (hstart.restoring hsame hrestartable)
  obtain ⟨⟨⟨source, destination, _, hkept, hstate, -⟩, helse⟩, hok, hfinal⟩ :=
    Rollback.converges hsame (h.owns h.record) hunderway hreruns
  refine ⟨⟨source, destination, hkept, fun hgone => ?_⟩, helse, _, Prod.ext hok rfl, hfinal⟩
  cases hstate with
  | active _ _ spin dpin | removed _ _ _ spin dpin => exact ⟨spin, dpin⟩
  | home present => cases present.claim.symm.trans hgone
  | saved _ _ _ spin dpin => exact ⟨spin, dpin⟩

/-- **Recovery of a rollback.**  Every world in which a rollback can be stopped is accepted again,
of either kind of migration and whatever the number of interrupted runs, if and only if the
destination namespace is the source namespace and the rollback starts with the source claim on its
volume or with a recorded activation. -/
theorem rollback_recovers_iff (h : RollbackEntry kind P object plan volume w) :
    RollbackRecovers kind P volume w ↔
      plan.destinationNamespace = plan.sourceNamespace ∧
        ((∃ pvc, w.claims (plan.sourceNamespace, volume.sourcePVC.name) = some pvc ∧
            pvc.spec.volumeName = volume.sourcePV.name) ∨
          (object.checkpoint volume).activation.activePVC ≠ none) := by
  have hsource : P.volume.sourcePV.name = volume.sourcePV.name := by
    rw [h.transfer]
    rfl
  have hrestartable : P.Restartable w (object.checkpoint volume).activation ↔
      (∃ pvc, w.claims (plan.sourceNamespace, volume.sourcePVC.name) = some pvc ∧
          pvc.spec.volumeName = volume.sourcePV.name) ∨
        (object.checkpoint volume).activation.activePVC ≠ none := by
    rw [Rollback.Restartable, hsource, h.source_eq]
    exact Iff.rfl
  rw [← hrestartable, ← h.sameNamespace_iff]
  constructor
  · intro hrecovers
    by_contra hcond
    exact h.not_recovers hcond hrecovers
  · rintro ⟨hsame, hcond⟩
    exact h.recovers hsame hcond

/-! ## One volume, before and after it is activated -/

section Sample

variable (kind : MigrationKind)

def MigrationKind.sampleNamespace : String :=
  match kind with
  | .clusterMigration => ""
  | .migration => "app"

/-- The sample migration in the phase RollingBack, with a checkpoint of its activation. -/
def sampleRollingBack (activation : ActivationStatus) : ClusterMigration :=
  { sampleMigration "app" with
    ns := kind.sampleNamespace
    status := { phase := .rollingBack }
    volumes := [⟨sampleReservation, { finalCompletedAt := some 1, attempts := 1 }, activation⟩] }

def sampleRollback : Rollback where
  toCutover := sampleCutover "app" (by decide)
  restored := rollbackPVCManifest "move-data" sampleBindings sampleVolume
  restored_manifest := ⟨rfl, rfl, rfl, rfl, rfl, rfl⟩
  restored_positive := by decide

/-- The retained volumes, of which the destination refers to the claim `holder`, and at most the
claim `data`. -/
def sampleCluster (claim : Option PVC) (holder : PVC) (activation : ActivationStatus) :
    World ClusterMigration :=
  { sampleWorld "app" with
    claims := fun key => if key = ("app", "data") then claim else none
    volumes := fun name =>
      if name = "pv-source" then
        some ((sampleVolumeOf "pv-source" 2 sampleSource).retained "move-data" "source")
      else if name = "pv-destination" then
        some ((sampleVolumeOf "pv-destination" 4 holder).retained "move-data" "destination")
      else none
    record := sampleRollingBack kind activation }

/-- The cluster after the activation has deleted both claims and stopped. -/
def sampleEmptied : World ClusterMigration :=
  sampleCluster kind none sampleTemporary { temporaryPVCDeleted := true, sourcePVCDeleted := true }

/-- The claim that the activation creates, and its checkpoint. -/
def sampleActive : PVC := (sampleRollback.desired.created 5).bind

def sampleRecorded : ActivationStatus := Cutover.boundStatus sampleActive (some 1)

/-- The cluster after the activation. -/
def sampleActivated : World ClusterMigration :=
  sampleCluster kind (some sampleActive) sampleActive sampleRecorded

variable {kind} {claim : Option PVC} {holder : PVC} {activation : ActivationStatus}

/-- The sample is a migration about to roll back its volume, wherever its activation stopped. -/
theorem sampleCluster_entry (hvalid : kind.validate (sampleRollingBack kind activation) = .ok ())
    (hclaim : ∀ pvc ∈ claim, pvc.phase = .bound ∧ pvc.deletionTimestamp = none)
    (hstart : sampleRollback.Start (sampleCluster kind claim holder activation)
      ((sampleVolumeOf "pv-source" 2 sampleSource).retained "move-data" "source")
      ((sampleVolumeOf "pv-destination" 4 holder).retained "move-data" "destination") activation) :
    RollbackEntry kind sampleRollback (sampleRollingBack kind activation) (samplePlan "app")
      sampleVolume (sampleCluster kind claim holder activation) where
  valid := by
    refine (MigrationKind.validate_eq_ok fun hkind plan hplan => ?_).mp hvalid
    cases hplan
    subst hkind
    exact ⟨rfl, rfl, rfl⟩
  planned := rfl
  home := by
    rintro rfl
    exact ⟨rfl, rfl, rfl⟩
  member := List.mem_singleton.mpr rfl
  phase_eq := rfl
  cutover := rfl
  named := show blank "move-data" = false by decide
  record := rfl
  session := rfl
  destination := rfl
  transfer := rfl
  manifest := rfl
  calm key pvc hpvc := by
    simp only [sampleCluster] at hpvc
    split at hpvc
    · exact hclaim pvc hpvc
    · cases hpvc
  start := ⟨_, _,
    { sourceHeld := ⟨rfl, rfl, rfl, .inr rfl⟩
      destinationHeld := ⟨rfl, rfl, rfl, .inr rfl⟩
      sourceAlive := rfl
      destinationAlive := rfl
      fits := by rfl
      quiet := by constructor <;> simp [World.NoConsumers, World.Detached, sampleCluster,
        sampleWorld]
      sized := by decide }, hstart⟩
  others other hmem hne := absurd (List.mem_singleton.mp hmem) hne

theorem sampleEmptied_entry : RollbackEntry kind sampleRollback
    (sampleRollingBack kind { temporaryPVCDeleted := true, sourcePVCDeleted := true })
    (samplePlan "app") sampleVolume (sampleEmptied kind) :=
  sampleCluster_entry (by cases kind <;> decide) (fun _ h => by cases h)
    (.stage (.claimsGone true false rfl rfl rfl (pinnedFrom_retained _ _ _).pinned
      (pinnedFrom_retained _ _ _).pinned rfl (.inl rfl) fun h => by cases h))

theorem sampleActivated_entry : RollbackEntry kind sampleRollback
    (sampleRollingBack kind sampleRecorded) (samplePlan "app") sampleVolume
    (sampleActivated kind) := by
  refine sampleCluster_entry (by cases kind <;> decide) ?_
    (.stage (.bound (some 1) rfl (.inl rfl) ?_
    (pinnedFrom_retained _ _ _).pinned (pinnedFrom_retained _ _ _).pinned rfl))
  · rintro _ ⟨⟩
    exact ⟨rfl, rfl⟩
  · exact ⟨rfl, rfl, rfl, by decide, by decide, by decide, rfl, rfl, rfl, rfl, rfl, by decide⟩

/-- Once the activation is recorded, the rollback of the sample recovers. -/
theorem rollback_recovers_iff_activated :
    (∀ kind, RollbackEntry kind sampleRollback (sampleRollingBack kind sampleRecorded)
      (samplePlan "app") sampleVolume (sampleActivated kind)) ∧
    ∀ kind, RollbackRecovers kind sampleRollback sampleVolume (sampleActivated kind) :=
  ⟨fun _ => sampleActivated_entry, fun _ => (rollback_recovers_iff sampleActivated_entry).mpr
    ⟨rfl, .inr (Option.some_ne_none _)⟩⟩

/-- Once both claims of the sample are deleted, with nothing activated, its rollback does not
recover from every stop. -/
theorem emptied_rollback_not_recovers :
    (∀ kind, RollbackEntry kind sampleRollback
      (sampleRollingBack kind { temporaryPVCDeleted := true, sourcePVCDeleted := true })
      (samplePlan "app") sampleVolume (sampleEmptied kind)) ∧
    ∀ kind, ¬ RollbackRecovers kind sampleRollback sampleVolume (sampleEmptied kind) := by
  refine ⟨fun _ => sampleEmptied_entry, fun _ => sampleEmptied_entry.not_recovers ?_⟩
  rintro ⟨-, ⟨pvc, hclaim, -⟩ | hrecorded⟩
  · cases hclaim
  · exact hrecorded rfl

theorem restores_source_activated :
    (∀ kind, (sampleActivated kind).claims ("app", "data") = some sampleActive) ∧
    ∀ kind, ∃ v,
      run exec (sampleRollback.rollback (activationSlot "data")) (sampleActivated kind) =
        (.ok (), v) ∧ sampleRollback.Final (activationSlot "data") (sampleActivated kind) v :=
  ⟨fun _ => rfl, fun _ =>
    (sampleActivated_entry.restores_source rfl (.inr (Option.some_ne_none _)) .refl).2.2⟩

end Sample

end PvcMigrate
