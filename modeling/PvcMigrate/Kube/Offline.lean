import PvcMigrate.Kube.Binding
import PvcMigrate.Lib.Text

/-!
# Offline checks

The checks a switch makes before it touches a volume (`switcher.go`,
`switcher_activation_recovery.go`): the recorded claims and volumes are bound to each other,
no Pod uses the claims, the volumes are attached nowhere.  While an activation or a rollback
recovers, a claim may be missing, provided its retained volume still proves where it came from.

The identities are read in parallel by the source and reported in input order; here they are
read in that order.  The Pod check and the wait for detaching also run in parallel there, and a
Pod error takes precedence.
-/

namespace PvcMigrate.Kube

open Prog

variable {ρ : Type}

structure PVCTransferBindings where
  sourcePVC : ObjectReference
  sourcePV : ObjectReference
  destinationPVC : ObjectReference
  destinationPV : ObjectReference
  deriving DecidableEq, Repr

/-- The four identities of a transfer are known. -/
def PVCTransferBindings.Complete (volume : PVCTransferBindings) : Prop :=
  volume.sourcePVC.ClaimComplete ∧ volume.sourcePV.VolumeComplete ∧
    volume.destinationPVC.ClaimComplete ∧ volume.destinationPV.VolumeComplete

instance (volume : PVCTransferBindings) : Decidable volume.Complete :=
  inferInstanceAs (Decidable (_ ∧ _))

/-- The claim is the source claim of the transfer. -/
def PVCTransferBindings.IsSource (binding : PVCTransferBindings) (pvc : PVC) : Prop :=
  pvc.uid = binding.sourcePVC.uid ∧ pvc.spec.volumeName = binding.sourcePV.name

/-! ## Consumers and attachments -/

def ensureNoConsumerInPods (pods : List Pod) (ns claim : String) : Switch ρ Unit :=
  each (fun pod => reject (podPreventsSafePVCDeletion pod claim = true)
    (newError .precondition "verify PVC offline"
      s!"PVC {ns}/{claim} is referenced by Pod {pod.name}")) pods

def ensureNoConsumers (ns claim : String) : Switch ρ Unit := do
  ensureNoConsumerInPods (← Api.listPods ns) ns claim

def VolumeAttachment.holds (attachment : VolumeAttachment) (pvNames : List String) : Bool :=
  attachment.attached && attachment.persistentVolumeName.any fun name => name ∈ pvNames

def ensureVolumesDetached (pvNames : List String) : Switch ρ Unit :=
  if pvNames = [] then pure ()
  else do
    let attachments ← Api.listAttachments
    reject (attachments.any (fun attachment => attachment.holds pvNames) = true)
      (.waiting ("VolumeAttachment detach for PV(s) " ++ ",".intercalate pvNames))

def ensureDetached (pvName : String) : Switch ρ Unit :=
  if pvName = "" then pure () else ensureVolumesDetached [pvName]

/-! ## Identities -/

variable (sessionID : String)

def verifyRetainedActivationPV (pvcRef pvRef reservation : ObjectReference) : Switch ρ Unit := do
  match ← Api.getPV pvRef.name with
  | none => fail (newError .kubernetes "verify activation recovery" s!"read PV {pvRef.name}")
  | some pv => do
    reject (pv.uid ≠ pvRef.uid ∨ pv.deletionTimestamp ≠ none ∨
        pv.labels.get sessionKey ≠ sessionID ∨ pv.reclaimPolicy ≠ .retain)
      (newError .conflict "verify activation recovery"
        s!"PV {pvRef.name} identity, ownership, or retention changed after PVC deletion")
    let original := pv.claimRef = some pvcRef
    let reserved := reservation.name ≠ "" ∧
      pv.claimRef = some ⟨reservation.ns, reservation.name, none⟩
    reject (¬ original ∧ ¬ reserved) (newError .conflict "verify activation recovery"
      s!"PV {pvRef.name} claimRef changed after PVC deletion")

/-- The session does not own an object labelled with the owner `owner`. -/
def foreignOwner (sessionID owner : String) : Prop :=
  sessionID ≠ "" ∧ owner ≠ "" ∧ owner ≠ sessionID

instance (sessionID owner : String) : Decidable (foreignOwner sessionID owner) :=
  inferInstanceAs (Decidable (_ ∧ _))

def verifyPVCAndPVIdentity (pvcRef pvRef : ObjectReference) (role sessionID : String)
    (recoveryClaim : Option ObjectReference) : Switch ρ Unit := do
  reject (pvcRef.ns = "" ∨ pvcRef.name = "" ∨ pvcRef.uid = none)
    (newError .precondition "verify PVC offline" (role ++ " PVC reference is incomplete"))
  reject (pvRef.name = "" ∨ pvRef.uid = none)
    (newError .precondition "verify PVC offline" (role ++ " PV reference is incomplete"))
  match ← Api.getPVC pvcRef.ns pvcRef.name, recoveryClaim with
  | none, some reservation => verifyRetainedActivationPV sessionID pvcRef pvRef reservation
  | none, none => fail (newError .kubernetes "verify PVC offline"
      s!"read {role} PVC {pvcRef.ns}/{pvcRef.name}")
  | some pvc, _ => do
    reject (pvc.uid ≠ pvcRef.uid) (newError .conflict "verify PVC offline"
      s!"{role} PVC {pvc.ns}/{pvc.name} UID changed from {pvcRef.uid.text} to {pvc.uid.text}")
    validatePVCDeletionFinalizers pvc "verify PVC offline"
    let annotated := pvc.annotations.get sessionKey
    reject (foreignOwner sessionID annotated) (newError .conflict "verify PVC offline"
      s!"{role} PVC {pvc.ns}/{pvc.name} belongs to session {annotated}")
    let labelled := pvc.labels.get sessionKey
    reject (foreignOwner sessionID labelled) (newError .conflict "verify PVC offline"
      s!"{role} PVC {pvc.ns}/{pvc.name} belongs to session {labelled}")
    reject (pvc.phase ≠ .bound) (newError .precondition "verify PVC offline"
      s!"{role} PVC {pvc.ns}/{pvc.name} is {pvc.phase.text}")
    reject (pvc.spec.volumeName ≠ pvRef.name) (newError .conflict "verify PVC offline"
      (s!"{role} PVC {pvc.ns}/{pvc.name} points to PV {pvc.spec.volumeName}, " ++
        s!"expected {pvRef.name}"))
    match ← Api.getPV pvRef.name with
    | none => fail (newError .kubernetes "verify PVC offline" s!"read {role} PV {pvRef.name}")
    | some pv => do
      reject (pv.uid ≠ pvRef.uid) (newError .conflict "verify PVC offline"
        s!"{role} PV {pv.name} UID changed from {pvRef.uid.text} to {pv.uid.text}")
      let owner := pv.labels.get sessionKey
      reject (foreignOwner sessionID owner) (newError .conflict "verify PVC offline"
        s!"{role} PV {pv.name} belongs to session {owner}")
      reject (pv.claimRef ≠ some pvc.ref) (newError .conflict "verify PVC offline"
        (s!"{role} PV {pv.name} claimRef does not match PVC {pvc.ns}/{pvc.name} " ++
          s!"UID {pvc.uid.text}"))

/-- `offlineIdentityRead`. -/
structure OfflineIdentity where
  pvc : ObjectReference
  pv : ObjectReference
  role : String
  recoveryClaim : Option ObjectReference
  deriving DecidableEq, Repr

/-- `addIdentity`: an identity that was added before keeps its first role and recovery
claim. -/
def addIdentity (identities : List OfflineIdentity) (identity : OfflineIdentity) :
    List OfflineIdentity :=
  if identities.any (fun known => known.pvc = identity.pvc ∧ known.pv = identity.pv) then
    identities
  else identities ++ [identity]

variable (volumes : List PVCTransferBindings)

/-- The identities of the volumes, each pair once. -/
def offlineIdentities (recovering : Bool) : List OfflineIdentity :=
  volumes.foldl (fun identities volume =>
    addIdentity
      (addIdentity identities
        ⟨volume.sourcePVC, volume.sourcePV, "source", if recovering then some {} else none⟩)
      ⟨volume.destinationPVC, volume.destinationPV, "destination",
        if recovering then some volume.sourcePVC else none⟩) []

def offlinePVNames : List String :=
  ((volumes.flatMap fun volume => [volume.sourcePV.name, volume.destinationPV.name]).filter
    fun name => name ≠ "").eraseDups

def verifyOfflineBindings (recovering : Bool) : Switch ρ Unit := do
  each (fun identity => verifyPVCAndPVIdentity identity.pvc identity.pv identity.role sessionID
    identity.recoveryClaim) (offlineIdentities volumes recovering)
  each (fun volume => do
    ensureNoConsumers volume.sourcePVC.ns volume.sourcePVC.name
    ensureNoConsumers volume.destinationPVC.ns volume.destinationPVC.name) volumes
  ensureVolumesDetached (offlinePVNames volumes)

/-- `strings.TrimSpace` leaves nothing. -/
def blank (s : String) : Bool := s.toList.all Text.isSpace

def verifyVolumesOfflineForSession : Switch ρ Unit := do
  reject (blank sessionID = true) (newError .validation "verify PVC offline"
    "session ID is required")
  verifyOfflineBindings sessionID volumes false

def verifyActivationRecovery : Switch ρ Unit := do
  reject (blank sessionID = true) (newError .validation "verify activation recovery"
    "session ID is required")
  verifyOfflineBindings sessionID volumes true

/-! ## What the checks accept -/

section Accepts

variable {w : World ρ}

def World.Detached (w : World ρ) (pvName : String) : Prop :=
  ∀ attachment ∈ w.attachments, attachment.attached = true →
    attachment.persistentVolumeName ≠ some pvName

theorem readOnly_ensureNoConsumers {ns claim : String} :
    ReadOnly (ensureNoConsumers ns claim : Switch ρ Unit) :=
  only_bind readOnly_listPods fun _ => only_each fun _ _ => only_reject

theorem accepts_ensureNoConsumers {ns claim : String} :
    Accepts (ensureNoConsumers ns claim) w ↔ w.NoConsumers ns claim := by
  rw [ensureNoConsumers, accepts_listPods, ensureNoConsumerInPods,
    accepts_each fun _ _ => only_reject]
  simp only [accepts_reject, List.mem_filter, decide_eq_true_eq, and_imp, World.NoConsumers,
    Bool.not_eq_true]

theorem readOnly_ensureVolumesDetached {pvNames : List String} :
    ReadOnly (ensureVolumesDetached pvNames : Switch ρ Unit) :=
  only_ite only_pure (only_bind readOnly_listAttachments fun _ => only_reject)

theorem accepts_ensureVolumesDetached {pvNames : List String} :
    Accepts (ensureVolumesDetached pvNames) w ↔ ∀ name ∈ pvNames, w.Detached name := by
  by_cases hnil : pvNames = []
  · simp [ensureVolumesDetached, hnil]
  · simp only [ensureVolumesDetached, hnil, if_false, accepts_listAttachments, accepts_reject,
      World.Detached, VolumeAttachment.holds, List.any_eq_true, Bool.and_eq_true,
      Option.any_eq_true, decide_eq_true_eq]
    constructor
    · intro h name hname attachment hmem hattached hvolume
      exact h ⟨attachment, hmem, hattached, name, hvolume, hname⟩
    · rintro h ⟨attachment, hmem, hattached, name, hvolume, hname⟩
      exact h name hname attachment hmem hattached hvolume

variable {pvName sessionID : String} {pvcRef pvRef : ObjectReference}
  {recoveryClaim : Option ObjectReference} {known given : List OfflineIdentity}
  {identity : OfflineIdentity} {volumes : List PVCTransferBindings} {recovering : Bool}
  {volume : PVCTransferBindings} {u : World ρ}

theorem readOnly_ensureDetached :
    ReadOnly (ensureDetached pvName : Switch ρ Unit) :=
  only_ite only_pure readOnly_ensureVolumesDetached

theorem accepts_ensureDetached (hname : pvName ≠ "") :
    Accepts (ensureDetached pvName) w ↔ w.Detached pvName := by
  simp [ensureDetached, hname, accepts_ensureVolumesDetached]

/-- The volume proves that it was bound to the recorded claim, or that it is reserved for the
claim it is switched to. -/
structure RetainedIdentity (w : World ρ) (sessionID : String)
    (pvcRef pvRef reservation : ObjectReference) (pv : PV) : Prop where
  volume : w.volumes pvRef.name = some pv
  uid : pv.uid = pvRef.uid
  alive : pv.deletionTimestamp = none
  pinned : pv.Pinned sessionID
  claimRef : pv.claimRef = some pvcRef ∨
    reservation.name ≠ "" ∧ pv.claimRef = some ⟨reservation.ns, reservation.name, none⟩

theorem accepts_verifyRetainedActivationPV {reservation : ObjectReference} :
    Accepts (verifyRetainedActivationPV sessionID pvcRef pvRef reservation) w ↔
      ∃ pv, RetainedIdentity w sessionID pvcRef pvRef reservation pv := by
  rw [verifyRetainedActivationPV, accepts_getPV]
  cases hpv : w.volumes pvRef.name with
  | none =>
    simp only [not_accepts_fail, false_iff, not_exists]
    intro pv h
    exact Option.some_ne_none pv (h.volume.symm.trans hpv)
  | some pv =>
    simp only [accepts_reject_bind, accepts_reject]
    constructor
    · rintro ⟨hsame, href⟩
      push Not at hsame
      obtain ⟨huid, halive, hlabel, hretain⟩ := hsame
      exact ⟨pv, hpv, huid, halive, ⟨hretain, hlabel⟩, by tauto⟩
    · rintro ⟨pv', h⟩
      obtain rfl : pv = pv' := Option.some.inj (hpv.symm.trans h.volume)
      refine ⟨?_, ?_⟩
      · simp [h.uid, h.alive, h.pinned.1, h.pinned.2]
      · have := h.claimRef
        tauto

theorem readOnly_verifyRetainedActivationPV {reservation : ObjectReference} :
    ReadOnly (verifyRetainedActivationPV sessionID pvcRef pvRef reservation : Switch ρ Unit) := by
  refine only_bind readOnly_getPV fun pv => ?_
  cases pv with
  | none => exact only_fail
  | some pv => exact only_reject_bind only_reject

/-- The recorded claim and the recorded volume are there and bound to each other, and no other
session owns them. -/
structure LiveIdentity (w : World ρ) (sessionID : String) (pvcRef pvRef : ObjectReference)
    (pvc : PVC) (pv : PV) : Prop where
  claim : w.claims (pvcRef.ns, pvcRef.name) = some pvc
  claimUID : pvc.uid = pvcRef.uid
  finalizers : blockingPVCFinalizers pvc = []
  annotated : ¬ foreignOwner sessionID (pvc.annotations.get sessionKey)
  labelled : ¬ foreignOwner sessionID (pvc.labels.get sessionKey)
  phase : pvc.phase = .bound
  volumeName : pvc.spec.volumeName = pvRef.name
  volume : w.volumes pvRef.name = some pv
  volumeUID : pv.uid = pvRef.uid
  owner : ¬ foreignOwner sessionID (pv.labels.get sessionKey)
  claimRef : pv.claimRef = some pvc.ref

/-- What `verifyPVCAndPVIdentity` accepts: a live identity or, if the claim is missing and a
recovery claim is given, a retained one. -/
def IdentityAccepted (w : World ρ) (sessionID : String) (pvcRef pvRef : ObjectReference)
    (recoveryClaim : Option ObjectReference) : Prop :=
  (∃ pvc pv, LiveIdentity w sessionID pvcRef pvRef pvc pv) ∨
    w.claims (pvcRef.ns, pvcRef.name) = none ∧
      ∃ reservation ∈ recoveryClaim, ∃ pv,
        RetainedIdentity w sessionID pvcRef pvRef reservation pv

theorem accepts_verifyPVCAndPVIdentity_present {role : String} {pvc : PVC}
    (hpvc : w.claims (pvcRef.ns, pvcRef.name) = some pvc) :
    Accepts (verifyPVCAndPVIdentity pvcRef pvRef role sessionID recoveryClaim) w ↔
      pvcRef.ClaimComplete ∧ pvRef.VolumeComplete ∧
        ∃ pv, LiveIdentity w sessionID pvcRef pvRef pvc pv := by
  simp only [verifyPVCAndPVIdentity, validatePVCDeletionFinalizers, accepts_reject_bind,
    accepts_getPVC, accepts_getPV, hpvc, not_or, ObjectReference.ClaimComplete,
    ObjectReference.VolumeComplete, ne_eq]
  refine and_congr_right fun _ => and_congr_right fun _ => ?_
  cases hpv : w.volumes pvRef.name with
  | none =>
    simp only [not_accepts_fail, and_false, false_iff, not_exists]
    intro pv h
    exact Option.some_ne_none pv (h.volume.symm.trans hpv)
  | some pv =>
    simp only [accepts_reject_bind, accepts_reject, not_not]
    constructor
    · rintro ⟨h1, h2, h3, h4, h5, h6, h7, h8, h9⟩
      exact ⟨pv, hpvc, h1, h2, h3, h4, h5, h6, hpv, h7, h8, h9⟩
    · rintro ⟨pv', h⟩
      obtain rfl : pv = pv' := Option.some.inj (hpv.symm.trans h.volume)
      exact ⟨h.claimUID, h.finalizers, h.annotated, h.labelled, h.phase, h.volumeName,
        h.volumeUID, h.owner, h.claimRef⟩

theorem accepts_verifyPVCAndPVIdentity {role : String} :
    Accepts (verifyPVCAndPVIdentity pvcRef pvRef role sessionID recoveryClaim) w ↔
      pvcRef.ClaimComplete ∧ pvRef.VolumeComplete ∧
        IdentityAccepted w sessionID pvcRef pvRef recoveryClaim := by
  cases hpvc : w.claims (pvcRef.ns, pvcRef.name) with
  | some pvc =>
    rw [accepts_verifyPVCAndPVIdentity_present hpvc]
    simp only [IdentityAccepted, hpvc, reduceCtorEq, false_and, or_false]
    refine and_congr_right fun _ => and_congr_right fun _ => ⟨fun h => ⟨pvc, h⟩, ?_⟩
    rintro ⟨pvc', pv, h⟩
    obtain rfl : pvc = pvc' := Option.some.inj (hpvc.symm.trans h.claim)
    exact ⟨pv, h⟩
  | none =>
    have hlive : ¬ ∃ pvc pv, LiveIdentity w sessionID pvcRef pvRef pvc pv := by
      rintro ⟨pvc, pv, h⟩
      exact Option.some_ne_none pvc (h.claim.symm.trans hpvc)
    simp only [verifyPVCAndPVIdentity, accepts_reject_bind, accepts_getPVC, hpvc, not_or,
      ObjectReference.ClaimComplete, ObjectReference.VolumeComplete, ne_eq, IdentityAccepted,
      hlive, false_or, true_and]
    refine and_congr_right fun _ => and_congr_right fun _ => ?_
    cases recoveryClaim with
    | none => simp
    | some reservation => simp [accepts_verifyRetainedActivationPV]

theorem readOnly_verifyPVCAndPVIdentity {role : String} :
    ReadOnly (verifyPVCAndPVIdentity pvcRef pvRef role sessionID recoveryClaim :
      Switch ρ Unit) := by
  refine only_reject_bind <| only_reject_bind <|
    only_bind readOnly_getPVC fun pvc => ?_
  cases pvc with
  | none =>
    cases recoveryClaim with
    | none => exact only_fail
    | some reservation => exact readOnly_verifyRetainedActivationPV
  | some pvc =>
    refine only_reject_bind <| only_reject_bind <| only_reject_bind <| only_reject_bind <|
      only_reject_bind <| only_reject_bind <| only_bind readOnly_getPV fun pv => ?_
    cases pv with
    | none => exact only_fail
    | some pv =>
      exact only_reject_bind <| only_reject_bind only_reject

/-- What a transfer has to meet for `verifyOfflineBindings` to accept it. -/
structure BindingsAccepted (w : World ρ) (sessionID : String) (volume : PVCTransferBindings)
    (recovering : Bool) : Prop where
  complete : volume.Complete
  source : IdentityAccepted w sessionID volume.sourcePVC volume.sourcePV
    (if recovering then some {} else none)
  destination : IdentityAccepted w sessionID volume.destinationPVC volume.destinationPV
    (if recovering then some volume.sourcePVC else none)
  sourceUnused : w.NoConsumers volume.sourcePVC.ns volume.sourcePVC.name
  destinationUnused : w.NoConsumers volume.destinationPVC.ns volume.destinationPVC.name
  sourceDetached : w.Detached volume.sourcePV.name
  destinationDetached : w.Detached volume.destinationPV.name

def PVCTransferBindings.identities (volume : PVCTransferBindings) (recovering : Bool) :
    List OfflineIdentity :=
  [⟨volume.sourcePVC, volume.sourcePV, "source", if recovering then some {} else none⟩,
    ⟨volume.destinationPVC, volume.destinationPV, "destination",
      if recovering then some volume.sourcePVC else none⟩]

theorem offlineIdentities_eq (volumes : List PVCTransferBindings) (recovering : Bool) :
    offlineIdentities volumes recovering =
      (volumes.flatMap fun volume => volume.identities recovering).foldl addIdentity [] := by
  have hfold : ∀ known, volumes.foldl (fun identities volume =>
      (volume.identities recovering).foldl addIdentity identities) known =
      (volumes.flatMap fun volume => volume.identities recovering).foldl addIdentity known := by
    induction volumes with
    | nil => intro known; rfl
    | cons volume volumes ih =>
      intro known
      rw [List.flatMap_cons, List.foldl_append, ← ih]
      rfl
  exact hfold []

theorem mem_addIdentity {next : OfflineIdentity} :
    (identity ∈ known → identity ∈ addIdentity known next) ∧
      (identity ∈ addIdentity known next → identity ∈ known ∨ identity = next) := by
  unfold addIdentity
  split
  · exact ⟨id, .inl⟩
  · exact ⟨fun h => List.mem_append_left _ h, fun h => by simpa using h⟩

/-- The identity is known after it has been added, perhaps with another role. -/
theorem exists_addIdentity (known : List OfflineIdentity) (identity : OfflineIdentity) :
    ∃ same ∈ addIdentity known identity, same.pvc = identity.pvc ∧ same.pv = identity.pv := by
  unfold addIdentity
  split
  · rename_i hsame
    simpa using hsame
  · exact ⟨identity, by simp, rfl, rfl⟩

theorem subset_foldl_addIdentity (h : identity ∈ known) :
    identity ∈ given.foldl addIdentity known := by
  induction given generalizing known with
  | nil => exact h
  | cons next given ih => exact ih (mem_addIdentity.1 h)

theorem mem_of_foldl_addIdentity (h : identity ∈ given.foldl addIdentity known) :
    identity ∈ known ∨ identity ∈ given := by
  induction given generalizing known with
  | nil => exact .inl h
  | cons next given ih =>
    rw [List.mem_cons]
    rcases ih h with hknown | hgiven
    · exact (mem_addIdentity.2 hknown).imp_right .inl
    · exact .inr (.inr hgiven)

theorem exists_foldl_addIdentity (h : identity ∈ given) :
    ∃ same ∈ given.foldl addIdentity known,
      same.pvc = identity.pvc ∧ same.pv = identity.pv := by
  induction given generalizing known with
  | nil => cases h
  | cons next given ih =>
    rcases List.mem_cons.mp h with rfl | hgiven
    · obtain ⟨same, hmem, heq⟩ := exists_addIdentity known identity
      rw [List.foldl_cons]
      exact ⟨same, subset_foldl_addIdentity hmem, heq⟩
    · exact ih hgiven

theorem mem_offlinePVNames {name : String} :
    name ∈ offlinePVNames volumes ↔
      name ≠ "" ∧ ∃ volume ∈ volumes,
        name = volume.sourcePV.name ∨ name = volume.destinationPV.name := by
  simp [offlinePVNames, List.mem_eraseDups, and_comm]

theorem accepts_verifyOfflineBindings_iff :
    Accepts (verifyOfflineBindings sessionID volumes recovering) w ↔
      (∀ identity ∈ offlineIdentities volumes recovering,
        identity.pvc.ClaimComplete ∧ identity.pv.VolumeComplete ∧
          IdentityAccepted w sessionID identity.pvc identity.pv identity.recoveryClaim) ∧
      (∀ volume ∈ volumes,
        w.NoConsumers volume.sourcePVC.ns volume.sourcePVC.name ∧
          w.NoConsumers volume.destinationPVC.ns volume.destinationPVC.name) ∧
      ∀ name ∈ offlinePVNames volumes, w.Detached name := by
  have hconsumers : ∀ volume ∈ volumes, ReadOnly (do
      ensureNoConsumers volume.sourcePVC.ns volume.sourcePVC.name
      ensureNoConsumers volume.destinationPVC.ns volume.destinationPVC.name : Switch ρ Unit) :=
    fun _ _ => only_bind readOnly_ensureNoConsumers fun _ => readOnly_ensureNoConsumers
  rw [verifyOfflineBindings,
    accepts_bind (only_each fun _ _ => readOnly_verifyPVCAndPVIdentity),
    accepts_each fun _ _ => readOnly_verifyPVCAndPVIdentity,
    accepts_bind (only_each hconsumers), accepts_each hconsumers, accepts_ensureVolumesDetached]
  simp only [accepts_verifyPVCAndPVIdentity, accepts_bind readOnly_ensureNoConsumers,
    accepts_ensureNoConsumers]

theorem accepts_verifyOfflineBindings
    (h : ∀ volume ∈ volumes, BindingsAccepted w sessionID volume recovering) :
    Accepts (verifyOfflineBindings sessionID volumes recovering) w := by
  refine accepts_verifyOfflineBindings_iff.mpr ⟨fun identity hmem => ?_, fun volume hmem =>
    ⟨(h volume hmem).sourceUnused, (h volume hmem).destinationUnused⟩, fun name hmem => ?_⟩
  · rw [offlineIdentities_eq] at hmem
    rcases mem_of_foldl_addIdentity hmem with hnil | hmem
    · cases hnil
    · obtain ⟨volume, hvolume, hidentity⟩ := List.mem_flatMap.mp hmem
      have haccepted := h volume hvolume
      simp only [PVCTransferBindings.identities, List.mem_cons, List.not_mem_nil, or_false]
        at hidentity
      rcases hidentity with rfl | rfl
      · exact ⟨haccepted.complete.1, haccepted.complete.2.1, haccepted.source⟩
      · exact ⟨haccepted.complete.2.2.1, haccepted.complete.2.2.2, haccepted.destination⟩
  · obtain ⟨-, volume, hvolume, rfl | rfl⟩ := mem_offlinePVNames.mp hmem
    · exact (h volume hvolume).sourceDetached
    · exact (h volume hvolume).destinationDetached

/-- An identity has to be accepted with its recovery claim, unless it is named before with another
one. -/
theorem identity_accepted_of_accepts (identity : OfflineIdentity)
    (h : Accepts (verifyOfflineBindings sessionID volumes recovering) w)
    (hidentity : identity ∈ volumes.flatMap fun volume => volume.identities recovering)
    (hother : ∀ volume ∈ volumes, ∀ same ∈ volume.identities recovering,
      same.pvc = identity.pvc → same.recoveryClaim = identity.recoveryClaim) :
    IdentityAccepted w sessionID identity.pvc identity.pv identity.recoveryClaim := by
  obtain ⟨same, hsame, hpvc, hpv⟩ := exists_foldl_addIdentity hidentity
  have haccepted := ((accepts_verifyOfflineBindings_iff.mp h).1 same
    (by rw [offlineIdentities_eq]; exact hsame)).2.2
  rcases mem_of_foldl_addIdentity hsame with hnil | hmem
  · cases hnil
  · obtain ⟨volume, hvolume, hsame⟩ := List.mem_flatMap.mp hmem
    rw [hpvc, hpv, hother volume hvolume same hsame hpvc] at haccepted
    exact haccepted

/-- The destination of a transfer has to be accepted, unless another transfer names the same
claim. -/
theorem destination_accepted_of_accepts
    (h : Accepts (verifyOfflineBindings sessionID volumes recovering) w)
    (hvolume : volume ∈ volumes)
    (hother : ∀ other ∈ volumes, other.sourcePVC ≠ volume.destinationPVC ∧
      (other.destinationPVC = volume.destinationPVC → other = volume)) :
    IdentityAccepted w sessionID volume.destinationPVC volume.destinationPV
      (if recovering then some volume.sourcePVC else none) := by
  refine identity_accepted_of_accepts ⟨volume.destinationPVC, volume.destinationPV,
    "destination", if recovering then some volume.sourcePVC else none⟩ h
    (List.mem_flatMap.mpr ⟨volume, hvolume, by simp [PVCTransferBindings.identities]⟩) ?_
  intro other hmem same hsame hpvc
  simp only [PVCTransferBindings.identities, List.mem_cons, List.not_mem_nil, or_false] at hsame
  rcases hsame with rfl | rfl
  · exact absurd hpvc (hother other hmem).1
  · rw [(hother other hmem).2 hpvc]

/-- The source of a transfer has to be accepted, unless it is the destination of another one. -/
theorem source_accepted_of_accepts
    (h : Accepts (verifyOfflineBindings sessionID volumes recovering) w)
    (hvolume : volume ∈ volumes)
    (hother : ∀ other ∈ volumes, other.destinationPVC ≠ volume.sourcePVC) :
    IdentityAccepted w sessionID volume.sourcePVC volume.sourcePV
      (if recovering then some {} else none) := by
  refine identity_accepted_of_accepts ⟨volume.sourcePVC, volume.sourcePV, "source",
    if recovering then some {} else none⟩ h
    (List.mem_flatMap.mpr ⟨volume, hvolume, by simp [PVCTransferBindings.identities]⟩) ?_
  intro other hmem same hsame hpvc
  simp only [PVCTransferBindings.identities, List.mem_cons, List.not_mem_nil, or_false] at hsame
  rcases hsame with rfl | rfl
  · rfl
  · exact absurd hpvc (hother other hmem)

theorem readOnly_verifyOfflineBindings :
    ReadOnly (verifyOfflineBindings sessionID volumes recovering : Switch ρ Unit) :=
  only_bind (only_each fun _ _ => readOnly_verifyPVCAndPVIdentity) fun _ =>
    only_bind (only_each fun _ _ =>
      only_bind readOnly_ensureNoConsumers fun _ => readOnly_ensureNoConsumers) fun _ =>
        readOnly_ensureVolumesDetached

/-! ### The checks depend on few objects -/

theorem IdentityAccepted.congr (h : IdentityAccepted w sessionID pvcRef pvRef recoveryClaim)
    (hclaim : u.claims pvcRef.key = w.claims pvcRef.key)
    (hvolume : u.volumes pvRef.name = w.volumes pvRef.name) :
    IdentityAccepted u sessionID pvcRef pvRef recoveryClaim := by
  rcases h with ⟨pvc, pv, hlive⟩ | ⟨hgone, reservation, hreservation, pv, hretained⟩
  · exact .inl ⟨pvc, pv, { hlive with
      claim := hclaim.trans hlive.claim
      volume := hvolume.trans hlive.volume }⟩
  · exact .inr ⟨hclaim.trans hgone, reservation, hreservation, pv,
      { hretained with volume := hvolume.trans hretained.volume }⟩

/-- The claims and the volumes of a transfer, the place of its activated claim, the Pods and the
attachments are the same in both worlds. -/
structure SamePlaces (w u : World ρ) (volume : PVCTransferBindings) (target : String × String) :
    Prop where
  source : u.claims volume.sourcePVC.key = w.claims volume.sourcePVC.key
  destination : u.claims volume.destinationPVC.key = w.claims volume.destinationPVC.key
  target : u.claims target = w.claims target
  sourcePV : u.volumes volume.sourcePV.name = w.volumes volume.sourcePV.name
  destinationPV : u.volumes volume.destinationPV.name = w.volumes volume.destinationPV.name
  pods : u.pods = w.pods
  attachments : u.attachments = w.attachments

theorem World.NoConsumers.congr {ns claim : String} (h : w.NoConsumers ns claim)
    (hpods : u.pods = w.pods) : u.NoConsumers ns claim := by
  simpa only [World.NoConsumers, hpods] using h

theorem World.Detached.congr (h : w.Detached pvName)
    (hattachments : u.attachments = w.attachments) : u.Detached pvName := by
  simpa only [World.Detached, hattachments] using h

theorem BindingsAccepted.congr {target : String × String}
    (h : BindingsAccepted w sessionID volume recovering) (hsame : SamePlaces w u volume target) :
    BindingsAccepted u sessionID volume recovering where
  complete := h.complete
  source := h.source.congr hsame.source hsame.sourcePV
  destination := h.destination.congr hsame.destination hsame.destinationPV
  sourceUnused := h.sourceUnused.congr hsame.pods
  destinationUnused := h.destinationUnused.congr hsame.pods
  sourceDetached := h.sourceDetached.congr hsame.attachments
  destinationDetached := h.destinationDetached.congr hsame.attachments

end Accepts

end PvcMigrate.Kube
