import PvcMigrate.App.MigrationObject

/-!
# Identities of migrated storage

The executor checks the storage of a volume again before it continues a cutover
(`migration_storage_identity.go`, `storage_rollback_recovery.go`): the source claim, the
activated claim or the restored claim is the recorded one, and it is bound to the recorded
volume in both directions.

While the workflow itself is being deleted, an object that is gone passes.
-/

namespace PvcMigrate

open Kube Prog

variable {ρ : Type}

/-- The last part of the storage checks: the volume is the expected one and bound to the
claim. -/
def verifyStoragePV (op role : String) (deleting : Bool) (expectedPV : ObjectReference)
    (pvc : PVC) : Switch ρ Unit := do
  match ← Api.getPV expectedPV.name with
  | none =>
    reject (deleting = false)
      (newError .kubernetes op ("read " ++ role ++ " PV " ++ expectedPV.name))
  | some pv => do
    reject (pv.name = "") (newError .kubernetes op
      ("read " ++ role ++ " PV " ++ expectedPV.name ++ " returned an empty object"))
    reject (pv.uid ≠ expectedPV.uid ∨ pv.claimRef ≠ some pvc.ref)
      (newError .conflict op (role ++ " PV " ++ pv.name ++ " identity or claimRef changed"))

variable (deleting : Bool) (sessionID : String)

def verifyRollbackStorageVolume
    (sourcePVC expectedPV : ObjectReference) (active : Option ObjectReference) :
    Switch ρ Unit := do
  let restored := active.getD {}
  reject (¬ restored.ClaimComplete) (newError .precondition "verify rollback"
    s!"PVC {sourcePVC.ns}/{sourcePVC.name} has no recorded restored identity")
  reject (restored.ns ≠ sourcePVC.ns ∨ restored.name ≠ sourcePVC.name)
    (newError .conflict "verify rollback"
      (s!"recorded restored PVC {restored.ns}/{restored.name} does not match source PVC " ++
        s!"{sourcePVC.ns}/{sourcePVC.name}"))
  reject (¬ expectedPV.VolumeComplete) (newError .precondition "verify rollback"
    s!"PVC {sourcePVC.ns}/{sourcePVC.name} has no recorded source PV identity")
  match ← Api.getPVC restored.ns restored.name with
  | none =>
    reject (deleting = false) (newError .kubernetes "verify rollback"
      s!"read restored PVC {restored.ns}/{restored.name}")
  | some pvc => do
    reject (pvc.name = "") (newError .kubernetes "verify rollback"
      s!"read restored PVC {restored.ns}/{restored.name} returned an empty object")
    reject (pvc.uid ≠ restored.uid ∨ pvc.phase ≠ .bound ∨
        pvc.spec.volumeName ≠ expectedPV.name)
      (newError .conflict "verify rollback"
        s!"restored PVC {pvc.ns}/{pvc.name} identity or binding changed")
    reject (pvc.uid ≠ sourcePVC.uid ∧ pvc.annotations.get sessionKey ≠ sessionID)
      (newError .conflict "verify rollback"
        s!"restored PVC {pvc.ns}/{pvc.name} is not the original or session-owned PVC")
    verifyStoragePV "verify rollback" "restored" deleting expectedPV pvc

def verifyActiveStorageVolume (sourcePVC : ObjectReference)
    (destinationNamespace : String) (expectedPV : ObjectReference)
    (active : Option ObjectReference) : Switch ρ Unit := do
  let recorded := active.getD {}
  reject (¬ recorded.ClaimComplete) (newError .precondition "verify migration"
    s!"PVC {sourcePVC.ns}/{sourcePVC.name} has no recorded active identity")
  reject (recorded.ns ≠ destinationNamespace ∨ recorded.name ≠ sourcePVC.name)
    (newError .conflict "verify migration"
      (s!"recorded active PVC {recorded.ns}/{recorded.name} does not match activated PVC " ++
        s!"{destinationNamespace}/{sourcePVC.name}"))
  reject (¬ expectedPV.VolumeComplete) (newError .precondition "verify migration"
    s!"PVC {sourcePVC.ns}/{sourcePVC.name} has no recorded destination PV identity")
  match ← Api.getPVC destinationNamespace sourcePVC.name with
  | none =>
    reject (deleting = false) (newError .kubernetes "verify migration"
      s!"read PVC {destinationNamespace}/{sourcePVC.name}")
  | some pvc => do
    reject (pvc.name = "") (newError .kubernetes "verify migration"
      s!"read PVC {destinationNamespace}/{sourcePVC.name} returned an empty object")
    let requested := pvc.deletionTimestamp.getD ""
    reject (pvc.deletionTimestamp ≠ none ∧ deleting = false)
      (newError .precondition "verify migration"
        (s!"active PVC {pvc.ns}/{pvc.name} is terminating (deletion requested at " ++
          requested ++ "); the workload cannot resume onto it"))
    reject (pvc.phase ≠ .bound ∨ pvc.spec.volumeName ≠ expectedPV.name ∨
        pvc.annotations.get sessionKey ≠ sessionID)
      (newError .conflict "verify migration"
        s!"PVC {pvc.ns}/{pvc.name} is not active on destination PV {expectedPV.name}")
    reject (pvc.uid ≠ recorded.uid) (newError .conflict "verify migration"
      s!"active PVC {pvc.ns}/{pvc.name} UID changed")
    verifyStoragePV "verify migration" "active" deleting expectedPV pvc

/-- `unrecordedActivePVC`: the claim at the place of the activated claim, unless it is the source
claim, and whether there is any. -/
def unrecordedActivePVC (sourcePVC sourcePV : ObjectReference) (destinationNamespace : String) :
    Switch ρ (Option ObjectReference × Bool) := do
  match ← Api.getPVC destinationNamespace sourcePVC.name with
  | none => pure (none, false)
  | some pvc => do
    reject (pvc.name = "") (newError .kubernetes "verify migration"
      s!"read PVC {destinationNamespace}/{sourcePVC.name} returned an empty object")
    if pvc.uid = sourcePVC.uid ∧ pvc.spec.volumeName = sourcePV.name then pure (none, true)
    else pure (some pvc.ref, true)

/-- `validateUnrecordedRollbackStorage`: whether the half-finished rollback of the volume was
recognised. -/
def validateUnrecordedRollbackStorage
    (sourcePVC sourcePV destinationPV : ObjectReference) (active : Option ObjectReference) :
    Switch ρ Bool := do
  match ← Api.getPVC sourcePVC.ns sourcePVC.name with
  | none =>
    let recorded := active.getD {}
    if recorded.name = "" ∨ recorded.uid = none then pure false
    else do
      -- the pair is reversed: the deleted claim was on the destination volume
      verifyActivationRecovery sessionID [⟨recorded, destinationPV, sourcePVC, sourcePV⟩]
      pure true
  | some pvc =>
    if pvc.spec.volumeName ≠ sourcePV.name then pure false
    else do
      verifyRollbackStorageVolume deleting sessionID sourcePVC sourcePV (some pvc.ref)
      pure true

/-! ## What the checks accept -/

section Accepts

variable {w : World ρ} {sessionID destinationNamespace : String}
  {sourcePVC sourcePV expectedPV destinationPV : ObjectReference}

/-- The expected volume is there and bound to the claim. -/
structure StoragePV (w : World ρ) (expectedPV : ObjectReference) (pvc : PVC) (pv : PV) : Prop where
  volume : w.volumes expectedPV.name = some pv
  named : pv.name ≠ ""
  uid : pv.uid = expectedPV.uid
  claimRef : pv.claimRef = some pvc.ref

variable {pvc : PVC} {deleting : Bool}

theorem accepts_verifyStoragePV {op role : String} :
    Accepts (verifyStoragePV op role false expectedPV pvc) w ↔
      ∃ pv, StoragePV w expectedPV pvc pv := by
  rw [verifyStoragePV, accepts_getPV]
  cases hpv : w.volumes expectedPV.name with
  | none =>
    simp only [accepts_reject, not_true_eq_false, false_iff, not_exists]
    intro pv h
    exact Option.some_ne_none pv (h.volume.symm.trans hpv)
  | some pv =>
    simp only [accepts_reject_bind, accepts_reject, not_or, not_not]
    constructor
    · intro h
      exact ⟨pv, hpv, h.1, h.2.1, h.2.2⟩
    · rintro ⟨pv', h⟩
      obtain rfl : pv = pv' := Option.some.inj (hpv.symm.trans h.volume)
      exact ⟨h.named, h.uid, h.claimRef⟩

theorem readOnly_verifyStoragePV {op role : String} :
    ReadOnly (verifyStoragePV op role deleting expectedPV pvc : Switch ρ Unit) := by
  refine only_bind readOnly_getPV fun pv => ?_
  cases pv with
  | none => exact only_reject
  | some pv => exact only_reject_bind only_reject

/-- The activated claim is the recorded one, the session's, and bound to the destination
volume. -/
structure ActiveStorage (w : World ρ) (sessionID : String) (sourcePVC : ObjectReference)
    (destinationNamespace : String) (expectedPV active : ObjectReference) (pvc : PVC) (pv : PV) :
    Prop where
  complete : active.ClaimComplete
  ns : active.ns = destinationNamespace
  name : active.name = sourcePVC.name
  volumeComplete : expectedPV.VolumeComplete
  claim : w.claims (destinationNamespace, sourcePVC.name) = some pvc
  named : pvc.name ≠ ""
  alive : pvc.deletionTimestamp = none
  phase : pvc.phase = .bound
  volumeName : pvc.spec.volumeName = expectedPV.name
  annotated : pvc.annotations.get sessionKey = sessionID
  uid : pvc.uid = active.uid
  storage : StoragePV w expectedPV pvc pv

theorem accepts_verifyActiveStorageVolume {active : ObjectReference} :
    Accepts (verifyActiveStorageVolume false sessionID sourcePVC destinationNamespace expectedPV
        (some active)) w ↔
      ∃ pvc pv, ActiveStorage w sessionID sourcePVC destinationNamespace expectedPV active
        pvc pv := by
  simp only [verifyActiveStorageVolume, Option.getD_some, accepts_reject_bind, accepts_getPVC,
    not_not, not_or]
  cases hpvc : w.claims (destinationNamespace, sourcePVC.name) with
  | none =>
    simp only [accepts_reject, not_true_eq_false, and_false, false_iff, not_exists]
    intro pvc pv h
    exact Option.some_ne_none pvc (h.claim.symm.trans hpvc)
  | some pvc =>
    simp only [accepts_reject_bind, accepts_verifyStoragePV, not_or, not_not, and_true]
    constructor
    · rintro ⟨hcomplete, ⟨hns, hname⟩, hvolume, hnamed, halive, ⟨hphase, hvolumeName, hann⟩,
        huid, pv, hpv⟩
      exact ⟨pvc, pv, hcomplete, hns, hname, hvolume, hpvc, hnamed, halive, hphase, hvolumeName,
        hann, huid, hpv⟩
    · rintro ⟨pvc', pv, h⟩
      obtain rfl : pvc = pvc' := Option.some.inj (hpvc.symm.trans h.claim)
      exact ⟨h.complete, ⟨h.ns, h.name⟩, h.volumeComplete, h.named, h.alive,
        ⟨h.phase, h.volumeName, h.annotated⟩, h.uid, pv, h.storage⟩

theorem readOnly_verifyActiveStorageVolume {active : Option ObjectReference} :
    ReadOnly (verifyActiveStorageVolume deleting sessionID sourcePVC destinationNamespace
      expectedPV active : Switch ρ Unit) := by
  refine only_reject_bind <| only_reject_bind <|
    only_reject_bind <| only_bind readOnly_getPVC fun pvc => ?_
  cases pvc with
  | none => exact only_reject
  | some pvc =>
    exact only_reject_bind <| only_reject_bind <|
      only_reject_bind <| only_reject_bind readOnly_verifyStoragePV

/-- The restored claim is the recorded one, the original or the session's, and bound to the source
volume. -/
structure RestoredStorage (w : World ρ) (sessionID : String)
    (sourcePVC expectedPV restored : ObjectReference) (pvc : PVC) (pv : PV) : Prop where
  complete : restored.ClaimComplete
  ns : restored.ns = sourcePVC.ns
  name : restored.name = sourcePVC.name
  volumeComplete : expectedPV.VolumeComplete
  claim : w.claims (restored.ns, restored.name) = some pvc
  named : pvc.name ≠ ""
  uid : pvc.uid = restored.uid
  phase : pvc.phase = .bound
  volumeName : pvc.spec.volumeName = expectedPV.name
  owned : pvc.uid = sourcePVC.uid ∨ pvc.annotations.get sessionKey = sessionID
  storage : StoragePV w expectedPV pvc pv

theorem accepts_verifyRollbackStorageVolume {restored : ObjectReference} :
    Accepts (verifyRollbackStorageVolume false sessionID sourcePVC expectedPV (some restored)) w ↔
      ∃ pvc pv, RestoredStorage w sessionID sourcePVC expectedPV restored pvc pv := by
  simp only [verifyRollbackStorageVolume, Option.getD_some, accepts_reject_bind, accepts_getPVC,
    not_not, not_or]
  cases hpvc : w.claims (restored.ns, restored.name) with
  | none =>
    simp only [accepts_reject, not_true_eq_false, and_false, false_iff, not_exists]
    intro pvc pv h
    exact Option.some_ne_none pvc (h.claim.symm.trans hpvc)
  | some pvc =>
    simp only [accepts_reject_bind, accepts_verifyStoragePV, not_or, not_not, not_and_or]
    constructor
    · rintro ⟨hcomplete, ⟨hns, hname⟩, hvolume, hnamed, ⟨huid, hphase, hvolumeName⟩, howned, pv,
        hpv⟩
      exact ⟨pvc, pv, hcomplete, hns, hname, hvolume, hpvc, hnamed, huid, hphase, hvolumeName,
        howned, hpv⟩
    · rintro ⟨pvc', pv, h⟩
      obtain rfl : pvc = pvc' := Option.some.inj (hpvc.symm.trans h.claim)
      exact ⟨h.complete, ⟨h.ns, h.name⟩, h.volumeComplete, h.named,
        ⟨h.uid, h.phase, h.volumeName⟩, h.owned, pv, h.storage⟩

theorem readOnly_verifyRollbackStorageVolume {active : Option ObjectReference} :
    ReadOnly (verifyRollbackStorageVolume deleting sessionID sourcePVC expectedPV active :
      Switch ρ Unit) := by
  refine only_reject_bind <| only_reject_bind <|
    only_reject_bind <| only_bind readOnly_getPVC fun pvc => ?_
  cases pvc with
  | none => exact only_reject
  | some pvc =>
    exact only_reject_bind <| only_reject_bind <|
      only_reject_bind readOnly_verifyStoragePV

theorem ActiveStorage.congr {u : World ρ} {active : ObjectReference} {pv : PV}
    (h : ActiveStorage w sessionID sourcePVC destinationNamespace expectedPV active pvc pv)
    (hclaim : u.claims (destinationNamespace, sourcePVC.name) =
      w.claims (destinationNamespace, sourcePVC.name))
    (hvolume : u.volumes expectedPV.name = w.volumes expectedPV.name) :
    ActiveStorage u sessionID sourcePVC destinationNamespace expectedPV active pvc pv :=
  { h with
    claim := hclaim.trans h.claim
    storage := { h.storage with volume := hvolume.trans h.storage.volume } }

theorem RestoredStorage.congr {u : World ρ} {restored : ObjectReference} {pv : PV}
    (h : RestoredStorage w sessionID sourcePVC expectedPV restored pvc pv)
    (hclaim : u.claims sourcePVC.key = w.claims sourcePVC.key)
    (hvolume : u.volumes expectedPV.name = w.volumes expectedPV.name) :
    RestoredStorage u sessionID sourcePVC expectedPV restored pvc pv :=
  have hkey : (restored.ns, restored.name) = sourcePVC.key := Prod.ext h.ns h.name
  { h with
    claim := by
      rw [hkey, hclaim, ← hkey]
      exact h.claim
    storage := { h.storage with volume := hvolume.trans h.storage.volume } }

end Accepts

end PvcMigrate
