import PvcMigrate.Kube.Cluster

/-!
# Bindings

The building blocks of the switcher (`switcher_pv_binding.go` and the creation of claims in
`switcher_active_pvc.go`): deleting a claim and waiting for it to go, reserving a volume for a
claim, pinning a volume with the `Retain` policy, marking a pair of volumes, creating a claim
and waiting for it to bind, and verifying a binding.

Each is a program over the API (`Switch`).  Cancelling the context and losing the lease are not
errors here but stops: the process makes no further call.
-/

namespace PvcMigrate.Kube

open Prog

variable {ρ : Type}

/-! ## Deleting a claim -/

def validatePVCDeletionFinalizers (pvc : PVC) (operation : String) : Switch ρ Unit :=
  reject (blockingPVCFinalizers pvc ≠ []) (newError .precondition operation
    (s!"PVC {pvc.ns}/{pvc.name} has custom finalizer(s) " ++
      ", ".intercalate (blockingPVCFinalizers pvc) ++
      "; resolve them with their owning controller or explicitly remove them before retrying"))

variable (ref : ObjectReference)

/-- The wait of `deletePVC`. -/
def waitForDeletion (uid : UID) : Switch ρ Unit := do
  Api.awaitDeletion ref.ns ref.name
  match ← Api.getPVC ref.ns ref.name with
  | none => pure ()
  | some current => do
    reject (current.uid ≠ uid) (newError .conflict "delete PVC"
      s!"PVC {ref.ns}/{ref.name} name was reused")
    fail (.waiting s!"PVC {ref.ns}/{ref.name} deletion")

def deletePVC : Switch ρ Unit := do
  reject (ref.ns = "" ∨ ref.name = "" ∨ ref.uid = none) (newError .validation "delete PVC"
    "PVC namespace, name, and UID are required")
  match ← Api.getPVC ref.ns ref.name with
  | none => pure ()
  | some pvc => do
    reject (pvc.uid ≠ ref.uid) (newError .conflict "delete PVC"
      s!"PVC {ref.ns}/{ref.name} UID changed from {ref.uid.text} to {pvc.uid.text}")
    validatePVCDeletionFinalizers pvc "delete PVC"
    match ← Api.deletePVC ref.ns ref.name pvc.uid pvc.resourceVersion with
    | .error .conflict => fail (newError .conflict "delete PVC"
        s!"PVC {ref.ns}/{ref.name} changed concurrently")
    | .error .alreadyExists => fail (newError .kubernetes "delete PVC"
        s!"delete {ref.ns}/{ref.name}")
    | _ => waitForDeletion ref pvc.uid

/-! ## Reserving a volume -/

variable (r : ObjectReference)

/-- The claim reference `r` names the claim `claim` of `ns`. -/
def namesClaim (ns claim : String) : Prop :=
  r.ns = ns ∧ r.name = claim

instance (ns claim : String) : Decidable (namesClaim r ns claim) :=
  inferInstanceAs (Decidable (_ ∧ _))

variable (pv : PV)

/-- The live claim is the one the volume's claim reference identifies. -/
def identifies (current : PVC) : Prop :=
  r.uid ≠ none ∧ current.uid = r.uid ∧ current.spec.volumeName = pv.name

instance (current : PVC) : Decidable (identifies r pv current) :=
  inferInstanceAs (Decidable (_ ∧ _))

/-- The error of a reservation that finds another claim in its place. -/
def differentIdentity : Failure :=
  newError .conflict "reserve PV" s!"PV {pv.name} claimRef points to a different PVC identity"

def pvReadyForReservation (ns claim : String) : Switch ρ Bool := do
  match ← Api.getPV ref.name with
  | none => fail (.api .notFound)
  | some pv => do
    reject (pv.uid ≠ ref.uid) (newError .conflict "reserve PV" s!"PV {ref.name} UID changed")
    match pv.claimRef with
    | none => pure (pv.phase = .released ∨ pv.phase = .available : Bool)
    | some r =>
      if ¬ namesClaim r ns claim then pure (pv.phase = .released ∨ pv.phase = .available : Bool)
      else match ← Api.getPVC ns claim with
        | some current => do
          reject (¬ identifies r pv current) (differentIdentity pv)
          pure true
        -- the recorded claim is stale after its PVC was deleted
        | none => pure true

def waitForPVReservation (ns claim : String) : Switch ρ Unit := do
  Api.awaitRelease ref.name
  let ready ← pvReadyForReservation ref ns claim
  reject (ready = false) (.waiting s!"PV {ref.name} release before reservation")

/-- The volume with its claim reference replaced by a reservation for a claim. -/
def PV.reservedFor (ns claim : String) : PV :=
  { pv with claimRef := some ⟨ns, claim, none⟩ }

/-- Update a volume and pass an API error on. -/
def updatePV : Switch ρ Unit := do
  match ← Api.updatePV pv with
  | .ok _ => pure ()
  | .error e => fail (.api e)

def updatePVReservation (ns claim sessionID : String) : Switch ρ Unit := do
  match ← Api.getPV ref.name with
  | none => fail (.api .notFound)
  | some pv => do
    reject (pv.uid ≠ ref.uid) (newError .conflict "reserve PV" s!"PV {ref.name} UID changed")
    let owner := pv.labels.get sessionKey
    reject (owner ≠ "" ∧ owner ≠ sessionID) (newError .conflict "reserve PV"
      s!"PV {ref.name} belongs to session {owner}")
    match pv.claimRef with
    | none => updatePV (pv.reservedFor ns claim)
    | some r =>
      if ¬ namesClaim r ns claim then updatePV (pv.reservedFor ns claim)
      else match ← Api.getPVC ns claim with
        | some current => reject (¬ identifies r pv current) (differentIdentity pv)
        | none => if r.uid = none then pure () else updatePV (pv.reservedFor ns claim)

def wrapUnlessConflict (op message : String) (p : Switch ρ Unit) : Switch ρ Unit :=
  p.tryCatch fun e =>
    if e.category = .conflict then fail e else fail (newError .kubernetes op message)

def reservePV (ns claim sessionID : String) : Switch ρ Unit := do
  reject (ref.name = "" ∨ ref.uid = none ∨ ns = "" ∨ claim = "" ∨ sessionID = "")
    (newError .validation "reserve PV"
      "PV name/UID, claim namespace/name, and session ID are required")
  waitForPVReservation ref ns claim
  wrapUnlessConflict "reserve PV" s!"update PV {ref.name} claimRef"
    (retryOnConflict (updatePVReservation ref ns claim sessionID) defaultRetry)

/-! ## Pinning and marking volumes -/

/-- `markPVSession`: the labels a session puts on a volume, and whether one changed. -/
def markPVSession (labels : StringMap) (sessionID role : String) : StringMap × Bool :=
  [(managedByLabel, managedByValue), (sessionKey, sessionID), (resourceRoleLabel, role)].foldl
    (fun marked label =>
      if marked.1.get label.1 ≠ label.2 then (marked.1.set label.1 label.2, true) else marked)
    (labels, false)

/-- Record the original reclaim policy and pin the volume, in one update. -/
def pinRetain : PV × Bool :=
  if pv.annotations.get originalPolicyAnnotation = "" then
    ({ pv with
        annotations := pv.annotations.set originalPolicyAnnotation pv.reclaimPolicy.text
        reclaimPolicy := .retain }, true)
  else ({ pv with reclaimPolicy := .retain }, pv.reclaimPolicy ≠ .retain)

/-- The volume `ensureRetain` writes, and whether it differs. -/
def retainPV (sessionID role : String) (pv : PV) : PV × Bool :=
  let marked := markPVSession pv.labels sessionID role
  let pinned := pinRetain { pv with labels := marked.1 }
  (pinned.1, marked.2 || pinned.2)

/-- The volume `markPVPair` writes, and whether it differs. -/
def pairPV (sessionID role other : String) (pv : PV) : PV × Bool :=
  let marked := markPVSession pv.labels sessionID role
  let paired := pv.annotations.get pairedPVAnnotation ≠ other
  let annotations :=
    if paired then pv.annotations.set pairedPVAnnotation other else pv.annotations
  let pinned := pinRetain { pv with labels := marked.1, annotations := annotations }
  (pinned.1, marked.2 || paired || pinned.2)

/-- One attempt to change a volume of the session: read it, check its identity and its owner,
and write it if it changed. -/
def amendPV (op : String) (ref : ObjectReference) (sessionID : String) (mayBeMissing : Bool)
    (amend : PV → PV × Bool) : Switch ρ Unit := do
  match ← Api.getPV ref.name with
  | none => reject (mayBeMissing = false) (.api .notFound)
  | some pv => do
    reject (pv.uid ≠ ref.uid) (newError .conflict op s!"PV {ref.name} UID changed")
    let owner := pv.labels.get sessionKey
    reject (owner ≠ "" ∧ owner ≠ sessionID) (newError .conflict op
      s!"PV {ref.name} belongs to session {owner}")
    if (amend pv).2 = false then pure () else updatePV (amend pv).1

def ensureRetain (sessionID role : String) : Switch ρ Unit := do
  reject (ref.name = "" ∨ ref.uid = none ∨ sessionID = "" ∨ role = "")
    (newError .validation "retain PV" "PV name/UID, session ID, and role are required")
  wrapUnlessConflict "retain PV" s!"update PV {ref.name}"
    (retryOnConflict
      (amendPV "retain PV" ref sessionID false (retainPV sessionID role)) defaultRetry)

variable (sessionID : String)

/-- One round of `markPVPair`'s loop.  A rollback volume is disposable once the source volume
is active again. -/
def markPV (rolledBack : Bool) (ref : ObjectReference) (role other : String) : Switch ρ Unit :=
  wrapUnlessConflict "mark PV pair" s!"update PV {ref.name}"
    (retryOnConflict
      (amendPV "mark PV pair" ref sessionID (rolledBack && role == "rollback")
        (pairPV sessionID role other)) defaultRetry)

def markPVPair (sourcePV destinationPV : ObjectReference) (rolledBack : Bool) : Switch ρ Unit := do
  reject (sessionID = "" ∨ sourcePV.name = "" ∨ sourcePV.uid = none ∨
      destinationPV.name = "" ∨ destinationPV.uid = none)
    (newError .validation "mark PV pair"
      "session ID and source/destination PV identities are required")
  let active := if rolledBack then sourcePV else destinationPV
  let rollback := if rolledBack then destinationPV else sourcePV
  markPV sessionID rolledBack active "active" rollback.name
  markPV sessionID rolledBack rollback "rollback" active.name

/-! ## Verifying a binding -/

variable (pvc : PVC)

/-- `ValidateBoundVolumeCapacity` without a required capacity; the error's text. -/
def validateBoundVolumeCapacity (pv : PV) : Option String :=
  match pvc.spec.request with
  | none => none
  | some requested =>
    if requested ≤ 0 then none
    else match pv.capacity with
      | none => some (s!"PVC {pvc.ns}/{pvc.name} requests {requested} but bound PV {pv.name} " ++
          "has no positive storage capacity")
      | some provisioned =>
        if provisioned ≤ 0 then
          some (s!"PVC {pvc.ns}/{pvc.name} requests {requested} but bound PV {pv.name} " ++
            "has no positive storage capacity")
        else if provisioned < requested then
          some (s!"PVC {pvc.ns}/{pvc.name} requests {requested} but bound PV {pv.name} " ++
            s!"currently provides {provisioned}; volume expansion is incomplete or " ++
            "inconsistent, so wait for PV capacity to reach the request before continuing")
        else none

def verifyBinding (ref : ObjectReference) : Switch ρ Unit := do
  reject (pvc.ns = "" ∨ pvc.name = "" ∨ pvc.uid = none ∨ ref.name = "" ∨ ref.uid = none)
    (newError .validation "verify binding" "PVC and PV identities are required")
  reject (pvc.phase ≠ .bound ∨ pvc.spec.volumeName ≠ ref.name)
    (newError .conflict "verify binding"
      s!"PVC {pvc.ns}/{pvc.name} is not Bound to {ref.name}")
  match ← Api.getPV ref.name with
  | none => fail (newError .kubernetes "verify binding" s!"read PV {ref.name}")
  | some pv => do
    reject (pv.uid ≠ ref.uid) (newError .conflict "verify binding" s!"PV {ref.name} UID changed")
    reject (pv.claimRef ≠ some pvc.ref) (newError .conflict "verify binding"
      s!"PV {ref.name} claimRef does not match PVC UID {pvc.uid.text}")
    match validateBoundVolumeCapacity pvc pv with
    | none => pure ()
    | some message => fail (newError .conflict "verify binding" message)

/-! ## Creating a claim -/

/-- `validateBoundPVC`: a server-side dry run. -/
def validateBoundPVC : Switch ρ Unit := do
  match ← Api.createPVC pvc true with
  | .ok _ => pure ()
  | .error _ => fail (newError .precondition "validate active PVC"
      s!"server-side dry-run rejected {pvc.ns}/{pvc.name}")

def PVC.OwnedBy (sessionID : String) : Prop :=
  pvc.labels.get managedByLabel = managedByValue ∧ pvc.labels.get sessionKey = sessionID ∧
    pvc.annotations.get sessionKey = sessionID

instance (sessionID : String) : Decidable (pvc.OwnedBy sessionID) :=
  inferInstanceAs (Decidable (_ ∧ _))

/-- The wait of `createBoundPVC`. -/
def waitForBinding (pvc created : PVC) : Switch ρ PVC := do
  Api.awaitBinding created.ns created.name
  match ← Api.getPVC created.ns created.name with
  | none => fail (.api .notFound)
  | some current => do
    reject (current.uid ≠ created.uid) (newError .conflict "create active PVC"
      s!"PVC {current.ns}/{current.name} was replaced while waiting for binding")
    reject (¬ current.OwnedBy sessionID) (newError .conflict "create active PVC"
      s!"PVC {current.ns}/{current.name} ownership changed while waiting for binding")
    reject (current.spec.volumeName ≠ pvc.spec.volumeName)
      (newError .conflict "create active PVC" s!"PVC bound to PV {current.spec.volumeName}")
    reject (current.phase ≠ .bound) (.waiting
      s!"PVC {created.ns}/{created.name} binding to PV {pvc.spec.volumeName}")
    pure current

/-- The claim `createBoundPVC` starts from: a new one, or the one already there. -/
def createOrGetPVC : Switch ρ PVC := do
  match ← Api.createPVC pvc false with
  | .ok created => pure created
  | .error .alreadyExists => do
    match ← Api.getPVC pvc.ns pvc.name with
    | some existing => pure existing
    | none => fail (newError .kubernetes "create active PVC" s!"create {pvc.ns}/{pvc.name}")
  | .error _ => fail (newError .kubernetes "create active PVC" s!"create {pvc.ns}/{pvc.name}")

def createBoundPVC : Switch ρ PVC := do
  let created ← createOrGetPVC pvc
  reject (created.uid = none) (newError .kubernetes "create active PVC"
    s!"create {pvc.ns}/{pvc.name} returned an object without a UID")
  reject (created.spec.volumeName ≠ pvc.spec.volumeName ∨ ¬ created.OwnedBy sessionID)
    (newError .conflict "create active PVC"
      s!"PVC {created.ns}/{created.name} exists with an unexpected binding")
  waitForBinding sessionID pvc created

/-! ## What the updates do to a volume -/

section Volumes

variable {sessionID role other : String} {pv : PV}

/-- The session may claim the volume: it has no owner, or the session is the owner. -/
def PV.Ours (pv : PV) (sessionID : String) : Prop :=
  pv.labels.get sessionKey = "" ∨ pv.labels.get sessionKey = sessionID

/-- The volume survives its claim, and it is the session's. -/
def PV.Pinned (pv : PV) (sessionID : String) : Prop :=
  pv.reclaimPolicy = .retain ∧ pv.labels.get sessionKey = sessionID

theorem PV.Pinned.ours (h : pv.Pinned sessionID) : pv.Ours sessionID := .inr h.2

/-- The volume after an update that is skipped when nothing changed. -/
def PV.amended (amend : PV → PV × Bool) (pv : PV) : PV :=
  if (amend pv).2 = false then pv else (amend pv).1.stored

/-- The volume after `ensureRetain`. -/
def PV.retained (pv : PV) (sessionID role : String) : PV := pv.amended (retainPV sessionID role)

/-- The volume after `markPV`. -/
def PV.paired (pv : PV) (sessionID role other : String) : PV :=
  pv.amended (pairPV sessionID role other)

theorem markPVSession_get (labels : StringMap) (sessionID role : String) :
    (markPVSession labels sessionID role).1.get sessionKey = sessionID ∧
      (markPVSession labels sessionID role).1.get resourceRoleLabel = role := by
  simp only [markPVSession, List.foldl_cons, List.foldl_nil]
  have h1 : sessionKey ≠ resourceRoleLabel := by decide
  split <;> split <;> split <;> simp_all

/-- If marking changed nothing, the labels are the ones there were. -/
theorem markPVSession_unchanged {labels : StringMap}
    (h : (markPVSession labels sessionID role).2 = false) :
    (markPVSession labels sessionID role).1 = labels := by
  simp only [markPVSession, List.foldl_cons, List.foldl_nil] at h ⊢
  split at h <;> split at h <;> split at h <;> simp_all

theorem pinRetain_fields (pv : PV) :
    (pinRetain pv).1.name = pv.name ∧ (pinRetain pv).1.uid = pv.uid ∧
      (pinRetain pv).1.resourceVersion = pv.resourceVersion ∧
      (pinRetain pv).1.deletionTimestamp = pv.deletionTimestamp ∧
      (pinRetain pv).1.labels = pv.labels ∧ (pinRetain pv).1.claimRef = pv.claimRef ∧
      (pinRetain pv).1.phase = pv.phase ∧ (pinRetain pv).1.capacity = pv.capacity ∧
      (pinRetain pv).1.reclaimPolicy = .retain := by
  unfold pinRetain
  split <;> simp

theorem pinRetain_unchanged (h : (pinRetain pv).2 = false) : pv.reclaimPolicy = .retain := by
  unfold pinRetain at h
  split at h <;> simp_all

/-- An update of a volume that keeps what identifies it and its binding, and pins it for the
session under a role. -/
structure PV.Pins (amend : PV → PV × Bool) (sessionID role : String) : Prop where
  name : ∀ pv, (amend pv).1.name = pv.name
  uid : ∀ pv, (amend pv).1.uid = pv.uid
  resourceVersion : ∀ pv, (amend pv).1.resourceVersion = pv.resourceVersion
  deletionTimestamp : ∀ pv, (amend pv).1.deletionTimestamp = pv.deletionTimestamp
  claimRef : ∀ pv, (amend pv).1.claimRef = pv.claimRef
  phase : ∀ pv, (amend pv).1.phase = pv.phase
  capacity : ∀ pv, (amend pv).1.capacity = pv.capacity
  pinned : ∀ pv, (amend pv).1.Pinned sessionID
  labelled : ∀ pv, (amend pv).1.labels.get resourceRoleLabel = role
  unchanged : ∀ pv, (amend pv).2 = false →
    pv.Pinned sessionID ∧ pv.labels.get resourceRoleLabel = role

theorem pins_retainPV : PV.Pins (retainPV sessionID role) sessionID role := by
  constructor <;> intro pv
  case unchanged =>
    intro h
    simp only [retainPV, Bool.or_eq_false_iff] at h
    have hlabels := markPVSession_get pv.labels sessionID role
    rw [markPVSession_unchanged h.1] at hlabels
    have hpolicy := pinRetain_unchanged h.2
    exact ⟨⟨hpolicy, hlabels.1⟩, hlabels.2⟩
  all_goals simp [retainPV, PV.Pinned, pinRetain_fields, markPVSession_get]

theorem pins_pairPV : PV.Pins (pairPV sessionID role other) sessionID role := by
  constructor <;> intro pv
  case unchanged =>
    intro h
    simp only [pairPV, Bool.or_eq_false_iff] at h
    have hlabels := markPVSession_get pv.labels sessionID role
    rw [markPVSession_unchanged h.1.1] at hlabels
    have hpolicy := pinRetain_unchanged h.2
    exact ⟨⟨hpolicy, hlabels.1⟩, hlabels.2⟩
  all_goals simp [pairPV, PV.Pinned, pinRetain_fields, markPVSession_get]

/-- What a pinning update leaves alone, and what it establishes, changed or not. -/
structure PV.PinnedFrom (pv pv' : PV) (sessionID role : String) : Prop where
  name : pv'.name = pv.name
  uid : pv'.uid = pv.uid
  deletionTimestamp : pv'.deletionTimestamp = pv.deletionTimestamp
  claimRef : pv'.claimRef = pv.claimRef
  phase : pv'.phase = pv.phase
  capacity : pv'.capacity = pv.capacity
  pinned : pv'.Pinned sessionID
  labelled : pv'.labels.get resourceRoleLabel = role

theorem PV.Pins.amended {amend : PV → PV × Bool} (h : PV.Pins amend sessionID role) (pv : PV) :
    pv.PinnedFrom (pv.amended amend) sessionID role := by
  unfold PV.amended
  split
  case isTrue hsame =>
    obtain ⟨hpinned, hrole⟩ := h.unchanged pv hsame
    exact ⟨rfl, rfl, rfl, rfl, rfl, rfl, hpinned, hrole⟩
  case isFalse =>
    exact ⟨h.name pv, h.uid pv, h.deletionTimestamp pv, h.claimRef pv, h.phase pv,
      h.capacity pv, h.pinned pv, h.labelled pv⟩

theorem pinnedFrom_retained (pv : PV) (sessionID role : String) :
    pv.PinnedFrom (pv.retained sessionID role) sessionID role :=
  pins_retainPV.amended pv

theorem pinnedFrom_paired (pv : PV) :
    pv.PinnedFrom (pv.paired sessionID role other) sessionID role :=
  pins_pairPV.amended pv

end Volumes

/-! ## Specifications

Each program is described once, as an equivalence for `Runs`: the stops it passes, and the
world and the result it ends with. -/

section Specs

variable {C : World ρ → Prop} {w : World ρ} {w' : World ρ}

/-- The call succeeds and leaves `w'`, if the stops on the way are as `stops` says. -/
abbrev Completes (C : World ρ → Prop) (p : Switch ρ Unit) (w : World ρ) (stops : Prop)
    (w' : World ρ) : Prop :=
  ∀ Q, Runs C Q p w ↔ stops ∧ Q (.ok ()) w'

theorem runs_retryOnConflict {attempt : Switch ρ Unit} {P : Prop}
    (h : Completes C attempt w P w') (n : Nat) :
    Completes C (retryOnConflict attempt n) w P w' := by
  intro Q
  cases n with
  | zero => exact h Q
  | succ n => exact wp_tryCatch.trans (h _)

theorem runs_wrapUnlessConflict {p : Switch ρ Unit} {P : Prop} {op message : String}
    (h : Completes C p w P w') :
    Completes C (wrapUnlessConflict op message p) w P w' :=
  fun _ => wp_tryCatch.trans (h _)

variable {pv : PV}

theorem update_of_read {name : String} {pv' : PV} (hpv : w.volumes name = some pv)
    (hname : pv'.name = name) (huid : pv'.uid = pv.uid)
    (hrv : pv'.resourceVersion = pv.resourceVersion) :
    w.update pv' = (.ok (), w.setVolume name (some pv'.stored)) := by
  simp [World.update, hname, hpv, huid, hrv]

variable {sessionID role : String} {ref : ObjectReference}

theorem runs_amendPV {op : String} {missing : Bool} {amend : PV → PV × Bool}
    (hamend : PV.Pins amend sessionID role) (hpv : w.volumes ref.name = some pv)
    (hname : pv.name = ref.name) (huid : pv.uid = ref.uid) (hours : pv.Ours sessionID) :
    Completes C (amendPV op ref sessionID missing amend) w
      (C w ∧ C (w.setVolume ref.name (some (pv.amended amend))))
      (w.setVolume ref.name (some (pv.amended amend))) := by
  intro Q
  have howner : ¬ (pv.labels.get sessionKey ≠ "" ∧ pv.labels.get sessionKey ≠ sessionID) := by
    rintro ⟨hne, hother⟩
    exact hours.elim hne hother
  have hupdate : w.update (amend pv).1 =
      (.ok (), w.setVolume ref.name (some (amend pv).1.stored)) :=
    update_of_read hpv ((hamend.name pv).trans hname) (hamend.uid pv) (hamend.resourceVersion pv)
  simp only [amendPV, runs_getPV, hpv, runs_reject, huid, ne_eq, not_true_eq_false, if_false,
    howner]
  by_cases hsame : (amend pv).2 = false
  · have hself : w.setVolume ref.name (some pv) = w := World.setVolume_eq_self w hpv
    simp [PV.amended, hsame, hself]
  · simp [PV.amended, hsame, updatePV, hupdate, and_assoc]

/-- The volume `ref` is in the world, with its identity, and the session may claim it. -/
structure Holds (w : World ρ) (ref : ObjectReference) (sessionID : String) (pv : PV) : Prop where
  volume : w.volumes ref.name = some pv
  name : pv.name = ref.name
  uid : pv.uid = ref.uid
  ours : pv.Ours sessionID

theorem runs_ensureRetain (hpv : Holds w ref sessionID pv) (hcomplete : ref.VolumeComplete)
    (hsession : sessionID ≠ "") (hrole : role ≠ "") :
    Completes C (ensureRetain ref sessionID role) w
      (C w ∧ C (w.setVolume ref.name (some (pv.retained sessionID role))))
      (w.setVolume ref.name (some (pv.retained sessionID role))) := by
  intro Q
  have hbad : ¬ (ref.name = "" ∨ ref.uid = none ∨ sessionID = "" ∨ role = "") := by
    simp [hcomplete.1, hcomplete.2, hsession, hrole]
  simp only [ensureRetain, runs_reject, hbad, if_false]
  exact runs_wrapUnlessConflict (runs_retryOnConflict
    (runs_amendPV pins_retainPV hpv.volume hpv.name hpv.uid hpv.ours) _) Q

theorem runs_markPV {other : String} {rolledBack : Bool} (hpv : Holds w ref sessionID pv) :
    Completes C (markPV sessionID rolledBack ref role other) w
      (C w ∧ C (w.setVolume ref.name (some (pv.paired sessionID role other))))
      (w.setVolume ref.name (some (pv.paired sessionID role other))) :=
  runs_wrapUnlessConflict (runs_retryOnConflict
    (runs_amendPV pins_pairPV hpv.volume hpv.name hpv.uid hpv.ours) _)

/-- The world after a pair of volumes has been marked. -/
def World.markPair (w : World ρ) (sessionID : String) (active rollback : ObjectReference)
    (pvActive pvRollback : PV) : World ρ :=
  (w.setVolume active.name (some (pvActive.paired sessionID "active" rollback.name))).setVolume
    rollback.name (some (pvRollback.paired sessionID "rollback" active.name))

/-- Marking a pair, in either direction: the active volume is `active`. -/
theorem runs_markPVPair {sourcePV destinationPV active rollback :
      ObjectReference} {rolledBack : Bool} {pvActive pvRollback : PV}
    (hactive : active = if rolledBack then sourcePV else destinationPV)
    (hrollback : rollback = if rolledBack then destinationPV else sourcePV)
    (hsession : sessionID ≠ "") (hsource : sourcePV.VolumeComplete)
    (hdestination : destinationPV.VolumeComplete) (hne : active.name ≠ rollback.name)
    (hpvActive : Holds w active sessionID pvActive)
    (hpvRollback : Holds w rollback sessionID pvRollback) :
    Completes C (markPVPair sessionID sourcePV destinationPV rolledBack) w
      (C w ∧ C (w.setVolume active.name (some (pvActive.paired sessionID "active" rollback.name))) ∧
        C (w.markPair sessionID active rollback pvActive pvRollback))
      (w.markPair sessionID active rollback pvActive pvRollback) := by
  intro Q
  have hrest : Holds (w.setVolume active.name
      (some (pvActive.paired sessionID "active" rollback.name))) rollback sessionID
      pvRollback :=
    ⟨by simpa [hne.symm] using hpvRollback.volume, hpvRollback.name, hpvRollback.uid,
      hpvRollback.ours⟩
  have hbad : ¬ (sessionID = "" ∨ sourcePV.name = "" ∨ sourcePV.uid = none ∨
      destinationPV.name = "" ∨ destinationPV.uid = none) := by
    simp [hsession, hsource.1, hsource.2, hdestination.1, hdestination.2]
  simp only [markPVPair, runs_reject, hbad, if_false, ← hactive, ← hrollback]
  refine wp_bind.trans ((runs_markPV hpvActive _).trans ?_)
  simp only [andThen_ok, runs_markPV hrest, World.markPair]
  tauto

section MarkPair

variable {sessionID : String} {sourcePV destinationPV : ObjectReference} {source destination : PV}
  (hsession : sessionID ≠ "") (hsource : sourcePV.VolumeComplete)
  (hdestination : destinationPV.VolumeComplete) (hne : sourcePV.name ≠ destinationPV.name)
  (hsourcePV : Holds w sourcePV sessionID source)
  (hdestinationPV : Holds w destinationPV sessionID destination)
include hsession hsource hdestination hne hsourcePV hdestinationPV

theorem runs_markPVPair_activated :
    Completes C (markPVPair sessionID sourcePV destinationPV false) w
      (C w ∧ C (w.setVolume destinationPV.name
          (some (destination.paired sessionID "active" sourcePV.name))) ∧
        C (w.markPair sessionID destinationPV sourcePV destination source))
      (w.markPair sessionID destinationPV sourcePV destination source) :=
  runs_markPVPair (by rfl) (by rfl) hsession hsource hdestination hne.symm hdestinationPV hsourcePV

theorem runs_markPVPair_rolledBack :
    Completes C (markPVPair sessionID sourcePV destinationPV true) w
      (C w ∧ C (w.setVolume sourcePV.name
          (some (source.paired sessionID "active" destinationPV.name))) ∧
        C (w.markPair sessionID sourcePV destinationPV source destination))
      (w.markPair sessionID sourcePV destinationPV source destination) :=
  runs_markPVPair (by rfl) (by rfl) hsession hsource hdestination hne hsourcePV hdestinationPV

end MarkPair

/-- No Pod of the namespace uses the claim or still holds it. -/
def World.NoConsumers (w : World ρ) (ns claim : String) : Prop :=
  ∀ pod ∈ w.pods, pod.ns = ns → podPreventsSafePVCDeletion pod claim = false

variable {ns : String}

theorem finishDeletion_of_terminating {name : String} {pvc : PVC}
    (hpvc : w.claims (ns, name) = some pvc) (hdeleted : pvc.deletionTimestamp.isSome)
    (hfinalizers : blockingPVCFinalizers pvc = []) (hfree : w.NoConsumers ns name) :
    w.finishDeletion ns name = w.setClaim (ns, name) none := by
  have hpods : ∀ pod ∈ w.pods, pod.ns = ns → podBlocksPVCDeletion pod name = false := by
    intro pod hpod hns
    have hsafe := hfree pod hpod hns
    simp only [podPreventsSafePVCDeletion, Bool.or_eq_false_iff] at hsafe
    exact hsafe.2
  simp only [World.finishDeletion, hpvc]
  rw [if_pos ⟨hdeleted, hfinalizers, hpods⟩]

theorem runs_deletePVC_absent (hcomplete : ref.ClaimComplete) (hpvc : w.claims ref.key = none) :
    Completes C (Kube.deletePVC ref) w (C w) w := by
  intro Q
  have hget : w.claims (ref.ns, ref.name) = none := hpvc
  simp [Kube.deletePVC, hcomplete.1, hcomplete.2.1, hcomplete.2.2, hget]

/-- The stops of deleting a claim that is there: before, while it terminates, after. -/
theorem runs_deletePVC_present {pvc : PVC} (hcomplete : ref.ClaimComplete)
    (hclaim : w.claims ref.key = some pvc) (hsame : pvc.uid = ref.uid)
    (hfinalizers : blockingPVCFinalizers pvc = []) (hfree : w.NoConsumers ref.ns ref.name) :
    Completes C (Kube.deletePVC ref) w
      (C w ∧ (pvc.finalizers ≠ [] → C (w.setClaim ref.key (some (pvc.terminating w.clock)))) ∧
        C (w.setClaim ref.key none))
      (w.setClaim ref.key none) := by
  intro Q
  have hpvc : w.claims (ref.ns, ref.name) = some pvc := hclaim
  have hbad : ¬ (ref.ns = "" ∨ ref.name = "" ∨ ref.uid = none) := by
    simp [hcomplete.1, hcomplete.2.1, hcomplete.2.2]
  rw [ObjectReference.key]
  by_cases hnone : pvc.finalizers = []
  · have hdelete : w.delete ref.ns ref.name ref.uid pvc.resourceVersion =
        (.ok (), w.setClaim (ref.ns, ref.name) none) := by
      simp [World.delete, hpvc, hsame, hnone]
    have hgone : (w.setClaim (ref.ns, ref.name) none).finishDeletion ref.ns ref.name =
        w.setClaim (ref.ns, ref.name) none := by
      simp [World.finishDeletion]
    simp [Kube.deletePVC, hbad, hpvc, hsame, validatePVCDeletionFinalizers, hfinalizers, hdelete,
      waitForDeletion, hgone, hnone, and_assoc]
  · have hdelete : w.delete ref.ns ref.name ref.uid pvc.resourceVersion =
        (.ok (), w.setClaim (ref.ns, ref.name) (some (pvc.terminating w.clock))) := by
      simp [World.delete, hpvc, hsame, hnone]
    have hgone : (w.setClaim (ref.ns, ref.name)
        (some (pvc.terminating w.clock))).finishDeletion ref.ns ref.name =
        w.setClaim (ref.ns, ref.name) none := by
      have hblocking : blockingPVCFinalizers (pvc.terminating w.clock) = [] := hfinalizers
      have hterminating : (w.setClaim (ref.ns, ref.name)
          (some (pvc.terminating w.clock))).claims (ref.ns, ref.name) =
          some (pvc.terminating w.clock) := w.claims_setClaim_self
      rw [finishDeletion_of_terminating hterminating rfl hblocking hfree,
        World.setClaim_setClaim]
    simp [Kube.deletePVC, hbad, hpvc, hsame, validatePVCDeletionFinalizers, hfinalizers, hdelete,
      waitForDeletion, hgone, hnone]
    tauto

variable {claim : String}

/-- The wait before a reservation, once the volume controller has left the volume as `pv`. -/
theorem runs_waitForPVReservation (hrelease : w.releaseVolume ref.name = w')
    (hpv : w'.volumes ref.name = some pv) (huid : pv.uid = ref.uid)
    (hphase : pv.phase = .released ∨ pv.phase = .available)
    (hclaim : w'.claims (ns, claim) = none) :
    Completes C (waitForPVReservation ref ns claim) w (C w ∧ C w') w' := by
  intro Q
  simp only [waitForPVReservation, runs_awaitRelease, hrelease, and_assoc]
  refine and_congr_right fun _ => wp_bind.trans ?_
  simp only [pvReadyForReservation, runs_getPV, hpv, runs_reject, huid, ne_eq,
    not_true_eq_false, if_false]
  cases hr : pv.claimRef with
  | none => simp [hphase]
  | some r =>
    by_cases hnames : namesClaim r ns claim
    · simp [hnames, hclaim]
    · simp [hnames, hphase]

theorem Holds.inPhase (h : Holds w ref sessionID pv) (phase : VolumePhase) :
    Holds (w.setVolume ref.name (some (pv.inPhase phase))) ref sessionID (pv.inPhase phase) :=
  ⟨World.volumes_setVolume_self w, h.name, h.uid, h.ours⟩

theorem Holds.not_foreign (h : Holds w ref sessionID pv) :
    ¬ (pv.labels.get sessionKey ≠ "" ∧ pv.labels.get sessionKey ≠ sessionID) := by
  rintro ⟨hne, hother⟩
  exact h.ours.elim hne hother

theorem runs_updatePVReservation_stale {r : ObjectReference} (hpv : Holds w ref sessionID pv)
    (href : pv.claimRef = some r) (hruid : r.uid ≠ none) (hclaim : w.claims (ns, claim) = none) :
    Completes C (updatePVReservation ref ns claim sessionID) w
      (C w ∧ C (w.setVolume ref.name (some (pv.reservedFor ns claim).stored)))
      (w.setVolume ref.name (some (pv.reservedFor ns claim).stored)) := by
  intro Q
  have hupdate : w.update (pv.reservedFor ns claim) =
      (.ok (), w.setVolume ref.name (some (pv.reservedFor ns claim).stored)) :=
    update_of_read hpv.volume hpv.name rfl rfl
  simp only [updatePVReservation, runs_getPV, hpv.volume, runs_reject, hpv.uid, ne_eq,
    not_true_eq_false, if_false, hpv.not_foreign, href]
  by_cases hnames : namesClaim r ns claim
  · simp [hnames, hclaim, hruid, updatePV, hupdate, and_assoc]
  · simp [hnames, updatePV, hupdate, and_assoc]

theorem runs_updatePVReservation_reserved (hpv : Holds w ref sessionID pv)
    (href : pv.claimRef = some ⟨ns, claim, none⟩) (hclaim : w.claims (ns, claim) = none) :
    Completes C (updatePVReservation ref ns claim sessionID) w (C w) w := by
  intro Q
  simp only [updatePVReservation, runs_getPV, hpv.volume, runs_reject, hpv.uid, ne_eq,
    not_true_eq_false, if_false, hpv.not_foreign, href]
  simp [namesClaim, hclaim]

/-- The volume `pv'` is `pv` on its way to being reserved for a claim. -/
structure PV.Reserving (pv pv' : PV) (ns claim : String) : Prop where
  name : pv'.name = pv.name
  uid : pv'.uid = pv.uid
  deletionTimestamp : pv'.deletionTimestamp = pv.deletionTimestamp
  capacity : pv'.capacity = pv.capacity
  labels : pv'.labels = pv.labels
  reclaimPolicy : pv'.reclaimPolicy = pv.reclaimPolicy
  claimRef : pv'.claimRef = pv.claimRef ∨ pv'.claimRef = some ⟨ns, claim, none⟩

theorem PV.Reserving.pinned {pv' : PV} (h : pv.Reserving pv' ns claim)
    (hpinned : pv.Pinned sessionID) : pv'.Pinned sessionID := by
  rw [PV.Pinned, h.reclaimPolicy, h.labels]
  exact hpinned

section Reserve

variable {ref : ObjectReference} {ns claim sessionID : String} {pv : PV}
  (hpv : Holds w ref sessionID pv) (hclaim : w.claims (ns, claim) = none)
  (hcomplete : ref.VolumeComplete) (hns : ns ≠ "") (hclaimName : claim ≠ "")
  (hsession : sessionID ≠ "")
include hpv hclaim hcomplete hns hclaimName hsession

/-- Reserving a volume whose claim is gone: it is released, then reserved. -/
theorem runs_reservePV_released {r : ObjectReference} (hretain : pv.reclaimPolicy = .retain)
    (href : pv.claimRef = some r) (hruid : r.uid ≠ none)
    (hgone : (w.claims (r.ns, r.name)).any (fun pvc => pvc.uid = r.uid) = false) :
    Completes C (reservePV ref ns claim sessionID) w
      (C w ∧ C (w.setVolume ref.name (some (pv.inPhase .released))) ∧
        C (w.setVolume ref.name (some ((pv.inPhase .released).reservedFor ns claim).stored)))
      (w.setVolume ref.name (some ((pv.inPhase .released).reservedFor ns claim).stored)) := by
  intro Q
  have hbad : ¬ (ref.name = "" ∨ ref.uid = none ∨ ns = "" ∨ claim = "" ∨ sessionID = "") := by
    simp [hcomplete.1, hcomplete.2, hns, hclaimName, hsession]
  have hrelease : w.releaseVolume ref.name =
      w.setVolume ref.name (some (pv.inPhase .released)) := by
    simp [World.releaseVolume, hpv.volume, href, hruid, hgone, hretain]
  have hattempt := runs_updatePVReservation_stale (C := C) (hpv.inPhase .released) href hruid
    hclaim
  simp only [World.setVolume_setVolume] at hattempt
  simp only [reservePV, runs_reject, hbad, if_false]
  refine wp_bind.trans ((runs_waitForPVReservation hrelease (World.volumes_setVolume_self w)
    hpv.uid (.inl rfl) hclaim _).trans ?_)
  simp only [andThen_ok, runs_wrapUnlessConflict (runs_retryOnConflict hattempt _)]
  tauto

theorem runs_reservePV_reserved (href : pv.claimRef = some ⟨ns, claim, none⟩) :
    Completes C (reservePV ref ns claim sessionID) w
      (C w ∧ C (w.setVolume ref.name (some (pv.inPhase .available))))
      (w.setVolume ref.name (some (pv.inPhase .available))) := by
  intro Q
  have hbad : ¬ (ref.name = "" ∨ ref.uid = none ∨ ns = "" ∨ claim = "" ∨ sessionID = "") := by
    simp [hcomplete.1, hcomplete.2, hns, hclaimName, hsession]
  have hrelease : w.releaseVolume ref.name =
      w.setVolume ref.name (some (pv.inPhase .available)) := by
    simp [World.releaseVolume, hpv.volume, href]
  have hattempt := runs_updatePVReservation_reserved (C := C) (hpv.inPhase .available) href
    hclaim
  simp only [reservePV, runs_reject, hbad, if_false]
  refine wp_bind.trans ((runs_waitForPVReservation hrelease (World.volumes_setVolume_self w)
    hpv.uid (.inr rfl) hclaim _).trans ?_)
  simp only [andThen_ok, runs_wrapUnlessConflict (runs_retryOnConflict hattempt _)]
  tauto

/-- Reserving a volume whose claim is gone, or that is already reserved: on the way its claim
reference is the old one or the reservation, and in the end it is the reservation. -/
theorem runs_reservePV (hretain : pv.reclaimPolicy = .retain)
    (href : pv.claimRef = some ⟨ns, claim, none⟩ ∨ ∃ r : ObjectReference,
      pv.claimRef = some r ∧ r.uid ≠ none ∧
        (w.claims r.key).any (fun pvc => pvc.uid = r.uid) = false)
    {Q : Except Failure Unit → World ρ → Prop}
    (hC : ∀ pv', pv.Reserving pv' ns claim → C (w.setVolume ref.name (some pv')))
    (hQ : ∀ pv', pv.Reserving pv' ns claim → pv'.claimRef = some ⟨ns, claim, none⟩ →
      Q (.ok ()) (w.setVolume ref.name (some pv'))) :
    Runs C Q (reservePV ref ns claim sessionID) w := by
  have hw : C w := by
    rw [← w.setVolume_eq_self hpv.volume]
    exact hC pv ⟨rfl, rfl, rfl, rfl, rfl, rfl, .inl rfl⟩
  have hphase (phase : VolumePhase) : pv.Reserving (pv.inPhase phase) ns claim :=
    ⟨rfl, rfl, rfl, rfl, rfl, rfl, .inl rfl⟩
  rcases href with hreserved | ⟨r, href, hruid, hgone⟩
  · exact (runs_reservePV_reserved hpv hclaim hcomplete hns hclaimName hsession hreserved Q).mpr
      ⟨⟨hw, hC _ (hphase _)⟩, hQ _ (hphase _) hreserved⟩
  · have hreserving : pv.Reserving ((pv.inPhase .released).reservedFor ns claim).stored ns claim :=
      ⟨rfl, rfl, rfl, rfl, rfl, rfl, .inr rfl⟩
    exact (runs_reservePV_released hpv hclaim hcomplete hns hclaimName hsession hretain href hruid
      hgone Q).mpr ⟨⟨hw, hC _ (hphase _), hC _ hreserving⟩, hQ _ hreserving rfl⟩

end Reserve

/-- The claim and the volume `ref` are bound to each other, and the volume has the capacity the
claim asks for. -/
structure Bound (w : World ρ) (pvc : PVC) (ref : ObjectReference) (pv : PV) : Prop where
  phase : pvc.phase = .bound
  volumeName : pvc.spec.volumeName = ref.name
  volume : w.volumes ref.name = some pv
  uid : pv.uid = ref.uid
  claimRef : pv.claimRef = some pvc.ref
  fits : validateBoundVolumeCapacity pvc pv = none

variable {pvc : PVC}

theorem readOnly_verifyBinding : ReadOnly (verifyBinding pvc ref : Switch ρ Unit) := by
  refine only_reject_bind <| only_reject_bind <|
    only_bind readOnly_getPV fun pv => ?_
  cases pv with
  | none => exact only_fail
  | some pv =>
    refine only_reject_bind <| only_reject_bind <| ?_
    cases validateBoundVolumeCapacity pvc pv with
    | none => exact only_pure
    | some message => exact only_fail

/-- `verifyBinding` accepts exactly a claim and a volume bound to each other. -/
theorem accepts_verifyBinding :
    Accepts (verifyBinding pvc ref) w ↔
      pvc.ref.ClaimComplete ∧ ref.VolumeComplete ∧ ∃ pv, Bound w pvc ref pv := by
  simp only [verifyBinding, accepts_reject_bind, accepts_getPV, not_or, ne_eq, not_not]
  cases hpv : w.volumes ref.name with
  | none =>
    simp only [not_accepts_fail, and_false, false_iff, not_and, not_exists]
    intro _ _ pv h
    exact Option.some_ne_none pv (h.volume.symm.trans hpv)
  | some pv =>
    simp only [accepts_reject_bind, not_not]
    constructor
    · rintro ⟨⟨hns, hname, huid, hrname, hruid⟩, ⟨hphase, hvolume⟩, hpvuid, href, hfits⟩
      refine ⟨⟨hns, hname, huid⟩, ⟨hrname, hruid⟩, pv, hphase, hvolume, hpv, hpvuid, href, ?_⟩
      cases hcap : validateBoundVolumeCapacity pvc pv with
      | none => rfl
      | some message => simp [hcap] at hfits
    · rintro ⟨⟨hns, hname, huid⟩, ⟨hrname, hruid⟩, pv', h⟩
      obtain rfl : pv = pv' := Option.some.inj (hpv.symm.trans h.volume)
      refine ⟨⟨hns, hname, huid, hrname, hruid⟩, ⟨h.phase, h.volumeName⟩, h.uid, h.claimRef, ?_⟩
      simp [h.fits]

theorem runs_validateBoundPVC (hclaim : w.claims (pvc.ns, pvc.name) = none) :
    Completes C (validateBoundPVC pvc) w (C w) w := by
  intro Q
  simp [validateBoundPVC, World.create, hclaim]

/-- The world with a new claim bound to its volume `pv`. -/
def World.addBound (w : World ρ) (pvc : PVC) (pv : PV) : World ρ :=
  ((w.addClaim pvc).setClaim (pvc.ns, pvc.name) (some (pvc.created w.nextUID).bind)).setVolume
    pvc.spec.volumeName (some (pv.bind (pvc.created w.nextUID)))

/-- Creating a claim for the volume reserved for it: the new claim is pending, then bound. -/
theorem runs_createBoundPVC (hclaim : w.claims (pvc.ns, pvc.name) = none)
    (howned : pvc.OwnedBy sessionID) (hpv : w.volumes pvc.spec.volumeName = some pv)
    (href : pv.claimRef = some ⟨pvc.ns, pvc.name, none⟩) (Q : Except Failure PVC → World ρ → Prop) :
    Runs C Q (createBoundPVC sessionID pvc) w ↔
      (C w ∧ C (w.addClaim pvc) ∧ C (w.addBound pvc pv)) ∧
        Q (.ok (pvc.created w.nextUID).bind) (w.addBound pvc pv) := by
  have hcreate : w.create pvc false = (.ok (pvc.created w.nextUID), w.addClaim pvc) := by
    simp [World.create, hclaim]
  have hbinds : (pvc.created w.nextUID).Binds pv := by
    simp [PVC.Binds, PVC.created, href]
  have hbind : (w.addClaim pvc).bindClaim pvc.ns pvc.name = w.addBound pvc pv := by
    simp only [World.bindClaim, World.claims_addClaim_self, World.volumes_addClaim]
    rw [PVC.spec_created, hpv]
    simp only [hbinds, if_true, World.addBound]
  have hget : (w.addBound pvc pv).claims (pvc.ns, pvc.name) =
      some (pvc.created w.nextUID).bind := by
    simp [World.addBound]
  have howned' : (pvc.created w.nextUID).OwnedBy sessionID := howned
  have howned'' : (pvc.created w.nextUID).bind.OwnedBy sessionID := howned
  refine wp_bind.trans ?_
  simp only [createOrGetPVC, runs_createPVC, hcreate, wp_pure, andThen_ok, runs_reject]
  rw [if_neg (by simp), if_neg (by simp [howned'])]
  simp only [waitForBinding, runs_awaitBinding]
  rw [PVC.ns_created, PVC.name_created, hbind]
  simp only [runs_getPVC, hget, runs_reject]
  rw [if_neg (by simp), if_neg (by simp [howned'']), if_neg (by simp), if_neg (by simp)]
  simp only [wp_pure]
  tauto

end Specs

end PvcMigrate.Kube
