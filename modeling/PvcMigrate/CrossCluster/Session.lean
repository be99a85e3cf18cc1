import PvcMigrate.App.MigrationObject

/-!
# Sessions of cross-cluster operations

A copy or a reservation between two clusters is a session: a record in a ConfigMap of the source
cluster (`crosscluster/types.go`).  Its spec has, for each volume, the identities of the source, and
of the destination as far as they are known; its status says how far the operation has come.  Every
write of the record is preceded by `Validate`.

The copy session and the reservation session have the same fields, up to those that only a transfer
reads; they are one type here, with the kind as a field.  The spec and the status of a volume are
one structure, so that the two lists of the source cannot be misaligned.
-/

namespace PvcMigrate

namespace CrossCluster

open Check

/-! ## Types -/

structure ClusterResourceRef where
  clusterID : String := ""
  ns : String := ""
  name : String := ""
  uid : UID := none
  deriving DecidableEq, Repr

/-- `corev1.PersistentVolumeAccessMode`. -/
inductive AccessMode
  | readWriteOnce
  | readOnlyMany
  | readWriteMany
  | readWriteOncePod
  | other (text : String)
  deriving DecidableEq, Repr

/-- The two kinds of sessions. -/
inductive Kind
  | copy
  | reservation
  deriving DecidableEq, Repr

inductive Phase
  | planned
  | reserving
  | reserved
  | transferring
  | completed
  | failed
  | cleaning
  | cleaned
  deriving DecidableEq, Repr

structure SourceVolumeSpec where
  pvc : ClusterResourceRef
  pv : ClusterResourceRef
  capacity : String
  deriving DecidableEq, Repr

structure DestinationVolumeSpec where
  pvc : ClusterResourceRef
  pv : ClusterResourceRef := {}
  capacity : String
  storageClass : ClusterResourceRef
  accessModes : List AccessMode
  volumeMode : String
  deriving DecidableEq, Repr

structure ReservationStatus where
  pvc : ClusterResourceRef := {}
  pv : ClusterResourceRef := {}
  consumerPod : ClusterResourceRef := {}
  completedAt : Option Time := none
  deriving DecidableEq, Repr

structure TransferStatus where
  attempts : Int := 0
  completedAt : Option Time := none
  lastError : String := ""
  deriving DecidableEq, Repr

/-- `VolumeSpec` and the status of the volume. -/
structure Volume where
  source : SourceVolumeSpec
  destination : DestinationVolumeSpec
  sourcePath : String
  destinationPath : String
  sourcePVCName : String
  reservation : ReservationStatus := {}
  transfer : TransferStatus := {}
  deriving DecidableEq, Repr

/-- `CopySession` and `ReservationSession`. -/
structure Session where
  apiVersion : String
  kind : Kind
  id : String
  unusedStoragePolicy : UnusedStoragePolicy := .unset
  sessionNamespace : String
  /-- the identities of the two clusters -/
  sourceCluster : String
  destinationCluster : String
  sourceNamespace : String
  destinationNamespace : String
  toolImage : String
  strategies : List String
  allowVolumeShrink : Bool := false
  skipSourceUsageCheck : Bool := false
  targetNode : String := ""
  volumes : List Volume
  phase : Phase := .planned
  completedAt : Option Time := none
  message : String := ""
  deriving DecidableEq, Repr

variable (v : Volume)

/-- The namespace and the name of the destination claim. -/
def Volume.claimKey : String × String := (v.destination.pvc.ns, v.destination.pvc.name)

/-- The namespace and the name of the recorded consumer Pod. -/
def Volume.podKey : String × String :=
  (v.reservation.consumerPod.ns, v.reservation.consumerPod.name)

def Session.setVolume (s : Session) (i : Nat) (v : Volume) : Session :=
  { s with volumes := s.volumes.set i v }

/-! ## Validation -/

/-- The parsers the validation uses. -/
structure Rules where
  /-- `ValidateSessionID` accepts -/
  validSessionID : String → Bool
  /-- `NormalizeToolImage` accepts -/
  validToolImage : String → Bool
  parseQuantity : String → Option Int
  normalizeTransferPath : String → Option String

/-- `APIVersion`. -/
def sessionAPIVersion : String := "migrate.sealos.io/v1alpha1"

/-- `domain.AutoValue`. -/
def autoValue : String := "auto"

def validateStrategies (strategies : List String) : Except String Unit :=
  strategies.forM fun strategy =>
    refuse (strategy ≠ "local" ∧ strategy ≠ "loadbalancer" ∧ strategy ≠ "nodeport")
      "strategy is not supported for cross-cluster copy; use local, loadbalancer, or nodeport"

def validateCrossClusterContext (rules : Rules) (s : Session) : Except String Unit := do
  refuse (rules.validSessionID s.id = false ∨ s.sessionNamespace = "" ∨ s.sourceNamespace = "" ∨
      s.destinationNamespace = "" ∨ s.volumes.length = 0 ∨ s.sourceCluster = "" ∨
      s.destinationCluster = "" ∨ s.sourceCluster = s.destinationCluster)
    "cross-cluster session has incomplete spec"
  refuse (rules.validToolImage s.toolImage = false) "tool image is invalid"
  refuse (s.strategies.length = 0) "cross-cluster session requires a transfer strategy"
  validateStrategies s.strategies

def crossClusterVolumeIdentityIncomplete (s : Session) (v : Volume) : Prop :=
  v.source.pvc.clusterID ≠ s.sourceCluster ∨ v.source.pv.clusterID ≠ s.sourceCluster ∨
  v.destination.pvc.clusterID ≠ s.destinationCluster ∨
  v.destination.storageClass.clusterID ≠ s.destinationCluster ∨
  v.source.pvc.name = "" ∨ v.source.pvc.ns ≠ s.sourceNamespace ∨ v.source.pvc.uid = none ∨
  v.source.pv.name = "" ∨ v.source.pv.uid = none ∨ v.destination.pvc.name = "" ∨
  v.destination.pvc.ns ≠ s.destinationNamespace ∨ v.destination.storageClass.name = "" ∨
  v.destination.storageClass.uid = none ∨ v.destination.storageClass.ns ≠ ""

instance (s : Session) (v : Volume) : Decidable (crossClusterVolumeIdentityIncomplete s v) :=
  inferInstanceAs (Decidable (_ ∨ _))

def validateCrossClusterCapacity (rules : Rules) (s : Session) (v : Volume) : Except String Unit :=
  match rules.parseQuantity v.source.capacity with
  | none => .error "cross-cluster volume source capacity is invalid"
  | some sourceCapacity => do
    refuse (sourceCapacity ≤ 0) "cross-cluster volume source capacity is invalid"
    match rules.parseQuantity v.destination.capacity with
    | none => .error "cross-cluster volume destination capacity is invalid"
    | some destinationCapacity => do
      refuse (destinationCapacity ≤ 0) "cross-cluster volume destination capacity is invalid"
      refuse (destinationCapacity < sourceCapacity ∧
          (s.allowVolumeShrink = false ∨ s.skipSourceUsageCheck = false))
        "cross-cluster volume shrink approval is incomplete"

def AccessMode.known : AccessMode → Bool
  | .other _ => false
  | _ => true

/-- The access modes of `HasWritableAccessMode`. -/
def AccessMode.writable : AccessMode → Bool
  | .readWriteOnce | .readWriteOncePod | .readWriteMany => true
  | _ => false

def validateCrossClusterStorage : Except String Unit := do
  v.destination.accessModes.forM fun mode =>
    refuse (mode.known = false) "cross-cluster volume has unsupported access mode"
  refuse (v.destination.accessModes.length = 0 ∨ v.destination.volumeMode ≠ "Filesystem")
    "cross-cluster volume must use filesystem storage and at least one access mode"
  refuse (v.destination.accessModes.any AccessMode.writable = false)
    "cross-cluster volume has no writable access mode for the destination copy"

def validateCrossClusterPaths (rules : Rules) (v : Volume) : Except String Unit := do
  refuse (rules.normalizeTransferPath v.sourcePath ≠ some v.sourcePath)
    "cross-cluster volume source path is invalid"
  refuse (rules.normalizeTransferPath v.destinationPath ≠ some v.destinationPath)
    "cross-cluster volume destination path is invalid"

/-- The identity of the destination volume is complete or empty. -/
def Volume.Identified (cluster : String) (v : Volume) : Prop :=
  (v.destination.pv.name = "" ↔ v.destination.pv.uid = none) ∧
    (v.destination.pv.name ≠ "" → v.destination.pv.clusterID = cluster)

instance (cluster : String) (v : Volume) : Decidable (v.Identified cluster) :=
  inferInstanceAs (Decidable (_ ∧ _))

def validateCrossClusterVolume (rules : Rules) (s : Session) (v : Volume) : Except String Unit := do
  refuse (crossClusterVolumeIdentityIncomplete s v) "cross-cluster volume has incomplete identities"
  validateCrossClusterCapacity rules s v
  validateCrossClusterStorage v
  validateCrossClusterPaths rules v
  refuse (¬ v.Identified s.destinationCluster)
    "cross-cluster volume destination PV identity is incomplete"

/-- `validateCrossClusterVolumeList`, with the source claims and the destination claims of the
volumes before. -/
def validateCrossClusterVolumeList (rules : Rules) (s : Session) :
    List String → List (String × String) → List Volume → Except String Unit
  | _, _, [] => pure ()
  | seenSources, seenDestinations, v :: rest => do
    validateCrossClusterVolume rules s v
    refuse (v.sourcePVCName ≠ v.source.pvc.name) "cross-cluster volume status mismatch"
    refuse (v.source.pvc.name ∈ seenSources) "cross-cluster source PVC is referenced more than once"
    refuse (v.claimKey ∈ seenDestinations)
      "cross-cluster destination PVC is referenced more than once"
    validateCrossClusterVolumeList rules s (seenSources ++ [v.source.pvc.name])
      (seenDestinations ++ [v.claimKey]) rest

/-- The checkpoint of the volume is that of a finished reservation. -/
def Volume.Checkpointed : Prop :=
  v.destination.pv.name ≠ "" ∧ v.destination.pv.uid ≠ none ∧
  v.reservation.pvc.name = v.destination.pvc.name ∧ v.reservation.pvc.ns = v.destination.pvc.ns ∧
  v.reservation.pvc.clusterID = v.destination.pvc.clusterID ∧ v.reservation.pvc.uid ≠ none ∧
  v.reservation.pvc.uid = v.destination.pvc.uid ∧ v.reservation.pv.name = v.destination.pv.name ∧
  v.reservation.pv.clusterID = v.destination.pv.clusterID ∧ v.reservation.pv.uid ≠ none ∧
  v.reservation.pv.uid = v.destination.pv.uid

instance : Decidable v.Checkpointed := inferInstanceAs (Decidable (_ ∧ _))

def validateReservationCheckpoints (s : Session) : Except String Unit :=
  s.volumes.forM fun v =>
    refuse (¬ v.Checkpointed)
      "cross-cluster reservation volume has incomplete destination checkpoint"

/-- `CopySession.Validate` and `ReservationSession.Validate`; only a reservation that says it is
finished is asked for its checkpoints. -/
def Session.validate (rules : Rules) (s : Session) : Except String Unit := do
  refuse (s.apiVersion ≠ sessionAPIVersion ∨ rules.validSessionID s.id = false)
    "invalid cross-cluster session identity"
  validateCrossClusterContext rules s
  (validateUnusedStoragePolicy s.unusedStoragePolicy).mapError Error.message
  onlyIf (s.kind = .reservation ∧ s.phase = .reserved) (validateReservationCheckpoints s)
  validateCrossClusterVolumeList rules s [] [] s.volumes

def Session.Valid (rules : Rules) (s : Session) : Prop := s.validate rules = .ok ()

instance (rules : Rules) (s : Session) : Decidable (s.Valid rules) :=
  match h : s.validate rules with
  | .ok _ => isTrue h
  | .error e => isFalse fun hok => by
      rw [Session.Valid, h] at hok
      cases hok

/-! ## What an operation leaves alone -/

/-- A volume without the identities and the progress an operation records. -/
def Volume.fixed : Volume :=
  { v with
    destination := { v.destination with pvc := { v.destination.pvc with uid := none }, pv := {} }
    reservation := {}
    transfer := {} }

/-- A record without what an operation changes. -/
def Session.fixed (s : Session) : Session :=
  { s with
    kind := .copy
    volumes := s.volumes.map Volume.fixed
    phase := .planned
    completedAt := none
    message := "" }

@[simp] theorem Volume.claimKey_fixed : v.fixed.claimKey = v.claimKey := rfl

variable {rules : Rules} {s : Session}

theorem validateCrossClusterVolume_eq_ok {v : Volume} :
    validateCrossClusterVolume rules s v = .ok () ↔
      validateCrossClusterVolume rules s.fixed v.fixed = .ok () ∧
        v.Identified s.destinationCluster := by
  have hidentified : v.fixed.Identified s.fixed.destinationCluster := by
    constructor
    · exact ⟨fun _ => rfl, fun _ => rfl⟩
    · intro hname
      exact absurd rfl hname
  simp only [validateCrossClusterVolume, andThen_eq_ok, refuse_eq_ok, not_not, hidentified,
    and_true]
  constructor
  · rintro ⟨hcomplete, hcapacity, hstorage, hpaths, hv⟩
    exact ⟨⟨hcomplete, hcapacity, hstorage, hpaths⟩, hv⟩
  · rintro ⟨⟨hcomplete, hcapacity, hstorage, hpaths⟩, hv⟩
    exact ⟨hcomplete, hcapacity, hstorage, hpaths, hv⟩

theorem validateCrossClusterVolumeList_eq_ok {vs : List Volume} {sources : List String}
    {destinations : List (String × String)} :
    validateCrossClusterVolumeList rules s sources destinations vs = .ok () ↔
      validateCrossClusterVolumeList rules s.fixed sources destinations (vs.map Volume.fixed) =
          .ok () ∧ ∀ v ∈ vs, v.Identified s.destinationCluster := by
  induction vs generalizing sources destinations with
  | nil => simp [validateCrossClusterVolumeList]
  | cons v rest ih =>
    have hname : v.fixed.sourcePVCName = v.sourcePVCName := rfl
    have hsource : v.fixed.source = v.source := rfl
    simp only [validateCrossClusterVolumeList, List.map_cons, andThen_eq_ok, refuse_eq_ok,
      validateCrossClusterVolume_eq_ok (s := s) (v := v), ih, List.forall_mem_cons]
    simp only [hname, hsource, Volume.claimKey_fixed]
    tauto

/-- **What the check asks of the part an operation changes.** -/
theorem Session.valid_iff :
    s.Valid rules ↔ s.fixed.Valid rules ∧ (∀ v ∈ s.volumes, v.Identified s.destinationCluster) ∧
      (s.kind = .reservation → s.phase = .reserved → ∀ v ∈ s.volumes, v.Checkpointed) := by
  have hcontext : validateCrossClusterContext rules s.fixed = .ok () ↔
      validateCrossClusterContext rules s = .ok () := by
    simp only [validateCrossClusterContext, andThen_eq_ok, refuse_eq_ok]
    simp only [fixed, List.length_map]
  have hcheckpoints : validateReservationCheckpoints s = .ok () ↔
      ∀ v ∈ s.volumes, v.Checkpointed := by
    simp only [validateReservationCheckpoints, forM_eq_ok, refuse_eq_ok, not_not]
  have hkind : ¬ (s.fixed.kind = .reservation ∧ s.fixed.phase = .reserved) := by
    intro h
    cases h.1
  have hlist : validateCrossClusterVolumeList rules s [] [] s.volumes = .ok () ↔
      validateCrossClusterVolumeList rules s.fixed [] [] (s.volumes.map Volume.fixed) = .ok () ∧
        ∀ v ∈ s.volumes, v.Identified s.destinationCluster := validateCrossClusterVolumeList_eq_ok
  simp only [Valid, validate, andThen_eq_ok, refuse_eq_ok, onlyIf_eq_ok, hcheckpoints, hcontext,
    hlist, hkind, false_imp_iff, true_and, and_imp]
  constructor
  · rintro ⟨hidentity, hctx, hpolicy, hdone, hvolumes, hidentified⟩
    exact ⟨⟨hidentity, hctx, hpolicy, hvolumes⟩, hidentified, hdone⟩
  · rintro ⟨⟨hidentity, hctx, hpolicy, hvolumes⟩, hidentified, hdone⟩
    exact ⟨hidentity, hctx, hpolicy, hdone, hvolumes, hidentified⟩

theorem nodup_of_validateCrossClusterVolumeList {vs : List Volume} {sources : List String}
    {destinations : List (String × String)}
    (h : validateCrossClusterVolumeList rules s sources destinations vs = .ok ()) :
    (∀ v ∈ vs, v.claimKey ∉ destinations) ∧ (vs.map Volume.claimKey).Nodup := by
  induction vs generalizing sources destinations with
  | nil => simp
  | cons v rest ih =>
    simp only [validateCrossClusterVolumeList, andThen_eq_ok, refuse_eq_ok] at h
    obtain ⟨-, -, -, hfresh, hrest⟩ := h
    obtain ⟨hseen, hnodup⟩ := ih hrest
    simp only [List.mem_append, List.mem_singleton, not_or] at hseen
    constructor
    · intro u hu
      rcases List.mem_cons.mp hu with rfl | hu
      · exact hfresh
      · exact (hseen u hu).1
    · rw [List.map_cons, List.nodup_cons]
      refine ⟨fun hmem => ?_, hnodup⟩
      obtain ⟨u, hu, hkey⟩ := List.mem_map.mp hmem
      exact (hseen u hu).2 hkey

namespace Session

variable {rules : Rules} {s b : Session} {u v : Volume} {i : Nat}

theorem Valid.nodup (h : s.Valid rules) : (s.volumes.map Volume.claimKey).Nodup := by
  simp only [Valid, validate, andThen_eq_ok] at h
  exact (nodup_of_validateCrossClusterVolumeList h.2.2.2.2).2

theorem Valid.policy (h : s.Valid rules) :
    validateUnusedStoragePolicy s.unusedStoragePolicy = .ok () := by
  simp only [Valid, validate, andThen_eq_ok] at h
  have hpolicy := h.2.2.1
  generalize validateUnusedStoragePolicy s.unusedStoragePolicy = result at hpolicy ⊢
  cases result with
  | ok _ => rfl
  | error e => cases hpolicy

theorem fixed_setVolume (hget : s.volumes[i]? = some u) (hfixed : v.fixed = u.fixed) :
    (s.setVolume i v).fixed = s.fixed := by
  have hvolumes : (s.volumes.set i v).map Volume.fixed = s.volumes.map Volume.fixed := by
    obtain ⟨hlt, rfl⟩ := List.getElem?_eq_some_iff.mp hget
    rw [List.map_set, hfixed, ← List.getElem_map Volume.fixed (h := by simpa using hlt),
      List.set_getElem_self]
  simp only [fixed, setVolume, hvolumes]

theorem mem_setVolume (h : u ∈ (s.setVolume i v).volumes) : u = v ∨ u ∈ s.volumes := by
  rcases List.mem_or_eq_of_mem_set h with h | h
  · exact .inr h
  · exact .inl h

theorem getElem?_setVolume (hget : s.volumes[i]? = some u) :
    (s.setVolume i v).volumes[i]? = some v := by
  obtain ⟨hlt, -⟩ := List.getElem?_eq_some_iff.mp hget
  exact List.getElem?_set_self hlt

theorem setVolume_setVolume : (s.setVolume i u).setVolume i v = s.setVolume i v := by
  simp [setVolume]

theorem setVolume_of_getElem? (hget : s.volumes[i]? = some u) : s.setVolume i u = s := by
  obtain ⟨hlt, rfl⟩ := List.getElem?_eq_some_iff.mp hget
  simp [setVolume]

end Session

end CrossCluster

end PvcMigrate
