import Mathlib.Algebra.Order.BigOperators.Group.List
import Mathlib.Data.List.Sort
import PvcMigrate.Kube.Offline
import PvcMigrate.Lib.Check

/-!
# The admission preflight of claims

Before a batch of claims is replaced, `CheckPVCAdmissionPolicies` (`kube/pvc_policy.go`) asks
whether the namespace's ResourceQuotas and LimitRanges admit the new ones.  It projects the whole
batch on the usage of each bounded resource.  The replacements themselves are made one at a time: a
claim is deleted, then its successor is created, then the next claim's turn comes.

Quantities are integers.  What a quota charges for a claim is `charge`: the claim's storage, or one,
if the claim is in the quota's scopes and in the storage class the resource names.
-/

namespace PvcMigrate

namespace PVCPolicy

open Kube

/-! ## Objects -/

/-- `corev1.ResourceQuotaScope`. -/
inductive ResourceQuotaScope
  | volumeAttributesClass
  | other (name : String)
  deriving DecidableEq, Repr

/-- `corev1.ScopeSelectorOperator`. -/
inductive ScopeSelectorOperator
  | opExists
  | opDoesNotExist
  | opIn
  | opNotIn
  | other (name : String)
  deriving DecidableEq, Repr

/-- `corev1.ScopedResourceSelectorRequirement`. -/
structure ScopedResourceSelectorRequirement where
  scopeName : ResourceQuotaScope
  operator : ScopeSelectorOperator
  values : List String := []
  deriving DecidableEq, Repr

/-- `corev1.ResourceQuota`: its scopes, and the bounds and the usage of its status. -/
structure ResourceQuota where
  name : String
  scopes : List ResourceQuotaScope := []
  scopeSelector : Option (List ScopedResourceSelectorRequirement) := none
  hard : List (String × Int)
  used : String → Option Int

/-- An item of `corev1.LimitRange`: whether it is about claims, and its bounds on their storage. -/
structure LimitRangeItem where
  persistentVolumeClaim : Bool
  min : Option Int := none
  max : Option Int := none
  deriving DecidableEq, Repr

/-- `corev1.LimitRange`. -/
structure LimitRange where
  name : String
  limits : List LimitRangeItem
  deriving DecidableEq, Repr

/-- The parts of a stored claim that decide what quotas charge for it.  A missing quantity is zero;
the API server admits no negative one. -/
structure LiveClaim where
  uid : UID
  request : Nat
  allocated : Nat := 0
  storageClass : String
  /-- the VolumeAttributesClass of the spec, the current one and the target of a modification -/
  volumeAttributesClassNames : List String := []
  deriving DecidableEq, Repr

structure PVCAdmissionChange where
  ns : String
  name : String
  requestedStorage : Int
  requestedStorageClass : String
  existing : Bool
  existingUID : UID
  existingStorage : Int
  existingStorageClass : String
  requestedVolumeAttributesClassNames : List String := []
  existingVolumeAttributesClassNames : List String := []
  deriving DecidableEq, Repr

variable (change : PVCAdmissionChange)

def PVCAdmissionChange.key : String × String :=
  (change.ns, change.name)

structure PVCAdmissionReport where
  quotaViolations : List String := []
  limitRangeViolations : List String := []
  deriving DecidableEq, Repr

/-- Why a list request failed. -/
inductive ListFailure
  | notFound
  | other (text : String)
  deriving DecidableEq, Repr

/-- The stored claims, as the API server answers a request for one of them. -/
abbrev Claims := String × String → Except String LiveClaim

/-- What the preflight reads. -/
structure Cluster where
  resourceQuotas : Except ListFailure (List ResourceQuota)
  limitRanges : Except ListFailure (List LimitRange)
  claims : Claims

/-! ## Names of resources -/

/-- `corev1.ResourceRequestsStorage`. -/
def requestsStorage : String := "requests.storage"

/-- `corev1.ResourcePersistentVolumeClaims`. -/
def persistentVolumeClaims : String := "persistentvolumeclaims"

def countPersistentVolumeClaimsResource : String := "count/persistentvolumeclaims"

def storageClassQuotaResourceInfix : String := ".storageclass.storage.k8s.io/"

/-- `strings.Cut`, on characters. -/
def cut (sep : List Char) : List Char → Option (List Char × List Char)
  | [] => if sep = [] then some ([], []) else none
  | c :: cs =>
    if sep.isPrefixOf (c :: cs) then some ([], (c :: cs).drop sep.length)
    else (cut sep cs).map fun parts => (c :: parts.1, parts.2)

def splitStorageClassQuotaResourceName (name : String) : Option (String × String) :=
  (cut storageClassQuotaResourceInfix.toList name.toList).map fun parts =>
    (String.ofList parts.1, String.ofList parts.2)

variable (resourceName : String)

def isPVCQuotaResource : Bool :=
  if resourceName ∈ [requestsStorage, persistentVolumeClaims,
      countPersistentVolumeClaimsResource] then true
  else
    match splitStorageClassQuotaResourceName resourceName with
    | some (_, suffix) => suffix = requestsStorage || suffix = persistentVolumeClaims
    | none => false

/-! ## Scopes -/

/-- `uniqueNonEmptyStrings`: the first occurrence of every name that is not empty. -/
def uniqueNonEmptyStrings (values : List String) : List String :=
  values.foldl (fun result value =>
    if value = "" ∨ value ∈ result then result else result ++ [value]) []

def pvcMatchesScope (selector : ScopedResourceSelectorRequirement) (classNames : List String) :
    Bool :=
  if selector.scopeName ≠ .volumeAttributesClass then false
  else
    match selector.operator with
    | .opExists => classNames.length > 0
    | .opDoesNotExist => classNames.length = 0
    | .opIn => classNames.any fun name => name ∈ selector.values
    | .opNotIn => classNames.length = 0 || classNames.any fun name => name ∉ selector.values
    | .other _ => false

variable (quota : ResourceQuota)

def pvcMatchesQuotaScopes (classNames : List String) : Bool :=
  (quota.scopes.all fun scope => pvcMatchesScope ⟨scope, .opExists, []⟩ classNames) &&
    (quota.scopeSelector.getD []).all fun selector => pvcMatchesScope selector classNames

def requestedPVCMatchesQuota : Bool :=
  pvcMatchesQuotaScopes quota change.requestedVolumeAttributesClassNames

def existingPVCMatchesQuota : Bool :=
  change.existing && pvcMatchesQuotaScopes quota change.existingVolumeAttributesClassNames

def quotaCanMatchRequestedPVC (changes : List PVCAdmissionChange) : Bool :=
  changes.any fun change => pvcMatchesQuotaScopes quota change.requestedVolumeAttributesClassNames

def hasVolumeAttributesClassQuota (quotas : List ResourceQuota) : Bool :=
  quotas.any fun quota =>
    ResourceQuotaScope.volumeAttributesClass ∈ quota.scopes ||
      (quota.scopeSelector.getD []).any fun selector =>
        selector.scopeName = .volumeAttributesClass

def hasPVCStorageQuota (quotas : List ResourceQuota) : Bool :=
  quotas.any fun quota => quota.hard.any fun bound =>
    bound.1 = requestsStorage ||
      (splitStorageClassQuotaResourceName bound.1).any fun split => split.2 = requestsStorage

/-! ## The replaced claims -/

def effectivePVCQuotaStorage (claim : LiveClaim) : Int :=
  if claim.allocated > claim.request then claim.allocated else claim.request

def referencedVolumeAttributesClassNames (claim : LiveClaim) : List String :=
  uniqueNonEmptyStrings claim.volumeAttributesClassNames

/-- One round of `resolveExistingPVCAdmissionState`, which looks the replaced claim up. -/
def resolveChange (claims : Claims) (resolveVolumeAttributesClasses resolveStorage : Bool)
    (change : PVCAdmissionChange) : Except String PVCAdmissionChange :=
  let cleaned : PVCAdmissionChange :=
    { change with
      requestedVolumeAttributesClassNames :=
        uniqueNonEmptyStrings change.requestedVolumeAttributesClassNames
      existingVolumeAttributesClassNames :=
        uniqueNonEmptyStrings change.existingVolumeAttributesClassNames }
  if change.existing = false ∨
      (change.existingUID = none ∧ resolveVolumeAttributesClasses = false) then
    .ok cleaned
  else
    match claims change.key with
    | .error err =>
      .error s!"read existing PVC {change.ns}/{change.name} for quota projection: {err}"
    | .ok claim =>
      if change.existingUID ≠ none ∧ claim.uid ≠ change.existingUID then
        .error s!"existing PVC {change.ns}/{change.name} UID changed while checking quota"
      else
        .ok { cleaned with
          existingStorage :=
            if resolveStorage ∧ change.existingStorage < effectivePVCQuotaStorage claim then
              effectivePVCQuotaStorage claim
            else change.existingStorage
          existingVolumeAttributesClassNames :=
            if resolveVolumeAttributesClasses then referencedVolumeAttributesClassNames claim
            else cleaned.existingVolumeAttributesClassNames }

def resolveExistingPVCAdmissionState (claims : Claims) (quotas : List ResourceQuota)
    (changes : List PVCAdmissionChange) : Except String (List PVCAdmissionChange) :=
  let resolveVolumeAttributesClasses := hasVolumeAttributesClassQuota quotas
  let resolveStorage := hasPVCStorageQuota quotas
  if resolveVolumeAttributesClasses = false ∧ resolveStorage = false then .ok changes
  else changes.mapM (resolveChange claims resolveVolumeAttributesClasses resolveStorage)

/-! ## The projection -/

def clampNonNegative (value : Int) : Int := if value < 0 then 0 else value

/-- `storageClass == "" || ... == storageClass`. -/
def inClass (storageClass claimClass : String) : Bool :=
  storageClass = "" || claimClass = storageClass

def projectedPVCStorage (used : Int) (quota : ResourceQuota) (changes : List PVCAdmissionChange)
    (storageClass : String) : Int :=
  clampNonNegative <| changes.foldl (fun projected change =>
    let projected :=
      if existingPVCMatchesQuota change quota && inClass storageClass change.existingStorageClass
      then projected - change.existingStorage else projected
    if requestedPVCMatchesQuota change quota && inClass storageClass change.requestedStorageClass
    then projected + change.requestedStorage else projected) used

def projectedPVCCount (used : Int) (quota : ResourceQuota) (changes : List PVCAdmissionChange)
    (storageClass : String) : Int :=
  clampNonNegative <| changes.foldl (fun projected change =>
    let requestedMatches :=
      requestedPVCMatchesQuota change quota && inClass storageClass change.requestedStorageClass
    let existingMatches :=
      existingPVCMatchesQuota change quota && inClass storageClass change.existingStorageClass
    if requestedMatches && !existingMatches then projected + 1
    else if !requestedMatches && existingMatches then projected - 1
    else projected) used

def projectedQuotaResource (used : Int) (quota : ResourceQuota)
    (changes : List PVCAdmissionChange) : Option Int :=
  if resourceName = requestsStorage then some (projectedPVCStorage used quota changes "")
  else if resourceName ∈ [persistentVolumeClaims, countPersistentVolumeClaimsResource] then
    some (projectedPVCCount used quota changes "")
  else
    match splitStorageClassQuotaResourceName resourceName with
    | none => none
    | some (storageClass, suffix) =>
      if suffix = requestsStorage then some (projectedPVCStorage used quota changes storageClass)
      else if suffix = persistentVolumeClaims then
        some (projectedPVCCount used quota changes storageClass)
      else none

/-! ## The preflight -/

/-- `strings.TrimSpace`. -/
def trimSpace (s : String) : String :=
  String.ofList (Text.trimSpace s.toList)

/-- The checks `CheckPVCAdmissionPolicies` makes of one change before it reads anything. -/
def validateChange (ns : String) (change : PVCAdmissionChange) : Except String Unit := do
  Check.refuse (trimSpace change.ns ≠ ns ∨ trimSpace change.name = "")
    "PVC admission changes must identify one namespace and a name for every claim"
  Check.refuse (change.requestedStorage ≤ 0)
    s!"PVC {ns}/{change.name} requested storage must be positive"

/-- The items of a list request; a resource the server does not know has none. -/
def listed {α : Type} : Except ListFailure (List α) → Except String (List α)
  | .ok items => .ok items
  | .error .notFound => .ok []
  | .error (.other text) => .error text

/-- What one bound of a quota says about the projected batch. -/
def boundViolation (ns : String) (quota : ResourceQuota) (changes : List PVCAdmissionChange)
    (bound : String × Int) : Option String :=
  if isPVCQuotaResource bound.1 = false then none
  else
    match quota.used bound.1 with
    | none => some s!"{ns}/{quota.name} {bound.1}: quota status has no current usage"
    | some used =>
      match projectedQuotaResource bound.1 used quota changes with
      | none => none
      | some projected =>
        if projected > bound.2 then
          some s!"{ns}/{quota.name} {bound.1}: projected {projected} exceeds hard {bound.2}"
        else none

def quotaViolations (ns : String) (changes : List PVCAdmissionChange) (quota : ResourceQuota) :
    List String :=
  if quotaCanMatchRequestedPVC quota changes = false then []
  else quota.hard.filterMap (boundViolation ns quota changes)

def limitViolations (ns limitRange : String) (item : LimitRangeItem)
    (change : PVCAdmissionChange) : List String :=
  let requires := s!"{ns}/{change.name} requires {change.requestedStorage}"
  (match item.min with
    | some minimum =>
      if change.requestedStorage < minimum then
        [s!"{requires} below {limitRange} minimum {minimum}"] else []
    | none => []) ++
  (match item.max with
    | some maximum =>
      if change.requestedStorage > maximum then
        [s!"{requires} above {limitRange} maximum {maximum}"] else []
    | none => [])

/-- `sort.Strings`. -/
def sortStrings (texts : List String) : List String := texts.insertionSort (· ≤ ·)

def checkPVCAdmissionPolicies (cluster : Cluster) (changes : List PVCAdmissionChange) :
    Except String PVCAdmissionReport :=
  match changes with
  | [] => .ok {}
  | first :: _ => do
    let ns := trimSpace first.ns
    Check.refuse (ns = "") "PVC namespace is required"
    changes.forM (validateChange ns)
    let quotas ← listed cluster.resourceQuotas
    let limitRanges ← listed cluster.limitRanges
    let resolved ← resolveExistingPVCAdmissionState cluster.claims quotas changes
    return {
      quotaViolations := sortStrings (quotas.flatMap (quotaViolations ns resolved))
      limitRangeViolations := sortStrings (limitRanges.flatMap fun limitRange =>
        (limitRange.limits.filter (·.persistentVolumeClaim)).flatMap fun item =>
          resolved.flatMap (limitViolations ns limitRange.name item)) }

/-! ## What a quota charges -/

/-- What a bounded resource measures. -/
inductive Measure
  | storage
  | count
  deriving DecidableEq, Repr

/-- The measure and the storage class of a resource of claims. -/
def measured : Option (Measure × String) :=
  if resourceName = requestsStorage then some (.storage, "")
  else if resourceName ∈ [persistentVolumeClaims, countPersistentVolumeClaimsResource] then
    some (.count, "")
  else
    match splitStorageClassQuotaResourceName resourceName with
    | none => none
    | some (storageClass, suffix) =>
      if suffix = requestsStorage then some (.storage, storageClass)
      else if suffix = persistentVolumeClaims then some (.count, storageClass)
      else none

/-- The amount of a claim of the given storage. -/
def Measure.amount : Measure → Int → Int
  | .storage, bytes => bytes
  | .count, _ => 1

/-- What a resource that measures `m` in a storage class charges for a claim. -/
def chargeFor (m : Measure) (storageClass : String) (inScope : Bool) (claimClass : String)
    (bytes : Int) : Int :=
  if inScope && inClass storageClass claimClass then m.amount bytes else 0

/-- What a resource of a quota charges for a stored claim. -/
def charge (quota : ResourceQuota) (m : Measure) (storageClass : String) (claim : LiveClaim) :
    Int :=
  chargeFor m storageClass
    (pvcMatchesQuotaScopes quota (referencedVolumeAttributesClassNames claim))
    claim.storageClass (effectivePVCQuotaStorage claim)

theorem charge_nonneg (quota : ResourceQuota) (m : Measure) (storageClass : String)
    (claim : LiveClaim) : 0 ≤ charge quota m storageClass claim := by
  unfold charge chargeFor effectivePVCQuotaStorage
  cases m <;> simp only [Measure.amount] <;> split <;> (try split) <;> omega

/-! ## Replacing one claim after the other -/

/-- The claim that replaces the existing one. -/
def created (change : PVCAdmissionChange) : LiveClaim where
  uid := none
  request := change.requestedStorage.toNat
  storageClass := change.requestedStorageClass
  volumeAttributesClassNames := change.requestedVolumeAttributesClassNames

/-- The namespace while the batch is carried out: its claims, and the usage of one resource. -/
structure Usage where
  claims : Claims
  used : Int

section Charges

variable (quota : ResourceQuota) (m : Measure) (storageClass : String) (claims : Claims)

def held (key : String × String) : Int :=
  match claims key with
  | .ok claim => charge quota m storageClass claim
  | .error _ => 0

/-- One claim is deleted and its successor is created. -/
def recreate (s : Usage) (change : PVCAdmissionChange) : Usage where
  claims := Function.update s.claims change.key (.ok (created change))
  used := s.used - held quota m storageClass s.claims change.key
    + charge quota m storageClass (created change)

/-- The usage after the replacements of a list, in its order. -/
def usageAfter (used : Int) (done : List PVCAdmissionChange) : Int :=
  (done.foldl (recreate quota m storageClass) ⟨claims, used⟩).used

/-- By how much a replacement changes the usage. -/
def difference (change : PVCAdmissionChange) : Int :=
  charge quota m storageClass (created change) - held quota m storageClass claims change.key

variable {quota m storageClass}

theorem held_update {claims : Claims} {key other : String × String}
    {claim : Except String LiveClaim} (hne : other ≠ key) :
    held quota m storageClass (Function.update claims key claim) other
      = held quota m storageClass claims other := by
  simp [held, Function.update_of_ne hne]

/-- The usage changes by the differences of the replacements, if no claim is replaced twice. -/
theorem usageAfter_eq {claims : Claims} {used : Int} {done : List PVCAdmissionChange}
    (hdistinct : (done.map PVCAdmissionChange.key).Nodup) :
    usageAfter quota m storageClass claims used done
      = used + (done.map (difference quota m storageClass claims)).sum := by
  induction done generalizing claims used with
  | nil => simp [usageAfter]
  | cons change done ih =>
    rw [List.map_cons, List.nodup_cons] at hdistinct
    have hsame : done.map (difference quota m storageClass
          (Function.update claims change.key (.ok (created change))))
        = done.map (difference quota m storageClass claims) := by
      refine List.map_congr_left fun later hlater => ?_
      have hne : later.key ≠ change.key := by
        intro heq
        exact hdistinct.1 (heq ▸ List.mem_map_of_mem hlater)
      rw [difference, difference, held_update hne]
    have hrest : usageAfter quota m storageClass claims used (change :: done)
        = used - held quota m storageClass claims change.key
            + charge quota m storageClass (created change)
          + (done.map (difference quota m storageClass
              (Function.update claims change.key (.ok (created change))))).sum :=
      ih hdistinct.2
    rw [hsame] at hrest
    rw [hrest, List.map_cons, List.sum_cons, difference]
    omega

end Charges

/-! ## What the projection computes -/

theorem isPVCQuotaResource_eq :
    isPVCQuotaResource resourceName = (measured resourceName).isSome := by
  unfold isPVCQuotaResource measured
  by_cases hstorage : resourceName = requestsStorage
  · simp [hstorage]
  · by_cases hcount : resourceName ∈ [persistentVolumeClaims, countPersistentVolumeClaimsResource]
    · rw [if_pos (List.mem_cons_of_mem _ hcount), if_neg hstorage, if_pos hcount]
      rfl
    · rw [if_neg (by simp_all), if_neg hstorage, if_neg hcount]
      cases splitStorageClassQuotaResourceName resourceName with
      | none => rfl
      | some scope =>
        simp only
        split_ifs <;> simp_all

def projectedDelta (quota : ResourceQuota) (m : Measure) (storageClass : String)
    (change : PVCAdmissionChange) : Int :=
  chargeFor m storageClass (requestedPVCMatchesQuota change quota) change.requestedStorageClass
      change.requestedStorage
    - chargeFor m storageClass (existingPVCMatchesQuota change quota) change.existingStorageClass
        change.existingStorage

theorem foldl_add {α : Type} {step : Int → α → Int} {delta : α → Int}
    (hstep : ∀ total a, step total a = total + delta a) (as : List α) (total : Int) :
    as.foldl step total = total + (as.map delta).sum := by
  induction as generalizing total with
  | nil => simp
  | cons a as ih =>
    rw [List.foldl_cons, ih, hstep, List.map_cons, List.sum_cons]
    omega

theorem projectedPVCStorage_eq (used : Int) (quota : ResourceQuota)
    (changes : List PVCAdmissionChange) (storageClass : String) :
    projectedPVCStorage used quota changes storageClass = clampNonNegative
      (used + (changes.map (projectedDelta quota .storage storageClass)).sum) := by
  unfold projectedPVCStorage
  rw [foldl_add]
  intro total change
  simp only [projectedDelta, chargeFor, Measure.amount]
  split_ifs <;> omega

theorem projectedPVCCount_eq (used : Int) (quota : ResourceQuota)
    (changes : List PVCAdmissionChange) (storageClass : String) :
    projectedPVCCount used quota changes storageClass
      = clampNonNegative (used + (changes.map (projectedDelta quota .count storageClass)).sum) := by
  unfold projectedPVCCount
  rw [foldl_add]
  intro total change
  simp only [projectedDelta, chargeFor, Measure.amount]
  split_ifs <;> simp_all
  all_goals omega

/-- The projection of a resource is the usage and the differences, cut off at zero. -/
theorem projectedQuotaResource_eq {resourceName : String} {m : Measure} {storageClass : String}
    (hmeasured : measured resourceName = some (m, storageClass)) (used : Int)
    (quota : ResourceQuota) (changes : List PVCAdmissionChange) :
    projectedQuotaResource resourceName used quota changes
      = some (clampNonNegative
          (used + (changes.map (projectedDelta quota m storageClass)).sum)) := by
  unfold measured at hmeasured
  unfold projectedQuotaResource
  simp only [projectedPVCStorage_eq, projectedPVCCount_eq]
  by_cases hstorage : resourceName = requestsStorage
  · simp_all
  · by_cases hcount : resourceName ∈ [persistentVolumeClaims, countPersistentVolumeClaimsResource]
    · rw [if_neg hstorage, if_pos hcount] at hmeasured ⊢
      simp_all
    · rw [if_neg hstorage, if_neg hcount] at hmeasured ⊢
      cases hsplit : splitStorageClassQuotaResourceName resourceName with
      | none => simp_all
      | some scope =>
        simp only [hsplit] at hmeasured ⊢
        split_ifs at hmeasured ⊢ <;> simp_all

theorem le_clampNonNegative (value : Int) : value ≤ clampNonNegative value := by
  unfold clampNonNegative
  split <;> omega

/-! ## What the resolution finds -/

/-- The change describes the stored claim it replaces: by its UID, with its storage class, and with
no more storage than it has. -/
structure Replaces (claims : Claims) (change : PVCAdmissionChange) (claim : LiveClaim) : Prop where
  found : claims change.key = .ok claim
  existing : change.existing = true
  uid : change.existingUID = claim.uid
  identified : claim.uid ≠ none
  storageClass : change.existingStorageClass = claim.storageClass
  storage : change.existingStorage ≤ effectivePVCQuotaStorage claim

/-- `resolved` is charged as the new claim of `change` and as the old claim. -/
structure Describes (quota : ResourceQuota) (m : Measure) (change : PVCAdmissionChange)
    (claim : LiveClaim) (resolved : PVCAdmissionChange) : Prop where
  requestedScope : requestedPVCMatchesQuota resolved quota
    = pvcMatchesQuotaScopes quota (referencedVolumeAttributesClassNames (created change))
  requestedClass : resolved.requestedStorageClass = change.requestedStorageClass
  requested : resolved.requestedStorage = change.requestedStorage
  existingScope : existingPVCMatchesQuota resolved quota
    = pvcMatchesQuotaScopes quota (referencedVolumeAttributesClassNames claim)
  existingClass : resolved.existingStorageClass = claim.storageClass
  existing : m.amount resolved.existingStorage = m.amount (effectivePVCQuotaStorage claim)

theorem effectivePVCQuotaStorage_created {change : PVCAdmissionChange}
    (hpositive : 0 < change.requestedStorage) :
    effectivePVCQuotaStorage (created change) = change.requestedStorage := by
  have hrequest : ((created change).request : Int) = change.requestedStorage :=
    Int.toNat_of_nonneg hpositive.le
  have hallocated : ¬ (created change).allocated > (created change).request := Nat.not_lt_zero _
  rw [effectivePVCQuotaStorage, if_neg hallocated, hrequest]

theorem Describes.delta {quota : ResourceQuota} {m : Measure} {change resolved : PVCAdmissionChange}
    {claim : LiveClaim} (h : Describes quota m change claim resolved)
    (hpositive : 0 < change.requestedStorage) (storageClass : String) :
    projectedDelta quota m storageClass resolved
      = charge quota m storageClass (created change) - charge quota m storageClass claim := by
  unfold projectedDelta charge chargeFor
  rw [h.requestedScope, h.requestedClass, h.requested, h.existingScope, h.existingClass, h.existing,
    effectivePVCQuotaStorage_created hpositive]
  rfl

section Resolution

variable {claims : Claims} {quotas : List ResourceQuota} {quota : ResourceQuota}
  {bound : String × Int} {m : Measure} {storageClass : String}
  {change resolved : PVCAdmissionChange} {claim : LiveClaim}

/-- A quota without the scope matches a claim whatever its VolumeAttributesClasses are. -/
theorem pvcMatchesQuotaScopes_congr (hnone : hasVolumeAttributesClassQuota quotas = false)
    (hquota : quota ∈ quotas) (names names' : List String) :
    pvcMatchesQuotaScopes quota names = pvcMatchesQuotaScopes quota names' := by
  have hscope : ∀ selector : ScopedResourceSelectorRequirement,
      selector.scopeName ≠ .volumeAttributesClass →
        pvcMatchesScope selector names = pvcMatchesScope selector names' := by
    intro selector hother
    simp [pvcMatchesScope, hother]
  simp only [hasVolumeAttributesClassQuota, List.any_eq_false, Bool.or_eq_true, not_or,
    decide_eq_true_eq] at hnone
  obtain ⟨hscopes, hselectors⟩ := hnone quota hquota
  rw [Bool.eq_iff_iff]
  simp only [pvcMatchesQuotaScopes, Bool.and_eq_true, List.all_eq_true]
  refine and_congr (forall₂_congr fun scope hmem => ?_) (forall₂_congr fun selector hmem => ?_)
  · rw [hscope _ fun heq => hscopes (heq ▸ hmem)]
  · rw [hscope _ fun heq => hselectors (List.any_eq_true.mpr ⟨selector, hmem, by simp [heq]⟩)]

/-- A bound on storage makes the preflight look the stored size up. -/
theorem hasPVCStorageQuota_of_measured (hquota : quota ∈ quotas) (hbound : bound ∈ quota.hard)
    (hmeasured : measured bound.1 = some (.storage, storageClass)) :
    hasPVCStorageQuota quotas = true := by
  refine List.any_eq_true.mpr ⟨quota, hquota, List.any_eq_true.mpr ⟨bound, hbound, ?_⟩⟩
  unfold measured at hmeasured
  by_cases hstorage : bound.1 = requestsStorage
  · simp [hstorage]
  · rw [if_neg hstorage] at hmeasured
    split_ifs at hmeasured with hcount
    · cases hmeasured
    · cases hsplit : splitStorageClassQuotaResourceName bound.1 with
      | none => simp_all
      | some scope =>
        simp only [hsplit] at hmeasured
        split_ifs at hmeasured with hsuffix <;> simp_all

/-- Without a bound on storage and without the scope, the change as it is describes the claim. -/
theorem describes_self (hvac : hasVolumeAttributesClassQuota quotas = false)
    (hstorage : hasPVCStorageQuota quotas = false) (hquota : quota ∈ quotas)
    (hbound : bound ∈ quota.hard) (hmeasured : measured bound.1 = some (m, storageClass))
    (hreplaces : Replaces claims change claim) : Describes quota m change claim change where
  requestedScope := pvcMatchesQuotaScopes_congr hvac hquota _ _
  requestedClass := rfl
  requested := rfl
  existingScope := by
    rw [existingPVCMatchesQuota, hreplaces.existing, Bool.true_and]
    exact pvcMatchesQuotaScopes_congr hvac hquota _ _
  existingClass := hreplaces.storageClass
  existing := by
    cases m with
    | count => rfl
    | storage =>
      rw [hasPVCStorageQuota_of_measured hquota hbound hmeasured] at hstorage
      cases hstorage

/-- The change the resolution returns, for a change that describes its claim. -/
theorem resolveChange_eq (hreplaces : Replaces claims change claim) (vac storage : Bool) :
    resolveChange claims vac storage change = .ok
      { change with
        requestedVolumeAttributesClassNames :=
          uniqueNonEmptyStrings change.requestedVolumeAttributesClassNames
        existingStorage :=
          if storage then effectivePVCQuotaStorage claim else change.existingStorage
        existingVolumeAttributesClassNames :=
          if vac then referencedVolumeAttributesClassNames claim
          else uniqueNonEmptyStrings change.existingVolumeAttributesClassNames } := by
  have huid : change.existingUID ≠ none := by
    rw [hreplaces.uid]
    exact hreplaces.identified
  have hread : ¬ (change.existing = false ∨ (change.existingUID = none ∧ vac = false)) := by
    simp [hreplaces.existing, huid]
  have hsame : ¬ (change.existingUID ≠ none ∧ claim.uid ≠ change.existingUID) := by
    simp [hreplaces.uid]
  have hsize : (if storage = true ∧ change.existingStorage < effectivePVCQuotaStorage claim then
        effectivePVCQuotaStorage claim else change.existingStorage)
      = if storage then effectivePVCQuotaStorage claim else change.existingStorage := by
    have hle := hreplaces.storage
    by_cases hlookup : storage = true
    · simp only [hlookup, true_and, if_true]
      split <;> omega
    · simp [hlookup]
  simp only [resolveChange, hreplaces.found]
  rw [if_neg hread, if_neg hsame, hsize]

/-- The resolved change describes the claim to every bound of the listed quotas. -/
theorem describes_of_resolveChange (hquota : quota ∈ quotas) (hbound : bound ∈ quota.hard)
    (hmeasured : measured bound.1 = some (m, storageClass))
    (hreplaces : Replaces claims change claim)
    (hresolved : resolveChange claims (hasVolumeAttributesClassQuota quotas)
      (hasPVCStorageQuota quotas) change = .ok resolved) :
    Describes quota m change claim resolved := by
  rw [resolveChange_eq hreplaces, Except.ok.injEq] at hresolved
  subst hresolved
  refine ⟨rfl, rfl, rfl, ?_, hreplaces.storageClass, ?_⟩
  · simp only [existingPVCMatchesQuota, hreplaces.existing, Bool.true_and]
    cases hvac : hasVolumeAttributesClassQuota quotas with
    | true => rfl
    | false => exact pvcMatchesQuotaScopes_congr hvac hquota _ _
  · cases m with
    | count => rfl
    | storage => simp [hasPVCStorageQuota_of_measured hquota hbound hmeasured]

end Resolution

/-! ## The batch -/

/-- A replacement asks for a claim in the scopes of the quota. -/
def Wanted (quota : ResourceQuota) (changes : List PVCAdmissionChange) : Prop :=
  ∃ change ∈ changes,
    pvcMatchesQuotaScopes quota (referencedVolumeAttributesClassNames (created change)) = true

/-- A resource of claims that a listed quota bounds, with its current usage. -/
structure Bounded (quotas : List ResourceQuota) (quota : ResourceQuota) (m : Measure)
    (storageClass : String) (used hard : Int) : Prop where
  quota_mem : quota ∈ quotas
  bound : ∃ name, (name, hard) ∈ quota.hard ∧ measured name = some (m, storageClass) ∧
    quota.used name = some used

/-- At no time of the batch is the usage of a bounded resource above its bound. -/
def NeverExceeds (claims : Claims) (quotas : List ResourceQuota)
    (changes : List PVCAdmissionChange) : Prop :=
  ∀ quota m storageClass used hard, Bounded quotas quota m storageClass used hard →
    ∀ k ≤ changes.length, usageAfter quota m storageClass claims used (changes.take k) ≤ hard

/-- For every bounded resource: it is not in excess at first, and once a replacement has raised its
usage no later one lowers it. -/
def ShrinksFirst (claims : Claims) (quotas : List ResourceQuota)
    (changes : List PVCAdmissionChange) : Prop :=
  ∀ quota m storageClass used hard, Bounded quotas quota m storageClass used hard → used ≤ hard ∧
    changes.Pairwise fun earlier later => 0 < difference quota m storageClass claims earlier →
      0 ≤ difference quota m storageClass claims later

theorem sum_map_nonpos {α : Type} {delta : α → Int} {as : List α} (h : ∀ a ∈ as, delta a ≤ 0) :
    (as.map delta).sum ≤ 0 := by
  have hle := List.sum_le_card_nsmul (as.map delta) 0 (List.forall_mem_map.mpr h)
  rwa [nsmul_zero] at hle

/-- A list that does not fall once it has risen is low at first or not above its end. -/
theorem sum_take_nonpos_or {α : Type} {delta : α → Int} {as : List α}
    (h : as.Pairwise fun a b => 0 < delta a → 0 ≤ delta b) (k : Nat) :
    ((as.take k).map delta).sum ≤ 0 ∨ 0 ≤ ((as.drop k).map delta).sum := by
  rw [← List.take_append_drop k as, List.pairwise_append] at h
  by_cases hrisen : ∃ a ∈ as.take k, 0 < delta a
  · obtain ⟨a, ha, hpositive⟩ := hrisen
    refine .inr (List.sum_nonneg fun x hx => ?_)
    obtain ⟨b, hb, rfl⟩ := List.mem_map.mp hx
    exact h.2.2 a ha b hb hpositive
  · push Not at hrisen
    exact .inl (sum_map_nonpos hrisen)

section Batch

variable {cluster : Cluster} {quotas : List ResourceQuota} {quota : ResourceQuota} {m : Measure}
  {storageClass : String} {used hard : Int} {changes resolved : List PVCAdmissionChange}

/-- What the resolved changes have in common with the stored claims, for every bounded resource. -/
theorem map_eq_of_resolved {α : Type} {f g : PVCAdmissionChange → α}
    (hbounded : Bounded quotas quota m storageClass used hard)
    (hreplaces : ∀ change ∈ changes, ∃ claim, Replaces cluster.claims change claim)
    (hresolved : resolveExistingPVCAdmissionState cluster.claims quotas changes = .ok resolved)
    (hfg : ∀ change ∈ changes, ∀ claim, Replaces cluster.claims change claim →
      ∀ r, Describes quota m change claim r → f r = g change) :
    resolved.map f = changes.map g := by
  obtain ⟨hquota, name, hbound, hmeasured, -⟩ := hbounded
  unfold resolveExistingPVCAdmissionState at hresolved
  by_cases hskip : hasVolumeAttributesClassQuota quotas = false ∧ hasPVCStorageQuota quotas = false
  · rw [if_pos hskip, Except.ok.injEq] at hresolved
    subst hresolved
    refine List.map_congr_left fun change hchange => ?_
    obtain ⟨claim, hclaim⟩ := hreplaces change hchange
    exact hfg change hchange claim hclaim change
      (describes_self hskip.1 hskip.2 hquota hbound hmeasured hclaim)
  · rw [if_neg hskip] at hresolved
    refine Check.map_eq_of_mapM_ok hresolved fun change hchange r hr => ?_
    obtain ⟨claim, hclaim⟩ := hreplaces change hchange
    exact hfg change hchange claim hclaim r
      (describes_of_resolveChange hquota hbound hmeasured hclaim hr)

theorem held_of_replaces {claims : Claims} {change : PVCAdmissionChange} {claim : LiveClaim}
    (hclaim : Replaces claims change claim) :
    held quota m storageClass claims change.key = charge quota m storageClass claim := by
  simp [held, hclaim.found]

theorem map_projectedDelta_resolved (hbounded : Bounded quotas quota m storageClass used hard)
    (hreplaces : ∀ change ∈ changes, ∃ claim, Replaces cluster.claims change claim)
    (hpositive : ∀ change ∈ changes, 0 < change.requestedStorage)
    (hresolved : resolveExistingPVCAdmissionState cluster.claims quotas changes = .ok resolved) :
    resolved.map (projectedDelta quota m storageClass)
      = changes.map (difference quota m storageClass cluster.claims) := by
  refine map_eq_of_resolved hbounded hreplaces hresolved fun change hchange claim hclaim r hr => ?_
  rw [hr.delta (hpositive change hchange), difference, held_of_replaces hclaim]

theorem quotaCanMatch_resolved (hbounded : Bounded quotas quota m storageClass used hard)
    (hreplaces : ∀ change ∈ changes, ∃ claim, Replaces cluster.claims change claim)
    (hresolved : resolveExistingPVCAdmissionState cluster.claims quotas changes = .ok resolved) :
    quotaCanMatchRequestedPVC quota resolved = true ↔ Wanted quota changes := by
  have hmap : resolved.map (fun r => requestedPVCMatchesQuota r quota) = changes.map fun change =>
      pvcMatchesQuotaScopes quota (referencedVolumeAttributesClassNames (created change)) :=
    map_eq_of_resolved hbounded hreplaces hresolved fun _ _ _ _ _ hr => hr.requestedScope
  have hany := congrArg (fun l => l.any id) hmap
  simp only [List.any_map] at hany
  have hmatch : quotaCanMatchRequestedPVC quota resolved
      = resolved.any (id ∘ fun r => requestedPVCMatchesQuota r quota) := rfl
  rw [hmatch, hany, List.any_eq_true]
  rfl

/-- A quota whose scopes no new claim is in can only get claims back. -/
theorem difference_nonpos_of_not_wanted (hunwanted : ¬ Wanted quota changes)
    {change : PVCAdmissionChange} (hchange : change ∈ changes) :
    difference quota m storageClass cluster.claims change ≤ 0 := by
  have hscope : pvcMatchesQuotaScopes quota
      (referencedVolumeAttributesClassNames (created change)) = false := by
    rw [← Bool.not_eq_true]
    intro hmatch
    exact hunwanted ⟨change, hchange, hmatch⟩
  have hcharge : charge quota m storageClass (created change) = 0 := by
    simp [charge, chargeFor, hscope]
  have hheld : 0 ≤ held quota m storageClass cluster.claims change.key := by
    unfold held
    split
    · exact charge_nonneg _ _ _ _
    · exact le_refl 0
  rw [difference]
  omega

/-- What a preflight without quota violations has established. -/
structure Passed (cluster : Cluster) (quotas : List ResourceQuota)
    (changes resolved : List PVCAdmissionChange) : Prop where
  positive : ∀ change ∈ changes, 0 < change.requestedStorage
  resolved_eq : resolveExistingPVCAdmissionState cluster.claims quotas changes = .ok resolved
  projected : ∀ quota m storageClass used hard, Bounded quotas quota m storageClass used hard →
    quotaCanMatchRequestedPVC quota resolved = true →
      used + (resolved.map (projectedDelta quota m storageClass)).sum ≤ hard

theorem sortStrings_eq_nil {texts : List String} : sortStrings texts = [] ↔ texts = [] := by
  rw [← List.length_eq_zero_iff, sortStrings, List.length_insertionSort, List.length_eq_zero_iff]

/-- A bound of a wanted quota that is not reported is kept by the projection. -/
theorem projected_le_of_quotaViolations {ns : String}
    (hnone : quotaViolations ns changes quota = [])
    (hbounded : Bounded quotas quota m storageClass used hard)
    (hmatch : quotaCanMatchRequestedPVC quota changes = true) :
    used + (changes.map (projectedDelta quota m storageClass)).sum ≤ hard := by
  obtain ⟨-, name, hbound, hmeasured, hused⟩ := hbounded
  unfold quotaViolations at hnone
  rw [if_neg (by simp [hmatch]), List.filterMap_eq_nil_iff] at hnone
  have hviolation := hnone (name, hard) hbound
  have hresource : isPVCQuotaResource name = true := by
    simp [isPVCQuotaResource_eq, hmeasured]
  simp only [boundViolation, hresource, hused, projectedQuotaResource_eq hmeasured] at hviolation
  have hkept : ¬ clampNonNegative
      (used + (changes.map (projectedDelta quota m storageClass)).sum) > hard := by
    intro hover
    simp [hover] at hviolation
  have hclamp := le_clampNonNegative
    (used + (changes.map (projectedDelta quota m storageClass)).sum)
  omega

theorem passed_of_check {report : PVCAdmissionReport}
    (hquotas : listed cluster.resourceQuotas = .ok quotas)
    (hcheck : checkPVCAdmissionPolicies cluster changes = .ok report)
    (hnone : report.quotaViolations = []) (hsome : changes ≠ []) :
    ∃ resolved, Passed cluster quotas changes resolved := by
  obtain ⟨first, rest, rfl⟩ := List.exists_cons_of_ne_nil hsome
  simp only [checkPVCAdmissionPolicies, hquotas, Check.andThen_eq_ok, Check.forM_eq_ok] at hcheck
  obtain ⟨-, hvalid, hcheck⟩ := hcheck
  obtain ⟨_, hlisted, hcheck⟩ := Check.bind_eq_ok.mp hcheck
  cases hlisted
  obtain ⟨limitRanges, -, hcheck⟩ := Check.bind_eq_ok.mp hcheck
  obtain ⟨resolved, hresolved, hcheck⟩ := Check.bind_eq_ok.mp hcheck
  cases hcheck
  refine ⟨resolved, fun change hchange => ?_, hresolved, ?_⟩
  · have hpositive := hvalid change hchange
    simp only [validateChange, Check.andThen_eq_ok, Check.refuse_eq_ok] at hpositive
    omega
  · intro quota m storageClass used hard hbounded hmatch
    have hviolations := List.flatMap_eq_nil_iff.mp (sortStrings_eq_nil.mp hnone) quota
      hbounded.quota_mem
    exact projected_le_of_quotaViolations hviolations hbounded hmatch

/-- The usage after a batch that passed is within every bound that it was within before. -/
theorem sum_difference_le (hpassed : changes = [] ∨ ∃ resolved,
    Passed cluster quotas changes resolved)
    (hreplaces : ∀ change ∈ changes, ∃ claim, Replaces cluster.claims change claim)
    (hbounded : Bounded quotas quota m storageClass used hard) (hused : used ≤ hard) :
    used + (changes.map (difference quota m storageClass cluster.claims)).sum ≤ hard := by
  by_cases hwanted : Wanted quota changes
  · have hsome : changes ≠ [] := by
      obtain ⟨change, hchange, -⟩ := hwanted
      exact List.ne_nil_of_mem hchange
    obtain ⟨resolved, hok⟩ := hpassed.resolve_left hsome
    have hprojected := hok.projected quota m storageClass used hard hbounded
      ((quotaCanMatch_resolved hbounded hreplaces hok.resolved_eq).mpr hwanted)
    rwa [map_projectedDelta_resolved hbounded hreplaces hok.positive hok.resolved_eq] at hprojected
  · have hfalls : (changes.map (difference quota m storageClass cluster.claims)).sum ≤ 0 :=
      sum_map_nonpos fun change => difference_nonpos_of_not_wanted hwanted
    omega

/-- **The preflight and the replacements one by one.**  For a batch that replaces distinct stored
claims and that the preflight finds without quota violation, the usage of every bounded resource
stays within its bound after each replacement if the batch shrinks what it shrinks first. -/
theorem neverExceeds_of_shrinksFirst {report : PVCAdmissionReport}
    (hquotas : listed cluster.resourceQuotas = .ok quotas)
    (hreplaces : ∀ change ∈ changes, ∃ claim, Replaces cluster.claims change claim)
    (hdistinct : (changes.map PVCAdmissionChange.key).Nodup)
    (hcheck : checkPVCAdmissionPolicies cluster changes = .ok report)
    (hnone : report.quotaViolations = []) (horder : ShrinksFirst cluster.claims quotas changes) :
    NeverExceeds cluster.claims quotas changes := by
  have hpassed : changes = [] ∨ ∃ resolved, Passed cluster quotas changes resolved := by
    by_cases hsome : changes = []
    · exact .inl hsome
    · exact .inr (passed_of_check hquotas hcheck hnone hsome)
  intro quota m storageClass used hard hbounded k _
  obtain ⟨hused, hpairwise⟩ := horder quota m storageClass used hard hbounded
  have hend := sum_difference_le hpassed hreplaces hbounded hused
  have hsplit : (changes.map (difference quota m storageClass cluster.claims)).sum
      = ((changes.take k).map (difference quota m storageClass cluster.claims)).sum
        + ((changes.drop k).map (difference quota m storageClass cluster.claims)).sum := by
    rw [← List.sum_append, ← List.map_append, List.take_append_drop]
  rw [usageAfter_eq (by rw [List.map_take]; exact hdistinct.sublist (List.take_sublist _ _))]
  -- Up to `k` the usage has only fallen, or from `k` on it only rises.
  rcases sum_take_nonpos_or hpairwise k with hfallen | hrises <;> omega

end Batch

/-! ## A batch that grows first -/

/-- The namespace may use thirty bytes and uses them. -/
def fullQuota : ResourceQuota where
  name := "storage"
  hard := [(requestsStorage, 30)]
  used := fun name => if name = requestsStorage then some 30 else none

/-- A claim of ten bytes and a claim of twenty, under a quota that they fill. -/
def fullCluster : Cluster where
  resourceQuotas := .ok [fullQuota]
  limitRanges := .ok []
  claims := fun key =>
    if key = ("app", "small") then .ok ⟨some 1, 10, 0, "standard", []⟩
    else if key = ("app", "large") then .ok ⟨some 2, 20, 0, "standard", []⟩
    else .error "not found"

def growth : PVCAdmissionChange :=
  ⟨"app", "small", 20, "standard", true, some 1, 10, "standard", [], []⟩

def shrinkage : PVCAdmissionChange :=
  ⟨"app", "large", 10, "standard", true, some 2, 20, "standard", [], []⟩

theorem replaces_growth :
    Replaces fullCluster.claims growth ⟨some 1, 10, 0, "standard", []⟩ := by
  constructor <;> decide

theorem replaces_shrinkage :
    Replaces fullCluster.claims shrinkage ⟨some 2, 20, 0, "standard", []⟩ := by
  constructor <;> decide

/-- The small claim first: the preflight has nothing to report, and the usage rises to forty. -/
theorem growth_first_exceeds :
    checkPVCAdmissionPolicies fullCluster [growth, shrinkage] = .ok {} ∧
      (∀ change ∈ [growth, shrinkage], ∃ claim, Replaces fullCluster.claims change claim) ∧
      ¬ NeverExceeds fullCluster.claims [fullQuota] [growth, shrinkage] := by
  refine ⟨by decide, ?_, ?_⟩
  · rw [List.forall_mem_cons, List.forall_mem_singleton]
    exact ⟨⟨_, replaces_growth⟩, ⟨_, replaces_shrinkage⟩⟩
  · intro hnever
    have hbounded : Bounded [fullQuota] fullQuota .storage "" 30 30 :=
      ⟨List.mem_singleton_self _, requestsStorage, by decide, by decide, by decide⟩
    have hfirst := hnever fullQuota .storage "" 30 30 hbounded 1 (by decide)
    revert hfirst
    decide

/-- The large claim first: the usage falls to twenty and rises to thirty. -/
theorem shrinkage_first_stays :
    NeverExceeds fullCluster.claims [fullQuota] [shrinkage, growth] := by
  have hcheck : checkPVCAdmissionPolicies fullCluster [shrinkage, growth] = .ok {} := by
    decide
  refine neverExceeds_of_shrinksFirst rfl ?_ (by decide) hcheck rfl ?_
  · rw [List.forall_mem_cons, List.forall_mem_singleton]
    exact ⟨⟨_, replaces_shrinkage⟩, ⟨_, replaces_growth⟩⟩
  · rintro quota m storageClass used hard ⟨hquota, name, hbound, hmeasured, hused⟩
    obtain rfl := List.mem_singleton.mp hquota
    obtain ⟨rfl, rfl⟩ := Prod.mk.inj (List.mem_singleton.mp hbound)
    cases hmeasured
    cases hused
    decide

end PVCPolicy

end PvcMigrate
