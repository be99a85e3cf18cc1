import PvcMigrate.App.MigrationObject
import PvcMigrate.Workflow.Planning

/-!
# The fingerprint of an admitted workflow

Once a workflow is planned, the controller stores a fingerprint of its spec and refuses to go on
when the spec no longer has it (`kube/workflow_fingerprint.go`, `controller/workflow_execution.go`).
Some settings may still be edited: the cleanup policy, the manual cutover of a Pod migration, and
the spelling of a default.  The fingerprint is meant to identify the specs that differ in nothing
else.

The JSON encoding of a kind of specs and SHA-256 are parameters, both taken to be injective.
-/

namespace PvcMigrate

namespace Fingerprint

/-! ## Specs -/

/-- `v1alpha1.TransferScope`. -/
structure TransferScope where
  sourcePath : String
  destinationPath : String
  deriving DecidableEq, Repr

/-- `v1alpha1.VolumeRequest`, with all of its fields. -/
structure VolumeRequest where
  sourcePVC : LocalResourceReference
  sourcePV : Option LocalResourceReference := none
  destinationPVC : Option LocalResourceReference := none
  capacity : String := ""
  transferScope : Option TransferScope := none
  deriving DecidableEq, Repr

/-- `v1alpha1.RetryPolicySpec`. -/
structure RetryPolicySpec where
  retries : Option Int := none
  retryBackoff : Option String := none
  deriving DecidableEq, Repr

/-- `v1alpha1.TransferOptions`. -/
structure TransferOptions where
  unusedStoragePolicy : UnusedStoragePolicy := .unset
  destinationCapacity : String := ""
  sourcePath : String := ""
  destinationPath : String := ""
  destinationStorageClass : String := ""
  sourceNode : String := ""
  targetNode : String := ""
  capacityAwareness : String := ""
  toolNetworkPolicy : String := ""
  strategies : List String := []
  verifyChecksum : Bool := false
  deleteExtraneous : Option Bool := none
  allowVolumeShrink : Bool := false
  skipSourceUsageCheck : Bool := false
  copyTimeout : Option String := none
  rsyncMaxRetries : Option Int := none
  retryPolicy : Option RetryPolicySpec := none
  deriving DecidableEq, Repr

variable (options : TransferOptions)

/-- `TransferOptions.DeleteExtraneousValue`. -/
def TransferOptions.deleteExtraneousValue : Bool :=
  options.deleteExtraneous.getD true

/-- `v1alpha1.MigrationSpec`. -/
structure MigrationSpec extends TransferOptions where
  volumes : List VolumeRequest := []
  deriving DecidableEq, Repr

/-- `v1alpha1.CopySpec`. -/
structure CopySpec extends TransferOptions where
  volumes : List VolumeRequest := []
  pod : Option LocalResourceReference := none
  online : Bool := false
  deriving DecidableEq, Repr

/-- `v1alpha1.ReservationSpec`. -/
structure ReservationSpec extends TransferOptions where
  volumes : List VolumeRequest := []
  pod : Option LocalResourceReference := none
  deriving DecidableEq, Repr

/-- `v1alpha1.PodMigrationSpec`. -/
structure PodMigrationSpec extends TransferOptions where
  pod : LocalResourceReference
  precopyPasses : Int := 0
  switchoverCandidate : String := ""
  allowLeaderDowntime : Bool := false
  forceReprovision : Bool := false
  openEBSLVMEnableShared : Bool := false
  allowPlacementViolation : Bool := false
  manualCutover : Bool := false
  volumes : List VolumeRequest := []
  deriving DecidableEq, Repr

/-- `v1alpha1.RenameSpec`. -/
structure RenameSpec where
  sourcePVC : LocalResourceReference
  sourcePV : Option LocalResourceReference := none
  destinationPVC : LocalResourceReference
  deriving DecidableEq, Repr

/-- `v1alpha1.MoveSpec`. -/
structure MoveSpec where
  sourceNamespace : String
  destinationNamespace : String
  sessionNamespace : String := ""
  sourcePVC : LocalResourceReference
  sourcePV : Option LocalResourceReference := none
  destinationPVC : Option LocalResourceReference := none
  deriving DecidableEq, Repr

/-- `v1alpha1.ClusterMigrationSpec`. -/
structure ClusterMigrationSpec extends MigrationSpec where
  sourceNamespace : String
  destinationNamespace : String := ""
  temporaryNamespace : String := ""
  sessionNamespace : String := ""
  deriving DecidableEq, Repr

/-- `v1alpha1.ClusterCopySpec`. -/
structure ClusterCopySpec extends CopySpec where
  sourceNamespace : String
  destinationNamespace : String
  sessionNamespace : String := ""
  deriving DecidableEq, Repr

/-- `v1alpha1.ClusterReservationSpec`. -/
structure ClusterReservationSpec extends ReservationSpec where
  sourceNamespace : String
  destinationNamespace : String
  sessionNamespace : String := ""
  deriving DecidableEq, Repr

/-- `v1alpha1.BackupSpec`. -/
structure BackupSpec where
  sourcePVC : LocalResourceReference
  sourcePV : Option LocalResourceReference := none
  path : String := ""
  name : String
  repositoryRef : String
  online : Bool := false
  toolNetworkPolicy : String := ""
  openEBSLVMEnableShared : Bool := false
  deriving DecidableEq, Repr

/-- `v1alpha1.RestoreSpec`. -/
structure RestoreSpec where
  destinationPVC : LocalResourceReference
  path : String := ""
  name : String
  repositoryRef : String
  createPVC : Bool := false
  toolNetworkPolicy : String := ""
  destinationStorageClass : String := ""
  destinationAccessMode : String := ""
  destinationCapacity : String := ""
  allowMounted : Bool := false
  targetNode : String := ""
  deleteExtraneous : Bool := false
  unusedStoragePolicy : UnusedStoragePolicy := .unset
  deriving DecidableEq, Repr

/-- The kinds of workflows that are fingerprinted. -/
inductive Kind
  | migration
  | clusterMigration
  | podMigration
  | copy
  | clusterCopy
  | reservation
  | clusterReservation
  | backup
  | restore
  | rename
  | move
  deriving DecidableEq, Repr

@[reducible] def SpecOf : Kind → Type
  | .migration => MigrationSpec
  | .clusterMigration => ClusterMigrationSpec
  | .podMigration => PodMigrationSpec
  | .copy => CopySpec
  | .clusterCopy => ClusterCopySpec
  | .reservation => ReservationSpec
  | .clusterReservation => ClusterReservationSpec
  | .backup => BackupSpec
  | .restore => RestoreSpec
  | .rename => RenameSpec
  | .move => MoveSpec

/-- What the fingerprint is asked for: a resource of one of the kinds, of which only the spec is
input, or none, or a resource of another kind. -/
inductive Resource
  | missing
  | unsupported
  | workflow (kind : Kind) (spec : SpecOf kind)

/-! ## The fingerprint -/

def canonicalizeTransferDefaults : TransferOptions :=
  match options.deleteExtraneous with
  | some true => { options with deleteExtraneous := none }
  | _ => options

/-- What a transfer contributes: its options without the cleanup policy. -/
def transferInput : TransferOptions :=
  canonicalizeTransferDefaults { options with unusedStoragePolicy := .unset }

def input : (kind : Kind) → SpecOf kind → SpecOf kind
  | .migration, spec => { spec with toTransferOptions := transferInput spec.toTransferOptions }
  | .clusterMigration, spec =>
    { spec with toTransferOptions := transferInput spec.toTransferOptions }
  | .podMigration, spec =>
    { spec with toTransferOptions := transferInput spec.toTransferOptions, manualCutover := false }
  | .copy, spec | .clusterCopy, spec | .reservation, spec | .clusterReservation, spec =>
    { spec with toTransferOptions := transferInput spec.toTransferOptions }
  | .backup, spec | .restore, spec | .rename, spec | .move, spec => spec

/-- `json.Marshal` for each kind of specs, and the hexadecimal SHA-256 of its result. -/
structure Encoding (Code Digest : Type) where
  marshal : (kind : Kind) → SpecOf kind → Code
  sha256 : Code → Digest
  marshal_injective : ∀ kind, Function.Injective (marshal kind)
  sha256_injective : Function.Injective sha256

variable {Code Digest : Type} (encoding : Encoding Code Digest)

def Encoding.hash (kind : Kind) (spec : SpecOf kind) : Digest :=
  encoding.sha256 (encoding.marshal kind (input kind spec))

def workflowExecutionIntentHash : Resource → Except Error Digest
  | .missing => .error ⟨.validation, "workflow fingerprint", "workflow resource is required"⟩
  | .unsupported => .error ⟨.validation, "workflow fingerprint", "unsupported workflow resource"⟩
  | .workflow kind spec => .ok (encoding.hash kind spec)

/-- `executionIntentMutationError`, for the fingerprint in the status if there is one. -/
def executionIntentMutationError [DecidableEq Digest]
    (executionIntentHash : Option Digest) (resource : Resource) : Except Error Unit :=
  match executionIntentHash with
  | none => .ok ()
  | some recorded =>
    match workflowExecutionIntentHash encoding resource with
    | .error e => .error e
    | .ok current => Check.refuse (recorded ≠ current) changedWorkflowDefinitionError

/-! ## Intents -/

/-- The options of a transfer as they take effect, without the cleanup policy. -/
def intentOptions : TransferOptions :=
  { options with
    unusedStoragePolicy := .unset
    deleteExtraneous := some options.deleteExtraneousValue }

/-- A spec without the settings that may be edited once it is admitted: the cleanup policy of every
kind that has one, the manual cutover of a Pod migration, and whether the default of
`deleteExtraneous` is spelled out. -/
def intent : (kind : Kind) → SpecOf kind → SpecOf kind
  | .migration, spec => { spec with toTransferOptions := intentOptions spec.toTransferOptions }
  | .clusterMigration, spec =>
    { spec with toTransferOptions := intentOptions spec.toTransferOptions }
  | .podMigration, spec =>
    { spec with toTransferOptions := intentOptions spec.toTransferOptions, manualCutover := false }
  | .copy, spec | .clusterCopy, spec | .reservation, spec | .clusterReservation, spec =>
    { spec with toTransferOptions := intentOptions spec.toTransferOptions }
  | .backup, spec => spec
  | .restore, spec => { spec with unusedStoragePolicy := .unset }
  | .rename, spec | .move, spec => spec

/-- Two Restores that differ, and only in their cleanup policy. -/
def DifferOnlyInRestorePolicy : (kind : Kind) → SpecOf kind → SpecOf kind → Prop
  | .restore, a, b => a.unusedStoragePolicy ≠ b.unusedStoragePolicy ∧
      a = { b with unusedStoragePolicy := a.unusedStoragePolicy }
  | _, _, _ => False

variable {kind : Kind}

theorem Encoding.hash_eq_iff {a b : SpecOf kind} :
    encoding.hash kind a = encoding.hash kind b ↔ input kind a = input kind b := by
  constructor
  · intro h
    exact encoding.marshal_injective kind (encoding.sha256_injective h)
  · intro h
    rw [hash, hash, h]

/-- The canonical form forgets of `deleteExtraneous` exactly how its value is spelled. -/
theorem canonicalizeTransferDefaults_eq : canonicalizeTransferDefaults options = { options with
        deleteExtraneous := if options.deleteExtraneousValue then none else some false } := by
  cases options with
  | mk _ _ _ _ _ _ _ _ _ _ _ deleteExtraneous =>
    rcases deleteExtraneous with _ | _ | _ <;> rfl

theorem transferInput_eq_iff {a b : TransferOptions} :
    transferInput a = transferInput b ↔ intentOptions a = intentOptions b := by
  have hvalue (x y : Bool) :
      ((if x then none else some false) = if y then none else some false) ↔ x = y := by
    cases x <;> cases y <;> simp
  simp only [transferInput, canonicalizeTransferDefaults_eq, intentOptions,
    TransferOptions.mk.injEq, Option.some.injEq, hvalue]
  exact Iff.rfl

/-- Of every kind but Restore, what is encoded is the same exactly for the same intents. -/
theorem input_eq_iff (hkind : kind ≠ .restore) {a b : SpecOf kind} :
    input kind a = input kind b ↔ intent kind a = intent kind b := by
  cases kind with
  | migration => simp only [input, intent, MigrationSpec.mk.injEq, transferInput_eq_iff]
  | clusterMigration =>
    simp only [input, intent, ClusterMigrationSpec.mk.injEq, MigrationSpec.mk.injEq,
      transferInput_eq_iff]
  | podMigration => simp only [input, intent, PodMigrationSpec.mk.injEq, transferInput_eq_iff]
  | copy => simp only [input, intent, CopySpec.mk.injEq, transferInput_eq_iff]
  | clusterCopy =>
    simp only [input, intent, ClusterCopySpec.mk.injEq, CopySpec.mk.injEq, transferInput_eq_iff]
  | reservation => simp only [input, intent, ReservationSpec.mk.injEq, transferInput_eq_iff]
  | clusterReservation =>
    simp only [input, intent, ClusterReservationSpec.mk.injEq, ReservationSpec.mk.injEq,
      transferInput_eq_iff]
  | backup => exact Iff.rfl
  | restore => exact absurd rfl hkind
  | rename | move => exact Iff.rfl

/-- A Restore is encoded with its cleanup policy, which its intent ignores. -/
theorem restore_input_eq_iff {a b : RestoreSpec} :
    (input .restore a = input .restore b ↔ intent .restore a = intent .restore b) ↔
      ¬ DifferOnlyInRestorePolicy .restore a b := by
  cases a with
  | mk =>
  cases b with
  | mk =>
    simp only [input, intent, DifferOnlyInRestorePolicy, RestoreSpec.mk.injEq]
    tauto

theorem hash_eq_iff_intent_eq {a b : SpecOf kind} :
    (encoding.hash kind a = encoding.hash kind b ↔ intent kind a = intent kind b) ↔
      ¬ DifferOnlyInRestorePolicy kind a b := by
  rw [encoding.hash_eq_iff]
  by_cases hkind : kind = .restore
  · subst hkind
    exact restore_input_eq_iff
  · have hnot : ¬ DifferOnlyInRestorePolicy kind a b := by
      cases kind <;> first | exact absurd rfl hkind | exact id
    exact iff_of_true (input_eq_iff hkind) hnot

/-- **Fingerprints and intents.**  Equal fingerprints mean equal intents, exactly for the pairs of
specs that are not two Restores differing in their cleanup policy alone. -/
theorem intentHash_eq_iff_intent_eq (kind : Kind) (a b : SpecOf kind) :
    (workflowExecutionIntentHash encoding (.workflow kind a) =
          workflowExecutionIntentHash encoding (.workflow kind b) ↔
        intent kind a = intent kind b) ↔
      ¬ DifferOnlyInRestorePolicy kind a b := by
  simp only [workflowExecutionIntentHash, Except.ok.injEq]
  exact hash_eq_iff_intent_eq encoding

def plain : Encoding ((kind : Kind) × SpecOf kind) ((kind : Kind) × SpecOf kind) where
  marshal kind spec := ⟨kind, spec⟩
  sha256 := id
  marshal_injective _ _ _ h := eq_of_heq (Sigma.mk.inj h).2
  sha256_injective _ _ h := h

/-- A Restore into `data`. -/
def sampleRestore (policy : UnusedStoragePolicy) : RestoreSpec where
  destinationPVC := { name := "data" }
  name := "daily"
  repositoryRef := "repository"
  unusedStoragePolicy := policy

/-- Editing the cleanup policy of a Restore changes its fingerprint. -/
theorem restore_policy_edit_changes_hash :
    intent .restore (sampleRestore .keep) = intent .restore (sampleRestore .delete) ∧
      workflowExecutionIntentHash plain (.workflow .restore (sampleRestore .keep)) ≠
        workflowExecutionIntentHash plain (.workflow .restore (sampleRestore .delete)) := by
  refine ⟨rfl, fun h => ?_⟩
  have hinput := plain.hash_eq_iff.mp (Except.ok.inj h)
  exact absurd (congrArg RestoreSpec.unusedStoragePolicy hinput) (by decide)

/-- **The fence.**  A workflow planned with one spec is reported as changed when it has another one,
exactly if the intents differ; a Restore with another cleanup policy is reported as well. -/
theorem executionIntentMutationError_eq_ok [DecidableEq Digest] {planned current : SpecOf kind} :
    executionIntentMutationError encoding (some (encoding.hash kind planned))
        (.workflow kind current) = .ok () ↔
      intent kind planned = intent kind current ∧
        ¬ DifferOnlyInRestorePolicy kind planned current := by
  have hiff := hash_eq_iff_intent_eq encoding (a := planned) (b := current)
  simp only [executionIntentMutationError, workflowExecutionIntentHash, Check.refuse_eq_ok, not_not]
  by_cases hdiffer : DifferOnlyInRestorePolicy kind planned current
  · have hintent : intent kind planned = intent kind current := by
      cases kind <;> first | exact hdiffer.elim | skip
      show { planned with unusedStoragePolicy := .unset } = _
      rw [hdiffer.2]
      rfl
    have hhash : encoding.hash kind planned ≠ encoding.hash kind current := fun h =>
      hiff.mp (iff_of_true h hintent) hdiffer
    exact iff_of_false hhash fun h => h.2 hdiffer
  · rw [hiff.mpr hdiffer, and_iff_left hdiffer]

end Fingerprint

end PvcMigrate
