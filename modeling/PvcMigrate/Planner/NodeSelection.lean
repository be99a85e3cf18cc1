import Mathlib.Data.List.Basic
import Mathlib.Tactic.Common

/-!
# Which nodes a Pod or a volume may use

The planner checks the `nodeSelector`, the required node affinity and the tolerations of a Pod
against a node (`internal/planner/scheduling.go`), and `PVSupportsNode` checks the node affinity of
a volume (`internal/kube/reserver.go`).  The two evaluate a node selector with code of their own.

`Requirement.Holds` and `Term.Matches` are the rule of Kubernetes.  Both evaluators follow it on
every requirement.  They differ from it on a term without requirements, which they accept, and the
`nodeSelector` check reads a missing label as the empty string.
-/

namespace PvcMigrate.Planner

/-! ## Types -/

/-- `corev1.NodeSelectorOperator`. -/
inductive Operator
  | opIn
  | opNotIn
  | opExists
  | opDoesNotExist
  | opGt
  | opLt
  | other (name : String)
  deriving DecidableEq

/-- `corev1.NodeSelectorRequirement`. -/
structure Requirement where
  key : String
  operator : Operator
  values : List String := []
  deriving DecidableEq

/-- `corev1.NodeSelectorTerm`. -/
structure Term where
  matchExpressions : List Requirement := []
  matchFields : List Requirement := []
  deriving DecidableEq

/-- `corev1.TaintEffect`. -/
inductive TaintEffect
  | noSchedule
  | preferNoSchedule
  | noExecute
  deriving DecidableEq

/-- `corev1.Taint`. -/
structure Taint where
  key : String
  value : String := ""
  effect : TaintEffect
  deriving DecidableEq

/-- `corev1.Toleration`; `effect` is `none` where it is left empty. -/
structure Toleration where
  key : String := ""
  opExists : Bool := false
  value : String := ""
  effect : Option TaintEffect := none

/-- The parts of a `corev1.Node` that the planner reads.  A stored node has a name. -/
structure Node where
  name : String
  uid : String := ""
  labels : String → Option String := fun _ => none
  taints : List Taint := []
  ready : Bool := true
  unschedulable : Bool := false
  name_ne : name ≠ "" := by decide

/-- The parts of a `corev1.PodSpec` that say where it may run.  The entries of the `nodeSelector`
are listed by key; `nodeAffinity` holds the terms of the required node affinity. -/
structure PodSpec where
  nodeSelector : List (String × String) := []
  nodeAffinity : Option (List Term) := none
  tolerations : List Toleration := []

/-- The value of a label as a Go map yields it. -/
def Node.label (node : Node) (key : String) : String := (node.labels key).getD ""

/-! ## The evaluators -/

def digit (c : Char) : Option Nat :=
  if '0' ≤ c ∧ c ≤ '9' then some (c.toNat - '0'.toNat) else none

/-- The number that digits stand for, after the number `n`. -/
def digits : Nat → List Char → Option Nat
  | n, [] => some n
  | n, c :: cs => (digit c).bind fun d => digits (10 * n + d) cs

/-- `strconv.ParseInt` to base 10 and 64 bits. -/
def parseInt (text : String) : Option Int :=
  let signed : Int × List Char := match text.toList with
    | '+' :: cs => (1, cs)
    | '-' :: cs => (-1, cs)
    | cs => (1, cs)
  if signed.2 = [] then none
  else (digits 0 signed.2).bind fun n =>
    let value : Int := signed.1 * n
    if -9223372036854775808 ≤ value ∧ value ≤ 9223372036854775807 then some value else none

/-- The comparison of the operators `Gt` and `Lt`. -/
def integerMatches (compare : Int → Int → Bool) (actual : String) : List String → Bool
  | [bound] =>
    match parseInt actual, parseInt bound with
    | some left, some right => compare left right
    | _, _ => false
  | _ => false

/-- `selectorRequirementMatches`; `all` is `none` for a field. -/
def selectorRequirementMatches (requirement : Requirement) (actual : String)
    (all : Option (String → Option String)) : Bool :=
  let exists_ := match all with
    | some labels => (labels requirement.key).isSome
    | none => actual ≠ ""
  match requirement.operator with
  | .opIn => exists_ && requirement.values.contains actual
  | .opNotIn => !exists_ || !requirement.values.contains actual
  | .opExists => exists_
  | .opDoesNotExist => !exists_
  | .opGt => integerMatches (· > ·) actual requirement.values
  | .opLt => integerMatches (· < ·) actual requirement.values
  | .other _ => false

variable (term : Term)

def nodeSelectorTermMatches (node : Node) : Bool :=
  term.matchExpressions.all (fun r =>
      selectorRequirementMatches r (node.label r.key) (some node.labels)) &&
    term.matchFields.all fun r =>
      selectorRequirementMatches r (if r.key = "metadata.name" then node.name else "") none

def tolerates (tolerations : List Toleration) (taint : Taint) : Bool :=
  tolerations.any fun t =>
    (t.effect = none || t.effect = some taint.effect) &&
      if t.opExists then t.key = "" || t.key = taint.key
      else t.key = taint.key && t.value = taint.value

def Taint.hard (taint : Taint) : Bool := taint.effect = .noSchedule || taint.effect = .noExecute

/-- The issues of `schedulingIssues`. -/
inductive SchedulingIssue
  /-- "nodeSelector … is unsatisfied" -/
  | nodeSelector (key expected : String)
  /-- "required nodeAffinity is unsatisfied" -/
  | nodeAffinity
  /-- "taint … is untolerated" -/
  | taint (taint : Taint)
  deriving DecidableEq

/-- The required node affinity lets the node in. -/
def affinityMatches (affinity : Option (List Term)) (node : Node) : Bool :=
  match affinity with
  | none => true
  | some terms => terms.any (nodeSelectorTermMatches · node)

def schedulingIssues (spec : PodSpec) (node : Node) : List SchedulingIssue :=
  (spec.nodeSelector.filter fun entry => node.label entry.1 ≠ entry.2).map (fun entry =>
      .nodeSelector entry.1 entry.2) ++
    (if affinityMatches spec.nodeAffinity node then [] else [.nodeAffinity]) ++
    (node.taints.filter fun taint => taint.hard && !tolerates spec.tolerations taint).map .taint

def nodeRequirementMatches (requirement : Requirement) (actual : String) (exists_ : Bool) : Bool :=
  match requirement.operator with
  | .opIn => exists_ && requirement.values.contains actual
  | .opNotIn => !exists_ || !requirement.values.contains actual
  | .opExists => exists_
  | .opDoesNotExist => !exists_
  | .opGt => exists_ && integerMatches (· > ·) actual requirement.values
  | .opLt => exists_ && integerMatches (· < ·) actual requirement.values
  | .other _ => false

def nodeFieldValue (node : Node) (key : String) : String × Bool :=
  if key = "metadata.name" then (node.name, node.name ≠ "")
  else if key = "metadata.uid" then (node.uid, node.uid ≠ "")
  else ("", false)

def hostnameLabel : String := "kubernetes.io/hostname"

/-- The body of the loop of `PVSupportsNode`. -/
def pvTermMatches (node : Node) : Bool :=
  term.matchExpressions.all (fun r =>
      if (node.labels r.key).isNone && r.key = hostnameLabel && node.name ≠ "" then
        nodeRequirementMatches r node.name true
      else nodeRequirementMatches r (node.label r.key) (node.labels r.key).isSome) &&
    term.matchFields.all fun r =>
      nodeRequirementMatches r (nodeFieldValue node r.key).1 (nodeFieldValue node r.key).2

/-- `PVSupportsNode`, of the terms of the required node affinity of a volume. -/
def pvSupportsNode (affinity : Option (List Term)) (node : Node) : Bool :=
  match affinity with
  | none => true
  | some terms => terms = [] || terms.any (pvTermMatches · node)

/-! ## The rule -/

/-- A requirement on a value that may be missing. -/
def Requirement.Holds (r : Requirement) (value : Option String) : Prop :=
  match r.operator with
  | .opIn => ∃ v, value = some v ∧ v ∈ r.values
  | .opNotIn => ∀ v, value = some v → v ∉ r.values
  | .opExists => value ≠ none
  | .opDoesNotExist => value = none
  | .opGt => ∃ v, value = some v ∧ integerMatches (· > ·) v r.values = true
  | .opLt => ∃ v, value = some v ∧ integerMatches (· < ·) v r.values = true
  | .other _ => False

/-- All requirements of a term hold; fields are those of the name. -/
def Term.Holds (node : Node) : Prop :=
  (∀ r ∈ term.matchExpressions, r.Holds (node.labels r.key)) ∧
    ∀ r ∈ term.matchFields, r.Holds (if r.key = "metadata.name" then some node.name else none)

/-- A term matches only if it has requirements, and all of them hold. -/
def Term.Matches (node : Node) : Prop := term ≠ {} ∧ term.Holds node

/-- The `nodeSelector` and the required node affinity of a Pod let the node in. -/
structure Selects (spec : PodSpec) (node : Node) : Prop where
  labels : ∀ entry ∈ spec.nodeSelector, node.labels entry.1 = some entry.2
  affinity : ∀ terms, spec.nodeAffinity = some terms → ∃ term ∈ terms, term.Matches node

section Evaluators

variable {r : Requirement} {node : Node} {term : Term}

theorem nodeRequirementMatches_iff {actual : String} {exists_ : Bool} :
    nodeRequirementMatches r actual exists_ = true ↔
      r.Holds (if exists_ then some actual else none) := by
  unfold nodeRequirementMatches Requirement.Holds
  cases exists_ <;> cases r.operator <;> simp

/-- A value that is missing does not parse, so the comparisons need not ask for it. -/
theorem integerMatches_empty (compare : Int → Int → Bool) (values : List String) :
    integerMatches compare "" values = false := by
  have hparse : parseInt "" = none := by decide
  unfold integerMatches
  split <;> simp [hparse]

theorem selectorRequirementMatches_iff {actual : String} {all : Option (String → Option String)}
    {value : Option String} (hactual : actual = value.getD "") (hexists : (match all with
      | some labels => (labels r.key).isSome
      | none => decide (actual ≠ "")) = value.isSome) :
    selectorRequirementMatches r actual all = true ↔ r.Holds value := by
  subst hactual
  simp only [selectorRequirementMatches, hexists, Requirement.Holds]
  cases value <;> cases r.operator <;> simp [integerMatches_empty]

theorem nodeSelectorTermMatches_iff : nodeSelectorTermMatches term node = true ↔
    term.Holds node := by
  simp only [nodeSelectorTermMatches, Bool.and_eq_true, List.all_eq_true, Term.Holds]
  apply and_congr
  · apply forall₂_congr
    intro r _
    exact selectorRequirementMatches_iff rfl rfl
  · apply forall₂_congr
    intro r _
    apply selectorRequirementMatches_iff
    · split <;> rfl
    · by_cases hkey : r.key = "metadata.name" <;> simp [hkey, node.name_ne]

/-- So does the one of the volumes, on a node with a hostname label. -/
theorem pvTermMatches_iff (hhost : (node.labels hostnameLabel).isSome)
    (hfields : ∀ r ∈ term.matchFields, r.key = "metadata.name") :
    pvTermMatches term node = true ↔ term.Holds node := by
  simp only [pvTermMatches, Bool.and_eq_true, List.all_eq_true, Term.Holds]
  apply and_congr
  · apply forall₂_congr
    intro r _
    rw [if_neg, nodeRequirementMatches_iff, Node.label]
    · cases node.labels r.key <;> simp
    · by_cases hkey : r.key = hostnameLabel
      · simp [hkey, Option.isSome_iff_ne_none.mp hhost]
      · simp [hkey]
  · apply forall₂_congr
    intro r hr
    rw [nodeRequirementMatches_iff]
    simp [nodeFieldValue, hfields r hr, node.name_ne]

end Evaluators

/-! ## Where the rule is missed -/

/-- A list of terms in which an empty one stands, and none matches. -/
def MisledTerms (terms : List Term) (node : Node) : Prop :=
  {} ∈ terms ∧ ∀ term ∈ terms, ¬ term.Matches node

/-- An entry with an empty value, on a node without the label. -/
def BlankEntry (node : Node) (entry : String × String) : Prop :=
  node.labels entry.1 = none ∧ entry.2 = ""

/-- A Pod whose constraints the node meets, except for entries with an empty value whose label is
missing, or for a node affinity with an empty term. -/
structure Misled (spec : PodSpec) (node : Node) : Prop where
  labels : ∀ entry ∈ spec.nodeSelector,
    node.labels entry.1 = some entry.2 ∨ BlankEntry node entry
  affinity : ∀ terms, spec.nodeAffinity = some terms →
    {} ∈ terms ∨ ∃ term ∈ terms, term.Matches node
  missed : (∃ entry ∈ spec.nodeSelector, BlankEntry node entry) ∨
    ∃ terms, spec.nodeAffinity = some terms ∧ MisledTerms terms node

section Rule

variable {spec : PodSpec} {node : Node} {terms : List Term}

theorem Term.holds_iff {term : Term} : term.Holds node ↔ term = {} ∨ term.Matches node := by
  by_cases hempty : term = {}
  · subst hempty
    simp [Term.Holds]
  · simp [Term.Matches, hempty]

/-- An evaluator that asks that all requirements hold accepts an empty term as well. -/
theorem any_holds_iff : (∃ term ∈ terms, term.Holds node) ↔
    {} ∈ terms ∨ ∃ term ∈ terms, term.Matches node := by
  simp only [Term.holds_iff, and_or_left, exists_or, exists_eq_right]

theorem any_holds_iff_matches : ((∃ term ∈ terms, term.Holds node) ↔
    ∃ term ∈ terms, term.Matches node) ↔ ¬ MisledTerms terms node := by
  rw [any_holds_iff, or_iff_right_iff_imp, MisledTerms]
  push Not
  rfl

theorem affinityMatches_iff {affinity : Option (List Term)} :
    affinityMatches affinity node = true ↔
      ∀ terms, affinity = some terms → ∃ term ∈ terms, term.Holds node := by
  cases affinity <;> simp [affinityMatches, nodeSelectorTermMatches_iff]

theorem pvSupportsNode_iff (hterms : terms ≠ []) (hhost : (node.labels hostnameLabel).isSome)
    (hfields : ∀ term ∈ terms, ∀ r ∈ term.matchFields, r.key = "metadata.name") :
    pvSupportsNode (some terms) node = true ↔ ∃ term ∈ terms, term.Holds node := by
  simp only [pvSupportsNode, hterms, decide_false, Bool.false_or, List.any_eq_true]
  apply exists_congr
  intro term
  apply and_congr_right
  intro hterm
  exact pvTermMatches_iff hhost (hfields term hterm)

/-- A Go map yields the expected value for the label itself and, if it is empty, for none. -/
theorem label_eq_iff {entry : String × String} :
    node.label entry.1 = entry.2 ↔ node.labels entry.1 = some entry.2 ∨ BlankEntry node entry := by
  unfold Node.label BlankEntry
  cases node.labels entry.1 with
  | none => simp only [Option.getD_none, reduceCtorEq, false_or, true_and, eq_comm]
  | some value => simp

/-- The issues about labels and affinity are absent. -/
def NoSelectionIssue (spec : PodSpec) (node : Node) : Prop :=
  ∀ issue ∈ schedulingIssues spec node, ∃ taint, issue = .taint taint

theorem noSelectionIssue_iff : NoSelectionIssue spec node ↔
    (∀ entry ∈ spec.nodeSelector,
      node.labels entry.1 = some entry.2 ∨ BlankEntry node entry) ∧
    ∀ terms, spec.nodeAffinity = some terms → ∃ term ∈ terms, term.Holds node := by
  rw [← affinityMatches_iff]
  simp only [← label_eq_iff]
  simp only [NoSelectionIssue, schedulingIssues, List.forall_mem_append, List.forall_mem_map]
  by_cases haffinity : affinityMatches spec.nodeAffinity node = true <;> simp [haffinity]

/-- A Pod without a selection issue is selected, unless its check was misled. -/
theorem noSelectionIssue_iff_selects :
    (NoSelectionIssue spec node ↔ Selects spec node) ↔ ¬ Misled spec node := by
  have hsound : Selects spec node → NoSelectionIssue spec node := by
    intro hselects
    rw [noSelectionIssue_iff]
    constructor
    · intro entry hentry
      exact Or.inl (hselects.labels entry hentry)
    · intro terms hterms
      exact any_holds_iff.mpr (Or.inr (hselects.affinity terms hterms))
  constructor
  · intro hiff hmisled
    have hissue : NoSelectionIssue spec node := by
      rw [noSelectionIssue_iff]
      exact ⟨hmisled.labels, fun terms hterms => any_holds_iff.mpr (hmisled.affinity terms hterms)⟩
    have hselects := hiff.mp hissue
    rcases hmisled.missed with ⟨entry, hentry, hnone, -⟩ | ⟨terms, hterms, -, hno⟩
    · simp [hselects.labels entry hentry] at hnone
    · obtain ⟨term, hterm, hmatches⟩ := hselects.affinity terms hterms
      exact hno term hterm hmatches
  · intro hmisled
    refine ⟨fun hissue => ?_, hsound⟩
    rw [noSelectionIssue_iff] at hissue
    have haffinity : ∀ terms, spec.nodeAffinity = some terms →
        {} ∈ terms ∨ ∃ term ∈ terms, term.Matches node := by
      intro terms hterms
      exact any_holds_iff.mp (hissue.2 terms hterms)
    have hmissed := fun missed => hmisled ⟨hissue.1, haffinity, missed⟩
    constructor
    · intro entry hentry
      apply (hissue.1 entry hentry).resolve_right
      intro hblank
      exact hmissed (Or.inl ⟨entry, hentry, hblank⟩)
    · intro terms hterms
      by_contra hnone
      have hempty := (haffinity terms hterms).resolve_right hnone
      push Not at hnone
      exact hmissed (Or.inr ⟨terms, hterms, hempty, hnone⟩)

/-- The planner's check of a Pod follows the rule unless it is misled, the check of a volume unless
its terms mislead it, and the two evaluators agree on every list of terms. -/
theorem node_selection_iff (spec : PodSpec) (node : Node) (terms : List Term) (hterms : terms ≠ [])
    (hhost : (node.labels hostnameLabel).isSome)
    (hfields : ∀ term ∈ terms, ∀ r ∈ term.matchFields, r.key = "metadata.name") :
    ((NoSelectionIssue spec node ↔ Selects spec node) ∧
      (pvSupportsNode (some terms) node = true ↔ ∃ term ∈ terms, term.Matches node) ∧
      affinityMatches (some terms) node = pvSupportsNode (some terms) node) ↔
    ¬ Misled spec node ∧ ¬ MisledTerms terms node := by
  have hpv := pvSupportsNode_iff hterms hhost hfields
  have hagree : affinityMatches (some terms) node = pvSupportsNode (some terms) node := by
    rw [Bool.eq_iff_iff, hpv, affinityMatches_iff]
    simp
  rw [noSelectionIssue_iff_selects, hpv, any_holds_iff_matches, and_iff_left hagree]

end Rule

/-- A node with its hostname label and no other. -/
def plainNode : Node where
  name := "node-a"
  labels key := if key = hostnameLabel then some "node-a" else none

/-- A disk, or the node by its label and its name. -/
def hostTerms : List Term :=
  [{ matchExpressions := [⟨"disk", .opExists, []⟩] },
    { matchExpressions := [⟨hostnameLabel, .opIn, ["node-a"]⟩]
      matchFields := [⟨"metadata.name", .opIn, ["node-a"]⟩] }]

/-- The Pod that asks for a label by its value, and for one of the terms. -/
def hostSpec : PodSpec where
  nodeSelector := [(hostnameLabel, "node-a")]
  nodeAffinity := some hostTerms

theorem node_selection_host :
    (NoSelectionIssue hostSpec plainNode ↔ Selects hostSpec plainNode) ∧
      (pvSupportsNode (some hostTerms) plainNode = true ↔
        ∃ term ∈ hostTerms, term.Matches plainNode) ∧
      affinityMatches (some hostTerms) plainNode = pvSupportsNode (some hostTerms) plainNode := by
  have hnonempty : {} ∉ hostTerms := by decide
  apply (node_selection_iff hostSpec plainNode _ (by decide) rfl (by decide)).mpr
  refine ⟨fun hmisled => ?_, fun hmisled => hnonempty hmisled.1⟩
  rcases hmisled.missed with ⟨entry, hentry, -, hblank⟩ | ⟨terms, hterms, hempty, -⟩
  · obtain rfl : entry = (hostnameLabel, "node-a") := by simpa [hostSpec] using hentry
    simp at hblank
  · cases hterms
    exact hnonempty hempty

/-- The Pod that asks for an empty value of a label, and for an empty term. -/
def blankSpec : PodSpec where
  nodeSelector := [("disk", "")]
  nodeAffinity := some [{}]

/-- Neither check finds anything against a node that has no such label. -/
theorem blankSpec_accepted :
    schedulingIssues blankSpec plainNode = [] ∧ ¬ Selects blankSpec plainNode ∧
      pvSupportsNode blankSpec.nodeAffinity plainNode = true ∧
      ¬ ∃ term ∈ [({} : Term)], term.Matches plainNode := by
  refine ⟨by decide, fun hselects => ?_, by decide, by simp [Term.Matches]⟩
  have hlabel := hselects.labels ("disk", "") (by decide)
  exact absurd hlabel (by decide)

end PvcMigrate.Planner
