import Mathlib.Algebra.Ring.Nat
import Mathlib.Data.List.AList
import Mathlib.Order.Lattice

/-!
# Does a Pod fit on a node?

`resourceFitIssues` (`internal/planner/scheduling.go`) compares the requests of a Pod with what a
node has to give.  `podResourceRequests` adds the regular containers up and takes the maximum with
each init container by itself.

An init container with `restartPolicy: Always` keeps running next to everything that starts after
it.  The scheduler therefore adds these sidecars to the regular containers, and to every ordinary
init container that starts after them (`schedulerRequest`).  `podResourceRequests` treats them like
the other init containers.
-/

namespace PvcMigrate.Planner

/-- `corev1.ResourceList`.  Quantities are not negative. -/
abbrev ResourceList := AList fun _ : String => Nat

/-- The quantity of a resource; one that is not listed is zero. -/
def ResourceList.amount (list : ResourceList) (name : String) : Nat := (list.lookup name).getD 0

/-- The parts of a container that a request is computed from. -/
structure Container where
  requests : ResourceList
  /-- `restartPolicy: Always` of an init container -/
  restartable : Bool := false

/-- The parts of a `corev1.PodSpec` that its request is computed from. -/
structure PodResources where
  containers : List Container
  initContainers : List Container := []
  overhead : ResourceList := ∅

/-- One quantity goes into a list: a new name as it is, a known one combined. -/
def mergeQuantity (combine : Nat → Nat → Nat) (target : ResourceList) (name : String)
    (value : Nat) : ResourceList :=
  match target.lookup name with
  | none => target.insert name value
  | some current => target.insert name (combine current value)

/-- Every quantity of `source` goes into `target`. -/
def mergeResourceList (combine : Nat → Nat → Nat) (target source : ResourceList) : ResourceList :=
  source.entries.foldl (fun target entry => mergeQuantity combine target entry.1 entry.2) target

def addResourceList : ResourceList → ResourceList → ResourceList := mergeResourceList (· + ·)

/-- The loop over the requests of an init container: the larger quantity stays. -/
def raiseResourceList : ResourceList → ResourceList → ResourceList :=
  mergeResourceList fun current request => if request > current then request else current

variable (spec : PodResources)

def podResourceRequests : ResourceList :=
  let requests := spec.containers.foldl (fun list c => addResourceList list c.requests) ∅
  let requests := spec.initContainers.foldl
    (fun list c => raiseResourceList list c.requests) requests
  addResourceList requests spec.overhead

/-- An issue of `resourceFitIssues`. -/
structure FitIssue where
  name : String
  request : Nat
  allocatable : Nat
  deriving DecidableEq

def FitIssue.message (issue : FitIssue) : String :=
  s!"Pod resource request {issue.name}={issue.request} exceeds node allocatable " ++
    s!"{issue.name}={issue.allocatable}"

/-- `resourceFitIssues`: the issues, and whether every resource is known to the node. -/
def resourceFitIssues (allocatable : ResourceList) : List FitIssue × Bool :=
  let requests := (podResourceRequests spec).entries
  if requests = [] then ([], true)
  else if allocatable.entries = [] then ([], false)
  else
    let issues := requests.filterMap fun entry =>
      (allocatable.lookup entry.1).bind fun available =>
        if entry.2 > available then some ⟨entry.1, entry.2, available⟩ else none
    (issues.mergeSort fun i j => i.message ≤ j.message,
      requests.all fun entry => (allocatable.lookup entry.1).isSome)

/-! ## The amounts -/

section Amount

variable {combine : Nat → Nat → Nat} {name : String}

theorem amount_mergeQuantity (hfirst : ∀ v, combine 0 v = v) (target : ResourceList)
    (key : String) (value : Nat) :
    (mergeQuantity combine target key value).amount name =
      if name = key then combine (target.amount name) value else target.amount name := by
  by_cases hkey : name = key
  · subst hkey
    cases hlookup : target.lookup name <;>
      simp [mergeQuantity, ResourceList.amount, hlookup, AList.lookup_insert, hfirst]
  · cases hlookup : target.lookup key <;>
      simp [mergeQuantity, ResourceList.amount, hlookup, hkey, AList.lookup_insert_ne]

theorem amount_mergeResourceList (hfirst : ∀ v, combine 0 v = v) (hzero : ∀ c, combine c 0 = c)
    (target source : ResourceList) :
    (mergeResourceList combine target source).amount name =
      combine (target.amount name) (source.amount name) := by
  obtain ⟨entries, hnodup⟩ := source
  simp only [mergeResourceList]
  suffices h : ∀ target : ResourceList,
      (entries.foldl (fun target entry => mergeQuantity combine target entry.1 entry.2)
        target).amount name = combine (target.amount name) ((entries.dlookup name).getD 0) from
    h target
  -- every name is met at most once, by the invariant of the list
  induction entries with
  | nil =>
    intro target
    simp [hzero]
  | cons entry entries ih =>
    intro target
    obtain ⟨hfresh, hrest⟩ := List.nodupKeys_cons.mp hnodup
    rw [List.foldl_cons, ih hrest, amount_mergeQuantity hfirst]
    obtain ⟨key, value⟩ := entry
    by_cases hkey : name = key
    · subst hkey
      rw [List.dlookup_eq_none.mpr hfresh, List.dlookup_cons_eq]
      simp [hzero]
    · have hskip : List.dlookup name (⟨key, value⟩ :: entries) = entries.dlookup name :=
        List.dlookup_cons_ne entries _ hkey
      rw [if_neg hkey, hskip]

theorem amount_addResourceList (target source : ResourceList) :
    (addResourceList target source).amount name = target.amount name + source.amount name :=
  amount_mergeResourceList Nat.zero_add Nat.add_zero target source

theorem amount_raiseResourceList (target source : ResourceList) :
    (raiseResourceList target source).amount name =
      max (target.amount name) (source.amount name) := by
  rw [raiseResourceList, amount_mergeResourceList (by simp) (by simp)]
  split <;> omega

variable (name) (containers : List Container)

def total : Nat :=
  (containers.map fun c => c.requests.amount name).sum

def largest : Nat :=
  (containers.map fun c => c.requests.amount name).foldr max 0

variable {name}

theorem amount_foldl_add (list : ResourceList) :
    (containers.foldl (fun list c => addResourceList list c.requests) list).amount name =
      list.amount name + total name containers := by
  induction containers generalizing list with
  | nil => simp [total]
  | cons c containers ih =>
    rw [List.foldl_cons, ih, amount_addResourceList]
    simp only [total, List.map_cons, List.sum_cons]
    omega

theorem amount_foldl_raise (list : ResourceList) :
    (containers.foldl (fun list c => raiseResourceList list c.requests) list).amount name =
      max (list.amount name) (largest name containers) := by
  induction containers generalizing list with
  | nil => simp [largest]
  | cons c containers ih =>
    rw [List.foldl_cons, ih, amount_raiseResourceList]
    simp only [largest, List.map_cons, List.foldr_cons]
    omega

theorem amount_podResourceRequests (spec : PodResources) :
    (podResourceRequests spec).amount name =
      max (total name spec.containers) (largest name spec.initContainers) +
        spec.overhead.amount name := by
  have hempty : (∅ : ResourceList).amount name = 0 := rfl
  simp only [podResourceRequests, amount_addResourceList, amount_foldl_raise, amount_foldl_add,
    hempty, Nat.zero_add]

end Amount

/-! ## What the scheduler asks for -/

variable (name : String)

/-- The requests of the sidecars among init containers. -/
def sidecars (containers : List Container) : Nat :=
  total name (containers.filter Container.restartable)

/-- The largest request while an ordinary init container runs, next to the sidecars that are
running by then. -/
def initPeak (name : String) : Nat → List Container → Nat
  | _, [] => 0
  | running, c :: containers =>
    if c.restartable then initPeak name (running + c.requests.amount name) containers
    else max (running + c.requests.amount name) (initPeak name running containers)

def schedulerRequest : Nat :=
  max (total name spec.containers + sidecars name spec.initContainers)
      (initPeak name 0 spec.initContainers) +
    spec.overhead.amount name

/-- Every ordinary init container, with the sidecars before it, stays within `bound`. -/
def InitWithin (containers : List Container) (bound : Nat) : Prop :=
  ∀ before c after, containers = before ++ c :: after → c.restartable = false →
    sidecars name before + c.requests.amount name ≤ bound

section Scheduler

variable {name : String}

theorem sidecars_cons (c : Container) (containers : List Container) :
    sidecars name (c :: containers) =
      (if c.restartable then c.requests.amount name else 0) + sidecars name containers := by
  cases h : c.restartable <;> simp [sidecars, total, h]

theorem sidecars_append (before after : List Container) :
    sidecars name (before ++ after) = sidecars name before + sidecars name after := by
  simp [sidecars, total]

variable {containers : List Container}

/-- The peak over a list is the maximum over its ordinary containers. -/
theorem initPeak_le_iff {running bound : Nat} :
    initPeak name running containers ≤ bound ↔
      ∀ before c after, containers = before ++ c :: after → c.restartable = false →
        running + sidecars name before + c.requests.amount name ≤ bound := by
  induction containers generalizing running with
  | nil => simp [initPeak]
  | cons head containers ih =>
    -- the first container of a split is the head, or the split goes on behind it
    have hsplit : (∀ before c after, head :: containers = before ++ c :: after →
        c.restartable = false → running + sidecars name before + c.requests.amount name ≤ bound) ↔
        (head.restartable = false → running + head.requests.amount name ≤ bound) ∧
        ∀ before c after, containers = before ++ c :: after → c.restartable = false →
          running + sidecars name (head :: before) + c.requests.amount name ≤ bound := by
      constructor
      · intro h
        refine ⟨fun hordinary => by
          simpa [sidecars, total] using h [] head containers rfl hordinary, ?_⟩
        intro before c after heq
        exact h (head :: before) c after (by rw [heq, List.cons_append])
      · rintro ⟨hhead, htail⟩ before c after heq hordinary
        rcases List.cons_eq_append_iff.mp heq with ⟨rfl, hcons⟩ | ⟨rest, rfl, hrest⟩
        · obtain ⟨rfl, -⟩ := List.cons.inj hcons
          simpa [sidecars, total] using hhead hordinary
        · exact htail rest c after hrest hordinary
    rw [hsplit]
    cases hhead : head.restartable with
    | true =>
      simp only [initPeak, hhead, if_true, ih, sidecars_cons, Bool.true_eq_false, false_imp_iff,
        true_and, Nat.add_assoc]
    | false =>
      simp only [initPeak, hhead, Bool.false_eq_true, if_false, Nat.max_le, ih, sidecars_cons,
        Nat.zero_add, true_imp_iff]

theorem initPeak_zero_le_iff {bound : Nat} :
    initPeak name 0 containers ≤ bound ↔ InitWithin name containers bound := by
  simp [initPeak_le_iff, InitWithin]

theorem amount_le_largest {c : Container} (h : c ∈ containers) :
    c.requests.amount name ≤ largest name containers := by
  induction h with
  | head => simp [largest]
  | tail d _ ih =>
    simp only [largest, List.map_cons, List.foldr_cons] at ih ⊢
    omega

/-- Without requests of sidecars every ordinary init container stays within the largest request. -/
theorem initWithin_largest (h : sidecars name containers = 0) :
    InitWithin name containers (largest name containers) := by
  rintro before c after rfl -
  rw [sidecars_append] at h
  have hc : c.requests.amount name ≤ largest name (before ++ c :: after) :=
    amount_le_largest (List.mem_append_right before List.mem_cons_self)
  omega

end Scheduler

/-! ## When the code asks for enough -/

/-- The sidecars do not count: none requests the resource, or a single init container asks for as
much as all containers that run next to each other at any time. -/
def SidecarsCovered : Prop :=
  sidecars name spec.initContainers = 0 ∨
    total name spec.containers + sidecars name spec.initContainers ≤
        largest name spec.initContainers ∧
      InitWithin name spec.initContainers (largest name spec.initContainers)

theorem schedulerRequest_le_iff {spec : PodResources} {name : String} :
    schedulerRequest spec name ≤ (podResourceRequests spec).amount name ↔
      SidecarsCovered spec name := by
  rw [amount_podResourceRequests, schedulerRequest, Nat.add_le_add_iff_right, Nat.max_le,
    initPeak_zero_le_iff, SidecarsCovered]
  by_cases hnone : sidecars name spec.initContainers = 0
  · refine iff_of_true ⟨?_, ?_⟩ (.inl hnone)
    · rw [hnone]
      omega
    · intro before c after hsplit hordinary
      exact le_trans (initWithin_largest hnone before c after hsplit hordinary) (le_max_right _ _)
  · constructor
    · rintro ⟨htotal, hinit⟩
      have hlarge : total name spec.containers + sidecars name spec.initContainers ≤
          largest name spec.initContainers := by
        omega
      rw [Nat.max_eq_right (by omega)] at hinit
      exact .inr ⟨hlarge, hinit⟩
    · rintro (h | ⟨hlarge, hinit⟩)
      · exact absurd h hnone
      · rw [Nat.max_eq_right (by omega)]
        exact ⟨hlarge, hinit⟩

theorem amount_le_of_no_issue {spec : PodResources} {allocatable : ResourceList}
    (h : (resourceFitIssues spec allocatable).1 = []) {name : String} {available : Nat}
    (hlisted : allocatable.lookup name = some available) :
    (podResourceRequests spec).amount name ≤ available := by
  cases hlookup : (podResourceRequests spec).lookup name with
  | none => simp [ResourceList.amount, hlookup]
  | some request =>
    have hentry : (⟨name, request⟩ : (_ : String) × Nat) ∈ (podResourceRequests spec).entries :=
      AList.mem_lookup_iff.mp hlookup
    have havailable : (⟨name, available⟩ : (_ : String) × Nat) ∈ allocatable.entries :=
      AList.mem_lookup_iff.mp hlisted
    simp only [resourceFitIssues, if_neg (List.ne_nil_of_mem hentry),
      if_neg (List.ne_nil_of_mem havailable)] at h
    have hnone := List.nil_perm.mp (h ▸ List.mergeSort_perm _ _)
    have hfits := List.filterMap_eq_nil_iff.mp hnone _ hentry
    by_contra hover
    have hexceeds : request > available := by
      simpa [ResourceList.amount, hlookup] using hover
    simp [hlisted, hexceeds] at hfits

/-- **What the code computes is at least what the scheduler asks for, and a node without issues
has room for it, exactly when the sidecars do not count.** -/
theorem requests_suffice_iff :
    ((∀ name, schedulerRequest spec name ≤ (podResourceRequests spec).amount name) ∧
      ∀ allocatable : ResourceList, (resourceFitIssues spec allocatable).1 = [] →
        ∀ name available, allocatable.lookup name = some available →
          schedulerRequest spec name ≤ available) ↔
      ∀ name, SidecarsCovered spec name := by
  constructor
  · rintro ⟨h, -⟩ name
    exact schedulerRequest_le_iff.mp (h name)
  · intro h
    have henough := fun name => schedulerRequest_le_iff.mpr (h name)
    refine ⟨henough, ?_⟩
    intro allocatable hnone name available hlisted
    exact le_trans (henough name) (amount_le_of_no_issue hnone hlisted)

def cpu (milli : Nat) : ResourceList := AList.singleton "cpu" milli

/-- A Pod with a sidecar next to its only container. -/
def sidecarPod : PodResources where
  containers := [{ requests := cpu 500 }]
  initContainers := [{ requests := cpu 300, restartable := true }]

/-- A node that is too small for it is accepted. -/
theorem sidecarPod_accepted :
    schedulerRequest sidecarPod "cpu" = 800 ∧
      (podResourceRequests sidecarPod).amount "cpu" = 500 ∧
      resourceFitIssues sidecarPod (cpu 600) = ([], true) := by
  decide +kernel

end PvcMigrate.Planner
