import PvcMigrate.Workflow.Status

/-!
# Planning outcomes and the bounded planning retry

The controller's own status writers (`internal/controller/workflow_execution.go`):
`recordPlanningOutcome` after a planning attempt and `recordPlanningFailureForMutation` when
an admitted spec was edited, together with the retry schedule `evaluatePlanningRetry` and the
gate `planningFailureGate` a reconcile pass consults for a failed workflow.
-/

namespace PvcMigrate

/-! ## Writers -/

/-- The condition `recordPlanningOutcome` writes. -/
def plannedCondition (cause : Option Error) (now : Time) : WorkflowCondition :=
  match cause with
  | none =>
    { type := "Planned", status := .isTrue, reason := "DiscoverySucceeded"
      message := "Resource identities and execution plan resolved", lastTransitionTime := now }
  | some e =>
    { type := "Planned", status := .isFalse, reason := "DiscoveryFailed"
      message := boundWorkflowMessage e.error, lastTransitionTime := now }

variable (status : WorkflowStatus)

def recordPlanningOutcome (generation : Int) (cause : Option Error) (now : Time) : WorkflowStatus :=
  let condition := plannedCondition cause now
  setWorkflowCondition
    { status with
      startedAt := if status.observedGeneration ≠ generation ∨ status.startedAt.isZero then now
        else status.startedAt
      updatedAt := now
      phase := if cause.isSome then .failed else .planned
      observedGeneration := generation
      resumeFrom := if cause.isSome then .planned else .unset
      errorCategory := cause.map Error.category
      message := condition.message }
    condition

/-- `recordPlanningFailureForMutation`: the failure of a workflow whose admitted spec was
edited.  A resume checkpoint is stored only where none is present. -/
def recordPlanningFailureForMutation (generation : Int)
    (cause : Error) (now : Time) : WorkflowStatus :=
  setWorkflowCondition
    { status with
      updatedAt := now
      startedAt := if status.startedAt.isZero then now else status.startedAt
      resumeFrom := if status.resumeFrom = .unset ∧ status.phase ≠ .unset ∧
          status.phase ≠ .failed then status.phase else status.resumeFrom
      phase := .failed
      observedGeneration := generation
      errorCategory := some cause.category
      message := boundWorkflowMessage cause.error }
    { type := "SpecMutated", status := .isTrue, reason := "ExecutionIntentChanged"
      message := cause.error, lastTransitionTime := now }

/-- `changedWorkflowDefinitionError`, the cause of every mutation failure. -/
def changedWorkflowDefinitionError : Error :=
  ⟨.conflict, "controller reconcile",
    "workflow spec changed after execution started; create a new workflow instead"⟩

/-! ## The retry schedule -/

def planningRetryWindow : Duration := minutes 10

def planningRetryFloor : Duration := seconds 15

def planningRetryCap : Duration := minutes 2

def planningRetriesExhaustedReason : String := "DiscoveryRetriesExhausted"

structure PlanningRetryDecision where
  retryable : Bool := false
  expired : Bool := false
  due : Bool := false
  delay : Duration := 0
  deriving DecidableEq, Repr

/-- The categories a planning failure may clear from on its own. -/
def retryableCategory (category : Option ErrorCategory) : Bool :=
  category = some .precondition || category = some .kubernetes

/-- The wait between two attempts at the given age: a quarter of it, floored, capped and
clipped to what is left of the window.  Go's `/` truncates; ages are not negative. -/
def planningRetryInterval (age : Duration) : Duration :=
  let interval := min (max (age / 4) planningRetryFloor) planningRetryCap
  if interval > planningRetryWindow - age then planningRetryWindow - age else interval

variable (now : Time)

def evaluatePlanningRetry : PlanningRetryDecision :=
  if status.phase ≠ .failed ∨ status.resumeFrom ≠ .planned ∨ status.startedAt.isZero then {}
  else if retryableCategory status.errorCategory then
    let age := max (now.sub status.startedAt) 0
    if age ≥ planningRetryWindow then { retryable := true, expired := true }
    else
      let interval := planningRetryInterval age
      let sinceAttempt := max (now.sub status.updatedAt) 0
      if sinceAttempt ≥ interval then { retryable := true, due := true }
      else { retryable := true, delay := interval - sinceAttempt }
  else {}

theorem evaluatePlanningRetry_cases : evaluatePlanningRetry status now = {} ∨
      evaluatePlanningRetry status now = { retryable := true, expired := true } ∨
      evaluatePlanningRetry status now = { retryable := true, due := true } ∨
      ∃ delay, evaluatePlanningRetry status now = { retryable := true, delay := delay } := by
  simp only [evaluatePlanningRetry]
  repeat' split
  · exact .inl rfl
  · exact .inr (.inl rfl)
  · exact .inr (.inr (.inl rfl))
  · exact .inr (.inr (.inr ⟨_, rfl⟩))
  · exact .inl rfl

def retryCorrectedPlanning (phase resumeFrom : WorkflowPhase)
    (observedGeneration generation : Int) : Bool :=
  phase = .failed && resumeFrom = .planned && generation > observedGeneration

def requeuePlanningFailureDelay : Option Duration :=
  let decision := evaluatePlanningRetry status now
  if decision.retryable && !decision.expired && !decision.due then some decision.delay else none

/-- The conditions after the terminal marker: the first `Planned` condition is rewritten. -/
def markConditionsExhausted (terminal : String) (now : Time) :
    List WorkflowCondition → List WorkflowCondition
  | [] => []
  | c :: cs =>
    if c.type = "Planned" then
      { c with status := .isFalse, reason := planningRetriesExhaustedReason
               message := terminal, lastTransitionTime := now } :: cs
    else c :: markConditionsExhausted terminal now cs

/-- `markPlanningRetriesExhausted`, up to the save: `none` when the marker is there already. -/
def markPlanningRetriesExhausted : Option WorkflowStatus :=
  if status.conditions.any
      (fun c => c.type = "Planned" && c.reason = planningRetriesExhaustedReason) then none
  else
    let terminal := boundWorkflowMessage
      (status.message ++ "; planning retry window elapsed without success")
    some { status with
      updatedAt := now
      message := terminal
      conditions := markConditionsExhausted terminal now status.conditions }

end PvcMigrate
