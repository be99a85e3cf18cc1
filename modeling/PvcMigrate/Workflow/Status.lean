import Mathlib.Algebra.Ring.Int.Defs
import Mathlib.Data.List.Basic
import Mathlib.Tactic.Common

/-!
# The durable workflow status

Every workflow kind of the controller (Migration, PodMigration, Backup, Rename, …)
embeds one `WorkflowStatus`: the phase, the checkpoint a failed workflow resumes from,
a bounded history and a bounded condition list.  This file holds that record and the
writers of `internal/domain`: `recordWorkflowTransition`, `reactivateWorkflow`,
`transitionRepository` and `setWorkflowCondition`.

Two conventions are used throughout.  A `time.Time` is a number of nanoseconds since Go's
zero time, so `0` is the zero value that `IsZero` recognises.  A phase or category that the
Go code leaves empty is a constructor (`WorkflowPhase.unset`) or `none`.
-/

namespace PvcMigrate

/-! ## Time -/

/-- `time.Time`, in nanoseconds since the zero time. -/
abbrev Time := Int

/-- `time.Duration`, in nanoseconds. -/
abbrev Duration := Int

namespace Time

/-- `Time.IsZero`. -/
def isZero (t : Time) : Bool := t == 0

/-- `Time.Sub` saturates at the bounds of an `int64`. -/
def sub (t u : Time) : Duration := max (-(2 ^ 63)) (min (2 ^ 63 - 1) (t - u))

end Time

/-- A number of seconds as a `time.Duration`. -/
def seconds (n : Int) : Duration := n * 1000000000

/-- A number of minutes as a `time.Duration`. -/
def minutes (n : Int) : Duration := seconds (n * 60)

/-! ## Errors -/

/-- `domain.ErrorCategory`. -/
inductive ErrorCategory
  | validation
  | precondition
  | conflict
  | kubernetes
  | copy
  | timeout
  | internal
  deriving DecidableEq, Repr

/-- `domain.Error`: an operation error with a stable category.  The wrapped cause only
serves logs, so it is left out. -/
structure Error where
  category : ErrorCategory
  op : String
  message : String
  deriving DecidableEq, Repr

/-- `(*Error).Error`. -/
def Error.error (e : Error) : String :=
  if e.op = "" then e.message else e.op ++ ": " ++ e.message

/-! ## Phases -/

/-- `v1alpha1.WorkflowPhase`; `unset` is the empty string of a fresh object. -/
inductive WorkflowPhase
  | unset
  | planned
  | reserving
  | reserved
  | warmCopying
  | warmCopied
  | pausing
  | paused
  | finalSyncing
  | finalSynced
  | activating
  | activated
  | resuming
  | completed
  | aborting
  | aborted
  | rollingBack
  | rolledBack
  | renaming
  | moving
  | failed
  deriving DecidableEq, Repr, Inhabited

def WorkflowPhase.text : WorkflowPhase → String
  | .unset => ""
  | .planned => "Planned"
  | .reserving => "Reserving"
  | .reserved => "Reserved"
  | .warmCopying => "WarmCopying"
  | .warmCopied => "WarmCopied"
  | .pausing => "Pausing"
  | .paused => "Paused"
  | .finalSyncing => "FinalSyncing"
  | .finalSynced => "FinalSynced"
  | .activating => "Activating"
  | .activated => "Activated"
  | .resuming => "Resuming"
  | .completed => "Completed"
  | .aborting => "Aborting"
  | .aborted => "Aborted"
  | .rollingBack => "RollingBack"
  | .rolledBack => "RolledBack"
  | .renaming => "Renaming"
  | .moving => "Moving"
  | .failed => "Failed"

/-! ## Bounded texts -/

/-- The longest run of leading characters whose UTF-8 encoding fits into `n` bytes. -/
def takeBytes : List Char → Nat → List Char
  | [], _ => []
  | c :: cs, n => if c.utf8Size ≤ n then c :: takeBytes cs (n - c.utf8Size) else []

variable (value : String)

/-- `boundWorkflowText`: cut to `maxBytes` and drop trailing bytes until the text is valid
UTF-8 again, which for a valid text stops at the last character that fits whole. -/
def boundWorkflowText (maxBytes : Nat) : String :=
  if value.utf8ByteSize ≤ maxBytes then value
  else String.ofList (takeBytes value.toList maxBytes)

def maxWorkflowHistoryEntries : Nat := 256

def maxWorkflowConditions : Nat := 32

/-- `BoundWorkflowMessage`, at `MaxWorkflowMessageBytes`. -/
def boundWorkflowMessage (message : String) : String := boundWorkflowText message 8192

/-- `BoundWorkflowConditionType`, at `MaxWorkflowConditionTypeBytes`. -/
def boundWorkflowConditionType : String := boundWorkflowText value 64

/-- `BoundWorkflowReason`, at `MaxWorkflowReasonBytes`. -/
def boundWorkflowReason : String := boundWorkflowText value 128

/-! ## The record -/

/-- `metav1.ConditionStatus`, of which the code writes two values. -/
inductive ConditionStatus
  | isTrue
  | isFalse
  deriving DecidableEq, Repr

/-- `v1alpha1.WorkflowCondition`. -/
structure WorkflowCondition where
  type : String
  status : ConditionStatus
  reason : String
  message : String
  lastTransitionTime : Time
  deriving DecidableEq, Repr

/-- `v1alpha1.WorkflowHistoryEntry`. -/
structure WorkflowHistoryEntry where
  phase : WorkflowPhase
  time : Time
  message : String
  deriving DecidableEq, Repr

/-- `v1alpha1.WorkflowStatus`; its defaults are the zero value the API server starts from. -/
structure WorkflowStatus where
  executionIntentHash : String := ""
  errorCategory : Option ErrorCategory := none
  phase : WorkflowPhase := .unset
  resumeFrom : WorkflowPhase := .unset
  failureReason : String := ""
  observedGeneration : Int := 0
  startedAt : Time := 0
  updatedAt : Time := 0
  completedAt : Option Time := none
  message : String := ""
  conditions : List WorkflowCondition := []
  history : List WorkflowHistoryEntry := []
  deriving DecidableEq, Repr

def failureDestinationCapacityExhausted : String := "DestinationCapacityExhausted"

/-! ## Bounded lists -/

/-- Keep the last `n` entries of a list. -/
def keepLast {α : Type*} (n : Nat) (l : List α) : List α := l.drop (l.length - n)

def trimWorkflowHistory (history : List WorkflowHistoryEntry) : List WorkflowHistoryEntry :=
  keepLast maxWorkflowHistoryEntries history

def trimWorkflowConditions (conditions : List WorkflowCondition) : List WorkflowCondition :=
  keepLast maxWorkflowConditions conditions

/-- Replace the first condition of `c`'s type, or append `c`. -/
def upsertCondition (c : WorkflowCondition) : List WorkflowCondition → List WorkflowCondition
  | [] => [c]
  | d :: ds => if d.type = c.type then c :: ds else d :: upsertCondition c ds

variable (status : WorkflowStatus)

def setWorkflowCondition (condition : WorkflowCondition) : WorkflowStatus :=
  let bounded : WorkflowCondition :=
    { condition with
      type := boundWorkflowConditionType condition.type
      reason := boundWorkflowReason condition.reason
      message := boundWorkflowMessage condition.message }
  { status with conditions := trimWorkflowConditions (upsertCondition bounded status.conditions) }

/-! ## Phase writers -/

/-- Whether a transition to `next` stores the phase it leaves as the resume checkpoint. -/
def storesResumePhase (current next : WorkflowPhase) : Bool :=
  next = .failed || ((next = .aborting || next = .rollingBack) && current ≠ .failed)

/-- The phases whose entry sets `completedAt`. -/
def terminalPhase (phase : WorkflowPhase) : Bool :=
  phase = .completed || phase = .aborted || phase = .rolledBack

/-- `RecordWorkflowTransition`: record an operation-approved phase change. -/
def recordWorkflowTransition (next : WorkflowPhase)
    (message : String) (now : Time) : WorkflowStatus :=
  if status.phase = next then status
  else
    { status with
      resumeFrom := if storesResumePhase status.phase next then status.phase
        else status.resumeFrom
      phase := next
      failureReason := if next ≠ .failed then "" else status.failureReason
      errorCategory := if next ≠ .failed then none else status.errorCategory
      message := boundWorkflowMessage message
      updatedAt := now
      history := trimWorkflowHistory
        (status.history ++ [⟨next, now, boundWorkflowMessage message⟩])
      completedAt := if terminalPhase next then some now else none }

/-- `ReactivateWorkflow`: reopen a failed workflow at its resume checkpoint.  The checkpoint
itself stays in the record. -/
def reactivateWorkflow (message : String) (now : Time) : Except Error WorkflowStatus :=
  if status.phase ≠ .failed ∨ status.resumeFrom = .unset then
    .error ⟨.precondition, "reactivate",
      "a failed workflow with a resume checkpoint is required"⟩
  else
    .ok { status with
      phase := status.resumeFrom
      failureReason := ""
      errorCategory := none
      message := boundWorkflowMessage message
      updatedAt := now
      completedAt := none
      history := trimWorkflowHistory
        (status.history ++ [⟨status.resumeFrom, now, boundWorkflowMessage message⟩]) }

/-- The edges of the repository workflows (Backup and Restore). -/
def repositoryEdges : WorkflowPhase → List WorkflowPhase
  | .planned => [.warmCopying, .aborting, .failed]
  | .warmCopying => [.warmCopied, .aborting, .failed]
  | .warmCopied => [.completed, .aborting, .failed]
  | .aborting => [.aborted, .failed]
  | .failed => [.warmCopying, .aborting]
  | _ => []

/-- `TransitionRepository`: a phase change of a repository workflow. -/
def transitionRepository (next : WorkflowPhase)
    (message : String) (now : Time) : Except Error WorkflowStatus :=
  if status.phase = next then .ok status
  else if next ∈ repositoryEdges status.phase then
    .ok (recordWorkflowTransition status next message now)
  else
    .error ⟨.conflict, "transition", "repository phase " ++ status.phase.text ++
      " cannot transition to " ++ next.text⟩

/-! ### What the phase writers do to the checkpoint -/

section Writers

variable (status : WorkflowStatus) (next : WorkflowPhase) (message : String) (now : Time)
  (c : WorkflowCondition)

@[simp] theorem phase_setWorkflowCondition :
    (setWorkflowCondition status c).phase = status.phase := by
  simp only [setWorkflowCondition]

@[simp] theorem resumeFrom_setWorkflowCondition :
    (setWorkflowCondition status c).resumeFrom = status.resumeFrom := by
  simp only [setWorkflowCondition]

@[simp] theorem history_setWorkflowCondition :
    (setWorkflowCondition status c).history = status.history := by
  simp only [setWorkflowCondition]

@[simp] theorem phase_recordWorkflowTransition :
    (recordWorkflowTransition status next message now).phase = next := by
  unfold recordWorkflowTransition
  split
  · assumption
  · rfl

theorem resumeFrom_recordWorkflowTransition :
    (recordWorkflowTransition status next message now).resumeFrom =
      if status.phase ≠ next ∧ storesResumePhase status.phase next then status.phase
      else status.resumeFrom := by
  unfold recordWorkflowTransition
  by_cases h : status.phase = next <;> simp [h]

theorem history_recordWorkflowTransition :
    (recordWorkflowTransition status next message now).history =
      if status.phase = next then status.history
      else trimWorkflowHistory
        (status.history ++ [⟨next, now, boundWorkflowMessage message⟩]) := by
  unfold recordWorkflowTransition
  by_cases h : status.phase = next <;> simp [h]

variable {status message now}

/-- A reactivation that succeeds found a failed workflow with a checkpoint, and reopens it
there. -/
theorem reactivateWorkflow_ok {status' : WorkflowStatus}
    (h : reactivateWorkflow status message now = .ok status') :
    status.phase = .failed ∧ status.resumeFrom ≠ .unset ∧
      status'.phase = status.resumeFrom ∧ status'.resumeFrom = status.resumeFrom ∧
      status'.history = trimWorkflowHistory
        (status.history ++ [⟨status.resumeFrom, now, boundWorkflowMessage message⟩]) := by
  unfold reactivateWorkflow at h
  split at h
  · cases h
  · rename_i hguard
    cases h
    push Not at hguard
    exact ⟨hguard.1, hguard.2, by simp only, by simp only, by simp only⟩

end Writers

/-! ## Reading the checkpoint -/

/-- `workflowResumePhase`: the phase execution has reached, seen through a failure. -/
def workflowResumePhase : WorkflowPhase :=
  if status.phase = .failed then status.resumeFrom else status.phase

/-- `deletionRequiresConvergence`: the phases in which deletion must finish the cutover
instead of aborting it. -/
def deletionRequiresConvergence : WorkflowPhase → Bool
  | .activating | .activated | .resuming | .renaming | .moving | .rollingBack => true
  | _ => false

end PvcMigrate
