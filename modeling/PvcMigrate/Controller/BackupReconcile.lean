import PvcMigrate.Lib.Machine
import PvcMigrate.Workflow.Planning

/-!
# One reconcile pass of a Backup

`BackupReconciler.Reconcile` reads the object, passes a sequence of guards and then hands it
to at most one of the planner, the executor and the deletion handler.  `Backup.reconcile` is
that decision.  The second half of the file is the machine of the writers that can produce a
Backup status: planning, the phase and failure checkpoints of the executor, reactivation, the
terminal planning marker and the mutation failure.

The gate a failed workflow meets, `planningFailureGate`, recognises a planning failure by its
resume checkpoint, category and timestamps.  A run that fails before its first phase change
leaves the same marks *with* an execution plan, and is run again by the retry loop.
-/

namespace PvcMigrate

/-- The parts of a `v1alpha1.Backup` a reconcile pass reads; `π` is the type of plans. -/
structure Backup (π : Type) where
  generation : Int
  deletionTimestamp : Option Time
  abortRequested : Bool
  status : WorkflowStatus
  plan : Option π

/-- What the second read of the object, under the active-pass guard, finds. -/
inductive Reload
  /-- the object as it was read first -/
  | current
  /-- an object with another UID, or one that is being deleted by now -/
  | replaced
  | notFound
  | error (e : Error)

/-- The answers of everything a pass asks outside the object itself. -/
structure PassAnswers where
  /-- another pass of this process is working on the object -/
  alreadyActive : Bool
  reload : Reload
  collision : Option Error
  protection : Option Error
  /-- `WorkflowExecutionIntentHash` of the current spec -/
  intentHash : Except Error String

/-- What a pass does with the object after its guards. -/
inductive PassStep
  | stop (requeueAfter : Option Duration)
  | failed (e : Error)
  | finalizeDeleted
  | abort
  /-- the retry window has elapsed: the terminal marker is written, if it was not -/
  | markRetriesExhausted (marked : Option WorkflowStatus)
  | plan
  | checkpointSpecMutation (cause : Error)
  | run
  deriving DecidableEq

/-- `workflowReconcileResult` of an error: a conflict is retried after a second. -/
def workflowReconcileResult (e : Error) : PassStep :=
  if e.category = .conflict then .stop (some (seconds 1)) else .failed e

def executionIntentMutationError (status : WorkflowStatus) (intentHash : Except Error String) :
    Option Error :=
  if status.executionIntentHash = "" then none
  else
    match intentHash with
    | .error e => some e
    | .ok current =>
      if status.executionIntentHash = current then none else some changedWorkflowDefinitionError

/-- `planningFailureGate`; `none` lets the pass fall through. -/
def planningFailureGate (status : WorkflowStatus) (now : Time) : Option PassStep :=
  let decision := evaluatePlanningRetry status now
  if !decision.retryable then some (.stop none)
  else if decision.expired then
    some (.markRetriesExhausted (markPlanningRetriesExhausted status now))
  else if decision.due then none
  else some (.stop (some decision.delay))

namespace Backup

variable {π : Type} (object : Backup π)

/-- The guards of a pass for a phase: `some` stops the pass there. -/
def phaseGuard (now : Time) : Option PassStep :=
  match object.status.phase with
  | .failed =>
    if object.plan.isSome || !retryCorrectedPlanning object.status.phase
        object.status.resumeFrom object.status.observedGeneration object.generation then
      planningFailureGate object.status now
    else none
  | .completed | .aborted => some (.stop none)
  | _ => none

/-- The part of a pass behind the phase guards. -/
def dispatch (answers : PassAnswers) : PassStep :=
  match object.plan with
  | none => if object.status.phase = .aborting then .abort else .plan
  | some _ =>
    match executionIntentMutationError object.status answers.intentHash with
    | some cause => .checkpointSpecMutation cause
    | none => .run

/-- `BackupReconciler.Reconcile`, up to the call it hands the object to. -/
def reconcile (answers : PassAnswers) (now : Time) : PassStep :=
  if object.deletionTimestamp.isSome then .finalizeDeleted
  else if answers.alreadyActive then .stop (some (seconds 1))
  else
    match answers.reload with
    | .notFound => .stop none
    | .error e => .failed e
    | .replaced => .stop (some 1000000)
    | .current =>
      match answers.collision, answers.protection with
      | some e, _ | none, some e => workflowReconcileResult e
      | none, none =>
        if object.abortRequested then .abort
        else (object.phaseGuard now).getD (object.dispatch answers)

/-! ## When a failed Backup is run again -/

/-- The bounded planning retry does not consider the failure due at `now`: it is not a failure
in phase `planned`, its category cannot clear on its own, the window is over, or the wait since
the last status write is shorter than the interval. -/
def RetryNotDue (status : WorkflowStatus) (now : Time) : Prop :=
  status.resumeFrom ≠ .planned ∨ status.startedAt = 0 ∨
    (status.errorCategory ≠ some .precondition ∧ status.errorCategory ≠ some .kubernetes) ∨
    planningRetryWindow ≤ max (now.sub status.startedAt) 0 ∨
    max (now.sub status.updatedAt) 0 <
      planningRetryInterval (max (now.sub status.startedAt) 0)

variable {status : WorkflowStatus} {now : Time}

/-- `evaluatePlanningRetry` says due exactly when no clause of `RetryNotDue` applies. -/
theorem due_evaluatePlanningRetry (hfailed : status.phase = .failed) :
    (evaluatePlanningRetry status now).due = true ↔ ¬ RetryNotDue status now := by
  simp only [RetryNotDue, not_or, not_and_or, not_not, Int.not_le, Int.not_lt]
  unfold evaluatePlanningRetry
  by_cases hresume : status.resumeFrom = .planned
  · by_cases hstart : status.startedAt = 0
    · simp [hfailed, hresume, hstart, Time.isZero]
    by_cases hcat : retryableCategory status.errorCategory = true
    · have hcat' : status.errorCategory = some .precondition ∨
          status.errorCategory = some .kubernetes := by
        simpa [retryableCategory] using hcat
      by_cases hwindow : max (now.sub status.startedAt) 0 ≥ planningRetryWindow
      · have hover := Int.not_lt.mpr hwindow
        simp [hfailed, hresume, hstart, hcat, hwindow, hover, Time.isZero]
      · have hinside := Int.not_le.mp hwindow
        by_cases hsince : max (now.sub status.updatedAt) 0 ≥
          planningRetryInterval (max (now.sub status.startedAt) 0)
        · simp [hfailed, hresume, hstart, hcat, hcat', hwindow, hinside, hsince, Time.isZero]
        · simp [hfailed, hresume, hstart, hcat, hwindow, hsince, Time.isZero]
    · have hcat' : ¬ (status.errorCategory = some .precondition ∨
          status.errorCategory = some .kubernetes) := by
        simpa [retryableCategory] using hcat
      simp [hfailed, hresume, hstart, hcat, hcat', Time.isZero]
  · simp [hfailed, hresume]

/-- The gate lets a pass fall through exactly when the retry is due. -/
theorem planningFailureGate_eq_none :
    planningFailureGate status now = none ↔ (evaluatePlanningRetry status now).due = true := by
  rcases evaluatePlanningRetry_cases status now with h | h | h | ⟨delay, h⟩ <;>
    simp [planningFailureGate, h]

theorem phaseGuard_failed {object : Backup π} (hfailed : object.status.phase = .failed)
    (hplan : object.plan.isSome) :
    object.phaseGuard now = planningFailureGate object.status now := by
  simp [phaseGuard, hfailed, hplan]

theorem planningFailureGate_ne_run :
    planningFailureGate status now ≠ some .run := by
  rcases evaluatePlanningRetry_cases status now with h | h | h | ⟨delay, h⟩ <;>
    simp [planningFailureGate, h]

/-- Answers that stop no pass: the object is unchanged, nothing collides and the spec is the
admitted one. -/
def quietAnswers (status : WorkflowStatus) : PassAnswers where
  alreadyActive := false
  reload := .current
  collision := none
  protection := none
  intentHash := .ok status.executionIntentHash

/-- **A failed Backup that has an execution plan is never run by a reconcile pass exactly when
its failure does not fall under the bounded planning retry at that time.** -/
theorem reconcile_failed_never_runs_iff (now : Time)
    (hdeletion : object.deletionTimestamp = none) (habort : object.abortRequested = false)
    (hfailed : object.status.phase = .failed) (hplan : object.plan ≠ none) :
    (∀ answers, object.reconcile answers now ≠ .run) ↔ RetryNotDue object.status now := by
  have hsome : object.plan.isSome := Option.isSome_iff_ne_none.mpr hplan
  have hguard : object.phaseGuard now = planningFailureGate object.status now :=
    phaseGuard_failed hfailed hsome
  by_cases hdue : planningFailureGate object.status now = none
  · -- the gate falls through: with quiet answers the pass reaches the executor
    have hnot : ¬ RetryNotDue object.status now :=
      (due_evaluatePlanningRetry hfailed).mp (planningFailureGate_eq_none.mp hdue)
    refine iff_of_false (fun hall => hall (quietAnswers object.status) ?_) hnot
    obtain ⟨p, hp⟩ := Option.isSome_iff_exists.mp hsome
    have hquiet : executionIntentMutationError object.status
        (.ok object.status.executionIntentHash) = none := by
      simp [executionIntentMutationError]
    simp [reconcile, quietAnswers, hdeletion, habort, hguard, hdue, dispatch, hp, hquiet]
  · have hnotdue : RetryNotDue object.status now := by
      by_contra hnot
      exact hdue (planningFailureGate_eq_none.mpr ((due_evaluatePlanningRetry hfailed).mpr hnot))
    refine iff_of_true (fun answers => ?_) hnotdue
    obtain ⟨step, hstep⟩ := Option.ne_none_iff_exists'.mp hdue
    have hrun : step ≠ .run := by
      rintro rfl
      exact planningFailureGate_ne_run hstep
    unfold reconcile workflowReconcileResult
    repeat' split
    all_goals simp [hguard, hstep, hrun]

/-! ## The writers of a Backup status -/

/-- The writers that produce a Backup's status and plan. -/
inductive Writer (π : Type)
  /-- `BackupReconciler.plan`: a resolved plan and the hash of its spec, or the cause -/
  | plan (generation : Int) (outcome : Except Error (π × String)) (now : Time)
  /-- `checkpointRepositoryPhase` of the executor -/
  | checkpointPhase (next : WorkflowPhase) (message : String) (now : Time)
  /-- `checkpointRepositoryFailure` of the executor -/
  | checkpointFailure (cause : Error) (now : Time)
  /-- `ReactivateWorkflow`, by `RequestResume` or by the executor -/
  | reactivate (message : String) (now : Time)
  | markRetriesExhausted (now : Time)
  | specMutation (generation : Int) (now : Time)

/-- The status of a Backup together with its plan. -/
abbrev Record (π : Type) := WorkflowStatus × Option π

/-- `savePlannedWorkflow` freezes the admitted spec once. -/
def freezeIntent (status : WorkflowStatus) (hash : String) : WorkflowStatus :=
  if status.executionIntentHash = "" ∧ status.phase ≠ .failed then
    { status with executionIntentHash := hash }
  else status

/-- What a writer leaves behind; a refused one writes nothing. -/
def Writer.apply (r : Record π) : Writer π → Record π
  | plan generation outcome now =>
    if r.2.isSome then r
    else
      match outcome with
      | .ok (p, hash) =>
        (freezeIntent (recordPlanningOutcome r.1 generation none now) hash, some p)
      | .error cause => (recordPlanningOutcome r.1 generation (some cause) now, none)
  | checkpointPhase next message now =>
    match transitionRepository r.1 next message now with
    | .ok status => ({ status with message := boundWorkflowMessage message }, r.2)
    | .error _ => r
  | checkpointFailure cause now =>
    if r.1.phase = .failed then
      ({ r.1 with message := boundWorkflowMessage cause.error
                  errorCategory := some cause.category }, r.2)
    else
      match transitionRepository r.1 .failed cause.error now with
      | .ok status =>
        ({ status with message := boundWorkflowMessage cause.error
                       errorCategory := some cause.category }, r.2)
      | .error _ => r
  | reactivate message now =>
    match reactivateWorkflow r.1 message now with
    | .ok status => (status, r.2)
    | .error _ => r
  | markRetriesExhausted now => ((markPlanningRetriesExhausted r.1 now).getD r.1, r.2)
  | specMutation generation now =>
    (recordPlanningFailureForMutation r.1 generation changedWorkflowDefinitionError now, r.2)

/-- A Backup with a plan whose first run fails because the repository cannot be read. -/
def unreadableRepositoryRun : List (Writer Unit) :=
  [.plan 1 (.ok ((), "hash")) (seconds 1),
    .checkpointFailure ⟨.kubernetes, "resolve repository", "read BackupRepository"⟩ (seconds 2)]

def unreadableRepositoryBackup : Backup Unit :=
  let r := Machine.run Writer.apply ({}, none) unreadableRepositoryRun
  { generation := 1, deletionTimestamp := none, abortRequested := false
    status := r.1, plan := r.2 }

/-- Twenty seconds later a reconcile pass runs the failed Backup, with no resume request. -/
theorem unreadableRepositoryBackup_runs :
    unreadableRepositoryBackup.status.phase = .failed ∧
      unreadableRepositoryBackup.plan = some () ∧
      unreadableRepositoryBackup.reconcile
        (quietAnswers unreadableRepositoryBackup.status) (seconds 22) = .run := by
  decide

/-- One second after that failure the retry is not due, and no pass runs it. -/
theorem unreadableRepositoryBackup_waits :
    RetryNotDue unreadableRepositoryBackup.status (seconds 3) ∧
      ∀ answers, unreadableRepositoryBackup.reconcile answers (seconds 3) ≠ .run :=
  have hnotdue : RetryNotDue unreadableRepositoryBackup.status (seconds 3) := by
    unfold RetryNotDue
    decide
  ⟨hnotdue, (reconcile_failed_never_runs_iff unreadableRepositoryBackup (seconds 3) rfl rfl
    (by decide) (by decide)).mpr hnotdue⟩

end Backup

end PvcMigrate
