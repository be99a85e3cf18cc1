import PvcMigrate.Lib.Machine
import PvcMigrate.Workflow.Planning

/-!
# The resume checkpoint along a run

A failed workflow resumes, and is deleted, from `resumeFrom`.  The status writers of the
program form a deterministic machine on `WorkflowStatus`; this file asks of each failure in
its runs whether the checkpoint it leaves is the phase execution had reached.

Every writer but one overwrites the checkpoint.  `recordPlanningFailureForMutation` keeps a
checkpoint that is already there, and neither a reactivation nor a forward transition clears
it: after one earlier failure the checkpoint of a mutation failure is the *old* one.
-/

namespace PvcMigrate

/-- The status writers of the program, with their arguments. -/
inductive StatusWriter
  | transition (next : WorkflowPhase) (message : String) (now : Time)
  | reactivate (message : String) (now : Time)
  | planningOutcome (generation : Int) (cause : Option Error) (now : Time)
  | mutationFailure (generation : Int) (cause : Error) (now : Time)

namespace StatusWriter

/-- What a writer leaves behind; a refused reactivation writes nothing. -/
def apply (status : WorkflowStatus) : StatusWriter → WorkflowStatus
  | transition next message now => recordWorkflowTransition status next message now
  | reactivate message now =>
    match reactivateWorkflow status message now with
    | .ok reopened => reopened
    | .error _ => status
  | planningOutcome generation cause now => recordPlanningOutcome status generation cause now
  | mutationFailure generation cause now =>
    recordPlanningFailureForMutation status generation cause now

/-- Planning outcomes restart the workflow at `planned` by design. -/
def isPlanningOutcome : StatusWriter → Bool
  | planningOutcome .. => true
  | _ => false

/-- The step records a failure of a workflow that execution had taken to a phase. -/
def RecordsFailure (status : WorkflowStatus) (w : StatusWriter) : Prop :=
  status.phase ≠ .unset ∧ status.phase ≠ .failed ∧ (apply status w).phase = .failed ∧
    w.isPlanningOutcome = false

/-- A failure recorded by the step keeps the checkpoint: `resumeFrom` is the phase left, so
the resume phase does not move and deletion chooses between converging and aborting from the
phase execution had reached. -/
def KeepsCheckpoint (status : WorkflowStatus) (w : StatusWriter) : Prop :=
  RecordsFailure status w →
    (apply status w).resumeFrom = status.phase ∧
    workflowResumePhase (apply status w) = workflowResumePhase status ∧
    deletionRequiresConvergence (workflowResumePhase (apply status w)) =
      deletionRequiresConvergence status.phase

/-- A mutation failure of a running workflow finds no checkpoint of an earlier failure other
than its own phase. -/
def NoStaleCheckpoint (status : WorkflowStatus) : StatusWriter → Prop
  | mutationFailure .. =>
    status.phase = .unset ∨ status.phase = .failed ∨
      status.resumeFrom = .unset ∨ status.resumeFrom = status.phase
  | _ => True

/-! ## One step -/

variable {status : WorkflowStatus}

theorem resumeFrom_mutationFailure {generation : Int} {cause : Error} {now : Time}
    (h1 : status.phase ≠ .unset) (h2 : status.phase ≠ .failed) :
    (apply status (mutationFailure generation cause now)).resumeFrom =
      if status.resumeFrom = .unset then status.phase else status.resumeFrom := by
  simp [apply, recordPlanningFailureForMutation, h1, h2]

theorem resumeFrom_transition_failed {message : String} {now : Time} (h : status.phase ≠ .failed) :
    (apply status (transition .failed message now)).resumeFrom = status.phase := by
  simp [apply, resumeFrom_recordWorkflowTransition, h, storesResumePhase]

/-- With the right checkpoint the rest of `KeepsCheckpoint` follows. -/
theorem keepsCheckpoint_iff {w : StatusWriter} :
    KeepsCheckpoint status w ↔
      (RecordsFailure status w → (apply status w).resumeFrom = status.phase) := by
  constructor
  · intro h hf
    exact (h hf).1
  · intro h hf
    have hresume := h hf
    obtain ⟨-, hrun, hfail, -⟩ := hf
    have hphase : workflowResumePhase (apply status w) = status.phase := by
      simp [workflowResumePhase, hfail, hresume]
    refine ⟨hresume, ?_, by rw [hphase]⟩
    rw [hphase]
    simp [workflowResumePhase, hrun]

/-- A reactivation never turns a running workflow into a failed one. -/
theorem not_recordsFailure_reactivate {message : String} {now : Time} :
    ¬ RecordsFailure status (reactivate message now) := by
  rintro ⟨-, hrun, hfail, -⟩
  simp only [apply] at hfail
  split at hfail
  · rename_i reopened hok
    exact hrun (reactivateWorkflow_ok hok).1
  · exact hrun hfail

/-- **One step keeps the checkpoint exactly when it meets no stale one.** -/
theorem keepsCheckpoint_iff_noStaleCheckpoint (w : StatusWriter) :
    KeepsCheckpoint status w ↔ NoStaleCheckpoint status w := by
  rw [keepsCheckpoint_iff]
  cases w with
  | transition next message now =>
    simp only [NoStaleCheckpoint, iff_true]
    rintro ⟨-, hrun, hfail, -⟩
    have hnext : next = .failed := by simpa [apply] using hfail
    subst hnext
    exact resumeFrom_transition_failed hrun
  | reactivate message now =>
    simp only [NoStaleCheckpoint, iff_true]
    exact fun h => absurd h not_recordsFailure_reactivate
  | planningOutcome generation cause now =>
    simp only [NoStaleCheckpoint, iff_true]
    exact fun h => absurd h.2.2.2 (by simp [isPlanningOutcome])
  | mutationFailure generation cause now =>
    simp only [NoStaleCheckpoint]
    constructor
    · intro h
      by_cases h1 : status.phase = .unset
      · exact .inl h1
      by_cases h2 : status.phase = .failed
      · exact .inr (.inl h2)
      have hresume := h ⟨h1, h2, rfl, rfl⟩
      rw [resumeFrom_mutationFailure h1 h2] at hresume
      by_cases hunset : status.resumeFrom = .unset
      · exact .inr (.inr (.inl hunset))
      · rw [if_neg hunset] at hresume
        exact .inr (.inr (.inr hresume))
    · rintro h ⟨h1, h2, -, -⟩
      rw [resumeFrom_mutationFailure h1 h2]
      rcases h with h | h | h | h
      · exact absurd h h1
      · exact absurd h h2
      · rw [if_pos h]
      · rw [h, ite_self]

/-! ## Whole runs -/

/-- **Recording a failure keeps the resume checkpoint along a run from the empty status
exactly when no mutation failure of the run meets the checkpoint of an earlier failure.** -/
theorem every_keepsCheckpoint_iff (ws : List StatusWriter) :
    Machine.Every apply KeepsCheckpoint {} ws ↔
      Machine.Every apply NoStaleCheckpoint {} ws := by
  apply Machine.every_congr
  refine Machine.every_of_invariant (I := fun _ => True) (A := fun _ _ => True) ?_ ?_ trivial ?_
  · intros; trivial
  · intro s w _ _
    exact keepsCheckpoint_iff_noStaleCheckpoint w
  · exact Machine.every_iff.mpr fun _ _ _ _ => trivial

/-- A workflow that failed once while reserving, was resumed, and is edited while it activates:
the failure records `reserving`, and deletion aborts a half-activated workflow. -/
def staleCheckpointRun : List StatusWriter :=
  [planningOutcome 1 none 1, transition .reserving "" 2, transition .failed "" 3,
    reactivate "" 4, transition .reserved "" 5, transition .finalSyncing "" 6,
    transition .finalSynced "" 7, transition .activating "" 8,
    mutationFailure 2 changedWorkflowDefinitionError 9]

theorem staleCheckpointRun_moves_checkpoint :
    ¬ Machine.Every apply KeepsCheckpoint {} staleCheckpointRun ∧
      (Machine.run apply {} (staleCheckpointRun.take 8)).phase = .activating ∧
      (Machine.run apply {} staleCheckpointRun).phase = .failed ∧
      (Machine.run apply {} staleCheckpointRun).resumeFrom = .reserving ∧
      deletionRequiresConvergence
        (workflowResumePhase (Machine.run apply {} staleCheckpointRun)) = false := by
  refine ⟨?_, by decide, by decide, by decide, by decide⟩
  intro h
  have hlast := Machine.every_iff.mp h (staleCheckpointRun.take 8)
    (mutationFailure 2 changedWorkflowDefinitionError 9) [] rfl
  have hresume := (hlast ⟨by decide, by decide, by decide, by decide⟩).1
  revert hresume
  decide

end StatusWriter

end PvcMigrate
