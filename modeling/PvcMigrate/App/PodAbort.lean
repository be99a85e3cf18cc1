import PvcMigrate.Lib.Machine
import PvcMigrate.Workflow.Planning

/-!
# Aborting a Pod migration

An abort must hand the workload back when this workflow had paused it.  That fact is not
stored: `podAbortNeedsResume` reconstructs it from the phase, the resume checkpoint and the
history.  The file models the status machine of a PodMigration (planning, the executor's
checkpoints, failures, resume requests, mutation failures and abort attempts with any
outcome) and follows the reconstruction through arbitrarily many abort attempts.

Each failed attempt appends two history entries.  Once the history, trimmed to its last 256
entries, holds nothing but `aborting` and `failed`, the origin of the abort is forgotten.
-/

namespace PvcMigrate

/-! ## The abort policy -/

/-- The phases in which this workflow has the workload paused ahead of the cutover. -/
def pausedPhase : WorkflowPhase → Bool
  | .pausing | .paused | .finalSyncing | .finalSynced => true
  | _ => false

variable (history : List WorkflowHistoryEntry)

/-- `phaseBefore`: the phase ahead of the last run of `target` and `failed` entries. -/
def phaseBefore (target : WorkflowPhase) : WorkflowPhase :=
  match history.reverse.dropWhile (fun e => e.phase ≠ target) with
  | [] => .unset
  | _ :: earlier =>
    match earlier.find? (fun e => e.phase ≠ .failed && e.phase ≠ target) with
    | some e => e.phase
    | none => .unset

/-- The last history entry that is neither a failure nor an abort. -/
def lastProgress : Option WorkflowPhase :=
  (history.reverse.find? (fun e => e.phase ≠ .failed && e.phase ≠ .aborting)).map
    WorkflowHistoryEntry.phase

def abortOriginWasPaused : Bool :=
  match lastProgress history with
  | some phase => pausedPhase phase
  | none => false

def podAbortNeedsResume (phase resumeFrom : WorkflowPhase)
    (history : List WorkflowHistoryEntry) : Bool :=
  let previous := if phase = .failed ∨ phase = .aborting then resumeFrom else phase
  let previous := if previous = .aborting then phaseBefore history .aborting else previous
  pausedPhase previous ||
    ((phase = .aborting || resumeFrom = .aborting) && abortOriginWasPaused history)

/-- `validatePodAbortPhase`: after the cutover only a rollback is allowed. -/
def validatePodAbortPhase : WorkflowPhase → Except Error Unit
  | .unset | .planned | .reserving | .reserved | .warmCopying | .warmCopied | .pausing
  | .paused | .finalSyncing | .finalSynced | .aborting | .aborted => .ok ()
  | _ => .error ⟨.precondition, "abort pod migration", "migration cutover requires rollback"⟩

/-! ## Transitions of a Pod migration -/

def podMigrationPhase : WorkflowPhase → Bool
  | .unset | .renaming | .moving | .failed => false
  | _ => true

/-- The edges of `validatePodMigrationTransition`. -/
def podMigrationEdges : WorkflowPhase → List WorkflowPhase
  | .unset => [.aborted]
  | .planned => [.reserving, .aborting, .aborted]
  | .reserving => [.reserved, .aborting]
  | .reserved => [.warmCopying, .pausing, .aborting]
  | .warmCopying => [.warmCopied, .aborting]
  | .warmCopied => [.warmCopying, .pausing, .aborting]
  | .pausing => [.paused, .aborting]
  | .paused => [.finalSyncing, .aborting]
  | .finalSyncing => [.finalSynced, .aborting]
  | .finalSynced => [.finalSyncing, .activating, .rollingBack, .aborting]
  | .activating => [.activated, .rollingBack]
  | .activated => [.resuming, .rollingBack]
  | .resuming => [.completed, .rollingBack]
  | .completed => [.rollingBack]
  | .rollingBack => [.rolledBack]
  | .aborting => [.aborted]
  | _ => []

def validatePodMigrationTransition (current next : WorkflowPhase) : Except Error Unit :=
  if ((current = next ∨ next = .failed) ∧ podMigrationPhase current) ∨
      next ∈ podMigrationEdges current then .ok ()
  else .error ⟨.precondition, "pod migration",
    "cannot transition from " ++ current.text ++ " to " ++ next.text⟩

namespace PodMigration

/-- `PodMigrationExecutor.transition`, when the save succeeds. -/
def transition (status : WorkflowStatus) (next : WorkflowPhase) (message : String)
    (now : Time) : Except Error WorkflowStatus :=
  match validatePodMigrationTransition (workflowResumePhase status) next with
  | .error e => .error e
  | .ok () =>
    .ok (recordWorkflowTransition
      { status with startedAt := if status.startedAt.isZero then now else status.startedAt }
      next message now)

/-- The status after a transition; one that is refused, or whose save fails, writes nothing. -/
def transitioned (status : WorkflowStatus) (next : WorkflowPhase) (message : String)
    (now : Time) : WorkflowStatus :=
  match transition status next message now with
  | .ok status' => status'
  | .error _ => status

/-- `PodMigrationExecutor.fail`, through `recordWorkflowFailure`. -/
def fail (status : WorkflowStatus) (cause : Error) (reason : String) (now : Time) :
    WorkflowStatus :=
  match transition { status with errorCategory := some cause.category, failureReason := reason }
      .failed cause.error now with
  | .ok failed => failed
  | .error _ => status

/-- `recordWorkflowFailure` of a cancelled driver: the phase stays for another worker. -/
def cancelled (status : WorkflowStatus) (cause : Error) (now : Time) : WorkflowStatus :=
  { status with errorCategory := some cause.category, failureReason := ""
                message := boundWorkflowMessage cause.error, updatedAt := now }

/-- How an abort attempt that reached the `aborting` transition ends. -/
inductive AbortOutcome
  /-- the process stops, or a failure could not be saved -/
  | interrupted
  /-- a cleanup step, a revalidation or `workloads.Resume` returned this error -/
  | failed (cause : Error)
  /-- every call of the attempt returned without error -/
  | finished

/-- One abort attempt, made through `Abort`, `Run` or the deletion pass. -/
structure AbortAttempt where
  /-- a deletion pass that finds a source claim or volume settling -/
  settling : Bool
  outcome : AbortOutcome

/-- `PodMigrationExecutor.abort`: the status it leaves, and whether a call to
`workloads.Resume` returned without error in it. -/
def abort (status : WorkflowStatus) (planned : Bool) (attempt : AbortAttempt) (now : Time) :
    WorkflowStatus × Bool :=
  match validatePodAbortPhase (workflowResumePhase status) with
  | .error _ => (status, false)
  | .ok () =>
    if !planned then
      if status.phase = .aborted then (status, false)
      else (transitioned status .aborted "pod migration aborted before execution planning" now,
        false)
    else
      let resume := podAbortNeedsResume status.phase status.resumeFrom status.history &&
        !attempt.settling
      if status.phase = .aborted then (status, false)
      else
        match transition status .aborting "stopping pod migration tools" now with
        | .error _ => (status, false)
        | .ok aborting =>
          match attempt.outcome with
          | .interrupted => (aborting, false)
          | .failed cause => (fail aborting cause "" now, false)
          | .finished =>
            (transitioned aborting .aborted
              "pod migration aborted; reserved volumes are retained for cleanup" now, resume)

/-! ## The machine -/

/-- The inputs of the status machine of a PodMigration. -/
inductive Input
  /-- a planning attempt of the controller -/
  | plan (generation : Int) (cause : Option Error) (now : Time)
  /-- a checkpoint of the executor other than an abort -/
  | advance (next : WorkflowPhase) (message : String) (now : Time)
  | fail (cause : Error) (reason : String) (now : Time)
  | cancelled (cause : Error) (now : Time)
  | requestResume (now : Time)
  | specMutation (generation : Int) (now : Time)
  /-- the deletion pass repairs a failed status without a checkpoint -/
  | normalizeDeleted
  | abort (attempt : AbortAttempt) (now : Time)

/-- The status of a PodMigration with what its run so far has done. -/
structure State where
  status : WorkflowStatus := {}
  /-- an execution plan is recorded -/
  planned : Bool := false
  /-- the run has passed a paused phase ahead of its first abort -/
  pausedWorkload : Bool := false
  /-- an abort attempt has reached the `aborting` transition -/
  abortStarted : Bool := false

/-- The status an input leaves behind, and whether `workloads.Resume` returned in it. -/
def write (s : State) : Input → WorkflowStatus × Bool
  | .plan generation cause now =>
    (if s.planned then s.status else recordPlanningOutcome s.status generation cause now, false)
  | .advance next message now =>
    (if s.planned ∧ next ≠ .aborting ∧ next ≠ .aborted ∧ next ≠ .failed then
      transitioned s.status next message now else s.status, false)
  | .fail cause reason now => (PodMigration.fail s.status cause reason now, false)
  | .cancelled cause now => (PodMigration.cancelled s.status cause now, false)
  | .requestResume now =>
    (match reactivateWorkflow s.status "pod migration resume requested" now with
      | .ok reopened => reopened
      | .error _ => s.status, false)
  | .specMutation generation now =>
    (recordPlanningFailureForMutation s.status generation changedWorkflowDefinitionError now,
      false)
  | .normalizeDeleted =>
    (if s.status.phase = .failed ∧ s.status.resumeFrom = .unset then
      { s.status with resumeFrom := .planned } else s.status, false)
  | .abort attempt now => PodMigration.abort s.status s.planned attempt now

def abortPhase (phase : WorkflowPhase) : Bool := phase = .aborting || phase = .aborted

/-- Whether an input is a planning attempt that succeeds. -/
def Input.plans : Input → Bool
  | .plan _ none _ => true
  | _ => false

/-- One step: the status is written and the account of the run is kept. -/
def step (s : State) (i : Input) : State :=
  let status := (write s i).1
  let abortStarted := s.abortStarted || abortPhase (workflowResumePhase status)
  { status := status
    planned := s.planned || i.plans
    pausedWorkload := s.pausedWorkload || (!abortStarted && pausedPhase status.phase)
    abortStarted := abortStarted }

/-- The property of a step: if it takes a workflow whose workload was paused to `aborted`,
then `workloads.Resume` returned without error in it, or it is the deletion pass of a source
pair that is settling. -/
def HandsBack (s : State) (i : Input) : Prop :=
  workflowResumePhase (step s i).status = .aborted → workflowResumePhase s.status ≠ .aborted →
    s.pausedWorkload = true →
    (write s i).2 = true ∨ ∃ attempt now, i = .abort attempt now ∧ attempt.settling = true

/-- What a step must find in the status: a retried abort finds a history entry older than the
aborts and failures, and a mutation failure finds no checkpoint of an earlier failure. -/
def OriginRemembered (s : State) : Input → Prop
  | .abort .. => s.status.resumeFrom = .aborting → lastProgress s.status.history ≠ none
  | .specMutation .. =>
    s.status.phase = .unset ∨ s.status.phase = .failed ∨ s.status.phase = .aborting ∨
      s.status.resumeFrom = .unset ∨ s.status.resumeFrom = s.status.phase
  | _ => True

/-! ## The history keeps the origin of an abort -/

variable {history : List WorkflowHistoryEntry} {e : WorkflowHistoryEntry}
  {current next : WorkflowPhase} {message : String} {now : Time} {s : State} {i : Input}

theorem lastProgress_append :
    lastProgress (history ++ [e]) =
      if e.phase ≠ .failed ∧ e.phase ≠ .aborting then some e.phase else lastProgress history := by
  unfold lastProgress
  by_cases h : e.phase ≠ .failed ∧ e.phase ≠ .aborting
  · simp [h]
  · have h' : (e.phase ≠ .failed && e.phase ≠ .aborting) = false := by
      simpa [not_and_or] using h
    rw [if_neg h, List.reverse_append, List.reverse_singleton, List.singleton_append,
      List.find?_cons_of_neg (by simpa using h')]

/-- What a suffix of the history remembers, the whole history remembers. -/
theorem lastProgress_of_suffix {short long : List WorkflowHistoryEntry} {p : WorkflowPhase}
    (h : short <:+ long) (hp : lastProgress short = some p) : lastProgress long = some p := by
  obtain ⟨front, rfl⟩ := h
  unfold lastProgress at hp ⊢
  rw [List.reverse_append, List.find?_append]
  obtain ⟨e, he, rfl⟩ := Option.map_eq_some_iff.mp hp
  rw [he]
  rfl

theorem trimWorkflowHistory_suffix (history : List WorkflowHistoryEntry) :
    trimWorkflowHistory history <:+ history := List.drop_suffix _ _

theorem lastProgress_trim_append (h : e.phase ≠ .failed ∧ e.phase ≠ .aborting) :
    lastProgress (trimWorkflowHistory (history ++ [e])) = some e.phase := by
  have hlen : (history ++ [e]).length - maxWorkflowHistoryEntries ≤ history.length := by
    simp only [List.length_append, List.length_cons, List.length_nil, maxWorkflowHistoryEntries]
    omega
  unfold trimWorkflowHistory keepLast
  rw [List.drop_append_of_le_length hlen, lastProgress_append, if_pos h]

/-- The history remembers no origin other than a paused phase. -/
def PausedOrigin (history : List WorkflowHistoryEntry) : Prop :=
  ∀ p, lastProgress history = some p → pausedPhase p = true

theorem PausedOrigin.append (h : PausedOrigin history)
    (he : e.phase = .failed ∨ e.phase = .aborting ∨ pausedPhase e.phase = true) :
    PausedOrigin (trimWorkflowHistory (history ++ [e])) := by
  intro p hp
  have hp := lastProgress_of_suffix (trimWorkflowHistory_suffix _) hp
  rw [lastProgress_append] at hp
  split at hp
  · rename_i hne
    cases hp
    rcases he with he | he | he
    · exact absurd he hne.1
    · exact absurd he hne.2
    · exact he
  · exact h p hp

theorem pausedOrigin_append (he : pausedPhase e.phase = true) :
    PausedOrigin (trimWorkflowHistory (history ++ [e])) := by
  have hne : e.phase ≠ .failed ∧ e.phase ≠ .aborting := by
    constructor <;> (intro h; rw [h] at he; cases he)
  intro p hp
  rw [lastProgress_trim_append hne] at hp
  cases hp
  exact he

/-! ## Transitions, inverted -/

theorem validatePodMigrationTransition_ok :
    validatePodMigrationTransition current next = .ok () ↔
      ((current = next ∨ next = .failed) ∧ podMigrationPhase current = true) ∨
        next ∈ podMigrationEdges current := by
  unfold validatePodMigrationTransition
  split <;> simp_all

/-- Everything a successful transition did to the phase, the checkpoint and the history. -/
theorem transition_ok {status status' : WorkflowStatus}
    (h : transition status next message now = .ok status') :
    validatePodMigrationTransition (workflowResumePhase status) next = .ok () ∧
      status'.phase = next ∧
      status'.resumeFrom = (if status.phase ≠ next ∧ storesResumePhase status.phase next then
        status.phase else status.resumeFrom) ∧
      status'.history = (if status.phase = next then status.history else trimWorkflowHistory
        (status.history ++ [⟨next, now, boundWorkflowMessage message⟩])) := by
  unfold transition at h
  split at h
  · cases h
  · rename_i hvalid
    cases h
    exact ⟨hvalid, by simp, by rw [resumeFrom_recordWorkflowTransition],
      by rw [history_recordWorkflowTransition]⟩

/-- `transitioned` either took the transition or left the status alone. -/
theorem transitioned_cases (status : WorkflowStatus) (next : WorkflowPhase) (message : String)
    (now : Time) :
    transition status next message now = .ok (transitioned status next message now) ∨
      transitioned status next message now = status := by
  unfold transitioned
  split
  · exact .inl ‹_›
  · exact .inr rfl

theorem fail_cases (status : WorkflowStatus) (cause : Error) (reason : String) (now : Time) :
    ((fail status cause reason now).phase = .failed ∧
      (fail status cause reason now).resumeFrom =
        (if status.phase = .failed then status.resumeFrom else status.phase) ∧
      (fail status cause reason now).history = (if status.phase = .failed then status.history
        else trimWorkflowHistory
          (status.history ++ [⟨.failed, now, boundWorkflowMessage cause.error⟩]))) ∨
      fail status cause reason now = status := by
  unfold fail
  split
  · rename_i failed hok
    obtain ⟨-, hphase, hresume, hhistory⟩ := transition_ok hok
    refine .inl ⟨hphase, ?_, hhistory⟩
    rw [hresume]
    by_cases hf : status.phase = .failed <;> simp [hf, storesResumePhase]
  · exact .inr rfl

/-! ## The origin of an abort along a run -/

/-- The phases of the cutover and its rollback, from which no abort is possible. -/
def cutoverPhase : WorkflowPhase → Bool
  | .activating | .activated | .resuming | .completed | .rollingBack | .rolledBack => true
  | _ => false

/-- What the status of a workflow that has paused its workload looks like.  During an abort
either the checkpoint still is the paused phase, or the history has to remember it. -/
inductive Origin (status : WorkflowStatus) : Prop
  | paused (hphase : pausedPhase (workflowResumePhase status) = true)
      (horigin : PausedOrigin status.history)
  | cutover (hphase : cutoverPhase (workflowResumePhase status) = true)
  | aborted (hphase : workflowResumePhase status = .aborted)
  | aborting (hphase : workflowResumePhase status = .aborting)
      (horigin : PausedOrigin status.history)
      (hresume : status.resumeFrom = .aborting ∨
        status.phase = .aborting ∧ pausedPhase status.resumeFrom = true)

variable {status status' : WorkflowStatus}

theorem Origin.congr (h : Origin status) (hphase : status'.phase = status.phase)
    (hresume : status'.resumeFrom = status.resumeFrom)
    (hhistory : status'.history = status.history) : Origin status' := by
  have hR : workflowResumePhase status' = workflowResumePhase status := by
    simp only [workflowResumePhase, hphase, hresume]
  cases h with
  | paused hp ho => exact .paused (by rw [hR]; exact hp) (by rw [hhistory]; exact ho)
  | cutover hp => exact .cutover (by rw [hR]; exact hp)
  | aborted hp => exact .aborted (by rw [hR]; exact hp)
  | aborting hp ho hr =>
    exact .aborting (by rw [hR]; exact hp) (by rw [hhistory]; exact ho)
      (by rw [hresume, hphase]; exact hr)

theorem workflowResumePhase_of_failed (h : status.phase = .failed) :
    workflowResumePhase status = status.resumeFrom := by simp [workflowResumePhase, h]

theorem workflowResumePhase_of_ne (h : status.phase ≠ .failed) :
    workflowResumePhase status = status.phase := by simp [workflowResumePhase, h]

/-- Forward edges lead from a paused phase to a paused one or into the cutover. -/
theorem forward_of_paused (hc : pausedPhase current = true)
    (hvalid : validatePodMigrationTransition current next = .ok ()) (ha : next ≠ .aborting)
    (hf : next ≠ .failed) : pausedPhase next = true ∨ cutoverPhase next = true := by
  rw [validatePodMigrationTransition_ok] at hvalid
  rcases hvalid with ⟨rfl | h, -⟩ | hedge
  · exact .inl hc
  · exact absurd h hf
  · cases current <;> simp only [pausedPhase, Bool.false_eq_true] at hc <;>
      simp only [podMigrationEdges, List.mem_cons, List.not_mem_nil, or_false] at hedge <;>
      grind [pausedPhase, cutoverPhase]

theorem forward_of_cutover (hc : cutoverPhase current = true)
    (hvalid : validatePodMigrationTransition current next = .ok ()) (hf : next ≠ .failed) :
    cutoverPhase next = true := by
  rw [validatePodMigrationTransition_ok] at hvalid
  rcases hvalid with ⟨rfl | h, -⟩ | hedge
  · exact hc
  · exact absurd h hf
  · cases current <;> simp only [cutoverPhase, Bool.false_eq_true] at hc <;>
      simp only [podMigrationEdges, List.mem_cons, List.not_mem_nil, or_false] at hedge <;>
      grind [cutoverPhase]

theorem forward_of_abort (hc : abortPhase current = true)
    (hvalid : validatePodMigrationTransition current next = .ok ()) :
    next = .failed ∨ next = current ∨ next = .aborted := by
  rw [validatePodMigrationTransition_ok] at hvalid
  have hc : current = .aborting ∨ current = .aborted := by simpa [abortPhase] using hc
  rcases hc with rfl | rfl <;> simp [podMigrationEdges] at hvalid <;> grind

theorem Origin.advance (h : Origin status) (ha : next ≠ .aborting) (hd : next ≠ .aborted)
    (hf : next ≠ .failed)
    (hok : transition status next message now = .ok status') : Origin status' := by
  obtain ⟨hvalid, hphase, -, hhistory⟩ := transition_ok hok
  have hR : workflowResumePhase status' = next := by
    rw [workflowResumePhase_of_ne (by rw [hphase]; exact hf), hphase]
  cases h with
  | paused hp ho =>
    rcases forward_of_paused hp hvalid ha hf with hnext | hnext
    · refine .paused (by rw [hR]; exact hnext) ?_
      rw [hhistory]
      split
      · exact ho
      · exact pausedOrigin_append hnext
    · exact .cutover (by rw [hR]; exact hnext)
  | cutover hp => exact .cutover (by rw [hR]; exact forward_of_cutover hp hvalid hf)
  | aborted hp =>
    rcases forward_of_abort (by rw [hp]; rfl) hvalid with h | h | h
    · exact absurd h hf
    · exact absurd (h.trans hp) hd
    · exact absurd h hd
  | aborting hp ho hr =>
    rcases forward_of_abort (by rw [hp]; rfl) hvalid with h | h | h
    · exact absurd h hf
    · exact absurd (h.trans hp) ha
    · exact absurd h hd

/-- A recorded failure keeps the origin: the checkpoint becomes the phase that failed. -/
theorem Origin.fail (h : Origin status) (cause : Error) (reason : String) (now : Time) :
    Origin (fail status cause reason now) := by
  rcases fail_cases status cause reason now with ⟨hphase, hresume, hhistory⟩ | hsame
  · have hR : workflowResumePhase (PodMigration.fail status cause reason now) =
        workflowResumePhase status := by
      rw [workflowResumePhase_of_failed hphase, hresume]
      rfl
    have horigin (ho : PausedOrigin status.history) :
        PausedOrigin (PodMigration.fail status cause reason now).history := by
      rw [hhistory]
      split
      · exact ho
      · exact ho.append (.inl rfl)
    cases h with
    | paused hp ho => exact .paused (by rw [hR]; exact hp) (horigin ho)
    | cutover hp => exact .cutover (by rw [hR]; exact hp)
    | aborted hp => exact .aborted (by rw [hR]; exact hp)
    | aborting hp ho hr =>
      refine .aborting (by rw [hR]; exact hp) (horigin ho) (.inl ?_)
      rw [← hp, ← hR, workflowResumePhase_of_failed hphase]
  · rw [hsame]
    exact h

theorem Origin.reactivate (h : Origin status)
    (hok : reactivateWorkflow status message now = .ok status') : Origin status' := by
  obtain ⟨hfailed, -, hphase, hresume, hhistory⟩ := reactivateWorkflow_ok hok
  have hR := workflowResumePhase_of_failed hfailed
  have hR' (hne : status.resumeFrom ≠ .failed) :
      workflowResumePhase status' = status.resumeFrom := by
    rw [workflowResumePhase_of_ne (by rw [hphase]; exact hne), hphase]
  cases h with
  | paused hp ho =>
    rw [hR] at hp
    have hne : status.resumeFrom ≠ .failed := by intro h; rw [h] at hp; cases hp
    exact .paused (by rw [hR' hne]; exact hp) (by rw [hhistory]; exact pausedOrigin_append hp)
  | cutover hp =>
    rw [hR] at hp
    have hne : status.resumeFrom ≠ .failed := by intro h; rw [h] at hp; cases hp
    exact .cutover (by rw [hR' hne]; exact hp)
  | aborted hp =>
    rw [hR] at hp
    exact .aborted (by rw [hR' (by rw [hp]; decide)]; exact hp)
  | aborting hp ho hr =>
    rw [hR] at hp
    refine .aborting (by rw [hR' (by rw [hp]; decide)]; exact hp) ?_ (.inl (hresume.trans hp))
    rw [hhistory]
    exact ho.append (.inr (.inl hp))

/-- A mutation failure that meets no stale checkpoint keeps the resume phase, or it goes back from
an abort to the paused phase. -/
theorem Origin.mutation_cases (h : Origin status) {generation : Int} {cause : Error}
    (hstale : status.phase = .unset ∨ status.phase = .failed ∨ status.phase = .aborting ∨
      status.resumeFrom = .unset ∨ status.resumeFrom = status.phase) :
    let after := recordPlanningFailureForMutation status generation cause now
    workflowResumePhase after = workflowResumePhase status ∨
      pausedPhase (workflowResumePhase after) = true ∧ PausedOrigin status.history := by
  intro after
  have hresume : workflowResumePhase after = if status.resumeFrom = .unset ∧
      status.phase ≠ .unset ∧ status.phase ≠ .failed then status.phase else status.resumeFrom := by
    rw [workflowResumePhase_of_failed (by simp [after, recordPlanningFailureForMutation])]
    simp only [after, recordPlanningFailureForMutation, resumeFrom_setWorkflowCondition]
  rw [hresume]
  by_cases hfailed : status.phase = .failed
  · exact .inl (by simp [hfailed, workflowResumePhase_of_failed hfailed])
  have hrun := workflowResumePhase_of_ne hfailed
  by_cases hown : status.resumeFrom = .unset ∨ status.resumeFrom = status.phase
  · left
    rw [hrun]
    split
    · rfl
    · rename_i hkeep
      rcases hown with h | h
      · by_contra hne
        exact hkeep ⟨h, fun hunset => hne (h.trans hunset.symm), hfailed⟩
      · exact h
  · -- left is an abort whose checkpoint still is the paused phase, which is kept
    have hphase : status.phase = .unset ∨ status.phase = .aborting := by tauto
    cases h with
    | paused hp _ | cutover hp | aborted hp =>
      rcases hphase with h | h <;> rw [hrun, h] at hp <;> cases hp
    | aborting hp ho hr =>
      rcases hr with hr | ⟨-, hr⟩
      · exact absurd (.inr (hr.trans (hp.symm.trans hrun))) hown
      · rw [if_neg fun hc => hown (.inl hc.1)]
        exact .inr ⟨hr, ho⟩

/-- A mutation failure that meets no stale checkpoint keeps the origin. -/
theorem Origin.specMutation (h : Origin status) {generation : Int} {cause : Error}
    (hstale : status.phase = .unset ∨ status.phase = .failed ∨ status.phase = .aborting ∨
      status.resumeFrom = .unset ∨ status.resumeFrom = status.phase) :
    Origin (recordPlanningFailureForMutation status generation cause now) := by
  have hphase : (recordPlanningFailureForMutation status generation cause now).phase = .failed := by
    simp [recordPlanningFailureForMutation]
  have hhistory : (recordPlanningFailureForMutation status generation cause now).history =
      status.history := by
    simp [recordPlanningFailureForMutation]
  rcases h.mutation_cases hstale with hsame | ⟨hpaused, ho⟩
  · cases h with
    | paused hp ho => exact .paused (by rw [hsame]; exact hp) (by rw [hhistory]; exact ho)
    | cutover hp => exact .cutover (by rw [hsame]; exact hp)
    | aborted hp => exact .aborted (hsame.trans hp)
    | aborting hp ho _ =>
      refine .aborting (hsame.trans hp) (by rw [hhistory]; exact ho) (.inl ?_)
      exact (workflowResumePhase_of_failed hphase).symm.trans (hsame.trans hp)
  · exact .paused hpaused (by rw [hhistory]; exact ho)

/-! ## An abort attempt -/

theorem abort_cases (status : WorkflowStatus) (attempt : AbortAttempt) (now : Time) :
    abort status true attempt now = (status, false) ∨
      ∃ aborting, transition status .aborting "stopping pod migration tools" now = .ok aborting ∧
        (abort status true attempt now = (aborting, false) ∨
          (∃ cause, abort status true attempt now = (fail aborting cause "" now, false)) ∨
          abort status true attempt now =
            (transitioned aborting .aborted
                "pod migration aborted; reserved volumes are retained for cleanup" now,
              podAbortNeedsResume status.phase status.resumeFrom status.history &&
                !attempt.settling)) := by
  unfold abort
  split
  · exact .inl rfl
  · simp only [Bool.not_true, Bool.false_eq_true, if_false]
    split
    · exact .inl rfl
    · split
      · exact .inl rfl
      · rename_i aborting hok
        refine .inr ⟨aborting, hok, ?_⟩
        split
        · exact .inl rfl
        · exact .inr (.inl ⟨_, rfl⟩)
        · exact .inr (.inr rfl)

/-- The `aborting` transition of a workflow with a paused workload leaves the checkpoint at
the paused phase, unless an earlier attempt failed. -/
theorem Origin.aborting_transition (h : Origin status)
    (hok : transition status .aborting message now = .ok status') : Origin status' := by
  obtain ⟨hvalid, hphase, hresume, hhistory⟩ := transition_ok hok
  have hR : workflowResumePhase status' = .aborting := by
    rw [workflowResumePhase_of_ne (by rw [hphase]; decide), hphase]
  have horigin (ho : PausedOrigin status.history) : PausedOrigin status'.history := by
    rw [hhistory]
    split
    · exact ho
    · exact ho.append (.inr (.inl rfl))
  cases h with
  | paused hp ho =>
    refine .aborting hR (horigin ho) (.inr ⟨hphase, ?_⟩)
    by_cases hf : status.phase = .failed
    · rw [workflowResumePhase_of_failed hf] at hp
      rw [hresume, if_neg (by simp [hf, storesResumePhase])]
      exact hp
    · rw [workflowResumePhase_of_ne hf] at hp
      have hne : status.phase ≠ .aborting := by intro h; rw [h] at hp; cases hp
      rw [hresume, if_pos (by simp [hf, hne, storesResumePhase])]
      exact hp
  | cutover hp => cases forward_of_cutover hp hvalid (by decide)
  | aborted hp =>
    rcases forward_of_abort (by rw [hp]; rfl) hvalid with h | h | h
    · cases h
    · rw [hp] at h; cases h
    · cases h
  | aborting hp ho hr =>
    refine .aborting hR (horigin ho) ?_
    by_cases hf : status.phase = .failed
    · rw [workflowResumePhase_of_failed hf] at hp
      rw [hresume, if_neg (by simp [hf, storesResumePhase])]
      exact .inl hp
    · rw [workflowResumePhase_of_ne hf] at hp
      rw [hresume, if_neg (by simp [hp]), hphase]
      exact hr.imp_right fun h => ⟨rfl, h.2⟩

theorem Origin.abort (h : Origin status) (attempt : AbortAttempt) (now : Time) :
    Origin (abort status true attempt now).1 := by
  rcases abort_cases status attempt now with hr | ⟨aborting, hok, hr | ⟨cause, hr⟩ | hr⟩ <;>
    rw [hr]
  · exact h
  · exact h.aborting_transition hok
  · exact (h.aborting_transition hok).fail cause "" now
  · rcases transitioned_cases aborting .aborted
        "pod migration aborted; reserved volumes are retained for cleanup" now with hok' | hsame
    · obtain ⟨-, hphase, -, -⟩ := transition_ok hok'
      exact .aborted (by rw [workflowResumePhase_of_ne (by rw [hphase]; decide), hphase])
    · simp only [hsame]
      exact h.aborting_transition hok

/-- As long as the history remembers the origin, the reconstruction is right. -/
theorem Origin.needsResume (h : Origin status)
    (hok : transition status .aborting message now = .ok status')
    (hremembered : status.resumeFrom = .aborting → lastProgress status.history ≠ none) :
    podAbortNeedsResume status.phase status.resumeFrom status.history = true := by
  obtain ⟨hvalid, -, -, -⟩ := transition_ok hok
  cases h with
  | paused hp ho =>
    by_cases hf : status.phase = .failed
    · rw [workflowResumePhase_of_failed hf] at hp
      have hne : status.resumeFrom ≠ .aborting := by intro h; rw [h] at hp; cases hp
      simp [podAbortNeedsResume, hf, hne, hp]
    · rw [workflowResumePhase_of_ne hf] at hp
      have hne : status.phase ≠ .aborting := by intro h; rw [h] at hp; cases hp
      simp [podAbortNeedsResume, hf, hne, hp]
  | cutover hp => cases forward_of_cutover hp hvalid (by decide)
  | aborted hp =>
    rcases forward_of_abort (by rw [hp]; rfl) hvalid with h | h | h
    · cases h
    · rw [hp] at h; cases h
    · cases h
  | aborting hp ho hr =>
    rcases hr with hr | ⟨hphase, hr⟩
    · obtain ⟨p, hlast⟩ := Option.ne_none_iff_exists'.mp (hremembered hr)
      have hpaused := ho p hlast
      simp [podAbortNeedsResume, hr, abortOriginWasPaused, hlast, hpaused]
    · have hne : status.resumeFrom ≠ .aborting := by intro h; rw [h] at hr; cases hr
      simp [podAbortNeedsResume, hphase, hne, hr]

/-! ## Whole runs -/

theorem Origin.write (h : Origin s.status) (hplanned : s.planned = true)
    (hi : OriginRemembered s i) : Origin (PodMigration.write s i).1 := by
  cases i with
  | plan generation cause now => simpa [PodMigration.write, hplanned] using h
  | advance next message now =>
    simp only [PodMigration.write]
    split
    · rename_i hnext
      rcases transitioned_cases s.status next message now with hok | hsame
      · exact h.advance hnext.2.1 hnext.2.2.1 hnext.2.2.2 hok
      · rw [hsame]; exact h
    · exact h
  | fail cause reason now => exact h.fail cause reason now
  | cancelled cause now => exact h.congr rfl rfl rfl
  | requestResume now =>
    simp only [PodMigration.write]
    split
    · exact h.reactivate ‹_›
    · exact h
  | specMutation generation now => exact h.specMutation hi
  | normalizeDeleted =>
    simp only [PodMigration.write]
    split
    · rename_i hunset
      have hR := workflowResumePhase_of_failed hunset.1
      rw [hunset.2] at hR
      cases h with
      | paused hp _ | cutover hp | aborted hp | aborting hp _ _ => rw [hR] at hp; cases hp
    · exact h
  | abort attempt now =>
    simp only [PodMigration.write, hplanned]
    exact h.abort attempt now

/-- An input that leaves the workflow in a paused phase found it there, or has just entered
it in the history. -/
theorem write_paused (h : pausedPhase (PodMigration.write s i).1.phase = true) :
    pausedPhase s.status.phase = true ∨ PausedOrigin (PodMigration.write s i).1.history := by
  cases i with
  | plan generation cause now =>
    simp only [PodMigration.write] at h
    split at h
    · exact .inl h
    · cases cause <;> simp [recordPlanningOutcome, pausedPhase] at h
  | advance next message now =>
    simp only [PodMigration.write] at h ⊢
    split at h
    · rename_i hnext
      rw [if_pos hnext]
      rcases transitioned_cases s.status next message now with hok | hsame
      · obtain ⟨-, hphase, -, hhistory⟩ := transition_ok hok
        rw [hphase] at h
        by_cases hsame : s.status.phase = next
        · exact .inl (by rw [hsame]; exact h)
        · rw [hhistory, if_neg hsame]
          exact .inr (pausedOrigin_append h)
      · rw [hsame] at h
        exact .inl h
    · exact .inl h
  | fail cause reason now =>
    rcases fail_cases s.status cause reason now with ⟨hphase, -, -⟩ | hsame
    · simp [PodMigration.write, hphase, pausedPhase] at h
    · simp only [PodMigration.write, hsame] at h
      exact .inl h
  | cancelled cause now => exact .inl h
  | requestResume now =>
    simp only [PodMigration.write] at h ⊢
    split at h
    · rename_i reopened hok
      obtain ⟨-, -, hphase, -, hhistory⟩ := reactivateWorkflow_ok hok
      rw [hphase] at h
      rw [hhistory]
      exact .inr (pausedOrigin_append h)
    · exact .inl h
  | specMutation generation now =>
    simp [PodMigration.write, recordPlanningFailureForMutation, pausedPhase] at h
  | normalizeDeleted =>
    simp only [PodMigration.write] at h
    split at h <;> exact .inl h
  | abort attempt now =>
    simp only [PodMigration.write] at h
    by_cases hplanned : s.planned = true
    · rw [hplanned] at h
      rcases abort_cases s.status attempt now with hr | ⟨aborting, hok, hr | ⟨cause, hr⟩ | hr⟩ <;>
        rw [hr] at h
      · exact .inl h
      · simp [(transition_ok hok).2.1, pausedPhase] at h
      · rcases fail_cases aborting cause "" now with ⟨hphase, -, -⟩ | hsame
        · simp [hphase, pausedPhase] at h
        · simp [hsame, (transition_ok hok).2.1, pausedPhase] at h
      · rcases transitioned_cases aborting .aborted
            "pod migration aborted; reserved volumes are retained for cleanup" now
          with hok' | hsame
        · simp [(transition_ok hok').2.1, pausedPhase] at h
        · simp [hsame, (transition_ok hok).2.1, pausedPhase] at h
    · simp only [PodMigration.abort, hplanned] at h
      split at h
      · exact .inl h
      · simp only [Bool.not_false, if_true] at h
        split at h
        · exact .inl h
        · rcases transitioned_cases s.status .aborted
              "pod migration aborted before execution planning" now with hok | hsame
          · simp [(transition_ok hok).2.1, pausedPhase] at h
          · simp only [hsame] at h
            exact .inl h

/-- Neither the phase nor the checkpoint is a paused phase. -/
def NeverPaused (status : WorkflowStatus) : Prop :=
  pausedPhase status.phase = false ∧ pausedPhase status.resumeFrom = false

theorem NeverPaused.transition (h : NeverPaused status) (hnext : pausedPhase next = false)
    (hok : transition status next message now = .ok status') : NeverPaused status' := by
  obtain ⟨-, hphase, hresume, -⟩ := transition_ok hok
  refine ⟨by rw [hphase]; exact hnext, ?_⟩
  rw [hresume]
  split
  · exact h.1
  · exact h.2

theorem NeverPaused.write (h : NeverPaused s.status) (hplanned : s.planned = false)
    (i : Input) : NeverPaused (PodMigration.write s i).1 := by
  cases i with
  | plan generation cause now =>
    cases cause <;>
      simp [PodMigration.write, hplanned, NeverPaused, recordPlanningOutcome, pausedPhase]
  | advance next message now => simpa [PodMigration.write, hplanned] using h
  | fail cause reason now =>
    rcases fail_cases s.status cause reason now with ⟨hphase, hresume, -⟩ | hsame
    · refine ⟨by simp [PodMigration.write, hphase, pausedPhase], ?_⟩
      simp only [PodMigration.write, hresume]
      split
      · exact h.2
      · exact h.1
    · simpa [PodMigration.write, hsame] using h
  | cancelled cause now => exact h
  | requestResume now =>
    simp only [PodMigration.write]
    split
    · rename_i reopened hok
      obtain ⟨-, -, hphase, hresume, -⟩ := reactivateWorkflow_ok hok
      exact ⟨by rw [hphase]; exact h.2, by rw [hresume]; exact h.2⟩
    · exact h
  | specMutation generation now =>
    refine ⟨by simp [PodMigration.write, recordPlanningFailureForMutation, pausedPhase], ?_⟩
    simp only [PodMigration.write, recordPlanningFailureForMutation,
      resumeFrom_setWorkflowCondition]
    split
    · exact h.1
    · exact h.2
  | normalizeDeleted =>
    simp only [PodMigration.write]
    split
    · exact ⟨h.1, rfl⟩
    · exact h
  | abort attempt now =>
    simp only [PodMigration.write, PodMigration.abort, hplanned]
    split
    · exact h
    · simp only [Bool.not_false, if_true]
      split
      · exact h
      · rcases transitioned_cases s.status .aborted
            "pod migration aborted before execution planning" now with hok | hsame
        · exact h.transition rfl hok
        · simpa [hsame] using h

/-- The invariant of the machine: a paused workload has an execution plan and an origin. -/
structure Inv (s : State) : Prop where
  unplanned : s.planned = false → NeverPaused s.status
  seen : s.abortStarted = false → pausedPhase s.status.phase = true → s.pausedWorkload = true
  planned : s.pausedWorkload = true → s.planned = true
  origin : s.pausedWorkload = true → Origin s.status

theorem inv_initial : Inv {} where
  unplanned _ := ⟨rfl, rfl⟩
  seen _ h := by cases h
  planned h := by cases h
  origin h := by cases h

/-- **One step keeps the invariant** when the origin is remembered. -/
theorem Inv.step (h : Inv s) (hi : OriginRemembered s i) :
    Inv (step s i) := by
  have hunplanned : (PodMigration.step s i).planned = false →
      NeverPaused (PodMigration.step s i).status := by
    intro hp
    have hp : s.planned = false := (Bool.or_eq_false_iff.mp hp).1
    exact (h.unplanned hp).write hp i
  -- a workload that is paused by this very step
  have hnew : s.pausedWorkload = false → (PodMigration.step s i).pausedWorkload = true →
      (PodMigration.step s i).planned = true ∧ Origin (PodMigration.step s i).status := by
    intro hold hnow
    have hnow : (PodMigration.step s i).abortStarted = false ∧
        pausedPhase (PodMigration.write s i).1.phase = true := by
      simpa [PodMigration.step, hold] using hnow
    refine ⟨?_, ?_⟩
    · by_contra hp
      have hnever := hunplanned (by simpa using hp)
      exact absurd hnow.2 (by rw [show (PodMigration.write s i).1.phase =
        (PodMigration.step s i).status.phase from rfl, hnever.1]; decide)
    · have hrun : (PodMigration.write s i).1.phase ≠ .failed := by
        intro hf
        have := hnow.2
        rw [hf] at this
        cases this
      rcases write_paused hnow.2 with hbefore | horigin
      · have hstarted : s.abortStarted = false := (Bool.or_eq_false_iff.mp hnow.1).1
        rw [h.seen hstarted hbefore] at hold
        cases hold
      · refine .paused ?_ horigin
        have hR : workflowResumePhase (PodMigration.step s i).status =
            (PodMigration.write s i).1.phase := workflowResumePhase_of_ne hrun
        rw [hR]
        exact hnow.2
  refine ⟨hunplanned, ?_, ?_, ?_⟩
  · intro hstarted hpaused
    have hstarted : (s.abortStarted ||
        abortPhase (workflowResumePhase (PodMigration.write s i).1)) = false := hstarted
    have hpaused : pausedPhase (PodMigration.write s i).1.phase = true := hpaused
    simp [PodMigration.step, hstarted, hpaused]
  · intro hnow
    by_cases hold : s.pausedWorkload = true
    · simp [PodMigration.step, h.planned hold]
    · exact (hnew (by simpa using hold) hnow).1
  · intro hnow
    by_cases hold : s.pausedWorkload = true
    · exact (h.origin hold).write (h.planned hold) hi
    · exact (hnew (by simpa using hold) hnow).2

theorem isAbort_of_reaches_aborted (horigin : Origin s.status) (hplanned : s.planned = true)
    (hi : OriginRemembered s i) (hbefore : workflowResumePhase s.status ≠ .aborted)
    (hafter : workflowResumePhase (PodMigration.write s i).1 = .aborted) :
    ∃ attempt now, i = .abort attempt now := by
  cases i with
  | abort attempt now => exact ⟨attempt, now, rfl⟩
  | plan generation cause now =>
    simp only [PodMigration.write, hplanned, if_true] at hafter
    exact absurd hafter hbefore
  | advance next message now =>
    simp only [PodMigration.write] at hafter
    split at hafter
    · rename_i hnext
      rcases transitioned_cases s.status next message now with hok | hsame
      · obtain ⟨-, hphase, -, -⟩ := transition_ok hok
        rw [workflowResumePhase_of_ne (by rw [hphase]; exact hnext.2.2.2), hphase] at hafter
        exact absurd hafter hnext.2.2.1
      · rw [hsame] at hafter
        exact absurd hafter hbefore
    · exact absurd hafter hbefore
  | fail cause reason now =>
    rcases fail_cases s.status cause reason now with ⟨hphase, hresume, -⟩ | hsame
    · simp only [PodMigration.write] at hafter
      rw [workflowResumePhase_of_failed hphase, hresume] at hafter
      exact absurd hafter hbefore
    · simp only [PodMigration.write, hsame] at hafter
      exact absurd hafter hbefore
  | cancelled cause now => exact absurd hafter hbefore
  | requestResume now =>
    simp only [PodMigration.write] at hafter
    split at hafter
    · rename_i reopened hok
      obtain ⟨hfailed, -, hphase, hresume, -⟩ := reactivateWorkflow_ok hok
      rw [workflowResumePhase_of_failed hfailed] at hbefore
      by_cases hne : reopened.phase = .failed
      · rw [workflowResumePhase_of_failed hne, hresume] at hafter
        exact absurd hafter hbefore
      · rw [workflowResumePhase_of_ne hne, hphase] at hafter
        exact absurd hafter hbefore
    · exact absurd hafter hbefore
  | specMutation generation now =>
    rcases horigin.mutation_cases hi with hsame | ⟨hpaused, -⟩
    · exact absurd (hsame.symm.trans hafter) hbefore
    · have haborted : pausedPhase .aborted = true := hafter ▸ hpaused
      cases haborted
  | normalizeDeleted =>
    simp only [PodMigration.write] at hafter
    split at hafter
    · rename_i hunset
      simp [workflowResumePhase, hunset.1] at hafter
    · exact absurd hafter hbefore

/-- **One step hands the workload back** when the origin is remembered. -/
theorem Inv.handsBack (h : Inv s) (hi : OriginRemembered s i) :
    HandsBack s i := by
  intro hafter hbefore hpaused
  have horigin := h.origin hpaused
  have hplanned := h.planned hpaused
  have hafter : workflowResumePhase (PodMigration.write s i).1 = .aborted := hafter
  obtain ⟨attempt, now, rfl⟩ := isAbort_of_reaches_aborted horigin hplanned hi hbefore hafter
  simp only [PodMigration.write, hplanned] at hafter ⊢
  rcases abort_cases s.status attempt now with hr | ⟨aborting, hok, hr⟩
  · rw [hr] at hafter
    exact absurd hafter hbefore
  · have haborting : aborting.phase = .aborting := (transition_ok hok).2.1
    rcases hr with hr | ⟨cause, hr⟩ | hr <;> rw [hr] at hafter ⊢
    · rw [workflowResumePhase_of_ne (by rw [haborting]; decide), haborting] at hafter
      cases hafter
    · rcases fail_cases aborting cause "" now with ⟨hphase, hresume, -⟩ | hsame
      · rw [workflowResumePhase_of_failed hphase, hresume, haborting] at hafter
        cases hafter
      · rw [hsame, workflowResumePhase_of_ne (by rw [haborting]; decide), haborting] at hafter
        cases hafter
    · by_cases hsettling : attempt.settling = true
      · exact .inr ⟨attempt, now, rfl, hsettling⟩
      · have hneeds := horigin.needsResume hok hi
        exact .inl (by simp [hneeds, hsettling])

/-- **Aborting hands the workload back along every run** in which the history still remembers
what an abort is retried from and no mutation failure meets a stale checkpoint. -/
theorem every_handsBack (is : List Input)
    (h : Machine.Every step OriginRemembered {} is) : Machine.Every step HandsBack {} is :=
  Machine.every_of_invariant (I := Inv) (fun _ _ hs hi => hs.step hi)
    (fun _ _ hs hi => hs.handsBack hi) inv_initial h

/-- A run that pauses the workload and then fails to abort it `n` times. -/
def failingAborts (n : Nat) : List Input :=
  [.plan 1 none 1, .advance .reserving "" 2, .advance .reserved "" 3, .advance .pausing "" 4,
    .advance .paused "" 5] ++
  List.replicate n (.abort ⟨false, .failed ⟨.kubernetes, "abort", "cleanup"⟩⟩ 6)

/-- The attempt that succeeds at last, outside any deletion pass. -/
def lastAbort : Input := .abort ⟨false, .finished⟩ 7

/-- After 128 failed attempts the workflow is aborted with the workload still paused: no call
to `workloads.Resume` was made. -/
theorem failingAborts_forget :
    ¬ Machine.Every step HandsBack {} (failingAborts 128 ++ [lastAbort]) := by
  intro h
  have hlast := Machine.every_iff.mp h (failingAborts 128) lastAbort [] rfl
  have hfacts : (let s := Machine.run step {} (failingAborts 128)
      workflowResumePhase (step s lastAbort).status = .aborted ∧
        workflowResumePhase s.status = .aborting ∧ s.pausedWorkload = true ∧
        (write s lastAbort).2 = false) := by
    decide +kernel
  obtain ⟨hafter, hbefore, hpaused, hresume⟩ := hfacts
  rcases hlast hafter (by rw [hbefore]; decide) hpaused with h | ⟨attempt, now, heq, hsettling⟩
  · rw [hresume] at h
    cases h
  · cases heq
    cases hsettling

/-- A run with one failed attempt, handed back by the second one. -/
theorem failingAborts_hand_back :
    Machine.Every step HandsBack {} (failingAborts 1 ++ [lastAbort]) :=
  every_handsBack _ (by
    simp only [failingAborts, lastAbort, List.replicate, List.cons_append, List.nil_append,
      Machine.every_cons, Machine.every_nil, OriginRemembered, and_true, true_and]
    exact ⟨fun _ => by decide, fun _ => by decide⟩)

end PodMigration

end PvcMigrate
