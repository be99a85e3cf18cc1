import PvcMigrate.Backup.RepositoryWorkflow

/-!
# What repository workflows keep

An executor's copy of the object may be out of date: a save that reported an error may have been
carried out, and others edit the object.  What it knows is tied to the resource version.  Where its
copy has the stored resource version, an abort or a completion that was ever stored shows in the
copy; where it does not, the next save is refused.  So every save keeps the order of the phases that
were stored.

An object that the executor validated stays valid through its own writes, since each of them changes
the lifecycle along an edge of the repository workflows, or one checkpoint.
-/

namespace PvcMigrate

namespace RepositoryWorkflow

open Check Prog

/-! ## Lifecycles -/

/-- The phase, or the phase from which the workflow goes on, is one of a copy or its completion. -/
def Forward (s : WorkflowStatus) : Prop :=
  ∃ phase ∈ [s.phase, workflowResumePhase s],
    phase = .warmCopying ∨ phase = .warmCopied ∨ phase = .completed

/-- The workflow is aborted, or is being aborted. -/
def Closed (s : WorkflowStatus) : Prop :=
  workflowResumePhase s = .aborting ∨ workflowResumePhase s = .aborted

instance (s : WorkflowStatus) : Decidable (Closed s) := inferInstanceAs (Decidable (_ ∨ _))

variable {s : WorkflowStatus}

theorem Closed.not_forward (h : Closed s) : ¬ Forward s := by
  intro hforward
  obtain ⟨phase, hphase, hcopies⟩ := hforward
  unfold Closed workflowResumePhase at h
  unfold workflowResumePhase at hphase
  by_cases hfailed : s.phase = .failed
  · simp only [hfailed, if_true, List.mem_cons, List.not_mem_nil, or_false] at h hphase
    rcases hphase with rfl | rfl
    · simp at hcopies
    · rcases h with h | h <;> simp [h] at hcopies
  · simp only [hfailed, if_false, List.mem_cons, List.not_mem_nil, or_false, or_self] at h hphase
    subst hphase
    rcases h with h | h <;> simp [h] at hcopies

theorem closed_of_phase_aborting (h : s.phase = .aborting) : Closed s := by
  simp [Closed, workflowResumePhase, h]

/-- A lifecycle that the validation accepts, of a workflow with a plan. -/
theorem validateRepositoryStatus_planned :
    validateRepositoryStatus s true = .ok () ↔
      s.failureReason = "" ∧ allowedPhase s.phase = true ∧
      (s.resumeFrom = .unset ∨ allowedPhase s.resumeFrom = true) ∧
      (s.phase = .aborting → recoverablePhase s.resumeFrom = true) ∧
      (s.phase = .failed → recoverablePhase s.resumeFrom = true) := by
  simp only [validateRepositoryStatus, validateBegunStatus, andThen_eq_ok, refuse_eq_ok,
    onlyIf_eq_ok]
  grind

/-- A lifecycle that the validation accepts, of a workflow without a plan. -/
theorem validateRepositoryStatus_unplanned :
    validateRepositoryStatus s false = .ok () ↔
      s.failureReason = "" ∧ ((s.phase = .unset ∧ s.resumeFrom = .unset) ∨
        (allowedPhase s.phase = true ∧
          (s.resumeFrom = .unset ∨ allowedPhase s.resumeFrom = true) ∧
          (s.phase = .aborting → recoverablePhase s.resumeFrom = true) ∧
          (s.phase = .failed → recoverablePhase s.resumeFrom = true) ∧
          (workflowResumePhase s = .planned ∨ Closed s))) := by
  simp only [validateRepositoryStatus, validateBegunStatus, andThen_eq_ok, refuse_eq_ok,
    onlyIf_eq_ok, Closed]
  grind

theorem recoverable_of_failed {planned : Bool}
    (hvalid : validateRepositoryStatus s planned = .ok ()) (hfailed : s.phase = .failed) :
    recoverablePhase s.resumeFrom = true := by
  cases planned with
  | true => exact (validateRepositoryStatus_planned.mp hvalid).2.2.2.2 hfailed
  | false =>
    rcases (validateRepositoryStatus_unplanned.mp hvalid).2 with hfresh | hbegun
    · simp [hfailed] at hfresh
    · exact hbegun.2.2.2.1 hfailed

/-! ## Changes of a lifecycle -/

/-- `s'` is `s` after a phase change along an edge of the repository workflows. -/
structure Transitioned (s : WorkflowStatus) (next : WorkflowPhase) (s' : WorkflowStatus) :
    Prop where
  phase : s'.phase = next
  resumeFrom : s'.resumeFrom =
    if s.phase ≠ next ∧ storesResumePhase s.phase next then s.phase else s.resumeFrom
  observedGeneration : s'.observedGeneration = s.observedGeneration
  failureReason : s.failureReason = "" → s'.failureReason = ""
  edge : s.phase = next ∨ next ∈ repositoryEdges s.phase

section Lifecycle

variable {s s' : WorkflowStatus} {next : WorkflowPhase} {message : String} {time : Time}

theorem observedGeneration_recordWorkflowTransition :
    (recordWorkflowTransition s next message time).observedGeneration = s.observedGeneration := by
  unfold recordWorkflowTransition
  split <;> rfl

theorem failureReason_recordWorkflowTransition (h : s.failureReason = "") :
    (recordWorkflowTransition s next message time).failureReason = "" := by
  unfold recordWorkflowTransition
  split
  · exact h
  · simp [h]

theorem transitioned_of_ok (h : transitionRepository s next message time = .ok s') :
    Transitioned s next s' := by
  unfold transitionRepository at h
  split at h
  · rename_i hsame
    cases h
    exact ⟨hsame, by simp [hsame], rfl, id, .inl hsame⟩
  · split at h
    · rename_i hedge
      cases h
      exact ⟨phase_recordWorkflowTransition .., resumeFrom_recordWorkflowTransition ..,
        observedGeneration_recordWorkflowTransition, failureReason_recordWorkflowTransition,
        .inr hedge⟩
    · cases h

theorem Transitioned.withMessage (h : Transitioned s next s') (text : String) :
    Transitioned s next { s' with message := text } :=
  ⟨h.phase, h.resumeFrom, h.observedGeneration, h.failureReason, h.edge⟩

theorem transitioned_of_failedStatus {cause : Error} (h : failedStatus s cause time = .ok s') :
    Transitioned s .failed s' := by
  unfold failedStatus at h
  rw [bind_eq_ok] at h
  obtain ⟨middle, hmiddle, hrest⟩ := h
  have hfailed : Transitioned s .failed middle := by
    unfold enterFailed at hmiddle
    split at hmiddle
    · rename_i hsame
      cases hmiddle
      exact ⟨hsame, by simp [hsame], rfl, id, .inl hsame⟩
    · exact transitioned_of_ok hmiddle
  cases hrest
  exact ⟨hfailed.phase, hfailed.resumeFrom, hfailed.observedGeneration, hfailed.failureReason,
    hfailed.edge⟩

theorem Transitioned.valid (h : Transitioned s next s')
    (hvalid : validateRepositoryStatus s true = .ok ()) :
    validateRepositoryStatus s' true = .ok () := by
  rw [validateRepositoryStatus_planned] at hvalid ⊢
  obtain ⟨hreason, hphase, hresume, haborting, hfailed⟩ := hvalid
  have hedge := h.edge
  rw [h.phase, h.resumeFrom]
  refine ⟨h.failureReason hreason, ?_⟩
  rcases hedge with hsame | hedge
  · simp only [hsame, ne_eq, not_true_eq_false, false_and, if_false] at *
    exact ⟨hphase, hresume, haborting, hfailed⟩
  · -- one case for each edge; the phase that is left becomes the resume phase or not
    cases hcurrent : s.phase <;> simp_all [repositoryEdges] <;>
      rcases hedge with rfl | rfl | rfl <;>
      simp_all [allowedPhase, recoverablePhase, storesResumePhase]

theorem Transitioned.resumePhase_failed (h : Transitioned s .failed s') :
    workflowResumePhase s' = workflowResumePhase s := by
  unfold workflowResumePhase
  rw [h.phase, if_pos rfl, h.resumeFrom]
  by_cases hfailed : s.phase = .failed
  · simp [hfailed]
  · simp [hfailed, storesResumePhase]

section

variable (h : Transitioned s next s')
include h

theorem Transitioned.resumePhase_of_ne (hnext : next ≠ .failed) :
    workflowResumePhase s' = next := by
  unfold workflowResumePhase
  rw [h.phase, if_neg hnext]

/-- An abort stays one, unless a failed workflow is sent back to the copy. -/
theorem Transitioned.closed
    (hback : s.phase = .failed → next ≠ .warmCopying) (hclosed : Closed s) : Closed s' := by
  by_cases hnext : next = .failed
  · subst hnext
    unfold Closed
    rw [h.resumePhase_failed]
    exact hclosed
  · unfold Closed
    rw [h.resumePhase_of_ne hnext]
    unfold Closed workflowResumePhase at hclosed
    rcases h.edge with hsame | hedge
    · rw [hsame, if_neg hnext] at hclosed
      exact hclosed
    · cases hcurrent : s.phase <;> simp_all [repositoryEdges]

theorem Transitioned.completed (hcompleted : s.phase = .completed) : s'.phase = .completed := by
  rcases h.edge with hsame | hedge
  · rw [h.phase, ← hsame, hcompleted]
  · simp [hcompleted, repositoryEdges] at hedge

/-- After a phase change, a copy that is done was done before, or is done now. -/
theorem Transitioned.copied
    (hdone : workflowResumePhase s' = .warmCopied ∨ workflowResumePhase s' = .completed) :
    next = .warmCopied ∨ workflowResumePhase s = .warmCopied ∨
      workflowResumePhase s = .completed := by
  by_cases hnext : next = .failed
  · subst hnext
    rw [h.resumePhase_failed] at hdone
    exact .inr hdone
  · rw [h.resumePhase_of_ne hnext] at hdone
    rcases hdone with rfl | rfl
    · exact .inl rfl
    · right
      unfold workflowResumePhase
      rcases h.edge with hsame | hedge
      · simp [hsame]
      · cases hcurrent : s.phase <;> simp_all [repositoryEdges]

end

section

variable (h : reactivateWorkflow s message time = .ok s')
include h

theorem reactivated :
    s'.phase = s.resumeFrom ∧ s'.resumeFrom = s.resumeFrom ∧ s'.failureReason = "" ∧
      s'.observedGeneration = s.observedGeneration ∧ s.phase = .failed := by
  unfold reactivateWorkflow at h
  split at h
  · cases h
  · rename_i hguard
    cases h
    push Not at hguard
    exact ⟨rfl, rfl, rfl, rfl, hguard.1⟩

theorem resumePhase_reactivated {planned : Bool}
    (hvalid : validateRepositoryStatus s planned = .ok ()) :
    recoverablePhase s.resumeFrom = true ∧ workflowResumePhase s' = workflowResumePhase s := by
  obtain ⟨hphase, hresume, -, -, hfailed⟩ := reactivated h
  refine ⟨recoverable_of_failed hvalid hfailed, ?_⟩
  unfold workflowResumePhase
  rw [hphase, hfailed, if_pos rfl]
  split
  · exact hresume
  · rfl

theorem valid_reactivated {planned : Bool} (hvalid : validateRepositoryStatus s planned = .ok ()) :
    validateRepositoryStatus s' planned = .ok () := by
  obtain ⟨hphase, hresume, hreason, -, hfailed⟩ := reactivated h
  obtain ⟨hrecoverable, hpoint⟩ := resumePhase_reactivated h hvalid
  have hallowed : allowedPhase s.resumeFrom = true := by
    cases hr : s.resumeFrom <;> simp_all [recoverablePhase, allowedPhase]
  cases planned with
  | true =>
    rw [validateRepositoryStatus_planned, hphase, hresume]
    exact ⟨hreason, hallowed, .inr hallowed, fun _ => hrecoverable, fun _ => hrecoverable⟩
  | false =>
    have hbegun := (validateRepositoryStatus_unplanned.mp hvalid).2
    simp only [hfailed, reduceCtorEq, false_and, false_or] at hbegun
    have hend : workflowResumePhase s' = .planned ∨ Closed s' := by
      unfold Closed
      rw [hpoint]
      exact hbegun.2.2.2.2
    rw [validateRepositoryStatus_unplanned, hphase, hresume]
    exact ⟨hreason, .inr ⟨hallowed, .inr hallowed, fun _ => hrecoverable, fun _ => hrecoverable,
      hend⟩⟩

end

theorem valid_abortedUnplanned (hvalid : validateRepositoryStatus s false = .ok ()) :
    validateRepositoryStatus (recordWorkflowTransition s .aborted message time) false = .ok () := by
  rw [validateRepositoryStatus_unplanned] at hvalid ⊢
  obtain ⟨hreason, hcases⟩ := hvalid
  have hresume : (recordWorkflowTransition s .aborted message time).resumeFrom = s.resumeFrom := by
    rw [resumeFrom_recordWorkflowTransition]
    simp [storesResumePhase]
  refine ⟨failureReason_recordWorkflowTransition hreason, .inr ?_⟩
  rw [phase_recordWorkflowTransition, hresume]
  refine ⟨rfl, ?_, by simp, by simp, .inr (by simp [Closed, workflowResumePhase])⟩
  rcases hcases with hfresh | hbegun
  · exact .inl hfresh.2
  · exact hbegun.2.1

theorem closed_normalize (h : Closed s) : normalizeDeletedRepositoryStatus s = s := by
  unfold normalizeDeletedRepositoryStatus
  split
  · rename_i hunset
    simp [Closed, workflowResumePhase, hunset.1, hunset.2] at h
  · rfl

theorem phase_normalize : (normalizeDeletedRepositoryStatus s).phase = s.phase := by
  unfold normalizeDeletedRepositoryStatus
  split <;> rfl

end Lifecycle

/-! ## Lawful objects -/

/-- What the validation of an object has to do with its lifecycle. -/
class LawfulRepositoryObject (Ω : Type) [RepositoryObject Ω] where
  /-- The object has what a finished copy requires. -/
  Copied : Ω → Prop
  status_withStatus : ∀ (o : Ω) s, status (withStatus o s) = s
  planned_withStatus : ∀ (o : Ω) s, planned (withStatus o s) = planned o
  withStatus_status : ∀ o : Ω, withStatus o (status o) = o
  validate_status : ∀ o : Ω, validate o = .ok () →
    validateRepositoryStatus (status o) (planned o) = .ok ()
  validate_copied : ∀ o : Ω, validate o = .ok () →
    workflowResumePhase (status o) = .warmCopied ∨ workflowResumePhase (status o) = .completed →
    Copied o
  validate_withStatus : ∀ (o : Ω) s, validate o = .ok () →
    validateRepositoryStatus s (planned o) = .ok () →
    s.observedGeneration = (status o).observedGeneration →
    (workflowResumePhase s = .warmCopied ∨ workflowResumePhase s = .completed → Copied o) →
    validate (withStatus o s) = .ok ()
  validateStatus_of_validate : ∀ o : Ω, validate o = .ok () → validateStatus o = .ok ()
  status_edited : ∀ o o' : Ω, RepositoryObject.Edited o o' → status o' = status o
  validateStatus_edited : ∀ o o' : Ω, RepositoryObject.Edited o o' → validateStatus o = .ok () →
    validateStatus o' = .ok ()

export LawfulRepositoryObject (Copied)

attribute [simp] LawfulRepositoryObject.status_withStatus LawfulRepositoryObject.planned_withStatus

open LawfulRepositoryObject

variable {Ω : Type} [RepositoryObject Ω]

/-! ## The log -/

def HasPersisted (phase : WorkflowPhase) (log : List (Event Ω)) : Prop :=
  ∃ o, .persisted o ∈ log ∧ (status o).phase = phase

variable (log : List (Event Ω))

def Admissible : Event Ω → Prop
  | .handed _ => True
  | .persisted o =>
    (HasPersisted .aborting log → ¬ Forward (status o)) ∧
      (HasPersisted .completed log → (status o).phase = .completed)
  | .transferred => ¬ HasPersisted .aborting log

/-- Every event was admissible when it happened. -/
def Orderly : List (Event Ω) → Prop
  | [] => True
  | event :: log => Orderly log ∧ Admissible log event

/-- After an abort that was stored, no status goes forward, and no transfer starts. -/
def StaysAborted : Prop :=
  ∀ newer older o, log = newer ++ .persisted o :: older → (status o).phase = .aborting →
    (∀ x, .persisted x ∈ newer → ¬ Forward (status x)) ∧ .transferred ∉ newer

/-- After a completion that was stored, the phase stays. -/
def StaysCompleted : Prop :=
  ∀ newer older o, log = newer ++ .persisted o :: older → (status o).phase = .completed →
    ∀ x, .persisted x ∈ newer → (status x).phase = .completed

section Log

variable {log : List (Event Ω)} {phase : WorkflowPhase} {o : Ω}

@[simp] theorem hasPersisted_handed :
    HasPersisted phase (.handed o :: log) ↔ HasPersisted phase log := by
  simp [HasPersisted]

@[simp] theorem hasPersisted_transferred :
    HasPersisted phase ((.transferred : Event Ω) :: log) ↔ HasPersisted phase log := by
  simp [HasPersisted]

@[simp] theorem hasPersisted_persisted :
    HasPersisted phase (.persisted o :: log) ↔ (status o).phase = phase ∨
      HasPersisted phase log := by
  simp only [HasPersisted, List.mem_cons, Event.persisted.injEq]
  constructor
  · intro h
    obtain ⟨x, rfl | hmem, hphase⟩ := h
    · exact .inl hphase
    · exact .inr ⟨x, hmem, hphase⟩
  · intro h
    rcases h with hphase | ⟨x, hmem, hphase⟩
    · exact ⟨o, .inl rfl, hphase⟩
    · exact ⟨x, .inr hmem, hphase⟩

/-- An event that came later was admissible after all that was stored before it. -/
theorem Orderly.admissible {newer older : List (Event Ω)} {event : Event Ω}
    (h : Orderly (newer ++ older)) (hevent : event ∈ newer) :
    ∃ between, Admissible (between ++ older) event := by
  induction newer with
  | nil => cases hevent
  | cons first newer ih =>
    rcases List.mem_cons.mp hevent with rfl | hlater
    · exact ⟨newer, h.2⟩
    · exact ih h.1 hlater

theorem hasPersisted_append {between older : List (Event Ω)} (hphase : (status o).phase = phase) :
    HasPersisted phase (between ++ .persisted o :: older) :=
  ⟨o, by simp, hphase⟩

theorem Orderly.staysAborted (h : Orderly log) : StaysAborted log := by
  intro newer older o hlog hphase
  subst hlog
  constructor
  · intro x hx
    obtain ⟨between, hadmissible⟩ := h.admissible hx
    exact hadmissible.1 (hasPersisted_append hphase)
  · intro htransferred
    obtain ⟨between, hadmissible⟩ := h.admissible htransferred
    exact hadmissible (hasPersisted_append hphase)

theorem Orderly.staysCompleted (h : Orderly log) : StaysCompleted log := by
  intro newer older o hlog hphase x hx
  subst hlog
  obtain ⟨between, hadmissible⟩ := h.admissible hx
  exact hadmissible.2 (hasPersisted_append hphase)

end Log

/-! ## The invariant -/

/-- The invariant of the runs.  Under `p`, the status of the stored object is valid; under `q`, no
abort has been stored. -/
structure Inv (p q : Prop) (w : World Ω) : Prop where
  handed : ∀ o, .handed o ∈ w.log → validate o = .ok ()
  orderly : Orderly w.log
  closed : HasPersisted .aborting w.log → Closed (status w.stored)
  completed : HasPersisted .completed w.log → (status w.stored).phase = .completed
  lasting : p → validateStatus w.stored = .ok ()
  quiet : q → ¬ HasPersisted .aborting w.log

/-- The executor's copy shows what was stored, as far as it has the stored resource version. -/
structure Fits (m : Memory Ω) (w : World Ω) : Prop where
  seen : m.version ≤ w.version
  closed : m.version = w.version → HasPersisted .aborting w.log → Closed m.status
  completed : m.version = w.version → HasPersisted .completed w.log → m.status.phase = .completed

/-- What an executor knows of its copy.  Under `q` the workflow has a plan and is not aborted. -/
structure Carries (q : Prop) (m : Memory Ω) (w : World Ω) : Prop where
  valid : validate m.object = .ok ()
  fits : Fits m w
  active : q → planned m.object = true ∧ ¬ Closed m.status

def Fails (q : Prop) (w : World Ω) (failed : Error × Memory Ω) : Prop := Carries q failed.2 w

/-- What holds of a run between its steps: the copy has `P`, and is active. -/
structure Running (P : Ω → Prop) (w : World Ω) (m : Memory Ω) : Prop where
  kept : P m.object
  carries : Carries True m w

abbrev Safe {α : Type} (p q : Prop) (x : Action Ω α) (A : World Ω → α → Prop)
    (w : World Ω) : Prop :=
  x.Keeps Observed (Inv p q) A (Fails q) w

/-- What is to be stored follows from the executor's copy. -/
structure Follows (q : Prop) (m next : Memory Ω) : Prop where
  version : next.version = m.version
  valid : validate next.object = .ok ()
  closed : Closed m.status → Closed next.status
  completed : m.status.phase = .completed → next.status.phase = .completed
  active : q → planned next.object = true ∧ ¬ Closed next.status

/-- A condition that others do not break, and that suffices for a failure with this copy. -/
structure Guard (P : World Ω → Prop) (E : World Ω → Error × Memory Ω → Prop) (m : Memory Ω) :
    Prop where
  stable : ∀ {w w'}, w.Disturbed w' → P w → P w'
  fails : ∀ {w} e, P w → E w (e, m)

section Copies

variable {p q : Prop} {w w' : World Ω} {m : Memory Ω}

theorem fits_of_lt (h : m.version < w.version) : Fits m w :=
  ⟨le_of_lt h, fun hsame => absurd hsame (ne_of_lt h), fun hsame => absurd hsame (ne_of_lt h)⟩

theorem Fits.disturbed (hm : Fits m w) (h : w.Disturbed w') : Fits m w' := by
  cases h with
  | refl => exact hm
  | edited _ hversion => exact fits_of_lt (lt_of_le_of_lt hm.seen hversion)

theorem Carries.disturbed (hm : Carries q m w) (h : w.Disturbed w') : Carries q m w' :=
  ⟨hm.valid, hm.fits.disturbed h, hm.active⟩

theorem guard_carries : Guard (Carries q m) (Fails q) m :=
  ⟨fun h hm => hm.disturbed h, fun _ hm => hm⟩

theorem guard_running {P : Ω → Prop} : Guard (Running P · m) (Fails True) m :=
  ⟨fun h hm => ⟨hm.kept, hm.carries.disturbed h⟩, fun _ hm => hm.carries⟩

theorem Inv.fits (hI : Inv p q w) (hm : Known m w) : Fits m w := by
  refine ⟨hm.seen, fun hsame => ?_, fun hsame => ?_⟩
  · rw [Memory.status, hm.same hsame]
    exact hI.closed
  · rw [Memory.status, hm.same hsame]
    exact hI.completed

theorem Fits.hand (hm : Fits m w) (o : Ω) : Fits m (w.hand o) :=
  ⟨hm.seen, fun hsame h => hm.closed hsame (hasPersisted_handed.mp h),
    fun hsame h => hm.completed hsame (hasPersisted_handed.mp h)⟩

theorem Carries.hand (hm : Carries q m w) (o : Ω) : Carries q m (w.hand o) :=
  ⟨hm.valid, hm.fits.hand o, hm.active⟩

theorem Carries.store (hm : Carries q m w) (o : Ω) : Carries q m (w.store o) :=
  ⟨hm.valid, fits_of_lt (Nat.lt_succ_of_le hm.fits.seen), hm.active⟩

theorem Inv.fits_store {next : Memory Ω} (hI : Inv p q (w.store next.object)) :
    Fits { next with version := w.version + 1 } (w.store next.object) :=
  ⟨le_refl _, fun _ => hI.closed, fun _ => hI.completed⟩

theorem Inv.hand (hI : Inv p q w) {o : Ω} (ho : validate o = .ok ()) : Inv p q (w.hand o) where
  handed x hx := by
    rcases List.mem_cons.mp hx with heq | hmem
    · cases heq
      exact ho
    · exact hI.handed x hmem
  orderly := ⟨hI.orderly, trivial⟩
  closed h := hI.closed (hasPersisted_handed.mp h)
  completed h := hI.completed (hasPersisted_handed.mp h)
  lasting := hI.lasting
  quiet hq h := hI.quiet hq (hasPersisted_handed.mp h)

theorem Inv.transferred (hI : Inv p q w) (hq : q) : Inv p q w.transferred where
  handed x hx := by
    rcases List.mem_cons.mp hx with heq | hmem
    · cases heq
    · exact hI.handed x hmem
  orderly := ⟨hI.orderly, hI.quiet hq⟩
  closed h := hI.closed (hasPersisted_transferred.mp h)
  completed h := hI.completed (hasPersisted_transferred.mp h)
  lasting := hI.lasting
  quiet hq' h := hI.quiet hq' (hasPersisted_transferred.mp h)

theorem Carries.transferred (hm : Carries q m w) : Carries q m w.transferred :=
  ⟨hm.valid, ⟨hm.fits.seen, fun hsame h => hm.fits.closed hsame (hasPersisted_transferred.mp h),
    fun hsame h => hm.fits.completed hsame (hasPersisted_transferred.mp h)⟩, hm.active⟩

theorem Inv.weaken (hI : Inv p q w) : Inv p False w :=
  ⟨hI.handed, hI.orderly, hI.closed, hI.completed, hI.lasting, False.elim⟩

end Copies

section Invariant

variable [LawfulRepositoryObject Ω] {p q : Prop} {w w' : World Ω} {m : Memory Ω}

theorem Inv.disturbed (hI : Inv p q w) (h : w.Disturbed w') : Inv p q w' := by
  cases h with
  | refl => exact hI
  | edited hedited _ =>
    have hstatus := status_edited _ _ hedited
    exact {
      handed := hI.handed
      orderly := hI.orderly
      closed := fun hpersisted => by simpa only [hstatus] using hI.closed hpersisted
      completed := fun hpersisted => by simpa only [hstatus] using hI.completed hpersisted
      lasting := fun hp => validateStatus_edited _ _ hedited (hI.lasting hp)
      quiet := hI.quiet }

/-- **A save keeps the invariant**: the copy had the stored resource version, so what was stored
before shows in it, and what follows from the copy is admissible. -/
theorem Inv.store {next : Memory Ω} (hI : Inv p q w) (hm : Fits m w) (hf : Follows q m next)
    (hversion : m.version = w.version) : Inv p q (w.store next.object) where
  handed x hx := by
    rcases List.mem_cons.mp hx with heq | hmem
    · cases heq
    · exact hI.handed x hmem
  orderly := by
    refine ⟨hI.orderly, fun haborted => ?_, fun hcompleted => ?_⟩
    · exact (hf.closed (hm.closed hversion haborted)).not_forward
    · exact hf.completed (hm.completed hversion hcompleted)
  closed h := by
    rcases hasPersisted_persisted.mp h with hphase | hbefore
    · exact closed_of_phase_aborting hphase
    · exact hf.closed (hm.closed hversion hbefore)
  completed h := by
    rcases hasPersisted_persisted.mp h with hphase | hbefore
    · exact hphase
    · exact hf.completed (hm.completed hversion hbefore)
  lasting _ := validateStatus_of_validate _ hf.valid
  quiet hq h := by
    rcases hasPersisted_persisted.mp h with hphase | hbefore
    · exact (hf.active hq).2 (closed_of_phase_aborting hphase)
    · exact hI.quiet hq hbefore

end Invariant

/-! ## Rules for the steps -/

section Rules

variable [LawfulRepositoryObject Ω] {p q : Prop} {w : World Ω} {m : Memory Ω}
  {P : World Ω → Prop} {E : World Ω → Error × Memory Ω → Prop} {α : Type}

/-- Steps that store nothing and load nothing. -/
def Reads (op : Op Ω) : Prop := (∀ m, op ≠ .save m) ∧ op ≠ .load ∧ op ≠ .transfer

def Op.isRead : Op Ω → Bool
  | .save _ | .load | .transfer => false
  | _ => true

omit [RepositoryObject Ω] [LawfulRepositoryObject Ω] in
theorem Op.reads {op : Op Ω} (h : op.isRead = true) : Reads op := by
  refine ⟨?_, ?_, ?_⟩
  · rintro m rfl
    cases h
  · rintro rfl
    cases h
  · rintro rfl
    cases h

omit [RepositoryObject Ω] [LawfulRepositoryObject Ω] in
theorem performed_read {op : Op Ω} {r : Reply op} {w' : World Ω} (hop : Reads op)
    (h : Performed w op r w') : w' = w ∧ Answers op r := by
  cases h with
  | saved _ | savedUnseen _ | refused => exact absurd rfl (hop.1 _)
  | loaded | notLoaded => exact absurd rfl hop.2.1
  | transferred => exact absurd rfl hop.2.2
  | read _ _ _ hanswers => exact ⟨rfl, hanswers⟩

theorem keeps_read {op : Op Ω} (hread : op.isRead = true) (hI : Inv p q w)
    (hstable : ∀ {w w'}, w.Disturbed w' → P w → P w') (hP : P w) :
    (ask op).Keeps Observed (Inv p q) (fun w' r => P w' ∧ Answers op r) E w := by
  refine keeps_perform.mpr ⟨hI, fun r w' hobs => ?_⟩
  obtain ⟨disturbed, hdisturbed, hperformed⟩ := hobs
  obtain ⟨rfl, hanswers⟩ := performed_read (Op.reads hread) hperformed
  exact ⟨hI.disturbed hdisturbed, hstable hdisturbed hP, hanswers⟩

omit [LawfulRepositoryObject Ω] in
theorem keeps_report (hI : Inv p q w) (hP : P w) (hE : ∀ e, E w (e, m)) (r : Option Error) :
    (report m r).Keeps Observed (Inv p q) (fun w' _ => P w') E w := by
  cases r with
  | none => exact ⟨hI, hP⟩
  | some e => exact ⟨hI, hE e⟩

omit [LawfulRepositoryObject Ω] in
theorem keeps_orFail (hI : Inv p q w) (hE : ∀ e, E w (e, m)) (r : Except Error α) :
    (orFail m r).Keeps Observed (Inv p q) (fun w' a => w' = w ∧ r = .ok a) E w := by
  cases r with
  | error e => exact ⟨hI, hE e⟩
  | ok a => exact ⟨hI, rfl, rfl⟩

omit [LawfulRepositoryObject Ω] in
theorem keeps_orFail_bind {β : Type} {r : Except Error α} {f : α → Action Ω β}
    {A : World Ω → β → Prop} (hI : Inv p q w) (hE : ∀ e, E w (e, m))
    (hf : ∀ a, r = .ok a → (f a).Keeps Observed (Inv p q) A E w) :
    (orFail m r >>= f).Keeps Observed (Inv p q) A E w := by
  refine (keeps_orFail hI hE r).bind fun w' a _ h => ?_
  rw [h.1]
  exact hf a h.2

section

variable (hg : Guard P E m) (hI : Inv p q w) (hP : P w)
include hg hI hP

theorem keeps_contextErr : (contextErr m).Keeps Observed (Inv p q) (fun w' _ => P w') E w := by
  refine (keeps_read rfl hI hg.stable hP).bind fun w' r hI' hP' => ?_
  exact keeps_report hI' hP'.1 (fun e => hg.fails e hP'.1) r

theorem keeps_leaseFence : (leaseFence m).Keeps Observed (Inv p q) (fun w' _ => P w') E w := by
  refine (keeps_read rfl hI hg.stable hP).bind fun w' r hI' hP' => ?_
  exact keeps_report hI' hP'.1 (fun e => hg.fails e hP'.1) r

theorem keeps_service (s : Service) :
    (service s m).Keeps Observed (Inv p q) (fun w' _ => P w') E w := by
  refine (keeps_read rfl hI hg.stable hP).bind fun w' r hI' hP' => ?_
  exact keeps_report hI' hP'.1 (fun e => hg.fails e hP'.1) r

end

omit [LawfulRepositoryObject Ω] in
theorem keeps_onlyWhen {c : Prop} [Decidable c] {x : Action Ω Unit} (hI : Inv p q w) (hP : P w)
    (hx : x.Keeps Observed (Inv p q) (fun w' _ => P w') E w) :
    (onlyWhen c x).Keeps Observed (Inv p q) (fun w' _ => P w') E w :=
  keeps_ite (fun _ => hx) fun _ => ⟨hI, hP⟩

theorem keeps_toolsStopped (hg : Guard P E m) (hI : Inv p q w) (hP : P w) :
    (toolsStopped m).Keeps Observed (Inv p q) (fun w' _ => P w') E w :=
  keeps_onlyWhen hI hP (keeps_service hg hI hP _)

theorem keeps_now (hI : Inv p q w) (hstable : ∀ {w w'}, w.Disturbed w' → P w → P w') (hP : P w) :
    (now : Action Ω Time).Keeps Observed (Inv p q) (fun w' _ => P w') E w :=
  (keeps_read rfl hI hstable hP).post fun _ _ h => h.1

theorem keeps_getClaim (hg : Guard P E m) (hI : Inv p q w) (hP : P w) (ns name : String) :
    (getClaim ns name m).Keeps Observed (Inv p q)
      (fun w' r => P w' ∧ ∀ claim, r = some claim → claim.ns = ns ∧ claim.name = name) E w := by
  refine (keeps_read rfl hI hg.stable hP).bind fun w' r hI' hP' => ?_
  refine (keeps_orFail hI' (fun e => hg.fails e hP'.1) r).imp ?_ (fun _ _ _ h => h)
  rintro w'' a - ⟨rfl, rfl⟩
  refine ⟨hP'.1, ?_⟩
  intro claim hclaim
  subst hclaim
  exact hP'.2 claim rfl

/-- **A save.**  The copy is the stored object if it succeeds, and the old one if it fails. -/
theorem keeps_save {next : Memory Ω} (hI : Inv p q w) (hm : Carries q m w) (hf : Follows q m next) :
    Safe p q (save next m) (fun w' m' => m'.object = next.object ∧ Carries q m' w') w := by
  refine (keeps_contextErr guard_carries hI hm).bind fun w1 _ hI1 hm1 => ?_
  have hsave : Safe p q (ask (.save next) : Action Ω (Except Error Nat))
    (fun w' r => Carries q m w' ∧
        ∀ version, r = .ok version → Carries q { next with version := version } w') w1 := by
    refine keeps_perform.mpr ⟨hI1, fun r w' hobs => ?_⟩
    obtain ⟨w2, hdisturbed, hperformed⟩ := hobs
    have hI2 := (hI1.disturbed hdisturbed).hand hf.valid
    have hm2 := hm1.disturbed hdisturbed
    have hstore : next.version = w2.version →
        Inv p q ((w2.hand next.object).store next.object) := by
      intro hversion
      exact hI2.store (hm2.fits.hand _) hf (hf.version.symm.trans hversion)
    cases hperformed with
    | saved hversion =>
      refine ⟨hstore hversion, (hm2.hand _).store _, ?_⟩
      intro version hok
      cases hok
      exact ⟨hf.valid, (hstore hversion).fits_store, hf.active⟩
    | savedUnseen hversion =>
      refine ⟨hstore hversion, (hm2.hand _).store _, ?_⟩
      intro version hok
      cases hok
    | refused =>
      refine ⟨hI2, hm2.hand _, ?_⟩
      intro version hok
      cases hok
    | read hnot _ _ _ => exact absurd rfl (hnot next)
  refine hsave.bind fun w2 r hI2 hr => ?_
  refine keeps_orFail_bind hI2 (fun e => hr.1) fun version hok => ?_
  exact ⟨hI2, rfl, hr.2 version hok⟩

theorem keeps_load (hI : Inv p q w) (hstable : ∀ {w w'}, w.Disturbed w' → P w → P w') (hP : P w) :
    (ask .load : Action Ω (Except Error (Memory Ω))).Keeps Observed (Inv p q)
      (fun w' r => P w' ∧ ∀ fresh, r = .ok fresh → fresh = w'.memory) E w := by
  refine keeps_perform.mpr ⟨hI, fun r w' hobs => ?_⟩
  obtain ⟨w1, hdisturbed, hperformed⟩ := hobs
  cases hperformed with
  | loaded =>
    refine ⟨hI.disturbed hdisturbed, hstable hdisturbed hP, ?_⟩
    intro fresh hok
    cases hok
    rfl
  | notLoaded =>
    refine ⟨hI.disturbed hdisturbed, hstable hdisturbed hP, ?_⟩
    intro fresh hok
    cases hok
  | read _ hnot _ _ => exact absurd rfl hnot

/-- **A transfer** starts only while no abort has been stored. -/
theorem keeps_transfer (hI : Inv p q w) (hq : q) (hm : Carries q m w) :
    Safe p q (ask .transfer : Action Ω (Option Error)) (fun w' _ => Carries q m w') w := by
  refine keeps_perform.mpr ⟨hI, fun r w' hobs => ?_⟩
  obtain ⟨w1, hdisturbed, hperformed⟩ := hobs
  cases hperformed with
  | transferred =>
    exact ⟨(hI.disturbed hdisturbed).transferred hq, (hm.disturbed hdisturbed).transferred⟩
  | read _ _ hnot _ => exact absurd rfl hnot

end Rules

/-! ## Rules for the checkpoints -/

section Checkpoints

variable [LawfulRepositoryObject Ω] {p q : Prop} {w : World Ω} {m : Memory Ω}

def Restated (m m' : Memory Ω) : Prop := ∃ s, m'.object = withStatus m.object s

theorem Restated.refl : Restated m m := ⟨m.status, (withStatus_status _).symm⟩

theorem Restated.planned {m' : Memory Ω} (h : Restated m m') :
    RepositoryObject.planned m'.object = RepositoryObject.planned m.object := by
  obtain ⟨s, hs⟩ := h
  rw [hs, planned_withStatus]

theorem status_setStatus (s : WorkflowStatus) : (m.setStatus s).status = s :=
  status_withStatus m.object s

omit [LawfulRepositoryObject Ω] in
theorem Carries.follows (hm : Carries q m w) {o : Ω} (hvalid : validate o = .ok ())
    (hstatus : status o = m.status) (hplanned : planned o = planned m.object) :
    Follows q m (m.set o) where
  version := rfl
  valid := hvalid
  closed h := by
    show Closed (status o)
    rw [hstatus]
    exact h
  completed h := by
    show (status o).phase = .completed
    rw [hstatus]
    exact h
  active hq := by
    show planned o = true ∧ ¬ Closed (status o)
    rw [hstatus, hplanned]
    exact hm.active hq

variable {next : WorkflowPhase} {s : WorkflowStatus}

theorem Carries.follows_transitioned (hm : Carries q m w) (hplanned : planned m.object = true)
    (h : Transitioned m.status next s) (hback : m.status.phase = .failed → next ≠ .warmCopying)
    (hcopied : next = .warmCopied → Copied m.object)
    (hquiet : q → next ≠ .aborting ∧ next ≠ .aborted) : Follows q m (m.setStatus s) where
  version := rfl
  valid := by
    have hstatus := validate_status _ hm.valid
    rw [hplanned] at hstatus
    apply validate_withStatus _ _ hm.valid
    · rw [hplanned]
      exact h.valid hstatus
    · exact h.observedGeneration
    · intro hdone
      rcases h.copied hdone with hnow | hbefore
      · exact hcopied hnow
      · exact validate_copied _ hm.valid hbefore
  closed hclosed := by
    rw [status_setStatus]
    exact h.closed hback hclosed
  completed hcompleted := by
    rw [status_setStatus]
    exact h.completed hcompleted
  active hq := by
    have hactive := (hm.active hq).2
    refine ⟨(planned_withStatus _ _).trans hplanned, ?_⟩
    rw [status_setStatus]
    by_cases hnext : next = .failed
    · subst hnext
      unfold Closed
      rw [h.resumePhase_failed]
      exact hactive
    · unfold Closed
      rw [h.resumePhase_of_ne hnext]
      have hquiet := hquiet hq
      simp [hquiet.1, hquiet.2]

variable {message : String}

theorem Carries.follows_reactivated {time : Time} (hm : Carries q m w)
    (h : reactivateWorkflow m.status message time = .ok s) : Follows q m (m.setStatus s) := by
  have hstatus := validate_status _ hm.valid
  have hpoint := (resumePhase_reactivated h hstatus).2
  have hsame : Closed s ↔ Closed m.status := by
    unfold Closed
    rw [hpoint]
  exact {
    version := rfl
    valid := by
      apply validate_withStatus _ _ hm.valid (valid_reactivated h hstatus)
      · exact (reactivated h).2.2.2.1
      · intro hdone
        rw [hpoint] at hdone
        exact validate_copied _ hm.valid hdone
    closed := fun hclosed => by
      rw [status_setStatus]
      exact hsame.mpr hclosed
    completed := fun hcompleted => by
      have hfailed := (reactivated h).2.2.2.2
      rw [hcompleted] at hfailed
      cases hfailed
    active := fun hq => by
      refine ⟨(planned_withStatus _ _).trans (hm.active hq).1, ?_⟩
      rw [status_setStatus, hsame]
      exact (hm.active hq).2 }

section

variable (hI : Inv p q w) (hm : Carries q m w)
include hI hm

theorem keeps_saveStatus (hf : Follows q m (m.setStatus s)) :
    Safe p q (save (m.setStatus s) m)
      (fun w' m' => (Restated m m' ∧ m'.status = s) ∧ Carries q m' w') w := by
  refine (keeps_save hI hm hf).post fun w' m' h => ?_
  refine ⟨⟨⟨s, h.1⟩, ?_⟩, h.2⟩
  show status m'.object = s
  rw [h.1]
  exact status_withStatus _ _

theorem keeps_checkpointRepositoryPhase
    (hplanned : planned m.object = true) (hback : m.status.phase = .failed → next ≠ .warmCopying)
    (hcopied : next = .warmCopied → Copied m.object)
    (hquiet : q → next ≠ .aborting ∧ next ≠ .aborted) :
    Safe p q (checkpointRepositoryPhase m next message)
      (fun w' m' => (Restated m m' ∧ m'.status.phase = next) ∧ Carries q m' w') w := by
  refine (keeps_contextErr guard_carries hI hm).bind fun w1 _ hI1 hm1 => ?_
  refine (keeps_now hI1 guard_carries.stable hm1).bind fun w2 time hI2 hm2 => ?_
  refine keeps_orFail_bind hI2 (fun _ => hm2) fun s hok => ?_
  have htransitioned := (transitioned_of_ok hok).withMessage (boundWorkflowMessage message)
  refine (keeps_saveStatus hI2 hm2
    (hm2.follows_transitioned hplanned htransitioned hback hcopied hquiet)).bind ?_
  intro w4 m' hI4 hm'
  refine (keeps_leaseFence guard_carries hI4 hm'.2).bind fun w5 _ hI5 hm5 => ?_
  refine ⟨hI5, ⟨hm'.1.1, ?_⟩, hm5⟩
  rw [hm'.1.2]
  exact htransitioned.phase

theorem keeps_checkpointFrom {current : WorkflowPhase}
    (hplanned : planned m.object = true) (hcurrent : current ≠ .failed)
    (hcopied : next = .warmCopied → Copied m.object)
    (hquiet : q → next ≠ .aborting ∧ next ≠ .aborted) :
    Safe p q (checkpointFrom m current next message)
      (fun w' m' => Restated m m' ∧ Carries q m' w') w := by
  apply keeps_ite
  · intro hphase
    have hback : m.status.phase = .failed → next ≠ .warmCopying := by
      intro hfailed
      exact absurd (hphase.symm.trans hfailed) hcurrent
    refine (keeps_checkpointRepositoryPhase hI hm hplanned hback hcopied hquiet).imp ?_
      fun _ _ _ h => h
    intro w' m' _ h
    exact ⟨h.1.1, h.2⟩
  · intro _
    exact ⟨hI, Restated.refl, hm⟩

theorem keeps_checkpointRepositoryFailure {cause : Error} (hplanned : planned m.object = true) :
    Safe p q (checkpointRepositoryFailure m cause) (fun w' m' => Carries q m' w') w := by
  refine (keeps_contextErr guard_carries hI hm).bind fun w1 _ hI1 hm1 => ?_
  refine (keeps_now hI1 guard_carries.stable hm1).bind fun w2 time hI2 hm2 => ?_
  refine keeps_orFail_bind hI2 (fun _ => hm2) fun s hok => ?_
  have hfollows := hm2.follows_transitioned hplanned (transitioned_of_failedStatus hok)
    (fun _ => by simp) (by simp) (by simp)
  refine (keeps_saveStatus hI2 hm2 hfollows).bind fun w4 m' hI4 hm' => ?_
  exact (keeps_leaseFence guard_carries hI4 hm'.2).bind fun w5 _ hI5 hm5 => ⟨hI5, hm5⟩

theorem keeps_reactivate :
    Safe p q (reactivate m message) (fun w' m' => Restated m m' ∧ Carries q m' w') w := by
  refine keeps_ite (fun _ => ⟨hI, Restated.refl, hm⟩) fun _ => ?_
  refine (keeps_now hI guard_carries.stable hm).bind fun w1 time hI1 hm1 => ?_
  refine keeps_orFail_bind hI1 (fun _ => hm1) fun s hok => ?_
  refine (keeps_saveStatus hI1 hm1 (hm1.follows_reactivated hok)).post fun w' m' h => ?_
  exact ⟨h.1.1, h.2⟩

end

/-! The checkpoints of a run keep what does not depend on the status. -/

section

variable {P : Ω → Prop} (hP : ∀ o s, P o → P (withStatus o s)) (hm : Running P w m)
include hP hm

omit [LawfulRepositoryObject Ω] in
theorem Running.restated {w' : World Ω} {m' : Memory Ω} (hm' : Restated m m' ∧ Carries True m' w') :
    Running P w' m' := by
  obtain ⟨⟨s, hobject⟩, hm'⟩ := hm'
  refine ⟨?_, hm'⟩
  rw [hobject]
  exact hP _ _ hm.kept

variable (hI : Inv p True w)
include hI

theorem running_reactivate : Safe p True (reactivate m message) (Running P) w :=
  (keeps_reactivate hI hm.carries).post fun _ _ h => hm.restated hP h

theorem running_checkpointRepositoryPhase (hback : next ≠ .warmCopying)
    (hcopied : next = .warmCopied → Copied m.object) (hquiet : next ≠ .aborting ∧ next ≠ .aborted) :
    Safe p True (checkpointRepositoryPhase m next message) (Running P) w :=
  (keeps_checkpointRepositoryPhase hI hm.carries (hm.carries.active trivial).1 (fun _ => hback)
    hcopied fun _ => hquiet).post fun _ _ h => hm.restated hP ⟨h.1.1, h.2⟩

theorem running_checkpointFrom {current : WorkflowPhase} (hcurrent : current ≠ .failed)
    (hcopied : next = .warmCopied → Copied m.object) (hquiet : next ≠ .aborting ∧ next ≠ .aborted) :
    Safe p True (checkpointFrom m current next message) (Running P) w :=
  (keeps_checkpointFrom hI hm.carries (hm.carries.active trivial).1 hcurrent hcopied
    fun _ => hquiet).post fun _ _ h => hm.restated hP h

end

theorem keeps_abortUnplanned (hI : Inv p False w) (hm : Carries False m w)
    (hplanned : planned m.object = false) (hphase : m.status.phase ≠ .completed) :
    Safe p False (abortUnplanned m message)
      (fun w' m' => (Restated m m' ∧ m'.status.phase = .aborted) ∧ Carries False m' w') w := by
  refine (keeps_now hI guard_carries.stable hm).bind fun w1 time hI1 hm1 => ?_
  have hstatus := validate_status _ hm.valid
  rw [hplanned] at hstatus
  have hpoint : workflowResumePhase (recordWorkflowTransition m.status .aborted message time) =
      .aborted := by
    simp [workflowResumePhase]
  have hfollows : Follows False m
      (m.setStatus (recordWorkflowTransition m.status .aborted message time)) := {
    version := rfl
    valid := by
      apply validate_withStatus _ _ hm.valid
      · rw [hplanned]
        exact valid_abortedUnplanned hstatus
      · exact observedGeneration_recordWorkflowTransition
      · simp [hpoint]
    closed := fun _ => by
      rw [status_setStatus]
      exact .inr hpoint
    completed := fun hcompleted => absurd hcompleted hphase
    active := False.elim }
  refine (keeps_saveStatus hI1 hm1 hfollows).post fun w' m' h => ?_
  refine ⟨⟨h.1.1, ?_⟩, h.2⟩
  rw [h.1.2]
  exact phase_recordWorkflowTransition ..

theorem keeps_recordOutcome {result : Option Error} (hI : Inv p q w) (hm : Carries q m w)
    (hplanned : planned m.object = true) :
    Safe p q (recordOutcome m result) (fun w' m' => Carries q m' w') w := by
  cases result with
  | none => exact ⟨hI, hm⟩
  | some e =>
    refine (keeps_read rfl hI guard_carries.stable hm).bind fun w1 canceled hI1 hm1 => ?_
    refine (keeps_reject hI1 fun _ => hm1.1).bind fun w2 _ hI2 hsame => ?_
    rw [hsame.1] at hI2 ⊢
    refine (keeps_leaseFence guard_carries hI2 hm1.1).bind fun w3 _ hI3 hm3 => ?_
    refine (keeps_checkpointRepositoryFailure hI3 hm3 hplanned).handle ?_ ?_
    · intro w4 m' hI4 hm4
      exact ⟨hI4, hm4⟩
    · intro w4 failed hI4 hm4
      exact ⟨hI4, hm4⟩

theorem keeps_pinRepository {requested current : Option Binding} {pin : Ω → Binding → Ω}
    (hI : Inv p q w) (hm : Carries q m w)
    (hpin : ∀ b, validate (pin m.object b) = .ok () ∧ status (pin m.object b) = m.status ∧
      planned (pin m.object b) = planned m.object) :
    Safe p q (pinRepository m requested current pin)
      (fun w' m' => (m' = m ∨ ∃ b, m'.object = pin m.object b) ∧ Carries q m' w') w := by
  refine (keeps_contextErr guard_carries hI hm).bind fun w1 _ hI1 hm1 => ?_
  refine keeps_orFail_bind hI1 (fun _ => hm1) fun b _ => ?_
  apply keeps_ite
  · intro _
    obtain ⟨hvalid, hstatus, hplanned⟩ := hpin b
    refine (keeps_save hI1 hm1 (hm1.follows hvalid hstatus hplanned)).bind fun w3 m' hI3 hm' => ?_
    refine (keeps_leaseFence guard_carries hI3 hm'.2).bind fun w4 _ hI4 hm4 => ?_
    exact ⟨hI4, .inr ⟨b, hm'.1⟩, hm4⟩
  · intro _
    exact ⟨hI1, .inl rfl, hm1⟩

end Checkpoints

/-! ## Calls -/

section Calls

variable {p : Prop} {w : World Ω} {m : Memory Ω}

/-- What a call may count on when it starts. -/
structure Entered (m : Memory Ω) (w : World Ω) : Prop where
  fits : Fits m w
  closed : HasPersisted .aborting w.log → Closed m.status

abbrev Anyhow {α : Type} (_ : World Ω) (_ : α) : Prop := True

/-- A call keeps the invariant, however it ends. -/
def Calm (p : Prop) (x : Action Ω (Memory Ω)) (w : World Ω) : Prop :=
  x.Keeps Observed (Inv p False) Anyhow Anyhow w

theorem log_disturbed {w' : World Ω} (h : w.Disturbed w') : w'.log = w.log := by
  cases h <;> rfl

theorem Entered.disturbed {w' : World Ω} (hm : Entered m w) (h : w.Disturbed w') :
    Entered m w' := by
  refine ⟨hm.fits.disturbed h, fun haborted => hm.closed ?_⟩
  rwa [log_disturbed h] at haborted

theorem guard_entered : Guard (Entered m) Anyhow m :=
  ⟨fun h hm => hm.disturbed h, fun _ _ => trivial⟩

theorem Fits.entered (hm : Fits m w) (hsame : m.version = w.version) : Entered m w :=
  ⟨hm, hm.closed hsame⟩

theorem Fits.carries (hm : Fits m w) (hvalid : validate m.object = .ok ()) : Carries False m w :=
  ⟨hvalid, hm, False.elim⟩

theorem calm_of_keeps {q : Prop} {x : Action Ω (Memory Ω)} {A : World Ω → Memory Ω → Prop}
    {E : World Ω → Error × Memory Ω → Prop} (h : x.Keeps Observed (Inv p q) A E w) : Calm p x w :=
  h.mono (fun _ hI => hI.weaken) (fun _ _ _ _ => trivial) fun _ _ _ _ => trivial

variable [LawfulRepositoryObject Ω]

theorem calm_deleteSession (hI : Inv p False w) : Calm p (deleteSession m) w := by
  have hg : Guard (fun _ => True) Anyhow m := ⟨fun _ _ => trivial, fun _ _ => trivial⟩
  refine (keeps_contextErr hg hI trivial).bind fun w1 _ hI1 _ => ?_
  refine (keeps_service hg hI1 trivial _).bind fun w2 _ hI2 _ => ?_
  exact (keeps_service hg hI2 trivial _).bind fun w3 _ hI3 _ => ⟨hI3, trivial⟩

variable {run : Memory Ω → Action Ω (Memory Ω)} {allowDeleting : Bool}

theorem calm_retryStaleWorkflowWrite (hrun : ∀ w m, Inv p False w → Fits m w → Calm p (run m) w)
    (retries : Nat) (hI : Inv p False w) (hm : Fits m w) :
    Calm p (retryStaleWorkflowWrite run retries m) w := by
  induction retries generalizing w m with
  | zero => exact hrun w m hI hm
  | succ retries ih =>
    refine Keeps.handle (hrun w m hI hm) (fun w1 m' hI1 _ => ⟨hI1, trivial⟩) ?_
    intro w1 failed hI1 _
    refine (keeps_read (P := fun _ => True) rfl hI1 (fun _ _ => trivial) trivial).bind ?_
    intro w2 stale hI2 _
    refine (keeps_reject hI2 fun _ => trivial).bind fun w3 _ hI3 _ => ?_
    refine (keeps_load (P := fun _ => True) hI3 (fun _ _ => trivial) trivial).bind ?_
    intro w4 r hI4 hloaded
    refine keeps_orFail_bind hI4 (fun _ => trivial) fun fresh hok => ?_
    rw [hloaded.2 fresh hok]
    exact ih hI4 (hI4.fits ⟨le_refl _, fun _ => rfl⟩)

section

variable (hI : Inv p False w) (hm : Fits m w)
include hI hm

theorem calm_underLease (hrun : ∀ w, Inv p False w → Entered m w → Calm p (run m) w) :
    Calm p (underLease m allowDeleting run) w := by
  refine (keeps_load hI (fun h hm => hm.disturbed h) hm).bind fun w1 r hI1 hloaded => ?_
  refine keeps_orFail_bind hI1 (fun _ => trivial) fun latest hlatest => ?_
  refine keeps_reject_bind hI1 (fun _ => trivial) fun hsame => ?_
  refine keeps_reject_bind hI1 (fun _ => trivial) fun _ => ?_
  rw [not_not, hloaded.2 latest hlatest] at hsame
  have hentered := hloaded.1.entered hsame.symm
  refine (keeps_contextErr guard_entered hI1 hentered).bind fun w5 _ hI5 hm5 => ?_
  exact hrun w5 hI5 hm5

theorem calm_withoutLease {e : Error}
    (hdeleting : allowDeleting = true → ∀ w, Inv p False w → Fits m w → Calm p (run m) w) :
    Calm p (withoutLease m allowDeleting e run) w := by
  refine keeps_reject_bind hI (fun _ => trivial) fun hgone => ?_
  refine Keeps.bind (hdeleting (not_not.mp hgone).1 w hI hm) fun w2 m' hI2 _ => ?_
  refine (keeps_service (P := fun _ => True) ⟨fun _ _ => trivial, fun _ _ => trivial⟩ hI2 trivial
    _).bind ?_
  intro w3 _ hI3 _
  exact ⟨hI3, trivial⟩

/-- **Under the workflow Lease**, a call starts from what is stored; without the Lease, from what it
was given. -/
theorem calm_withWorkflowLease (hrun : ∀ w, Inv p False w → Entered m w → Calm p (run m) w)
    (hdeleting : allowDeleting = true → ∀ w, Inv p False w → Fits m w → Calm p (run m) w) :
    Calm p (withWorkflowLease m allowDeleting run) w := by
  refine keeps_reject_bind hI (fun _ => trivial) fun _ => ?_
  refine (keeps_read rfl hI (fun h hm => hm.disturbed h) hm).bind fun w2 acquisition hI2 hm2 => ?_
  cases acquisition with
  | failed e => exact ⟨hI2, trivial⟩
  | terminating e => exact calm_withoutLease hI2 hm2.1 hdeleting
  | acquired => exact calm_underLease hI2 hm2.1 hrun

omit [LawfulRepositoryObject Ω] in
/-- What is left of a workflow that is deleted before its end is aborted, and then cleaned up. -/
theorem calm_finalizeDeleted {abort cleanup : Memory Ω → Action Ω (Memory Ω)}
    (habort : (abort m).Keeps Observed (Inv p False) (fun w' m' => Carries False m' w') Anyhow w)
    (hcleanup : ∀ w m, Inv p False w → Fits m w → Calm p (cleanup m) w) :
    Calm p (abortUnfinished abort m >>= cleanup) w := by
  have hunfinished : (abortUnfinished abort m).Keeps Observed (Inv p False)
      (fun w' m' => Fits m' w') Anyhow w :=
    keeps_ite (fun _ => habort.post fun _ _ h => h.fits) fun _ => ⟨hI, hm⟩
  exact hunfinished.bind fun w1 m1 hI1 hm1 => hcleanup w1 m1 hI1 hm1

end

omit [LawfulRepositoryObject Ω] in
theorem calm_validated {x : Action Ω (Memory Ω)} (hI : Inv p False w)
    (hx : validate m.object = .ok () → Calm p x w) :
    Calm p (orFail m (validate m.object) >>= fun _ => x) w := by
  refine keeps_orFail_bind hI (fun _ => trivial) fun _ hok => ?_
  exact hx hok

theorem Fits.normalized (hm : Fits m w) :
    Fits (m.setStatus (normalizeDeletedRepositoryStatus m.status)) w := by
  refine ⟨hm.seen, fun hsame h => ?_, fun hsame h => ?_⟩
  · have hclosed := hm.closed hsame h
    rw [status_setStatus, closed_normalize hclosed]
    exact hclosed
  · rw [status_setStatus, phase_normalize]
    exact hm.completed hsame h

section

variable {κ : Type} {executor : Executor Ω κ}
  (hrun : ∀ w m, Inv p False w → Entered m w → validate m.object = .ok () →
    Calm p (executor.run m) w)
  (habort : ∀ w m, Inv p False w → Fits m w → (executor.abort m).Keeps Observed (Inv p False)
    (fun w' m' => Carries False m' w') Anyhow w)
  (hcleanup : ∀ options w m, Inv p False w → Fits m w → Calm p (executor.cleanup options m) w)
include hrun habort hcleanup

/-- **Every call of an executor keeps the invariant** if what it does under the Lease does. -/
theorem calm_program (call : ExecutorCall κ) (hI : Inv p False w) (hm : Fits m w) :
    Calm p (executor.program call m) w := by
  cases call with
  | run =>
    exact calm_validated hI fun hvalid => calm_withWorkflowLease hI hm
      (fun w' hI' hm' => hrun w' m hI' hm' hvalid) nofun
  | abort =>
    exact calm_validated hI fun _ => calm_withWorkflowLease hI hm
      (fun w' hI' hm' => calm_of_keeps (habort w' m hI' hm'.fits)) nofun
  | requestResume =>
    exact calm_validated hI fun hvalid => calm_withWorkflowLease hI hm
      (fun w' hI' hm' => calm_of_keeps (keeps_reactivate hI' (hm'.fits.carries hvalid))) nofun
  | cleanup options =>
    refine calm_validated hI fun _ => calm_withWorkflowLease hI hm (fun w' hI' hm' => ?_) nofun
    exact calm_retryStaleWorkflowWrite (hcleanup options) 2 hI' hm'.fits
  | finalizeDeleted =>
    refine keeps_reject_bind hI (fun _ => trivial) fun _ => calm_validated hI fun _ => ?_
    refine calm_withWorkflowLease hI hm.normalized (fun w' hI' hm' => ?_) fun _ w' hI' hm' => ?_
    · exact calm_finalizeDeleted hI' hm'.fits (habort w' _ hI' hm'.fits) (hcleanup _)
    · exact calm_finalizeDeleted hI' hm' (habort w' _ hI' hm') (hcleanup _)

end

/-- **The invariant holds wherever the calls of an executor lead.** -/
theorem Reached.inv {calls : Set (Memory Ω → Action Ω (Memory Ω))} {start : Ω}
    (hcalls : ∀ call ∈ calls, ∀ w m, Inv p False w → Fits m w → Calm p (call m) w)
    (hstart : p → validateStatus start = .ok ()) (h : Reached calls start w) : Inv p False w := by
  induction h with
  | start =>
    refine ⟨by simp, ⟨trivial, ?_⟩, ?_, ?_, hstart, False.elim⟩
    · simp [Admissible, HasPersisted]
    · intro haborted
      simp only [hasPersisted_persisted] at haborted
      rcases haborted with hphase | ⟨_, hnone, _⟩
      · exact closed_of_phase_aborting hphase
      · cases hnone
    · intro hcompleted
      simp only [hasPersisted_persisted] at hcompleted
      rcases hcompleted with hphase | ⟨_, hnone, _⟩
      · exact hphase
      · cases hnone
  | disturbed _ hdisturbed ih => exact ih.disturbed hdisturbed
  | called _ hcall hknown hrun ih => exact (hcalls _ hcall _ _ ih (ih.fits hknown)).invariant hrun

end Calls

end RepositoryWorkflow

end PvcMigrate
