import Mathlib.Data.List.Chain
import Mathlib.Order.Monotone.Basic
import PvcMigrate.Controller.BackupReconcile

/-!
# The planning backoff

A workflow whose planning fails for a reason that may clear on its own is planned again inside
a window of ten minutes.  This file is about the two users of that backoff.

The first is the retry loop itself: every attempt moves `updatedAt`, and the next one waits
until `evaluatePlanningRetry` says due.  `retries` runs a list of attempts through the code's
own writer and its own gate.  The interval is clipped to what is left of the window *at the
time of the evaluation*, so towards the end of the window the attempts may come at half the
remaining time each, and `attempts_spaced_and_bounded` counts them by the earliest instant the
next one can take, `nextAge`.

A single wait is generally not enough, since the interval grows with the age while it is waited
for; `announced_waits_end` bounds the number of waits.

The second is the one-shot command, `reconcileUntilStable`
(`internal/controller/workflow_once.go`), which drives one object through reconcile passes.  It
bounds the delay a pass may ask for before it looks whether the delay is a planning backoff.
-/

namespace PvcMigrate

/-! ## What due means -/

/-- A difference below the `int64` bound is not saturated from above. -/
theorem Time.max_sub_eq_of_lt {t u : Int} {bound : Int} (h : max (Time.sub t u) 0 < bound)
    (hbound : bound < 2 ^ 63) : max (Time.sub t u) 0 = max (t - u) 0 := by
  simp only [Time.sub] at h ⊢
  lia

/-- A positive wait that a saturated difference reaches is reached by the difference. -/
theorem Time.le_sub_of_le_max {t u : Int} {wait : Int} (hpos : 0 < wait)
    (h : wait ≤ max (Time.sub t u) 0) : wait ≤ t - u := by
  simp only [Time.sub] at h
  lia

theorem planningRetryWindow_lt : planningRetryWindow < 2 ^ 63 := by decide

/-- The interval as one minimum: the quarter of the age between its bounds, and what is left. -/
theorem planningRetryInterval_eq (age : Int) :
    planningRetryInterval age =
      min (min (max (age / 4) planningRetryFloor) planningRetryCap)
        (planningRetryWindow - age) := by
  simp only [planningRetryInterval]
  split
  · rename_i hclipped
    exact (min_eq_right (le_of_lt hclipped)).symm
  · rename_i hinside
    exact (min_eq_left (not_lt.mp hinside)).symm

theorem planningRetryInterval_pos {age : Int} (h : age < planningRetryWindow) :
    0 < planningRetryInterval age := by
  rw [planningRetryInterval_eq]
  simp only [planningRetryFloor, planningRetryCap, planningRetryWindow, minutes, seconds] at h ⊢
  lia

variable {status : WorkflowStatus} {now : Time}

theorem evaluatePlanningRetry_due (hdue : (evaluatePlanningRetry status now).due = true) :
    status.startedAt ≠ 0 ∧ max (now.sub status.startedAt) 0 < planningRetryWindow ∧
      planningRetryInterval (max (now.sub status.startedAt) 0) ≤
        max (now.sub status.updatedAt) 0 := by
  simp only [evaluatePlanningRetry] at hdue
  split at hdue
  · simp at hdue
  · rename_i hactive
    split at hdue
    · split at hdue
      · simp at hdue
      · rename_i hwindow
        split at hdue
        · rename_i hsince
          refine ⟨?_, by simpa using hwindow, hsince⟩
          intro hzero
          simp [hzero, Time.isZero] at hactive
        · simp at hdue
    · simp at hdue

/-- Whether a failure may be retried does not depend on the time; when is about the two ages. -/
theorem evaluatePlanningRetry_eq (later : Time)
    (h : (evaluatePlanningRetry status now).retryable = true) :
    evaluatePlanningRetry status later =
      if max (later.sub status.startedAt) 0 ≥ planningRetryWindow then
        { retryable := true, expired := true }
      else if max (later.sub status.updatedAt) 0 ≥
          planningRetryInterval (max (later.sub status.startedAt) 0) then
        { retryable := true, due := true }
      else
        { retryable := true
          delay := planningRetryInterval (max (later.sub status.startedAt) 0) -
            max (later.sub status.updatedAt) 0 } := by
  simp only [evaluatePlanningRetry] at h ⊢
  split at h
  · simp at h
  · rename_i hactive
    rw [if_neg hactive]
    split at h
    · rename_i hcategory
      rw [if_pos hcategory]
    · simp at h

theorem evaluatePlanningRetry_delay
    (hretryable : (evaluatePlanningRetry status now).retryable = true)
    (hexpired : (evaluatePlanningRetry status now).expired = false)
    (hdue : (evaluatePlanningRetry status now).due = false) :
    (evaluatePlanningRetry status now).delay =
        planningRetryInterval (max (now.sub status.startedAt) 0) -
          max (now.sub status.updatedAt) 0 ∧
      0 < (evaluatePlanningRetry status now).delay := by
  rw [evaluatePlanningRetry_eq now hretryable] at hexpired hdue ⊢
  split at hexpired
  · simp at hexpired
  · rename_i hwindow
    rw [if_neg hwindow] at hdue ⊢
    split at hdue
    · simp at hdue
    · rename_i hsince
      rw [if_neg hsince]
      refine ⟨rfl, ?_⟩
      simp only
      lia

/-! ## The attempts of one window -/

/-- The planning attempts that follow on a failed one: each is made when the gate says due,
fails with a category that may clear on its own, and is recorded by `recordPlanningOutcome`. -/
def retries (generation : Int) (status : WorkflowStatus) :
    List (Error × Time) → Option WorkflowStatus
  | [] => some status
  | (cause, now) :: rest =>
    if (evaluatePlanningRetry status now).due && retryableCategory (some cause.category) then
      retries generation (recordPlanningOutcome status generation (some cause) now) rest
    else none

@[simp] theorem recordPlanningOutcome_updatedAt (status : WorkflowStatus) (generation : Int)
    (cause : Option Error) (now : Time) :
    (recordPlanningOutcome status generation cause now).updatedAt = now := rfl

@[simp] theorem recordPlanningOutcome_observedGeneration (status : WorkflowStatus)
    (generation : Int) (cause : Option Error) (now : Time) :
    (recordPlanningOutcome status generation cause now).observedGeneration = generation := rfl

variable {generation : Int}

/-- Inside one generation an attempt leaves the start of the window where it is. -/
theorem recordPlanningOutcome_startedAt (cause : Option Error) (now : Time)
    (hgeneration : status.observedGeneration = generation) (hstarted : status.startedAt ≠ 0) :
    (recordPlanningOutcome status generation cause now).startedAt = status.startedAt := by
  have hkeep : ¬ (status.observedGeneration ≠ generation ∨ status.startedAt.isZero) := by
    simp [hgeneration, hstarted, Time.isZero]
  exact if_neg hkeep

variable {rest : List (Error × Time)}

theorem retries_cons {after : WorkflowStatus} {cause : Error}
    (h : retries generation status ((cause, now) :: rest) = some after) :
    (evaluatePlanningRetry status now).due = true ∧
      retries generation (recordPlanningOutcome status generation (some cause) now) rest =
        some after := by
  simp only [retries] at h
  split at h
  · rename_i hboth
    exact ⟨(Bool.and_eq_true_iff.mp hboth).1, h⟩
  · simp at h

/-- The earliest age of the attempt after one at age `age`: the floor has passed and a quarter
of the new age, or the cap has, or half of what was left of the window. -/
def nextAge (age : Int) : Int :=
  min (min (max (age + planningRetryFloor) (4 * (age - 1) / 3 + 1)) (age + planningRetryCap))
    ((planningRetryWindow + age + 1) / 2)

theorem nextAge_mono {a b : Int} (hab : a ≤ b) : nextAge a ≤ nextAge b := by
  simp only [nextAge, planningRetryFloor, planningRetryCap, planningRetryWindow, minutes, seconds]
  omega

/-- Consecutive attempts at `t` and `t'` in the window that starts at `s`: at least fifteen
seconds lie between them, or half of what was left of the window at `t`. -/
def Spaced (s t t' : Time) : Prop :=
  min (2 * planningRetryFloor) (s + planningRetryWindow - t) ≤ 2 * (t' - t)

instance (s t t' : Time) : Decidable (Spaced s t t') :=
  inferInstanceAs (Decidable (_ ≤ _))

section Due

variable {status : WorkflowStatus} {now : Time}

section

variable (hdue : (evaluatePlanningRetry status now).due = true)
include hdue

/-- A due attempt in the nanoseconds of the three instants, the saturation of `Time.Sub`
resolved: the window is open, and the wait since the last attempt is at least the interval. -/
theorem due_instants :
    now - status.startedAt < planningRetryWindow ∧
      planningRetryInterval (max (now - status.startedAt) 0) ≤ now - status.updatedAt := by
  obtain ⟨-, hwindow, hwait⟩ := evaluatePlanningRetry_due hdue
  have hage := Time.max_sub_eq_of_lt hwindow planningRetryWindow_lt
  rw [hage] at hwindow hwait
  have hpos := planningRetryInterval_pos hwindow
  exact ⟨lt_of_le_of_lt (le_max_left _ _) hwindow, Time.le_sub_of_le_max hpos hwait⟩

theorem spaced_of_due : Spaced status.startedAt status.updatedAt now := by
  obtain ⟨hwindow, hwait⟩ := due_instants hdue
  generalize status.startedAt = s at *
  generalize status.updatedAt = u at *
  rw [planningRetryInterval_eq] at hwait
  simp only [Spaced, planningRetryFloor, planningRetryCap, planningRetryWindow, minutes,
    seconds] at *
  lia

/-- The attempt after one inside the window is not younger than `nextAge` of it. -/
theorem nextAge_le_of_due (hinside : status.startedAt ≤ status.updatedAt) :
    nextAge (status.updatedAt - status.startedAt) ≤ now - status.startedAt := by
  obtain ⟨hwindow, hwait⟩ := due_instants hdue
  generalize status.startedAt = s at *
  generalize status.updatedAt = u at *
  rw [planningRetryInterval_eq] at hwait
  simp only [nextAge, planningRetryFloor, planningRetryCap, planningRetryWindow, minutes,
    seconds] at *
  lia

end

end Due

/-- The instants of a run of attempts after one at `t`: neighbours are spaced. -/
theorem isChain_spaced_of_retries :
    ∀ {status after : WorkflowStatus}, status.observedGeneration = generation →
      retries generation status rest = some after →
      List.IsChain (Spaced status.startedAt) (status.updatedAt :: rest.map Prod.snd) := by
  induction rest with
  | nil =>
    intro status after _ _
    exact List.isChain_singleton _
  | cons attempt rest ih =>
    intro status after hgeneration hrun
    obtain ⟨cause, now⟩ := attempt
    obtain ⟨hdue, htail⟩ := retries_cons hrun
    have hstarted := (evaluatePlanningRetry_due hdue).1
    have hchain := ih (recordPlanningOutcome_observedGeneration status generation _ now) htail
    rw [recordPlanningOutcome_startedAt _ now hgeneration hstarted,
      recordPlanningOutcome_updatedAt] at hchain
    exact List.isChain_cons_cons.mpr ⟨spaced_of_due hdue, hchain⟩

/-- The number of attempts a window has room for. -/
def maxAttempts : Nat := 49

theorem planningRetryWindow_le_nextAge : planningRetryWindow ≤ nextAge^[maxAttempts] 0 := by
  decide +kernel

/-- What is known of a window that starts at `s` once `made` attempts were made in it, the last
attempt of all at `last`: none was made, or there was room for all of them. -/
structure Counted (s last : Time) (made : Nat) : Prop where
  le_max : made ≤ maxAttempts
  before : made = 0 → last < s
  inside : ∀ k, made = k + 1 → nextAge^[k] 0 ≤ last - s

theorem iterate_nextAge_nonneg (k : Nat) : 0 ≤ nextAge^[k] 0 := by
  induction k with
  | zero => simp
  | succ k ih =>
    rw [Function.iterate_succ_apply']
    calc (0 : Int) ≤ nextAge 0 := by decide
      _ ≤ nextAge (nextAge^[k] 0) := nextAge_mono ih

/-- One more attempt keeps the count within the room of the window. -/
theorem Counted.attempt {made : Nat} (h : Counted status.startedAt status.updatedAt made)
    (hdue : (evaluatePlanningRetry status now).due = true) :
    Counted status.startedAt now (if status.startedAt ≤ now then made + 1 else made) := by
  obtain ⟨hwindow, -⟩ := due_instants hdue
  cases made with
  | zero =>
    by_cases hinside : status.startedAt ≤ now
    · rw [if_pos hinside]
      refine ⟨by decide, by simp, ?_⟩
      intro k hk
      have hzero : k = 0 := by omega
      subst hzero
      simpa using hinside
    · rw [if_neg hinside]
      exact ⟨Nat.zero_le _, fun _ => not_le.mp hinside, by simp⟩
  | succ made =>
    have hlast := h.inside made rfl
    have hstart : status.startedAt ≤ status.updatedAt :=
      Int.sub_nonneg.mp (le_trans (iterate_nextAge_nonneg made) hlast)
    have hnext : nextAge^[made + 1] 0 ≤ now - status.startedAt := by
      rw [Function.iterate_succ_apply']
      exact le_trans (nextAge_mono hlast) (nextAge_le_of_due hdue hstart)
    have hinside : status.startedAt ≤ now :=
      Int.sub_nonneg.mp (le_trans (iterate_nextAge_nonneg _) hnext)
    rw [if_pos hinside]
    refine ⟨?_, by simp, ?_⟩
    · -- the attempt number `maxAttempts + 1` would lie after the end of the window
      by_contra hover
      have hfull : made + 1 = maxAttempts := by
        have := h.le_max
        omega
      rw [hfull] at hnext
      exact absurd (le_trans planningRetryWindow_le_nextAge hnext) (not_le.mpr hwindow)
    · intro k hk
      have hsame : k = made + 1 := by omega
      rw [hsame]
      exact hnext

/-- The attempts of a run inside the window, on top of those counted before it. -/
theorem count_of_retries :
    ∀ {status after : WorkflowStatus} {made : Nat}, status.observedGeneration = generation →
      Counted status.startedAt status.updatedAt made →
      retries generation status rest = some after →
      made + (rest.map Prod.snd).countP (fun t => status.startedAt ≤ t) ≤ maxAttempts := by
  induction rest with
  | nil =>
    intro status after made _ hcount _
    simpa using hcount.le_max
  | cons attempt rest ih =>
    intro status after made hgeneration hcount hrun
    obtain ⟨cause, now⟩ := attempt
    obtain ⟨hdue, htail⟩ := retries_cons hrun
    have hstarted := recordPlanningOutcome_startedAt (some cause) now hgeneration
      (evaluatePlanningRetry_due hdue).1
    have hnext := hcount.attempt hdue
    have hrest := ih (recordPlanningOutcome_observedGeneration status generation _ now)
      (by rw [hstarted, recordPlanningOutcome_updatedAt]; exact hnext) htail
    rw [hstarted] at hrest
    by_cases hinside : status.startedAt ≤ now
    · simp only [hinside, if_true] at hrest
      simp only [List.map_cons, List.countP_cons, hinside, decide_true, if_true]
      omega
    · simp only [hinside, if_false] at hrest
      simp only [List.map_cons, List.countP_cons, hinside, decide_false]
      simpa using hrest

/-- **The planning attempts of one retry window are spaced and bounded.**  Every attempt fails
with a category that may clear on its own; the first is made at `now` on whatever status, and
the window starts at the `startedAt` it leaves.  Consecutive attempts are at least fifteen
seconds, or half of what was left of the window, apart, and at most `maxAttempts` of them lie
in the window. -/
theorem attempts_spaced_and_bounded (generation : Int) (before after : WorkflowStatus)
    (cause : Error) (now : Time) (rest : List (Error × Time))
    (hrun : retries generation (recordPlanningOutcome before generation (some cause) now) rest =
      some after) :
    List.IsChain (Spaced (recordPlanningOutcome before generation (some cause) now).startedAt)
        (now :: rest.map Prod.snd) ∧
      (now :: rest.map Prod.snd).countP (fun t =>
        (recordPlanningOutcome before generation (some cause) now).startedAt ≤ t) ≤
          maxAttempts := by
  have hgeneration :=
    recordPlanningOutcome_observedGeneration before generation (some cause) now
  refine ⟨isChain_spaced_of_retries hgeneration hrun, ?_⟩
  generalize hstatus : recordPlanningOutcome before generation (some cause) now = status at *
  have hnow : status.updatedAt = now := by rw [← hstatus, recordPlanningOutcome_updatedAt]
  by_cases hinside : status.startedAt ≤ now
  · have hfirst : Counted status.startedAt status.updatedAt 1 :=
      ⟨by decide, by simp, by
        intro k hk
        have hzero : k = 0 := by omega
        subst hzero
        simpa [hnow] using hinside⟩
    have hcount := count_of_retries hgeneration hfirst hrun
    simp only [List.countP_cons, hinside, decide_true, if_true]
    omega
  · have hnone : Counted status.startedAt status.updatedAt 0 :=
      ⟨Nat.zero_le _, fun _ => by rw [hnow]; exact not_le.mp hinside, by simp⟩
    have hcount := count_of_retries hgeneration hnone hrun
    simp only [List.countP_cons, hinside, decide_false]
    simpa using hcount

/-- A precondition failure, as planning meets while a workload is still being created. -/
def missingSource : Error := ⟨.precondition, "plan", "source PVC is not bound"⟩

/-- The attempts made as early as the gate lets them, in the window that starts at second 1. -/
def earliestRetries : List (Error × Time) :=
  (List.range (maxAttempts - 1)).map fun k => (missingSource, seconds 1 + nextAge^[k + 1] 0)

/-- The earliest attempts use the room of the window up, which is more than forty-one attempts,
and do not keep fifteen seconds or the rest of the window apart. -/
theorem earliestRetries_run :
    (retries 1 (recordPlanningOutcome {} 1 (some missingSource) (seconds 1))
        earliestRetries).isSome = true ∧
      (recordPlanningOutcome {} 1 (some missingSource) (seconds 1)).startedAt = seconds 1 ∧
      ¬ List.IsChain (fun t t' : Time =>
          min (seconds 15) (seconds 1 + planningRetryWindow - t) ≤ t' - t)
        (seconds 1 :: earliestRetries.map Prod.snd) ∧
      41 < (seconds 1 :: earliestRetries.map Prod.snd).countP (fun t => seconds 1 ≤ t) := by
  decide +kernel

/-- Two attempts in the last twenty seconds of a window, ten seconds apart. -/
theorem attempts_spaced_and_bounded_late :
    (retries 1 (recordPlanningOutcome {} 1 (some missingSource) (seconds 1))
        [(missingSource, seconds 581), (missingSource, seconds 591)]).isSome = true ∧
      List.IsChain (Spaced (seconds 1)) [seconds 1, seconds 581, seconds 591] := by
  have hrun : (retries 1 (recordPlanningOutcome {} 1 (some missingSource) (seconds 1))
      [(missingSource, seconds 581), (missingSource, seconds 591)]).isSome = true := by
    decide +kernel
  obtain ⟨after, hafter⟩ := Option.isSome_iff_exists.mp hrun
  exact ⟨hrun, (attempts_spaced_and_bounded 1 {} after missingSource (seconds 1) _ hafter).1⟩

/-! ## Waiting the announced delay -/

/-- Each instant is the one before it and the delay announced there. -/
def WaitsAnnounced (status : WorkflowStatus) (instants : Nat → Time) : Prop :=
  ∀ n delay, requeuePlanningFailureDelay status (instants n) = some delay →
    instants (n + 1) = instants n + delay

theorem planningRetryInterval_le_cap (age : Int) :
    planningRetryInterval age ≤ planningRetryCap := by
  rw [planningRetryInterval_eq]
  exact (min_le_left _ _).trans (min_le_right _ _)

/-- Waiting for `delay` lets the interval grow by a quarter of it, rounded up: the bounds and
the clip only slow it down. -/
theorem planningRetryInterval_add_le (age : Int) {delay : Int} (hdelay : 0 ≤ delay) :
    planningRetryInterval (age + delay) - planningRetryInterval age ≤ (delay + 3) / 4 := by
  rw [planningRetryInterval_eq, planningRetryInterval_eq]
  simp only [planningRetryFloor, planningRetryCap, planningRetryWindow, minutes, seconds]
  lia

/-- Of two nanoseconds in a row at most one lets the interval grow. -/
theorem planningRetryInterval_add_one_add_one (age : Int)
    (hgrows : planningRetryInterval age < planningRetryInterval (age + 1)) :
    planningRetryInterval (age + 1 + 1) ≤ planningRetryInterval (age + 1) := by
  rw [planningRetryInterval_eq, planningRetryInterval_eq] at hgrows ⊢
  simp only [planningRetryFloor, planningRetryCap, planningRetryWindow, minutes, seconds]
    at hgrows ⊢
  lia

section Waiting

variable {status : WorkflowStatus} {instants : Nat → Time}

/-- A delay is announced inside the window, before the interval has passed. -/
theorem requeuePlanningFailureDelay_eq_some {now : Time} {delay : Duration}
    (h : requeuePlanningFailureDelay status now = some delay) :
    max (now.sub status.startedAt) 0 < planningRetryWindow ∧ 0 < delay ∧
      delay = planningRetryInterval (max (now.sub status.startedAt) 0) -
        max (now.sub status.updatedAt) 0 := by
  simp only [requeuePlanningFailureDelay] at h
  split at h
  · rename_i hwaits
    simp only [Bool.and_eq_true, Bool.not_eq_true'] at hwaits
    rw [evaluatePlanningRetry_eq now hwaits.1.1] at h hwaits
    split at hwaits
    · simp at hwaits
    · rename_i hwindow
      split at hwaits
      · simp at hwaits
      · rename_i hsince
        rw [if_neg hwindow, if_neg hsince] at h
        obtain rfl := Option.some.inj h
        exact ⟨not_le.mp hwindow, by lia, rfl⟩
  · cases h

/-- What is left to wait once the clocks are in order: no difference saturates. -/
theorem announced_delay_eq {now : Time} {delay : Duration}
    (hstarted : status.startedAt ≤ status.updatedAt) (hupdated : status.updatedAt ≤ now)
    (h : requeuePlanningFailureDelay status now = some delay) :
    delay = planningRetryInterval (now - status.startedAt) - (now - status.updatedAt) := by
  obtain ⟨hwindow, -, rfl⟩ := requeuePlanningFailureDelay_eq_some h
  have hage := Time.max_sub_eq_of_lt hwindow planningRetryWindow_lt
  have hsince : max (now.sub status.updatedAt) 0 = max (now - status.updatedAt) 0 := by
    rw [hage] at hwindow
    refine Time.max_sub_eq_of_lt ?_ planningRetryWindow_lt
    simp only [Time.sub] at hwindow ⊢
    lia
  rw [hage, hsince, max_eq_left (by lia), max_eq_left (by lia)]

section

variable (hwaits : WaitsAnnounced status instants)
include hwaits

/-- As long as a delay is announced the instants do not run back before the last attempt. -/
theorem WaitsAnnounced.updatedAt_le {delays : Nat → Duration} {last : Nat}
    (hupdated : status.updatedAt ≤ instants 0)
    (hdelays : ∀ n ≤ last, requeuePlanningFailureDelay status (instants n) = some (delays n)) :
    ∀ n ≤ last, status.updatedAt ≤ instants n := by
  intro n
  induction n with
  | zero => exact fun _ => hupdated
  | succ n ih =>
    intro hn
    have hnow := hdelays n (Nat.le_of_succ_le hn)
    have hpos := (requeuePlanningFailureDelay_eq_some hnow).2.1
    have hbefore := ih (Nat.le_of_succ_le hn)
    rw [hwaits n _ hnow]
    lia

/-- A wait that was not enough is followed by the growth of the interval during it. -/
theorem WaitsAnnounced.next_delay {delays : Nat → Duration} {last n : Nat}
    (hstarted : status.startedAt ≤ status.updatedAt) (hupdated : status.updatedAt ≤ instants 0)
    (hdelays : ∀ n ≤ last, requeuePlanningFailureDelay status (instants n) = some (delays n))
    (hn : n + 1 ≤ last) :
    instants (n + 1) - status.startedAt = instants n - status.startedAt + delays n ∧
      delays (n + 1) =
        planningRetryInterval (instants n - status.startedAt + delays n) -
          planningRetryInterval (instants n - status.startedAt) := by
  have hle := hwaits.updatedAt_le hupdated hdelays
  have hbefore := Nat.le_of_succ_le hn
  have hstep := hwaits n _ (hdelays n hbefore)
  have hnow := announced_delay_eq hstarted (hle n hbefore) (hdelays n hbefore)
  have hnext := announced_delay_eq hstarted (hle (n + 1) hn) (hdelays (n + 1) hn)
  have hage : instants (n + 1) - status.startedAt =
      instants n - status.startedAt + delays n := by lia
  rw [hage] at hnext
  exact ⟨hage, by lia⟩

/-- No twenty-two waits in a row are announced: each is at most a quarter of the one before it,
rounded up, and two of a nanosecond are followed by none. -/
theorem WaitsAnnounced.not_all_announced
    (delays : Nat → Duration) (hstarted : status.startedAt ≤ status.updatedAt)
    (hupdated : status.updatedAt ≤ instants 0) :
    ¬ ∀ n ≤ 21, requeuePlanningFailureDelay status (instants n) = some (delays n) := by
  intro hdelays
  have hnext (n : Nat) (hn : n + 1 ≤ 21) := hwaits.next_delay hstarted hupdated hdelays hn
  have hpos (n : Nat) (hn : n ≤ 21) : 0 < delays n :=
    (requeuePlanningFailureDelay_eq_some (hdelays n hn)).2.1
  have hshrinks : ∀ n ≤ 19, delays n ≤ 4 ^ (19 - n) := by
    intro n
    induction n with
    | zero =>
      intro _
      have hdelay := (requeuePlanningFailureDelay_eq_some (hdelays 0 (by omega))).2.2
      have hcap := planningRetryInterval_le_cap (max ((instants 0).sub status.startedAt) 0)
      simp only [planningRetryCap, minutes, seconds] at hcap
      lia
    | succ n ih =>
      intro hn
      have hquarter : (4 : Int) ^ (19 - n) = 4 * 4 ^ (19 - (n + 1)) := by
        rw [← pow_succ']
        congr 1
        omega
      have hgrowth := planningRetryInterval_add_le (instants n - status.startedAt)
        (hpos n (by omega)).le
      have hbefore := ih (by omega)
      have hdelay := (hnext n (by omega)).2
      lia
  have hone : delays 19 = 1 := by
    have hlast := hshrinks 19 le_rfl
    have hlast' := hpos 19 (by omega)
    simp only [Nat.sub_self, pow_zero] at hlast
    lia
  obtain ⟨hage, hdelay⟩ := hnext 19 (by omega)
  obtain ⟨-, hdelay'⟩ := hnext 20 (by omega)
  have hone' : delays 20 = 1 := by
    have hgrowth := planningRetryInterval_add_le (instants 19 - status.startedAt)
      (hpos 19 (by omega)).le
    have hpos' := hpos 20 (by omega)
    lia
  have hpos' := hpos 21 le_rfl
  rw [hone] at hage hdelay
  rw [hone', hage] at hdelay'
  have hstops := planningRetryInterval_add_one_add_one
    (instants 19 - status.startedAt) (by lia)
  lia

end

/-- **Waiting the announced delay ends.**  Every announced delay is positive and at most two
minutes, and one of the first twenty-two instants finds the retry due or the window over. -/
theorem announced_waits_end
    (hretryable : (evaluatePlanningRetry status (instants 0)).retryable = true)
    (hstarted : status.startedAt ≤ status.updatedAt) (hupdated : status.updatedAt ≤ instants 0)
    (hwaits : WaitsAnnounced status instants) :
    (∀ n delay, requeuePlanningFailureDelay status (instants n) = some delay →
      0 < delay ∧ delay ≤ minutes 2) ∧
    ∃ n ≤ 21, (evaluatePlanningRetry status (instants n)).due = true ∨
      (evaluatePlanningRetry status (instants n)).expired = true := by
  refine ⟨fun n delay h => ?_, ?_⟩
  · obtain ⟨-, hpos, rfl⟩ := requeuePlanningFailureDelay_eq_some h
    have hcap := planningRetryInterval_le_cap (max ((instants n).sub status.startedAt) 0)
    simp only [planningRetryCap] at hcap
    exact ⟨hpos, by lia⟩
  · by_contra hnever
    refine hwaits.not_all_announced
      (fun n => (evaluatePlanningRetry status (instants n)).delay) hstarted hupdated fun n hn => ?_
    have hopen : ¬ ((evaluatePlanningRetry status (instants n)).due = true ∨
        (evaluatePlanningRetry status (instants n)).expired = true) :=
      fun h => hnever ⟨n, hn, h⟩
    have hagain : (evaluatePlanningRetry status (instants n)).retryable = true := by
      rw [evaluatePlanningRetry_eq (instants n) hretryable]
      repeat' split
      all_goals rfl
    rw [not_or, Bool.not_eq_true, Bool.not_eq_true] at hopen
    simp [requeuePlanningFailureDelay, hagain, hopen.1, hopen.2]

/-- A failure that is four minutes old: after the first wait, of a minute, there are fifteen seconds
to wait. -/
theorem announced_waits_end_growing :
    let status : WorkflowStatus :=
      { phase := .failed, resumeFrom := .planned, errorCategory := some .kubernetes
        startedAt := 1, updatedAt := 1 + minutes 4 }
    let instants : Nat → Time := fun n =>
      (fun now => now + (requeuePlanningFailureDelay status now).getD 0)^[n] (1 + minutes 4)
    requeuePlanningFailureDelay status (instants 1) = some (seconds 15) ∧
      ∃ n ≤ 21, (evaluatePlanningRetry status (instants n)).due = true ∨
        (evaluatePlanningRetry status (instants n)).expired = true := by
  intro status instants
  refine ⟨by decide, (announced_waits_end (by decide) (by decide) le_rfl ?_).2⟩
  intro n delay hdelay
  have hnext : instants (n + 1) =
      instants n + (requeuePlanningFailureDelay status (instants n)).getD 0 :=
    Function.iterate_succ_apply' ..
  rw [hnext, hdelay]
  rfl

end Waiting

/-! ## The one-shot loop -/

def maxOneShotReconciliations : Nat := 64

def maxOneShotRequeueDelay : Duration := seconds 30

/-- `reconcile.Result`. -/
structure Result where
  requeueAfter : Duration := 0
  requeue : Bool := false

/-- The errors of `reconcileUntilStable`. -/
inductive OneShotError
  | pass (e : Error)
  /-- "one-shot reconciliation exceeded 64 passes without becoming stable" -/
  | exceededPasses
  /-- "one-shot reconciliation requested a requeue delay of … , exceeding the … limit" -/
  | requeueDelay (delay limit : Duration)
  /-- "one-shot reconciliation stopped", with the error of the context -/
  | stopped
  deriving DecidableEq

/-- What the loop is given: the reconcile pass and the timer, over any world `σ`.  The wait
answers whether the context was done first. -/
structure OneShot (σ : Type) where
  reconcileOne : σ → Except Error Result × σ
  wait : Duration → σ → Bool × σ

/-- What the loop does after a pass without error. -/
inductive Verdict
  | stable
  | failed (e : OneShotError)
  | wait (delay : Duration)

/-- The body of the loop after a pass; `passesLeft` is how many may still follow it. -/
def afterPass (passesLeft : Nat) (result : Result) : Verdict :=
  let needsRequeue := result.requeueAfter > 0 || result.requeue
  if !needsRequeue then .stable
  else if passesLeft = 0 then .failed .exceededPasses
  else
    let delay := if result.requeueAfter ≤ 0 then 1000000 else result.requeueAfter
    if delay > maxOneShotRequeueDelay then .failed (.requeueDelay delay maxOneShotRequeueDelay)
    else if result.requeueAfter ≥ planningRetryFloor then .stable
    else .wait delay

namespace OneShot

variable {σ : Type} (env : OneShot σ)

/-- Wait, and go on unless the context was done first. -/
def waitThen (delay : Duration) (next : σ → Except OneShotError Unit × σ) (s : σ) :
    Except OneShotError Unit × σ :=
  match env.wait delay s with
  | (true, s') => (.error .stopped, s')
  | (false, s') => next s'

/-- One turn of the loop, with `next` for the turns after it. -/
def turn (passesLeft : Nat) (next : σ → Except OneShotError Unit × σ) (s : σ) :
    Except OneShotError Unit × σ :=
  match env.reconcileOne s with
  | (.error e, s') => (.error (.pass e), s')
  | (.ok result, s') =>
    match afterPass passesLeft result with
    | .stable => (.ok (), s')
    | .failed e => (.error e, s')
    | .wait delay => env.waitThen delay next s'

/-- The loop from a pass on.  The last pass never waits, so nothing follows it. -/
def reconcileFrom : Nat → σ → Except OneShotError Unit × σ
  | 0 => env.turn 0 fun s => (.ok (), s)
  | passesLeft + 1 => env.turn (passesLeft + 1) (reconcileFrom passesLeft)

def reconcileUntilStable (s : σ) : Except OneShotError Unit × σ :=
  env.reconcileFrom (maxOneShotReconciliations - 1) s

theorem reconcileFrom_ok {s s' : σ} {result : Result}
    (h : env.reconcileOne s = (.ok result, s')) (passesLeft : Nat) :
    env.reconcileFrom (passesLeft + 1) s =
      match afterPass (passesLeft + 1) result with
      | .stable => (.ok (), s')
      | .failed e => (.error e, s')
      | .wait delay => env.waitThen delay (env.reconcileFrom passesLeft) s' := by
  simp only [reconcileFrom, turn, h]

variable {delay : Duration}

/-- The last pass that asks to be repeated fails, whatever the delay. -/
theorem reconcileFrom_zero {s s' : σ} (hpos : 0 < delay)
    (h : env.reconcileOne s = (.ok { requeueAfter := delay }, s')) :
    env.reconcileFrom 0 s = (.error .exceededPasses, s') := by
  simp [reconcileFrom, turn, h, afterPass, hpos]

/-- Whatever its passes and its timer do, the loop takes a requeue delay of this length as a
backoff: it returns without error when the delay is at least the retry floor, and otherwise
waits and goes on. -/
def Tolerates (passesLeft : Nat) (delay : Duration) : Prop :=
  ∀ (σ : Type) (env : OneShot σ) (s s' : σ),
    env.reconcileOne s = (.ok { requeueAfter := delay }, s') →
    env.reconcileFrom passesLeft s =
      if planningRetryFloor ≤ delay then (.ok (), s')
      else env.waitThen delay (env.reconcileFrom (passesLeft - 1)) s'

/-- A pass that asks for `delay` every time, in a world that counts the waits. -/
def askingFor (delay : Duration) : OneShot Nat where
  reconcileOne waits := (.ok { requeueAfter := delay }, waits)
  wait _ waits := (false, waits + 1)

/-- After the last pass the loop fails, so it neither returns without error nor waits. -/
theorem not_tolerates_zero (hpos : 0 < delay) : ¬ Tolerates 0 delay := by
  intro h
  have hall := h Nat (askingFor delay) 0 0 rfl
  rw [reconcileFrom_zero _ hpos rfl] at hall
  by_cases hfloor : planningRetryFloor ≤ delay
  · simp [hfloor] at hall
  · have hwait : (askingFor delay).waitThen delay ((askingFor delay).reconcileFrom (0 - 1)) 0 =
        (askingFor delay).reconcileFrom 0 1 := rfl
    rw [if_neg hfloor, hwait, reconcileFrom_zero _ hpos rfl] at hall
    simp at hall

/-- Before the last pass the limit of the one-shot command decides. -/
theorem tolerates_succ_iff {passesLeft : Nat} (hpos : 0 < delay) :
    Tolerates (passesLeft + 1) delay ↔ delay ≤ maxOneShotRequeueDelay := by
  have hdelay : ¬ delay ≤ 0 := not_le.mpr hpos
  constructor
  · intro h
    by_contra hover
    have hlong : maxOneShotRequeueDelay < delay := not_le.mp hover
    have hfloor : planningRetryFloor ≤ delay := le_trans (by decide) (le_of_lt hlong)
    have hall := h Nat (askingFor delay) 0 0 rfl
    rw [reconcileFrom_ok (askingFor delay) rfl, if_pos hfloor] at hall
    simp [afterPass, hpos, hdelay, hlong] at hall
  · intro hlimit σ env s s' hpass
    have hshort : ¬ maxOneShotRequeueDelay < delay := not_lt.mpr hlimit
    rw [reconcileFrom_ok env hpass]
    by_cases hfloor : planningRetryFloor ≤ delay <;> simp [afterPass, hpos, hdelay, hshort, hfloor]

end OneShot

/-! ### Planning backoffs in the one-shot loop -/

/-- The backoff of a failed planning attempt is within the one-shot limit, read off the three
instants: a quarter of the workflow's age is at most the limit longer than the time since the
last attempt, or the cap is, or what is left of the window is. -/
def BackoffWithinLimit (status : WorkflowStatus) (now : Time) : Prop :=
  let age := max (now.sub status.startedAt) 0
  let sinceAttempt := max (now.sub status.updatedAt) 0
  age / 4 ≤ sinceAttempt + maxOneShotRequeueDelay ∨
    planningRetryCap ≤ sinceAttempt + maxOneShotRequeueDelay ∨
    planningRetryWindow ≤ age + sinceAttempt + maxOneShotRequeueDelay

instance (status : WorkflowStatus) (now : Time) : Decidable (BackoffWithinLimit status now) :=
  inferInstanceAs (Decidable (_ ∨ _ ∨ _))

/-- The floor itself is below the limit, so only the growth of the interval can pass it. -/
theorem planningRetryInterval_sub_le_iff {age since : Int} (hsince : 0 ≤ since) :
    planningRetryInterval age - since ≤ maxOneShotRequeueDelay ↔
      age / 4 ≤ since + maxOneShotRequeueDelay ∨
        planningRetryCap ≤ since + maxOneShotRequeueDelay ∨
        planningRetryWindow ≤ age + since + maxOneShotRequeueDelay := by
  rw [planningRetryInterval_eq]
  simp only [maxOneShotRequeueDelay, planningRetryFloor, planningRetryCap, planningRetryWindow,
    minutes, seconds]
  lia

theorem backoff_delay {delay : Duration}
    (h : planningFailureGate status now = some (.stop (some delay)) ∨
      requeuePlanningFailureDelay status now = some delay) :
    0 < delay ∧ (delay ≤ maxOneShotRequeueDelay ↔ BackoffWithinLimit status now) := by
  have hdecision : (evaluatePlanningRetry status now).retryable = true ∧
      (evaluatePlanningRetry status now).expired = false ∧
      (evaluatePlanningRetry status now).due = false ∧
      (evaluatePlanningRetry status now).delay = delay := by
    simp only [planningFailureGate, requeuePlanningFailureDelay] at h
    rcases evaluatePlanningRetry_cases status now with hcase | hcase | hcase | ⟨d, hcase⟩
    · simp [hcase] at h
    · simp [hcase] at h
    · simp [hcase] at h
    · simpa [hcase] using h
  obtain ⟨hretryable, hexpired, hdue, hsame⟩ := hdecision
  obtain ⟨hvalue, hpos⟩ := evaluatePlanningRetry_delay hretryable hexpired hdue
  rw [hsame] at hvalue hpos
  refine ⟨hpos, ?_⟩
  rw [hvalue]
  exact planningRetryInterval_sub_le_iff (le_max_right _ _)

/-- **The one-shot loop tolerates the delay of a planning backoff exactly when another pass may
follow and the backoff is within the one-shot limit.** -/
theorem tolerates_backoff_iff (status : WorkflowStatus) (now : Time) (delay : Duration)
    (passesLeft : Nat) (h : planningFailureGate status now = some (.stop (some delay)) ∨
      requeuePlanningFailureDelay status now = some delay) :
    OneShot.Tolerates passesLeft delay ↔ 0 < passesLeft ∧ BackoffWithinLimit status now := by
  obtain ⟨hpos, hlimit⟩ := backoff_delay h
  cases passesLeft with
  | zero =>
    exact iff_of_false (OneShot.not_tolerates_zero hpos) (fun hand => Nat.lt_irrefl 0 hand.1)
  | succ passesLeft =>
    rw [OneShot.tolerates_succ_iff hpos, hlimit]
    simp

/-- A workflow whose planning was last tried ten seconds ago, five minutes into its window. -/
def fiveMinutesOld : WorkflowStatus :=
  { recordPlanningOutcome {} 1 (some missingSource) (seconds 1) with updatedAt := seconds 291 }

/-- Its backoff of 65 seconds ends the one-shot command with an error in the first pass. -/
theorem fiveMinutesOld_refused :
    planningFailureGate fiveMinutesOld (seconds 301) = some (.stop (some (seconds 65))) ∧
      planningRetryFloor ≤ seconds 65 ∧
      (OneShot.askingFor (seconds 65)).reconcileUntilStable 0 =
        (.error (.requeueDelay (seconds 65) (seconds 30)), 0) := by
  refine ⟨by decide +kernel, by decide, ?_⟩
  rfl

/-- Right after the first attempt the backoff is the floor, and the command ends without error. -/
theorem tolerates_backoff_first :
    requeuePlanningFailureDelay (recordPlanningOutcome {} 1 (some missingSource) (seconds 1))
        (seconds 1) = some (seconds 15) ∧
      OneShot.Tolerates (maxOneShotReconciliations - 1) (seconds 15) := by
  have hdelay : requeuePlanningFailureDelay
      (recordPlanningOutcome {} 1 (some missingSource) (seconds 1)) (seconds 1) =
        some (seconds 15) := by
    decide +kernel
  exact ⟨hdelay, (tolerates_backoff_iff _ _ _ _ (.inr hdelay)).mpr
    ⟨by decide, by decide +kernel⟩⟩

end PvcMigrate
