import Mathlib.Logic.Function.Iterate
import PvcMigrate.Kube.CopyHandoffSafety

/-!
# Recovery finishes a handoff

Once users and other parties leave the two records alone, the controller brings every reachable
state to one with a single record that does not wait.  Two things are outside its hands.  A record
that is being deleted stays as long as someone else has a finalizer on it, and the handoff goes
forward only if the copy passes its live validation.

Where no Lease can be created because its namespace is terminating, a cancelled reservation that is
being deleted loses its finalizer at once, and the workflow is gone without its finalization.
-/

namespace PvcMigrate.Handoff

open Prog Record Relation

variable {ρ σ κ : Type}

/-! ## The passes -/

/-- The owners of other finalizers remove them from a record that is being deleted. -/
def letGo {α : Type} (clock : Nat) (r : Record α) : Option (Record α) :=
  if r.deleting then
    kept { r with version := clock, finalizers := r.finalizers.filter (· ∈ ownFinalizers) }
  else some r

/-- The owners of other finalizers let go of both records. -/
def World.release (w : World ρ σ κ) : World ρ σ κ :=
  w.tick (w.reservation.bind (letGo w.clock)) (w.copy.bind (letGo w.clock))

/-- A single record that does not wait, or none at all. -/
def Settled (w : World ρ σ κ) : Prop :=
  match w.reservation, w.copy with
  | some r, none => r.payload.pending = none
  | none, some c => c.payload.pending = none
  | none, none => True
  | some _, some _ => False

section Passes

variable [DecidableEq ρ] [DecidableEq σ] [DecidableEq κ] (a : Adoption ρ σ κ) (w : World ρ σ κ)

/-- The controller of reservations looks at the reservation. -/
def reconcileReservation : World ρ σ κ :=
  match w.reservation with
  | some r => (run serve (recoverReservation a r) w).2
  | none => w

/-- The controller of copies looks at the copy. -/
def reconcileCopy : World ρ σ κ :=
  match w.copy with
  | some c => (run serve (recoverCopy a c) w).2
  | none => w

def recoverPass : World ρ σ κ := reconcileCopy a (reconcileReservation a w)

end Passes

/-! ## What the others do -/

section Release

variable {a : Adoption ρ σ κ} {w : World ρ σ κ} {α : Type} {r : Record α} {clock : Nat}

theorem mem_own_filter {f : String} (hf : f ∈ ownFinalizers) (finalizers : List String) :
    f ∈ finalizers.filter (· ∈ ownFinalizers) ↔ f ∈ finalizers := by
  simp [List.mem_filter, hf]

theorem letGo_of_bare (hdeleting : r.deleting = true) (hbare : Bare r) : letGo clock r = none := by
  have hnone : r.finalizers.filter (· ∈ ownFinalizers) = [] := by
    refine List.filter_eq_nil_iff.mpr fun f hf hown => ?_
    exact hbare f (of_decide_eq_true hown) hf
  simp only [letGo, hdeleting, if_true, kept, hnone, and_self]

theorem aged_letGo (r : Record α) : Aged ownFinalizers clock (clock + 1) (some r)
    (letGo clock r) := by
  unfold letGo
  split
  · unfold kept
    split
    · rename_i hgone
      intro f hf hmem
      have hnone : r.finalizers.filter (· ∈ ownFinalizers) = [] := hgone.2
      have := (mem_own_filter hf r.finalizers).mpr hmem
      rw [hnone] at this
      cases this
    · exact ⟨rfl, rfl, fun f hf => mem_own_filter hf r.finalizers, id, fun _ => rfl,
        .inr ⟨Nat.le_refl _, Nat.lt_succ_self _⟩⟩
  · exact Later.refl r

theorem World.later_release (w : World ρ σ κ) : w.Later w.release := by
  refine World.later_tick ?_ ?_
  · cases w.reservation with
    | none => rfl
    | some r => exact aged_letGo r
  · cases w.copy with
    | none => rfl
    | some c => exact aged_letGo c

/-- A record that is left over after the others have let go is protected or not being deleted. -/
theorem letGo_eq_some {t : Record α} (hprotection : Shielded r ∨ Bare r)
    (h : letGo clock r = some t) : t.deleting = true → Shielded t := by
  intro hdeleting
  have hlater : r.Later ownFinalizers clock (clock + 1) t := by
    have haged : Aged ownFinalizers clock (clock + 1) (some r) (letGo clock r) := aged_letGo r
    rw [h] at haged
    exact haged
  rcases hprotection with hshielded | hbare
  · exact hshielded.later hlater
  · cases hr : r.deleting with
    | true =>
      rw [letGo_of_bare hr hbare] at h
      cases h
    | false =>
      have : letGo clock r = some r := by simp [letGo, hr]
      rw [this] at h
      obtain rfl := Option.some.inj h
      rw [hr] at hdeleting
      cases hdeleting

end Release

/-! ## Requests that nobody disturbs -/

section Calm

variable {w : World ρ σ κ} {β : Type} {r : Reservation ρ}

theorem run_getReservation_bind (hr : w.reservation = some r) (f : Reservation ρ → Run ρ σ κ β) :
    run serve (getReservation >>= f) w = run serve (f r) w := by
  show run serve (Prog.bind (Prog.bind (Prog.perform _) _) f) w = _
  simp only [Prog.perform, Prog.bind, run, serve, hr]
  rfl

variable {c : Copy σ κ}

theorem run_getCopy_bind (hc : w.copy = some c) (f : Copy σ κ → Run ρ σ κ β) :
    run serve (getCopy >>= f) w = run serve (f c) w := by
  show run serve (Prog.bind (Prog.bind (Prog.perform _) _) f) w = _
  simp only [Prog.perform, Prog.bind, run, serve, hc]
  rfl

theorem run_findReservation_bind (f : Option (Reservation ρ) → Run ρ σ κ β) :
    run serve (findReservation >>= f) w = run serve (f w.reservation) w := by
  show run serve (Prog.bind (Prog.bind (Prog.perform _) _) f) w = _
  cases hr : w.reservation with
  | none | some r =>
    simp only [Prog.perform, Prog.bind, run, serve, hr]
    rfl

theorem run_loadReservation_bind (hr : w.reservation = some r)
    (f : Option (Reservation ρ) → Run ρ σ κ β) :
    run serve (reservationStore.load >>= f) w = run serve (f (some r)) w := by
  rw [← hr]
  exact run_findReservation_bind f

theorem run_findCopy_bind (f : Option (Copy σ κ) → Run ρ σ κ β) :
    run serve (findCopy >>= f) w = run serve (f w.copy) w := by
  show run serve (Prog.bind (Prog.bind (Prog.perform _) _) f) w = _
  cases hc : w.copy with
  | none | some c =>
    simp only [Prog.perform, Prog.bind, run, serve, hc]
    rfl

theorem run_acquireLease_bind (f : Except Refusal Unit → Run ρ σ κ β) :
    run serve (acquireLease >>= f) w = run serve (f (.ok ())) w := rfl

theorem run_validateCopy_bind (spec : σ) (plan : κ) (f : Unit → Run ρ σ κ β) :
    run serve (validateCopy spec plan >>= f) w = run serve (f ()) w := rfl

theorem run_updateReservation (next : Reservation ρ) (hr : w.reservation = some r)
    (huid : r.uid = next.uid) (hversion : r.version = next.version)
    (hallowed : r.deleting = true → ∀ f ∈ next.finalizers, f ∈ r.finalizers) :
    run serve (updateReservation next : Run ρ σ κ _) w =
      (.ok (storedReservation w.clock next r),
        w.tick (storedReservation w.clock next r).kept w.copy) := by
  have hserve : serve (.updateReservation next : Op ρ σ κ) w =
      (.ok (storedReservation w.clock next r),
        w.tick (storedReservation w.clock next r).kept w.copy) := by
    simp only [serve, hr, revise_current (World.rewriteReservation next) huid hversion hallowed]
    rfl
  show run serve (Prog.bind (Prog.perform _) _) w = _
  simp only [Prog.perform, Prog.bind, run, hserve]

theorem run_updateCopy (next : Copy σ κ) (hc : w.copy = some c) (huid : c.uid = next.uid)
    (hversion : c.version = next.version)
    (hallowed : c.deleting = true → ∀ f ∈ next.finalizers, f ∈ c.finalizers) :
    run serve (updateCopy next : Run ρ σ κ _) w =
      (.ok (storedCopy w.clock next c), w.tick w.reservation (storedCopy w.clock next c).kept) := by
  have hserve : serve (.updateCopy next : Op ρ σ κ) w =
      (.ok (storedCopy w.clock next c), w.tick w.reservation (storedCopy w.clock next c).kept) := by
    simp only [serve, hc, revise_current (World.rewriteCopy next) huid hversion hallowed]
    rfl
  show run serve (Prog.bind (Prog.perform _) _) w = _
  simp only [Prog.perform, Prog.bind, run, hserve]

theorem run_updateCopyStatus (next : Copy σ κ) (hc : w.copy = some c) (huid : c.uid = next.uid)
    (hversion : c.version = next.version) :
    run serve (updateCopyStatus next : Run ρ σ κ _) w =
      (.ok (storedStatus w.clock next c),
        w.tick w.reservation (storedStatus w.clock next c).kept) := by
  have hserve : serve (.updateCopyStatus next : Op ρ σ κ) w =
      (.ok (storedStatus w.clock next c), w.tick w.reservation
        (storedStatus w.clock next c).kept) := by
    simp only [serve, hc, revise_current (World.rewriteStatus next) huid hversion
      fun _ f hf => hf]
    rfl
  show run serve (Prog.bind (Prog.perform _) _) w = _
  simp only [Prog.perform, Prog.bind, run, hserve]

theorem run_deleteReservation_bind (hr : w.reservation = some r) (f : Unit → Run ρ σ κ β) :
    run serve (ignoreNotFound (.deleteReservation r.uid r.version) >>= f) w =
      run serve (f ()) (w.tick (r.condemned w.clock) w.copy) := by
  have hserve : serve (.deleteReservation r.uid r.version : Op ρ σ κ) w =
      (.ok (), w.tick (r.condemned w.clock) w.copy) := by
    simp only [serve, hr, delete_current]
    rfl
  show run serve (Prog.bind (Prog.bind (Prog.perform _) _) f) w = _
  simp only [Prog.perform, Prog.bind, run, hserve]

/-- A deletion of the copy that has just been written, if it is still there. -/
theorem run_deleteCopy (c : Copy σ κ) (hc : w.copy = c.kept) :
    (run serve (ignoreNotFound (.deleteCopy c.uid c.version) : Run ρ σ κ Unit) w).2 =
      w.tick w.reservation (c.kept.bind (condemned w.clock)) := by
  unfold kept at hc ⊢
  split at hc
  · rename_i hgone
    have hserve : serve (.deleteCopy c.uid c.version : Op ρ σ κ) w =
        (.error .notFound, w.tick w.reservation none) := by
      simp only [serve, hc, delete]
      rfl
    show (run serve (Prog.bind (Prog.perform _) _) w).2 = _
    rw [if_pos hgone]
    simp only [Prog.perform, Prog.bind, run, hserve, Option.bind_none]
  · rename_i hkept
    have hserve : serve (.deleteCopy c.uid c.version : Op ρ σ κ) w =
        (.ok (), w.tick w.reservation (c.condemned w.clock)) := by
      simp only [serve, hc, delete_current]
      rfl
    show (run serve (Prog.bind (Prog.perform _) _) w).2 = _
    rw [if_neg hkept]
    simp only [Prog.perform, Prog.bind, run, hserve, Option.bind_some]

end Calm

/-! ## Runs that nobody disturbs -/

section CalmRuns

variable {a : Adoption ρ σ κ} {w : World ρ σ κ} {α : Type}

/-- A record that has just been read is still the same when the Lease is held. -/
theorem run_withWorkflowLease {store : WorkflowStore ρ σ κ α} {object : Record α}
    {allowDeleting : Bool} {body : Run ρ σ κ (Record α)}
    (hallowed : object.deleting = true → allowDeleting = true)
    (hload : ∀ f : Option (Record α) → Run ρ σ κ Unit,
      run serve (store.load >>= f) w = run serve (f (some object)) w) :
    (run serve (withWorkflowLease store object allowDeleting body) w).2 = (run serve body w).2 := by
  have hnot : ¬ (object.deleting = true ∧ allowDeleting = false) := by
    rintro ⟨hdeleting, hfalse⟩
    rw [hallowed hdeleting] at hfalse
    cases hfalse
  unfold withWorkflowLease
  rw [run_reject_bind, if_neg hnot, run_acquireLease_bind]
  simp only [hload, run_reject_bind, if_neg hnot, ne_eq, not_true, or_self, if_false,
    run_bind_pure_snd]

variable {c : Copy σ κ}

theorem not_progressed (h : c.payload.status = .empty ∨ Ready a c) :
    ¬ (c.payload.status.phase ≠ "" ∧ c.payload.status.phase ≠ "Reserved") ∧
      ¬ c.payload.status.progress = true := by
  rcases h with hempty | ⟨plan, ⟨generation, hstatus, -⟩, -⟩
  · rw [hempty]
    simp [CopyStatus.empty]
  · rw [hstatus]
    simp [Adoption.checkpoint]

variable {r : Reservation ρ}

theorem run_validatePending_bind {β : Type} (h : Backward a r c ∨ Forward a r c)
    (f : Unit → Run ρ σ κ β) :
    run serve (validatePendingReservationCopy r c >>= f) w = run serve (f ()) w := by
  have hstatus : c.payload.status = .empty ∨ Ready a c :=
    h.elim (fun hback => hback.status) fun hforward => hforward.status
  have htied : ¬ (c.payload.pending = none ∨ c.payload.origin ≠ some r.uid ∨
      (r.payload.pending ≠ none ∧ r.payload.pending ≠ c.payload.pending)) := by
    rcases h with hback | hforward
    · simp [hback.waiting, hback.origin, hback.pending]
    · simp [hforward.waiting, hforward.origin, hforward.pending]
  unfold validatePendingReservationCopy
  rw [run_bind]
  simp only [run_reject_bind, if_neg htied, if_neg (not_progressed hstatus).1, run_reject,
    if_neg (not_progressed hstatus).2]

theorem mem_of_mem_ensureSessionFinalizer {r : Record α} (h : Shielded r) :
    ∀ f ∈ ensureSessionFinalizer r.finalizers, f ∈ r.finalizers := by
  intro f hf
  have hsame : ensureSessionFinalizer r.finalizers = r.finalizers := if_pos h
  rwa [hsame] at hf

theorem kept_restored (clock : Nat) (r : Reservation ρ) :
    (storedReservation clock (restored r) r).kept = some (storedReservation clock (restored r) r) :=
  kept_of_shielded (mem_ensureSessionFinalizer _)

theorem run_cancelCopyHandoff_alone (hr : w.reservation = some r) (hc : w.copy = none)
    (hvalid : a.validReservation r.payload.content = true)
    (hallowed : r.deleting = true → Shielded r) (hpending : r.payload.pending ≠ none) :
    (run serve (cancelCopyHandoff a r) w).2 =
      w.tick (some (storedReservation w.clock (restored r) r)) none := by
  unfold cancelCopyHandoff
  rw [run_reject_bind, if_neg (ne_false_of_eq_true hvalid),
    run_withWorkflowLease id (run_loadReservation_bind hr)]
  unfold cancelCRDReservationCopyHandoff checkWorkflowStorageVersion
  simp only [run_getReservation_bind hr, run_reject_bind, ne_eq, not_true, or_self, if_false,
    run_findCopy_bind, hc, if_neg hpending]
  rw [run_updateReservation (restored r) hr rfl rfl
    fun hdeleting => mem_of_mem_ensureSessionFinalizer (hallowed hdeleting), kept_restored, hc]

/-- What is left of a handoff that has been cancelled: a reservation that does not wait, and perhaps
a copy that others keep. -/
def Cancelled (w : World ρ σ κ) : Prop :=
  ∃ r, w.reservation = some r ∧ r.payload.pending = none ∧
    ∀ c, w.copy = some c → c.deleting = true ∧ Bare c

theorem condemned_eq_some {clock : Nat} {x y : Record α} (h : x.condemned clock = some y) :
    y.deleting = true ∧ y.finalizers = x.finalizers := by
  unfold condemned at h
  split at h
  · cases h
  · split at h
    · rename_i hdeleting
      obtain rfl := Option.some.inj h
      exact ⟨hdeleting, rfl⟩
    · obtain rfl := Option.some.inj h
      exact ⟨rfl, rfl⟩

theorem cancelled_cancelCopyHandoff (hr : w.reservation = some r) (hc : w.copy = some c)
    (hvalid : a.validReservation r.payload.content = true)
    (hallowed : r.deleting = true → Shielded r) (hpair : Backward a r c ∨ Forward a r c) :
    Cancelled (run serve (cancelCopyHandoff a r) w).2 := by
  unfold cancelCopyHandoff
  rw [run_reject_bind, if_neg (ne_false_of_eq_true hvalid),
    run_withWorkflowLease id (run_loadReservation_bind hr)]
  unfold cancelCRDReservationCopyHandoff checkWorkflowStorageVersion
  simp only [run_getReservation_bind hr, run_reject_bind, ne_eq, not_true, or_self, if_false,
    run_findCopy_bind, hc]
  rw [run_validatePending_bind hpair, run_bind, run_updateReservation (restored r) hr rfl rfl
    fun hdeleting => mem_of_mem_ensureSessionFinalizer (hallowed hdeleting), kept_restored, hc]
  dsimp only
  have hcopy : (w.tick (some (storedReservation w.clock (restored r) r)) (some c)).copy = some c :=
    rfl
  rw [run_bind, run_updateCopy
    { c with finalizers := removeSessionFinalizer c.finalizers } hcopy rfl
    rfl fun _ f hf => (List.mem_filter.mp hf).1]
  dsimp only
  rw [run_bind_pure_snd, run_deleteCopy _ rfl]
  refine ⟨_, rfl, rfl, fun c' hc' => ?_⟩
  obtain ⟨y, hy, hcondemned⟩ := Option.bind_eq_some_iff.mp hc'
  obtain rfl := kept_eq_some hy
  obtain ⟨hdeleting, hfinalizers⟩ := condemned_eq_some hcondemned
  refine ⟨hdeleting, fun f hf => ?_⟩
  rw [hfinalizers]
  exact not_mem_removeSessionFinalizer _ f hf

theorem run_prepareCRDCopyHandoff [DecidableEq σ] (hc : w.copy = some c) (hforward : Forward a r c)
    (hkept : c.deleting = false) :
    run serve (prepareCRDCopyHandoff r c.payload.spec (a.token r)) w = (.ok (r, c), w) := by
  have hbelongs : ¬ (r.payload.pending ≠ some (a.token r) ∨ c.payload.pending ≠ some (a.token r) ∨
      c.payload.origin ≠ some r.uid ∨ c.payload.spec ≠ c.payload.spec ∨ c.deleting = true) := by
    simp [hforward.pending, hforward.waiting, hforward.origin, hkept]
  have htoken : ¬ (r.payload.pending ≠ none ∧ r.payload.pending ≠ some (a.token r)) := by
    simp [hforward.pending]
  unfold prepareCRDCopyHandoff
  simp only [run_findCopy_bind, run_reject_bind, if_neg htoken, hc, if_neg hbelongs, run_pure]

theorem run_initializeCRDCopyHandoff [DecidableEq κ] {plan : κ} (hc : w.copy = some c)
    (hstatus : c.payload.status = .empty ∨ Initialized a plan c) (hkept : c.deleting = false)
    (hshielded : Shielded c) :
    ∃ c' w', run serve (initializeCRDCopyHandoff a c plan : Run ρ σ κ _) w = (.ok c', w') ∧
      w'.reservation = w.reservation ∧ w'.copy = some c' ∧ Shielded c' ∧ Initialized a plan c' ∧
      c'.payload =
        { c.payload with status := a.checkpoint c.generation c.payload.spec plan } := by
  unfold initializeCRDCopyHandoff
  dsimp only
  rcases hstatus with hempty | ⟨generation, hstatus, hgeneration⟩
  · have hplan : ¬ c.payload.status.plan ≠ none := by
      rw [hempty]
      simp [CopyStatus.empty]
    rw [if_neg hplan, run_reject_bind, if_neg (not_not.mpr hempty)]
    refine ⟨_, _, run_updateCopyStatus _ hc rfl rfl, rfl, ?_, ?_,
      ⟨c.generation, rfl, fun _ => rfl⟩, rfl⟩
    · exact kept_of_shielded (show Shielded (storedStatus w.clock _ c) from hshielded)
    · exact hshielded
  · have hplan : c.payload.status.plan ≠ none := by
      rw [hstatus]
      exact Option.some_ne_none _
    have hsame : c.payload.status = a.checkpoint c.generation c.payload.spec plan := by
      rw [hgeneration hkept]
      exact hstatus
    rw [if_pos hplan, run_reject_bind, if_neg (not_not.mpr hsame), run_pure]
    refine ⟨c, w, rfl, rfl, hc, hshielded, ⟨generation, hstatus, hgeneration⟩, ?_⟩
    rw [← hsame]

variable [DecidableEq σ] [DecidableEq κ]

theorem run_activateCRDCopyHandoff (hr : w.reservation = none) (hc : w.copy = some c)
    (hready : Ready a c) (horigin : c.payload.origin ≠ none) (hpending : c.payload.pending ≠ none) :
    (run serve (activateCRDCopyHandoff c : Run ρ σ κ _) w).2 =
      w.tick none (storedCopy w.clock
        { c with payload := { c.payload with pending := none } } c).kept := by
  obtain ⟨plan, ⟨generation, hstatus, -⟩, -⟩ := hready
  have hplan : ¬ (c.payload.status.plan = none ∨ c.payload.status.phase ≠ "Reserved" ∨
      c.payload.origin = none) := by
    rw [hstatus]
    simp [Adoption.checkpoint, horigin]
  unfold activateCRDCopyHandoff checkWorkflowStorageVersion
  simp only [run_reject_bind, if_neg hplan, run_getCopy_bind hc, ne_eq, not_true, or_self, if_false,
    run_findReservation_bind, hr, Option.isSome_none, Bool.false_eq_true, if_neg hpending]
  rw [run_updateCopy { c with payload := { c.payload with pending := none } } hc rfl rfl
    fun _ f hf => hf, hr]

theorem run_activateReservationHandoff (hr : w.reservation = none) (hc : w.copy = some c)
    (hready : Ready a c) (horigin : c.payload.origin ≠ none) (hpending : c.payload.pending ≠ none) :
    (run serve (activateReservationHandoff a c) w).2 =
      w.tick none (storedCopy w.clock
        { c with payload := { c.payload with pending := none } } c).kept := by
  have hvalid : ¬ a.validCopy c.payload.spec c.payload.status.plan = false := by
    obtain ⟨plan, ⟨generation, hstatus, -⟩, hvalid⟩ := hready
    rw [hstatus]
    simp [Adoption.checkpoint, hvalid]
  unfold activateReservationHandoff
  have hload (f : Option (Copy σ κ) → Run ρ σ κ Unit) :
      run serve (copyStore.load >>= f) w = run serve (f (some c)) w := by
    rw [← hc]
    exact run_findCopy_bind f
  rw [run_reject_bind, if_neg hvalid, run_withWorkflowLease id hload,
    run_activateCRDCopyHandoff hr hc hready horigin hpending]

/-- What is left of a handoff that has gone forward: the copy, which does not wait any more, or a
reservation that others keep. -/
def HandedOver (w : World ρ σ κ) : Prop :=
  ∃ c, w.copy = some c ∧ (w.reservation = none ∧ c.payload.pending = none ∨
    ∃ r, w.reservation = some r ∧ r.deleting = true ∧ Bare r)

theorem run_activateCRDCopyHandoff_of_some (hr : w.reservation = some r) (hc : w.copy = some c) :
    (run serve (activateCRDCopyHandoff c : Run ρ σ κ _) w).2 = w := by
  unfold activateCRDCopyHandoff checkWorkflowStorageVersion
  rw [run_reject_bind]
  split
  · rfl
  · simp only [run_getCopy_bind hc, run_reject_bind, ne_eq, not_true, or_self, if_false,
      run_findReservation_bind, hr, Option.isSome_some, if_true]

/-- The last writes of the handoff: the reservation loses its protection and is deleted, and the
copy is activated if nobody else keeps the reservation. -/
theorem handedOver_unprotect (hr : w.reservation = some r) (hc : w.copy = some c)
    (hkept : r.deleting = false) (hshielded : Shielded c) (hready : Ready a c)
    (horigin : c.payload.origin ≠ none) (hwaiting : c.payload.pending ≠ none) :
    HandedOver (run serve (do
      let withoutProtection ← updateReservation
        { r with finalizers := removeSessionFinalizer r.finalizers }
      ignoreNotFound (.deleteReservation withoutProtection.uid withoutProtection.version)
      activateCRDCopyHandoff c) w).2 := by
  rw [run_bind, run_updateReservation
    { r with finalizers := removeSessionFinalizer r.finalizers } hr
    rfl rfl fun _ f hf => (List.mem_filter.mp hf).1]
  dsimp only
  generalize hx : storedReservation w.clock
    { r with finalizers := removeSessionFinalizer r.finalizers } r = x
  have hxkept : x.kept = some x := kept_of_not_deleting (by rw [← hx]; exact hkept)
  have hbare : Bare x := by
    rw [← hx]
    exact not_mem_removeSessionFinalizer _
  rw [hxkept, hc]
  have hreservation : (w.tick (some x) (some c)).reservation = some x := rfl
  rw [run_deleteReservation_bind hreservation]
  cases hgone : x.condemned (w.tick (some x) (some c)).clock with
  | none =>
    rw [run_activateCRDCopyHandoff rfl rfl hready horigin hwaiting]
    refine ⟨_, kept_of_shielded ?_, .inl ⟨rfl, rfl⟩⟩
    exact hshielded
  | some y =>
    rw [run_activateCRDCopyHandoff_of_some rfl rfl]
    obtain ⟨hdeleting, hfinalizers⟩ := condemned_eq_some hgone
    refine ⟨c, rfl, .inr ⟨y, rfl, hdeleting, fun f hf => ?_⟩⟩
    rw [hfinalizers]
    exact hbare f hf

variable [DecidableEq ρ]

theorem handedOver_handoffCRDReservationToCopy {plan : κ} (hr : w.reservation = some r)
    (hc : w.copy = some c) (hforward : Forward a r c) (hrkept : r.deleting = false)
    (hckept : c.deleting = false)
    (hplan : a.copyFromReservation r.payload.content c.payload.spec = some plan)
    (hstatus : c.payload.status = .empty ∨ Initialized a plan c) :
    HandedOver (run serve (handoffCRDReservationToCopy a r c.payload.spec plan) w).2 := by
  obtain ⟨c', w', hinit, hreservation, hcopy, hshielded, hinitialized, hpayload⟩ :=
    run_initializeCRDCopyHandoff (ρ := ρ) hc hstatus hckept hforward.shielded
  have hready : Ready a c' := by
    refine ⟨plan, hinitialized, ?_⟩
    rw [hpayload]
    exact a.validated _ _ _ hplan
  have horigin : c'.payload.origin ≠ none := by
    rw [hpayload]
    simp [hforward.origin]
  have hwaiting : c'.payload.pending ≠ none := by
    rw [hpayload]
    simp [hforward.waiting]
  unfold handoffCRDReservationToCopy checkWorkflowStorageVersion
  simp only [run_getReservation_bind hr, run_reject_bind, ne_eq, not_true, or_self, if_false,
    hrkept, Bool.false_eq_true]
  rw [run_bind, run_prepareCRDCopyHandoff hc hforward hckept]
  dsimp only
  rw [run_bind, hinit]
  exact handedOver_unprotect (hreservation.trans hr) hcopy hrkept hshielded hready horigin hwaiting

/-- A reservation that waits with its copy is handed over, unless the live validation fails. -/
theorem handedOver_adoptReservation (hr : w.reservation = some r) (hc : w.copy = some c)
    (hvalid : a.validReservation r.payload.content = true) (hforward : Forward a r c)
    (hrkept : r.deleting = false) (hckept : c.deleting = false) :
    HandedOver (run serve (adoptReservation a r c.payload.spec) w).2 := by
  obtain ⟨plan, hplan, hstatus⟩ := hforward.plan
  have hkept : ¬ r.deleting = true := by simp [hrkept]
  unfold adoptReservation
  rw [run_reject_bind, if_neg (ne_false_of_eq_true hvalid),
    run_withWorkflowLease (fun h => absurd h hkept) (run_loadReservation_bind hr),
    run_reject_bind, if_neg hkept, hplan]
  rw [run_validateCopy_bind, run_bind_pure_snd]
  exact handedOver_handoffCRDReservationToCopy hr hc hforward hrkept hckept hplan
    (hstatus.imp (fun h => h.1) fun h => h.1)

end CalmRuns

/-! ## Passes that nobody disturbs -/

section CalmPasses

variable [DecidableEq ρ] [DecidableEq σ] [DecidableEq κ] {a : Adoption ρ σ κ} {w : World ρ σ κ}

omit [DecidableEq ρ] [DecidableEq σ] [DecidableEq κ] in
theorem observed_serve (op : Op ρ σ κ) (w : World ρ σ κ) :
    Observed w op (serve op w).1 (serve op w).2 := ⟨w, .refl, .inl rfl⟩

theorem Sound.reconcileReservation (h : Sound a w) : Sound a (reconcileReservation a w) := by
  unfold Handoff.reconcileReservation
  split
  · exact Keeps.invariant (safe_recoverReservation h) (runs_run observed_serve _ w)
  · exact h

theorem Sound.reconcileCopy (h : Sound a w) : Sound a (reconcileCopy a w) := by
  unfold Handoff.reconcileCopy
  split
  · exact Keeps.invariant (safe_recoverCopy h) (runs_run observed_serve _ w)
  · exact h

theorem Sound.recoverPass (h : Sound a w) : Sound a (recoverPass a w) :=
  h.reconcileReservation.reconcileCopy

theorem reconcileReservation_of_none (hr : w.reservation = none) :
    reconcileReservation a w = w := by
  unfold Handoff.reconcileReservation
  simp only [hr]

theorem reconcileCopy_of_none (hc : w.copy = none) : reconcileCopy a w = w := by
  unfold Handoff.reconcileCopy
  simp only [hc]

variable {c : Copy σ κ} {r : Reservation ρ}

omit [DecidableEq ρ] [DecidableEq σ] [DecidableEq κ] in
theorem waiting_of_pair (hpair : Backward a r c ∨ Forward a r c) : c.payload.pending ≠ none := by
  rcases hpair with hback | hforward
  · exact hback.waiting
  · rw [hforward.waiting]
    exact Option.some_ne_none _

theorem run_recoverReservation_pair (hc : w.copy = some c) (hwaiting : c.payload.pending ≠ none) :
    (run serve (recoverReservation a r) w).2 = (run serve (recoverPair a r c) w).2 := by
  unfold recoverReservation
  rw [run_findCopy_bind, hc]
  dsimp only
  rw [if_neg fun h => hwaiting h.2, run_bind_pure_snd]

theorem run_recoverCopy_pair (hr : w.reservation = some r) (hwaiting : c.payload.pending ≠ none) :
    (run serve (recoverCopy a c) w).2 = (run serve (recoverPair a r c) w).2 := by
  unfold recoverCopy
  rw [if_neg hwaiting, run_findReservation_bind, hr]
  dsimp only
  rw [run_bind_pure_snd]

/-- A pair whose reservation can still be protected goes one way or the other. -/
theorem recoverPair_cases (hr : w.reservation = some r) (hc : w.copy = some c)
    (hvalid : a.validReservation r.payload.content = true) (hpair : Backward a r c ∨ Forward a r c)
    (hallowed : r.deleting = true → Shielded r) :
    Cancelled (run serve (recoverPair a r c) w).2 ∨
      HandedOver (run serve (recoverPair a r c) w).2 := by
  unfold recoverPair
  rw [run_validatePending_bind hpair, if_neg fun h => h.2 (hallowed h.1)]
  split
  · exact .inl (cancelled_cancelCopyHandoff hr hc hvalid hallowed hpair)
  · rename_i hgoing
    push Not at hgoing
    rcases hpair with hback | hforward
    · exact absurd hback.pending hgoing.2.2
    · exact .inr (handedOver_adoptReservation hr hc hvalid hforward
        (Bool.eq_false_iff.mpr hgoing.1) (Bool.eq_false_iff.mpr hgoing.2.1))

/-- What is left of a cancelled handoff stays so when the controller looks at the copy. -/
theorem Cancelled.reconcileCopy (h : Cancelled w) (hw : Sound a w) :
    Cancelled (reconcileCopy a w) := by
  unfold Handoff.reconcileCopy
  split
  · rename_i c hc
    obtain ⟨r, hr, hpending, -⟩ := h
    rcases hw.pair hr hc with hback | hforward
    · rw [run_recoverCopy_pair hr hback.waiting]
      unfold recoverPair
      rw [run_validatePending_bind (.inl hback), if_neg fun h => h.2 hback.shielded,
        if_pos (.inr (.inr hpending))]
      exact cancelled_cancelCopyHandoff hr hc (hw.valid hr) (fun _ => hback.shielded) (.inl hback)
    · rw [hforward.pending] at hpending
      cases hpending
  · exact h

theorem HandedOver.reconcileCopy (h : HandedOver w) (hw : Sound a w) :
    HandedOver (reconcileCopy a w) := by
  obtain ⟨c, hc, ⟨hr, hpending⟩ | ⟨r, hr, hdeleting, hbare⟩⟩ := h
  · have hsame : Handoff.reconcileCopy a w = w := by
      unfold Handoff.reconcileCopy recoverCopy
      simp only [hc, hpending, if_true, run_pure]
    rw [hsame]
    exact ⟨c, hc, .inl ⟨hr, hpending⟩⟩
  · have hpair := hw.pair hr hc
    have hsame : Handoff.reconcileCopy a w = w := by
      unfold Handoff.reconcileCopy
      simp only [hc]
      rw [run_recoverCopy_pair hr (waiting_of_pair hpair)]
      unfold recoverPair
      rw [run_validatePending_bind hpair, if_pos ⟨hdeleting, not_shielded_of_bare hbare⟩, run_pure]
    rw [hsame]
    exact ⟨c, hc, .inr ⟨r, hr, hdeleting, hbare⟩⟩

theorem recoverPass_pair (hw : Sound a w) (hr : w.reservation = some r) (hc : w.copy = some c)
    (hallowed : r.deleting = true → Shielded r) :
    Cancelled (recoverPass a w) ∨ HandedOver (recoverPass a w) := by
  have hpair := hw.pair hr hc
  have hfirst : reconcileReservation a w = (run serve (recoverPair a r c) w).2 := by
    unfold Handoff.reconcileReservation
    simp only [hr]
    exact run_recoverReservation_pair hc (waiting_of_pair hpair)
  have hsound := hw.reconcileReservation
  unfold Handoff.recoverPass
  rcases recoverPair_cases hr hc (hw.valid hr) hpair hallowed with hcancelled | hhanded
  · rw [← hfirst] at hcancelled
    exact .inl (hcancelled.reconcileCopy hsound)
  · rw [← hfirst] at hhanded
    exact .inr (hhanded.reconcileCopy hsound)

/-- A copy that is alone is activated. -/
theorem settled_reconcileCopy (hw : Sound a w) (hr : w.reservation = none) :
    Settled (reconcileCopy a w) := by
  unfold Handoff.reconcileCopy
  cases hc : w.copy with
  | none =>
    dsimp only
    unfold Settled
    rw [hr, hc]
    trivial
  | some c =>
    dsimp only
    unfold recoverCopy
    by_cases hpending : c.payload.pending = none
    · rw [if_pos hpending, run_pure]
      unfold Settled
      rw [hr, hc]
      exact hpending
    · obtain ⟨hready, horigin⟩ := (hw.aloneCopy hr hc).ready hpending
      rw [if_neg hpending, run_findReservation_bind, hr]
      dsimp only
      rw [run_bind_pure_snd, run_activateReservationHandoff hr hc hready horigin hpending]
      unfold Settled
      have hshielded := (hw.aloneCopy hr hc).protection.resolve_right fun h => hpending h.2.2
      have hkept := kept_of_shielded (show Shielded (storedCopy w.clock
        { c with payload := { c.payload with pending := none } } c) from hshielded)
      simp only [World.tick, hkept]
      rfl

/-- The handoff of a reservation that is alone is cancelled. -/
theorem settled_reconcileReservation (hw : Sound a w) (hr : w.reservation = some r)
    (hc : w.copy = none) : Settled (reconcileCopy a (reconcileReservation a w)) := by
  unfold Handoff.reconcileReservation
  simp only [hr]
  unfold recoverReservation
  rw [run_findCopy_bind, hc]
  dsimp only
  by_cases hpending : r.payload.pending = none
  · rw [if_pos hpending, run_pure, reconcileCopy_of_none hc]
    unfold Settled
    rw [hr, hc]
    exact hpending
  · have hshielded := (hw.aloneReservation hr hc).protection.resolve_right fun h => hpending h.2.2
    rw [if_neg hpending, run_bind_pure_snd,
      run_cancelCopyHandoff_alone hr hc (hw.valid hr) (fun _ => hshielded) hpending,
      reconcileCopy_of_none rfl]
    exact rfl

theorem settled_recoverPass (hw : Sound a w) (hone : w.reservation = none ∨ w.copy = none) :
    Settled (recoverPass a w) := by
  unfold Handoff.recoverPass
  cases hr : w.reservation with
  | none =>
    rw [reconcileReservation_of_none hr]
    exact settled_reconcileCopy hw hr
  | some r =>
    exact settled_reconcileReservation hw hr
      (hone.resolve_left (by rw [hr]; exact Option.some_ne_none r))

/-- What is left of a handoff is settled by the next pass, once the others have let go. -/
theorem settled_of_leftover (hw : Sound a w) (h : Cancelled w ∨ HandedOver w) :
    Settled (recoverPass a w.release) := by
  refine settled_recoverPass (hw.later w.later_release) ?_
  rcases h with ⟨r, hr, -, hcopy⟩ | ⟨c, hc, ⟨hr, -⟩ | ⟨r, hr, hdeleting, hbare⟩⟩
  · right
    show w.copy.bind (letGo w.clock) = none
    cases hc : w.copy with
    | none => rfl
    | some c => exact letGo_of_bare (hcopy c hc).1 (hcopy c hc).2
  · left
    show w.reservation.bind (letGo w.clock) = none
    rw [hr]
    rfl
  · left
    show w.reservation.bind (letGo w.clock) = none
    rw [hr]
    exact letGo_of_bare hdeleting hbare

/-- **Recovery settles.**  Two passes are enough if the others let go of what is being deleted. -/
theorem settles (hw : Sound a w) :
    Settled (recoverPass a w.release) ∨
      Settled (recoverPass a (recoverPass a w.release).release) := by
  have hsound := hw.later w.later_release
  cases hr : w.release.reservation with
  | none => exact .inl (settled_recoverPass hsound (.inl hr))
  | some r =>
    cases hc : w.release.copy with
    | none => exact .inl (settled_recoverPass hsound (.inr hc))
    | some c =>
      right
      refine settled_of_leftover hsound.recoverPass (recoverPass_pair hsound hr hc ?_)
      -- The reservation was there before the others let go, with its protection or without.
      obtain ⟨r0, hr0, hlater⟩ : ∃ r0, w.reservation = some r0 ∧ letGo w.clock r0 = some r :=
        Option.bind_eq_some_iff.mp hr
      obtain ⟨c0, hc0, -⟩ : ∃ c0, w.copy = some c0 ∧ letGo w.clock c0 = some c :=
        Option.bind_eq_some_iff.mp hc
      refine letGo_eq_some ?_ hlater
      rcases hw.pair hr0 hc0 with hback | hforward
      · exact .inl hback.shielded
      · obtain ⟨_, _, ⟨-, hshielded⟩ | ⟨-, hprotection⟩⟩ := hforward.plan
        · exact .inl hshielded
        · exact hprotection

end CalmPasses

/-! ## Main theorem -/

section Main

/-- One of the two records is there and carries the session finalizer. -/
def Protected (w : World ρ σ κ) : Prop :=
  (∃ r, w.reservation = some r ∧ sessionFinalizer ∈ r.finalizers) ∨
    ∃ c, w.copy = some c ∧ sessionFinalizer ∈ c.finalizers

/-- Two records that are there together belong to one handoff that is pending. -/
def TiedTogether (w : World ρ σ κ) : Prop :=
  ∀ r c, w.reservation = some r → w.copy = some c →
    c.payload.pending ≠ none ∧ c.payload.origin = some r.uid ∧
      (r.payload.pending = none ∨ r.payload.pending = c.payload.pending)

variable [DecidableEq ρ] [DecidableEq σ] [DecidableEq κ]

/-- **A handoff neither loses nor duplicates the workflow**, as long as Leases can be created.  In
every reachable state one of the two records is protected until a workflow has been finalized, two
records are tied together, and passes of the controller settle the state, once the others let go of
what is being deleted. -/
theorem handoff_keeps_workflow (a : Adoption ρ σ κ) (w : World ρ σ κ)
    (hw : Reachable a Observed w) :
    (w.finalized = false → Protected w) ∧ TiedTogether w ∧
      ∃ n, Settled ((fun u : World ρ σ κ => recoverPass a u.release)^[n] w) := by
  have hsound := hw.sound
  refine ⟨hsound.protected, fun r c hr hc => ?_, ?_⟩
  · have hpair := hsound.pair hr hc
    refine ⟨waiting_of_pair hpair, ?_⟩
    rcases hpair with hback | hforward
    · exact ⟨hback.origin, .inl hback.pending⟩
    · exact ⟨hforward.origin, .inr (hforward.pending.trans hforward.waiting.symm)⟩
  · rcases settles hsound with hone | htwo
    · exact ⟨1, hone⟩
    · exact ⟨2, htwo⟩

variable {a : Adoption ρ σ κ} {w : World ρ σ κ}

/-- A settled state has one record at most, and the others only remove records. -/
theorem Settled.recoverPass (h : Settled w) (hw : Sound a w) :
    Settled (recoverPass a w.release) := by
  refine settled_recoverPass (hw.later w.later_release) ?_
  show w.reservation.bind _ = none ∨ w.copy.bind _ = none
  unfold Settled at h
  split at h <;> simp_all

/-- **Two passes settle a handoff for good**, in every reachable state. -/
theorem settled_after_two_passes (hw : Reachable a Observed w) (n : Nat) :
    Settled ((fun u : World ρ σ κ => recoverPass a u.release)^[n + 2] w) := by
  have hsound (m : Nat) : Sound a ((fun u => Handoff.recoverPass a u.release)^[m] w) := by
    induction m with
    | zero => exact hw.sound
    | succ m ih =>
      rw [Function.iterate_succ_apply']
      exact (ih.later (World.later_release _)).recoverPass
  induction n with
  | zero => exact (settles hw.sound).elim (fun hone => hone.recoverPass (hsound 1)) id
  | succ n ih =>
    rw [Function.iterate_succ_apply']
    exact ih.recoverPass (hsound _)

end Main

/-! ## A namespace that is terminating -/

/-- Contents without any structure, which are all valid. -/
def exampleAdoption : Adoption Unit Unit Unit where
  digest := fun _ => "digest"
  validReservation := fun _ => true
  copyFromReservation := fun _ _ => some ()
  validCopy := fun _ _ => true
  executionIntentHash := fun _ => "hash"
  validated := fun _ _ _ _ => rfl

variable (others : List String)

/-- A finished reservation on which others may have finalizers too. -/
def exampleReservation : Reservation Unit :=
  ⟨1, 1, 1, sessionFinalizer :: others, false, ⟨none, ()⟩⟩

def exampleStart : World Unit Unit Unit :=
  ⟨2, some (exampleReservation others), none, false⟩

/-- The handoff of a reservation that someone else keeps, uninterrupted. -/
def exampleHeld : World Unit Unit Unit :=
  (run serve (adoptReservation exampleAdoption (exampleReservation ["example.com/hold"]) ())
    (exampleStart ["example.com/hold"])).2

theorem start_example : Start exampleAdoption (exampleStart others) (exampleReservation others) :=
  ⟨rfl, rfl, rfl, Nat.lt_succ_self 1, List.mem_cons_self, rfl, rfl⟩

theorem reachable_exampleHeld : Reachable exampleAdoption Observed exampleHeld :=
  ⟨_, _, start_example ["example.com/hold"], .single (.adopt (runs_run observed_serve _ _))⟩

theorem handoff_keeps_workflow_example :
    Protected exampleHeld ∧ TiedTogether exampleHeld ∧
      ∃ n, Settled ((fun u : World Unit Unit Unit =>
        recoverPass exampleAdoption u.release)^[n] exampleHeld) := by
  obtain ⟨hprotected, htied, hsettles⟩ :=
    handoff_keeps_workflow exampleAdoption exampleHeld reachable_exampleHeld
  exact ⟨hprotected (by decide), htied, hsettles⟩

theorem settled_after_two_passes_example : Settled ((fun u : World Unit Unit Unit =>
    recoverPass exampleAdoption u.release)^[2] exampleHeld) :=
  settled_after_two_passes reachable_exampleHeld 0

/-- A server that cannot create Leases any more. -/
def serveTerminating (op : Op ρ σ κ) (w : World ρ σ κ) : Reply op × World ρ σ κ :=
  match op with
  | .lease => (.error .terminating, w)
  | op => serve op w

theorem observed_serveTerminating (op : Op ρ σ κ) (w : World ρ σ κ) :
    ObservedTerminating w op (serveTerminating op w).1 (serveTerminating op w).2 := by
  cases op with
  | lease => exact .inr ⟨.refl, rfl, rfl⟩
  | _ => exact .inl (observed_serve _ w)

/-- The reservation that a handoff has marked, perhaps deleted by a user since. -/
def exampleMarked (deleting : Bool) : Reservation Unit :=
  ⟨1, if deleting then 3 else 2, if deleting then 2 else 1, [sessionFinalizer], deleting,
    ⟨some "1/digest", ()⟩⟩

/-- **A workflow that is lost.**  The handoff is cut after its first write, a user deletes the
reservation, and the controller cancels the handoff while the namespace of the Leases is
terminating: no record is left, and no finalization has run. -/
theorem lost_in_terminating_namespace :
    ∃ w, Reachable exampleAdoption ObservedTerminating w ∧
      ¬ (w.finalized = false → Protected w) := by
  have hcut : ⟨3, some (exampleMarked false), none, false⟩ ∈
      stops serve (adoptReservation exampleAdoption (exampleReservation []) ())
        (exampleStart []) := by
    decide
  have hdeleted : Step exampleAdoption ObservedTerminating
      ⟨3, some (exampleMarked false), none, false⟩ ⟨4, some (exampleMarked true), none, false⟩ :=
    .others (.reservation .delete)
  refine ⟨_, ⟨_, _, start_example [], .tail (.tail (.single (.adopt
    (runs_of_mem_stops (fun op w => .inl (observed_serve op w)) hcut))) hdeleted)
    (.recoverReservation (runs_run observed_serveTerminating
      (recoverReservation exampleAdoption (exampleMarked true)) _))⟩, fun hprotected => ?_⟩
  have hgone : (run serveTerminating (recoverReservation exampleAdoption (exampleMarked true))
      ⟨4, some (exampleMarked true), none, false⟩).2 = ⟨6, none, none, false⟩ := by decide
  rw [hgone] at hprotected
  simp [Protected] at hprotected

end PvcMigrate.Handoff
