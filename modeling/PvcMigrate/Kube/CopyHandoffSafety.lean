import PvcMigrate.Kube.CopyHandoffState

/-!
# The handoff keeps the workflow

Each protocol is followed request by request.  What a run has read stays true of the record as long
as the record has the same version, whatever others do in between; with that, each of its writes is
one that keeps the invariant.
-/

namespace PvcMigrate.Handoff

open Prog Record Relation

variable {ρ σ κ : Type}

/-! ## The runs -/

section Runs

variable {a : Adoption ρ σ κ} {w w' : World ρ σ κ} {α β : Type}

/-- Every state of a run satisfies the invariant, and the result satisfies `A`. -/
def Safe (a : Adoption ρ σ κ) (A : World ρ σ κ → α → Prop) (p : Run ρ σ κ α)
    (w : World ρ σ κ) : Prop :=
  p.Keeps Observed (Sound a) A (fun _ _ => True) w

variable {A : World ρ σ κ → α → Prop}

theorem safe_bind {B : World ρ σ κ → β → Prop} {p : Run ρ σ κ α} {f : α → Run ρ σ κ β}
    (hp : Safe a A p w) (hf : ∀ w x, Sound a w → A w x → Safe a B (f x) w) :
    Safe a B (p >>= f) w :=
  Keeps.bind hp hf

theorem safe_pure {x : α} (hw : Sound a w) (h : A w x) :
    Safe a A (pure x) w := ⟨hw, h⟩

theorem safe_fail {e : Failure} (hw : Sound a w) :
    Safe a A (fail e) w := ⟨hw, trivial⟩

theorem safe_reject_bind {bad : Prop} [Decidable bad] {e : Failure} {B : World ρ σ κ → β → Prop}
    {f : Unit → Run ρ σ κ β} (hw : Sound a w) (hf : ¬ bad → Safe a B (f ()) w) :
    Safe a B (reject bad e >>= f) w := by
  refine safe_bind (keeps_reject hw fun _ => trivial) fun w' _ _ h => ?_
  obtain ⟨rfl, hgood⟩ := h
  exact hf hgood

variable {op : Op ρ σ κ}

section

variable (hw : Sound a w)
include hw

theorem safe_ask {A : World ρ σ κ → Answer op → Prop}
    (h : ∀ reply w', Observed w op reply w' → Sound a w' ∧ ∀ x, reply = .ok x → A w' x) :
    Safe a A (ask op) w := by
  refine ⟨hw, fun reply w' hobs => ?_⟩
  obtain ⟨hw', hA⟩ := h reply w' hobs
  cases reply with
  | ok x => exact ⟨hw', hA x rfl⟩
  | error e => exact ⟨hw', trivial⟩

theorem safe_find {read : Answer op → α} {A : World ρ σ κ → Option α → Prop}
    (h : ∀ reply w', Observed w op reply w' → Sound a w' ∧
      (∀ x, reply = .ok x → A w' (some (read x))) ∧ (reply = .error .notFound → A w' none)) :
    Safe a A (find op read) w := by
  refine ⟨hw, fun reply w' hobs => ?_⟩
  obtain ⟨hw', hsome, hnone⟩ := h reply w' hobs
  cases reply with
  | ok x => exact ⟨hw', hsome x rfl⟩
  | error e => cases e with
    | notFound => exact ⟨hw', hnone rfl⟩
    | alreadyExists | conflict | invalid | failed | terminating => exact ⟨hw', trivial⟩

theorem safe_ignoreNotFound (hlater : ∀ u : World ρ σ κ, u.Later (serve op u).2) :
    Safe a (fun w' _ => w.Later w') (ignoreNotFound op) w := by
  refine ⟨hw, fun reply w' hobs => ?_⟩
  have hw' := hobs.of_later hlater
  cases reply with
  | ok x => exact ⟨hw.later hw', hw'⟩
  | error e => cases e with
    | notFound => exact ⟨hw.later hw', hw'⟩
    | alreadyExists | conflict | invalid | failed | terminating => exact ⟨hw.later hw', trivial⟩

theorem safe_getReservation :
    Safe a (fun w' s => w.Later w' ∧ w'.reservation = some s) getReservation w := by
  refine safe_ask hw fun reply w' hobs => ?_
  obtain ⟨hlater, hsome, -⟩ := hobs.getReservation
  exact ⟨hw.later hlater, fun s hs => ⟨hlater, hsome s hs⟩⟩

theorem safe_findReservation :
    Safe a (fun w' s => w.Later w' ∧ w'.reservation = s) findReservation w := by
  refine safe_find hw fun reply w' hobs => ?_
  obtain ⟨hlater, hsome, hnone⟩ := hobs.getReservation
  exact ⟨hw.later hlater, fun s hs => ⟨hlater, hsome s hs⟩, fun he => ⟨hlater, hnone he⟩⟩

theorem safe_getCopy : Safe a (fun w' s => w.Later w' ∧ w'.copy = some s) getCopy w := by
  refine safe_ask hw fun reply w' hobs => ?_
  obtain ⟨hlater, hsome, -⟩ := hobs.getCopy
  exact ⟨hw.later hlater, fun s hs => ⟨hlater, hsome s hs⟩⟩

theorem safe_findCopy : Safe a (fun w' s => w.Later w' ∧ w'.copy = s) findCopy w := by
  refine safe_find hw fun reply w' hobs => ?_
  obtain ⟨hlater, hsome, hnone⟩ := hobs.getCopy
  exact ⟨hw.later hlater, fun s hs => ⟨hlater, hsome s hs⟩, fun he => ⟨hlater, hnone he⟩⟩

end

end Runs

/-! ## The protocols -/

section Protocols

variable {a : Adoption ρ σ κ} {w w' : World ρ σ κ}

def Guarded (w : World ρ σ κ) : Prop :=
  (∃ r, w.reservation = some r ∧ Shielded r) ∨ ∃ c, w.copy = some c ∧ Shielded c

theorem exists_shielded_later {α : Type} {slot slot' : Option (Record α)} {clock clock' : Nat}
    (h : ∃ r, slot = some r ∧ Shielded r) (haged : Aged ownFinalizers clock clock' slot slot') :
    ∃ r, slot' = some r ∧ Shielded r := by
  obtain ⟨r, rfl, hr⟩ := h
  obtain ⟨t, rfl, ht⟩ := hr.aged haged
  exact ⟨t, rfl, hr.later ht⟩

theorem Guarded.later (h : Guarded w) (hlater : w.Later w') : Guarded w' :=
  h.imp (exists_shielded_later · hlater.reservation) (exists_shielded_later · hlater.copy)

/-- While a reservation is not being deleted, one of the two records is protected. -/
theorem Sound.guarded {r : Reservation ρ} (h : Sound a w) (hr : w.reservation = some r)
    (hkept : r.deleting = false) : Guarded w := by
  cases hc : w.copy with
  | none =>
    rcases (h.aloneReservation hr hc).protection with hshielded | ⟨-, hdeleting, -⟩
    · exact .inl ⟨r, hr, hshielded⟩
    · rw [hkept] at hdeleting
      cases hdeleting
  | some c =>
    rcases h.pair hr hc with hback | hforward
    · exact .inl ⟨r, hr, hback.shielded⟩
    · exact .inr ⟨c, hc, hforward.shielded⟩

/-- What a run of the handoff knows about the reservation that it has read. -/
structure Holds (a : Adoption ρ σ κ) (spec : σ) (plan : κ) (source : Reservation ρ)
    (w : World ρ σ κ) : Prop where
  seen : Seen source w.clock w.reservation
  kept : source.deleting = false
  plan : a.copyFromReservation source.payload.content spec = some plan

variable {spec : σ} {plan : κ} {source reservation : Reservation ρ} {target : Copy σ κ}

theorem Holds.later (h : Holds a spec plan source w)
    (hlater : w.Later w') : Holds a spec plan source w' :=
  ⟨h.seen.aged hlater.reservation hlater.clock, h.kept, h.plan⟩

/-- What it knows once there is a copy for the handoff. -/
structure Paired (a : Adoption ρ σ κ) (spec : σ) (plan : κ) (source : Reservation ρ)
    (target : Copy σ κ) (w : World ρ σ κ) : Prop extends Holds a spec plan source w where
  pending : source.payload.pending ≠ none
  copy : Seen target w.clock w.copy
  present : ∃ c, w.copy = some c ∧ Shielded c
  waiting : target.payload.pending ≠ none
  spec : target.payload.spec = spec

theorem Paired.later (h : Paired a spec plan source target w) (hlater : w.Later w') :
    Paired a spec plan source target w' where
  toHolds := h.toHolds.later hlater
  pending := h.pending
  copy := h.copy.aged hlater.copy hlater.clock
  present := exists_shielded_later h.present hlater.copy
  waiting := h.waiting
  spec := h.spec

theorem later_deleteReservation (uid version : Nat) (u : World ρ σ κ) :
    u.Later (serve (.deleteReservation uid version : Op ρ σ κ) u).2 :=
  World.later_tick (aged_delete _ _ _) (.refl _)

theorem later_deleteCopy (uid version : Nat) (u : World ρ σ κ) :
    u.Later (serve (.deleteCopy uid version : Op ρ σ κ) u).2 :=
  World.later_tick (.refl _) (aged_delete _ _ _)

section

variable (hw : Sound a w)
include hw

theorem safe_restore : Safe a
      (fun w' _ => (∃ r, w'.reservation = some r ∧ Shielded r ∧ r.payload.pending = none) ∧
        ∀ target, Seen target w.clock w.copy → Seen target w'.clock w'.copy)
      (updateReservation (restored source) : Run ρ σ κ (Reservation ρ)) w := by
  refine safe_ask hw fun reply w' hobs => ?_
  rcases hobs.updateReservation with ⟨hlater, e, rfl⟩ | ⟨u, x, hlater, ⟨r, hup⟩, -⟩
  · exact ⟨hw.later hlater, fun s hs => (by cases hs)⟩
  · obtain ⟨hsound, hreservation, hshielded, hpending⟩ := (hw.later hlater).restore hup
    refine ⟨hsound, fun _ _ => ⟨⟨x, hreservation, hshielded, hpending⟩, fun target hseen => ?_⟩⟩
    rw [hup.after]
    exact (hseen.aged hlater.copy hlater.clock).succ

theorem safe_markReservation (h : Holds a spec plan source w) (hguarded : Guarded w)
    (hcopy : w.copy = none)
    (htoken : source.payload.pending = none ∨ source.payload.pending = some (a.token source)) :
    Safe a
      (fun w' s => Holds a spec plan s w' ∧ w'.copy = none ∧ s.payload.pending = some (a.token s) ∧
        ∃ r, w'.reservation = some r ∧ Shielded r)
      (markReservation source (a.token source)) w := by
  unfold markReservation
  rcases htoken with hnone | hsome
  · rw [hnone]
    refine safe_ask hw fun reply w' hobs => ?_
    rcases hobs.updateReservation with ⟨hlater, e, rfl⟩ | ⟨u, x, hlater, ⟨r, hup⟩, hreply⟩
    · exact ⟨hw.later hlater, fun s hs => (by cases hs)⟩
    · have hholds := h.later hlater
      have hcopy' : u.copy = none := by
        have := hlater.copy
        rw [hcopy] at this
        exact this
      obtain ⟨hsound, hreservation, hnocopy, hshielded⟩ := (hw.later hlater).mark hup
        ⟨hholds.seen.payload r hup.reservation, hholds.seen.uid r hup.reservation⟩ hcopy'
      have hr : r = source := hholds.seen.same r hup.reservation hup.version
      refine ⟨hsound, fun s hs => ?_⟩
      obtain rfl := hreply s hs
      have hdated : Dated w'.clock (some s) := by
        rw [← hreservation]
        exact hsound.reservation
      have hstored := hup.stored
      subst hr
      refine ⟨⟨?_, ?_, ?_⟩, hnocopy, ?_, s, hreservation, hshielded⟩
      · rw [hreservation]
        exact hdated.seen
      · rw [hstored]
        exact h.kept
      · rw [hstored]
        exact h.plan
      · rw [hstored]
        rfl
  · rw [hsome]
    refine safe_pure hw ⟨h, hcopy, hsome, ?_⟩
    rcases hguarded with hreservation | ⟨c, hc, -⟩
    · exact hreservation
    · rw [hcopy] at hc
      cases hc

theorem safe_createCRDCopyHandoff [DecidableEq σ] (h : Holds a spec plan source w)
    (hguarded : Guarded w) (hcopy : w.copy = none)
    (htoken : source.payload.pending = none ∨ source.payload.pending = some (a.token source)) :
    Safe a (fun w' s => Paired a spec plan s.1 s.2 w')
      (createCRDCopyHandoff source spec (a.token source)) w := by
  refine safe_bind (safe_markReservation hw h hguarded hcopy htoken) fun w1 s hw1 hs => ?_
  obtain ⟨hholds, hnocopy, hpending, hprotected⟩ := hs
  have hcreated : Safe a (fun w' c => Paired a spec plan s c w')
      (createCopy ⟨s.payload.pending, some s.uid, spec, .empty⟩
        (ensureSessionFinalizer [])) w1 := by
    refine safe_ask hw1 fun reply w' hobs => ?_
    rcases hobs.createCopy with ⟨hlater, e, rfl⟩ | ⟨u, x, hlater, ⟨-, hx, rfl⟩, hreply⟩
    · exact ⟨hw1.later hlater, fun c hc => (by cases hc)⟩
    · have hu := hholds.later hlater
      obtain ⟨r, hr, hshielded⟩ := exists_shielded_later hprotected hlater.reservation
      have hpayload := hu.seen.payload r hr
      have huid := hu.seen.uid r hr
      have hsound : Sound a (u.tick u.reservation (some x)) := by
        refine (hw1.later hlater).create spec plan hr hshielded ?_ ?_ ?_
        · simp only [Adoption.token, hpayload, huid]
          exact hpending
        · rw [hpayload]
          exact hu.plan
        · rw [hx, hpayload, huid]
      refine ⟨hsound, fun c hc => ?_⟩
      obtain rfl := hreply c hc
      refine ⟨⟨hu.seen.succ, hu.kept, hu.plan⟩, ?_, hsound.copy.seen,
        ⟨c, rfl, ?_⟩, ?_, ?_⟩
      · rw [hpending]
        exact Option.some_ne_none _
      · rw [hx]
        exact mem_ensureSessionFinalizer []
      · rw [hx, hpending]
        exact Option.some_ne_none _
      · rw [hx]
  exact safe_bind hcreated fun w2 c hw2 hc => safe_reject_bind hw2 fun _ => safe_pure hw2 hc

theorem safe_initializeCRDCopyHandoff [DecidableEq κ] (h : Paired a spec plan source target w) :
    Safe a (fun w' c => Paired a spec plan source c w' ∧ c.payload.status ≠ .empty)
      (initializeCRDCopyHandoff a target plan) w := by
  unfold initializeCRDCopyHandoff
  dsimp only
  split
  · rename_i hplan
    refine safe_reject_bind hw fun _ => safe_pure hw ⟨h, fun hempty => hplan ?_⟩
    rw [hempty]
    rfl
  · refine safe_reject_bind hw fun _ => safe_ask hw fun reply w' hobs => ?_
    rcases hobs.updateCopyStatus with ⟨hlater, e, rfl⟩ | ⟨u, x, hlater, ⟨c, hup, hx⟩, hreply⟩
    · exact ⟨hw.later hlater, fun c hc => (by cases hc)⟩
    · have hu := h.later hlater
      have hc : c = target := hu.copy.same c hup.copy hup.version
      obtain ⟨c', hc', hshielded⟩ := hu.present
      obtain rfl : c' = c := by
        rw [hup.copy] at hc'
        exact (Option.some.inj hc').symm
      have hsource : ∀ r, u.reservation = some r → r.payload.pending ≠ none ∧
          a.copyFromReservation r.payload.content c'.payload.spec = some plan := by
        intro r hr
        rw [hu.seen.payload r hr, hc, h.spec]
        exact ⟨h.pending, h.plan⟩
      obtain ⟨hsound, hcopy, hxshielded⟩ := (hw.later hlater).setCheckpoint target hup hx hc
        (by rw [hc]; exact h.waiting) hshielded hsource
        (by rw [hc, h.spec]; exact a.validated _ _ _ h.plan)
      refine ⟨hsound, fun s hs => ?_⟩
      obtain rfl := hreply s hs
      have hdated : Dated w'.clock (some s) := by
        rw [← hcopy]
        exact hsound.copy
      have hafter := hup.after
      refine ⟨⟨⟨?_, hu.kept, hu.plan⟩, hu.pending, ?_, ⟨s, hcopy, hxshielded⟩, ?_, ?_⟩, ?_⟩
      · rw [hafter]
        exact hu.seen.succ
      · rw [hcopy]
        exact hdated.seen
      · rw [hx, hc]
        exact h.waiting
      · rw [hx, hc]
        exact h.spec
      · rw [hx]
        intro hempty
        cases hempty

theorem safe_prepareCRDCopyHandoff [DecidableEq σ] (h : Holds a spec plan source w)
    (hguarded : Guarded w) : Safe a (fun w' s => Paired a spec plan s.1 s.2 w')
      (prepareCRDCopyHandoff source spec (a.token source)) w := by
  refine safe_bind (safe_findCopy hw) fun w1 target hw1 hread => ?_
  obtain ⟨hlater, htarget⟩ := hread
  have hholds := h.later hlater
  refine safe_reject_bind hw1 fun htoken => ?_
  have htoken' : source.payload.pending = none ∨
      source.payload.pending = some (a.token source) := by
    by_cases hnone : source.payload.pending = none
    · exact .inl hnone
    · exact .inr (not_not.mp fun hne => htoken ⟨hnone, hne⟩)
  cases target with
  | none => exact safe_createCRDCopyHandoff hw1 hholds (hguarded.later hlater) htarget htoken'
  | some target =>
    refine safe_reject_bind hw1 fun hgood => safe_pure hw1 ?_
    push Not at hgood
    obtain ⟨hpending, hwaiting, -, hspec, -⟩ := hgood
    have hdated : Dated w1.clock (some target) := by
      rw [← htarget]
      exact hw1.copy
    have hwaiting' : target.payload.pending ≠ none := by
      rw [hwaiting]
      exact Option.some_ne_none _
    refine ⟨hholds, ?_, ?_, ⟨target, htarget, ?_⟩, hwaiting', hspec⟩
    · rw [hpending]
      exact Option.some_ne_none _
    · rw [htarget]
      exact hdated.seen
    · -- The copy still waits, so it has its protection.
      cases hr : w1.reservation with
      | none =>
        rcases (hw1.aloneCopy hr htarget).protection with hshielded | ⟨-, -, hnone⟩
        · exact hshielded
        · exact absurd hnone hwaiting'
      | some r =>
        rcases hw1.pair hr htarget with hback | hforward
        · have hpayload := hholds.seen.payload r hr
          have := hback.pending
          rw [hpayload, hpending] at this
          cases this
        · exact hforward.shielded

theorem safe_activateCRDCopyHandoff [DecidableEq σ] [DecidableEq κ] :
    Safe a (fun _ _ => True) (activateCRDCopyHandoff target) w := by
  refine safe_reject_bind hw fun _ => ?_
  refine safe_bind (safe_getCopy hw) fun w1 previous hw1 hread => ?_
  obtain ⟨-, hprevious⟩ := hread
  have hseen : Seen previous w1.clock w1.copy := by
    have hdated := hw1.copy
    rw [hprevious] at hdated ⊢
    exact hdated.seen
  refine safe_reject_bind hw1 fun _ => safe_reject_bind hw1 fun _ => ?_
  refine safe_bind (safe_findReservation hw1) fun w2 source hw2 hread => ?_
  obtain ⟨hlater, hsource⟩ := hread
  refine safe_reject_bind hw2 fun habsent => ?_
  have hnone : w2.reservation = none := by
    rw [hsource]
    exact Option.not_isSome_iff_eq_none.mp habsent
  refine keeps_ite (fun _ => safe_pure hw2 trivial) fun _ => safe_ask hw2 fun reply w' hobs => ?_
  rcases hobs.updateCopy with ⟨hlater', -⟩ | ⟨u, x, hlater', ⟨c, hup, hx⟩, -⟩
  · exact ⟨hw2.later hlater', fun _ _ => trivial⟩
  · refine ⟨?_, fun _ _ => trivial⟩
    have hgone : u.reservation = none := by
      have := hlater'.reservation
      rw [hnone] at this
      exact this
    have hsame := (hseen.aged hlater.copy hlater.clock).aged hlater'.copy hlater'.clock
    exact (hw2.later hlater').activate previous hup hx (hsame.same c hup.copy hup.version) hgone

theorem safe_validatePendingReservationCopy :
    Safe a (fun w' _ => w' = w) (validatePendingReservationCopy source target) w := by
  refine safe_reject_bind hw fun _ => safe_reject_bind hw fun _ => ?_
  exact (keeps_reject hw fun _ => trivial).post fun _ _ h => h.1

theorem safe_loadReservation : Safe a (fun _ _ => True) (findReservation : Run ρ σ κ _) w :=
  (safe_findReservation hw).post fun _ _ _ => trivial

theorem safe_loadCopy : Safe a (fun _ _ => True) (findCopy : Run ρ σ κ _) w :=
  (safe_findCopy hw).post fun _ _ _ => trivial

/-- The Lease is granted, or the request for it fails. -/
theorem safe_acquireLease : Safe a (fun _ reply => reply = .error .failed ∨ reply = .ok ())
      (acquireLease : Run ρ σ κ _) w := by
  refine ⟨hw, fun reply w' hobs => ?_⟩
  obtain ⟨hlater, hreply⟩ := hobs.of_read fun _ => rfl
  exact ⟨hw.later hlater, hreply⟩

theorem safe_withWorkflowLease {α : Type} {store : WorkflowStore ρ σ κ α} {object : Record α}
    {allowDeleting : Bool} {run : Run ρ σ κ (Record α)}
    (hload : ∀ w, Sound a w → Safe a (fun _ _ => True) store.load w)
    (hrun : ∀ w, Sound a w → Safe a (fun _ _ => True) run w) :
    Safe a (fun _ _ => True) (withWorkflowLease store object allowDeleting run) w := by
  refine safe_reject_bind hw fun _ => safe_bind (safe_acquireLease hw) fun w1 reply hw1 hreply => ?_
  rcases hreply with rfl | rfl
  · refine safe_reject_bind hw1 fun hrefused => absurd ?_ hrefused
    rintro ⟨-, -, hterminating⟩
    cases hterminating
  · refine safe_bind (hload w1 hw1) fun w2 latest hw2 _ => ?_
    cases latest with
    | none => exact keeps_ite (fun _ => safe_pure hw2 trivial) fun _ => safe_fail hw2
    | some latest =>
      refine safe_reject_bind hw2 fun _ => safe_reject_bind hw2 fun _ => ?_
      exact safe_bind (hrun w2 hw2) fun w3 _ hw3 _ => safe_pure hw3 trivial

theorem safe_cancelCRDReservationCopyHandoff :
    Safe a (fun _ _ => True) (cancelCRDReservationCopyHandoff reservation : Run ρ σ κ _) w := by
  refine safe_bind (safe_getReservation hw) fun w1 source hw1 _ => ?_
  refine safe_reject_bind hw1 fun _ => ?_
  refine safe_bind (safe_findCopy hw1) fun w2 target hw2 hread => ?_
  obtain ⟨-, htarget⟩ := hread
  cases target with
  | none =>
    refine keeps_ite (fun _ => safe_pure hw2 trivial) fun _ => ?_
    exact (safe_restore hw2).post fun _ _ _ => trivial
  | some target =>
    have hseen : Seen target w2.clock w2.copy := by
      have hdated := hw2.copy
      rw [htarget] at hdated ⊢
      exact hdated.seen
    refine safe_bind (safe_validatePendingReservationCopy hw2) fun w3 _ hw3 hsame => ?_
    subst hsame
    refine safe_bind (safe_restore hw3) fun w4 _ hw4 hrestored => ?_
    obtain ⟨⟨r, hr, hshielded, hpending⟩, hcopies⟩ := hrestored
    refine safe_bind (A := fun _ _ => True) (safe_ask hw4 fun reply w' hobs => ?_)
      fun w5 _ hw5 _ => ?_
    · rcases hobs.updateCopy with ⟨hlater, -⟩ | ⟨u, x, hlater, ⟨c, hup, hx⟩, -⟩
      · exact ⟨hw4.later hlater, fun _ _ => trivial⟩
      · have hu := (hcopies target hseen).aged hlater.copy hlater.clock
        have haged := hlater.reservation
        rw [hr] at haged
        obtain ⟨r', hr', hr''⟩ := hshielded.aged haged
        refine ⟨?_, fun _ _ => trivial⟩
        refine (hw4.later hlater).withdraw target hup hx (hu.same c hup.copy hup.version) hr'
          (hshielded.later hr'') ?_
        rw [hr''.payload]
        exact hpending
    · exact safe_bind (safe_ignoreNotFound hw5 (later_deleteCopy _ _))
        fun w6 _ hw6 _ => safe_pure hw6 trivial

theorem safe_activateReservationHandoff [DecidableEq σ] [DecidableEq κ] {object : Copy σ κ} :
    Safe a (fun _ _ => True) (activateReservationHandoff a object) w := by
  refine safe_reject_bind hw fun _ => ?_
  exact safe_withWorkflowLease hw (fun _ => safe_loadCopy)
    fun _ hw' => safe_activateCRDCopyHandoff hw'

theorem safe_cancelCopyHandoff {object : Reservation ρ} :
    Safe a (fun _ _ => True) (cancelCopyHandoff a object) w := by
  refine safe_reject_bind hw fun _ => ?_
  exact safe_withWorkflowLease hw (fun _ => safe_loadReservation)
    fun _ => safe_cancelCRDReservationCopyHandoff

end

variable [DecidableEq ρ] [DecidableEq σ] [DecidableEq κ]

section

variable (hw : Sound a w)
include hw

theorem safe_handoffCRDReservationToCopy
    (hplan : a.copyFromReservation reservation.payload.content spec = some plan) :
    Safe a (fun _ _ => True) (handoffCRDReservationToCopy a reservation spec plan) w := by
  refine safe_bind (safe_getReservation hw) fun w1 source hw1 hread => ?_
  obtain ⟨-, hsource⟩ := hread
  refine safe_reject_bind hw1 fun _ => safe_reject_bind hw1 fun hgood => ?_
  push Not at hgood
  have hkept : source.deleting = false := Bool.eq_false_iff.mpr hgood.1
  have hholds : Holds a spec plan source w1 := by
    refine ⟨?_, hkept, by rw [hgood.2]; exact hplan⟩
    have hdated := hw1.reservation
    rw [hsource] at hdated ⊢
    exact hdated.seen
  refine safe_bind (safe_prepareCRDCopyHandoff hw1 hholds (hw1.guarded hsource hkept))
    fun w2 pair hw2 hpair => ?_
  obtain ⟨source', target⟩ := pair
  refine safe_bind (safe_initializeCRDCopyHandoff hw2 hpair) fun w3 target' hw3 hinit => ?_
  obtain ⟨hpair', hstatus⟩ := hinit
  refine safe_bind (A := fun _ _ => True) (safe_ask hw3 fun reply w' hobs => ?_)
    fun w4 x hw4 _ => ?_
  · rcases hobs.updateReservation with ⟨hlater, -⟩ | ⟨u, x, hlater, ⟨r, hup⟩, -⟩
    · exact ⟨hw3.later hlater, fun _ _ => trivial⟩
    · have hu := hpair'.later hlater
      obtain ⟨c, hc, -⟩ := hu.present
      refine ⟨?_, fun _ _ => trivial⟩
      refine (hw3.later hlater).unprotect source' hup
        (hu.seen.same r hup.reservation hup.version) hu.kept hu.pending hc ?_
      rw [hu.copy.payload c hc]
      exact hstatus
  · refine safe_bind (safe_ignoreNotFound hw4 (later_deleteReservation _ _)) fun w5 _ hw5 _ => ?_
    exact safe_activateCRDCopyHandoff hw5

theorem safe_adoptReservation :
    Safe a (fun _ _ => True) (adoptReservation a reservation spec) w := by
  refine safe_reject_bind hw fun _ => ?_
  refine safe_withWorkflowLease hw (fun _ => safe_loadReservation) fun w1 hw1 => ?_
  refine safe_reject_bind hw1 fun _ => ?_
  cases hplan : a.copyFromReservation reservation.payload.content spec with
  | none => exact safe_fail hw1
  | some plan =>
    refine safe_bind (A := fun _ _ => True) (safe_ask hw1 fun reply w' hobs => ?_)
      fun w2 _ hw2 _ => safe_bind (safe_handoffCRDReservationToCopy hw2 hplan)
        fun w3 _ hw3 _ => safe_pure hw3 trivial
    exact ⟨hw1.later (hobs.of_read fun _ => rfl).1, fun _ _ => trivial⟩

theorem safe_recoverPair : Safe a (fun _ _ => True) (recoverPair a source target) w := by
  refine safe_bind (safe_validatePendingReservationCopy hw) fun w1 _ hw1 _ => ?_
  refine keeps_ite (fun _ => safe_pure hw1 trivial) fun _ => ?_
  exact keeps_ite (fun _ => safe_cancelCopyHandoff hw1) fun _ => safe_adoptReservation hw1

theorem safe_recoverReservation : Safe a (fun _ _ => True) (recoverReservation a source) w := by
  refine safe_bind (safe_loadCopy hw) fun w1 target hw1 _ => ?_
  cases target with
  | none =>
    refine keeps_ite (fun _ => safe_pure hw1 trivial) fun _ => ?_
    exact safe_bind (safe_cancelCopyHandoff hw1) fun w2 _ hw2 _ => safe_pure hw2 trivial
  | some target =>
    refine keeps_ite (fun _ => safe_pure hw1 trivial) fun _ => ?_
    exact safe_bind (safe_recoverPair hw1) fun w2 _ hw2 _ => safe_pure hw2 trivial

theorem safe_recoverCopy : Safe a (fun _ _ => True) (recoverCopy a target) w := by
  refine keeps_ite (fun _ => safe_pure hw trivial) fun _ => ?_
  refine safe_bind (safe_loadReservation hw) fun w1 source hw1 _ => ?_
  cases source with
  | none =>
    exact safe_bind (safe_activateReservationHandoff hw1) fun w2 _ hw2 _ => safe_pure hw2 trivial
  | some source =>
    exact safe_bind (safe_recoverPair hw1) fun w2 _ hw2 _ => safe_pure hw2 trivial

end

end Protocols

/-! ## The steps -/

section Steps

variable {a : Adoption ρ σ κ} {w w' : World ρ σ κ} {r : Reservation ρ}

/-- The ordinary work of a reservation that is not being handed over. -/
theorem Sound.reserve {content : ρ} (h : Sound a w) (hr : w.reservation = some r)
    (hpending : r.payload.pending = none) (hvalid : a.validReservation content = true) :
    Sound a (w.tick (some { r with version := w.clock, payload := ⟨none, content⟩ }) w.copy) := by
  refine ⟨?_, h.copy.succ, ?_⟩
  · intro s hs
    obtain rfl := Option.some.inj hs
    exact Nat.lt_succ_self _
  · show Records a w.finalized (some _) w.copy
    cases hc : w.copy with
    | none =>
      refine ⟨hvalid, ?_, .inl rfl⟩
      rcases (h.aloneReservation hr hc).protection with hshielded | ⟨hfinalized, hdeleting, -⟩
      · exact .inl hshielded
      · exact .inr ⟨hfinalized, hdeleting, rfl⟩
    | some c =>
      refine ⟨hvalid, .inl ?_⟩
      rcases h.pair hr hc with hback | hforward
      · exact ⟨rfl, hback.waiting, hback.origin, hback.shielded, hback.released, hback.status⟩
      · rw [hforward.pending] at hpending
        cases hpending

variable {c : Copy σ κ}

theorem Sound.reservation_none (h : Sound a w) (hc : w.copy = some c)
    (hpending : c.payload.pending = none) : w.reservation = none := by
  cases hr : w.reservation with
  | none => rfl
  | some r =>
    rcases h.pair hr hc with hback | hforward
    · exact absurd hpending hback.waiting
    · rw [hforward.waiting] at hpending
      cases hpending

theorem Sound.copyWork {status : CopyStatus κ} (h : Sound a w) (hc : w.copy = some c)
    (hpending : c.payload.pending = none) :
    Sound a (w.tick w.reservation
      (some { c with version := w.clock, payload := { c.payload with status := status } })) := by
  have hr := h.reservation_none hc hpending
  refine ⟨h.reservation.succ, ?_, ?_⟩
  · intro s hs
    obtain rfl := Option.some.inj hs
    exact Nat.lt_succ_self _
  · show Records a w.finalized w.reservation (some _)
    rw [hr]
    exact ⟨(h.aloneCopy hr hc).protection, fun hwaiting => absurd hpending hwaiting⟩

theorem Sound.finalizeReservation (h : Sound a w) (hr : w.reservation = some r)
    (hdeleting : r.deleting = true) (hpending : r.payload.pending = none) :
    Sound a { w.tick
      (kept { r with version := w.clock, finalizers := removeSessionFinalizer r.finalizers })
      none with finalized := true } := by
  have hvalid := h.valid hr
  refine ⟨dated_kept rfl, fun c hc => (by cases hc), ?_⟩
  show Records a true (kept _) none
  cases hkept : kept { r with
    version := w.clock, finalizers := removeSessionFinalizer r.finalizers } with
  | none => rfl
  | some s =>
    obtain rfl := kept_eq_some hkept
    exact ⟨hvalid, .inr ⟨rfl, hdeleting, hpending⟩, .inl hpending⟩

theorem Sound.finalizeCopy (h : Sound a w) (hc : w.copy = some c) (hdeleting : c.deleting = true)
    (hpending : c.payload.pending = none) :
    Sound a { w.tick w.reservation
      (kept { c with version := w.clock, finalizers := removeSessionFinalizer c.finalizers })
      with finalized := true } := by
  have hr := h.reservation_none hc hpending
  refine ⟨h.reservation.succ, dated_kept rfl, ?_⟩
  show Records a true w.reservation (kept _)
  rw [hr]
  cases hkept : kept { c with
    version := w.clock, finalizers := removeSessionFinalizer c.finalizers } with
  | none => rfl
  | some s =>
    obtain rfl := kept_eq_some hkept
    exact ⟨.inr ⟨rfl, hdeleting, hpending⟩, fun hwaiting => absurd hpending hwaiting⟩

theorem Start.sound (h : Start a w r) : Sound a w := by
  refine ⟨?_, ?_, ?_⟩
  · intro s hs
    rw [h.reservation] at hs
    obtain rfl := Option.some.inj hs
    exact h.dated
  · intro s hs
    rw [h.copy] at hs
    cases hs
  · rw [h.reservation, h.copy]
    exact ⟨h.valid, .inl h.protection, .inl h.pending⟩

/-- Until a workflow has been finalized, one of the two records is there and protected. -/
theorem Sound.protected (h : Sound a w) (hopen : w.finalized = false) : Guarded w := by
  cases hr : w.reservation with
  | none =>
    cases hc : w.copy with
    | none =>
      have hrecords := h.records
      rw [hr, hc] at hrecords
      have hdone : w.finalized = true := hrecords
      rw [hopen] at hdone
      cases hdone
    | some c =>
      rcases (h.aloneCopy hr hc).protection with hshielded | ⟨hdone, -⟩
      · exact .inr ⟨c, hc, hshielded⟩
      · rw [hopen] at hdone
        cases hdone
  | some r =>
    cases hc : w.copy with
    | none =>
      rcases (h.aloneReservation hr hc).protection with hshielded | ⟨hdone, -⟩
      · exact .inl ⟨r, hr, hshielded⟩
      · rw [hopen] at hdone
        cases hdone
    | some c =>
      rcases h.pair hr hc with hback | hforward
      · exact .inl ⟨r, hr, hback.shielded⟩
      · exact .inr ⟨c, hc, hforward.shielded⟩

variable [DecidableEq ρ] [DecidableEq σ] [DecidableEq κ]

/-- **Every step keeps the invariant.** -/
theorem Sound.step (h : Sound a w) (hstep : Step a Observed w w') : Sound a w' := by
  cases hstep with
  | others hothers => exact h.later hothers.later
  | adopt hrun => exact Keeps.invariant (safe_adoptReservation h) hrun
  | activate hrun => exact Keeps.invariant (safe_activateReservationHandoff h) hrun
  | cancel hrun => exact Keeps.invariant (safe_cancelCopyHandoff h) hrun
  | recoverReservation hrun => exact Keeps.invariant (safe_recoverReservation h) hrun
  | recoverCopy hrun => exact Keeps.invariant (safe_recoverCopy h) hrun
  | reserve hr hpending hvalid => exact h.reserve hr hpending hvalid
  | copy hc hpending => exact h.copyWork hc hpending
  | finalizeReservation hr _ hdeleting hpending => exact h.finalizeReservation hr hdeleting hpending
  | finalizeCopy hc hdeleting hpending => exact h.finalizeCopy hc hdeleting hpending

theorem Reachable.sound (h : Reachable a Observed w) : Sound a w := by
  obtain ⟨start, r, hstart, hsteps⟩ := h
  induction hsteps with
  | refl => exact hstart.sound
  | tail _ hstep ih => exact ih.step hstep

end Steps

end PvcMigrate.Handoff
