import Mathlib.Logic.Relation
import PvcMigrate.Kube.CopyHandoff
import PvcMigrate.Lib.Observed

/-!
# What a handoff can leave behind

Every run of the handoff, of its cancellation and of the recovery may be cut anywhere.  Between two
requests a user may ask for the deletion of either record, and other parties may change their own
finalizers.  One process at a time holds the Lease, so the runs do not overlap.  The namespace of
the Leases may be terminating; the invariant needs that it is not.

The invariant `Sound` says which pairs of records there can be.  While there are both, either the
handoff goes forward, and the copy is protected, or it is being undone, and the reservation is.
Every write of the protocols keeps it.
-/

namespace PvcMigrate.Handoff

open Prog Record Relation

variable {ρ σ κ : Type}

/-! ## The system -/

/-- One change by another party. -/
inductive World.Interferes (w : World ρ σ κ) : World ρ σ κ → Prop
  | reservation {slot : Option (Reservation ρ)} :
      Others ownFinalizers w.clock w.reservation slot → Interferes w (w.tick slot w.copy)
  | copy {slot : Option (Copy σ κ)} :
      Others ownFinalizers w.clock w.copy slot → Interferes w (w.tick w.reservation slot)

/-- How a request ends: others may have come first, and a request that fails may have taken effect
or not. -/
def Observed (w : World ρ σ κ) (op : Op ρ σ κ) (reply : Reply op) (w' : World ρ σ κ) : Prop :=
  ∃ u, ReflTransGen World.Interferes w u ∧
    (serve op u = (reply, w') ∨ reply = .error .failed ∧ (w' = u ∨ w' = (serve op u).2))

/-- How a request ends if the namespace of the Leases may be terminating. -/
def ObservedTerminating (w : World ρ σ κ) (op : Op ρ σ κ) (reply : Reply op) (w' : World ρ σ κ) :
    Prop :=
  Observed w op reply w' ∨
    ReflTransGen World.Interferes w w' ∧ op = .lease ∧ reply = .error .terminating

section System

variable [DecidableEq ρ] [DecidableEq σ] [DecidableEq κ] (a : Adoption ρ σ κ)
  (obs : World ρ σ κ → (op : Op ρ σ κ) → Reply op → World ρ σ κ → Prop)

/-- A step of the system: another party acts, a process holds the Lease for one run, or one of the
two workflows does its ordinary work, which a pending handoff keeps it from. -/
inductive Step (w : World ρ σ κ) : World ρ σ κ → Prop
  | others {w' : World ρ σ κ} : w.Interferes w' → Step w w'
  | adopt {w' : World ρ σ κ} {reservation : Reservation ρ} {spec : σ}
      {result : Option (Except Failure Unit)} :
      (adoptReservation a reservation spec).Runs obs w w' result → Step w w'
  | activate {w' : World ρ σ κ} {object : Copy σ κ} {result : Option (Except Failure Unit)} :
      (activateReservationHandoff a object).Runs obs w w' result → Step w w'
  | cancel {w' : World ρ σ κ} {object : Reservation ρ} {result : Option (Except Failure Unit)} :
      (cancelCopyHandoff a object).Runs obs w w' result → Step w w'
  | recoverReservation {w' : World ρ σ κ} {source : Reservation ρ}
      {result : Option (Except Failure Bool)} :
      (recoverReservation a source).Runs obs w w' result → Step w w'
  | recoverCopy {w' : World ρ σ κ} {target : Copy σ κ} {result : Option (Except Failure Bool)} :
      (recoverCopy a target).Runs obs w w' result → Step w w'
  | reserve {r : Reservation ρ} {content : ρ} : w.reservation = some r → r.payload.pending = none →
      a.validReservation content = true →
      Step w (w.tick (some { r with version := w.clock, payload := ⟨none, content⟩ }) w.copy)
  | copy {c : Copy σ κ} {status : CopyStatus κ} : w.copy = some c → c.payload.pending = none →
      Step w (w.tick w.reservation
        (some { c with version := w.clock, payload := { c.payload with status := status } }))
  | finalizeReservation {r : Reservation ρ} : w.reservation = some r → w.copy = none →
      r.deleting = true → r.payload.pending = none →
      Step w { w.tick
        (kept { r with version := w.clock, finalizers := removeSessionFinalizer r.finalizers })
        none with finalized := true }
  | finalizeCopy {c : Copy σ κ} : w.copy = some c → c.deleting = true → c.payload.pending = none →
      Step w { w.tick w.reservation
        (kept { c with version := w.clock, finalizers := removeSessionFinalizer c.finalizers })
        with finalized := true }

/-- A finished reservation that is protected, and no copy. -/
structure Start (w : World ρ σ κ) (r : Reservation ρ) : Prop where
  reservation : w.reservation = some r
  copy : w.copy = none
  finalized : w.finalized = false
  dated : r.version < w.clock
  protection : sessionFinalizer ∈ r.finalizers
  pending : r.payload.pending = none
  valid : a.validReservation r.payload.content = true

/-- The states that steps lead to from a start. -/
def Reachable (w : World ρ σ κ) : Prop :=
  ∃ start r, Start a start r ∧ ReflTransGen (Step a obs) start w

end System

/-! ## What the others can do -/

/-- The world some time later: what this project has written is unchanged. -/
structure World.Later (w w' : World ρ σ κ) : Prop where
  clock : w.clock ≤ w'.clock
  finalized : w'.finalized = w.finalized
  reservation : Aged ownFinalizers w.clock w'.clock w.reservation w'.reservation
  copy : Aged ownFinalizers w.clock w'.clock w.copy w'.copy

namespace World

variable {w w' u : World ρ σ κ}

theorem Later.refl (w : World ρ σ κ) : w.Later w := ⟨Nat.le_refl _, rfl, .refl _, .refl _⟩

theorem Later.trans (h : w.Later u) (h' : u.Later w') : w.Later w' where
  clock := Nat.le_trans h.clock h'.clock
  finalized := h'.finalized.trans h.finalized
  reservation := h.reservation.trans h'.reservation h.clock h'.clock
  copy := h.copy.trans h'.copy h.clock h'.clock

theorem later_tick {r : Option (Reservation ρ)} {c : Option (Copy σ κ)}
    (hr : Aged ownFinalizers w.clock (w.clock + 1) w.reservation r)
    (hc : Aged ownFinalizers w.clock (w.clock + 1) w.copy c) :
    w.Later (w.tick r c) := ⟨Nat.le_succ _, rfl, hr, hc⟩

theorem Interferes.later (h : w.Interferes w') : w.Later w' := by
  cases h with
  | reservation h => exact later_tick h.aged (.refl _)
  | copy h => exact later_tick (.refl _) h.aged

theorem later_of_interferes (h : ReflTransGen Interferes w w') : w.Later w' := by
  induction h with
  | refl => exact .refl w
  | tail _ h ih => exact ih.trans h.later

end World

/-! ## How requests end -/

section Requests

variable {w w' : World ρ σ κ} {op : Op ρ σ κ}

theorem Observed.of_read {reply : Reply op} (h : Observed w op reply w')
    (hread : ∀ u, (serve op u).2 = u) :
    w.Later w' ∧ (reply = .error .failed ∨ reply = (serve op w').1) := by
  obtain ⟨u, hu, hserved | ⟨rfl, rfl | rfl⟩⟩ := h
  · have hw' : w' = u := by
      rw [← hread u, hserved]
    subst hw'
    exact ⟨World.later_of_interferes hu, .inr (by rw [hserved])⟩
  · exact ⟨World.later_of_interferes hu, .inl rfl⟩
  · rw [hread u]
    exact ⟨World.later_of_interferes hu, .inl rfl⟩

theorem Observed.getReservation {reply : Reply (.getReservation : Op ρ σ κ)}
    (h : Observed w .getReservation reply w') :
    w.Later w' ∧ (∀ s, reply = .ok s → w'.reservation = some s) ∧
      (reply = .error .notFound → w'.reservation = none) := by
  obtain ⟨hlater, rfl | rfl⟩ := h.of_read fun _ => rfl
  · exact ⟨hlater, fun s hs => (by cases hs), fun he => (by cases he)⟩
  · refine ⟨hlater, ?_⟩
    cases hr : w'.reservation with
    | none =>
      simp only [serve, hr]
      exact ⟨fun s hs => (by cases hs), fun _ => trivial⟩
    | some r =>
      simp only [serve, hr]
      exact ⟨fun s hs => (by cases hs; rfl), fun he => (by cases he)⟩

theorem Observed.getCopy {reply : Reply (.getCopy : Op ρ σ κ)} (h : Observed w .getCopy reply w') :
    w.Later w' ∧ (∀ s, reply = .ok s → w'.copy = some s) ∧
      (reply = .error .notFound → w'.copy = none) := by
  obtain ⟨hlater, rfl | rfl⟩ := h.of_read fun _ => rfl
  · exact ⟨hlater, fun s hs => (by cases hs), fun he => (by cases he)⟩
  · refine ⟨hlater, ?_⟩
    cases hc : w'.copy with
    | none =>
      simp only [serve, hc]
      exact ⟨fun s hs => (by cases hs), fun _ => trivial⟩
    | some c =>
      simp only [serve, hc]
      exact ⟨fun s hs => (by cases hs; rfl), fun he => (by cases he)⟩

theorem Observed.of_later {reply : Reply op} (h : Observed w op reply w')
    (hlater : ∀ u : World ρ σ κ, u.Later (serve op u).2) : w.Later w' := by
  obtain ⟨u, hu, hserved | ⟨-, rfl | rfl⟩⟩ := h
  · have := hlater u
    rw [hserved] at this
    exact (World.later_of_interferes hu).trans this
  · exact World.later_of_interferes hu
  · exact (World.later_of_interferes hu).trans (hlater u)

/-- A request that the server refuses without a change, or that takes effect. -/
theorem Observed.effect {reply : Reply op} (h : Observed w op reply w')
    (E : World ρ σ κ → Answer op → World ρ σ κ → Prop)
    (hserve : ∀ u, (∃ e, serve op u = (.error e, u.tick u.reservation u.copy)) ∨
      ∃ x v, serve op u = (.ok x, v) ∧ E u x v) :
    (w.Later w' ∧ ∃ e, reply = .error e) ∨
      ∃ u x, w.Later u ∧ E u x w' ∧ ∀ s, reply = .ok s → s = x := by
  obtain ⟨u, hu, hserved⟩ := h
  have hlater := World.later_of_interferes hu
  have hsame : w.Later (u.tick u.reservation u.copy) :=
    hlater.trans (World.later_tick (.refl _) (.refl _))
  rcases hserve u with ⟨e, he⟩ | ⟨x, v, hx, heffect⟩
  · left
    rw [he] at hserved
    rcases hserved with heq | ⟨rfl, rfl | rfl⟩
    · cases heq
      exact ⟨hsame, e, rfl⟩
    · exact ⟨hlater, _, rfl⟩
    · exact ⟨hsame, _, rfl⟩
  · rw [hx] at hserved
    rcases hserved with heq | ⟨rfl, rfl | rfl⟩
    · cases heq
      exact .inr ⟨u, x, hlater, heffect, fun s hs => by cases hs; rfl⟩
    · exact .inl ⟨hlater, _, rfl⟩
    · exact .inr ⟨u, x, hlater, heffect, fun s hs => by cases hs⟩

def storedReservation (clock : Nat) (next r : Reservation ρ) : Reservation ρ :=
  ⟨r.uid, clock, r.generation, next.finalizers, r.deleting,
    { r.payload with pending := next.payload.pending }⟩

def storedCopy (clock : Nat) (next c : Copy σ κ) : Copy σ κ :=
  ⟨c.uid, clock, c.generation, next.finalizers, c.deleting,
    { c.payload with pending := next.payload.pending, origin := next.payload.origin }⟩

def storedStatus (clock : Nat) (next c : Copy σ κ) : Copy σ κ :=
  ⟨c.uid, clock, c.generation, c.finalizers, c.deleting,
    { c.payload with status := next.payload.status }⟩

/-- An update of the reservation `r` that takes effect. -/
structure UpdatesReservation (next : Reservation ρ) (u : World ρ σ κ) (x : Reservation ρ)
    (v : World ρ σ κ) (r : Reservation ρ) : Prop where
  reservation : u.reservation = some r
  version : r.version = next.version
  allowed : r.deleting = true → ∀ f ∈ next.finalizers, f ∈ r.finalizers
  stored : x = storedReservation u.clock next r
  after : v = u.tick x.kept u.copy

/-- An update of the copy `c` that takes effect and stores `x`. -/
structure UpdatesCopy (version : Nat) (u : World ρ σ κ) (x : Copy σ κ) (v : World ρ σ κ)
    (c : Copy σ κ) : Prop where
  copy : u.copy = some c
  version : c.version = version
  after : v = u.tick u.reservation x.kept

theorem Observed.updateReservation {next : Reservation ρ} {reply : Reply (.updateReservation next)}
    (h : Observed w (.updateReservation next : Op ρ σ κ) reply w') :
    (w.Later w' ∧ ∃ e, reply = .error e) ∨
      ∃ u x, w.Later u ∧ (∃ r, UpdatesReservation next u x w' r) ∧ ∀ s, reply = .ok s → s = x := by
  refine h.effect (fun u x v => ∃ r, UpdatesReservation next u x v r) fun u => ?_
  rcases revise_cases u.clock u.reservation next.uid next.version
      (World.rewriteReservation next) with ⟨e, he⟩ | ⟨r, hr, -, hversion, hallowed, hnext⟩
  · left
    exact ⟨e, by simp only [serve, he]; rfl⟩
  · right
    refine ⟨_, _, ?_, r, hr, hversion, hallowed, rfl, rfl⟩
    simp only [serve, hnext]
    rfl

theorem Observed.updateCopy {next : Copy σ κ} {reply : Reply (.updateCopy next)}
    (h : Observed w (.updateCopy next : Op ρ σ κ) reply w') :
    (w.Later w' ∧ ∃ e, reply = .error e) ∨
      ∃ u x, w.Later u ∧
        (∃ c, UpdatesCopy next.version u x w' c ∧ x = storedCopy u.clock next c) ∧
        ∀ s, reply = .ok s → s = x := by
  refine h.effect
    (fun u x v => ∃ c, UpdatesCopy next.version u x v c ∧ x = storedCopy u.clock next c)
    fun u => ?_
  rcases revise_cases u.clock u.copy next.uid next.version
      (World.rewriteCopy next) with ⟨e, he⟩ | ⟨c, hc, -, hversion, -, hnext⟩
  · left
    exact ⟨e, by simp only [serve, he]; rfl⟩
  · right
    refine ⟨_, _, ?_, c, ⟨hc, hversion, rfl⟩, rfl⟩
    simp only [serve, hnext]
    rfl

theorem Observed.updateCopyStatus {next : Copy σ κ} {reply : Reply (.updateCopyStatus next)}
    (h : Observed w (.updateCopyStatus next : Op ρ σ κ) reply w') :
    (w.Later w' ∧ ∃ e, reply = .error e) ∨
      ∃ u x, w.Later u ∧
        (∃ c, UpdatesCopy next.version u x w' c ∧ x = storedStatus u.clock next c) ∧
        ∀ s, reply = .ok s → s = x := by
  refine h.effect
    (fun u x v => ∃ c, UpdatesCopy next.version u x v c ∧ x = storedStatus u.clock next c)
    fun u => ?_
  rcases revise_cases u.clock u.copy next.uid next.version
      (World.rewriteStatus next) with ⟨e, he⟩ | ⟨c, hc, -, hversion, -, hnext⟩
  · left
    exact ⟨e, by simp only [serve, he]; rfl⟩
  · right
    refine ⟨_, _, ?_, c, ⟨hc, hversion, rfl⟩, rfl⟩
    simp only [serve, hnext]
    rfl

theorem Observed.createCopy {body : CopyBody σ κ} {finalizers : List String}
    {reply : Reply (.createCopy body finalizers)}
    (h : Observed w (.createCopy body finalizers : Op ρ σ κ) reply w') :
    (w.Later w' ∧ ∃ e, reply = .error e) ∨
      ∃ u x, w.Later u ∧ (u.copy = none ∧ x = ⟨u.clock, u.clock, 1, finalizers, false, body⟩ ∧
        w' = u.tick u.reservation (some x)) ∧ ∀ s, reply = .ok s → s = x := by
  obtain ⟨u, hu, hserved⟩ := h
  have hlater := World.later_of_interferes hu
  cases hcopy : u.copy with
  | some c =>
    left
    have hserve : serve (.createCopy body finalizers : Op ρ σ κ) u =
        (.error .alreadyExists, u) := by
      simp only [serve, hcopy]
    rw [hserve] at hserved
    rcases hserved with heq | ⟨rfl, rfl | rfl⟩
    · cases heq
      exact ⟨hlater, _, rfl⟩
    · exact ⟨hlater, _, rfl⟩
    · exact ⟨hlater, _, rfl⟩
  | none =>
    have hserve : serve (.createCopy body finalizers : Op ρ σ κ) u =
        (.ok ⟨u.clock, u.clock, 1, finalizers, false, body⟩,
          u.tick u.reservation (some ⟨u.clock, u.clock, 1, finalizers, false, body⟩)) := by
      simp only [serve, hcopy]
    rw [hserve] at hserved
    rcases hserved with heq | ⟨rfl, rfl | rfl⟩
    · cases heq
      exact .inr ⟨u, _, hlater, ⟨hcopy, rfl, rfl⟩, fun s hs => by cases hs; rfl⟩
    · exact .inl ⟨hlater, _, rfl⟩
    · exact .inr ⟨u, _, hlater, ⟨hcopy, rfl, rfl⟩, fun s hs => by cases hs⟩

end Requests

/-! ## The invariant -/

section Invariant

/-- The record carries the session finalizer. -/
def Shielded {α : Type} (r : Record α) : Prop := sessionFinalizer ∈ r.finalizers

/-- The record carries no finalizer of this project. -/
def Bare {α : Type} (r : Record α) : Prop := ∀ f ∈ ownFinalizers, f ∉ r.finalizers

variable (a : Adoption ρ σ κ)

/-- The copy has the checkpoint of its handoff and has not gone further. -/
def Initialized (plan : κ) (c : Copy σ κ) : Prop :=
  ∃ generation, c.payload.status = a.checkpoint generation c.payload.spec plan ∧
    (c.deleting = false → c.generation = generation)

def Ready (c : Copy σ κ) : Prop :=
  ∃ plan, Initialized a plan c ∧ a.validCopy c.payload.spec (some plan) = true

/-- The handoff is being undone: the reservation is protected, the copy still waits. -/
structure Backward (r : Reservation ρ) (c : Copy σ κ) : Prop where
  pending : r.payload.pending = none
  waiting : c.payload.pending ≠ none
  origin : c.payload.origin = some r.uid
  shielded : Shielded r
  released : Shielded c ∨ Bare c
  status : c.payload.status = .empty ∨ Ready a c

/-- The handoff goes on: both records wait, the copy is protected, and the reservation is unless the
copy has its checkpoint. -/
structure Forward (r : Reservation ρ) (c : Copy σ κ) : Prop where
  pending : r.payload.pending = some (a.token r)
  waiting : c.payload.pending = some (a.token r)
  origin : c.payload.origin = some r.uid
  shielded : Shielded c
  plan : ∃ plan, a.copyFromReservation r.payload.content c.payload.spec = some plan ∧
    (c.payload.status = .empty ∧ Shielded r ∨ Initialized a plan c ∧ (Shielded r ∨ Bare r))

/-- A reservation without a copy. -/
structure AloneReservation (finalized : Bool) (r : Reservation ρ) : Prop where
  protection : Shielded r ∨ finalized = true ∧ r.deleting = true ∧ r.payload.pending = none
  token : r.payload.pending = none ∨ r.payload.pending = some (a.token r)

/-- A copy without a reservation. -/
structure AloneCopy (finalized : Bool) (c : Copy σ κ) : Prop where
  protection : Shielded c ∨ finalized = true ∧ c.deleting = true ∧ c.payload.pending = none
  ready : c.payload.pending ≠ none → Ready a c ∧ c.payload.origin ≠ none

def Records (finalized : Bool) : Option (Reservation ρ) → Option (Copy σ κ) → Prop
  | some r, none => a.validReservation r.payload.content = true ∧ AloneReservation a finalized r
  | some r, some c =>
    a.validReservation r.payload.content = true ∧ (Backward a r c ∨ Forward a r c)
  | none, some c => AloneCopy a finalized c
  | none, none => finalized = true

/-- The invariant. -/
structure Sound (w : World ρ σ κ) : Prop where
  reservation : Dated w.clock w.reservation
  copy : Dated w.clock w.copy
  records : Records a w.finalized w.reservation w.copy

end Invariant

/-! ## The invariant and the others -/

section Aging

variable {a : Adoption ρ σ κ} {clock clock' : Nat} {α : Type} {x y : Record α}
  {r r' : Reservation ρ} {c c' : Copy σ κ}

theorem mem_ownFinalizers : sessionFinalizer ∈ ownFinalizers := List.mem_cons_self

theorem not_shielded_of_bare (h : Bare x) : ¬ Shielded x := h _ mem_ownFinalizers

theorem Shielded.later (h : Shielded x) (hlater : x.Later ownFinalizers clock clock' y) :
    Shielded y := (hlater.own _ mem_ownFinalizers).mpr h

theorem Bare.later (h : Bare x) (hlater : x.Later ownFinalizers clock clock' y) : Bare y :=
  fun f hf hmem => h f hf ((hlater.own f hf).mp hmem)

theorem Shielded.aged (h : Shielded x) {slot : Option (Record α)}
    (haged : Aged ownFinalizers clock clock' (some x) slot) :
    ∃ y, slot = some y ∧ x.Later ownFinalizers clock clock' y :=
  haged.protected mem_ownFinalizers h

theorem token_later (h : r.Later ownFinalizers clock clock' r') : a.token r' = a.token r := by
  simp only [Adoption.token, h.uid, h.payload]

theorem not_deleting_of_later (h : x.Later ownFinalizers clock clock' y) (hy : y.deleting = false) :
    x.deleting = false := by
  cases hx : x.deleting with
  | false => rfl
  | true =>
    rw [h.deleting hx] at hy
    cases hy

theorem Initialized.later {plan : κ} (h : Initialized a plan c)
    (hlater : c.Later ownFinalizers clock clock' c') : Initialized a plan c' := by
  obtain ⟨generation, hstatus, hgeneration⟩ := h
  refine ⟨generation, by rw [hlater.payload]; exact hstatus, fun hkept => ?_⟩
  rw [hlater.generation hkept]
  exact hgeneration (not_deleting_of_later hlater hkept)

theorem Ready.later (h : Ready a c) (hlater : c.Later ownFinalizers clock clock' c') :
    Ready a c' := by
  obtain ⟨plan, hinit, hvalid⟩ := h
  exact ⟨plan, hinit.later hlater, by rw [hlater.payload]; exact hvalid⟩

theorem Backward.later (h : Backward a r c) (hr : r.Later ownFinalizers clock clock' r')
    (hc : c.Later ownFinalizers clock clock' c') : Backward a r' c' where
  pending := by rw [hr.payload]; exact h.pending
  waiting := by rw [hc.payload]; exact h.waiting
  origin := by rw [hc.payload, hr.uid]; exact h.origin
  shielded := h.shielded.later hr
  released := h.released.imp (·.later hc) (·.later hc)
  status := h.status.imp (fun hempty => by rw [hc.payload]; exact hempty) (·.later hc)

theorem Forward.later (h : Forward a r c) (hr : r.Later ownFinalizers clock clock' r')
    (hc : c.Later ownFinalizers clock clock' c') : Forward a r' c' where
  pending := by rw [token_later hr, hr.payload]; exact h.pending
  waiting := by rw [token_later hr, hc.payload]; exact h.waiting
  origin := by rw [hc.payload, hr.uid]; exact h.origin
  shielded := h.shielded.later hc
  plan := by
    obtain ⟨plan, hplan, hstatus⟩ := h.plan
    refine ⟨plan, by rw [hr.payload, hc.payload]; exact hplan, ?_⟩
    rcases hstatus with ⟨hempty, hshielded⟩ | ⟨hinit, hprotection⟩
    · exact .inl ⟨by rw [hc.payload]; exact hempty, hshielded.later hr⟩
    · exact .inr ⟨hinit.later hc, hprotection.imp (·.later hr) (·.later hr)⟩

/-- A copy whose handoff goes on without the protection of the reservation can be activated. -/
theorem Forward.ready (h : Forward a r c) (hbare : Bare r) : Ready a c := by
  obtain ⟨plan, hplan, ⟨-, hshielded⟩ | ⟨hinit, -⟩⟩ := h.plan
  · exact absurd hshielded (not_shielded_of_bare hbare)
  · exact ⟨plan, hinit, a.validated _ _ _ hplan⟩

/-- Whatever the direction, the copy has not gone further than its handoff. -/
theorem Forward.status (h : Forward a r c) : c.payload.status = .empty ∨ Ready a c := by
  obtain ⟨plan, hplan, ⟨hempty, -⟩ | ⟨hinit, -⟩⟩ := h.plan
  · exact .inl hempty
  · exact .inr ⟨plan, hinit, a.validated _ _ _ hplan⟩

variable {finalized : Bool}

theorem AloneReservation.later (h : AloneReservation a finalized r)
    (hr : r.Later ownFinalizers clock clock' r') : AloneReservation a finalized r' where
  protection := by
    rcases h.protection with hshielded | ⟨hfinalized, hdeleting, hpending⟩
    · exact .inl (hshielded.later hr)
    · exact .inr ⟨hfinalized, hr.deleting hdeleting, by rw [hr.payload]; exact hpending⟩
  token := by
    rw [token_later hr, hr.payload]
    exact h.token

theorem AloneCopy.later (h : AloneCopy a finalized c)
    (hc : c.Later ownFinalizers clock clock' c') : AloneCopy a finalized c' where
  protection := by
    rcases h.protection with hshielded | ⟨hfinalized, hdeleting, hpending⟩
    · exact .inl (hshielded.later hc)
    · exact .inr ⟨hfinalized, hc.deleting hdeleting, by rw [hc.payload]; exact hpending⟩
  ready := by
    rw [hc.payload]
    exact fun hpending => ⟨(h.ready hpending).1.later hc, (h.ready hpending).2⟩

/-- A pair of which one record is gone: it was not protected, so the other one was. -/
theorem Records.aged {s s' : Option (Reservation ρ)} {t t' : Option (Copy σ κ)}
    (h : Records a finalized s t) (hs : Aged ownFinalizers clock clock' s s')
    (ht : Aged ownFinalizers clock clock' t t') : Records a finalized s' t' := by
  cases s with
  | none =>
    obtain rfl : s' = none := hs
    cases t with
    | none =>
      obtain rfl : t' = none := ht
      exact h
    | some c =>
      cases t' with
      | none =>
        exact (AloneCopy.protection h).elim (fun hs => absurd hs (not_shielded_of_bare ht))
          (·.1)
      | some c' => exact AloneCopy.later h ht
  | some r =>
    cases s' with
    | none =>
      cases t with
      | none =>
        obtain rfl : t' = none := ht
        exact h.2.protection.elim (fun hr => absurd hr (not_shielded_of_bare hs)) (·.1)
      | some c =>
        rcases h.2 with hback | hforward
        · exact absurd hback.shielded (not_shielded_of_bare hs)
        · obtain ⟨c', rfl, hc⟩ := hforward.shielded.aged ht
          refine ⟨.inl (hforward.shielded.later hc), fun _ => ⟨(hforward.ready hs).later hc, ?_⟩⟩
          rw [hc.payload, hforward.origin]
          exact Option.some_ne_none _
    | some r' =>
      have hr : r.Later ownFinalizers clock clock' r' := hs
      have hvalid : a.validReservation r'.payload.content = true := by
        rw [hr.payload]
        cases t <;> exact h.1
      cases t with
      | none =>
        obtain rfl : t' = none := ht
        exact ⟨hvalid, h.2.later hr⟩
      | some c =>
        cases t' with
        | none =>
          rcases h.2 with hback | hforward
          · refine ⟨hvalid, .inl (hback.shielded.later hr), .inl ?_⟩
            rw [hr.payload]
            exact hback.pending
          · exact absurd hforward.shielded (not_shielded_of_bare ht)
        | some c' => exact ⟨hvalid, h.2.imp (·.later hr ht) (·.later hr ht)⟩

theorem Sound.later {w w' : World ρ σ κ} (h : Sound a w) (hlater : w.Later w') : Sound a w' where
  reservation := h.reservation.aged hlater.reservation hlater.clock
  copy := h.copy.aged hlater.copy hlater.clock
  records := by
    rw [hlater.finalized]
    exact h.records.aged hlater.reservation hlater.copy

end Aging

/-! ## The writes of the protocols -/

section Writes

variable {a : Adoption ρ σ κ} {α : Type} {x : Record α} {u v : World ρ σ κ}

theorem kept_of_shielded (h : Shielded x) : x.kept = some x :=
  kept_of_finalizers (List.ne_nil_of_mem h)

theorem mem_ensureSessionFinalizer (finalizers : List String) :
    sessionFinalizer ∈ ensureSessionFinalizer finalizers := by
  unfold ensureSessionFinalizer
  split
  · assumption
  · exact List.mem_append_right _ (List.mem_singleton_self _)

theorem not_mem_removeSessionFinalizer (finalizers : List String) :
    ∀ f ∈ ownFinalizers, f ∉ removeSessionFinalizer finalizers := by
  intro f hf hmem
  have hne := (List.mem_filter.mp hmem).2
  simp only [ownFinalizers, List.mem_cons, List.not_mem_nil, or_false] at hf
  simp only [decide_eq_true_eq] at hne
  rcases hf with rfl | rfl
  · exact hne.1 rfl
  · exact hne.2 rfl

variable {r : Reservation ρ}

/-- A write of the reservation keeps the invariant if the new pair of records is a possible one. -/
theorem Sound.tick_reservation (h : Sound a u) (hversion : r.version = u.clock)
    (hrecords : Records a u.finalized r.kept u.copy) : Sound a (u.tick r.kept u.copy) :=
  ⟨dated_kept hversion, h.copy.succ, hrecords⟩

variable {c : Copy σ κ}

section

variable (h : Sound a u)
include h

theorem Sound.tick_copy (hversion : c.version = u.clock)
    (hrecords : Records a u.finalized u.reservation c.kept) :
    Sound a (u.tick u.reservation c.kept) :=
  ⟨h.reservation.succ, dated_kept hversion, hrecords⟩

theorem Sound.valid (hr : u.reservation = some r) :
    a.validReservation r.payload.content = true := by
  have hrecords := h.records
  rw [hr] at hrecords
  cases hc : u.copy with
  | none | some c =>
    rw [hc] at hrecords
    exact hrecords.1

theorem Sound.pair (hr : u.reservation = some r) (hc : u.copy = some c) :
    Backward a r c ∨ Forward a r c := by
  have hrecords := h.records
  rw [hr, hc] at hrecords
  exact hrecords.2

theorem Sound.aloneCopy (hr : u.reservation = none) (hc : u.copy = some c) :
    AloneCopy a u.finalized c := by
  have hrecords := h.records
  rw [hr, hc] at hrecords
  exact hrecords

theorem Sound.aloneReservation (hr : u.reservation = some r) (hc : u.copy = none) :
    AloneReservation a u.finalized r := by
  have hrecords := h.records
  rw [hr, hc] at hrecords
  exact hrecords.2

theorem Sound.mark {source x : Reservation ρ}
    (hup : UpdatesReservation (marked source (a.token source)) u x v r)
    (hsame : r.payload = source.payload ∧ r.uid = source.uid) (hcopy : u.copy = none) :
    Sound a v ∧ v.reservation = some x ∧ v.copy = none ∧ Shielded x := by
  have hstored := hup.stored
  have hshielded : Shielded x := by
    rw [hstored]
    exact mem_ensureSessionFinalizer _
  have hkept := kept_of_shielded hshielded
  have hafter := hup.after
  rw [hkept] at hafter
  subst hafter
  refine ⟨?_, rfl, hcopy, hshielded⟩
  rw [← hkept]
  refine h.tick_reservation (by rw [hstored]; rfl) ?_
  rw [hkept, hcopy]
  have hvalid := h.valid hup.reservation
  refine ⟨?_, .inl hshielded, .inr ?_⟩
  · rw [hstored]
    exact hvalid
  · rw [hstored]
    simp only [storedReservation, marked, Adoption.token, hsame.1, hsame.2]

theorem Sound.create (spec : σ) (plan : κ) (hr : u.reservation = some r) (hshielded : Shielded r)
    (hpending : r.payload.pending = some (a.token r))
    (hplan : a.copyFromReservation r.payload.content spec = some plan)
    (hc : c = ⟨u.clock, u.clock, 1, ensureSessionFinalizer [], false,
      ⟨r.payload.pending, some r.uid, spec, .empty⟩⟩) :
    Sound a (u.tick u.reservation (some c)) := by
  refine ⟨h.reservation.succ, ?_, ?_⟩
  · intro c' hc'
    obtain rfl := Option.some.inj hc'
    rw [hc]
    exact Nat.lt_succ_self _
  · show Records a u.finalized u.reservation (some c)
    rw [hr]
    refine ⟨h.valid hr, .inr ⟨hpending, ?_, ?_, ?_, plan, ?_⟩⟩
    · rw [hc]
      exact hpending
    · rw [hc]
    · rw [hc]
      exact mem_ensureSessionFinalizer []
    · rw [hc]
      exact ⟨hplan, .inl ⟨rfl, hshielded⟩⟩

theorem Sound.setCheckpoint {c x : Copy σ κ} {plan : κ} (target : Copy σ κ)
    (hup : UpdatesCopy target.version u x v c)
    (hx : x = storedStatus u.clock { target with payload := { target.payload with
      status := a.checkpoint target.generation target.payload.spec plan } } c)
    (hc : c = target) (hwaiting : c.payload.pending ≠ none) (hshielded : Shielded c)
    (hplan : ∀ r, u.reservation = some r → r.payload.pending ≠ none ∧
      a.copyFromReservation r.payload.content c.payload.spec = some plan)
    (hvalid : a.validCopy c.payload.spec (some plan) = true) :
    Sound a v ∧ v.copy = some x ∧ Shielded x := by
  subst hc
  have hxshielded : Shielded x := by
    rw [hx]
    exact hshielded
  have hinit : Initialized a plan x := by
    rw [hx]
    exact ⟨c.generation, rfl, fun _ => rfl⟩
  have hkept := kept_of_shielded hxshielded
  have hafter := hup.after
  rw [hkept] at hafter
  subst hafter
  refine ⟨?_, rfl, hxshielded⟩
  rw [← hkept]
  refine h.tick_copy (by rw [hx]; rfl) ?_
  rw [hkept]
  cases hr : u.reservation with
  | none =>
    have halone := h.aloneCopy hr hup.copy
    refine ⟨.inl hxshielded, fun _ => ⟨⟨plan, hinit, ?_⟩, ?_⟩⟩
    · rw [hx]
      exact hvalid
    · rw [hx]
      exact (halone.ready hwaiting).2
  | some r =>
    refine ⟨h.valid hr, .inr ?_⟩
    rcases h.pair hr hup.copy with hback | hforward
    · exact absurd hback.pending (hplan r hr).1
    · refine ⟨hforward.pending, ?_, ?_, hxshielded, plan, ?_, .inr ⟨hinit, ?_⟩⟩
      · rw [hx]
        exact hforward.waiting
      · rw [hx]
        exact hforward.origin
      · rw [hx]
        exact (hplan r hr).2
      · obtain ⟨_, _, ⟨-, hr⟩ | ⟨-, hr⟩⟩ := hforward.plan
        · exact .inl hr
        · exact hr

/-- Removing the protection of the reservation, once the copy has its checkpoint. -/
theorem Sound.unprotect {x : Reservation ρ} (source : Reservation ρ) (hup : UpdatesReservation
      { source with finalizers := removeSessionFinalizer source.finalizers } u x v r)
    (hr : r = source) (hkept : source.deleting = false) (hpending : source.payload.pending ≠ none)
    (hc : u.copy = some c) (hstatus : c.payload.status ≠ .empty) : Sound a v := by
  subst hr
  have hstored := hup.stored
  have hxkept : x.kept = some x := by
    refine kept_of_not_deleting ?_
    rw [hstored]
    exact hkept
  have hafter := hup.after
  subst hafter
  refine h.tick_reservation (by rw [hstored]; rfl) ?_
  rw [hxkept, hc]
  have hpayload : x.payload = r.payload := by
    rw [hstored]
    rfl
  have huid : x.uid = r.uid := by
    rw [hstored]
    rfl
  have htoken : a.token x = a.token r := by
    simp only [Adoption.token, hpayload, huid]
  have hbare : Bare x := by
    rw [hstored]
    exact not_mem_removeSessionFinalizer _
  refine ⟨?_, .inr ?_⟩
  · rw [hpayload]
    exact h.valid hup.reservation
  · rcases h.pair hup.reservation hc with hback | hforward
    · exact absurd hback.pending hpending
    · refine ⟨?_, ?_, ?_, hforward.shielded, ?_⟩
      · rw [htoken, hpayload]
        exact hforward.pending
      · rw [htoken]
        exact hforward.waiting
      · rw [huid]
        exact hforward.origin
      · obtain ⟨plan, hplan, ⟨hempty, -⟩ | ⟨hinit, -⟩⟩ := hforward.plan
        · exact absurd hempty hstatus
        · exact ⟨plan, by rw [hpayload]; exact hplan, .inr ⟨hinit, .inr hbare⟩⟩

theorem Sound.activate {x : Copy σ κ} (previous : Copy σ κ)
    (hup : UpdatesCopy previous.version u x v c) (hx : x = storedCopy u.clock
      { previous with payload := { previous.payload with pending := none } } c)
    (hc : c = previous) (hr : u.reservation = none) : Sound a v := by
  subst hc
  have halone := h.aloneCopy hr hup.copy
  have hafter := hup.after
  subst hafter
  refine h.tick_copy (by rw [hx]; rfl) ?_
  rw [hr]
  have hprotection : Shielded x ∨ u.finalized = true ∧ x.deleting = true ∧
      x.payload.pending = none := by
    rw [hx]
    rcases halone.protection with hshielded | ⟨hfinalized, hdeleting, -⟩
    · exact .inl hshielded
    · exact .inr ⟨hfinalized, hdeleting, rfl⟩
  cases hkept : x.kept with
  | none =>
    rcases hprotection with hshielded | ⟨hfinalized, -⟩
    · rw [kept_of_shielded hshielded] at hkept
      cases hkept
    · exact hfinalized
  | some y =>
    obtain rfl := kept_eq_some hkept
    refine ⟨hprotection, fun hpending => absurd ?_ hpending⟩
    rw [hx]
    rfl

theorem Sound.restore {source x : Reservation ρ}
    (hup : UpdatesReservation (restored source) u x v r) :
    Sound a v ∧ v.reservation = some x ∧ Shielded x ∧ x.payload.pending = none := by
  have hstored := hup.stored
  have hshielded : Shielded x := by
    rw [hstored]
    exact mem_ensureSessionFinalizer _
  have hpending : x.payload.pending = none := by
    rw [hstored]
    rfl
  have hkept := kept_of_shielded hshielded
  have hafter := hup.after
  rw [hkept] at hafter
  subst hafter
  refine ⟨?_, rfl, hshielded, hpending⟩
  rw [← hkept]
  refine h.tick_reservation (by rw [hstored]; rfl) ?_
  rw [hkept]
  have hcurrent := h.valid hup.reservation
  have hvalid : a.validReservation x.payload.content = true := by
    rw [hstored]
    exact hcurrent
  have huid : x.uid = r.uid := by
    rw [hstored]
    rfl
  cases hc : u.copy with
  | none => exact ⟨hvalid, .inl hshielded, .inl hpending⟩
  | some c =>
    refine ⟨hvalid, .inl ?_⟩
    rcases h.pair hup.reservation hc with hback | hforward
    · exact ⟨hpending, hback.waiting, by rw [huid]; exact hback.origin, hshielded, hback.released,
        hback.status⟩
    · refine ⟨hpending, ?_, by rw [huid]; exact hforward.origin, hshielded,
        .inl hforward.shielded, hforward.status⟩
      rw [hforward.waiting]
      exact Option.some_ne_none _

/-- Removing the protection of a copy whose reservation is protected again. -/
theorem Sound.withdraw {x : Copy σ κ} (target : Copy σ κ) (hup : UpdatesCopy target.version u x v c)
    (hx : x = storedCopy u.clock
      { target with finalizers := removeSessionFinalizer target.finalizers } c)
    (hc : c = target) (hr : u.reservation = some r) (hshielded : Shielded r)
    (hpending : r.payload.pending = none) : Sound a v := by
  subst hc
  have hafter := hup.after
  subst hafter
  refine h.tick_copy (by rw [hx]; rfl) ?_
  rw [hr]
  cases hkept : x.kept with
  | none => exact ⟨h.valid hr, .inl hshielded, .inl hpending⟩
  | some y =>
    obtain rfl := kept_eq_some hkept
    have hbare : Bare y := by
      rw [hx]
      exact not_mem_removeSessionFinalizer _
    have hpayload : y.payload = c.payload := by
      rw [hx]
      rfl
    refine ⟨h.valid hr, .inl ?_⟩
    rcases h.pair hr hup.copy with hback | hforward
    · refine ⟨hpending, ?_, ?_, hshielded, .inr hbare, ?_⟩
      · rw [hpayload]
        exact hback.waiting
      · rw [hpayload]
        exact hback.origin
      · refine hback.status.imp (fun hempty => by rw [hpayload]; exact hempty) ?_
        rintro ⟨plan, ⟨generation, hstatus, hgeneration⟩, hvalid⟩
        refine ⟨plan, ⟨generation, ?_, ?_⟩, ?_⟩
        · rw [hpayload]
          exact hstatus
        · rw [hx]
          exact hgeneration
        · rw [hpayload]
          exact hvalid
    · rw [hforward.pending] at hpending
      cases hpending

end

end Writes

end PvcMigrate.Handoff
