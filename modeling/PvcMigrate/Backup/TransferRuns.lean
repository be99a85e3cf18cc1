import PvcMigrate.Backup.TransferSafety

/-!
# Backup attempts at once

The transfers and their renewal goroutines are threads on one recovery point; a last thread stands
for the network, which lets requests without an answer take effect.  The programs are gone through
once, with the successes of the attempt so far as what is known between two calls: what other
threads do, and what the renewal goroutine of the attempt does, only adds to the history.

`RenewLock` takes any lock that names its holder for the one that it renewed last.  A request of
`AcquireLock` that takes effect after the attempt has acquired the lock with a later one, and has
lost it, lets the attempt renew a lock that others have held meanwhile (`late_creation_renewed`).
-/

namespace PvcMigrate

namespace Backup

open ObjectStore Prog Relation

variable {ι : Type}

/-! ## What stays true -/

/-- The history has grown, and a manifest has stayed. -/
structure Grows (w w' : World ι) : Prop where
  history : ∃ new, w'.history = new ++ w.history
  manifest : ∀ m, w.manifest = some m → w'.manifest = some m

/-- What the transfer of an attempt can rely on. -/
structure Later (a : ι) (w w' : World ι) : Prop extends Grows w w' where
  notAcquired : NotAcquired a w → NotAcquired a w'

theorem Grows.refl (w : World ι) : Grows w w := ⟨⟨[], rfl⟩, fun _ h => h⟩

theorem Grows.trans {w w' w'' : World ι} (h : Grows w w') (h' : Grows w' w'') : Grows w w'' := by
  obtain ⟨new, hnew⟩ := h.history
  obtain ⟨new', hnew'⟩ := h'.history
  exact ⟨⟨new' ++ new, by rw [hnew', hnew, List.append_assoc]⟩,
    fun m hm => h'.manifest m (h.manifest m hm)⟩

theorem Later.refl (a : ι) (w : World ι) : Later a w w :=
  { Grows.refl w with notAcquired := id }

theorem Later.trans {a : ι} {w w' w'' : World ι} (h : Later a w w') (h' : Later a w' w'') :
    Later a w w'' :=
  { h.toGrows.trans h'.toGrows with
    notAcquired := fun hw => h'.notAcquired (h.notAcquired hw) }

theorem Grows.progress {a : ι} {w w' : World ι} {events : List Event} (h : Grows w w')
    (hw : Progress a events w.history) : Progress a events w'.history := by
  obtain ⟨new, hnew⟩ := h.history
  rw [hnew]
  exact hw.append new

variable {request : ι → Request} {a b : ι} {ev : Event} {w w' : World ι}

theorem Change.grows (h : Change request a ev w w') : Grows w w' :=
  ⟨⟨[_], h.logged⟩, fun _ hm => h.manifest_some hm⟩

theorem Change.later_of_ne (h : Change request b ev w w') (hne : a ≠ b) : Later a w w' :=
  { h.grows with notAcquired := fun hw => hw.change h fun _ => hne.symm }

theorem Modest.later (h : Modest request b ev w w') : Later a w w' :=
  { h.toChange.grows with
    notAcquired := fun hw => hw.change h.toChange fun hev => absurd hev h.notAcquired }

/-- The recovery point has the manifest of the session of the attempt. -/
def Published (request : ι → Request) (a : ι) (w : World ι) : Prop :=
  ∃ m, w.manifest = some m ∧ m.sessionID = (request a).manifestID

theorem Grows.published (h : Grows w w') (hw : Published request a w) : Published request a w' := by
  obtain ⟨m, hm, hsession⟩ := hw
  exact ⟨m, h.manifest m hm, hsession⟩

/-! ## The threads -/

/-- The transfers, their renewal goroutines, and the network. -/
inductive Thread (ι : Type)
  | transfer (a : ι)
  | renewal (a : ι)
  | network
  deriving DecidableEq

/-- A request of `AcquireLock` takes effect before `AcquireLock` of its attempt has succeeded, or
not at all. -/
def InTime (a : ι) (w : World ι) (x : Write) : Prop := x.taking = true → NotAcquired a w

/-- Requests under way may take effect at any time. -/
def Anytime (_ : ι) (_ : World ι) (_ : Write) : Prop := True

/-- The request under way of an attempt takes effect, when `may` allows it. -/
def Lands (may : ι → World ι → Write → Prop) (w : World ι) (x : Write) (w' : World ι) : Prop :=
  ∃ a version before rest after, w.pending = before ++ (a, x) :: rest ∧ may a w x ∧
    w.apply version x = some after ∧
    w' = { after with pending := before ++ rest }.log
      ⟨a, if w.manifest.isNone ∧ after.manifest.isSome then .published else .other, after.holder⟩

variable [DecidableEq ι]

section Requests

variable (request) (may : ι → World ι → Write → Prop)

def obs : Thread ι → World ι → (op : Op) → Reply op → World ι → Prop
  | .transfer a, w, op, r, w' | .renewal a, w, op, r, w' =>
    Observed (holderOf request a) a w op r w'
  | .network, w, .write x, _, w' => Lands may w x w'
  | .network, _, _, _, _ => False

/-- The renewal goroutine ticks once it is started, and the network delivers requests. -/
def Starts (w : World ι) : Thread ι → Run Unit → Prop
  | .transfer _, _ => False
  | .renewal a, p => w.renewing a = true ∧
      ∃ ttl lastRenewed, p = renewObjectStoreLock (holderOf request a) ttl lastRenewed
  | .network, p => ∃ x, p = write x >>= fun _ => pure ()

/-- The attempts before any of them has made a call: some lock and some manifest may be there. -/
def initial (lock : Option ETag) (manifest : Option Manifest) :
    Threads Op Reply Error (World ι) (Thread ι) where
  state :=
    { lock := lock, manifest := manifest, lease := fun _ => none, renewing := fun _ => false
      done := fun _ => false, leaseErrors := fun _ => none, pending := [], history := [] }
  running
    | .transfer a => some (request a).run
    | _ => none

def Reached (lock : Option ETag) (manifest : Option Manifest)
    (c : Threads Op Reply Error (World ι) (Thread ι)) : Prop :=
  Threads.Reach (obs request may) (Starts request) (initial request lock manifest) c

def rely : Thread ι → World ι → World ι → Prop
  | .transfer a => Later a
  | _ => Grows

def guarantee : Thread ι → World ι → World ι → Prop
  | .transfer a, w, w' => ∃ ev, Change request a ev w w'
  | _, w, w' => ∃ a ev, Modest request a ev w w'

/-- What a thread that has finished has achieved. -/
def achieved : Thread ι → World ι → Prop
  | .transfer a => Published request a
  | _ => fun _ => True

end Requests

/-! ## What programs need and what they achieve -/

section Programs

variable (request) in
/-- From what the attempt has to know before a program to what it knows after it. -/
def Carries {α : Type} (later change : World ι → World ι → Prop) (a : ι) (F : World ι → Prop)
    (A : World ι → α → Prop) (p : Run α) : Prop :=
  ∀ s, Invariant request s → F s →
    p.Guards later change (Observed (holderOf request a) a) (Invariant request) A s

variable (request) in
/-- A thread that may make the modest calls of its attempt. -/
structure Duty (later change : World ι → World ι → Prop) (a : ι) : Prop where
  refl : ∀ s, later s s
  grows : ∀ s t, later s t → Grows s t
  changes : ∀ s t, change s t → Grows s t
  modest : ∀ ev s t, Modest request a ev s t → change s t
  kept : ∀ ev s t, Modest request a ev s t → later s t

variable {later change : World ι → World ι → Prop} {α β : Type} {F : World ι → Prop}
  {A : World ι → α → Prop} {B : World ι → β → Prop} {p : Run α}

theorem Carries.bind {f : α → Run β} (hd : Duty request later change a)
    (hp : Carries request later change a F A p)
    (hf : ∀ x, Carries request later change a (fun s => A s x) B (f x)) :
    Carries request later change a F B (p >>= f) := fun s hs hF =>
  (hp s hs hF).bind hd.refl hs fun t x ht hA => hf x t ht hA

theorem Carries.pure {x : α} (hF : ∀ s t, later s t → F s → A t x) :
    Carries request later change a F A (pure x) :=
  fun s _ hs => guards_pure fun t ht _ => hF s t ht hs

theorem Carries.fail {e : Error} : Carries request later change a F A (fail e) :=
  fun _ _ _ => guards_fail

theorem Carries.reject_bind {bad : Prop} [Decidable bad] {e : Error} {f : Unit → Run α}
    (h : ¬ bad → Carries request later change a F A (f ())) :
    Carries request later change a F A (reject bad e >>= f) := fun s hs hF =>
  guards_reject_bind fun hbad => h hbad s hs hF

theorem Carries.ite {c : Prop} [Decidable c] {q : Run α}
    (hp : c → Carries request later change a F A p)
    (hq : ¬ c → Carries request later change a F A q) :
    Carries request later change a F A (if c then p else q) := fun s hs hF =>
  guards_ite (fun hc => hp hc s hs hF) fun hc => hq hc s hs hF

theorem Carries.weaken {G : World ι → Prop} (h : Carries request later change a F A p)
    (hG : ∀ s, G s → F s) : Carries request later change a G A p :=
      fun s hs hs' => h s hs (hG s hs')

theorem Carries.imp {A' : World ι → α → Prop} (h : Carries request later change a F A p)
    (hA : ∀ s x, A s x → A' s x) : Carries request later change a F A' p := fun s hs hF =>
  (h s hs hF).imp fun t x _ => hA t x

theorem Carries.handle {f : α → Run β} {k : Error → Run β} {G : World ι → Prop}
    (hd : Duty request later change a) (hG : ∀ s t, Grows s t → G s → G t) (hFG : ∀ s, F s → G s)
    (hp : Carries request later change a F A p)
    (hf : ∀ x, Carries request later change a (fun s => A s x) B (f x))
    (hk : ∀ e, Carries request later change a G B (k e)) :
    Carries request later change a F B (p.handle f k) := fun s hs hF =>
  (hp s hs hF).handle hd.refl (fun s t hst => hG s t (hd.grows s t hst))
    (fun s t hst => hG s t (hd.changes s t hst)) hs (hFG s hF) (fun t x ht hA => hf x t ht hA)
    fun t e ht => hk e t ht

variable {op : Op} {events : List Event} {ttl : Int}

theorem carries_ask {A : World ι → Reply op → Prop} (hF : ∀ s t, later s t → F s → F t)
    (hA : ∀ s t r, later s t → A s r → A t r)
    (hcall : ∀ u r t, Invariant request u → F u → Observed (holderOf request a) a u op r t →
      change u t ∧ (Invariant request t → A t r)) :
    Carries request later change a F A (ask op) := by
  intro s _ hs
  refine guards_perform fun u hu hI r t hobs => ?_
  obtain ⟨hchange, hpost⟩ := hcall u r t hI (hF s u hu hs) hobs
  exact ⟨hchange, fun ht v hv _ => hA t v r hv (hpost ht)⟩

def Op.modest : Op → Bool
  | .write x => !x.taking
  | .readBackLock => false
  | _ => true

variable {r : Reply op}

theorem outcome_ne_acquired {holder : Text} (hop : op.modest = true) (r : Reply op) :
    outcome holder op r ≠ .acquired := by
  unfold outcome
  split <;> simp_all [Op.modest, Write.taking]

theorem Observed.changes (hperm : Permitted request a w op)
    (h : Observed (holderOf request a) a w op r w') : ∃ ev, Change request a ev w w' := by
  obtain ⟨after, hanswered, rfl⟩ := h
  exact ⟨_, (hanswered.leaves hperm).change⟩

theorem Observed.modest (hop : op.modest = true) (hperm : Permitted request a w op)
    (h : Observed (holderOf request a) a w op r w') : ∃ ev, Modest request a ev w w' := by
  obtain ⟨after, hanswered, rfl⟩ := h
  refine ⟨_, (hanswered.leaves hperm).change, ?_⟩
  exact fun hev => outcome_ne_acquired hop r (event_cases hev (by decide))

theorem Observed.progress (h : Observed (holderOf request a) a w op r w')
    (hperm : Permitted request a w op) (hmanifest : w'.manifest = w.manifest)
    (hw : Progress a events w.history) :
    Progress a (outcome (holderOf request a) op r :: events) w'.history := by
  obtain ⟨after, hanswered, rfl⟩ := h
  have hsame : after.manifest = w.manifest := hmanifest
  simp only [World.log, event_of_same hsame, (hanswered.leaves hperm).history]
  exact hw.cons _ _

theorem carries_reply (hd : Duty request later change a) {A : World ι → Reply op → Prop}
    (hop : op.modest = true) (hperm : ∀ u, Invariant request u → F u → Permitted request a u op)
    (hF : ∀ s t, later s t → F s → F t) (hA : ∀ s t r, later s t → A s r → A t r)
    (hpost : ∀ u r t, Invariant request u → F u → Observed (holderOf request a) a u op r t →
      F t → A t r) : Carries request later change a F A (ask op) := by
  refine carries_ask hF hA fun u r t hI hu hobs => ?_
  obtain ⟨ev, hmodest⟩ := hobs.modest hop (hperm u hI hu)
  have ht := hF u t (hd.kept ev u t hmodest) hu
  exact ⟨hd.modest ev u t hmodest, fun _ => hpost u r t hI hu hobs ht⟩

theorem carries_keep (hd : Duty request later change a) (hop : op.modest = true)
    (hperm : ∀ u, Invariant request u → F u → Permitted request a u op)
    (hF : ∀ s t, later s t → F s → F t) :
    Carries request later change a F (fun t _ => F t) (ask op) :=
  carries_reply hd hop hperm hF (fun s t _ => hF s t) fun _ _ _ _ _ _ ht => ht

/-! ## The lock -/

section

variable (hd : Duty request later change a)
include hd

theorem carries_wrapS3Error {detached : Bool}
    {category : ErrorCategory} {operation message : String} {e : StoreError} :
    Carries request later change a (fun _ => True) A
      (wrapS3Error detached category operation message e) := by
  refine .bind hd (carries_keep hd rfl (fun _ _ _ => trivial) fun _ _ _ h => h) fun done => ?_
  exact .ite (fun _ => .fail) fun _ => .fail

theorem carries_renewCurrent {current : ETag}
    (hcurrent : current.lock.holder = holderOf request a) :
    Carries request later change a (fun s => Progress a events s.history)
      (fun t etag => Progress a (.renewed :: events) t.history ∧
        etag.lock.holder = holderOf request a)
      (renewCurrent current (holderOf request a) ttl) := by
  have hgrows : ∀ s t, later s t → Progress a events s.history → Progress a events t.history :=
    fun s t h => (hd.grows s t h).progress
  refine .bind hd (carries_keep hd rfl (fun _ _ _ => trivial) hgrows) fun time => ?_
  refine .bind (A := fun t r => ∀ etag, r = .ok (some etag) →
      Progress a (.renewed :: events) t.history ∧ etag.lock.holder = holderOf request a) hd ?_ ?_
  · refine carries_reply hd rfl (fun _ _ _ => ⟨hcurrent, rfl⟩) hgrows ?_ ?_
    · intro s t r hst h etag hr
      exact ⟨(hd.grows s t hst).progress (h etag hr).1, (h etag hr).2⟩
    · rintro u r t - hu hobs - etag rfl
      have hanswer := hobs
      obtain ⟨after, hanswered, rfl⟩ := hanswer
      cases hanswered with
      | written _ happly hetag =>
        have hlock := (World.apply_lock (.inr happly)).2
        have hmanifest : after.manifest = u.manifest := by
          rcases World.apply_manifest happly with hsame | ⟨m, hm, -⟩
          · exact hsame
          · cases hm
        refine ⟨hobs.progress ⟨hcurrent, rfl⟩ hmanifest hu, ?_⟩
        rcases hetag with hnone | hsome
        · cases hnone
        · rw [hlock, Option.some.injEq] at hsome
          rw [hsome]
  · intro r
    match r with
    | .error e => exact (carries_wrapS3Error hd).weaken fun _ _ => trivial
    | .ok none => exact .fail
    | .ok (some etag) => exact .pure fun s t hst h =>
      ⟨(hd.grows s t hst).progress (h etag rfl).1, (h etag rfl).2⟩

theorem carries_renewLock {etag : Option ETag} :
    Carries request later change a (fun s => Progress a events s.history)
      (fun t etag => Progress a (.renewed :: events) t.history ∧
        etag.lock.holder = holderOf request a)
      (renewLock (holderOf request a) etag ttl) := by
  refine .reject_bind fun _ => ?_
  refine .bind hd (carries_keep hd rfl (fun _ _ _ => trivial)
    fun s t h => (hd.grows s t h).progress) fun r => ?_
  match r with
  | .error e => exact (carries_wrapS3Error hd).weaken fun _ _ => trivial
  | .ok none => exact .fail
  | .ok (some current) =>
    refine .reject_bind fun hholder => ?_
    exact carries_renewCurrent hd (not_not.mp hholder)

/-- **A renewal of the lease.** -/
theorem carries_renewNow :
    Carries request later change a (fun s => Progress a events s.history)
      (fun t _ => Progress a (.renewed :: events) t.history)
      (renewNow (holderOf request a) ttl) := by
  have hgrows : ∀ events s t, later s t → Progress a events s.history →
      Progress a events t.history := fun events s t h => (hd.grows s t h).progress
  refine .bind hd (carries_keep hd rfl (fun _ _ _ => trivial) (hgrows events)) fun etag => ?_
  refine .bind hd (carries_renewLock hd) fun renewed => ?_
  refine (carries_keep hd rfl (fun _ _ h => h.2) fun s t hst h =>
    ⟨hgrows _ s t hst h.1, h.2⟩).imp ?_
  exact fun _ _ h => h.1

theorem carries_renewObjectStoreLock {lastRenewed : Int} :
    Carries request later change a (fun _ => True) (fun _ _ => True)
      (renewObjectStoreLock (holderOf request a) ttl lastRenewed) := by
  have htrue : ∀ s t, later s t → True → True := fun _ _ _ h => h
  have hrenew : Carries request later change a (fun _ => True)
      (fun t _ => Progress a [.renewed] t.history) (renewNow (holderOf request a) ttl) :=
    fun s hs _ => carries_renewNow hd s hs (List.nil_sublist _)
  refine .handle hd (fun _ _ _ h => h) (fun _ _ => trivial) hrenew
    (fun _ => .pure fun _ _ _ _ => trivial) fun e => ?_
  refine .bind hd (carries_keep hd rfl (fun _ _ _ => trivial) htrue) fun time => ?_
  refine .ite (fun _ => ?_) fun _ => .pure fun _ _ _ _ => trivial
  exact carries_keep hd rfl (fun _ _ _ => trivial) htrue

end

end Programs

/-! ## The transfer -/

section Transfer

variable {α β : Type} {F : World ι → Prop} {A : World ι → α → Prop}

variable (request) in
/-- `Carries`, for the transfer of an attempt. -/
def Transfers (a : ι) (F : World ι → Prop) (A : World ι → α → Prop) (p : Run α) : Prop :=
  Carries request (Later a) (fun w w' => ∃ ev, Change request a ev w w') a F A p

omit [DecidableEq ι] in
theorem duty_transfer (request : ι → Request) (a : ι) :
    Duty request (Later a) (fun w w' => ∃ ev, Change request a ev w w') a where
  refl := Later.refl a
  grows := fun _ _ h => h.toGrows
  changes := fun _ _ ⟨_, h⟩ => h.grows
  modest := fun ev _ _ h => ⟨ev, h.toChange⟩
  kept := fun _ _ _ h => h.later

omit [DecidableEq ι] in
theorem duty_renewal (request : ι → Request) (a : ι) :
    Duty request Grows (fun w w' => ∃ b ev, Modest request b ev w w') a where
  refl := Grows.refl
  grows := fun _ _ h => h
  changes := fun _ _ ⟨_, _, h⟩ => h.toChange.grows
  modest := fun ev _ _ h => ⟨a, ev, h⟩
  kept := fun _ _ _ h => h.toChange.grows

/-- What is known of the attempt's own lock once it has been acquired. -/
def Acquired (request : ι → Request) (a : ι) (t : World ι) (etag : ETag) : Prop :=
  Progress a [.acquired] t.history ∧ etag.lock.holder = holderOf request a

omit [DecidableEq ι] in
theorem Acquired.later {s t : World ι} {etag : ETag} (hst : Later a s t)
    (h : Acquired request a s etag) : Acquired request a t etag := ⟨hst.toGrows.progress h.1, h.2⟩

/-- The answer to the creation of the lock: if it succeeded, the lock is the attempt's own. -/
def Created (request : ι → Request) (a : ι) (t : World ι) (r : Except StoreError (Option ETag)) :
    Prop :=
  NotAcquired a t ∧ ∀ e, r = .ok (some e) → e.lock.holder = holderOf request a

variable {lock : Lock}

theorem transfers_createLock (hlock : lock.holder = holderOf request a) :
    Transfers request a (NotAcquired a) (Created request a) (write (.createLock lock)) := by
  refine carries_ask (fun s t hst => hst.notAcquired)
    (fun s t r hst h => ⟨hst.notAcquired h.1, h.2⟩) ?_
  intro u r t hI hu hobs
  have hperm : Permitted request a u (.write (.createLock lock)) := ⟨hlock, hu⟩
  refine ⟨hobs.changes hperm, fun _ => ?_⟩
  obtain ⟨after, hanswered, rfl⟩ := hobs
  have hchange := (hanswered.leaves hperm).change
  -- No answer to a creation means by itself that the lock is acquired.
  have hev : event (holderOf request a) (.write (.createLock lock)) r u after ≠ .acquired := by
    intro hev
    have hout := event_cases hev (by decide)
    cases r <;> cases hout
  refine ⟨hu.change hchange fun hacquired => absurd hacquired hev, ?_⟩
  rintro e rfl
  cases hanswered with
  | written _ happly hetag =>
    simp only [World.apply, Option.ite_none_right_eq_some, Option.some.injEq] at happly
    rcases hetag with hnone | hsome
    · cases hnone
    · rw [← happly.2, Option.some.injEq] at hsome
      rw [hsome]
      exact hlock

/-- The read that follows the creation decides whether the lock is acquired. -/
theorem transfers_verifyCreated {etag : ETag} (hholder : holderOf request a ≠ []) :
    Transfers request a (fun _ => etag.lock.holder = holderOf request a)
      (Acquired request a) (verifyCreated (holderOf request a) etag) := by
  refine .bind (A := fun t r => etag.lock.holder = holderOf request a ∧
      (outcome (holderOf request a) .readBackLock r = .acquired → Progress a [.acquired] t.history))
    (duty_transfer request a) ?_ ?_
  · refine carries_ask (fun _ _ _ h => h)
      (fun s t r hst h => ⟨h.1, fun hout => hst.toGrows.progress (h.2 hout)⟩) ?_
    intro u r t hI hu hobs
    have hperm : Permitted request a u .readBackLock := hholder
    refine ⟨hobs.changes hperm, fun _ => ⟨hu, fun hout => ?_⟩⟩
    have hmanifest : t.manifest = u.manifest := by
      obtain ⟨after, hanswered, rfl⟩ := hobs
      cases hanswered with
      | readBackLock _ => rfl
      | readBackLockFailed hafter => rcases hafter with rfl | rfl <;> rfl
    rw [← hout]
    exact hobs.progress hperm hmanifest (List.nil_sublist _)
  · intro r
    match r with
    | .error e => exact .fail
    | .ok none => exact .pure fun s t hst h => ⟨hst.toGrows.progress (h.2 rfl), h.1⟩
    | .ok (some current) =>
      refine .ite (fun _ => .fail) fun hown => .pure fun s t hst h => ?_
      exact ⟨hst.toGrows.progress (h.2 (by simp only [outcome, if_neg hown])), h.1⟩

theorem transfers_replaceExpired {expired : ETag} (hlock : lock.holder = holderOf request a)
    (hholder : holderOf request a ≠ []) :
    Transfers request a (NotAcquired a) (Acquired request a) (replaceExpired expired lock) := by
  refine .bind (A := fun t r => ∀ etag, r = .ok (some etag) → Acquired request a t etag)
    (duty_transfer request a) ?_ ?_
  · refine carries_ask (fun s t hst => hst.notAcquired)
      (fun s t r hst h etag hr => (h etag hr).later hst) ?_
    intro u r t hI hu hobs
    have hperm : Permitted request a u (.write (.replaceLock expired lock)) := ⟨hlock, hu, hholder⟩
    refine ⟨hobs.changes hperm, ?_⟩
    rintro - etag rfl
    have hanswer := hobs
    obtain ⟨after, hanswered, rfl⟩ := hanswer
    cases hanswered with
    | written _ happly hetag =>
      have hmanifest : after.manifest = u.manifest := by
        rcases World.apply_manifest happly with hsame | ⟨m, hm, -⟩
        · exact hsame
        · cases hm
      refine ⟨hobs.progress hperm hmanifest (List.nil_sublist _), ?_⟩
      rcases hetag with hnone | hsome
      · cases hnone
      · rw [(World.apply_lock (.inl happly)).2, Option.some.injEq] at hsome
        rw [hsome]
        exact hlock
  · intro r
    match r with
    | .error e =>
      exact (carries_wrapS3Error (duty_transfer request a)).weaken fun _ _ => trivial
    | .ok none => exact .fail
    | .ok (some etag) => exact .pure fun s t hst h => (h etag rfl).later hst

theorem transfers_takeOver {bucket : Text} {err : StoreError}
    (hlock : lock.holder = holderOf request a) (hholder : holderOf request a ≠ []) :
    Transfers request a (NotAcquired a) (Acquired request a) (takeOver bucket lock err) := by
  have hd := duty_transfer request a
  have hlater : ∀ s t : World ι, Later a s t → NotAcquired a s → NotAcquired a t :=
    fun s t hst => hst.notAcquired
  refine .bind hd (carries_keep hd rfl (fun _ _ _ => trivial) hlater) fun r => ?_
  match r with
  | .error .noSuchBucket => exact .fail
  | .error .conditionFailed | .error .timedOut | .error .unavailable | .error .cancelled
    | .ok none =>
    exact (carries_wrapS3Error hd).weaken fun _ _ => trivial
  | .ok (some current) =>
    refine .bind hd (carries_keep hd rfl (fun _ _ _ => trivial) hlater) fun time => ?_
    exact .reject_bind fun _ => transfers_replaceExpired hlock hholder

/-- **The acquisition of the lock.** -/
theorem transfers_acquireLock {bucket : Text} {ttl : Int} :
    Transfers request a (NotAcquired a) (Acquired request a)
      (acquireLock bucket (holderOf request a) ttl) := by
  have hd := duty_transfer request a
  refine .reject_bind fun hvalid => ?_
  have hholder : holderOf request a ≠ [] := fun h => hvalid (.inl h)
  refine .bind hd (carries_keep hd rfl (fun _ _ _ => trivial) fun s t hst => hst.notAcquired)
    fun time => ?_
  refine .bind hd (transfers_createLock rfl) fun r => ?_
  match r with
  | .error e => exact (transfers_takeOver rfl hholder).weaken fun s h => h.1
  | .ok none => exact .fail
  | .ok (some etag) => exact (transfers_verifyCreated hholder).weaken fun s h => h.2 etag rfl

/-! ### Under the lock -/

theorem transfers_keep {op : Op} (hop : op.modest = true)
    (hperm : ∀ u, Permitted request a u op) (hF : ∀ s t, Grows s t → F s → F t) :
    Transfers request a F (fun t _ => F t) (ask op) :=
  carries_keep (duty_transfer request a) hop (fun u _ _ => hperm u)
    fun s t hst => hF s t hst.toGrows

theorem transfers_require {step : ExternalStep} (hF : ∀ s t, Grows s t → F s → F t) :
    Transfers request a F (fun t _ => F t) (Request.require step) := by
  refine .bind (duty_transfer request a) (transfers_keep rfl (fun _ => trivial) hF) fun r => ?_
  match r with
  | some e => exact .fail
  | none => exact .pure fun s t hst => hF s t hst.toGrows

theorem transfers_orFail {r : Except Error α} (hA : ∀ s t x, Grows s t → A s x → A t x) :
    Transfers request a (fun s => ∀ x, r = .ok x → A s x) A (Request.orFail r) := by
  cases r with
  | error e => exact .fail
  | ok x => exact .pure fun s t hst h => hA s t x hst.toGrows (h x rfl)

theorem transfers_verifyPVCIdentity (hF : ∀ s t, Grows s t → F s → F t) :
    Transfers request a F (fun t _ => F t) Request.verifyPVCIdentity := by
  refine .bind (duty_transfer request a) (transfers_keep rfl (fun _ => trivial) hF) fun r => ?_
  exact (transfers_orFail fun s t _ hst => hF s t hst).weaken fun s h _ _ => h

theorem transfers_ttl (hF : ∀ s t, Grows s t → F s → F t) :
    Transfers request a F (fun t _ => F t) (request a).ttl := by
  refine .bind (duty_transfer request a) (transfers_keep rfl (fun _ => trivial) hF) fun left => ?_
  exact .pure fun s t hst => hF s t hst.toGrows

theorem transfers_classifyLeaseError {e : Error} :
    Transfers request a (fun _ => True) A (classifyLeaseError e) := by
  refine .bind (duty_transfer request a)
    (transfers_keep rfl (fun _ => trivial) fun _ _ _ h => h) fun done => ?_
  exact .ite (fun _ => .fail) fun _ => .fail

theorem transfers_checkObjectStoreLease (hF : ∀ s t, Grows s t → F s → F t) :
    Transfers request a F (fun t _ => F t) checkObjectStoreLease := by
  refine .bind (duty_transfer request a) (transfers_keep rfl (fun _ => trivial) hF) fun lost => ?_
  match lost with
  | some e =>
    exact .ite (fun _ => .fail) fun _ => transfers_classifyLeaseError.weaken fun _ _ => trivial
  | none =>
    refine .bind (duty_transfer request a) (transfers_keep rfl (fun _ => trivial) hF) fun done => ?_
    refine .ite (fun _ => transfers_classifyLeaseError.weaken fun _ _ => trivial) fun _ => ?_
    exact .pure fun s t hst => hF s t hst.toGrows

omit [DecidableEq ι] in
theorem progress_grows (a : ι) (events : List Event) (s t : World ι) (hst : Grows s t)
    (h : Progress a events s.history) : Progress a events t.history := hst.progress h

variable {events : List Event} {failed : Option Error}

theorem transfers_confirmLease :
    Transfers request a (fun s => Progress a events s.history)
      (fun t _ => Progress a (.renewed :: events) t.history) (request a).confirmLease := by
  have hd := duty_transfer request a
  refine .bind hd (transfers_checkObjectStoreLease (progress_grows a events)) fun _ => ?_
  refine .bind hd (transfers_ttl (progress_grows a events)) fun ttl => ?_
  refine .handle hd (fun _ _ _ h => h) (fun _ _ => trivial) (carries_renewNow hd) (fun _ => ?_)
    fun e => transfers_classifyLeaseError
  exact .pure fun s t hst => progress_grows a _ s t hst.toGrows

/-- A manifest that is there already is one of the session, if the transfer is done with it. -/
theorem transfers_checkPublished {found : Option Manifest} :
    Transfers request a (fun s => Progress a [.acquired] s.history ∧
        ∀ m, found = some m → s.manifest = some m)
      (fun t complete => Progress a [.acquired] t.history ∧
        (complete = true → Published request a t))
      ((request a).checkPublished found) := by
  have hd := duty_transfer request a
  cases found with
  | none =>
    refine .pure fun s t hst h => ⟨hst.toGrows.progress h.1, fun hfalse => ?_⟩
    cases hfalse
  | some m =>
    refine .ite (fun _ => ?_) fun _ => .fail
    refine .bind (A := fun t _ => Progress a [.acquired] t.history ∧ Published request a t) hd ?_
      fun _ => .pure fun s t hst h => ⟨hst.toGrows.progress h.1, fun _ => hst.toGrows.published h.2⟩
    refine .reject_bind fun _ => .reject_bind fun hmatches => ?_
    have hsession : m.sessionID = (request a).manifestID := (not_not.mp hmatches).1
    refine Carries.weaken (F := fun s => Progress a [.acquired] s.history ∧ Published request a s)
      ?_ fun s h => ⟨h.1, m, h.2 m rfl, hsession⟩
    exact transfers_require fun s t hst h => ⟨hst.progress h.1, hst.published h.2⟩

theorem transfers_prepare :
    Transfers request a (fun s => Progress a [.acquired] s.history)
      (fun t complete => Progress a [.acquired] t.history ∧
        (complete = true → Published request a t))
      (request a).prepare := by
  have hd := duty_transfer request a
  have hgrows := progress_grows a [.acquired]
  refine .bind (A := fun t r => ∀ found, r = .ok found → Progress a [.acquired] t.history ∧
      ∀ m, found = some m → t.manifest = some m) hd ?_ fun r => ?_
  · refine carries_reply hd rfl (fun _ _ _ => trivial) (fun s t hst => hgrows s t hst.toGrows) ?_ ?_
    · intro s t r hst h found hr
      exact ⟨hst.toGrows.progress (h found hr).1, fun m hm => hst.manifest m ((h found hr).2 m hm)⟩
    · rintro u r t - - ⟨after, hanswered, rfl⟩ ht found rfl
      cases hanswered with
      | readManifest => exact ⟨ht, fun m hm => hm⟩
  refine .bind hd (transfers_orFail fun s t found hst h =>
    ⟨hst.progress h.1, fun m hm => hst.manifest m (h.2 m hm)⟩) fun found => ?_
  refine .bind hd transfers_checkPublished fun complete => ?_
  cases complete with
  | true =>
    exact .pure fun s t hst h =>
      ⟨hst.toGrows.progress h.1, fun hc => hst.toGrows.published (h.2 hc)⟩
  | false =>
    refine Carries.weaken (F := fun s => Progress a [.acquired] s.history) ?_ fun s h => h.1
    refine .bind hd (transfers_verifyPVCIdentity hgrows) fun _ => ?_
    refine .bind hd (transfers_require hgrows) fun _ => ?_
    refine .pure fun s t hst h => ⟨hst.toGrows.progress h, fun hfalse => ?_⟩
    cases hfalse

theorem transfers_runTool :
    Transfers request a (fun s => Progress a events s.history)
      (fun t _ => Progress a (.toolStarted :: events) t.history) Request.runTool := by
  have hd := duty_transfer request a
  have hgrows := progress_grows a (.toolStarted :: events)
  refine .bind (A := fun t _ => Progress a (.toolStarted :: events) t.history) hd ?_ fun _ => ?_
  · refine carries_reply hd rfl (fun _ _ _ => trivial)
      (fun s t hst => progress_grows a events s t hst.toGrows)
      (fun s t _ hst => hgrows s t hst.toGrows) ?_
    intro u r t _ hu hobs _
    have hperm : Permitted request a u .startTool := trivial
    refine hobs.progress hperm ?_ hu
    obtain ⟨after, hanswered, rfl⟩ := hobs
    cases hanswered
    rfl
  refine .bind hd (transfers_keep rfl (fun _ => trivial) hgrows) fun failed => ?_
  match failed with
  | none => exact .pure fun s t hst => hgrows s t hst.toGrows
  | some e =>
    refine .bind hd (transfers_keep rfl (fun _ => trivial) hgrows) fun lost => ?_
    exact .fail

theorem transfers_inventory :
    Transfers request a (fun s => Progress a events s.history)
      (fun t r => ∀ inventory, r = .ok inventory →
        Progress a (.inventoried :: events) t.history) takeInventory := by
  refine carries_reply (duty_transfer request a) rfl (fun _ _ _ => trivial)
    (fun s t hst => progress_grows a events s t hst.toGrows)
    (fun s t r hst h inventory hr => hst.toGrows.progress (h inventory hr)) ?_
  rintro u r t - hu hobs - inventory rfl
  have hperm : Permitted request a u .inventory := trivial
  refine hobs.progress hperm ?_ hu
  obtain ⟨after, hanswered, rfl⟩ := hobs
  cases hanswered
  rfl

theorem transfers_putManifest {m : Manifest} (hsession : m.sessionID = (request a).manifestID) :
    Transfers request a (fun s => Progress a beforePublication s.history)
      (fun t _ => Published request a t)
      (putManifest (request a).services (request a).config m) := by
  have hd := duty_transfer request a
  simp only [putManifest]
  split
  · exact .fail
  refine .bind (A := fun t r => ∀ etag, r = .ok etag → Published request a t) hd ?_ fun r => ?_
  · refine carries_reply hd rfl (fun u _ hu => ⟨hsession, hu⟩)
      (fun s t hst => progress_grows a _ s t hst.toGrows)
      (fun s t r hst h etag hr => hst.toGrows.published (h etag hr)) ?_
    rintro u r t - - ⟨after, hanswered, rfl⟩ - etag rfl
    cases hanswered with
    | written _ happly _ =>
      simp only [World.apply] at happly
      cases hm : u.manifest with
      | none =>
        simp only [hm, Option.some.injEq] at happly
        exact ⟨_, congrArg World.manifest happly.symm, hsession⟩
      | some m' => simp [hm] at happly
  cases r with
  | error e => exact (carries_wrapS3Error hd).weaken fun _ _ => trivial
  | ok etag => exact .pure fun s t hst h => hst.toGrows.published (h etag rfl)

theorem transfers_copyAndPublish :
    Transfers request a (fun s => Progress a [.acquired] s.history)
      (fun t _ => Published request a t) (request a).copyAndPublish := by
  have hd := duty_transfer request a
  have hgrows := progress_grows a
  refine .bind hd (transfers_require (hgrows _)) fun _ => ?_
  refine .bind hd (transfers_require (hgrows _)) fun _ => ?_
  refine .bind hd transfers_runTool fun _ => ?_
  refine .bind hd transfers_confirmLease fun _ => ?_
  refine .bind hd (transfers_verifyPVCIdentity (hgrows _)) fun source => ?_
  refine .bind hd transfers_inventory fun r => ?_
  refine .bind hd (transfers_orFail fun s t _ => hgrows _ s t) fun inventory => ?_
  refine .bind hd transfers_confirmLease fun _ => ?_
  refine .bind hd (transfers_keep rfl (fun _ => trivial) (hgrows _)) fun time => ?_
  refine (transfers_putManifest rfl).weaken fun s h => ?_
  -- The first of the two renewals is not needed.
  exact List.Sublist.trans (List.Sublist.map _ (by decide)) h

/-! ### The end of a transfer -/

/-- The error of a program, with what is achieved if there is none and what holds anyway. -/
theorem transfers_errorOf {p : Run Unit} {G H : World ι → Prop} (hG : ∀ s t, Grows s t → G s → G t)
    (hH : ∀ s t, Grows s t → H s → H t) (hFH : ∀ s, F s → H s)
    (hp : Transfers request a F (fun t _ => G t ∧ H t) p) :
    Transfers request a F (fun t failed => (failed = none → G t) ∧ H t) (Request.errorOf p) := by
  refine .handle (duty_transfer request a) hH hFH hp (fun _ => ?_) fun e => ?_
  · exact .pure fun s t hst h => ⟨fun _ => hG s t hst.toGrows h.1, hH s t hst.toGrows h.2⟩
  · refine .pure fun s t hst h => ⟨fun hnone => ?_, hH s t hst.toGrows h⟩
    cases hnone

section

variable (hF : ∀ s t, Grows s t → F s → F t)
include hF

theorem transfers_releaseLock {etag : Option ETag}
    (howner : ∀ e, etag = some e → e.lock.holder = holderOf request a) :
    Transfers request a F (fun t _ => True ∧ F t) (releaseLock etag) := by
  have hd := duty_transfer request a
  cases etag with
  | none => exact .fail
  | some etag =>
    refine .bind hd (carries_keep hd rfl (fun _ _ _ => howner etag rfl)
      fun s t hst => hF s t hst.toGrows) fun r => ?_
    match r with
    | .error e => exact (carries_wrapS3Error hd).weaken fun _ _ => trivial
    | .ok _ => exact .pure fun s t hst h => ⟨trivial, hF s t hst.toGrows h⟩

/-- What a transfer has achieved stays so when its lock is released. -/
theorem transfers_release {cleanup : Option Error} :
    Transfers request a F (fun t _ => F t) (Request.release failed cleanup) := by
  have hd := duty_transfer request a
  refine .bind (A := fun t r => F t ∧ ∀ etag, r = some etag → etag.lock.holder = holderOf request a)
    hd ?_ fun etag => ?_
  · refine carries_reply hd rfl (fun _ _ _ => trivial) (fun s t hst => hF s t hst.toGrows)
      (fun s t r hst h => ⟨hF s t hst.toGrows h.1, h.2⟩) ?_
    rintro u r t hI - ⟨after, hanswered, rfl⟩ ht
    cases hanswered with
    | currentLease => exact ⟨ht, fun etag hetag => hI.lease a etag hetag⟩
  · intro s hs h
    have hreleased := transfers_errorOf (fun _ _ _ h => h) hF (fun _ h => h)
      (transfers_releaseLock hF h.2)
    refine (hreleased s hs h.1).bind hd.refl hs fun t released ht hA => ?_
    refine Carries.weaken (F := F) ?_ (fun t h => h) t ht hA.2
    cases released with
    | none => exact .pure fun s t hst => hF s t hst.toGrows
    | some e =>
      exact .ite (fun _ => .pure fun s t hst => hF s t hst.toGrows) fun _ =>
        .pure fun s t hst => hF s t hst.toGrows

theorem transfers_finalize {named : Bool} :
    Transfers request a F (fun t _ => F t) (Request.finalizeBackupOperation failed named) := by
  have hd := duty_transfer request a
  refine .bind (A := fun t _ => F t) hd ?_ fun cleanup => ?_
  · exact .ite (fun _ => transfers_keep rfl (fun _ => trivial) hF) fun _ =>
      .pure fun s t hst => hF s t hst.toGrows
  · exact .ite (fun _ => .pure fun s t hst => hF s t hst.toGrows) fun _ => transfers_release hF

end

theorem transfers_finish {named : Bool} :
    Transfers request a (fun s => failed = none → Published request a s)
      (fun t _ => Published request a t) (Request.finish failed named) := by
  have hd := duty_transfer request a
  have hF : ∀ s t : World ι, Grows s t → (failed = none → Published request a s) →
      (failed = none → Published request a t) := fun s t hst h hnone => hst.published (h hnone)
  refine .bind hd (transfers_keep rfl (fun _ => trivial) hF) fun _ => ?_
  refine .bind hd (transfers_keep rfl (fun _ => trivial) hF) fun lost => ?_
  refine .bind hd (transfers_finalize hF) fun finalized => ?_
  cases failed with
  | some e => exact .fail
  | none =>
    simp only [Option.none_or]
    split
    · exact .fail
    · exact .pure fun s t hst h => hst.toGrows.published (h trivial)

omit [DecidableEq ι] in
theorem published_grows (request : ι → Request) (a : ι) (s t : World ι) (hst : Grows s t)
    (h : Published request a s) : Published request a t := hst.published h

theorem transfers_transferTool :
    Transfers request a (fun s => Progress a [.acquired] s.history)
      (fun t _ => Published request a t) (request a).transferTool := by
  have hcopy : Transfers request a (fun s => Progress a [.acquired] s.history)
      (fun t _ => Published request a t ∧ True) (request a).copyAndPublish :=
    transfers_copyAndPublish.imp fun t _ h => ⟨h, trivial⟩
  refine .bind (duty_transfer request a) (transfers_errorOf (published_grows request a)
    (fun _ _ _ h => h) (fun _ _ => trivial) hcopy) fun failed => ?_
  exact transfers_finish.weaken fun s h => h.1

theorem transfers_underLock :
    Transfers request a (fun s => Progress a [.acquired] s.history)
      (fun t _ => Published request a t) (request a).underLock := by
  refine .handle (duty_transfer request a) (fun _ _ _ h => h) (fun _ _ => trivial) transfers_prepare
    (fun complete => ?_) fun e => ?_
  · cases complete with
    | true => exact transfers_finish.weaken fun s h _ => h.2 rfl
    | false => exact transfers_transferTool.weaken fun s h => h.1
  · refine transfers_finish.weaken fun s _ hnone => ?_
    cases hnone

theorem transfers_transfer :
    Transfers request a (NotAcquired a) (fun t _ => Published request a t)
      (request a).transfer := by
  have hd := duty_transfer request a
  have hlater : ∀ s t : World ι, Later a s t → NotAcquired a s → NotAcquired a t :=
    fun s t hst => hst.notAcquired
  refine .bind (A := fun t _ => NotAcquired a t) hd ?_ fun _ => ?_
  · refine .bind hd (carries_keep hd rfl (fun _ _ _ => trivial) hlater) fun r => ?_
    match r with
    | some e => exact .fail
    | none => exact .pure hlater
  refine .bind (A := fun t _ => NotAcquired a t) hd ?_ fun ttl => ?_
  · refine .bind hd (carries_keep hd rfl (fun _ _ _ => trivial) hlater) fun left => ?_
    exact .pure hlater
  refine .bind hd transfers_acquireLock fun etag => ?_
  refine .bind (A := fun t _ => Progress a [.acquired] t.history) hd ?_ fun _ => ?_
  · exact (carries_keep hd rfl (fun _ _ h => h.2) fun s t hst => Acquired.later hst).imp
      fun t _ h => h.1
  refine .bind hd (transfers_keep rfl (fun _ => trivial) (progress_grows a _)) fun _ => ?_
  exact transfers_underLock

/-- **The whole transfer.** -/
theorem transfers_run :
    Transfers request a (NotAcquired a) (fun t _ => Published request a t) (request a).run := by
  have hd := duty_transfer request a
  refine .ite (fun _ => ?_) fun _ => transfers_transfer
  refine .bind (A := fun t _ => NotAcquired a t) hd ?_ fun _ => ?_
  · refine .bind hd (carries_keep hd rfl (fun _ _ _ => trivial) fun s t hst => hst.notAcquired)
      fun r => ?_
    match r with
    | some e => exact .fail
    | none => exact .pure fun s t hst => hst.notAcquired
  have htransfer : Transfers request a (NotAcquired a) (fun t _ => Published request a t ∧ True)
      (request a).transfer := transfers_transfer.imp fun t _ h => ⟨h, trivial⟩
  refine .bind hd (transfers_errorOf (published_grows request a) (fun _ _ _ h => h)
    (fun _ _ => trivial) htransfer) fun failed => ?_
  have hF : ∀ s t : World ι, Grows s t → (failed = none → Published request a s) ∧ True →
      (failed = none → Published request a t) ∧ True :=
    fun s t hst h => ⟨fun hnone => hst.published (h.1 hnone), trivial⟩
  refine .bind hd (transfers_keep rfl (fun _ => trivial) hF) fun lost => ?_
  refine .bind hd (transfers_keep rfl (fun _ => trivial) hF) fun kept => ?_
  cases failed with
  | some e => exact .fail
  | none =>
    simp only [Option.none_or]
    split
    · exact .fail
    · exact .pure fun s t hst h => hst.toGrows.published (h.1 trivial)

end Transfer

/-! ## The attempts together -/

omit [DecidableEq ι] in
/-- A request that lands is one that its attempt was allowed to make. -/
theorem Lands.modest {x : Write} (hI : Invariant request w) (h : Lands InTime w x w') :
    ∃ b ev, Modest request b ev w w' := by
  obtain ⟨b, version, before, rest, after, hpending, hmay, happly, rfl⟩ := h
  have hmem : (b, x) ∈ w.pending := by
    rw [hpending]
    simp
  have hframe := World.apply_frame happly
  have hold : ∀ p ∈ before ++ rest, p ∈ w.pending := by
    intro p hp
    rw [hpending]
    simp only [List.mem_append, List.mem_cons] at hp ⊢
    exact hp.imp_right .inr
  refine ⟨b, _, Leaves.change ?_, ?_⟩
  · refine Leaves.of_write (hI.pending (b, x) hmem) hmay (.inr happly) rfl rfl rfl rfl
      (fun p hp => .inl (by rw [hframe.2.1]; exact hold p hp)) ?_ ?_ ?_
    · intro hev
      split_ifs at hev
    · intro hev
      split_ifs at hev
    · split_ifs with hcond
      · exact ⟨fun _ => hcond, fun _ => rfl⟩
      · exact ⟨fun hev => (by cases hev), fun h => absurd h hcond⟩
  · split_ifs <;> decide

omit [DecidableEq ι] in
theorem invariant_initial (lock : Option ETag) (manifest : Option Manifest) :
    Invariant request (initial request lock manifest).state where
  owned := by
    intro c front e back _ h
    simp [initial] at h
  held := by
    intro c newer r front e back h
    simp [initial] at h
  acquired := by
    intro e he
    simp [initial] at he
  published := by
    intro newer p older h
    simp [initial] at h
  manifest := by
    intro _ e he
    simp [initial] at he
  pending := by
    intro p hp
    simp [initial] at hp
  lease := by
    intro c etag h
    simp [initial] at h

omit [DecidableEq ι] in
theorem guarantee_change {i : Thread ι} (h : guarantee request i w w') :
    ∃ b ev, Change request b ev w w' := by
  cases i with
  | transfer a =>
    obtain ⟨ev, hchange⟩ := h
    exact ⟨a, ev, hchange⟩
  | renewal a | network =>
    obtain ⟨b, ev, hmodest⟩ := h
    exact ⟨b, ev, hmodest.toChange⟩

/-- **The threads rely only on what the others do.** -/
theorem disciplined (hinj : Function.Injective (holderOf request)) :
    Threads.Disciplined (obs request InTime) (Starts request) rely (guarantee request)
      (Invariant request) (achieved request) where
  refl := by
    intro i s
    cases i with
    | transfer c => exact Later.refl c s
    | renewal c | network => exact Grows.refl s
  trans := by
    intro i s t u hst htu
    cases i with
    | transfer c => exact Later.trans hst htu
    | renewal c | network => exact Grows.trans hst htu
  others := by
    intro i j s t hne _ hchange
    cases i with
    | transfer c =>
      cases j with
      | transfer d =>
        obtain ⟨ev, hchange⟩ := hchange
        exact hchange.later_of_ne fun hcd => hne (by rw [hcd])
      | renewal d | network =>
        obtain ⟨e, ev, hmodest⟩ := hchange
        exact hmodest.later
    | renewal c | network =>
      obtain ⟨e, ev, hchange⟩ := guarantee_change hchange
      exact hchange.grows
  keeps := by
    intro i s t hs hchange
    obtain ⟨e, ev, hchange⟩ := guarantee_change hchange
    exact hs.change hinj hchange
  starts := by
    intro i p s hstart hs
    cases i with
    | transfer c => exact hstart.elim
    | renewal c =>
      obtain ⟨-, ttl, lastRenewed, rfl⟩ := hstart
      exact carries_renewObjectStoreLock (duty_renewal request c) s hs trivial
    | network =>
      obtain ⟨x, rfl⟩ := hstart
      intro u _ hu r t hlands
      exact ⟨Lands.modest hu hlands, fun _ v _ _ => trivial⟩

theorem guarded_initial (lock : Option ETag) (manifest : Option Manifest) :
    (initial request lock manifest).Guarded (obs request InTime) rely (guarantee request)
      (Invariant request) (achieved request) := by
  intro i p hp
  cases i with
  | transfer c =>
    simp only [initial, Option.some.injEq] at hp
    rw [← hp]
    refine transfers_run _ (invariant_initial lock manifest) fun e he => ?_
    simp [initial] at he
  | renewal c | network => simp [initial] at hp

/-- What the attempts get to satisfies the invariant, and the threads keep their guarantees. -/
theorem Reached.invariant (hinj : Function.Injective (holderOf request)) {lock : Option ETag}
    {manifest : Option Manifest} {c : Threads Op Reply Error (World ι) (Thread ι)}
    (h : Reached request InTime lock manifest c) :
    c.Guarded (obs request InTime) rely (guarantee request) (Invariant request) (achieved request) ∧
      Invariant request c.state :=
  (guarded_initial lock manifest).reach (disciplined hinj) (invariant_initial lock manifest) h

/-! ## The guarantees -/

section Guarantees

variable (request)

/-- Between an acquisition of the lock and a later renewal by the same attempt, no other attempt
acquires it. -/
def NoOtherAcquires (history : List (Entry ι)) : Prop :=
  ∀ a newer r front e back, history = newer ++ r :: (front ++ e :: back) →
    r.attempt = a → r.event = .renewed → e.attempt = a → e.event = .acquired →
    ∀ x ∈ front, x.event = .acquired → x.attempt = a

/-- The calls before a publication: the attempt has acquired the lock, started its tool, taken its
inventory and renewed the lock, and the lock names it all the time in between. -/
def HeldThroughout (a : ι) (older : List (Entry ι)) : Prop :=
  ∃ front r untilRenewed i untilInventory t untilTool e back,
    older = front ++ r :: (untilRenewed ++ i :: (untilInventory ++ t :: (untilTool ++ e :: back))) ∧
    (r.attempt = a ∧ r.event = .renewed) ∧ (i.attempt = a ∧ i.event = .inventoried) ∧
    (t.attempt = a ∧ t.event = .toolStarted) ∧ (e.attempt = a ∧ e.event = .acquired) ∧
    ∀ x ∈ untilRenewed ++ i :: (untilInventory ++ t :: untilTool),
      x.holder = some (holderOf request a)

/-- A publication is the only one, and its attempt has held the lock. -/
def PublishedOnce (history : List (Entry ι)) : Prop :=
  ∀ newer p older, history = newer ++ p :: older → p.event = .published →
    HeldThroughout request p.attempt older ∧ ∀ x ∈ newer ++ older, x.event ≠ .published

end Guarantees

omit [DecidableEq ι] in
theorem Invariant.noOtherAcquires (hinj : Function.Injective (holderOf request))
    (h : Invariant request w) : NoOtherAcquires w.history := by
  intro c newer r front e back hsplit hr hrenewed he hacquired x hx hevent
  have hholder := h.held c newer r front e back hsplit hr hrenewed he hacquired x hx
  have hmem : e ∈ w.history ∧ x ∈ w.history := by
    rw [hsplit]
    simp [hx]
  have hnonempty := (h.acquired e hmem.1 hacquired).1
  rcases (h.acquired x hmem.2 hevent).2 _ hholder with hempty | hsame
  · rw [he] at hnonempty
    exact absurd hempty hnonempty
  · exact (hinj hsame).symm

omit [DecidableEq ι] in
theorem Invariant.heldThroughout (h : Invariant request w) {newer older : List (Entry ι)}
    {p : Entry ι} (hsplit : w.history = newer ++ p :: older) (hevent : p.event = .published) :
    HeldThroughout request p.attempt older := by
  obtain ⟨front, r, rest, hfront, hr, hrenewed, hprogress⟩ :=
    (h.published newer p older hsplit hevent).1.split
  obtain ⟨untilRenewed, i, rest', hrest, hi, hinventoried, hprogress⟩ := hprogress.split
  obtain ⟨untilInventory, t, rest'', hrest', ht, htool, hprogress⟩ := hprogress.split
  obtain ⟨untilTool, e, back, hrest'', he, hacquired, -⟩ := hprogress.split
  subst hfront hrest hrest' hrest''
  refine ⟨front, r, untilRenewed, i, untilInventory, t, untilTool, e, back, rfl, ⟨hr, hrenewed⟩,
    ⟨hi, hinventoried⟩, ⟨ht, htool⟩, ⟨he, hacquired⟩, ?_⟩
  refine h.held p.attempt (newer ++ p :: front) r _ e back ?_ hr hrenewed he hacquired
  simp [hsplit]

omit [DecidableEq ι] in
theorem Invariant.publishedOnce (h : Invariant request w) : PublishedOnce request w.history := by
  intro newer p older hsplit hevent
  refine ⟨h.heldThroughout hsplit hevent, fun x hx hpublished => ?_⟩
  rcases List.mem_append.mp hx with hnewer | holder
  · -- A newer publication would have this one before it.
    obtain ⟨before, after, rfl⟩ := List.append_of_mem hnewer
    have hother := (h.published before x (after ++ p :: older) (by simp [hsplit]) hpublished).2
    exact hother p (by simp) hevent
  · exact (h.published newer p older hsplit hevent).2 x holder hpublished

omit [DecidableEq ι] in
theorem manifest_of_changes {m : Manifest}
    (h : ReflTransGen (fun s t => Invariant request s ∧ ∃ i, guarantee request i s t) w w')
    (hm : w.manifest = some m) : w'.manifest = some m := by
  induction h with
  | refl => exact hm
  | tail _ hstep ih =>
    obtain ⟨-, i, hguarantee⟩ := hstep
    obtain ⟨b, ev, hchange⟩ := guarantee_change hguarantee
    exact hchange.manifest_some ih

theorem Reached.manifest (hinj : Function.Injective (holderOf request)) {lock : Option ETag}
    {manifest : Option Manifest} {c d : Threads Op Reply Error (World ι) (Thread ι)}
    (h : Reached request InTime lock manifest c)
    (hd : Threads.Reach (obs request InTime) (Starts request) c d)
    {m : Manifest} (hm : c.state.manifest = some m) : d.state.manifest = some m := by
  have hinvariant := h.invariant hinj
  exact manifest_of_changes
    (Threads.changes (disciplined hinj) hinvariant.1 hinvariant.2 hd) hm

/-- **A manifest is published under the lock.**  Whatever the attempts do at once, and wherever each
is stopped: between an acquisition and a later renewal by the same attempt no other attempt acquires
the lock; the attempt that publishes has held it from before its tool started until after its
inventory was taken; a manifest is published at most once and stays; and a transfer that succeeds
leaves the manifest of its own session. -/
theorem manifest_published_under_lock (hinj : Function.Injective (holderOf request))
    {lock : Option ETag} {manifest : Option Manifest}
    {c : Threads Op Reply Error (World ι) (Thread ι)}
    (hc : Reached request InTime lock manifest c) :
    NoOtherAcquires c.state.history ∧ PublishedOnce request c.state.history ∧
      (∀ m, c.state.manifest = some m →
        ∀ d, Threads.Reach (obs request InTime) (Starts request) c d → d.state.manifest = some m) ∧
      ∀ a, c.running (.transfer a) = some (.ret ()) →
        ∃ m, c.state.manifest = some m ∧ m.sessionID = (request a).manifestID := by
  obtain ⟨hguarded, hinvariant⟩ := hc.invariant hinj
  refine ⟨hinvariant.noOtherAcquires hinj, hinvariant.publishedOnce, ?_, ?_⟩
  · intro m hm d hd
    exact hc.manifest hinj hd hm
  · intro a hdone
    exact hguarded.finished (disciplined hinj) hinvariant hdone

/-! ## Two attempts -/

variable (time : Int)

/-- A store that answers every call of an attempt, at one time and with version 0 for every lock.
If it is `losing`, its answer to the first request for a lock is late, and the transfers get no
tool. -/
def serve (losing : Bool) (a : ι) (w : World ι) : (op : Op) → Reply op × World ι
  | .now => (time, w)
  | .untilDeadline => (none, w)
  | .write x =>
    if w.done a then (.error .cancelled, w.cancel a)
    else if losing = true ∧ x.taking = true ∧ w.pending = [] then
      (.error .timedOut, { w with pending := (a, x) :: w.pending })
    else
      match w.apply 0 x with
      | some after => (.ok after.lock, after)
      | none => (.error .conditionFailed, w)
  | .readLock | .readBackLock => if w.done a then (.error .cancelled, w) else (.ok w.lock, w)
  | .readManifest => (.ok w.manifest, w)
  | .inventory => (.ok ⟨1, 1, List.replicate 64 '0'⟩, w)
  | .startTool => ((), w)
  | .awaitTool => (none, w)
  | .verifyPVCIdentity => (.ok ⟨['u'], ['v'], ['x'], ['1'], none⟩, w)
  | .external .prepareTool => (if losing then some ⟨.kubernetes, "", "no tool"⟩ else none, w)
  | .external _ => (none, w)
  | .contextErr _ => (false, w)
  | .currentLease => (w.lease a, w)
  | .setLease etag => ((), { w with lease := Function.update w.lease a (some etag) })
  | .startRenewal => ((), { w with renewing := Function.update w.renewing a true })
  | .stopRenewal => ((), { w with renewing := Function.update w.renewing a false })
  | .takeLeaseError =>
    (w.leaseErrors a, { w with leaseErrors := Function.update w.leaseErrors a none })
  | .abort e => ((), { w with leaseErrors := Function.update w.leaseErrors a (some e) }.cancel a)

theorem serve_answered (losing : Bool) (a : ι) (w : World ι) (op : Op) :
    Answered a w op (serve time losing a w op).1 (serve time losing a w op).2 := by
  cases op with
  | write x =>
    simp only [serve]
    by_cases hdone : w.done a = true
    · rw [if_pos hdone]
      exact @Answered.cancelled _ _ a w x 0 w (.inl rfl)
    have hrunning : x.detached ∨ w.done a = false := .inr (by simpa using hdone)
    rw [if_neg hdone]
    split_ifs with hlost
    · exact @Answered.failed _ _ a w x 0 .timedOut _ hrunning (.inl rfl) (.inr (.inr rfl))
    cases happly : w.apply 0 x with
    | some after => exact .written hrunning happly (.inr rfl)
    | none => exact .refused hrunning happly
  | readLock =>
    simp only [serve]
    split_ifs with hdone
    · exact .readLockFailed (.inl rfl)
    · exact .readLock (by simpa using hdone)
  | readBackLock =>
    simp only [serve]
    split_ifs with hdone
    · exact .readBackLockFailed (.inl rfl)
    · exact .readBackLock (by simpa using hdone)
  | external step => cases step <;> exact .external
  | contextErr detached => exact .contextErr (.inl rfl)
  | _ => constructor

def twoAttempts (second : Bool) : Request where
  services :=
    { pageSize := 1, pageSize_pos := Nat.one_pos, parseURL := fun _ => none, sha256 := fun _ => []
      unmarshalLock := fun _ => .error [], unmarshalManifest := fun _ => .error []
      quantitySign := fun _ => .ok 1 }
  config := { bucket := ['b'], name := ['n'] }
  holder := if second then ['2'] else ['1']
  manifestID := ['s']
  sourceNamespace := ['d']
  sourcePVC := ['p']
  sourcePVCUID := ['u']
  sourcePV := ['v']
  sourcePVUID := ['x']
  path := ['d']
  online := false
  helmTimeout := 0
  locked := false

/-- `serve`, with the history. -/
def serveLogged (losing a : Bool) (op : Op) (w : World Bool) :
    Reply op × World Bool :=
  let answer := serve time losing a w op
  (answer.1, answer.2.log
    ⟨a, event (holderOf twoAttempts a) op answer.1 w answer.2, answer.2.holder⟩)

theorem serveLogged_observed (losing a : Bool) (op : Op) (w : World Bool) :
    Observed (holderOf twoAttempts a) a w op (serveLogged time losing a op w).1
      (serveLogged time losing a op w).2 :=
  ⟨_, serve_answered time losing a w op, rfl⟩

/-- A time at which the locks of earlier times have expired. -/
def muchLater : Int := 1000 * minute

/-- The first attempt has acquired the lock. -/
def lockAcquired : World Bool :=
  ((twoAttempts false).run.advance (serveLogged 0 false false) 7
    (initial twoAttempts none none).state).2

/-- Much later, the second attempt has run to its end. -/
def lockTakenOver : World Bool :=
  ((twoAttempts true).run.run (serveLogged muchLater false true) lockAcquired).2

/-- The second attempt takes over the lock of the first one and publishes its manifest. -/
theorem manifest_published_under_lock_taken_over :
    lockTakenOver.history.any (fun e => e.attempt = false ∧ e.event = .acquired) = true ∧
      lockTakenOver.history.any (fun e => e.attempt = true ∧ e.event = .published) = true ∧
      NoOtherAcquires lockTakenOver.history ∧ PublishedOnce twoAttempts lockTakenOver.history ∧
      ∃ m, lockTakenOver.manifest = some m ∧ m.sessionID = ['s'] := by
  have hinj : Function.Injective (holderOf twoAttempts) := by
    intro first second h
    cases first <;> cases second <;> first | rfl | exact absurd h (by decide)
  have hfirst : Reached twoAttempts InTime none none _ :=
    Threads.reach_of_advance (i := .transfer false) (serveLogged_observed 0 false false) 7 rfl
  have hok : ((twoAttempts true).run.run (serveLogged muchLater false true) lockAcquired).1 =
      .ok () := by decide +kernel
  have hreached : Reached twoAttempts InTime none none _ := hfirst.trans
    (Threads.reach_of_run (i := .transfer true) (serveLogged_observed muchLater false true)
      (by simp [initial]) hok)
  have hmain := manifest_published_under_lock hinj hreached
  exact ⟨by decide +kernel, by decide +kernel, hmain.1, hmain.2.1,
    hmain.2.2.2 true (by simp)⟩

/-- The newest request under way takes effect. -/
def deliver (w : World ι) : Option (World ι) :=
  match w.pending with
  | [] => none
  | (a, x) :: rest => (w.apply 0 x).map fun after => { after with pending := rest }.log
    ⟨a, if w.manifest.isNone ∧ after.manifest.isSome then .published else .other, after.holder⟩

theorem reach_deliver (request : ι → Request) {c : Threads Op Reply Error (World ι) (Thread ι)}
    (h : deliver c.state = some w) :
    ∃ running, Threads.Reach (obs request Anytime) (Starts request) c ⟨w, running⟩ := by
  unfold deliver at h
  split at h
  · cases h
  rename_i a x rest hpending
  obtain ⟨after, happly, rfl⟩ := Option.map_eq_some_iff.mp h
  have hlands : obs request Anytime .network c.state (.write x) (.ok none) _ :=
    ⟨a, 0, [], rest, after, hpending, trivial, happly, rfl⟩
  have hrunning : Function.update c.running .network (some (write x >>= fun _ => pure ()))
      .network = some (.call (.write x) fun _ => .ret ()) := Function.update_self _ _ _
  exact ⟨_, .tail (.single ⟨.network, .start ⟨x, rfl⟩⟩) ⟨.network, .call hrunning hlands⟩⟩

/-- A lock that has expired. -/
def expiredLock : ETag := ⟨⟨['0'], 0⟩, 0⟩

/-- The first attempt gets no answer to its creation of the lock, and replaces the expired one. -/
def lockReplaced : World Bool :=
  ((twoAttempts false).run.advance (serveLogged 0 true false) 9
    (initial twoAttempts (some expiredLock) none).state).2

/-- Much later, the second attempt takes the lock over, fails and releases it. -/
def lockReleased : World Bool :=
  ((twoAttempts true).run.advance (serveLogged muchLater true true) 30 lockReplaced).2

/-- The creation takes effect, and the first attempt renews the lock that it finds. -/
def lockRenewed : World Bool :=
  ((renewObjectStoreLock (holderOf twoAttempts false) minute 0).advance
    (serveLogged muchLater false false) 4 ((deliver lockReleased).getD lockReleased)).2

/-- **A lock that has been lost is renewed.**  The first attempt renews the lock after the second
one has acquired it. -/
theorem late_creation_renewed :
    ∃ c, Reached twoAttempts Anytime (some expiredLock) none c ∧
      ¬ NoOtherAcquires c.state.history := by
  have hreplaced : Reached twoAttempts Anytime (some expiredLock) none _ :=
    Threads.reach_of_advance (i := .transfer false) (serveLogged_observed 0 true false) 9 rfl
  have hreleased : Reached twoAttempts Anytime (some expiredLock) none _ := hreplaced.trans
    (Threads.reach_of_advance (i := .transfer true) (p := (twoAttempts true).run)
      (serveLogged_observed muchLater true true) 30 rfl)
  have hdelivered : deliver lockReleased = some ((deliver lockReleased).getD lockReleased) := by
    have hsome : (deliver lockReleased).isSome = true := by decide +kernel
    obtain ⟨w, hw⟩ := Option.isSome_iff_exists.mp hsome
    rw [hw, Option.getD_some]
  obtain ⟨running, hlanded⟩ := reach_deliver twoAttempts
    (c := ⟨lockReleased, _⟩) hdelivered
  have hstarts : Starts twoAttempts ((deliver lockReleased).getD lockReleased) (.renewal false)
      (renewObjectStoreLock (holderOf twoAttempts false) minute 0) :=
    ⟨by decide +kernel, minute, 0, rfl⟩
  have hstarted : Reached twoAttempts Anytime (some expiredLock) none _ :=
    (hreleased.trans hlanded).tail ⟨_, .start hstarts⟩
  refine ⟨_, hstarted.trans (Threads.reach_of_advance (i := .renewal false)
    (p := renewObjectStoreLock (holderOf twoAttempts false) minute 0)
    (serveLogged_observed muchLater false false) 4 (by simp)), fun hnone => ?_⟩
  have hsplit : lockRenewed.history = [] ++ ⟨false, .renewed, some ['1']⟩ ::
      (lockRenewed.history.tail.take 22 ++ ⟨false, .acquired, some ['1']⟩ ::
        lockRenewed.history.drop 24) := by decide +kernel
  have hother := hnone false _ _ _ _ _ hsplit rfl rfl rfl rfl ⟨true, .acquired, some ['2']⟩
    (by decide +kernel) rfl
  cases hother

end Backup

end PvcMigrate
