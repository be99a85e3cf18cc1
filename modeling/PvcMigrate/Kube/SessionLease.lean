import PvcMigrate.Kube.Cluster
import PvcMigrate.Lib.Prog
import PvcMigrate.Lib.Machine
import Mathlib.Data.List.Induction

/-!
# Session leases

A workflow is changed under a `Lease` of its session (`kube/session_lease.go`).  This module has
the object, the tests on it, and the two ways a holder gives it up: `Release` clears the holder and
keeps the object, `Delete` removes the object together with the workflow.  Each of them does its
work at most once per lock, and both are called more than once: a cleanup that lost a race is run
again with the same lock.

The answers of the API are arbitrary.  `LeaseWorld.gone` records what they show: that the Lease with
the recorded UID was deleted, or was seen to be absent.
-/

namespace PvcMigrate

namespace Kube

open Prog

/-! ## The object -/

/-- `coordinationv1.Lease`, with its resource version as a number. -/
structure Lease where
  uid : UID
  resourceVersion : Nat
  labels : StringMap
  holderIdentity : Option String
  leaseDurationSeconds : Option Int
  acquireTime : Option Time
  renewTime : Option Time
  leaseTransitions : Option Int

def defaultSessionLeaseDuration : Duration := seconds 30

def defaultSessionLeaseRenewEvery : Duration := seconds 10

def maxLeaseDurationSeconds : Int := 2 ^ 31 - 1

def leaseDurationSeconds (duration : Duration) : Int :=
  if duration ≤ 0 then 1
  else
    let whole := duration / seconds 1
    min (if duration % seconds 1 = 0 then whole else whole + 1) maxLeaseDurationSeconds

def normalizeLeaseTiming (duration renewEvery : Duration) : Duration × Duration :=
  let duration := if duration ≤ 0 then defaultSessionLeaseDuration else duration
  let renewEvery := if renewEvery ≤ 0 then defaultSessionLeaseRenewEvery else renewEvery
  let maxRenewEvery := if duration / 3 ≤ 0 then 1 else duration / 3
  (duration, min renewEvery maxRenewEvery)

variable (lease : Lease)

/-- The duration that `sessionLeaseExpired` reads from a Lease. -/
def Lease.duration : Duration :=
  match lease.leaseDurationSeconds with
  | some n => if 0 < n then seconds n else defaultSessionLeaseDuration
  | none => defaultSessionLeaseDuration

def sessionLeaseExpired (now : Time) : Bool :=
  match lease.renewTime, lease.acquireTime with
  | some renewed, _ => lease.duration ≤ now.sub renewed
  | none, some acquired => lease.duration ≤ now.sub acquired
  | none, none => true

/-! ## The lock -/

/-- `sessionLease`, without its timing.  `once` and `deleteOnce` say whether the work of `Release`
and of `Delete` was started. -/
structure SessionLease where
  sessionID : String
  holder : String
  uid : UID
  err : Option Error := none
  releaseErr : Option Error := none
  deleted : Bool := false
  once : Bool := false
  deleteOnce : Bool := false

variable (l : SessionLease)

def SessionLease.owns (lease : Lease) : Prop :=
  l.uid ≠ none ∧ lease.uid = l.uid ∧ lease.labels.get managedByLabel = managedByValue ∧
    lease.labels.get sessionKey = l.sessionID ∧ lease.holderIdentity = some l.holder

instance (lease : Lease) : Decidable (l.owns lease) :=
  inferInstanceAs (Decidable (_ ∧ _))

/-- What a call on a Lease can fail with; `other` covers timeouts and all other errors. -/
inductive LeaseFailure
  | notFound
  | conflict
  | other
  deriving DecidableEq, Repr

inductive LeaseCall
  | get
  | update (lease : Lease)
  | delete (uid : UID) (resourceVersion : Nat)

@[reducible] def LeaseCall.Reply : LeaseCall → Type
  | get => Except LeaseFailure Lease
  | update _ | delete _ _ => Except LeaseFailure Unit

abbrev LeaseProg := Prog LeaseCall LeaseCall.Reply Error

def getLease : LeaseProg (Except LeaseFailure Lease) := perform LeaseCall.get

def updateLease : LeaseProg (Except LeaseFailure Unit) :=
  perform (LeaseCall.update lease)

/-- Delete the Lease, if it is still the one that was read. -/
def deleteLease : LeaseProg (Except LeaseFailure Unit) :=
  perform (LeaseCall.delete lease.uid lease.resourceVersion)

/-- `delete`, which records a deletion in the lock. -/
def SessionLease.delete (l : SessionLease) : LeaseProg SessionLease := do
  match ← getLease with
  | .error .notFound => pure { l with deleted := true }
  | .error _ => fail ⟨.kubernetes, "delete session lock", "read session Lease"⟩
  | .ok lease => do
    reject (¬ l.owns lease)
      ⟨.conflict, "delete session lock", "session lock ownership was fenced"⟩
    match ← deleteLease lease with
    | .ok _ | .error .notFound => pure { l with deleted := true }
    | .error .conflict =>
      fail ⟨.conflict, "delete session lock", "session lock changed while deleting"⟩
    | .error .other => fail ⟨.kubernetes, "delete session lock", "delete session Lease"⟩

/-- The work of `Release`; its error becomes `releaseErr`. -/
def SessionLease.release (l : SessionLease) : LeaseProg Unit :=
  if l.deleted then pure ()
  else
    match l.err with
    | some e => fail e
    | none => do
      match ← getLease with
      | .error .notFound => pure ()
      | .error _ => fail ⟨.kubernetes, "release session lock", "read session Lease"⟩
      | .ok lease => do
        reject (¬ l.owns lease)
          ⟨.conflict, "release session lock", "session lock ownership was fenced"⟩
        match ← updateLease { lease with holderIdentity := none, renewTime := none } with
        | .ok _ | .error .notFound => pure ()
        | .error .conflict =>
          fail ⟨.conflict, "release session lock", "session lock resourceVersion changed"⟩
        | .error .other => fail ⟨.kubernetes, "release session lock", "clear session Lease"⟩

/-! ## The API -/

/-- How the API answers the `n`-th call, and whether a deletion takes effect.  One that is answered
with success does; one that is answered with an error may. -/
structure LeaseAnswers where
  get : Nat → Except LeaseFailure Lease
  update : Nat → Except LeaseFailure Unit
  delete : Nat → Except LeaseFailure Unit
  deleted : Nat → Bool
  deleted_of_ok : ∀ n, delete n = .ok () → deleted n = true

/-- The calls made so far, and whether the Lease with the recorded UID was deleted or seen to be
absent. -/
structure LeaseWorld where
  calls : Nat := 0
  gone : Bool := false

/-- A read shows that there is no Lease with this UID. -/
def showsAbsent (uid : UID) : Except LeaseFailure Lease → Bool
  | .error .notFound => true
  | .error _ => false
  | .ok lease => lease.uid ≠ uid

variable (answers : LeaseAnswers)

def LeaseAnswers.handle (uid : UID) : (call : LeaseCall) → LeaseWorld → call.Reply × LeaseWorld
  | .get, w => (answers.get w.calls,
      ⟨w.calls + 1, w.gone || showsAbsent uid (answers.get w.calls)⟩)
  | .update _, w => (answers.update w.calls,
      ⟨w.calls + 1, w.gone || answers.update w.calls == .error .notFound⟩)
  | .delete _ _, w => (answers.delete w.calls,
      ⟨w.calls + 1, w.gone || answers.deleted w.calls ||
        answers.delete w.calls == .error .notFound⟩)

/-! ## Calls on a lock -/

/-- The two ways to give up a lock. -/
inductive GiveUp
  | delete
  | release
  deriving DecidableEq, Repr

/-- A lock and the calls made with it. -/
structure LockState where
  lock : SessionLease
  world : LeaseWorld := {}

variable (s : LockState)

/-- `Delete`. -/
def callDelete : Except Error Unit × LockState :=
  -- the error is a local of `Delete`: a second call returns its zero value
  if s.lock.deleteOnce then (.ok (), s)
  else
    let started : SessionLease := { s.lock with deleteOnce := true }
    match started.delete.run (answers.handle s.lock.uid) s.world with
    | (.ok lock, w) => (.ok (), ⟨lock, w⟩)
    | (.error e, w) => (.error e, ⟨started, w⟩)

/-- The answer of `Release`. -/
def releaseAnswer (lock : SessionLease) : Except Error Unit :=
  match lock.releaseErr with
  | some e => .error e
  | none => .ok ()

/-- `Release`. -/
def callRelease : Except Error Unit × LockState :=
  if s.lock.once then (releaseAnswer s.lock, s)
  else
    let started : SessionLease := { s.lock with once := true }
    match started.release.run (answers.handle s.lock.uid) s.world with
    | (.ok _, w) => (releaseAnswer started, ⟨started, w⟩)
    | (.error e, w) =>
      let failed : SessionLease := { started with releaseErr := some e }
      (releaseAnswer failed, ⟨failed, w⟩)

def giveUp : GiveUp → Except Error Unit × LockState
  | .delete => callDelete answers s
  | .release => callRelease answers s

def afterGiveUp (call : GiveUp) : LockState :=
  (giveUp answers s call).2

/-- If the call is `Delete` and its answer is nil, the Lease is gone. -/
def DeleteShowsGone (call : GiveUp) : Prop :=
  call = .delete → (giveUp answers s call).1 = .ok () →
    (afterGiveUp answers s call).world.gone = true

/-! ## What the answers show -/

/-- The read that is the `n`-th call, or the write after it, shows that the Lease is gone. -/
def SessionLease.shows (answers : LeaseAnswers) (n : Nat) (write : Nat → Bool) : Bool :=
  match answers.get n with
  | .error .notFound => true
  | .error _ => false
  | .ok lease => if l.owns lease then write (n + 1) else lease.uid ≠ l.uid

/-- The answers to a call that does its work show that the Lease is gone: it is not found, it has
another UID, or the deletion takes effect. -/
def GiveUp.Shows : GiveUp → Prop
  | .delete => s.lock.shows answers s.world.calls
      (fun n => answers.deleted n || answers.delete n == .error .notFound) = true
  | .release => s.lock.deleted = false ∧ s.lock.err = none ∧
      s.lock.shows answers s.world.calls (fun n => answers.update n == .error .notFound) = true

/-- The work of the call was started before. -/
def GiveUp.started : GiveUp → Bool
  | .delete => s.lock.deleteOnce
  | .release => s.lock.once

/-- A lock as it is acquired, with what its renewal ends with. -/
def newLock (sessionID holder : String) (uid : UID) (err : Option Error) : LockState :=
  { lock := { sessionID, holder, uid, err } }

/-- The answers to the first `Delete` or to the first `Release` of the calls show that the Lease is
gone. -/
def FoundGone (calls : List GiveUp) : Prop :=
  ∃ front call rest, calls = front ++ call :: rest ∧ call ∉ front ∧
    call.Shows answers (Machine.run (afterGiveUp answers) s front)

section Calls

variable {answers : LeaseAnswers} {s : LockState} {w : LeaseWorld} {α : Type}

@[simp] theorem run_getLease_bind {uid : UID} {f : Except LeaseFailure Lease → LeaseProg α} :
    run (answers.handle uid) (getLease >>= f) w = run (answers.handle uid)
      (f (answers.get w.calls))
      ⟨w.calls + 1, w.gone || showsAbsent uid (answers.get w.calls)⟩ := rfl

@[simp] theorem run_deleteLease_bind {uid : UID} {lease : Lease}
    {f : Except LeaseFailure Unit → LeaseProg α} :
    run (answers.handle uid) (deleteLease lease >>= f) w = run (answers.handle uid)
      (f (answers.delete w.calls)) ⟨w.calls + 1, w.gone || answers.deleted w.calls ||
        answers.delete w.calls == .error .notFound⟩ := rfl

@[simp] theorem run_updateLease_bind {uid : UID} {lease : Lease}
    {f : Except LeaseFailure Unit → LeaseProg α} :
    run (answers.handle uid) (updateLease lease >>= f) w = run (answers.handle uid)
      (f (answers.update w.calls))
      ⟨w.calls + 1, w.gone || answers.update w.calls == .error .notFound⟩ := rfl

theorem gone_delete (answers : LeaseAnswers) (l : SessionLease) (w : LeaseWorld) :
    (l.delete.run (answers.handle l.uid) w).2.gone = true ↔
      w.gone = true ∨ GiveUp.delete.Shows answers ⟨l, w⟩ := by
  rw [SessionLease.delete, run_getLease_bind]
  simp only [GiveUp.Shows, SessionLease.shows]
  cases answers.get w.calls with
  | error e => cases e <;> simp [showsAbsent]
  | ok lease =>
    by_cases howns : l.owns lease
    · have huid : lease.uid = l.uid := howns.2.1
      simp only [run_reject_bind, howns, not_true, if_false, if_true, run_deleteLease_bind]
      cases answers.delete (w.calls + 1) with
      | ok _ => simp [showsAbsent, huid]
      | error e => cases e <;> simp [showsAbsent, huid]
    · simp [run_reject_bind, howns, showsAbsent]

theorem gone_release (answers : LeaseAnswers) (l : SessionLease) (w : LeaseWorld) :
    (l.release.run (answers.handle l.uid) w).2.gone = true ↔
      w.gone = true ∨ GiveUp.release.Shows answers ⟨l, w⟩ := by
  rw [SessionLease.release]
  simp only [GiveUp.Shows, SessionLease.shows]
  by_cases hdeleted : l.deleted = true
  · simp [hdeleted]
  rw [if_neg hdeleted]
  cases l.err with
  | some e => simp
  | none =>
    simp only [run_getLease_bind]
    cases answers.get w.calls with
    | error e => cases e <;> simp [showsAbsent, hdeleted]
    | ok lease =>
      by_cases howns : l.owns lease
      · have huid : lease.uid = l.uid := howns.2.1
        simp only [run_reject_bind, howns, not_true, if_false, if_true, run_updateLease_bind]
        cases answers.update (w.calls + 1) with
        | ok _ => simp [showsAbsent, huid]
        | error e => cases e <;> simp [showsAbsent, huid, hdeleted]
      · simp [run_reject_bind, howns, showsAbsent, hdeleted]

theorem delete_ok {l l' : SessionLease} {uid : UID} {w' : LeaseWorld}
    (h : l.delete.run (answers.handle uid) w = (.ok l', w')) :
    l' = { l with deleted := true } ∧ w'.gone = true := by
  rw [SessionLease.delete, run_getLease_bind] at h
  cases hget : answers.get w.calls with
  | error e =>
    rw [hget] at h
    cases e <;> simp [showsAbsent] at h
    simp [← h.1, ← h.2]
  | ok lease =>
    rw [hget] at h
    simp only [run_reject_bind, run_deleteLease_bind] at h
    split at h
    · simp at h
    · have hdeleted := answers.deleted_of_ok (w.calls + 1)
      cases hdelete : answers.delete (w.calls + 1) with
      | error e =>
        rw [hdelete] at h
        cases e <;> simp at h
        simp [← h.1, ← h.2]
      | ok _ =>
        rw [hdelete] at h hdeleted
        simp only [run_pure, Prod.mk.injEq, Except.ok.injEq] at h
        simp [← h.1, ← h.2, hdeleted rfl]

/-- One call: the Lease is gone after it if it was gone before, or the call does its work and the
answers show it. -/
theorem gone_afterGiveUp (call : GiveUp) :
    (afterGiveUp answers s call).world.gone = true ↔
      s.world.gone = true ∨ call.started s = false ∧ call.Shows answers s := by
  cases call with
  | delete =>
    have hgone := gone_delete answers { s.lock with deleteOnce := true } s.world
    simp only [afterGiveUp, giveUp, callDelete, GiveUp.started]
    by_cases honce : s.lock.deleteOnce = true
    · simp [honce]
    · rw [if_neg honce, and_iff_right (Bool.eq_false_of_not_eq_true honce)]
      split <;> rename_i hrun <;> rw [hrun] at hgone <;> exact hgone
  | release =>
    have hgone := gone_release answers { s.lock with once := true } s.world
    simp only [afterGiveUp, giveUp, callRelease, GiveUp.started]
    by_cases honce : s.lock.once = true
    · simp [honce]
    · rw [if_neg honce, and_iff_right (Bool.eq_false_of_not_eq_true honce)]
      split <;> rename_i hrun <;> rw [hrun] at hgone <;> exact hgone

theorem started_afterGiveUp (call other : GiveUp) :
    other.started (afterGiveUp answers s call) = true ↔ other.started s = true ∨ other = call := by
  cases call with
  | delete =>
    simp only [afterGiveUp, giveUp, callDelete]
    split
    · cases other <;> simp_all [GiveUp.started]
    · split
      · rename_i hrun
        rw [(delete_ok hrun).1]
        cases other <;> simp [GiveUp.started]
      · cases other <;> simp [GiveUp.started]
  | release =>
    simp only [afterGiveUp, giveUp, callRelease]
    split
    · cases other <;> simp_all [GiveUp.started]
    · split <;> cases other <;> simp [GiveUp.started]

variable {sessionID holder : String} {uid : UID} {err : Option Error} {calls : List GiveUp}

theorem started_run (call : GiveUp) :
    call.started (Machine.run (afterGiveUp answers) (newLock sessionID holder uid err) calls) ↔
      call ∈ calls := by
  induction calls using List.reverseRecOn with
  | nil => cases call <;> simp [GiveUp.started, newLock]
  | append_singleton calls last ih =>
    rw [Machine.run_append, Machine.run_cons, Machine.run_nil, started_afterGiveUp, ih,
      List.mem_append, List.mem_singleton]

/-- What the run records of the Lease is what the answers show. -/
theorem gone_run :
    (Machine.run (afterGiveUp answers) (newLock sessionID holder uid err) calls).world.gone = true ↔
      FoundGone answers (newLock sessionID holder uid err) calls := by
  induction calls using List.reverseRecOn with
  | nil => simp [FoundGone, newLock]
  | append_singleton calls last ih =>
    rw [Machine.run_append, Machine.run_cons, Machine.run_nil, gone_afterGiveUp, ih,
      ← Bool.not_eq_true, started_run]
    constructor
    · rintro (⟨front, call, rest, rfl, hnew, hshows⟩ | ⟨hnew, hshows⟩)
      · exact ⟨front, call, rest ++ [last], by simp, hnew, hshows⟩
      · exact ⟨calls, last, [], rfl, hnew, hshows⟩
    · rintro ⟨front, call, rest, heq, hnew, hshows⟩
      rcases List.eq_nil_or_concat rest with rfl | ⟨rest, x, rfl⟩
      · obtain ⟨rfl, hlast⟩ := List.append_inj' heq rfl
        obtain rfl : last = call := by simpa using hlast
        exact .inr ⟨hnew, hshows⟩
      · refine .inl ⟨front, call, rest, ?_, hnew, hshows⟩
        rw [List.concat_eq_append, ← List.cons_append, ← List.append_assoc] at heq
        exact (List.append_inj' heq rfl).1

end Calls

/-- One call: the answer is honest exactly if a repeated `Delete` finds the Lease gone. -/
theorem deleteShowsGone_iff {answers : LeaseAnswers} {s : LockState} {call : GiveUp} :
    DeleteShowsGone answers s call ↔
      (call = .delete → s.lock.deleteOnce = true → s.world.gone = true) := by
  unfold DeleteShowsGone
  refine imp_congr_right ?_
  rintro rfl
  simp only [afterGiveUp, giveUp, callDelete]
  by_cases honce : s.lock.deleteOnce = true
  · simp [honce]
  · simp only [honce, if_false, Bool.false_eq_true, false_imp_iff, iff_true]
    -- the first `Delete` does its work
    intro hok
    split at hok
    · rename_i hrun
      exact (delete_ok hrun).2
    · simp at hok

/-- **Repeated deletions.**  In a sequence of calls on a new lock, every nil answer of `Delete`
means that the Lease is gone, exactly if before every `Delete` after the first the answers to the
first `Delete`, or to the first `Release`, have shown it. -/
theorem every_delete_shows_gone_iff (answers : LeaseAnswers) (sessionID holder : String)
    (uid : UID) (err : Option Error) (calls : List GiveUp) :
    Machine.Every (afterGiveUp answers) (DeleteShowsGone answers)
        (newLock sessionID holder uid err) calls ↔
      ∀ before after, calls = before ++ .delete :: after → .delete ∈ before →
        FoundGone answers (newLock sessionID holder uid err) before := by
  rw [Machine.every_iff]
  simp only [deleteShowsGone_iff]
  constructor
  · intro h before after hcalls hmem
    exact gone_run.1 (h before .delete after hcalls rfl
      ((started_run .delete).2 hmem))
  · rintro h before call after hcalls rfl honce
    exact gone_run.2 (h before after hcalls ((started_run .delete).1 honce))

/-! ## A race that is answered with a conflict -/

/-- A lock of the session `session`. -/
def sampleLock : SessionLease where
  sessionID := "session"
  holder := "holder"
  uid := some 1

def sampleLease : Lease where
  uid := some 1
  resourceVersion := 7
  labels := (StringMap.set (fun _ => none) managedByLabel managedByValue).set sessionKey "session"
  holderIdentity := some "holder"
  leaseDurationSeconds := some 30
  acquireTime := some 0
  renewTime := some 0
  leaseTransitions := some 1

/-- The Lease is changed between its read and its deletion. -/
def sampleConflict : LeaseAnswers where
  get _ := .ok sampleLease
  update _ := .error .conflict
  delete _ := .error .conflict
  deleted _ := false
  deleted_of_ok _ h := by cases h

/-- `Delete` loses a race, is called again and answers nil, with the Lease still there. -/
theorem repeated_delete_hides_conflict :
    ¬ Machine.Every (afterGiveUp sampleConflict) (DeleteShowsGone sampleConflict)
      { lock := sampleLock } [.delete, .delete] := by
  intro h
  exact absurd (h.2.1 rfl (by rfl)) (by decide)

end Kube

end PvcMigrate
