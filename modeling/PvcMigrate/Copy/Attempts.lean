import Mathlib.Data.List.Nodup
import Mathlib.Logic.Function.Basic
import PvcMigrate.Lib.Json
import PvcMigrate.Lib.Observed

/-!
# The numbers of copy attempts

An attempt to copy a volume has a number, and the number is part of the name of the attempt's Helm
releases and tool Pods (`copyengine.OperationID`).  The number of the last attempt is a field of the
workflow's status.  Two loops count it up: `copyWithRetry` (`app/volume_copy.go`) inside a cluster,
and `Service.copy` (`crosscluster/execution.go`) between clusters.  A process that runs one of them
can be killed at any call, the copy itself included, and a later process goes on from the status in
the store.  Go counts in an `int` of 64 bits and the model without a bound, which no number of
attempts reaches.
-/

namespace PvcMigrate

namespace CopyAttempts

open Prog

/-! ## The name of an attempt -/

/-- `AttemptIdentity`, with the namespace and the name of the source. -/
structure AttemptIdentity where
  sessionID : Text
  ns : Text
  name : Text
  mode : Text
  attempt : Int

/-- The text of attempt `n`, of which `OperationID` takes the digest. -/
def AttemptIdentity.text (request : AttemptIdentity) (n : Int) : Text :=
  ['/'].intercalate [request.sessionID, request.ns, request.name, request.mode, Json.decimal n]

/-- `OperationID`.  The digest is the first eight bytes of SHA-256, as hexadecimal digits. -/
def operationID (digest : Text → Text) (request : AttemptIdentity) : Text :=
  "pm-".toList ++ digest (request.text request.attempt)

/-- The names of the attempts of a volume in one mode are as different as their numbers, if their
digests do not collide. -/
theorem nodup_operationIDs {digest : Text → Text} {request : AttemptIdentity} {attempts : List Int}
    (hdigest : Set.InjOn digest { t | ∃ n ∈ attempts, request.text n = t })
    (hattempts : attempts.Nodup) :
    (attempts.map fun n => operationID digest { request with attempt := n }).Nodup := by
  refine hattempts.map_on fun m hm n hn h => Json.decimal_injective ?_
  have htext := hdigest ⟨m, hm, rfl⟩ ⟨n, hn, rfl⟩ (List.append_cancel_left h)
  simpa [AttemptIdentity.text, List.intercalate] using htext

/-! ## The interface -/

/-- The record of a volume's transfer in the status. -/
structure Transfer where
  attempts : Int := 0
  /-- whether the completion of the copy is recorded -/
  completed : Bool := false
  lastError : String := ""
  deriving DecidableEq, Repr

abbrev Status (V : Type) := V → Transfer

inductive Call (V : Type)
  /-- what a run does before it copies: checks, reservations, scheduling, service accounts -/
  | prepare
  /-- whether the lease of the session is still held and the operation is not cancelled -/
  | lease
  | cancelled
  | validate (volume : V)
  | save (status : Status V)
  | copy (volume : V) (attempt : Int)
  | cleanupCopyToolPods (volume : V)
  | sleep (retryIndex : Nat)

@[reducible] def Call.Reply {V : Type} : Call V → Type
  | .cancelled => Bool
  | _ => Except String Unit

/-- A program of a loop.  An error carries the status in memory. -/
abbrev Action (V α : Type) := Prog (Call V) Call.Reply (String × Status V) α

variable {V : Type} [DecidableEq V]

/-- Go on with the answer of a call, or return its error. -/
def answer (status : Status V) : Except String Unit → Action V Unit
  | .ok _ => pure ()
  | .error e => fail (e, status)

/-- The status with another record of a volume. -/
def withTransfer (status : Status V) (volume : V) (transfer : Transfer) : Status V :=
  Function.update status volume transfer

/-- Save a status; on an error `previous` is in memory. -/
def persist (next previous : Status V) : Action V Unit :=
  perform (.save next) >>= answer previous

/-! ## Inside a cluster -/

/-- `errors.Join(copyErr, cleanupErr)`. -/
def joined : Except String Unit → Except String Unit → Option String
  | .error copyErr, .error cleanupErr => some (copyErr ++ "\n" ++ cleanupErr)
  | .error copyErr, .ok _ => some copyErr
  | .ok _, .error cleanupErr => some cleanupErr
  | .ok _, .ok _ => none

/-- The settings of the loop inside a cluster. -/
structure Config where
  retries : Nat
  /-- `isDestinationNoSpaceError` -/
  isDestinationNoSpaceError : String → Bool
  /-- the error that tells what to do about it -/
  capacityError : String → String

variable (config : Config)

/-- The end of an attempt that failed: the error is saved, and decides whether to go on. -/
def afterCopyError (volume : V) (previousError last : String)
    (cleanup : Except String Unit) (status : Status V) : Action V (Status V) := do
  let failed := withTransfer status volume { status volume with lastError := last }
  match ← perform (Call.save failed) with
  | .error e =>
    if ← perform Call.cancelled then fail (last, failed)
    else fail (e, withTransfer status volume { status volume with lastError := previousError })
  | .ok _ =>
    if config.isDestinationNoSpaceError last then fail (config.capacityError last, failed)
    else
      match cleanup with
      | .error _ => fail (last, failed)
      | .ok _ => pure failed

/-- The loop of `copyWithRetry`, with `left` attempts left. -/
def copyWithRetry (config : Config) (volume : V) :
    Nat → Option String → Status V → Action V (Status V)
  | 0, none, status => pure status
  | 0, some last, status => fail (last, status)
  | left + 1, _, status => do
    perform (.validate volume) >>= answer status
    let attempt := (status volume).attempts + 1
    let started := withTransfer status volume
      { status volume with attempts := attempt, lastError := "" }
    persist started status
    let copied ← perform (Call.copy volume attempt)
    let cleanup ← perform (Call.cleanupCopyToolPods volume)
    match joined copied cleanup with
    | none => pure started
    | some last => do
      let failed ← afterCopyError config volume (status volume).lastError last cleanup started
      if left ≠ 0 then perform (.sleep (config.retries - left - 1)) >>= answer failed
      copyWithRetry config volume left (some last) failed

/-- The record of a failure, unless the lease is lost. -/
def recordFailure (e : String × Status V) : Action V (Status V) := do
  match ← perform Call.lease with
  | .error _ => fail e
  | .ok _ => do
    let _ ← perform (Call.save e.2)
    fail e

/-- The body of the loop over the volumes of a workflow: a volume whose copy is recorded is left
out, `checkpointFinalCopy` records a copy. -/
def transferNext (status : Status V) (volume : V) : Action V (Status V) :=
  if (status volume).completed = true then pure status
  else
    (copyWithRetry config volume config.retries none status).handle
      (fun copied => do
        let recorded := withTransfer copied volume
          { copied volume with completed := true, lastError := "" }
        persist recorded copied
        pure recorded)
      recordFailure

/-- A run of a workflow inside a cluster.  A final sync that is repeated drops the records of the
copies (`again`). -/
def inClusterRun (again : Bool) (volumes : List V) (status : Status V) :
    Action V (Status V) := do
  perform .prepare >>= answer status
  let begun : Status V := fun volume =>
    if again then { status volume with completed := false } else status volume
  persist begun status
  let done ← fold (transferNext config) begun volumes
  persist done done
  pure done

/-! ## Between clusters -/

/-- `Service.fail`. -/
def failWith (cause : String) (status : Status V) : Action V (Status V) := do
  match ← perform (Call.save status) with
  | .error e => fail (cause ++ "\n" ++ e, status)
  | .ok _ => fail (cause, status)

/-- The loop over the attempts of a volume in `Service.copy`, with `left` of them left.  The number
of the attempt is counted up in memory. -/
def copyAttempts (volume : V) :
    Nat → Option String → Status V → Action V (Option String × Status V)
  | 0, last, status => pure (last, status)
  | left + 1, _, status => do
    perform .lease >>= answer status
    let attempt := (status volume).attempts + 1
    let counted := withTransfer status volume { status volume with attempts := attempt }
    match ← perform (Call.copy volume attempt) with
    | .error last => copyAttempts volume left (some last) counted
    | .ok _ =>
      match ← perform Call.lease with
      | .error last => copyAttempts volume left (some last) counted
      | .ok _ => pure (none, counted)

/-- The body of the loop over the volumes in `Service.copy`. -/
def copyVolume (retries : Nat) (status : Status V) (volume : V) : Action V (Status V) := do
  match ← perform (Call.validate volume) with
  | .error e => failWith e (withTransfer status volume { status volume with lastError := e })
  | .ok _ =>
    if (status volume).completed = true then pure status
    else do
      let (last, counted) ← copyAttempts volume (max retries 1) none status
      match last with
      | some e => failWith e (withTransfer counted volume { counted volume with lastError := e })
      | none => do
        let recorded := withTransfer counted volume
          { counted volume with completed := true, lastError := "" }
        persist recorded counted
        pure recorded

/-- `Service.copy`.  What it saves before the loop leaves the records of the transfers alone. -/
def crossClusterRun (retries : Nat) (volumes : List V) (status : Status V) :
    Action V (Status V) := do
  perform .lease >>= answer status
  persist status status
  match ← perform Call.prepare with
  | .error e => failWith e status
  | .ok _ => do
    persist status status
    let done ← fold (copyVolume retries) status volumes
    persist done done
    pure done

/-! ## What is observed -/

/-- The status in the store, and the attempts made so far, the last one first. -/
structure History (V : Type) where
  stored : Status V
  calls : List (V × Int)

/-- What a call and its reply do to the history.  A save that ended in an error may have been made;
an attempt has been made however it ended. -/
def observes (h : History V) : (call : Call V) → call.Reply → History V → Prop
  | .save status, r, h' =>
    h' = { h with stored := status } ∨ (∃ e, (r : Except String Unit) = .error e) ∧ h' = h
  | .copy volume attempt, _, h' => h' = { h with calls := (volume, attempt) :: h.calls }
  | _, _, h' => h' = h

def attemptsOf (volume : V) (calls : List (V × Int)) : List Int :=
  (calls.filter fun call => call.1 = volume).map Prod.snd

inductive Loop
  | inCluster
  | crossCluster
  deriving DecidableEq, Repr

/-- A run of a loop, with any settings and any list of volumes, from the status in the store. -/
inductive Loop.Run : Loop → History V → History V → Prop
  | inCluster {config : Config} {again : Bool} {volumes : List V} {h h' : History V}
      {result : Option (Except (String × Status V) (Status V))} :
      (inClusterRun config again volumes h.stored).Runs observes h h' result →
      Loop.Run .inCluster h h'
  | crossCluster {retries : Nat} {volumes : List V} {h h' : History V}
      {result : Option (Except (String × Status V) (Status V))} :
      (crossClusterRun retries volumes h.stored).Runs observes h h' result →
      Loop.Run .crossCluster h h'

/-- Any number of runs of a loop, from a status of which no attempt has been made: the histories
before and after each run, the last run first. -/
inductive Sequence (loop : Loop) (start : Status V) :
    List (History V × History V) → History V → Prop
  | start : Sequence loop start [] ⟨start, []⟩
  | run {steps : List (History V × History V)} {h h' : History V} :
      Sequence loop start steps h → loop.Run h h' → Sequence loop start ((h, h') :: steps) h'

/-! ## Rules -/

section Rules

variable {I : History V → Prop} {E : History V → String × Status V → Prop} {h : History V}
  {status next previous : Status V}

omit [DecidableEq V] in
theorem keeps_answer {r : Except String Unit} (hI : I h) (hE : ∀ e, E h (e, status)) :
    (answer status r).Keeps observes I (fun h' _ => h' = h) E h := by
  cases r with
  | ok a => exact ⟨hI, rfl⟩
  | error e => exact ⟨hI, hE e⟩

omit [DecidableEq V] in
/-- A save that is answered without error has been made; one that is not may have been. -/
theorem keeps_persist (hI : I h) (hnext : I { h with stored := next })
    (hE : ∀ e, E h (e, previous)) (hE' : ∀ e, E { h with stored := next } (e, previous)) :
    (persist next previous).Keeps observes I (fun h' _ => h' = { h with stored := next }) E h := by
  refine keeps_bind.mpr (keeps_perform.mpr ⟨hI, fun r h' hobs => ?_⟩)
  match r with
  | .ok () =>
    obtain rfl : h' = { h with stored := next } := by
      rcases hobs with hsaved | ⟨⟨e, he⟩, -⟩
      · exact hsaved
      · cases he
    exact ⟨hnext, hnext, rfl⟩
  | .error e =>
    rcases hobs with rfl | ⟨-, rfl⟩
    · exact ⟨hnext, hnext, hE' e⟩
    · exact ⟨hI, hI, hE e⟩

end Rules

/-! ## The loop inside a cluster -/

/-- The counters of the status have reached every attempt that was made. -/
def Counted (calls : List (V × Int)) (status : Status V) : Prop :=
  ∀ call ∈ calls, call.2 ≤ (status call.1).attempts

/-- No number was used twice, and the counters in the store have reached all of them. -/
structure Durable (h : History V) : Prop where
  nodup : h.calls.Nodup
  counted : Counted h.calls h.stored

section InCluster

variable {config : Config} {h : History V} {status : Status V} {volume : V} {transfer : Transfer}

theorem Counted.amend {calls : List (V × Int)} (hcounted : Counted calls status)
    (hle : (status volume).attempts ≤ transfer.attempts) :
    Counted calls (withTransfer status volume transfer) := by
  intro call hcall
  have hold := hcounted call hcall
  by_cases hvolume : call.1 = volume
  · rw [withTransfer, hvolume, Function.update_self]
    rw [hvolume] at hold
    omega
  · rw [withTransfer, Function.update_of_ne hvolume]
    exact hold

omit [DecidableEq V] in
theorem Durable.save (hI : Durable h) (hcounted : Counted h.calls status) :
    Durable { h with stored := status } := ⟨hI.nodup, hcounted⟩

omit [DecidableEq V] in
theorem keeps_save {next previous : Status V} (hI : Durable h) (hnext : Counted h.calls next)
    (hprevious : Counted h.calls previous) :
    (persist next previous).Keeps observes Durable (fun h' _ => h' = { h with stored := next })
      (fun h' e => Counted h'.calls e.2) h :=
  keeps_persist hI (hI.save hnext) (fun _ => hprevious) fun _ => hprevious

theorem keeps_afterCopyError {previousError last : String} {cleanup : Except String Unit}
    (hI : Durable h) (hcounted : Counted h.calls status) :
    (afterCopyError config volume previousError last cleanup status).Keeps observes Durable
      (fun h' failed => Counted h'.calls failed) (fun h' e => Counted h'.calls e.2) h := by
  have hfailed (text : String) : Counted h.calls
      (withTransfer status volume { status volume with lastError := text }) :=
    hcounted.amend (Int.le_refl _)
  unfold afterCopyError
  refine Keeps.bind (A := fun h' _ => h'.calls = h.calls) ?_ ?_
  · refine keeps_perform.mpr ⟨hI, fun r h' hobs => ?_⟩
    rcases hobs with rfl | ⟨-, rfl⟩
    · exact ⟨hI.save (hfailed last), rfl⟩
    · exact ⟨hI, rfl⟩
  · intro h' r hI' hcalls
    rw [← hcalls] at hfailed
    match r with
    | .error e =>
      refine (keeps_silent hI' fun _ _ hobs => hobs).bind ?_
      rintro _ cancelled hI' rfl
      exact keeps_ite (fun _ => ⟨hI', hfailed last⟩) fun _ => ⟨hI', hfailed previousError⟩
    | .ok _ =>
      refine keeps_ite (fun _ => ⟨hI', hfailed last⟩) fun _ => ?_
      cases cleanup with
      | error e | ok _ => exact ⟨hI', hfailed last⟩

theorem keeps_copyWithRetry {left : Nat} {last : Option String} (hI : Durable h)
    (hcounted : Counted h.calls status) :
    (copyWithRetry config volume left last status).Keeps observes Durable
      (fun h' copied => Counted h'.calls copied) (fun h' e => Counted h'.calls e.2) h := by
  induction left generalizing last status h with
  | zero =>
    cases last with
    | none | some e => exact ⟨hI, hcounted⟩
  | succ left ih =>
    unfold copyWithRetry
    refine (keeps_silent hI fun _ _ hobs => hobs).bind ?_
    rintro _ valid hI rfl
    refine (keeps_answer hI fun _ => hcounted).bind ?_
    rintro _ _ hI rfl
    have hstarted : Counted _ (withTransfer status volume { status volume with
        attempts := (status volume).attempts + 1, lastError := "" }) :=
      hcounted.amend (Int.le_add_one (Int.le_refl _))
    refine (keeps_save hI hstarted hcounted).bind ?_
    rintro h1 _ hI hsaved
    refine Keeps.bind (A := fun h' _ => Counted h'.calls (withTransfer status volume
      { status volume with attempts := (status volume).attempts + 1, lastError := "" })) ?_ ?_
    · refine keeps_perform.mpr ⟨hI, fun r h' hobs => ?_⟩
      obtain rfl : h' = _ := hobs
      subst hsaved
      have hreached : ∀ call ∈ (volume, (status volume).attempts + 1) :: _,
          call.2 ≤ (withTransfer status volume { status volume with
            attempts := (status volume).attempts + 1, lastError := "" } call.1).attempts :=
        List.forall_mem_cons.mpr ⟨by simp [withTransfer], hstarted⟩
      refine ⟨⟨List.nodup_cons.mpr ⟨fun hused => ?_, hI.nodup⟩, hreached⟩, hreached⟩
      have hle := hcounted _ hused
      simp only at hle
      omega
    · intro h2 copied hI hcounted
      refine (keeps_silent hI fun _ _ hobs => hobs).bind ?_
      rintro _ cleanup hI rfl
      match joined copied cleanup with
      | none => exact ⟨hI, hcounted⟩
      | some cause =>
        refine (keeps_afterCopyError hI hcounted).bind ?_
        intro h3 failed hI hfailed
        refine keeps_ite (fun _ => ?_) fun _ => ih hI hfailed
        refine (keeps_silent hI fun _ _ hobs => hobs).bind ?_
        rintro _ slept hI rfl
        refine (keeps_answer hI fun _ => hfailed).bind ?_
        rintro _ _ hI rfl
        exact ih hI hfailed

omit [DecidableEq V] in
theorem keeps_recordFailure {e : String × Status V} {A : History V → Status V → Prop}
    (hI : Durable h) (hcounted : Counted h.calls e.2) :
    (recordFailure e).Keeps observes Durable A (fun _ _ => True) h := by
  unfold recordFailure
  refine (keeps_silent hI fun _ _ hobs => hobs).bind ?_
  rintro _ lease hI rfl
  match lease with
  | .error _ => exact ⟨hI, trivial⟩
  | .ok _ =>
    refine keeps_bind.mpr (keeps_perform.mpr ⟨hI, fun r h' hobs => ?_⟩)
    rcases hobs with rfl | ⟨-, rfl⟩
    · exact ⟨hI.save hcounted, hI.save hcounted, trivial⟩
    · exact ⟨hI, hI, trivial⟩

theorem keeps_transferNext (hI : Durable h) (hcounted : Counted h.calls status) :
    (transferNext config status volume).Keeps observes Durable
      (fun h' next => Counted h'.calls next) (fun _ _ => True) h := by
  unfold transferNext
  refine keeps_ite (fun _ => ⟨hI, hcounted⟩) fun _ => ?_
  refine (keeps_copyWithRetry hI hcounted).handle ?_ fun _ _ hI hmemory =>
    keeps_recordFailure hI hmemory
  intro h' copied hI hcopied
  have hrecorded : Counted h'.calls (withTransfer copied volume
      { copied volume with completed := true, lastError := "" }) :=
    hcopied.amend (Int.le_refl _)
  refine Keeps.bind ((keeps_save hI hrecorded hcopied).imp (fun _ _ _ hsaved => hsaved)
    fun _ _ _ _ => trivial) ?_
  rintro _ _ hI rfl
  exact ⟨hI, hrecorded⟩

theorem durable_inClusterRun {again : Bool} {volumes : List V} (hI : Durable h) :
    (inClusterRun config again volumes h.stored).Keeps observes Durable (fun _ _ => True)
      (fun _ _ => True) h := by
  unfold inClusterRun
  refine (keeps_silent hI fun _ _ hobs => hobs).bind ?_
  rintro _ prepared hI rfl
  refine (keeps_answer hI fun _ => trivial).bind ?_
  rintro h1 _ hI rfl
  have hbegun : Counted h1.calls (fun volume =>
      if again then { h1.stored volume with completed := false } else h1.stored volume) := by
    intro call hcall
    have hold := hI.counted call hcall
    cases again <;> exact hold
  refine Keeps.bind ((keeps_save hI hbegun hI.counted).imp (fun _ _ _ hsaved => hsaved)
    fun _ _ _ _ => trivial) ?_
  rintro _ _ hI rfl
  refine Keeps.bind (keeps_fold (L := fun _ h' next => Counted h'.calls next)
    (fun _ _ _ _ hI hcounted => keeps_transferNext hI hcounted) hI hbegun) ?_
  intro h2 done hI hdone
  refine Keeps.bind ((keeps_save hI hdone hdone).imp (fun _ _ _ hsaved => hsaved)
    fun _ _ _ _ => trivial) ?_
  rintro _ _ hI -
  exact ⟨hI, trivial⟩

end InCluster

/-! ## The loop between clusters -/

/-- The numbers after `n`, as many as `k`, the last one first. -/
def numbered (n : Int) : Nat → List Int
  | 0 => []
  | k + 1 => (n + k + 1) :: numbered n k

theorem mem_numbered {n a : Int} {k : Nat} : a ∈ numbered n k ↔ n < a ∧ a ≤ n + k := by
  induction k with
  | zero =>
    simp only [numbered, List.not_mem_nil, false_iff]
    omega
  | succ k ih =>
    rw [numbered, List.mem_cons, ih]
    omega

theorem nodup_numbered (n : Int) (k : Nat) : (numbered n k).Nodup := by
  induction k with
  | zero => exact List.nodup_nil
  | succ k ih =>
    refine List.nodup_cons.mpr ⟨fun hmem => ?_, ih⟩
    have hle := mem_numbered.mp hmem
    omega

/-- Of each volume the next numbers after those of the status `origin` have been used, on top of the
calls `before`: `count` of them. -/
def Advanced (origin : Status V) (before : List (V × Int)) (count : V → Nat)
    (calls : List (V × Int)) : Prop :=
  ∀ volume, attemptsOf volume calls
    = numbered (origin volume).attempts (count volume) ++ attemptsOf volume before

/-- A run from the status `origin` is under way: the status in the store is between that and the
numbers in use. -/
structure Underway (origin : Status V) (before : List (V × Int)) (h : History V) : Prop where
  advanced : ∃ count, Advanced origin before count h.calls ∧ ∀ volume,
    (origin volume).attempts ≤ (h.stored volume).attempts ∧
      (h.stored volume).attempts ≤ (origin volume).attempts + count volume

/-- The counters in memory are those of the last attempts. -/
def Current (origin : Status V) (before : List (V × Int)) (calls : List (V × Int))
    (status : Status V) : Prop :=
  ∃ count, Advanced origin before count calls ∧
    ∀ volume, (status volume).attempts = (origin volume).attempts + count volume

section CrossCluster

variable {origin status : Status V} {before : List (V × Int)} {h : History V} {volume : V}
  {calls : List (V × Int)}

theorem Current.amend {transfer : Transfer} (hcurrent : Current origin before calls status)
    (hattempts : transfer.attempts = (status volume).attempts) :
    Current origin before calls (withTransfer status volume transfer) := by
  obtain ⟨count, hadvanced, hcount⟩ := hcurrent
  refine ⟨count, hadvanced, fun other => ?_⟩
  by_cases hvolume : other = volume
  · rw [withTransfer, hvolume, Function.update_self, hattempts]
    exact hcount volume
  · rw [withTransfer, Function.update_of_ne hvolume]
    exact hcount other

theorem Current.underway (hcurrent : Current origin before h.calls status) :
    Underway origin before { h with stored := status } := by
  obtain ⟨count, hadvanced, hcount⟩ := hcurrent
  refine ⟨count, hadvanced, fun other => ?_⟩
  have hother := hcount other
  simp only
  omega

theorem keeps_crossSave {next previous : Status V} (hI : Underway origin before h)
    (hnext : Current origin before h.calls next) :
    (persist next previous).Keeps observes (Underway origin before)
      (fun h' _ => h' = { h with stored := next }) (fun _ _ => True) h :=
  keeps_persist hI hnext.underway (fun _ => trivial) fun _ => trivial

theorem keeps_failWith {cause : String} {A : History V → Status V → Prop}
    (hI : Underway origin before h) (hcurrent : Current origin before h.calls status) :
    (failWith cause status).Keeps observes (Underway origin before) A (fun _ _ => True) h := by
  unfold failWith
  refine Keeps.bind (A := fun _ _ => True) ?_ ?_
  · refine keeps_perform.mpr ⟨hI, fun r h' hobs => ?_⟩
    rcases hobs with rfl | ⟨-, rfl⟩
    · exact ⟨hcurrent.underway, trivial⟩
    · exact ⟨hI, trivial⟩
  · intro h' r hI' _
    match r with
    | .error e | .ok _ => exact ⟨hI', trivial⟩

theorem attemptsOf_cons (other : V) (attempt : Int) (calls : List (V × Int)) :
    attemptsOf other ((volume, attempt) :: calls)
      = if volume = other then attempt :: attemptsOf other calls else attemptsOf other calls := by
  by_cases hvolume : volume = other <;> simp [attemptsOf, hvolume]

theorem Advanced.attempt {count : V → Nat} {number : Int}
    (hadvanced : Advanced origin before count calls)
    (hnumber : number = (origin volume).attempts + count volume + 1) :
    Advanced origin before (Function.update count volume (count volume + 1))
      ((volume, number) :: calls) := by
  intro other
  rw [attemptsOf_cons]
  by_cases hvolume : volume = other
  · subst hvolume
    rw [if_pos rfl, Function.update_self, numbered, hadvanced volume, List.cons_append, hnumber]
  · rw [if_neg hvolume, Function.update_of_ne (Ne.symm hvolume)]
    exact hadvanced other

theorem length_numbered (n : Int) (k : Nat) : (numbered n k).length = k := by
  induction k with
  | zero => rfl
  | succ k ih => rw [numbered, List.length_cons, ih]

theorem Advanced.unique {count count' : V → Nat} (hadvanced : Advanced origin before count calls)
    (hadvanced' : Advanced origin before count' calls) : count = count' := by
  funext other
  have hlength := congrArg List.length ((hadvanced other).symm.trans (hadvanced' other))
  simp only [List.length_append, length_numbered] at hlength
  omega

section

variable (hI : Underway origin before h) (hcurrent : Current origin before h.calls status)
include hI hcurrent

theorem keeps_attempt :
    (perform (Call.copy volume ((status volume).attempts + 1)) :
        Action V (Except String Unit)).Keeps observes (Underway origin before)
      (fun h' _ => Current origin before h'.calls (withTransfer status volume
        { status volume with attempts := (status volume).attempts + 1 }))
      (fun _ _ => True) h := by
  refine keeps_perform.mpr ⟨hI, fun r h' hobs => ?_⟩
  obtain rfl : h' = _ := hobs
  obtain ⟨count, hadvanced, hcount⟩ := hcurrent
  obtain ⟨count', hadvanced', hstored⟩ := hI.advanced
  obtain rfl := hadvanced.unique hadvanced'
  have hnext : Advanced origin before (Function.update count volume (count volume + 1))
      ((volume, (status volume).attempts + 1) :: h.calls) :=
    hadvanced.attempt (by rw [hcount volume])
  refine ⟨⟨_, hnext, fun other => ?_⟩, _, hnext, fun other => ?_⟩
  · have hother := hstored other
    by_cases hvolume : other = volume
    · subst hvolume
      rw [Function.update_self]
      push_cast
      omega
    · rw [Function.update_of_ne hvolume]
      exact hother
  · by_cases hvolume : other = volume
    · subst hvolume
      rw [withTransfer, Function.update_self, Function.update_self, hcount other]
      push_cast
      omega
    · rw [withTransfer, Function.update_of_ne hvolume, Function.update_of_ne hvolume]
      exact hcount other

theorem keeps_copyAttempts {left : Nat} {last : Option String} :
    (copyAttempts volume left last status).Keeps observes (Underway origin before)
      (fun h' done => Current origin before h'.calls done.2) (fun _ _ => True) h := by
  induction left generalizing last status h with
  | zero => exact ⟨hI, hcurrent⟩
  | succ left ih =>
    unfold copyAttempts
    refine (keeps_silent hI fun _ _ hobs => hobs).bind ?_
    rintro _ lease hI rfl
    refine (keeps_answer hI fun _ => trivial).bind ?_
    rintro _ _ hI rfl
    refine (keeps_attempt hI hcurrent).bind ?_
    intro h1 copied hI hcounted
    match copied with
    | .error e => exact ih hI hcounted
    | .ok _ =>
      refine (keeps_silent hI fun _ _ hobs => hobs).bind ?_
      rintro _ lease hI rfl
      match lease with
      | .error e => exact ih hI hcounted
      | .ok _ => exact ⟨hI, hcounted⟩

theorem keeps_copyVolume {retries : Nat} :
    (copyVolume retries status volume).Keeps observes (Underway origin before)
      (fun h' next => Current origin before h'.calls next) (fun _ _ => True) h := by
  unfold copyVolume
  refine (keeps_silent hI fun _ _ hobs => hobs).bind ?_
  rintro _ valid hI rfl
  match valid with
  | .error e => exact keeps_failWith hI (hcurrent.amend rfl)
  | .ok _ =>
    refine keeps_ite (fun _ => ⟨hI, hcurrent⟩) fun _ => ?_
    refine (keeps_copyAttempts hI hcurrent).bind ?_
    rintro h1 ⟨last, counted⟩ hI hcounted
    match last with
    | some e => exact keeps_failWith hI (hcounted.amend rfl)
    | none =>
      have hrecorded : Current origin before h1.calls (withTransfer counted volume
          { counted volume with completed := true, lastError := "" }) := hcounted.amend rfl
      refine Keeps.bind (keeps_crossSave hI hrecorded) ?_
      rintro _ _ hI rfl
      exact ⟨hI, hrecorded⟩

end

/-- A run between clusters uses the next numbers after those of the status it starts from. -/
theorem underway_crossClusterRun {retries : Nat} {volumes : List V} :
    (crossClusterRun retries volumes h.stored).Keeps observes (Underway h.stored h.calls)
      (fun _ _ => True) (fun _ _ => True) h := by
  have hcurrent : Current h.stored h.calls h.calls h.stored :=
    ⟨fun _ => 0, fun _ => rfl, fun _ => by simp⟩
  have hI : Underway h.stored h.calls h := hcurrent.underway
  unfold crossClusterRun
  refine (keeps_silent hI fun _ _ hobs => hobs).bind ?_
  rintro _ lease hI rfl
  refine (keeps_answer hI fun _ => trivial).bind ?_
  rintro _ _ hI rfl
  refine (keeps_crossSave hI hcurrent).bind ?_
  rintro _ _ hI rfl
  refine (keeps_silent hI fun _ _ hobs => hobs).bind ?_
  rintro _ prepared hI rfl
  match prepared with
  | .error e => exact keeps_failWith hI hcurrent
  | .ok _ =>
    refine (keeps_crossSave hI hcurrent).bind ?_
    rintro _ _ hI rfl
    refine Keeps.bind (keeps_fold (L := fun _ h' next => Current _ _ h'.calls next)
      (fun _ _ _ _ hI hnext => keeps_copyVolume hI hnext) hI hcurrent) ?_
    intro h2 done hI hdone
    refine (keeps_crossSave hI hdone).bind ?_
    rintro _ _ hI -
    exact ⟨hI, trivial⟩

end CrossCluster

/-! ## Any number of runs -/

section Sequences

variable {start : Status V} {h h' : History V} {volume : V}

theorem mem_attemptsOf {attempt : Int} {calls : List (V × Int)} :
    attempt ∈ attemptsOf volume calls ↔ (volume, attempt) ∈ calls := by
  simp [attemptsOf]

theorem nodup_calls_iff {calls : List (V × Int)} :
    calls.Nodup ↔ ∀ volume, (attemptsOf volume calls).Nodup := by
  induction calls with
  | nil => simp [attemptsOf]
  | cons call calls ih =>
    obtain ⟨volume, attempt⟩ := call
    rw [List.nodup_cons, ih]
    constructor
    · rintro ⟨hfresh, hrest⟩ other
      rw [attemptsOf_cons]
      by_cases hvolume : volume = other
      · subst hvolume
        rw [if_pos rfl, List.nodup_cons, mem_attemptsOf]
        exact ⟨hfresh, hrest volume⟩
      · rw [if_neg hvolume]
        exact hrest other
    · intro hall
      refine ⟨fun hmem => ?_, fun other => ?_⟩
      · have hhead := hall volume
        rw [attemptsOf_cons, if_pos rfl, List.nodup_cons, mem_attemptsOf] at hhead
        exact hhead.1 hmem
      · have hother := hall other
        rw [attemptsOf_cons] at hother
        split at hother
        · exact (List.nodup_cons.mp hother).2
        · exact hother

/-- The numbers used between clusters are those from the start up to the highest one, and the status
in the store has not fallen behind the start. -/
def Filled (start : Status V) (h : History V) : Prop :=
  ∀ volume, ∃ top, (start volume).attempts ≤ (h.stored volume).attempts ∧
    (h.stored volume).attempts ≤ top ∧
    ∀ attempt, attempt ∈ attemptsOf volume h.calls ↔ (start volume).attempts < attempt ∧
      attempt ≤ top

theorem Filled.run (hfilled : Filled start h) (hrun : Underway h.stored h.calls h') :
    Filled start h' := by
  obtain ⟨count, hadvanced, hstored⟩ := hrun.advanced
  intro volume
  obtain ⟨top, hstart, htop, hused⟩ := hfilled volume
  have hbounds := hstored volume
  refine ⟨max top ((h.stored volume).attempts + count volume), by omega, by omega,
    fun attempt => ?_⟩
  rw [hadvanced volume, List.mem_append, mem_numbered, hused]
  omega

/-- A run that makes an attempt of a volume finds the numbers of the earlier ones saved. -/
def FindsSaved (volume : V) (step : History V × History V) : Prop :=
  attemptsOf volume step.2.calls ≠ attemptsOf volume step.1.calls →
    ∀ attempt ∈ attemptsOf volume step.1.calls, attempt ≤ (step.1.stored volume).attempts

/-- One run between clusters: its numbers are new exactly if the earlier ones were saved. -/
theorem nodup_run_iff (hfilled : Filled start h) (hrun : Underway h.stored h.calls h') :
    (attemptsOf volume h'.calls).Nodup ↔
      (attemptsOf volume h.calls).Nodup ∧ FindsSaved volume (h, h') := by
  obtain ⟨count, hadvanced, -⟩ := hrun.advanced
  obtain ⟨top, hstart, -, hused⟩ := hfilled volume
  have hcalls := hadvanced volume
  unfold FindsSaved
  simp only
  by_cases hnone : count volume = 0
  · rw [hnone, numbered, List.nil_append] at hcalls
    simp [hcalls]
  · have hmore : attemptsOf volume h'.calls ≠ attemptsOf volume h.calls := by
      intro heq
      have hlength := congrArg List.length (hcalls.symm.trans heq)
      rw [List.length_append, length_numbered] at hlength
      omega
    rw [hcalls, List.nodup_append]
    constructor
    · rintro ⟨-, hold, hapart⟩
      refine ⟨hold, fun _ attempt hattempt => ?_⟩
      by_contra hunsaved
      -- The run starts with the number after the saved one, which has been used before.
      have hfirst : (h.stored volume).attempts + 1 ∈
          numbered (h.stored volume).attempts (count volume) := mem_numbered.mpr (by omega)
      have hbefore := (hused attempt).mp hattempt
      exact hapart _ hfirst _ ((hused _).mpr (by omega)) rfl
    · rintro ⟨hold, hsaved⟩
      refine ⟨nodup_numbered _ _, hold, fun attempt hnew attempt' hbefore heq => ?_⟩
      have hle := hsaved (hcalls ▸ hmore) attempt' hbefore
      have hgt := mem_numbered.mp hnew
      omega

theorem Loop.Run.durable (hI : Durable h) (hrun : Loop.Run .inCluster h h') : Durable h' := by
  cases hrun with
  | inCluster hruns => exact (durable_inClusterRun hI).invariant hruns

theorem Loop.Run.underway (hrun : Loop.Run .crossCluster h h') :
    Underway h.stored h.calls h' := by
  cases hrun with
  | crossCluster hruns => exact underway_crossClusterRun.invariant hruns

theorem durable_of_sequence {steps : List (History V × History V)}
    (hsequence : Sequence .inCluster start steps h) : Durable h := by
  induction hsequence with
  | start => exact ⟨List.nodup_nil, fun _ hcall => absurd hcall List.not_mem_nil⟩
  | run _ hrun ih => exact hrun.durable ih

theorem filled_of_sequence {steps : List (History V × History V)}
    (hsequence : Sequence .crossCluster start steps h) : Filled start h := by
  induction hsequence with
  | start =>
    intro volume
    refine ⟨(start volume).attempts, Int.le_refl _, Int.le_refl _, fun attempt => ?_⟩
    simp only [attemptsOf, List.filter_nil, List.map_nil, List.not_mem_nil, false_iff]
    omega
  | run _ hrun ih => exact ih.run hrun.underway

/-- Inside a cluster, no two attempts of a volume have one name. -/
theorem operationIDs_nodup {digest : Text → Text} {request : AttemptIdentity}
    {steps : List (History V × History V)} (hsequence : Sequence .inCluster start steps h)
    (hdigest : Set.InjOn digest { t | ∃ n ∈ attemptsOf volume h.calls, request.text n = t }) :
    ((attemptsOf volume h.calls).map fun n =>
      operationID digest { request with attempt := n }).Nodup :=
  nodup_operationIDs hdigest (nodup_calls_iff.mp (durable_of_sequence hsequence).nodup volume)

/-- **Attempt numbers.**  Over any number of runs, each of which may be killed at any call, no
attempt number of a volume is used twice: inside a cluster always, and between clusters if and only
if every run that makes an attempt of a volume finds the numbers of its earlier attempts saved. -/
theorem attempts_nodup_iff {loop : Loop} {steps : List (History V × History V)}
    (hsequence : Sequence loop start steps h) :
    h.calls.Nodup ↔
      (loop = .crossCluster → ∀ step ∈ steps, ∀ volume, FindsSaved volume step) := by
  cases loop with
  | inCluster =>
    have hnodup := (durable_of_sequence hsequence).nodup
    simp [hnodup]
  | crossCluster =>
    simp only [true_imp_iff]
    induction hsequence with
    | start => simp
    | run hsequence hrun ih =>
      rw [List.forall_mem_cons, nodup_calls_iff,
        forall_congr' fun _ => nodup_run_iff (filled_of_sequence hsequence) hrun.underway,
        forall_and, ← nodup_calls_iff, ih]
      exact and_comm

end Sequences

/-! ## A copy that is killed -/

section Sample

def fresh : Status Unit := fun _ => {}

def succeed : (call : Call Unit) → History Unit → call.Reply × History Unit
  | .save status, h => (.ok (), { h with stored := status })
  | .copy volume attempt, h => (.ok (), { h with calls := (volume, attempt) :: h.calls })
  | .cancelled, h => (false, h)
  | .prepare, h | .lease, h | .validate _, h | .cleanupCopyToolPods _, h | .sleep _, h =>
    (.ok (), h)

theorem observes_succeed (call : Call Unit) (h : History Unit) :
    observes h call (succeed call h).1 (succeed call h).2 := by
  cases call with
  | save status => exact .inl rfl
  | _ => rfl

/-- A copy between clusters is killed during its first attempt, after its lease, its preparation and
its validation: nothing of the attempt is in the store. -/
theorem run_killed (calls : List (Unit × Int)) :
    Loop.Run .crossCluster ⟨fresh, calls⟩ ⟨fresh, ((), 1) :: calls⟩ := by
  have hstop : (stops succeed (crossClusterRun 1 [()] fresh) ⟨fresh, calls⟩)[7]?
      = some ⟨fresh, ((), 1) :: calls⟩ := rfl
  exact .crossCluster (runs_of_mem_stops observes_succeed (List.mem_of_getElem? hstop))

/-- Two copies, both killed during their first attempt. -/
def killedTwice : List (History Unit × History Unit) :=
  [(⟨fresh, [((), 1)]⟩, ⟨fresh, [((), 1), ((), 1)]⟩), (⟨fresh, []⟩, ⟨fresh, [((), 1)]⟩)]

theorem sequence_killedTwice :
    Sequence .crossCluster fresh killedTwice ⟨fresh, [((), 1), ((), 1)]⟩ :=
  .run (.run .start (run_killed [])) (run_killed [((), 1)])

/-- The second copy uses the number of the first one again. -/
theorem killed_copy_repeats_attempt :
    Sequence .crossCluster fresh killedTwice ⟨fresh, [((), 1), ((), 1)]⟩ ∧
      ¬ ([((), 1), ((), 1)] : List (Unit × Int)).Nodup :=
  ⟨sequence_killedTwice, by decide⟩

/-- The equivalence for the two copies: the second one does not find the number saved. -/
theorem killed_copy_nodup_iff :
    ([((), 1), ((), 1)] : List (Unit × Int)).Nodup ↔
      (Loop.crossCluster = .crossCluster →
        ∀ step ∈ killedTwice, ∀ volume, FindsSaved volume step) :=
  attempts_nodup_iff sequence_killedTwice

end Sample

end CopyAttempts

end PvcMigrate
