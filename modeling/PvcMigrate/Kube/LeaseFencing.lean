import Mathlib.Data.Fintype.Basic
import Mathlib.Logic.Function.Basic
import PvcMigrate.Kube.SessionLease

/-!
# Fencing by session leases

Any number of processes call `acquireWorkflowLease` for one Lease, and whoever gets it renews it in
`renewLoop` (`kube/session_lease.go`).  A holder gives up when its renewals fail; the others take
the Lease over once it has expired.  The first is decided by the holder's own clock readings, the
second by the `renewTime` stored in the object, so that the two never overlap is a matter of timing.

Here the parties share a clock.  A step is the passing of time, or one thing that one party does:
a call arrives at the server, an answer arrives at the caller, a clock is read.  A call may fail
for its caller and have taken effect.  The server compares resource versions on an update.

The renewals started by a tick go on until one period of the Lease after the tick.  At that time
the Lease has been expired for a while: it was renewed at the tick before.
-/

namespace PvcMigrate

namespace Kube

namespace Fencing

/-! ## The parties -/

/-- The processes that call `acquireWorkflowLease`, with their arguments.  The holder identity of
each is a UUID of its own. -/
structure Parties (ι : Type) where
  sessionID : ι → String
  duration : ι → Duration
  renewEvery : ι → Duration
  holder : ι → String
  holder_injective : Function.Injective holder
  holder_ne_empty : ∀ i, holder i ≠ ""

namespace Parties

variable {ι : Type} (p : Parties ι) (i : ι)

def timing : Duration × Duration := normalizeLeaseTiming (p.duration i) (p.renewEvery i)

/-- The `LeaseDurationSeconds` it stores. -/
def durationSeconds : Int := leaseDurationSeconds (p.timing i).1

/-- The timing of the lock: `newSessionLeaseWithTiming` normalizes it once more. -/
def lockTiming : Duration × Duration := normalizeLeaseTiming (p.timing i).1 (p.timing i).2

def period : Duration := (p.lockTiming i).2

end Parties

/-- `metav1.MicroTime`: a time is stored to the microsecond. -/
def microTime (t : Time) : Time := t - t % 1000

/-- Where `renewLoop` is.  `due` is when the ticker fires next; `since` is when the loop went back
to waiting; `ticked` is when the tick was received that started the round of renewals. -/
inductive Loop
  /-- The goroutine is about to create its ticker. -/
  | starting
  | waiting (due since : Time)
  /-- About to read the Lease. -/
  | renewing (due ticked : Time)
  /-- The Lease was read and is owned. -/
  | checked (due ticked : Time) (read : Lease)
  /-- About to write it with a new `renewTime`. -/
  | updating (due ticked : Time) (read : Lease) (stamp : Time)
  | sleeping (due ticked wakeAt : Time)
  | stopped

/-- Where a party is.  `started` is the time it read at the start; `left` is the number of rounds of
the loop that are left; `written` is the Lease as the holder last wrote it with success. -/
inductive Party
  | idle
  /-- About to read the Lease. -/
  | reading (left : Nat) (started : Time)
  | creating (left : Nat) (started : Time)
  /-- The Lease was read, and is about to be tested. -/
  | judging (started : Time) (read : Lease)
  /-- About to take it over. -/
  | claiming (started : Time) (read : Lease)
  /-- `acquireWorkflowLease` returned an error. -/
  | refused
  | holding (lock : SessionLease) (written : Lease) (started : Time) (loop : Loop)

/-- The clock, the Lease as the server has it, and the number it gives out next, for a version or a
UID. -/
structure Server where
  now : Time
  lease : Option Lease
  nextVersion : Nat

/-- The server and the parties. -/
structure World (ι : Type) extends Server where
  party : ι → Party

/-- How a write ends: the answer arrives, or it takes effect but the caller sees an error, or
neither. -/
inductive Outcome
  | answered
  | applied
  | dropped
  deriving DecidableEq

/-- A step. -/
inductive Event (ι : Type)
  | advance (d : Nat)
  | call (i : ι)
  | acquireRead (i : ι) (answered : Bool)
  | judge (i : ι)
  | create (i : ι) (outcome : Outcome)
  | claim (i : ι) (outcome : Outcome)
  | startLoop (i : ι)
  | tick (i : ι)
  | renewRead (i : ι) (answered : Bool)
  | stamp (i : ι)
  | renewWrite (i : ι) (outcome : Outcome)
  | wake (i : ι)
  | cancel (i : ι)

/-- A Lease with the version it is stored under. -/
def Server.versioned (s : Server) (lease : Lease) : Lease :=
  { lease with resourceVersion := s.nextVersion }

/-- The server stores a Lease under a new version. -/
def Server.store (s : Server) (lease : Lease) : Server :=
  { s with lease := some (s.versioned lease), nextVersion := s.nextVersion + 1 }

/-- An update of a Lease that was read meets no conflict. -/
def Server.current (s : Server) (read : Lease) : Bool :=
  match s.lease with
  | some stored => stored.uid == read.uid && stored.resourceVersion == read.resourceVersion
  | none => false

section Step

variable {ι : Type} [DecidableEq ι] (p : Parties ι)

def World.set (w : World ι) (i : ι) (party : Party) : World ι :=
  { w with party := Function.update w.party i party }

def World.store (w : World ι) (lease : Lease) : World ι :=
  { w with toServer := w.toServer.store lease }

variable (i : ι)

/-- The Lease that `acquireWorkflowLease` creates. -/
def Parties.newLease (started : Time) (uid : UID) : Lease :=
  { uid
    resourceVersion := 0
    labels := StringMap.set (StringMap.set (fun _ => none) managedByLabel managedByValue)
      sessionKey (p.sessionID i)
    holderIdentity := some (p.holder i)
    leaseDurationSeconds := some (p.durationSeconds i)
    acquireTime := some (microTime started)
    renewTime := some (microTime started)
    leaseTransitions := some 1 }

/-- The Lease as `acquireWorkflowLease` takes it over. -/
def Parties.claimedLease (started : Time) (read : Lease) : Lease :=
  { read with
    holderIdentity := some (p.holder i)
    leaseDurationSeconds := some (p.durationSeconds i)
    acquireTime := some (microTime started)
    renewTime := some (microTime started)
    leaseTransitions := some (match read.leaseTransitions with | some n => n + 1 | none => 1) }

def Parties.lock (uid : UID) : SessionLease :=
  { sessionID := p.sessionID i, holder := p.holder i, uid }

def held (lease : Lease) : Bool :=
  match lease.holderIdentity with
  | some holder => holder != ""
  | none => false

/-- `acquireWorkflowLease` does not take over a Lease like this. -/
def Parties.refuses (lease : Lease) (now : Time) : Bool :=
  lease.uid == none || lease.labels.get managedByLabel != managedByValue ||
    lease.labels.get sessionKey != p.sessionID i ||
    (held lease && !sessionLeaseExpired lease now)

def markLost (lock : SessionLease) (e : Error) : SessionLease :=
  { lock with err := lock.err <|> some e }

def renewError (category : ErrorCategory) (message : String) : Error :=
  ⟨category, "renew session lock", message⟩

/-- A renewal failed: the lock is lost for good, or the next attempt follows after a second. -/
def Parties.failAttempt (now : Time) (lock : SessionLease) (written : Lease)
    (started due ticked : Time) (e : Error) : Party :=
  if e.category = .conflict ∨ ticked + (p.lockTiming i).1 < now then
    .holding (markLost lock e) written started .stopped
  else .holding lock written started (.sleeping due ticked (now + seconds 1))

/-- When a ticker fires next that was received at `now`. -/
def nextDue (period due now : Time) : Time := due + period * ((now - due) / period + 1)

def step (w : World ι) : Event ι → World ι
  | .advance d => { w with now := w.now + d }
  | .call i =>
    match w.party i with
    | .idle => w.set i (if p.sessionID i = "" then .refused else .reading 2 w.now)
    | _ => w
  | .acquireRead i answered =>
    match w.party i with
    | .reading left started => w.set i <|
      if answered = false then .refused
      else match w.lease with
        | none => .creating left started
        | some lease => .judging started lease
    | _ => w
  | .judge i =>
    match w.party i with
    | .judging started read =>
      w.set i (if p.refuses i read w.now = true then .refused else .claiming started read)
    | _ => w
  | .create i outcome =>
    match w.party i with
    | .creating left started =>
      let lease := p.newLease i started (some w.nextVersion)
      match w.lease, outcome with
      | some _, .answered => w.set i (if left ≤ 1 then .refused else .reading (left - 1) started)
      | some _, _ => w.set i .refused
      | none, .answered =>
        (w.store lease).set i
          (.holding (p.lock i lease.uid) (w.versioned lease) started .starting)
      | none, .applied => (w.store lease).set i .refused
      | none, .dropped => w.set i .refused
    | _ => w
  | .claim i outcome =>
    match w.party i with
    | .claiming started read =>
      let lease := p.claimedLease i started read
      match w.current read, outcome with
      | true, .answered => (w.store lease).set i
          (.holding (p.lock i lease.uid) (w.versioned lease) started .starting)
      | true, .applied => (w.store lease).set i .refused
      | _, _ => w.set i .refused
    | _ => w
  | .startLoop i =>
    match w.party i with
    | .holding lock written started .starting =>
      w.set i (.holding lock written started (.waiting (w.now + p.period i) w.now))
    | _ => w
  | .tick i =>
    match w.party i with
    | .holding lock written started (.waiting due _) =>
      if due ≤ w.now then
        w.set i (.holding lock written started (.renewing (nextDue (p.period i) due w.now) w.now))
      else w
    | _ => w
  | .renewRead i answered =>
    match w.party i with
    | .holding lock written started (.renewing due ticked) => w.set i <|
      if answered = false then
        p.failAttempt i w.now lock written started due ticked
          (renewError .kubernetes "read session Lease")
      else match w.lease with
        | none => p.failAttempt i w.now lock written started due ticked
            (renewError .conflict "session lock disappeared")
        | some lease =>
          if lock.owns lease then .holding lock written started (.checked due ticked lease)
          else p.failAttempt i w.now lock written started due ticked
            (renewError .conflict "session lock ownership was fenced")
    | _ => w
  | .stamp i =>
    match w.party i with
    | .holding lock written started (.checked due ticked read) =>
      w.set i (.holding lock written started (.updating due ticked read (microTime w.now)))
    | _ => w
  | .renewWrite i outcome =>
    match w.party i with
    | .holding lock written started (.updating due ticked read stamp) =>
      let lease := { read with renewTime := some stamp }
      let failed := p.failAttempt i w.now lock written started due ticked
        (renewError .kubernetes "update session Lease")
      match w.current read, outcome with
      | true, .answered => (w.store lease).set i
          (.holding lock (w.versioned lease) started (.waiting due w.now))
      | true, .applied => (w.store lease).set i failed
      | false, .answered => w.set i <|
          if w.lease.isNone then failed
          else p.failAttempt i w.now lock written started due ticked
            (renewError .conflict "session lock resourceVersion changed")
      | _, _ => w.set i failed
    | _ => w
  | .wake i =>
    match w.party i with
    | .holding lock written started (.sleeping due ticked wakeAt) =>
      if wakeAt ≤ w.now then w.set i (.holding lock written started (.renewing due ticked)) else w
    | _ => w
  | .cancel i =>
    match w.party i with
    | .holding lock written started _ => w.set i (.holding lock written started .stopped)
    | _ => w

end Step

/-! ## Timely runs -/

section Bounds

variable {ι : Type} (p : Parties ι)

/-- How long the parties may take: `acquire` from the start of an acquisition to the first ticker,
`late` from when a tick could be received to when it is, `round` from a tick to the decision on it.
Together they stay within the duration of the Lease; a microsecond is lost to rounding. -/
structure Bounds where
  acquire : ι → Duration
  late : ι → Duration
  round : ι → Duration
  acquire_nonneg : ∀ i, 0 ≤ acquire i
  late_nonneg : ∀ i, 0 ≤ late i
  round_nonneg : ∀ i, 0 ≤ round i
  fits : ∀ i, max (acquire i + p.period i) (round i) + late i + round i + 1000 ≤
    seconds (p.durationSeconds i)

variable {p} (b : Bounds p)

/-- How long after a renewal the next tick can be received at the latest, but for its lateness. -/
def Bounds.window (i : ι) : Duration := max (b.acquire i + p.period i) (b.round i)

def Bounds.limit (i : ι) : Party → Option Time
  | .reading _ started | .creating _ started | .judging started _ | .claiming started _ =>
    some (started + b.acquire i)
  | .idle | .refused => none
  | .holding lock _ started loop =>
    if lock.err ≠ none then none
    else match loop with
      | .starting => some (started + b.acquire i)
      | .waiting due since => some (max due since + b.late i)
      | .renewing _ ticked | .checked _ ticked _ | .updating _ ticked _ _ | .sleeping _ ticked _ =>
        some (ticked + b.round i)
      | .stopped => none

/-- Time passes only as far as every party's limit, and no lock is given up by its own side. -/
def Timely (w : World ι) : Event ι → Prop
  | .advance d => ∀ i, ∀ t ∈ b.limit i (w.party i), w.now + d ≤ t
  | .cancel _ => False
  | _ => True

instance [Fintype ι] (w : World ι) : ∀ event, Decidable (Timely b w event)
  | .advance d => inferInstanceAs (Decidable (∀ i, ∀ t ∈ b.limit i (w.party i), w.now + d ≤ t))
  | .cancel _ => inferInstanceAs (Decidable False)
  | .call _ | .acquireRead _ _ | .judge _ | .create _ _ | .claim _ _ | .startLoop _ | .tick _
  | .renewRead _ _ | .stamp _ | .renewWrite _ _ | .wake _ => inferInstanceAs (Decidable True)

end Bounds

/-! ## What a lock stands for -/

section Fenced

variable {ι : Type} (w : World ι)

def Live (i : ι) (written : Lease) : Prop :=
  ∃ lock started loop, w.party i = .holding lock written started loop ∧ lock.err = none

/-- Whoever's lock reports no error has a Lease that has not expired, and there is one at most. -/
def Fenced : Prop :=
  (∀ i written, Live w i written → sessionLeaseExpired written w.now = false) ∧
    ∀ i j written written', Live w i written → Live w j written' → i = j

def Initial : Prop :=
  (∀ i, w.party i = .idle) ∧ ∀ lease ∈ w.lease, lease.resourceVersion < w.nextVersion

end Fenced

/-! ## Times -/

theorem le_microTime_add (t : Time) : t ≤ microTime t + 999 := by
  unfold microTime
  lia

theorem microTime_mono {t u : Time} (h : t ≤ u) : microTime t ≤ microTime u := by
  unfold microTime
  lia

variable {now : Time}

theorem nextDue_le {period due : Time} (hperiod : 0 < period) :
    nextDue period due now ≤ now + period := by
  have hdivision := Int.mul_ediv_add_emod (now - due) period
  have hrest := Int.emod_nonneg (now - due) (Int.ne_of_gt hperiod)
  have hexpand : nextDue period due now = due + (period * ((now - due) / period) + period) := by
    rw [nextDue, Int.mul_add, Int.mul_one]
  lia

theorem normalizeLeaseTiming_pos (duration renewEvery : Duration) :
    0 < (normalizeLeaseTiming duration renewEvery).1 ∧
      0 < (normalizeLeaseTiming duration renewEvery).2 := by
  simp only [normalizeLeaseTiming, defaultSessionLeaseDuration, defaultSessionLeaseRenewEvery,
    seconds]
  constructor
  · split <;> lia
  · refine lt_min ?_ ?_
    · split <;> lia
    · split <;> lia

theorem leaseDurationSeconds_pos {duration : Duration} (h : 0 < duration) :
    0 < leaseDurationSeconds duration := by
  have hwhole : 0 < if duration % seconds 1 = 0 then duration / seconds 1
      else duration / seconds 1 + 1 := by
    by_cases hrest : duration % seconds 1 = 0
    · rw [if_pos hrest]
      unfold seconds at hrest ⊢
      lia
    · rw [if_neg hrest]
      unfold seconds
      lia
  rw [leaseDurationSeconds, if_neg (by lia)]
  exact lt_min hwhole (by decide)

variable {lease : Lease}

theorem duration_of_durationSeconds {ι : Type} {p : Parties ι} {i : ι}
    (h : lease.leaseDurationSeconds = some (p.durationSeconds i)) :
    lease.duration = seconds (p.durationSeconds i) := by
  have hpos : 0 < p.durationSeconds i :=
    leaseDurationSeconds_pos (normalizeLeaseTiming_pos (p.duration i) (p.renewEvery i)).1
  simp [Lease.duration, h, hpos]

theorem not_expired_of_lt {renewed : Time} (h : lease.renewTime = some renewed)
    (hpos : 0 < lease.duration) (hlt : now - renewed < lease.duration) :
    sessionLeaseExpired lease now = false := by
  have hsub : now.sub renewed < lease.duration := by
    unfold Time.sub
    lia
  simp [sessionLeaseExpired, h, hsub]

theorem sub_mono {later : Time} (hle : now ≤ later) (t : Time) : now.sub t ≤ later.sub t := by
  unfold Time.sub
  lia

theorem expired_mono {later : Time} (hle : now ≤ later) (h : sessionLeaseExpired lease now = true) :
    sessionLeaseExpired lease later = true := by
  unfold sessionLeaseExpired at h ⊢
  split at h
  · exact decide_eq_true (le_trans (of_decide_eq_true h) (sub_mono hle _))
  · exact decide_eq_true (le_trans (of_decide_eq_true h) (sub_mono hle _))
  · rfl

/-! ## The invariant -/

section Invariant

variable {ι : Type} {p : Parties ι} (b : Bounds p)

/-- A Lease as it was read: if the server still has its version, it has this Lease. -/
def Known (w : Server) (read : Lease) : Prop :=
  read.resourceVersion < w.nextVersion ∧
    ∀ stored ∈ w.lease, stored.resourceVersion = read.resourceVersion → stored = read

def Available (w : Server) (read : Lease) : Prop :=
  held read = false ∨ sessionLeaseExpired read w.now = true

/-- The server's Lease is the party's, renewed at `renewed` or later. -/
def StoredBy (p : Parties ι) (w : Server) (i : ι) (renewed : Time) : Prop :=
  ∃ stored later, w.lease = some stored ∧ stored.holderIdentity = some (p.holder i) ∧
    stored.leaseDurationSeconds = some (p.durationSeconds i) ∧
    stored.renewTime = some later ∧ renewed ≤ later

/-- A round of renewals started by a tick in time. -/
structure Round (i : ι) (now renewed due ticked : Time) : Prop where
  ticked_le : ticked ≤ renewed + 999 + b.window i + b.late i
  due_le : due ≤ ticked + p.period i
  ticked_le_now : ticked ≤ now

/-- Where the loop of a live lock is, relative to the last renewal. -/
def Paced (w : Server) (i : ι) (started renewed : Time) : Loop → Prop
  | .starting => started ≤ renewed + 999
  | .waiting due since => max due since ≤ renewed + 999 + b.window i
  | .renewing due ticked | .sleeping due ticked _ => Round b i w.now renewed due ticked
  | .checked due ticked read => Round b i w.now renewed due ticked ∧ Known w read ∧
      read.holderIdentity = some (p.holder i)
  | .updating due ticked read stamp => Round b i w.now renewed due ticked ∧ Known w read ∧
      read.holderIdentity = some (p.holder i) ∧
      renewed ≤ stamp ∧ ticked ≤ stamp + 999 ∧ stamp ≤ microTime w.now
  | .stopped => False

/-- A live lock: when its Lease was renewed last, and where its loop is. -/
structure Holds (w : Server) (i : ι) (lock : SessionLease) (written : Lease) (started : Time)
    (loop : Loop) (renewed : Time) : Prop where
  holder : lock.holder = p.holder i
  written_renewTime : written.renewTime = some renewed
  written_duration : written.leaseDurationSeconds = some (p.durationSeconds i)
  renewed_le : renewed ≤ microTime w.now
  stored : StoredBy p w i renewed
  paced : Paced b w i started renewed loop

def PartyOK (w : Server) (i : ι) : Party → Prop
  | .idle | .refused => True
  | .reading _ started | .creating _ started => started ≤ w.now
  | .judging started read => started ≤ w.now ∧ Known w read
  | .claiming started read => started ≤ w.now ∧ Known w read ∧ Available w read
  | .holding lock written started loop => (lock.err ≠ none → loop = .stopped) ∧
      (lock.err = none → ∃ renewed, Holds b w i lock written started loop renewed)

/-- The invariant of timely runs. -/
structure Inv (w : World ι) : Prop where
  stored_lt : ∀ stored ∈ w.lease, stored.resourceVersion < w.nextVersion
  party : ∀ i, PartyOK b w.toServer i (w.party i)
  within : ∀ i, ∀ t ∈ b.limit i (w.party i), w.now ≤ t

variable {b} {w : Server} {i : ι}

omit p in
theorem Known.eq_of_current {read : Lease} (hknown : Known w read) (h : w.current read = true) :
    w.lease = some read := by
  unfold Server.current at h
  split at h
  · next stored hstored =>
    simp only [Bool.and_eq_true, beq_iff_eq] at h
    rw [hstored, hknown.2 stored hstored h.2]
  · cases h

theorem now_le_of_holds {lock : SessionLease} {written : Lease} {started renewed : Time}
    {loop : Loop} (h : Holds b w i lock written started loop renewed) (hlive : lock.err = none)
    (hlimit : ∀ t ∈ b.limit i (.holding lock written started loop), w.now ≤ t) :
    w.now ≤ renewed + 999 + b.window i + b.late i + b.round i := by
  have hacquire := b.acquire_nonneg i
  have hlate := b.late_nonneg i
  have hround := b.round_nonneg i
  have hperiod : 0 < p.period i := (normalizeLeaseTiming_pos _ _).2
  have hwindow : b.acquire i + p.period i ≤ b.window i := le_max_left _ _
  have hpaced := h.paced
  cases loop with
  | starting | waiting due since =>
    have := hlimit _ (by simp [Bounds.limit, hlive]; rfl)
    simp only [Paced] at hpaced
    lia
  | renewing due ticked =>
    have := hlimit _ (by simp [Bounds.limit, hlive]; rfl)
    have := Round.ticked_le hpaced
    lia
  | checked due ticked read | updating due ticked read stamp =>
    have := hlimit _ (by simp [Bounds.limit, hlive]; rfl)
    have := Round.ticked_le hpaced.1
    lia
  | sleeping due ticked wakeAt =>
    have := hlimit _ (by simp [Bounds.limit, hlive]; rfl)
    have := Round.ticked_le hpaced
    lia
  | stopped => exact hpaced.elim

/-- The invariant says that a Lease renewed when the lock was, or later, has not expired. -/
theorem not_expired_of_holds {lock : SessionLease} {written lease : Lease}
    {started renewed later : Time} {loop : Loop}
    (h : Holds b w i lock written started loop renewed) (hlive : lock.err = none)
    (hlimit : ∀ t ∈ b.limit i (.holding lock written started loop), w.now ≤ t)
    (hduration : lease.leaseDurationSeconds = some (p.durationSeconds i))
    (hrenewed : lease.renewTime = some later) (hle : renewed ≤ later) :
    sessionLeaseExpired lease w.now = false := by
  have hnow := now_le_of_holds h hlive hlimit
  have hfits := b.fits i
  have hwindow : b.window i = max (b.acquire i + p.period i) (b.round i) := rfl
  have hlength := duration_of_durationSeconds hduration
  have hpos : 0 < p.durationSeconds i :=
    leaseDurationSeconds_pos (normalizeLeaseTiming_pos (p.duration i) (p.renewEvery i)).1
  refine not_expired_of_lt hrenewed ?_ ?_
  · rw [hlength, seconds]
    lia
  · rw [hlength]
    lia

theorem Inv.fenced {w : World ι} (h : Inv b w) : Fenced w := by
  constructor
  · rintro i written ⟨lock, started, loop, hparty, hlive⟩
    have hok := h.party i
    have hlimit := h.within i
    rw [hparty] at hok hlimit
    obtain ⟨renewed, hholds⟩ := hok.2 hlive
    exact not_expired_of_holds hholds hlive hlimit hholds.written_duration
      hholds.written_renewTime (le_refl _)
  · rintro i j written written' ⟨lock, started, loop, hparty, hlive⟩
      ⟨lock', started', loop', hparty', hlive'⟩
    have hok := h.party i
    have hok' := h.party j
    rw [hparty] at hok
    rw [hparty'] at hok'
    obtain ⟨_, hholds⟩ := hok.2 hlive
    obtain ⟨_, hholds'⟩ := hok'.2 hlive'
    obtain ⟨stored, _, hstored, hholder, -⟩ := hholds.stored
    obtain ⟨stored', _, hstored', hholder', -⟩ := hholds'.stored
    rw [hstored] at hstored'
    obtain rfl := Option.some.inj hstored'
    rw [hholder] at hholder'
    exact p.holder_injective (Option.some.inj hholder')

end Invariant

/-! ## Steps -/

section Steps

variable {ι : Type} {p : Parties ι} {b : Bounds p} {w : World ι} {i : ι}

/-- The party's lock reports an error, or it has none. -/
def NotLive (w : World ι) (i : ι) : Prop := ∀ written, ¬ Live w i written

variable {read : Lease}

theorem Known.store {w : Server} (h : Known w read) (lease : Lease) :
    Known (w.store lease) read := by
  refine ⟨Nat.lt_succ_of_lt h.1, ?_⟩
  intro stored hstored hversion
  obtain rfl := Option.some.inj hstored
  have hlt := h.1
  rw [← hversion] at hlt
  exact absurd hlt (Nat.lt_irrefl _)

variable {party : Party}

theorem PartyOK.store {w : Server} (h : PartyOK b w i party)
    (hlive : ∀ lock written started loop, party = .holding lock written started loop →
      lock.err ≠ none) (lease : Lease) : PartyOK b (w.store lease) i party := by
  cases party with
  | idle | refused | reading left started | creating left started => exact h
  | judging started read => exact ⟨h.1, h.2.store lease⟩
  | claiming started read => exact ⟨h.1, h.2.1.store lease, h.2.2⟩
  | holding lock written started loop =>
    exact ⟨h.1, fun hnone => absurd hnone (hlive lock written started loop rfl)⟩

variable {written : Lease} {started : Time} {outcome : Outcome}

theorem Inv.stored_of_live (h : Inv b w) (hlive : Live w i written) :
    ∃ stored, w.lease = some stored ∧ stored.holderIdentity = some (p.holder i) ∧
      sessionLeaseExpired stored w.now = false := by
  obtain ⟨lock, started, loop, hparty, hnone⟩ := hlive
  have hok := h.party i
  have hlimit := h.within i
  rw [hparty] at hok hlimit
  obtain ⟨renewed, hholds⟩ := hok.2 hnone
  obtain ⟨stored, later, hstored, hholder, hduration, hrenewed, hle⟩ := hholds.stored
  exact ⟨stored, hstored, hholder, not_expired_of_holds hholds hnone hlimit hduration hrenewed hle⟩

theorem Inv.notLive_of_none (h : Inv b w) (hnone : w.lease = none) (j : ι) : NotLive w j := by
  intro written hlive
  obtain ⟨stored, hstored, -⟩ := h.stored_of_live hlive
  rw [hnone] at hstored
  cases hstored

theorem Inv.notLive_of_available (h : Inv b w) (hknown : Known w.toServer read)
    (hcurrent : w.current read = true) (havailable : Available w.toServer read) (j : ι) :
    NotLive w j := by
  intro written hlive
  obtain ⟨stored, hstored, hholder, hexpired⟩ := h.stored_of_live hlive
  rw [hknown.eq_of_current hcurrent] at hstored
  obtain rfl := Option.some.inj hstored
  rcases havailable with hheld | hgone
  · have hne := p.holder_ne_empty j
    simp [held, hholder, hne] at hheld
  · rw [hexpired] at hgone
    cases hgone

theorem Inv.notLive_of_holder (h : Inv b w) {stored : Lease} (hstored : w.lease = some stored)
    (hholder : stored.holderIdentity = some (p.holder i)) (j : ι) (hj : j ≠ i) : NotLive w j := by
  intro written hlive
  obtain ⟨stored', hstored', hholder', -⟩ := h.stored_of_live hlive
  rw [hstored] at hstored'
  obtain rfl := Option.some.inj hstored'
  rw [hholder] at hholder'
  exact hj (p.holder_injective (Option.some.inj hholder')).symm

theorem holds_of_written {w : Server} {lease : Lease} (hstarted : started ≤ w.now)
    (hholder : lease.holderIdentity = some (p.holder i))
    (hduration : lease.leaseDurationSeconds = some (p.durationSeconds i))
    (hrenewed : lease.renewTime = some (microTime started)) (uid : UID) :
    PartyOK b (w.store lease) i
      (.holding (p.lock i uid) (w.versioned lease) started .starting) := by
  refine ⟨fun herr => absurd rfl herr, fun _ => ⟨microTime started, rfl, hrenewed, hduration,
    microTime_mono hstarted, ?_, le_microTime_add started⟩⟩
  exact ⟨w.versioned lease, microTime started, rfl, hholder, hduration, hrenewed, le_refl _⟩

theorem markLost_err (lock : SessionLease) (e : Error) : (markLost lock e).err ≠ none := by
  cases h : lock.err <;> simp [markLost, h]

variable {renewed : Time} {loop : Loop}

theorem partyOK_failAttempt {w : Server} {lock : SessionLease} {due ticked : Time} (e : Error)
    (hlive : lock.err = none) (h : Holds b w i lock written started loop renewed)
    (hround : Round b i w.now renewed due ticked) :
    PartyOK b w i (p.failAttempt i w.now lock written started due ticked e) := by
  unfold Parties.failAttempt
  split
  · exact ⟨fun _ => rfl, fun hnone => absurd hnone (markLost_err lock e)⟩
  · exact ⟨fun herr => absurd hlive herr, fun _ => ⟨renewed, h.holder, h.written_renewTime,
      h.written_duration, h.renewed_le, h.stored, hround⟩⟩

theorem within_failAttempt {w : Server} {lock : SessionLease} {due ticked : Time} (e : Error)
    (hlive : lock.err = none) (hnow : w.now ≤ ticked + b.round i) :
    ∀ t ∈ b.limit i (p.failAttempt i w.now lock written started due ticked e), w.now ≤ t := by
  intro t ht
  unfold Parties.failAttempt at ht
  split at ht
  · simp [Bounds.limit, markLost_err] at ht
  · have : ticked + b.round i = t := by simpa [Bounds.limit, hlive] using ht
    lia

theorem Inv.holds_of_running (h : Inv b w) {lock : SessionLease}
    (hcase : w.party i = .holding lock written started loop) (hrunning : loop ≠ .stopped) :
    lock.err = none ∧ ∃ renewed, Holds b w.toServer i lock written started loop renewed := by
  have hparty := h.party i
  rw [hcase] at hparty
  have hlive : lock.err = none := by
    by_contra herr
    exact hrunning (hparty.1 herr)
  exact ⟨hlive, hparty.2 hlive⟩

theorem storedBy_renewed {w : Server} (hread : w.lease = some read)
    (hstored : StoredBy p w i renewed) (stamp : Time) :
    StoredBy p (w.store { read with renewTime := some stamp }) i stamp ∧
      read.leaseDurationSeconds = some (p.durationSeconds i) := by
  obtain ⟨stored, later, hlease, hholder, hduration, -⟩ := hstored
  rw [hread] at hlease
  obtain rfl := Option.some.inj hlease
  exact ⟨⟨_, stamp, rfl, hholder, hduration, rfl, le_refl _⟩, hduration⟩

theorem inv_of_initial (h : Initial w) : Inv b w := by
  refine ⟨h.2, fun i => ?_, fun i t ht => ?_⟩
  · rw [h.1 i]
    trivial
  · rw [h.1 i] at ht
    simp [Bounds.limit] at ht

variable [DecidableEq ι]

section

variable (h : Inv b w)
include h

theorem Inv.set (hparty : PartyOK b w.toServer i party)
    (hlimit : ∀ t ∈ b.limit i party, w.now ≤ t) : Inv b (w.set i party) := by
  refine ⟨h.stored_lt, fun j => ?_, fun j => ?_⟩
  · by_cases hj : j = i
    · subst hj
      simp only [World.set, Function.update_self]
      exact hparty
    · simp only [World.set, Function.update_of_ne hj]
      exact h.party j
  · by_cases hj : j = i
    · subst hj
      simp only [World.set, Function.update_self]
      exact hlimit
    · simp only [World.set, Function.update_of_ne hj]
      exact h.within j

theorem Inv.refuse : Inv b (w.set i .refused) :=
  h.set trivial (by simp [Bounds.limit])

theorem Inv.store_set (hothers : ∀ j, j ≠ i → NotLive w j) {lease : Lease}
    (hparty : PartyOK b (w.toServer.store lease) i party)
    (hlimit : ∀ t ∈ b.limit i party, w.now ≤ t) : Inv b ((w.store lease).set i party) := by
  refine ⟨?_, fun j => ?_, fun j => ?_⟩
  · intro stored hstored
    obtain rfl := Option.some.inj hstored
    exact Nat.lt_succ_self _
  · by_cases hj : j = i
    · subst hj
      simp only [World.set, Function.update_self]
      exact hparty
    · simp only [World.set, Function.update_of_ne hj]
      refine PartyOK.store (h.party j) (fun lock written started loop hholding hnone => ?_) lease
      exact hothers j hj written ⟨lock, started, loop, hholding, hnone⟩
  · by_cases hj : j = i
    · subst hj
      simp only [World.set, Function.update_self]
      exact hlimit
    · simp only [World.set, Function.update_of_ne hj]
      exact h.within j

theorem Inv.advance {d : Nat} (htimely : Timely b w (.advance d)) :
    Inv b (step p w (.advance d)) := by
  have hle : w.now ≤ w.now + d := by lia
  refine ⟨h.stored_lt, fun i => ?_, fun i t ht => htimely i t ht⟩
  have hparty := h.party i
  show PartyOK b { w.toServer with now := w.now + d } i (w.party i)
  cases hcase : w.party i with
  | idle | refused => trivial
  | reading left started | creating left started =>
    rw [hcase] at hparty
    exact le_trans hparty hle
  | judging started read =>
    rw [hcase] at hparty
    exact ⟨le_trans hparty.1 hle, hparty.2⟩
  | claiming started read =>
    rw [hcase] at hparty
    exact ⟨le_trans hparty.1 hle, hparty.2.1, hparty.2.2.imp id (expired_mono hle)⟩
  | holding lock written started loop =>
    rw [hcase] at hparty
    refine ⟨hparty.1, fun hnone => ?_⟩
    obtain ⟨renewed, hholds⟩ := hparty.2 hnone
    have hround : ∀ {due ticked : Time}, Round b i w.now renewed due ticked →
        Round b i (w.now + d) renewed due ticked :=
      fun hr => ⟨hr.ticked_le, hr.due_le, le_trans hr.ticked_le_now hle⟩
    refine ⟨renewed, hholds.holder, hholds.written_renewTime, hholds.written_duration,
      le_trans hholds.renewed_le (microTime_mono hle), hholds.stored, ?_⟩
    have hpaced := hholds.paced
    cases loop with
    | starting | waiting due since | stopped => exact hpaced
    | renewing due ticked | sleeping due ticked wakeAt => exact hround hpaced
    | checked due ticked read => exact ⟨hround hpaced.1, hpaced.2⟩
    | updating due ticked read stamp =>
      obtain ⟨hr, hknown, hholder, hrenewed, hticked, hstamp⟩ := hpaced
      exact ⟨hround hr, hknown, hholder, hrenewed, hticked, le_trans hstamp (microTime_mono hle)⟩

theorem Inv.call : Inv b (step p w (.call i)) := by
  simp only [step]
  split
  · split
    · exact h.refuse
    · refine h.set (le_refl w.now) fun t ht => ?_
      have hacquire := b.acquire_nonneg i
      have : w.now + b.acquire i = t := by simpa [Bounds.limit] using ht
      lia
  · exact h

theorem Inv.acquireRead {answered : Bool} : Inv b (step p w (.acquireRead i answered)) := by
  simp only [step]
  split
  · next left started hcase =>
    have hstarted := h.party i
    have hlimit := h.within i
    rw [hcase] at hstarted hlimit
    split
    · exact h.refuse
    · split
      · exact h.set hstarted hlimit
      · next lease hlease =>
        refine h.set ⟨hstarted, h.stored_lt lease hlease, ?_⟩ hlimit
        intro stored hstored _
        rw [hlease] at hstored
        exact (Option.some.inj hstored).symm
  · exact h

theorem Inv.judge : Inv b (step p w (.judge i)) := by
  simp only [step]
  split
  · next started read hcase =>
    have hparty := h.party i
    have hlimit := h.within i
    rw [hcase] at hparty hlimit
    split
    · exact h.refuse
    · next hrefuses =>
      refine h.set ⟨hparty.1, hparty.2, ?_⟩ hlimit
      by_cases hheld : held read = true
      · right
        simp only [Parties.refuses, hheld, Bool.or_eq_true, not_or] at hrefuses
        simpa using hrefuses.2
      · exact .inl (by simpa using hheld)
  · exact h

theorem Inv.create : Inv b (step p w (.create i outcome)) := by
  simp only [step]
  split
  · next left started hcase =>
    have hstarted := h.party i
    have hlimit := h.within i
    rw [hcase] at hstarted hlimit
    split
    · -- the Lease exists by now
      split
      · exact h.refuse
      · exact h.set hstarted hlimit
    · exact h.refuse
    · next hnone =>
      exact h.store_set (fun j _ => h.notLive_of_none hnone j)
        (holds_of_written hstarted rfl rfl rfl _) hlimit
    · next hnone =>
      exact h.store_set (fun j _ => h.notLive_of_none hnone j) trivial (by simp [Bounds.limit])
    · exact h.refuse
  · exact h

theorem Inv.claim : Inv b (step p w (.claim i outcome)) := by
  simp only [step]
  split
  · next started read hcase =>
    have hparty := h.party i
    have hlimit := h.within i
    rw [hcase] at hparty hlimit
    obtain ⟨hstarted, hknown, havailable⟩ := hparty
    split
    · next hcurrent =>
      exact h.store_set (fun j _ => h.notLive_of_available hknown hcurrent havailable j)
        (holds_of_written hstarted rfl rfl rfl _) hlimit
    · next hcurrent =>
      exact h.store_set (fun j _ => h.notLive_of_available hknown hcurrent havailable j) trivial
        (by simp [Bounds.limit])
    · exact h.refuse
  · exact h

theorem Inv.set_loop {lock : SessionLease} {next : Loop} (hlive : lock.err = none)
    (hholds : Holds b w.toServer i lock written started loop renewed)
    (hpaced : Paced b w.toServer i started renewed next)
    (hlimit : ∀ t ∈ b.limit i (.holding lock written started next), w.now ≤ t) :
    Inv b (w.set i (.holding lock written started next)) := by
  refine h.set ⟨fun herr => absurd hlive herr, fun _ => ⟨renewed, ?_⟩⟩ hlimit
  exact ⟨hholds.holder, hholds.written_renewTime, hholds.written_duration, hholds.renewed_le,
    hholds.stored, hpaced⟩

theorem Inv.startLoop : Inv b (step p w (.startLoop i)) := by
  simp only [step]
  split
  · next lock written started hcase =>
    obtain ⟨hlive, renewed, hholds⟩ := h.holds_of_running hcase (by simp)
    have hperiod : 0 < p.period i := (normalizeLeaseTiming_pos _ _).2
    have hlate := b.late_nonneg i
    have hwindow : b.acquire i + p.period i ≤ b.window i := le_max_left _ _
    have hnow : w.now ≤ started + b.acquire i :=
      h.within i _ (by simp [hcase, Bounds.limit, hlive])
    have hstarted : started ≤ renewed + 999 := hholds.paced
    refine h.set_loop hlive hholds ?_ fun t ht => ?_
    · show max (w.now + p.period i) w.now ≤ renewed + 999 + b.window i
      lia
    · have : max (w.now + p.period i) w.now + b.late i = t := by
        simpa [Bounds.limit, hlive] using ht
      lia
  · exact h

theorem Inv.tick : Inv b (step p w (.tick i)) := by
  simp only [step]
  split
  · next lock written started due since hcase =>
    split
    · obtain ⟨hlive, renewed, hholds⟩ := h.holds_of_running hcase (by simp)
      have hround := b.round_nonneg i
      have hnow : w.now ≤ max due since + b.late i :=
        h.within i _ (by simp [hcase, Bounds.limit, hlive])
      have hpaced : max due since ≤ renewed + 999 + b.window i := hholds.paced
      refine h.set_loop hlive hholds ⟨by lia, ?_, le_refl _⟩ fun t ht => ?_
      · exact nextDue_le (normalizeLeaseTiming_pos _ _).2
      · have : w.now + b.round i = t := by simpa [Bounds.limit, hlive] using ht
        lia
    · exact h
  · exact h

theorem Inv.renewRead {answered : Bool} : Inv b (step p w (.renewRead i answered)) := by
  simp only [step]
  split
  · next lock written started due ticked hcase =>
    obtain ⟨hlive, renewed, hholds⟩ := h.holds_of_running hcase (by simp)
    have hnow : w.now ≤ ticked + b.round i :=
      h.within i _ (by simp [hcase, Bounds.limit, hlive])
    have hfail : ∀ e,
        Inv b (w.set i (p.failAttempt i w.now lock written started due ticked e)) := fun e =>
      h.set (partyOK_failAttempt e hlive hholds hholds.paced) (within_failAttempt e hlive hnow)
    split
    · exact hfail _
    · split
      · exact hfail _
      · next lease hlease =>
        split
        · next howns =>
          refine h.set_loop hlive hholds ⟨hholds.paced, ⟨h.stored_lt lease hlease, ?_⟩, ?_⟩
            fun t ht => ?_
          · intro stored hstored _
            rw [hlease] at hstored
            exact (Option.some.inj hstored).symm
          · rw [← hholds.holder]
            exact howns.2.2.2.2
          · have : ticked + b.round i = t := by simpa [Bounds.limit, hlive] using ht
            lia
        · exact hfail _
  · exact h

theorem Inv.stamp : Inv b (step p w (.stamp i)) := by
  simp only [step]
  split
  · next lock written started due ticked read hcase =>
    obtain ⟨hlive, renewed, hholds⟩ := h.holds_of_running hcase (by simp)
    have hnow : w.now ≤ ticked + b.round i :=
      h.within i _ (by simp [hcase, Bounds.limit, hlive])
    obtain ⟨hround, hknown, hholder⟩ := hholds.paced
    have hticked := hround.ticked_le_now
    have hstamp := le_microTime_add w.now
    refine h.set_loop hlive hholds
      ⟨hround, hknown, hholder, hholds.renewed_le, by lia, le_refl _⟩ fun t ht => ?_
    have : ticked + b.round i = t := by simpa [Bounds.limit, hlive] using ht
    lia
  · exact h

theorem Inv.renewWrite : Inv b (step p w (.renewWrite i outcome)) := by
  simp only [step]
  split
  · next lock written started due ticked read stamp hcase =>
    obtain ⟨hlive, renewed, hholds⟩ := h.holds_of_running hcase (by simp)
    have hnow : w.now ≤ ticked + b.round i :=
      h.within i _ (by simp [hcase, Bounds.limit, hlive])
    obtain ⟨hround, hknown, hholder, hrenewed, hticked, hstamp⟩ := hholds.paced
    have hfail : ∀ e,
        Inv b (w.set i (p.failAttempt i w.now lock written started due ticked e)) := fun e =>
      h.set (partyOK_failAttempt e hlive hholds hround) (within_failAttempt e hlive hnow)
    split
    · -- renewed: the stamp is from this round
      next hcurrent =>
      have hread := hknown.eq_of_current hcurrent
      obtain ⟨hstored, hduration⟩ := storedBy_renewed hread hholds.stored stamp
      have hacquire := b.acquire_nonneg i
      have hlate := b.late_nonneg i
      have hdue := hround.due_le
      have hwindow : b.acquire i + p.period i ≤ b.window i := le_max_left _ _
      have hwindow' : b.round i ≤ b.window i := le_max_right _ _
      refine h.store_set (h.notLive_of_holder hread hholder)
        ⟨fun herr => absurd hlive herr, fun _ => ⟨stamp, hholds.holder, rfl, hduration, hstamp,
          hstored, ?_⟩⟩ fun t ht => ?_
      · show max due w.now ≤ stamp + 999 + b.window i
        lia
      · have : max due w.now + b.late i = t := by simpa [Bounds.limit, hlive] using ht
        lia
    · -- renewed without the holder knowing
      next hcurrent =>
      have hread := hknown.eq_of_current hcurrent
      obtain ⟨⟨stored, later, hstored, hholder', hduration, hlater, hle⟩, -⟩ :=
        storedBy_renewed hread hholds.stored stamp
      have hholds' : Holds b (w.toServer.store { read with renewTime := some stamp }) i lock written
          started (.renewing due ticked) renewed :=
        ⟨hholds.holder, hholds.written_renewTime, hholds.written_duration, hholds.renewed_le,
          ⟨stored, later, hstored, hholder', hduration, hlater, le_trans hrenewed hle⟩, hround⟩
      exact h.store_set (h.notLive_of_holder hread hholder)
        (partyOK_failAttempt _ hlive hholds' hround) (within_failAttempt _ hlive hnow)
    · split <;> exact hfail _
    · exact hfail _
  · exact h

theorem Inv.wake : Inv b (step p w (.wake i)) := by
  simp only [step]
  split
  · next lock written started due ticked wakeAt hcase =>
    split
    · obtain ⟨hlive, renewed, hholds⟩ := h.holds_of_running hcase (by simp)
      have hnow : w.now ≤ ticked + b.round i :=
        h.within i _ (by simp [hcase, Bounds.limit, hlive])
      refine h.set_loop hlive hholds hholds.paced fun t ht => ?_
      have : ticked + b.round i = t := by simpa [Bounds.limit, hlive] using ht
      lia
    · exact h
  · exact h

theorem Inv.step (event : Event ι) (htimely : Timely b w event) : Inv b (step p w event) := by
  cases event with
  | advance d => exact h.advance htimely
  | call i => exact h.call
  | acquireRead i answered => exact h.acquireRead
  | judge i => exact h.judge
  | create i outcome => exact h.create
  | claim i outcome => exact h.claim
  | startLoop i => exact h.startLoop
  | tick i => exact h.tick
  | renewRead i answered => exact h.renewRead
  | stamp i => exact h.stamp
  | renewWrite i outcome => exact h.renewWrite
  | wake i => exact h.wake
  | cancel i => exact htimely.elim

end

/-- **Fencing.**  In a timely run of any number of parties every state is fenced: a lock that
reports no error has a Lease that has not expired, and there is at most one. -/
theorem fenced_of_timely (p : Parties ι) (b : Bounds p) (w : World ι) (hinitial : Initial w)
    (events : List (Event ι)) (htimely : Machine.Every (Fencing.step p) (Timely b) w events) :
    Fenced (Machine.run (Fencing.step p) w events) := by
  have hinv : Inv b (Machine.run (Fencing.step p) w events) :=
    Machine.invariant (fun _ event h ht => h.step event ht) (inv_of_initial hinitial) htimely
  exact hinv.fenced

end Steps

/-! ### Examples -/

def exampleParties : Parties Bool where
  sessionID := fun _ => "session"
  duration := fun _ => seconds 30
  renewEvery := fun _ => seconds 10
  holder := fun i => if i then "second" else "first"
  holder_injective := by
    intro i j
    cases i <;> cases j <;> simp
  holder_ne_empty := by decide

def exampleWorld : World Bool := ⟨⟨0, none, 1⟩, fun _ => .idle⟩

/-- The first process acquires the Lease and waits for its first tick. -/
def exampleAcquire : List (Event Bool) :=
  [.call false, .acquireRead false true, .create false .answered, .startLoop false,
    .advance 10000000000, .tick false]

/-- Its first renewal fails, and twenty seconds later the other process takes the Lease over. -/
def failingRound : List (Event Bool) :=
  exampleAcquire ++ [.renewRead false false, .advance 20000000000, .call true,
    .acquireRead true true, .judge true, .claim true .answered]

/-- The party has a lock that reports no error. -/
def Party.isLive : Party → Bool
  | .holding lock _ _ _ => lock.err.isNone
  | _ => false

theorem live_of_isLive {ι : Type} {w : World ι} {i : ι} (h : (w.party i).isLive = true) :
    ∃ written, Live w i written := by
  cases hcase : w.party i with
  | holding lock written started loop =>
    rw [hcase] at h
    exact ⟨written, lock, started, loop, hcase, by simpa [Party.isLive] using h⟩
  | _ =>
    rw [hcase] at h
    cases h

/-- Renewals that fail are repeated until after the Lease has expired: both processes then have a
lock that reports no error. -/
theorem failing_round_not_fenced :
    Initial exampleWorld ∧
      ¬ Fenced (Machine.run (step exampleParties) exampleWorld failingRound) := by
  refine ⟨⟨fun _ => rfl, by simp [exampleWorld]⟩, fun hfenced => ?_⟩
  have hfirst : ((Machine.run (step exampleParties) exampleWorld failingRound).party
      false).isLive = true := by decide +kernel
  have hsecond : ((Machine.run (step exampleParties) exampleWorld failingRound).party
      true).isLive = true := by decide +kernel
  obtain ⟨written, hlive⟩ := live_of_isLive hfirst
  obtain ⟨written', hlive'⟩ := live_of_isLive hsecond
  exact Bool.false_ne_true (hfenced.2 false true written written' hlive hlive')

/-- A second for an acquisition and for a tick, five for a round of renewals. -/
def exampleBounds : Bounds exampleParties where
  acquire := fun _ => seconds 1
  late := fun _ => seconds 1
  round := fun _ => seconds 5
  acquire_nonneg := by decide
  late_nonneg := by decide
  round_nonneg := by decide
  fits := by decide

def timelyRound : List (Event Bool) :=
  exampleAcquire ++ [.renewRead false true, .advance 2000000000, .stamp false,
    .renewWrite false .answered, .advance 8000000000, .tick false]

theorem timelyRound_fenced :
    Initial exampleWorld ∧
      Machine.Every (step exampleParties) (Timely exampleBounds) exampleWorld timelyRound ∧
      Fenced (Machine.run (step exampleParties) exampleWorld timelyRound) := by
  have hinitial : Initial exampleWorld := ⟨fun _ => rfl, by simp [exampleWorld]⟩
  have htimely : Machine.Every (step exampleParties) (Timely exampleBounds) exampleWorld
      timelyRound := by decide +kernel
  exact ⟨hinitial, htimely, fenced_of_timely exampleParties exampleBounds exampleWorld hinitial
    timelyRound htimely⟩

end Fencing

end Kube

end PvcMigrate
