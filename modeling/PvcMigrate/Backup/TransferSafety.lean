import PvcMigrate.Backup.TransferLock

/-!
# A manifest is published under the lock

Any number of attempts back up to one recovery point at once, each with its renewal goroutine, each
stopped anywhere; requests without an answer take effect later or never.  Whether the lock still
names an attempt is not what the attempt knows: it only knows what its last request answered.

The argument follows the holder that the lock names.  Only a request of an attempt itself makes the
lock name it, and an attempt makes such a request only before `AcquireLock` has succeeded.  If none
of them takes effect later, a lock that names an attempt that has acquired it has named that attempt
ever since (`Invariant.owned`).  A renewal that succeeds finds the lock so.
-/

namespace PvcMigrate

namespace Backup

open ObjectStore Prog Relation

variable {ι : Type}

/-! ## What an attempt has done -/

/-- The attempt has had these successes, the newest first. -/
def Progress (a : ι) (events : List Event) (history : List (Entry ι)) : Prop :=
  (events.map fun event => (a, event)).Sublist (history.map fun e => (e.attempt, e.event))

def beforePublication : List Event := [.renewed, .inventoried, .toolStarted, .acquired]

variable {events : List Event} {history : List (Entry ι)}

theorem Progress.append {a : ι} (h : Progress a events history) (new : List (Entry ι)) :
    Progress a events (new ++ history) := by
  unfold Progress at *
  rw [List.map_append]
  exact h.trans (List.sublist_append_right _ _)

theorem Progress.cons {a : ι} (h : Progress a events history) (event : Event)
    (holder : Option Text) :
    Progress a (event :: events) (⟨a, event, holder⟩ :: history) := by
  unfold Progress at *
  simp only [List.map_cons]
  exact h.cons_cons _

theorem Progress.split {a : ι} {event : Event} (h : Progress a (event :: events) history) :
    ∃ front e back, history = front ++ e :: back ∧ e.attempt = a ∧ e.event = event ∧
      Progress a events back := by
  induction history with
  | nil => simp [Progress] at h
  | cons first rest ih =>
    unfold Progress at h
    simp only [List.map_cons] at h
    cases h with
    | cons _ hrest =>
      obtain ⟨front, e, back, heq, hattempt, hevent, hback⟩ := ih hrest
      exact ⟨first :: front, e, back, by simp [heq], hattempt, hevent, hback⟩
    | cons_cons _ hrest => exact ⟨[], first, rest, rfl, rfl, rfl, hrest⟩

/-- `AcquireLock` of the attempt has not succeeded. -/
def NotAcquired (a : ι) (w : World ι) : Prop :=
  ∀ e ∈ w.history, e.attempt = a → e.event ≠ .acquired

/-- The requests that make the lock name another holder. -/
def Write.taking : Write → Bool
  | .createLock _ | .replaceLock _ _ => true
  | _ => false

section Requests

variable (request : ι → Request)

def holderOf (a : ι) : Text := (request a).holder

/-- What is known of a request under way without a caller. -/
def Sound (a : ι) (w : World ι) : Write → Prop
  | .createLock lock | .replaceLock _ lock => lock.holder = holderOf request a
  | .renewLock etag lock => etag.lock.holder = lock.holder
  | .deleteLock etag => etag.lock.holder = holderOf request a
  | .putManifest manifest =>
    manifest.sessionID = (request a).manifestID ∧ Progress a beforePublication w.history

/-- Who the lock names stays, or the attempt takes the lock, or it gives it up. -/
def Moves (a : ι) (w w' : World ι) : Prop :=
  w'.holder = w.holder ∨ (w'.holder = some (holderOf request a) ∧ NotAcquired a w) ∨
    (w.holder = some (holderOf request a) ∧ w'.holder = none)

/-- What a call of an attempt may do. -/
structure Change (a : ι) (event : Event) (w w' : World ι) : Prop where
  logged : w'.history = ⟨a, event, w'.holder⟩ :: w.history
  moves : Moves request a w w'
  acquired : event = .acquired → holderOf request a ≠ [] ∧
    ∀ name, w'.holder = some name → name = [] ∨ name = holderOf request a
  renewed : event = .renewed →
    w.holder = some (holderOf request a) ∧ w'.holder = some (holderOf request a)
  published : event = .published → w.manifest = none ∧ Progress a beforePublication w.history ∧
    ∃ m, w'.manifest = some m ∧ m.sessionID = (request a).manifestID
  manifest : event ≠ .published → w'.manifest = w.manifest
  pending : ∀ p ∈ w'.pending, p ∈ w.pending ∨ (p.1 = a ∧ Sound request a w' p.2)
  lease : ∀ b etag, w'.lease b = some etag →
    w.lease b = some etag ∨ etag.lock.holder = holderOf request b

/-- A call that does not acquire the lock. -/
structure Modest (a : ι) (event : Event) (w w' : World ι) : Prop
    extends Change request a event w w' where
  notAcquired : event ≠ .acquired

/-- What holds in every state. -/
structure Invariant (w : World ι) : Prop where
  /-- If the lock names an attempt that has acquired it, it has done so ever since. -/
  owned : ∀ a front e back, w.holder = some (holderOf request a) → w.history = front ++ e :: back →
    e.attempt = a → e.event = .acquired → ∀ x ∈ front, x.holder = some (holderOf request a)
  /-- Between the acquisition and a renewal, the lock names the attempt. -/
  held : ∀ a newer r front e back, w.history = newer ++ r :: (front ++ e :: back) →
    r.attempt = a → r.event = .renewed → e.attempt = a → e.event = .acquired →
    ∀ x ∈ front, x.holder = some (holderOf request a)
  /-- An acquisition leaves a lock that names no other attempt. -/
  acquired : ∀ e ∈ w.history, e.event = .acquired → holderOf request e.attempt ≠ [] ∧
    ∀ name, e.holder = some name → name = [] ∨ name = holderOf request e.attempt
  /-- A publication comes after the other steps of its attempt. -/
  published : ∀ newer p older, w.history = newer ++ p :: older → p.event = .published →
    Progress p.attempt beforePublication older ∧ ∀ x ∈ older, x.event ≠ .published
  manifest : w.manifest = none → ∀ e ∈ w.history, e.event ≠ .published
  pending : ∀ p ∈ w.pending, Sound request p.1 w p.2
  lease : ∀ a etag, w.lease a = some etag → etag.lock.holder = holderOf request a

end Requests

variable {request : ι → Request} {a b : ι} {ev : Event} {w w' : World ι}

/-! ## Each change keeps the invariant -/

theorem Change.owned (hinj : Function.Injective (holderOf request)) (hw : Invariant request w)
    (h : Change request a ev w w') (c : ι) (front : List (Entry ι)) (e : Entry ι)
    (back : List (Entry ι)) (hholder : w'.holder = some (holderOf request c))
    (hsplit : w'.history = front ++ e :: back) (hattempt : e.attempt = c)
    (hevent : e.event = .acquired) : ∀ x ∈ front, x.holder = some (holderOf request c) := by
  rw [h.logged] at hsplit
  rcases List.cons_eq_append_iff.mp hsplit with ⟨rfl, -⟩ | ⟨rest, rfl, hold⟩
  · simp
  have hbefore : w.holder = some (holderOf request c) := by
    rcases h.moves with hsame | ⟨htaken, hfresh⟩ | ⟨-, hgone⟩
    · rw [← hsame]
      exact hholder
    · -- The attempt takes the lock, so it is not one that has acquired it.
      have hac : a = c := hinj (by rw [htaken] at hholder; exact Option.some.inj hholder)
      exact absurd hevent (hfresh e (by rw [hold]; simp) (hattempt.trans hac.symm))
    · rw [hgone] at hholder
      cases hholder
  intro x hx
  rcases List.mem_cons.mp hx with rfl | hx
  · exact hholder
  · exact hw.owned c rest e back hbefore hold hattempt hevent x hx

theorem Change.held (hw : Invariant request w) (h : Change request a ev w w') (c : ι)
    (newer : List (Entry ι)) (r : Entry ι) (front : List (Entry ι)) (e : Entry ι)
    (back : List (Entry ι)) (hsplit : w'.history = newer ++ r :: (front ++ e :: back))
    (hr : r.attempt = c) (hrenewed : r.event = .renewed) (hattempt : e.attempt = c)
    (hevent : e.event = .acquired) : ∀ x ∈ front, x.holder = some (holderOf request c) := by
  rw [h.logged] at hsplit
  rcases List.cons_eq_append_iff.mp hsplit with ⟨-, hnew⟩ | ⟨rest, -, hold⟩
  · obtain ⟨rfl, hold⟩ := List.cons.inj hnew
    simp only at hr hrenewed
    rw [← hr] at hattempt ⊢
    exact hw.owned a front e back (h.renewed hrenewed).1 hold.symm hattempt hevent
  · exact hw.held c rest r front e back hold hr hrenewed hattempt hevent

section

variable (h : Change request a ev w w')
include h

theorem NotAcquired.change (hb : NotAcquired b w)
    (hne : ev = .acquired → a ≠ b) : NotAcquired b w' := by
  intro e he hattempt hevent
  rw [h.logged] at he
  rcases List.mem_cons.mp he with rfl | he
  · exact hne hevent hattempt
  · exact hb e he hattempt hevent

theorem Change.progress {events : List Event}
    (hb : Progress b events w.history) : Progress b events w'.history := by
  rw [h.logged]
  exact hb.append [_]

theorem Change.sound {x : Write} (hsound : Sound request b w x) : Sound request b w' x := by
  cases x with
  | createLock lock | replaceLock etag lock | renewLock etag lock | deleteLock etag => exact hsound
  | putManifest manifest => exact ⟨hsound.1, h.progress hsound.2⟩

theorem Change.manifest_some {m : Manifest} (hm : w.manifest = some m) : w'.manifest = some m := by
  by_cases hev : ev = .published
  · rw [(h.published hev).1] at hm
    cases hm
  · rw [h.manifest hev, hm]

end

/-- **Each call keeps the invariant.** -/
theorem Invariant.change (hinj : Function.Injective (holderOf request)) (hw : Invariant request w)
    (h : Change request a ev w w') : Invariant request w' where
  owned := h.owned hinj hw
  held := h.held hw
  acquired := by
    intro e he hevent
    rw [h.logged] at he
    rcases List.mem_cons.mp he with rfl | he
    · exact h.acquired hevent
    · exact hw.acquired e he hevent
  published := by
    intro newer p older hsplit hevent
    rw [h.logged] at hsplit
    rcases List.cons_eq_append_iff.mp hsplit with ⟨-, hnew⟩ | ⟨rest, -, hold⟩
    · obtain ⟨rfl, rfl⟩ := List.cons.inj hnew
      have hpublished := h.published hevent
      exact ⟨hpublished.2.1, hw.manifest hpublished.1⟩
    · exact hw.published rest p older hold hevent
  manifest := by
    intro hnone e he
    have hev : ev ≠ .published := by
      intro hev
      obtain ⟨m, hm, -⟩ := (h.published hev).2.2
      rw [hm] at hnone
      cases hnone
    rw [h.logged] at he
    rcases List.mem_cons.mp he with rfl | he
    · exact hev
    · exact hw.manifest (by rw [← h.manifest hev]; exact hnone) e he
  pending := by
    intro p hp
    rcases h.pending p hp with hold | ⟨hattempt, hsound⟩
    · exact h.sound (hw.pending p hold)
    · rw [hattempt]
      exact hsound
  lease := by
    intro c etag hetag
    rcases h.lease c etag hetag with hold | hnew
    · exact hw.lease c etag hold
    · exact hnew

/-! ## What the calls of an attempt do -/

section Requests

variable (request)

/-- What an attempt has to know for a call to be one that it may make. -/
def Permitted (a : ι) (w : World ι) : Op → Prop
  | .write (.createLock lock) => lock.holder = holderOf request a ∧ NotAcquired a w
  | .write (.replaceLock _ lock) =>
    lock.holder = holderOf request a ∧ NotAcquired a w ∧ holderOf request a ≠ []
  | .write (.renewLock etag lock) =>
    etag.lock.holder = holderOf request a ∧ lock.holder = holderOf request a
  | .write (.deleteLock etag) => etag.lock.holder = holderOf request a
  | .write (.putManifest manifest) =>
    manifest.sessionID = (request a).manifestID ∧ Progress a beforePublication w.history
  | .readBackLock => holderOf request a ≠ []
  | .setLease etag => etag.lock.holder = holderOf request a
  | _ => True

/-- What a call leaves before it is logged, if it reports `event`.  The request that it makes may be
left under way. -/
structure Leaves (a : ι) (event : Event) (w after : World ι) : Prop where
  history : after.history = w.history
  moves : Moves request a w after
  acquired : event = .acquired → holderOf request a ≠ [] ∧
    ∀ name, after.holder = some name → name = [] ∨ name = holderOf request a
  renewed : event = .renewed →
    w.holder = some (holderOf request a) ∧ after.holder = some (holderOf request a)
  published : event = .published → w.manifest = none ∧ Progress a beforePublication w.history ∧
    ∃ m, after.manifest = some m ∧ m.sessionID = (request a).manifestID
  manifest : event ≠ .published → after.manifest = w.manifest
  pending : ∀ p ∈ after.pending, p ∈ w.pending ∨ (p.1 = a ∧ Sound request a w p.2)
  lease : ∀ b etag, after.lease b = some etag →
    w.lease b = some etag ∨ etag.lock.holder = holderOf request b

end Requests

variable {x : Write} {after : World ι} {version : Nat} {op : Op}

/-- What is known of a request stays known after another call of its attempt. -/
theorem Sound.log {entry : Entry ι} (h : Sound request a w x)
    (hhistory : after.history = w.history) : Sound request a (after.log entry) x := by
  cases x with
  | createLock lock | replaceLock etag lock | renewLock etag lock | deleteLock etag => exact h
  | putManifest manifest =>
    refine ⟨h.1, ?_⟩
    simp only [World.log, hhistory]
    exact h.2.append [_]

theorem Leaves.change (h : Leaves request a ev w after) :
    Change request a ev w (after.log ⟨a, ev, after.holder⟩) where
  logged := by simp [World.log, h.history, World.holder]
  moves := h.moves
  acquired := h.acquired
  renewed := h.renewed
  published := h.published
  manifest := h.manifest
  pending := by
    intro p hp
    rcases h.pending p hp with hold | ⟨hattempt, hsound⟩
    · exact .inl hold
    · exact .inr ⟨hattempt, hsound.log h.history⟩
  lease := h.lease

theorem Leaves.of_same (hlock : after.lock = w.lock) (hmanifest : after.manifest = w.manifest)
    (hpending : after.pending = w.pending) (hhistory : after.history = w.history)
    (hlease : ∀ b etag, after.lease b = some etag →
      w.lease b = some etag ∨ etag.lock.holder = holderOf request b)
    (hacquired : ev = .acquired → holderOf request a ≠ [] ∧
      ∀ name, w.holder = some name → name = [] ∨ name = holderOf request a)
    (hrenewed : ev ≠ .renewed) (hpublished : ev ≠ .published) : Leaves request a ev w after := by
  have hholder : after.holder = w.holder := by simp [World.holder, hlock]
  exact {
    history := hhistory
    moves := .inl hholder
    acquired := by
      rw [hholder]
      exact hacquired
    renewed := fun h => absurd h hrenewed
    published := fun h => absurd h hpublished
    manifest := fun _ => hmanifest
    pending := fun p hp => .inl (by rw [← hpending]; exact hp)
    lease := hlease }

/-! ### Requests that write -/

/-- **What a request does**: it changes the lock, or puts the manifest where there is none. -/
theorem World.apply_cases (h : w.apply version x = some after) :
    (∃ lock, after = { w with lock := lock }) ∨
      ∃ m, x = .putManifest m ∧ w.manifest = none ∧ after = { w with manifest := some m } := by
  cases x with
  | putManifest m =>
    simp only [World.apply] at h
    split at h
    · cases h
      exact .inr ⟨m, rfl, ‹_›, rfl⟩
    · cases h
  | _ =>
    simp only [World.apply] at h
    split_ifs at h <;> cases h <;> exact .inl ⟨_, rfl⟩

theorem World.apply_frame (h : w.apply version x = some after) :
    after.history = w.history ∧ after.pending = w.pending ∧ after.lease = w.lease := by
  obtain ⟨_, rfl⟩ | ⟨m, -, -, rfl⟩ := World.apply_cases h <;> exact ⟨rfl, rfl, rfl⟩

/-- Only a request for the manifest changes it, and only if there is none. -/
theorem World.apply_manifest (h : w.apply version x = some after) : after.manifest = w.manifest ∨
      ∃ m, x = .putManifest m ∧ w.manifest = none ∧ after.manifest = some m := by
  obtain ⟨_, rfl⟩ | ⟨m, hx, hnone, rfl⟩ := World.apply_cases h
  · exact .inl rfl
  · exact .inr ⟨m, hx, hnone, rfl⟩

theorem World.apply_lock {lock : Lock} {etag : ETag}
    (h : w.apply version (.replaceLock etag lock) = some after ∨
      w.apply version (.renewLock etag lock) = some after) :
    w.holder = some etag.lock.holder ∧ after.lock = some ⟨lock, version⟩ := by
  simp only [World.apply, Option.ite_none_right_eq_some, Option.some.injEq, or_self] at h
  simp [World.holder, h.1, ← h.2]

theorem World.apply_moves (h : w.apply version x = some after) (hsound : Sound request a w x)
    (hmay : x.taking = true → NotAcquired a w) : Moves request a w after := by
  cases x with
  | createLock lock =>
    simp only [World.apply, Option.ite_none_right_eq_some, Option.some.injEq] at h
    have howner : lock.holder = holderOf request a := hsound
    exact .inr (.inl ⟨by simp [World.holder, ← h.2, howner], hmay rfl⟩)
  | replaceLock etag lock =>
    have hlock := World.apply_lock (.inl h)
    have howner : lock.holder = holderOf request a := hsound
    exact .inr (.inl ⟨by simp [World.holder, hlock.2, howner], hmay rfl⟩)
  | renewLock etag lock =>
    have hlock := World.apply_lock (.inr h)
    have hsame : etag.lock.holder = lock.holder := hsound
    exact .inl (by rw [hlock.1, hsame]; simp [World.holder, hlock.2])
  | deleteLock etag =>
    have howner : etag.lock.holder = holderOf request a := hsound
    simp only [World.apply] at h
    split_ifs at h with hnone hsome
    · cases h
      exact .inl rfl
    · cases h
      exact .inr (.inr ⟨by simp [World.holder, hsome, howner], rfl⟩)
  | putManifest manifest =>
    simp only [World.apply] at h
    cases hm : w.manifest with
    | none =>
      simp only [hm, Option.some.injEq] at h
      exact .inl (by simp [World.holder, ← h])
    | some m => simp [hm] at h

theorem Leaves.of_write {base : World ι} (hsound : Sound request a w x)
    (hmay : x.taking = true → NotAcquired a w) (hbase : base = w ∨ w.apply version x = some base)
    (hlock : after.lock = base.lock)
    (hmanifest : after.manifest = base.manifest) (hhistory : after.history = base.history)
    (hlease : after.lease = base.lease)
    (hpending : ∀ p ∈ after.pending, p ∈ base.pending ∨ p = (a, x))
    (hacquired : ev = .acquired → holderOf request a ≠ [] ∧
      ∀ name, after.holder = some name → name = [] ∨ name = holderOf request a)
    (hrenewed : ev = .renewed →
      w.holder = some (holderOf request a) ∧ after.holder = some (holderOf request a))
    (hpublished : ev = .published ↔ w.manifest.isNone ∧ after.manifest.isSome) :
    Leaves request a ev w after := by
  have hframe : base.history = w.history ∧ base.pending = w.pending ∧ base.lease = w.lease := by
    rcases hbase with rfl | happly
    · exact ⟨rfl, rfl, rfl⟩
    · exact World.apply_frame happly
  have hwritten : base.manifest = w.manifest ∨
      ∃ m, x = .putManifest m ∧ w.manifest = none ∧ base.manifest = some m := by
    rcases hbase with rfl | happly
    · exact .inl rfl
    · exact World.apply_manifest happly
  have hholder : after.holder = base.holder := by simp [World.holder, hlock]
  refine
    { history := hhistory.trans hframe.1
      moves := ?_
      acquired := hacquired
      renewed := hrenewed
      published := ?_
      manifest := ?_
      pending := ?_
      lease := fun b etag hetag => .inl (by rw [← hframe.2.2, ← hlease]; exact hetag) }
  · rcases hbase with rfl | happly
    · exact .inl hholder
    · have hmoves := World.apply_moves happly hsound hmay
      unfold Moves at hmoves ⊢
      rw [hholder]
      exact hmoves
  · intro hev
    obtain ⟨hnone, hsome⟩ := hpublished.mp hev
    rcases hwritten with hsame | ⟨m, rfl, hempty, hm⟩
    · rw [hmanifest, hsame] at hsome
      simp [Option.isNone_iff_eq_none.mp hnone] at hsome
    · exact ⟨hempty, hsound.2, m, hmanifest.trans hm, hsound.1⟩
  · intro hev
    rcases hwritten with hsame | ⟨m, -, hempty, hm⟩
    · exact hmanifest.trans hsame
    · exact absurd (hpublished.mpr ⟨by simp [hempty], by simp [hmanifest, hm]⟩) hev
  · intro p hp
    rcases hpending p hp with hold | rfl
    · exact .inl (by rw [← hframe.2.1]; exact hold)
    · exact .inr ⟨rfl, hsound⟩

/-! ### Every call -/

theorem outcome_ne_published (holder : Text) (op : Op) (r : Reply op) :
    outcome holder op r ≠ .published := by
  unfold outcome
  split <;> first | decide | (split_ifs <;> decide)

theorem event_published_iff {holder : Text} {r : Reply op} {w : World ι} :
    event holder op r w after = .published ↔ w.manifest.isNone ∧ after.manifest.isSome := by
  unfold event
  by_cases h : w.manifest.isNone ∧ after.manifest.isSome
  · simp [h]
  · simp only [if_neg h]
    exact ⟨fun hev => absurd hev (outcome_ne_published _ _ _), fun h' => absurd h' h⟩

/-- The event is what the answer means, as long as the manifest stays. -/
theorem event_of_same {holder : Text} {r : Reply op} {w : World ι}
    (h : after.manifest = w.manifest) : event holder op r w after = outcome holder op r := by
  unfold event
  rw [if_neg]
  rw [h]
  cases w.manifest <;> simp

theorem event_cases {holder : Text} {r : Reply op} {w : World ι} {e : Event}
    (h : event holder op r w after = e) (he : e ≠ .published) : outcome holder op r = e := by
  unfold event at h
  split_ifs at h
  · exact absurd h.symm he
  · exact h

theorem Permitted.sound (h : Permitted request a w (.write x)) :
    Sound request a w x ∧ (x.taking = true → NotAcquired a w) := by
  cases x with
  | createLock lock => exact ⟨h.1, fun _ => h.2⟩
  | replaceLock etag lock => exact ⟨h.1, fun _ => h.2.1⟩
  | renewLock etag lock => exact ⟨h.1.trans h.2.symm, fun htaking => (by cases htaking)⟩
  | deleteLock etag | putManifest manifest => exact ⟨h, fun htaking => (by cases htaking)⟩

/-- A request that is answered with an error reports nothing but a publication. -/
theorem outcome_write_error (holder : Text) (x : Write) (e : StoreError) :
    outcome holder (.write x) (.error e) = .other := by
  cases x <;> rfl

/-- A request that meets its condition reports success only if the lock names the attempt. -/
theorem Leaves.of_written {etag : Option ETag} (hperm : Permitted request a w (.write x))
    (happly : w.apply version x = some after) :
    Leaves request a (event (holderOf request a) (.write x) (.ok etag) w after) w after := by
  refine Leaves.of_write hperm.sound.1 hperm.sound.2 (.inr happly) rfl rfl rfl rfl
    (fun p hp => .inl hp) ?_ ?_ event_published_iff
  · intro hev
    have hout := event_cases hev (by decide)
    cases x with
    | replaceLock expired lock =>
      refine ⟨hperm.2.2, fun name hname => .inr ?_⟩
      simp only [World.holder, (World.apply_lock (.inl happly)).2, Option.map_some,
        Option.some.injEq] at hname
      exact hname.symm.trans hperm.1
    | renewLock current lock => cases etag <;> cases hout
    | createLock lock | deleteLock etag | putManifest manifest => cases hout
  · intro hev
    have hout := event_cases hev (by decide)
    cases x with
    | renewLock current lock =>
      obtain ⟨hbefore, hafter⟩ := World.apply_lock (.inr happly)
      exact ⟨by rw [hbefore, hperm.1], by simp [World.holder, hafter, hperm.2]⟩
    | replaceLock expired lock => cases etag <;> cases hout
    | createLock lock | deleteLock etag | putManifest manifest => cases hout

theorem Leaves.of_failed (version : Nat) {e : StoreError} {base : World ι}
    (hperm : Permitted request a w (.write x)) (hbase : base = w ∨ w.apply version x = some base)
    (hlock : after.lock = base.lock) (hmanifest : after.manifest = base.manifest)
    (hhistory : after.history = base.history) (hlease : after.lease = base.lease)
    (hpending : ∀ p ∈ after.pending, p ∈ base.pending ∨ p = (a, x)) :
    Leaves request a (event (holderOf request a) (.write x) (.error e) w after) w after := by
  have hnot : ∀ event', event' ≠ .published → event' ≠ .other →
      event (holderOf request a) (.write x) (.error e) w after ≠ event' := by
    intro event' hpublished hother hev
    have hout := event_cases hev hpublished
    rw [outcome_write_error] at hout
    exact hother hout.symm
  refine Leaves.of_write hperm.sound.1 hperm.sound.2 hbase hlock hmanifest hhistory hlease hpending
    ?_ ?_ event_published_iff
  · exact fun hev => absurd hev (hnot _ (by decide) (by decide))
  · exact fun hev => absurd hev (hnot _ (by decide) (by decide))

def Event.ofLock : Event → Bool
  | .acquired | .renewed => true
  | _ => false

/-- A call that leaves the recovery point alone and whose answer does not mean that the lock is
acquired or renewed. -/
theorem Leaves.of_other {r : Reply op} (hlock : after.lock = w.lock)
    (hmanifest : after.manifest = w.manifest) (hpending : after.pending = w.pending)
    (hhistory : after.history = w.history) (hlease : ∀ b etag, after.lease b = some etag →
      w.lease b = some etag ∨ etag.lock.holder = holderOf request b)
    (hout : (outcome (holderOf request a) op r).ofLock = false) :
    Leaves request a (event (holderOf request a) op r w after) w after := by
  rw [event_of_same hmanifest]
  refine .of_same hlock hmanifest hpending hhistory hlease ?_ ?_ (outcome_ne_published _ _ _)
  · intro hev
    simp [hev, Event.ofLock] at hout
  · intro hev
    simp [hev, Event.ofLock] at hout

theorem Leaves.of_readBack (hperm : Permitted request a w .readBackLock) :
    Leaves request a (event (holderOf request a) .readBackLock (.ok w.lock) w w) w w := by
  rw [event_of_same rfl]
  refine .of_same rfl rfl rfl rfl (fun _ _ h => .inl h) ?_ ?_ (outcome_ne_published _ _ _)
  · intro hev
    refine ⟨hperm, fun name hname => ?_⟩
    cases hlock : w.lock with
    | none => simp [World.holder, hlock] at hname
    | some current =>
      simp only [World.holder, hlock, Option.map_some, Option.some.injEq] at hname
      simp only [hlock, outcome] at hev
      split_ifs at hev with hother
      rw [← hname]
      by_cases hempty : current.lock.holder = []
      · exact .inl hempty
      · exact .inr (by_contra fun hne => hother ⟨hempty, hne⟩)
  · cases w.lock with
    | none => simp [outcome]
    | some current =>
      simp only [outcome]
      split_ifs <;> decide

variable [DecidableEq ι]

/-- A call that leaves the recovery point and the leases alone and may end the context. -/
theorem Leaves.of_idle {r : Reply op} (h : after = w ∨ after = w.cancel a)
    (hout : (outcome (holderOf request a) op r).ofLock = false) :
    Leaves request a (event (holderOf request a) op r w after) w after := by
  rcases h with rfl | rfl <;> exact .of_other rfl rfl rfl rfl (fun _ _ h => .inl h) hout

/-- A request without an answer, on a context that may have ended. -/
theorem Leaves.of_unanswered {e : StoreError} {base : World ι}
    (hperm : Permitted request a w (.write x)) (hbase : Unanswered a w version x base)
    (hafter : after = base ∨ after = base.cancel a) :
    Leaves request a (event (holderOf request a) (.write x) (.error e) w after) w after := by
  have hsame : after.lock = base.lock ∧ after.manifest = base.manifest ∧
      after.history = base.history ∧ after.lease = base.lease ∧ after.pending = base.pending := by
    rcases hafter with rfl | rfl <;> exact ⟨rfl, rfl, rfl, rfl, rfl⟩
  obtain ⟨hlock, hmanifest, hhistory, hlease, hpending⟩ := hsame
  rcases hbase with rfl | happly | rfl
  · exact .of_failed version hperm (.inl rfl) hlock hmanifest hhistory hlease
      fun p hp => .inl (by rw [← hpending]; exact hp)
  · exact .of_failed version hperm (.inr happly) hlock hmanifest hhistory hlease
      fun p hp => .inl (by rw [← hpending]; exact hp)
  · refine .of_failed version hperm (.inl rfl) hlock hmanifest hhistory hlease fun p hp => ?_
    rw [hpending] at hp
    exact (List.mem_cons.mp hp).symm

/-- **What each call of an attempt does.** -/
theorem Answered.leaves {r : Reply op} (hperm : Permitted request a w op)
    (h : Answered a w op r after) :
    Leaves request a (event (holderOf request a) op r w after) w after := by
  cases h with
  | written _ happly _ => exact .of_written hperm happly
  | @refused x version _ _ =>
    exact .of_failed version hperm (.inl rfl) rfl rfl rfl rfl fun p hp => .inl hp
  | noBucket _ => exact .of_failed 0 hperm (.inl rfl) rfl rfl rfl rfl fun p hp => .inl hp
  | failed _ _ hbase => exact .of_unanswered hperm hbase (.inl rfl)
  | cancelled hbase => exact .of_unanswered hperm hbase (.inr rfl)
  | readBackLock _ => exact .of_readBack hperm
  | readLock _ => exact .of_idle (.inl rfl) rfl
  | readLockFailed hafter | readBackLockFailed hafter | contextErr hafter =>
    exact .of_idle hafter rfl
  | @inventory answer =>
    cases answer <;> exact .of_idle (.inl rfl) rfl
  | now | untilDeadline | readManifest | readManifestFailed | startTool | awaitTool
  | verifyPVCIdentity | external | currentLease => exact .of_idle (.inl rfl) rfl
  | @setLease etag =>
    refine .of_other rfl rfl rfl rfl ?_ rfl
    intro b etag' hetag
    by_cases hb : b = a
    · subst hb
      simp only [Function.update_self, Option.some.injEq] at hetag
      rw [← hetag]
      exact .inr hperm
    · simp only [Function.update_of_ne hb] at hetag
      exact .inl hetag
  | startRenewal | stopRenewal | takeLeaseError | abort =>
    exact .of_other rfl rfl rfl rfl (fun _ _ h => .inl h) rfl

end Backup

end PvcMigrate
