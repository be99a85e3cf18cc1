import Mathlib.Data.List.Basic
import Mathlib.Tactic.Common

/-!
# Records with finalizers

A server keeps a record under a name.  Every change of the record gives it a new version, and a
write names the version it is based on.  A record that is deleted while it has finalizers stays,
marked as being deleted, until its last finalizer is removed; meanwhile no finalizer can be added.

Several parties change a record.  One of them owns some of the finalizers and the payload; the
others may ask for the deletion of the record and may add and remove finalizers of their own.
`Aged` says what the owner can rely on, however much the others have done.
-/

/-- A stored record: its identity, its version and the version of its specification, the finalizers,
whether it is being deleted, and the rest. -/
structure Record (α : Type) where
  uid : Nat
  version : Nat
  generation : Nat
  finalizers : List String
  deleting : Bool
  payload : α
deriving DecidableEq

/-- Why the server refuses a request. -/
inductive Refusal
  | notFound
  | alreadyExists
  | conflict
  | invalid
  | failed
  /-- The namespace of a new object is being terminated. -/
  | terminating
deriving DecidableEq

namespace Record

variable {α : Type} {own : List String} {clock clock' clock'' : Nat} {r s t : Record α}
  {slot slot' slot'' : Option (Record α)}

/-- A record that is being deleted goes with its last finalizer. -/
def kept (r : Record α) : Option (Record α) :=
  if r.deleting = true ∧ r.finalizers = [] then none else some r

/-- Ask for the deletion of a record. -/
def condemned (clock : Nat) (r : Record α) : Option (Record α) :=
  if r.finalizers = [] then none
  else if r.deleting then some r
  else some { r with deleting := true, generation := r.generation + 1, version := clock }

/-- Write a record, based on one version of it. -/
def revise (clock : Nat) (slot : Option (Record α)) (uid version : Nat)
    (change : Record α → Record α) : Except Refusal (Record α) × Option (Record α) :=
  match slot with
  | none => (.error .notFound, none)
  | some r =>
    if r.uid ≠ uid ∨ r.version ≠ version then (.error .conflict, some r)
    else if r.deleting = true ∧ ∃ f ∈ (change r).finalizers, f ∉ r.finalizers then
      (.error .invalid, some r)
    else
      let next : Record α :=
        ⟨r.uid, clock, r.generation, (change r).finalizers, r.deleting, (change r).payload⟩
      (.ok next, next.kept)

/-- Delete a record, based on one version of it. -/
def delete (clock : Nat) (slot : Option (Record α)) (uid version : Nat) :
    Except Refusal Unit × Option (Record α) :=
  match slot with
  | none => (.error .notFound, none)
  | some r =>
    if r.uid ≠ uid ∨ r.version ≠ version then (.error .conflict, some r)
    else (.ok (), r.condemned clock)

/-! ## What the others do -/

/-- A change by another party: it asks for the deletion of the record, or it changes the finalizers
that are not the owner's. -/
inductive Others (own : List String) (clock : Nat) :
    Option (Record α) → Option (Record α) → Prop
  | delete {r : Record α} : Others own clock (some r) (r.condemned clock)
  | finalizers {r : Record α} {finalizers : List String} :
      (∀ f ∈ own, f ∈ finalizers ↔ f ∈ r.finalizers) →
      (r.deleting = true → ∀ f ∈ finalizers, f ∈ r.finalizers) →
      Others own clock (some r) (kept { r with finalizers := finalizers, version := clock })

/-- The record `r`, some time later: what the owner has written is unchanged, and a change has given
it a version between `since` and `upto`. -/
structure Later (own : List String) (since upto : Nat) (r t : Record α) : Prop where
  uid : t.uid = r.uid
  payload : t.payload = r.payload
  own : ∀ f ∈ own, f ∈ t.finalizers ↔ f ∈ r.finalizers
  deleting : r.deleting = true → t.deleting = true
  generation : t.deleting = false → t.generation = r.generation
  version : t = r ∨ since ≤ t.version ∧ t.version < upto

/-- What the others can make of a record: a later state of it, or nothing if the owner does not
protect it. -/
def Aged (own : List String) (since upto : Nat) : Option (Record α) → Option (Record α) → Prop
  | none, slot => slot = none
  | some r, none => ∀ f ∈ own, f ∉ r.finalizers
  | some r, some t => r.Later own since upto t

theorem Later.refl (r : Record α) : r.Later own clock clock' r :=
  ⟨rfl, rfl, fun _ _ => Iff.rfl, id, fun _ => rfl, .inl rfl⟩

theorem Later.trans (hr : r.Later own clock clock' s) (hs : s.Later own clock' clock'' t)
    (hclock : clock ≤ clock') (hclock' : clock' ≤ clock'') : r.Later own clock clock'' t where
  uid := hs.uid.trans hr.uid
  payload := hs.payload.trans hr.payload
  own := fun f hf => (hs.own f hf).trans (hr.own f hf)
  deleting := fun h => hs.deleting (hr.deleting h)
  generation := by
    intro h
    have hkept : s.deleting = false := by
      cases hdeleting : s.deleting with
      | false => rfl
      | true => rw [hs.deleting hdeleting] at h; cases h
    exact (hs.generation h).trans (hr.generation hkept)
  version := by
    rcases hs.version with rfl | hversion
    · rcases hr.version with heq | hversion
      · exact .inl heq
      · exact .inr (by omega)
    · exact .inr (by omega)

theorem Aged.refl (slot : Option (Record α)) : Aged own clock clock' slot slot := by
  cases slot with
  | none => rfl
  | some r => exact Later.refl r

theorem Aged.trans (h : Aged own clock clock' slot slot')
    (h' : Aged own clock' clock'' slot' slot'')
    (hclock : clock ≤ clock') (hclock' : clock' ≤ clock'') :
      Aged own clock clock'' slot slot'' := by
  cases slot with
  | none =>
    obtain rfl : slot' = none := h
    exact h'
  | some r =>
    cases slot' with
    | none =>
      obtain rfl : slot'' = none := h'
      exact h
    | some s =>
      cases slot'' with
      | none => exact fun f hf hmem => h' f hf (((Later.own h) f hf).mpr hmem)
      | some t => exact Later.trans h h' hclock hclock'

/-- Asking for the deletion of a record is something that anyone may do. -/
theorem aged_condemned (r : Record α) :
    Aged own clock (clock + 1) (some r) (r.condemned clock) := by
  unfold condemned
  split
  · rename_i hnone
    intro f _ hmem
    rw [hnone] at hmem
    cases hmem
  · split
    · exact Later.refl r
    · exact ⟨rfl, rfl, fun _ _ => Iff.rfl, fun _ => rfl, nofun,
        .inr ⟨Nat.le_refl _, Nat.lt_succ_self _⟩⟩

theorem aged_delete (slot : Option (Record α)) (uid version : Nat) :
    Aged own clock (clock + 1) slot (delete clock slot uid version).2 := by
  cases slot with
  | none => rfl
  | some r =>
    unfold delete
    dsimp only
    split
    · exact Later.refl r
    · exact aged_condemned r

theorem Others.aged (h : Others own clock slot slot') :
    Aged own clock (clock + 1) slot slot' := by
  cases h with
  | delete => exact aged_condemned _
  | @finalizers r finalizers hown _ =>
    unfold kept
    split
    · rename_i hgone
      intro f hf hmem
      have hnone : finalizers = [] := hgone.2
      have := (hown f hf).mpr hmem
      rw [hnone] at this
      cases this
    · exact ⟨rfl, rfl, hown, id, fun _ => rfl, .inr ⟨Nat.le_refl _, Nat.lt_succ_self _⟩⟩

/-- A record that the owner protects stays. -/
theorem Aged.protected (h : Aged own clock clock' (some r) slot') {f : String} (hf : f ∈ own)
    (hmem : f ∈ r.finalizers) : ∃ t, slot' = some t ∧ r.Later own clock clock' t := by
  cases slot' with
  | none => exact absurd hmem (h f hf)
  | some t => exact ⟨t, rfl, h⟩

/-- A record that is there has been there. -/
theorem Aged.of_some (h : Aged own clock clock' slot (some t)) :
    ∃ r, slot = some r ∧ r.Later own clock clock' t := by
  cases slot with
  | none => cases h
  | some r => exact ⟨r, rfl, h⟩

/-! ## What a party has read -/

/-- The record has been read as `s`: with the version of `s` it is still the same, and its identity
and payload have not changed. -/
structure Seen (s : Record α) (clock : Nat) (slot : Option (Record α)) : Prop where
  version : s.version < clock
  same : ∀ r, slot = some r → r.version = s.version → r = s
  uid : ∀ r, slot = some r → r.uid = s.uid
  payload : ∀ r, slot = some r → r.payload = s.payload

/-- No record is newer than the clock. -/
def Dated (clock : Nat) (slot : Option (Record α)) : Prop := ∀ r, slot = some r → r.version < clock

theorem Dated.seen (h : Dated clock (some s)) : Seen s clock (some s) where
  version := h s rfl
  same := fun _ hr _ => (Option.some.inj hr).symm
  uid := fun _ hr => by cases hr; rfl
  payload := fun _ hr => by cases hr; rfl

theorem Dated.aged (h : Dated clock slot) (haged : Aged own clock clock' slot slot')
    (hclock : clock ≤ clock') : Dated clock' slot' := by
  rintro t rfl
  obtain ⟨r, hr, hlater⟩ := haged.of_some
  rcases hlater.version with rfl | hnew
  · exact Nat.lt_of_lt_of_le (h _ hr) hclock
  · exact hnew.2

theorem Dated.succ (h : Dated clock slot) : Dated (clock + 1) slot :=
  fun r hr => Nat.lt_succ_of_lt (h r hr)

theorem Seen.aged (h : Seen s clock slot) (haged : Aged own clock clock' slot slot')
    (hclock : clock ≤ clock') : Seen s clock' slot' where
  version := Nat.lt_of_lt_of_le h.version hclock
  same := by
    rintro t rfl hversion
    obtain ⟨r, hr, hlater⟩ := haged.of_some
    rcases hlater.version with rfl | hnew
    · exact h.same _ hr hversion
    · have := h.version
      omega
  uid := by
    rintro t rfl
    obtain ⟨r, hr, hlater⟩ := haged.of_some
    exact hlater.uid.trans (h.uid r hr)
  payload := by
    rintro t rfl
    obtain ⟨r, hr, hlater⟩ := haged.of_some
    exact hlater.payload.trans (h.payload r hr)

theorem Seen.succ (h : Seen s clock slot) : Seen s (clock + 1) slot :=
  ⟨Nat.lt_succ_of_lt h.version, h.same, h.uid, h.payload⟩

/-! ## What a write does -/

theorem kept_of_not_deleting (h : r.deleting = false) : r.kept = some r := by
  unfold kept
  rw [if_neg]
  rw [h]
  exact fun hgone => absurd hgone.1 Bool.false_ne_true

theorem kept_of_finalizers (h : r.finalizers ≠ []) : r.kept = some r := by
  unfold kept
  rw [if_neg]
  exact fun hgone => h hgone.2

theorem kept_eq_some (h : r.kept = some t) : t = r := by
  unfold kept at h
  split at h
  · cases h
  · exact (Option.some.inj h).symm

theorem dated_kept (h : r.version = clock) : Dated (clock + 1) r.kept := by
  intro t ht
  rw [kept_eq_some ht, h]
  exact Nat.lt_succ_self clock

/-- A write that takes effect: the record had the expected version, no finalizer was added to a
record that is being deleted, and the new record is what the server keeps. -/
theorem revise_cases (clock : Nat) (slot : Option (Record α)) (uid version : Nat)
    (change : Record α → Record α) :
    (∃ e, revise clock slot uid version change = (.error e, slot)) ∨
      ∃ r, slot = some r ∧ r.uid = uid ∧ r.version = version ∧
        (r.deleting = true → ∀ f ∈ (change r).finalizers, f ∈ r.finalizers) ∧
        revise clock slot uid version change =
          (.ok ⟨r.uid, clock, r.generation, (change r).finalizers, r.deleting, (change r).payload⟩,
            kept ⟨r.uid, clock, r.generation, (change r).finalizers, r.deleting,
              (change r).payload⟩) := by
  cases slot with
  | none => exact .inl ⟨_, rfl⟩
  | some r =>
    unfold revise
    dsimp only
    split
    · exact .inl ⟨_, rfl⟩
    · rename_i hversion
      push Not at hversion
      split
      · exact .inl ⟨_, rfl⟩
      · rename_i hadded
        push Not at hadded
        exact .inr ⟨r, rfl, hversion.1, hversion.2, hadded, rfl⟩

/-- A write that is based on the current version. -/
theorem revise_current (change : Record α → Record α) {uid version : Nat} (huid : r.uid = uid)
    (hversion : r.version = version)
    (hallowed : r.deleting = true → ∀ f ∈ (change r).finalizers, f ∈ r.finalizers) :
    revise clock (some r) uid version change =
      (.ok ⟨r.uid, clock, r.generation, (change r).finalizers, r.deleting, (change r).payload⟩,
        kept ⟨r.uid, clock, r.generation, (change r).finalizers, r.deleting,
          (change r).payload⟩) := by
  unfold revise
  dsimp only
  rw [if_neg, if_neg]
  · push Not
    exact hallowed
  · push Not
    exact ⟨huid, hversion⟩

theorem delete_current (r : Record α) :
    delete clock (some r) r.uid r.version = (.ok (), r.condemned clock) := by
  unfold delete
  dsimp only
  rw [if_neg]
  push Not
  exact ⟨rfl, rfl⟩

end Record
