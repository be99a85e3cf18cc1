import PvcMigrate.Kube.Binding
import PvcMigrate.Lib.Interleaving

/-!
# Who a volume belongs to

A workflow takes a volume by putting its session's label on it.  In the same update it records the
reclaim policy that the volume had and sets `Retain`.  Four functions do that or work on a volume
that was taken: `ensureRetain`, `markPVPair` and `updatePVReservation` of the switcher and
`retainPV` of the reserver.  `finalizeActivePV` (`app/source_release.go`) gives the volume back.

Each of them reads the volume, checks it and writes it, and the API server refuses the write if the
volume has changed since.  So a write meets the volume that was checked, and `Change` can say what a
write of a session does as a relation between the volume before and after it.
-/

namespace PvcMigrate.Kube

open Prog

variable {ρ : Type}

/-! ## Programs -/

/-- `Reserver.retainPV`. -/
def Reserver.retainPV (name : String) (uid : UID) (sessionID role : String) : Switch ρ Unit := do
  reject (name = "" ∨ uid = none ∨ sessionID = "" ∨ role = "")
    (newError .validation "retain PV" "PV name, UID, session ID, and role are required")
  wrapUnlessConflict "retain PV" s!"update PV {name}"
    (retryOnConflict
      (amendPV "retain PV" ⟨"", name, uid⟩ sessionID false (Kube.retainPV sessionID role))
        defaultRetry)

/-- The roles in which `finalizeActivePV` gives a volume back. -/
def volumeRoles : List String := ["active", "source", "rename", "destination", "rollback"]

def givenBackLabels (labels : StringMap) : StringMap :=
  let rest := (labels.erase sessionKey).erase resourceRoleLabel
  if rest.get managedByLabel = managedByValue then rest.erase managedByLabel else rest

def PV.givenBack (pv : PV) (policy : ReclaimPolicy) : PV :=
  { pv with
    reclaimPolicy := policy
    labels := givenBackLabels pv.labels
    annotations := (pv.annotations.erase originalPolicyAnnotation).erase pairedPVAnnotation }

/-- The volume has been given back with the policy. -/
def PV.IsGivenBack (pv : PV) (policy : ReclaimPolicy) : Prop :=
  pv.labels.get sessionKey = "" ∧ pv.labels.get resourceRoleLabel = "" ∧ pv.reclaimPolicy = policy ∧
    pv.annotations.get originalPolicyAnnotation = ""

instance (pv : PV) (policy : ReclaimPolicy) : Decidable (pv.IsGivenBack policy) :=
  inferInstanceAs (Decidable (_ ∧ _))

/-- The volume is another one, or it is not the session's. -/
def ownershipChanged (ref : ObjectReference) : Failure :=
  newError .conflict "finalize active PV" s!"PV {ref.name} identity, ownership, or role changed"

/-- One attempt of `finalizeActivePV`. -/
def giveBackPV (sessionID : String) (ref : ObjectReference) (policy : ReclaimPolicy) :
    Switch ρ Unit := do
  match ← Api.getPV ref.name with
  | none => fail (.api .notFound)
  | some pv => do
    reject (pv.uid ≠ ref.uid) (ownershipChanged ref)
    if pv.IsGivenBack policy then pure ()
    else do
      reject (pv.labels.get sessionKey ≠ sessionID ∨ pv.labels.get resourceRoleLabel ∉ volumeRoles)
        (ownershipChanged ref)
      updatePV (pv.givenBack policy)

/-- `finalizeActivePV`; a policy that was not recorded is `none`. -/
def finalizeActivePV (sessionID : String) (ref : ObjectReference) :
    Option ReclaimPolicy → Switch ρ Unit
  | none => fail (newError .precondition "finalize active PV"
      s!"PV {ref.name} has no recorded reclaim policy")
  | some policy => wrapUnlessConflict "finalize active PV" s!"update PV {ref.name}"
      (retryOnConflict (giveBackPV sessionID ref policy) defaultRetry)

/-- `resolvedSourcePolicy`: what the first protection recorded, or else what was planned. -/
def resolvedSourcePolicy (ref : ObjectReference) (planned : Option ReclaimPolicy) :
    Switch ρ (Option ReclaimPolicy) :=
  if ref.name = "" then pure planned
  else do
    match ← Api.getPV ref.name with
    | none => pure planned
    | some pv =>
      if pv.uid ≠ ref.uid then pure planned
      else match reclaimPolicyOf (pv.annotations.get originalPolicyAnnotation) with
        | some policy => pure (some policy)
        | none => pure planned

/-- A volume is given back with the policy that is resolved. -/
def giveBack (sessionID : String) (ref : ObjectReference) (planned : Option ReclaimPolicy) :
    Switch ρ Unit := do
  let policy ← resolvedSourcePolicy ref planned
  finalizeActivePV sessionID ref policy

/-! ## What a write does -/

/-- A write of a session that protects a volume; `R` restricts the roles. -/
inductive Protects (sessionID : String) (R : String → Prop) (pv : PV) : PV → Prop
  | retain {role : String} : sessionID ≠ "" → R role → pv.Ours sessionID →
      Protects sessionID R pv (Kube.retainPV sessionID role pv).1.stored
  | pair {role other : String} : sessionID ≠ "" → R role → pv.Ours sessionID →
      Protects sessionID R pv (pairPV sessionID role other pv).1.stored
  | reserve {ns claim : String} : pv.Ours sessionID →
      Protects sessionID R pv (pv.reservedFor ns claim).stored

/-- A write of a session. -/
inductive Change (sessionID : String) (R : String → Prop) (pv : PV) : PV → Prop
  | protect {pv' : PV} : Protects sessionID R pv pv' → Change sessionID R pv pv'
  | giveBack {policy : ReclaimPolicy} : pv.labels.get sessionKey = sessionID →
      Change sessionID R pv (pv.givenBack policy).stored

/-- One volume is written, or nothing happens. -/
def Writes (P : PV → PV → Prop) (w w' : World ρ) : Prop :=
  w' = w ∨ ∃ name pv pv', w.volumes name = some pv ∧ P pv pv' ∧ w' = w.setVolume name (some pv')

/-- A write keeps the name and the UID of a volume and raises its version. -/
def Raises (P : PV → PV → Prop) : Prop :=
  ∀ pv pv', P pv pv' →
    pv'.name = pv.name ∧ pv'.uid = pv.uid ∧ pv'.resourceVersion = pv.resourceVersion + 1

variable {sessionID : String} {R : String → Prop} {pv pv' : PV} {P : PV → PV → Prop}
  {w w' : World ρ}

theorem raises_protects : Raises (Protects sessionID R) := by
  intro pv pv' h
  cases h with
  | @retain role =>
    exact ⟨pins_retainPV.name pv, pins_retainPV.uid pv,
      congrArg (· + 1) (pins_retainPV.resourceVersion pv)⟩
  | @pair role other =>
    exact ⟨pins_pairPV.name pv, pins_pairPV.uid pv,
      congrArg (· + 1) (pins_pairPV.resourceVersion pv)⟩
  | reserve => exact ⟨rfl, rfl, rfl⟩

theorem raises_change : Raises (Change sessionID R) := by
  intro pv pv' h
  cases h with
  | protect h => exact raises_protects pv pv' h
  | giveBack => exact ⟨rfl, rfl, rfl⟩

/-! ## Later states -/

/-- The API server keeps a volume under its name. -/
def World.Keyed (w : World ρ) : Prop := ∀ name pv, w.volumes name = some pv → pv.name = name

/-- The volume is the one that was read, or it has been written since. -/
def Seen (name : String) (pv : PV) (w : World ρ) : Prop :=
  ∃ current, w.volumes name = some current ∧ current.uid = pv.uid ∧
    pv.resourceVersion ≤ current.resourceVersion ∧
    (current.resourceVersion = pv.resourceVersion → current = pv)

/-- Every volume is still there; if its version is the same, so is the volume. -/
structure Later (w w' : World ρ) : Prop where
  seen : ∀ name pv, w.volumes name = some pv → Seen name pv w'
  keyed : w.Keyed → w'.Keyed

theorem Later.seen_of_seen {name : String} (h : Later w w') (hseen : Seen name pv w) :
    Seen name pv w' := by
  obtain ⟨mid, hmid, huid, hle, heq⟩ := hseen
  obtain ⟨current, hcurrent, huid', hle', heq'⟩ := h.seen name mid hmid
  refine ⟨current, hcurrent, huid'.trans huid, hle.trans hle', fun hversion => ?_⟩
  have hmidVersion : mid.resourceVersion = pv.resourceVersion := by omega
  rw [heq' (hversion.trans hmidVersion.symm), heq hmidVersion]

theorem later_refl (w : World ρ) : Later w w :=
  ⟨fun _ pv h => ⟨pv, h, rfl, le_refl _, fun _ => rfl⟩, id⟩

theorem Writes.later (hP : Raises P) (h : Writes P w w') : Later w w' := by
  rcases h with rfl | ⟨name, pv, pv', hpv, hchange, rfl⟩
  · exact later_refl w'
  obtain ⟨hname, huid, hversion⟩ := hP pv pv' hchange
  refine ⟨fun name' other hother => ?_, fun hkeyed name' other hother => ?_⟩
  · by_cases hn : name' = name
    · subst hn
      obtain rfl := Option.some.inj (hother.symm.trans hpv)
      exact ⟨pv', World.volumes_setVolume_self w, huid, by omega, fun h => by omega⟩
    · exact ⟨other, by rw [World.volumes_setVolume_of_ne w hn]; exact hother, rfl, le_refl _,
        fun _ => rfl⟩
  · by_cases hn : name' = name
    · subst hn
      rw [World.volumes_setVolume_self] at hother
      obtain rfl := Option.some.inj hother
      exact hname.trans (hkeyed _ pv hpv)
    · rw [World.volumes_setVolume_of_ne w hn] at hother
      exact hkeyed name' other hother

theorem rely_writes (hP : Raises P) : Rely (Later (ρ := ρ)) (Writes P) where
  refl := later_refl
  trans _ _ _ hab hbc :=
    ⟨fun name pv hpv => hbc.seen_of_seen (hab.seen name pv hpv), fun h => hbc.keyed (hab.keyed h)⟩
  change _ _ h := h.later hP

/-! ## The programs keep their guarantees -/

/-- The program makes only writes that satisfy `P`, whatever others write in between. -/
abbrev Guarded {α : Type} (P : PV → PV → Prop) (A : World ρ → α → Prop) (p : Switch ρ α)
    (w : World ρ) : Prop := p.Guarantees Later (Writes P) exec A w

section Guarded

variable {α β : Type}

theorem guarded_read {op : Op ρ} (hread : op.IsRead) :
    Guarded P (fun _ _ => True) (perform op : Switch ρ op.Reply) w :=
  guarantees_perform fun w' _ => ⟨.inl (exec_of_isRead op hread w'), fun _ _ => trivial⟩

theorem guarded_getPV (hkeyed : w.Keyed) (name : String) :
    Guarded P (fun w' r => ∀ pv, r = some pv → Seen name pv w' ∧ pv.name = name)
      (Api.getPV name : Switch ρ _) w := by
  refine guarantees_perform fun w1 hlater => ⟨.inl rfl, fun w2 hlater2 pv hpv => ?_⟩
  exact ⟨hlater2.seen name pv hpv, hlater.keyed hkeyed name pv hpv⟩

/-- **A write meets the volume that was read.** -/
theorem guarded_updatePV (pv : PV) {new : PV} (hseen : Seen new.name pv w)
    (hversion : new.resourceVersion = pv.resourceVersion) (hP : P pv new.stored) :
    Guarded P (fun _ _ => True) (updatePV new : Switch ρ Unit) w := by
  have hwrite : Guarded P (fun _ _ => True) (Api.updatePV new : Switch ρ _) w := by
    refine guarantees_perform fun w' hlater => ⟨?_, fun _ _ => trivial⟩
    obtain ⟨current, hcurrent, -, -, heq⟩ := hlater.seen_of_seen hseen
    show Writes P w' (w'.update new).2
    simp only [World.update, hcurrent]
    by_cases hstale : current.uid ≠ new.uid ∨ current.resourceVersion ≠ new.resourceVersion
    · rw [if_pos hstale]
      exact .inl rfl
    · rw [if_neg hstale]
      simp only [not_or, not_not] at hstale
      have hsame : current = pv := heq (hstale.2.trans hversion)
      exact .inr ⟨new.name, pv, new.stored, hsame ▸ hcurrent, hP, rfl⟩
  intro w' hlater
  obtain ⟨hchange, -⟩ := hwrite w' hlater
  refine ⟨hchange, ?_⟩
  generalize (exec (Op.updatePV new) w').1 = reply
  cases reply with
  | ok _ => exact fun _ _ => trivial
  | error _ => trivial

theorem guarded_retryOnConflict (hraises : Raises P) {attempt : Switch ρ Unit}
    (hattempt : ∀ w : World ρ, w.Keyed → Guarded P (fun _ _ => True) attempt w) (n : Nat)
    (hkeyed : w.Keyed) : Guarded P (fun _ _ => True) (retryOnConflict attempt n) w := by
  induction n generalizing w with
  | zero => exact hattempt w hkeyed
  | succ n ih =>
    refine (hattempt w hkeyed).tryCatch (rely_writes hraises) fun e w' hlater => ?_
    exact guarantees_ite (fun _ => ih (hlater.keyed hkeyed)) fun _ => trivial

theorem guarded_wrapUnlessConflict (hraises : Raises P) {p : Switch ρ Unit} {op message : String}
    (h : Guarded P (fun _ _ => True) p w) :
    Guarded P (fun _ _ => True) (wrapUnlessConflict op message p) w :=
  h.tryCatch (rely_writes hraises) fun _ _ _ => guarantees_ite (fun _ => trivial) fun _ => trivial

theorem guarded_amendPV (hraises : Raises P) {op : String} {ref : ObjectReference}
    {mayBeMissing : Bool}
    {amend : PV → PV × Bool} {role : String} (hpins : PV.Pins amend sessionID role)
    (hP : ∀ pv : PV, pv.Ours sessionID → P pv (amend pv).1.stored) (hkeyed : w.Keyed) :
    Guarded P (fun _ _ => True)
      (amendPV op ref sessionID mayBeMissing amend : Switch ρ Unit) w := by
  refine (guarded_getPV hkeyed ref.name).bind (rely_writes hraises) fun w1 found hfound => ?_
  cases found with
  | none => exact guarantees_reject
  | some pv =>
    obtain ⟨hseen, hname⟩ := hfound pv rfl
    refine guarantees_reject_bind fun _ => guarantees_reject_bind fun howner => ?_
    refine guarantees_ite (fun _ => fun _ _ => trivial) fun _ => ?_
    have hours : pv.Ours sessionID := by
      by_cases hempty : pv.labels.get sessionKey = ""
      · exact .inl hempty
      · exact .inr (not_not.mp fun hne => howner ⟨hempty, hne⟩)
    refine guarded_updatePV pv ?_ (hpins.resourceVersion pv) (hP pv hours)
    rw [hpins.name pv, hname]
    exact hseen

end Guarded

/-! ## The calls of a session -/

inductive VolumeCall
  | ensureRetain (ref : ObjectReference) (role : String)
  | retainPV (name : String) (uid : UID) (role : String)
  | markPVPair (sourcePV destinationPV : ObjectReference) (rolledBack : Bool)
  | updatePVReservation (ref : ObjectReference) (ns claim : String)
  | finalizeActivePV (ref : ObjectReference) (policy : Option ReclaimPolicy)

namespace VolumeCall

def program (sessionID : String) : VolumeCall → Switch ρ Unit
  | .ensureRetain ref role => Kube.ensureRetain ref sessionID role
  | .retainPV name uid role => Reserver.retainPV name uid sessionID role
  | .markPVPair sourcePV destinationPV rolledBack =>
    Kube.markPVPair sessionID sourcePV destinationPV rolledBack
  | .updatePVReservation ref ns claim =>
    retryOnConflict (Kube.updatePVReservation ref ns claim sessionID) defaultRetry
  | .finalizeActivePV ref policy => Kube.finalizeActivePV sessionID ref policy

def RolesIn (R : String → Prop) : VolumeCall → Prop
  | .ensureRetain _ role | .retainPV _ _ role => R role
  | .markPVPair .. => R "active" ∧ R "rollback"
  | _ => True

def IsProtecting : VolumeCall → Prop
  | .finalizeActivePV .. => False
  | _ => True

end VolumeCall

section Calls

variable (hraises : Raises P) (hprotects : ∀ pv pv', Protects sessionID R pv pv' → P pv pv')

include hraises hprotects

variable {role : String} {ref : ObjectReference}

theorem guarded_retained {op : String} (hid : sessionID ≠ "") (hrole : R role) (hkeyed : w.Keyed) :
    Guarded P (fun _ _ => True)
      (retryOnConflict (amendPV op ref sessionID false (Kube.retainPV sessionID role))
        defaultRetry) w :=
  guarded_retryOnConflict hraises (fun _ hkeyed => guarded_amendPV hraises pins_retainPV
    (fun _ hours => hprotects _ _ (.retain hid hrole hours)) hkeyed) defaultRetry hkeyed

theorem guarded_ensureRetain (hrole : R role) (hkeyed : w.Keyed) :
    Guarded P (fun _ _ => True) (Kube.ensureRetain ref sessionID role : Switch ρ Unit) w := by
  refine guarantees_reject_bind fun hgood => ?_
  simp only [not_or] at hgood
  exact guarded_wrapUnlessConflict hraises
    (guarded_retained hraises hprotects hgood.2.2.1 hrole hkeyed)

theorem guarded_reserverRetainPV {name : String} {uid : UID} (hrole : R role) (hkeyed : w.Keyed) :
    Guarded P (fun _ _ => True) (Reserver.retainPV name uid sessionID role : Switch ρ Unit) w := by
  refine guarantees_reject_bind fun hgood => ?_
  simp only [not_or] at hgood
  exact guarded_wrapUnlessConflict hraises
    (guarded_retained hraises hprotects hgood.2.2.1 hrole hkeyed)

theorem guarded_markPV {rolledBack : Bool} {other : String} (hid : sessionID ≠ "") (hrole : R role)
    (hkeyed : w.Keyed) :
    Guarded P (fun _ _ => True) (markPV sessionID rolledBack ref role other : Switch ρ Unit) w :=
  guarded_wrapUnlessConflict hraises (guarded_retryOnConflict hraises (fun _ hkeyed =>
    guarded_amendPV hraises pins_pairPV (fun _ hours => hprotects _ _ (.pair hid hrole hours))
      hkeyed) defaultRetry hkeyed)

theorem guarded_markPVPair {sourcePV destinationPV : ObjectReference} {rolledBack : Bool}
    (hactive : R "active") (hrollback : R "rollback") (hkeyed : w.Keyed) :
    Guarded P (fun _ _ => True)
      (Kube.markPVPair sessionID sourcePV destinationPV rolledBack : Switch ρ Unit) w := by
  refine guarantees_reject_bind fun hgood => ?_
  simp only [not_or] at hgood
  have hrely : Rely (Later (ρ := ρ)) (Writes P) := rely_writes hraises
  -- the second volume is marked in a later state, which is still keyed
  have hfirst : Guarded P (fun w' _ => w'.Keyed) (markPV sessionID rolledBack
      (if rolledBack then sourcePV else destinationPV) "active"
      (if rolledBack then destinationPV else sourcePV).name : Switch ρ Unit) w :=
    (guarded_markPV hraises hprotects hgood.1 hactive hkeyed).and_later hrely
      (fun _ _ hlater => hlater.keyed) hkeyed
  exact hfirst.bind hrely fun w' _ hkeyed' =>
    guarded_markPV hraises hprotects hgood.1 hrollback hkeyed'

theorem guarded_updatePVReservation {ns claim : String} (hkeyed : w.Keyed) :
    Guarded P (fun _ _ => True)
      (Kube.updatePVReservation ref ns claim sessionID : Switch ρ Unit) w := by
  have hrely : Rely (Later (ρ := ρ)) (Writes P) := rely_writes hraises
  refine (guarded_getPV hkeyed ref.name).bind hrely fun w1 found hfound => ?_
  cases found with
  | none => exact trivial
  | some pv =>
    obtain ⟨hseen, hname⟩ := hfound pv rfl
    refine guarantees_reject_bind fun _ => guarantees_reject_bind fun howner => ?_
    have hours : pv.Ours sessionID := by
      by_cases hempty : pv.labels.get sessionKey = ""
      · exact .inl hempty
      · exact .inr (not_not.mp fun hne => howner ⟨hempty, hne⟩)
    have hupdate : ∀ w2 : World ρ, Seen ref.name pv w2 →
        Guarded P (fun _ _ => True) (updatePV (pv.reservedFor ns claim) : Switch ρ Unit) w2 := by
      intro w2 hseen2
      refine guarded_updatePV pv ?_ rfl (hprotects _ _ (.reserve hours))
      show Seen pv.name pv w2
      rw [hname]
      exact hseen2
    split
    · exact hupdate w1 hseen
    refine guarantees_ite (fun _ => hupdate w1 hseen) fun _ => ?_
    have hread : Guarded P (fun _ _ => True) (Api.getPVC ns claim : Switch ρ _) w1 :=
      guarded_read trivial
    have hclaim : Guarded P (fun w' _ => Seen ref.name pv w')
        (Api.getPVC ns claim : Switch ρ _) w1 :=
      hread.and_later hrely (fun _ _ hlater => hlater.seen_of_seen) hseen
    refine hclaim.bind hrely fun w2 found hseen2 => ?_
    cases found with
    | none => exact guarantees_ite (fun _ => fun _ _ => trivial) fun _ => hupdate w2 hseen2
    | some current => exact guarantees_reject

theorem guarded_protecting {call : VolumeCall} (hcall : call.IsProtecting) (hroles : call.RolesIn R)
    (hkeyed : w.Keyed) :
    Guarded P (fun _ _ => True) (call.program sessionID : Switch ρ Unit) w := by
  cases call with
  | ensureRetain ref role => exact guarded_ensureRetain hraises hprotects hroles hkeyed
  | retainPV name uid role => exact guarded_reserverRetainPV hraises hprotects hroles hkeyed
  | markPVPair sourcePV destinationPV rolledBack =>
    exact guarded_markPVPair hraises hprotects hroles.1 hroles.2 hkeyed
  | updatePVReservation ref ns claim =>
    exact guarded_retryOnConflict hraises
      (fun _ hkeyed => guarded_updatePVReservation hraises hprotects hkeyed) defaultRetry hkeyed
  | finalizeActivePV ref policy => exact hcall.elim

end Calls

theorem guarded_giveBackPV {ref : ObjectReference} {policy : ReclaimPolicy} (hkeyed : w.Keyed) :
    Guarded (Change sessionID R) (fun _ _ => True)
      (giveBackPV sessionID ref policy : Switch ρ Unit) w := by
  refine (guarded_getPV hkeyed ref.name).bind (rely_writes raises_change) fun w1 found hfound => ?_
  cases found with
  | none => exact trivial
  | some pv =>
    obtain ⟨hseen, hname⟩ := hfound pv rfl
    refine guarantees_reject_bind fun _ => guarantees_ite (fun _ => fun _ _ => trivial) fun _ => ?_
    refine guarantees_reject_bind fun howner => ?_
    have howner := not_not.mp (not_or.mp howner).1
    refine guarded_updatePV pv ?_ rfl (.giveBack howner)
    show Seen pv.name pv w1
    rw [hname]
    exact hseen

/-- **Every call of a session** writes as the session may. -/
theorem guarded_program {call : VolumeCall} (hroles : call.RolesIn R) (hkeyed : w.Keyed) :
    Guarded (Change sessionID R) (fun _ _ => True) (call.program sessionID : Switch ρ Unit) w := by
  cases call with
  | finalizeActivePV ref policy =>
    cases policy with
    | none => exact trivial
    | some policy =>
      exact guarded_wrapUnlessConflict raises_change
        (guarded_retryOnConflict raises_change
          (fun _ hkeyed => guarded_giveBackPV hkeyed) defaultRetry hkeyed)
  | _ =>
    exact guarded_protecting raises_change (fun _ _ => .protect) (by trivial) hroles hkeyed

/-! ## Sessions that run at the same time -/

section Sessions

variable {ι : Type} [DecidableEq ι] (session : ι → String)

/-- A process of a session starts any call of it. -/
def SessionStarts (i : ι) (p : Switch ρ Unit) : Prop :=
  ∃ call : VolumeCall, p = call.program (session i)

/-- The processes of sessions on one cluster. -/
abbrev Sessions (ρ ι : Type) := Pool (Op ρ) Op.Reply Failure (World ρ) ι

abbrev SessionStep (c : Sessions ρ ι) (i : ι) (c' : Sessions ρ ι) : Prop :=
  Pool.Step exec (SessionStarts session) c i c'

/-- The session that the label of a volume names. -/
def World.ownerOf (w : World ρ) (name : String) : String :=
  ((w.volumes name).map fun pv => pv.labels.get sessionKey).getD ""

omit [DecidableEq ι] in
theorem disciplined_sessions (session : ι → String) :
    Pool.Disciplined (exec (ρ := ρ)) (SessionStarts session) Later
      (fun i => Writes (Change (session i) fun _ => True)) World.Keyed where
  rely i := rely_writes raises_change
  keeps _ _ h := h.keyed
  starts := by
    intro i p hp w hkeyed
    obtain ⟨call, rfl⟩ := hp
    refine guarded_program ?_ hkeyed
    cases call <;> simp [VolumeCall.RolesIn]

/-- A write of a session to a volume of another one leaves it as it is. -/
theorem Writes.of_owner {other name : String} (h : Writes (Change other R) w w')
    (hpv : w.volumes name = some pv) (howner : pv.labels.get sessionKey = sessionID)
    (hid : sessionID ≠ "") (hne : other ≠ sessionID) : w'.volumes name = some pv := by
  rcases h with rfl | ⟨name', old, new, hold, hchange, rfl⟩
  · exact hpv
  by_cases hname : name = name'
  · subst hname
    obtain rfl := Option.some.inj (hpv.symm.trans hold)
    have hours : pv.Ours other := by
      cases hchange with
      | protect h =>
        cases h with
        | retain _ _ h | pair _ _ h | reserve h => exact h
      | giveBack h => exact .inr h
    rcases hours with hempty | hother
    · exact absurd (howner.symm.trans hempty) hid
    · exact absurd (hother.symm.trans howner) hne
  · rw [World.volumes_setVolume_of_ne w hname]
    exact hpv

/-- A volume with a session's label has its policy recorded, and it is retained. -/
def PV.Secured (pv : PV) : Prop :=
  pv.labels.get sessionKey ≠ "" →
    pv.annotations.get originalPolicyAnnotation ≠ "" ∧ pv.reclaimPolicy = .retain

theorem pinRetain_secured (pv : PV) :
    (pinRetain pv).1.annotations.get originalPolicyAnnotation ≠ "" ∧
      (pinRetain pv).1.reclaimPolicy = .retain := by
  unfold pinRetain
  split
  · refine ⟨?_, rfl⟩
    simp only [StringMap.get_set_self]
    cases pv.reclaimPolicy <;> decide
  · rename_i hset
    exact ⟨hset, rfl⟩

theorem Change.secured (h : Change sessionID R pv pv') (hpv : pv.Secured) : pv'.Secured := by
  cases h with
  | protect h =>
    cases h with
    | retain | pair => exact fun _ => pinRetain_secured _
    | reserve => exact hpv
  | giveBack h =>
    refine fun hlabel => absurd ?_ hlabel
    show (givenBackLabels pv.labels).get sessionKey = ""
    simp only [givenBackLabels]
    split
    · rw [StringMap.get_erase_of_ne _ (by decide), StringMap.get_erase_of_ne _ (by decide),
        StringMap.get_erase_self]
    · rw [StringMap.get_erase_of_ne _ (by decide), StringMap.get_erase_self]

theorem Writes.secured {name : String} (h : Writes (Change sessionID R) w w')
    (hpv : w.volumes name = some pv) (hsecured : pv.Secured) :
    ∃ pv', w'.volumes name = some pv' ∧ pv'.Secured := by
  rcases h with rfl | ⟨name', old, new, hold, hchange, rfl⟩
  · exact ⟨pv, hpv, hsecured⟩
  by_cases hname : name = name'
  · subst hname
    obtain rfl := Option.some.inj (hpv.symm.trans hold)
    exact ⟨new, World.volumes_setVolume_self w, hchange.secured hsecured⟩
  · exact ⟨pv, by rw [World.volumes_setVolume_of_ne w hname]; exact hpv, hsecured⟩

/-- A step of another session leaves a volume with a label alone. -/
theorem volume_of_other_step {w0 : World ρ} (hkeyed : w0.Keyed) {d e : Sessions ρ ι} {i : ι}
    (hreach : Pool.Reach exec (SessionStarts session) w0 d) (hstep : SessionStep session d i e)
    {id name : String} (hid : id ≠ "") (howner : d.state.ownerOf name = id)
    (hne : session i ≠ id) : e.state.volumes name = d.state.volumes name := by
  rcases hreach.step_change (disciplined_sessions session) hkeyed hstep with hsame | hwrites
  · rw [hsame]
  · unfold World.ownerOf at howner
    cases hvolume : d.state.volumes name with
    | none =>
      rw [hvolume] at howner
      exact absurd howner.symm hid
    | some pv =>
      rw [hvolume] at howner
      exact hwrites.of_owner hvolume howner hid hne

/-- **A volume belongs to one session at a time.**  From a moment at which the volume has the label
of a session, and as long as no step of this session takes the label off, no step of another session
changes the volume.  From a moment at which the volume has no label, whenever it has one, its policy
is recorded and it is retained. -/
theorem one_session_at_a_time {w0 : World ρ} (hkeyed : w0.Keyed)
    {c : Sessions ρ ι} (hreach : Pool.Reach exec (SessionStarts session) w0 c)
    {name : String} {pv : PV} (hpv : c.state.volumes name = some pv) :
    (∀ id, id ≠ "" → pv.labels.get sessionKey = id →
      ∀ d, Pool.Trace (fun c i c' => SessionStep session c i c' ∧
          (session i = id → c'.state.ownerOf name = id)) c d →
        d.state.ownerOf name = id ∧
        ∀ i e, SessionStep session d i e → session i ≠ id →
          e.state.volumes name = d.state.volumes name) ∧
    (pv.labels.get sessionKey = "" → ∀ d, Pool.Trace (SessionStep session) c d →
      ∃ pv', d.state.volumes name = some pv' ∧ pv'.Secured) := by
  refine ⟨fun id hid howner d htrace => ?_, fun hempty d htrace => ?_⟩
  · -- the label stays, so the other sessions find it at every step
    have hheld : Pool.Reach exec (SessionStarts session) w0 d ∧ d.state.ownerOf name = id := by
      induction htrace with
      | refl =>
        refine ⟨hreach, ?_⟩
        unfold World.ownerOf
        rw [hpv]
        exact howner
      | @step d e i _ hde ih =>
        obtain ⟨hreach', hown⟩ := ih
        refine ⟨.step hreach' hde.1, ?_⟩
        by_cases hi : session i = id
        · exact hde.2 hi
        · unfold World.ownerOf
          rw [volume_of_other_step session hkeyed hreach' hde.1 hid hown hi]
          exact hown
    exact ⟨hheld.2, fun i e hde hne =>
      volume_of_other_step session hkeyed hheld.1 hde hid hheld.2 hne⟩
  · have hall : Pool.Reach exec (SessionStarts session) w0 d ∧
        ∃ pv', d.state.volumes name = some pv' ∧ pv'.Secured := by
      induction htrace with
      | refl => exact ⟨hreach, pv, hpv, fun h => absurd hempty h⟩
      | @step d e i _ hde ih =>
        obtain ⟨hreach', pv', hpv', hsecured⟩ := ih
        refine ⟨.step hreach' hde, ?_⟩
        rcases hreach'.step_change (disciplined_sessions session) hkeyed hde with hsame | hwrites
        · rw [hsame]
          exact ⟨pv', hpv', hsecured⟩
        · exact hwrites.secured hpv' hsecured
    exact hall.2

end Sessions

/-! ### A volume with a label -/

def exampleLabels : StringMap := fun key => if key = sessionKey then some "move-1" else none

variable (labels : StringMap)

/-- A cluster with one volume, which has the labels. -/
def exampleWorld : World Unit where
  claims _ := none
  volumes name :=
    if name = "pv-1" then
      some { name := "pv-1", uid := some 1, labels := labels, reclaimPolicy := .delete }
    else none
  pods := []
  attachments := []
  nextUID := 2
  clock := ""
  time := 0
  record := ()

theorem exampleWorld_keyed : (exampleWorld labels).Keyed := by
  intro name pv hpv
  simp only [exampleWorld] at hpv
  split at hpv
  · rename_i hname
    cases hpv
    exact hname.symm
  · cases hpv

def exampleSession : Bool → String
  | true => "move-1"
  | false => "move-2"

theorem one_session_at_a_time_labelled :
    (∀ d, Pool.Trace (fun c i c' => SessionStep exampleSession c i c' ∧
        (exampleSession i = "move-1" → c'.state.ownerOf "pv-1" = "move-1"))
        ⟨exampleWorld exampleLabels, fun _ => none⟩ d →
      d.state.ownerOf "pv-1" = "move-1" ∧
      ∀ i e, SessionStep exampleSession d i e → exampleSession i ≠ "move-1" →
        e.state.volumes "pv-1" = d.state.volumes "pv-1") ∧
    (∀ d, Pool.Trace (SessionStep exampleSession)
        ⟨exampleWorld fun _ => none, fun _ => none⟩ d →
      ∃ pv', d.state.volumes "pv-1" = some pv' ∧ pv'.Secured) :=
  ⟨(one_session_at_a_time exampleSession (exampleWorld_keyed _) .refl rfl).1 "move-1"
    (by decide) rfl, (one_session_at_a_time exampleSession (exampleWorld_keyed _) .refl rfl).2 rfl⟩

/-! ## Taking a volume and giving it back -/

/-- The worlds that protecting calls of a session lead to, each of them cut off anywhere. -/
inductive Protected (sessionID : String) (w0 : World ρ) : World ρ → Prop
  | start : Protected sessionID w0 w0
  | call {w w' : World ρ} (call : VolumeCall) : call.IsProtecting → call.RolesIn (· ∈ volumeRoles) →
      Protected sessionID w0 w → w' ∈ stops exec (call.program sessionID : Switch ρ Unit) w →
      Protected sessionID w0 w'

/-- The volume carries nothing that a session writes; its `managed-by` label may be anything. -/
structure PV.Unmarked (pv : PV) : Prop where
  session : pv.labels sessionKey = none
  role : pv.labels resourceRoleLabel = none
  policy : pv.annotations originalPolicyAnnotation = none
  paired : pv.annotations pairedPVAnnotation = none

def takenLabels (sessionID role : String) : StringMap :=
  ((labels.set managedByLabel managedByValue).set sessionKey sessionID).set resourceRoleLabel role

/-- The annotations of a volume that a session has taken, and maybe paired. -/
def takenAnnotations (pv : PV) (paired : Option String) : StringMap :=
  Function.update (pv.annotations.set originalPolicyAnnotation pv.reclaimPolicy.text)
    pairedPVAnnotation paired

structure PV.SameMetadata (pv pv' : PV) : Prop where
  labels : pv'.labels = pv.labels
  annotations : pv'.annotations = pv.annotations
  reclaimPolicy : pv'.reclaimPolicy = pv.reclaimPolicy

/-- The volume has been taken by the session. -/
structure PV.Taken (sessionID role : String) (paired : Option String) (pv pv' : PV) : Prop where
  labels : pv'.labels = takenLabels pv.labels sessionID role
  annotations : pv'.annotations = takenAnnotations pv paired
  reclaimPolicy : pv'.reclaimPolicy = .retain

/-- A volume in the hands of a session: as it was, or taken. -/
structure PV.Touched (sessionID : String) (pv pv' : PV) : Prop where
  name : pv'.name = pv.name
  uid : pv'.uid = pv.uid
  state : pv.SameMetadata pv' ∨
    ∃ role ∈ volumeRoles, ∃ paired, PV.Taken sessionID role paired pv pv'

variable {role : String}

theorem volumeRoles_ne (h : role ∈ volumeRoles) : role ≠ "" := by
  rintro rfl
  exact absurd h (by decide)

theorem StringMap.set_of_get {m : StringMap} {key value : String} (h : m.get key = value)
    (hvalue : value ≠ "") : m.set key value = m := by
  unfold StringMap.set
  rw [← StringMap.eq_some_of_get h hvalue, Function.update_eq_self]

theorem markPVSession_eq (hid : sessionID ≠ "") (hrole : role ≠ "") :
    (markPVSession labels sessionID role).1 = takenLabels labels sessionID role := by
  have hwrite : ∀ (marked : StringMap × Bool) (key value : String), value ≠ "" →
      (if marked.1.get key ≠ value then (marked.1.set key value, true) else marked).1 =
        marked.1.set key value := by
    intro marked key value hvalue
    split
    · rfl
    · rename_i h
      exact (StringMap.set_of_get (not_not.mp h) hvalue).symm
  simp only [markPVSession, List.foldl_cons, List.foldl_nil]
  have hfirst := hwrite (labels, false) managedByLabel managedByValue (by decide)
  simp only at hfirst
  rw [hwrite _ _ _ hrole, hwrite _ _ _ hid, hfirst]
  rfl

theorem takenLabels_takenLabels (role role' : String) :
    takenLabels (takenLabels labels sessionID role) sessionID role' =
      takenLabels labels sessionID role' := by
  funext key
  simp only [takenLabels, StringMap.set, Function.update_apply]
  split
  · rfl
  split
  · rfl
  split <;> rfl

theorem takenAnnotations_get (pv : PV) (paired : Option String) :
    (takenAnnotations pv paired).get originalPolicyAnnotation = pv.reclaimPolicy.text := by
  simp [takenAnnotations, StringMap.get, StringMap.set,
    show originalPolicyAnnotation ≠ pairedPVAnnotation by decide]

theorem text_ne (policy : ReclaimPolicy) : policy.text ≠ "" := by
  cases policy <;> decide

theorem pinRetain_of_unmarked (h : pv.annotations.get originalPolicyAnnotation = "") :
    (pinRetain pv).1.annotations =
        pv.annotations.set originalPolicyAnnotation pv.reclaimPolicy.text ∧
      (pinRetain pv).1.reclaimPolicy = .retain := by
  unfold pinRetain
  rw [if_pos h]
  exact ⟨rfl, rfl⟩

theorem pinRetain_of_marked (h : pv.annotations.get originalPolicyAnnotation ≠ "") :
    (pinRetain pv).1.annotations = pv.annotations ∧ (pinRetain pv).1.reclaimPolicy = .retain := by
  unfold pinRetain
  rw [if_neg h]
  exact ⟨rfl, rfl⟩

variable {pv0 : PV}

/-- Pinning a volume in the hands of the session; its annotations may have been paired before. -/
theorem pinRetain_touched (pv : PV) {paired : Option String} (hclean : pv0.Unmarked)
    (hlabels : pv.labels = takenLabels pv0.labels sessionID role)
    (hannotations : (pv.annotations = Function.update pv0.annotations pairedPVAnnotation paired ∧
        pv.reclaimPolicy = pv0.reclaimPolicy) ∨ pv.annotations = takenAnnotations pv0 paired) :
    PV.Taken sessionID role paired pv0 (pinRetain pv).1.stored := by
  have hfields := pinRetain_fields pv
  have hkeys : originalPolicyAnnotation ≠ pairedPVAnnotation := by decide
  rcases hannotations with ⟨hsame, hpolicy⟩ | htaken
  · have hempty : pv.annotations.get originalPolicyAnnotation = "" := by
      rw [hsame]
      simp [StringMap.get, hkeys, hclean.policy]
    refine ⟨hfields.2.2.2.2.1.trans hlabels, ?_, (pinRetain_of_unmarked hempty).2⟩
    refine (pinRetain_of_unmarked hempty).1.trans ?_
    rw [hsame, hpolicy]
    exact Function.update_comm hkeys.symm _ _ _
  · have hset : pv.annotations.get originalPolicyAnnotation ≠ "" := by
      rw [htaken, takenAnnotations_get]
      exact text_ne _
    exact ⟨hfields.2.2.2.2.1.trans hlabels, (pinRetain_of_marked hset).1.trans htaken,
      (pinRetain_of_marked hset).2⟩

theorem PV.Touched.marked (h : PV.Touched sessionID pv0 pv) (hid : sessionID ≠ "")
    (hrole : role ∈ volumeRoles) :
    (markPVSession pv.labels sessionID role).1 = takenLabels pv0.labels sessionID role := by
  rw [markPVSession_eq _ hid (volumeRoles_ne hrole)]
  rcases h.state with hsame | ⟨role', -, paired, htaken⟩
  · rw [hsame.labels]
  · rw [htaken.labels, takenLabels_takenLabels]

/-- **One write** of the session. -/
theorem PV.Touched.protects (hclean : pv0.Unmarked) (h : PV.Touched sessionID pv0 pv)
    (hwrite : Protects sessionID (· ∈ volumeRoles) pv pv') : PV.Touched sessionID pv0 pv' := by
  obtain ⟨hname, huid, -⟩ := raises_protects pv pv' hwrite
  refine ⟨hname.trans h.name, huid.trans h.uid, ?_⟩
  cases hwrite with
  | reserve =>
    rcases h.state with hsame | ⟨role, hrole, paired, htaken⟩
    · exact .inl ⟨hsame.labels, hsame.annotations, hsame.reclaimPolicy⟩
    · exact .inr ⟨role, hrole, paired, htaken.labels, htaken.annotations, htaken.reclaimPolicy⟩
  | @retain role hid hrole _ =>
    refine .inr ⟨role, hrole, ?_⟩
    have hmarked := h.marked hid hrole
    rcases h.state with hsame | ⟨role', -, paired, htaken⟩
    · refine ⟨none, pinRetain_touched { pv with labels := _ } hclean hmarked
        (.inl ⟨?_, hsame.reclaimPolicy⟩)⟩
      rw [← hclean.paired, Function.update_eq_self]
      exact hsame.annotations
    · exact ⟨paired, pinRetain_touched { pv with labels := _ } hclean hmarked
        (.inr htaken.annotations)⟩
  | @pair role other hid hrole _ =>
    refine .inr ⟨role, hrole, ?_⟩
    have hmarked := h.marked hid hrole
    by_cases hpaired : pv.annotations.get pairedPVAnnotation ≠ other
    · have hset : (if pv.annotations.get pairedPVAnnotation ≠ other then
          pv.annotations.set pairedPVAnnotation other else pv.annotations) =
          Function.update pv.annotations pairedPVAnnotation (some other) := if_pos hpaired
      refine ⟨some other, pinRetain_touched { pv with labels := _, annotations := _ }
        hclean hmarked ?_⟩
      rcases h.state with hsame | ⟨role', -, paired, htaken⟩
      · refine .inl ⟨hset.trans ?_, hsame.reclaimPolicy⟩
        rw [hsame.annotations]
      · refine .inr (hset.trans ?_)
        rw [htaken.annotations]
        exact Function.update_idem _ _ _
    · have hkeep : (if pv.annotations.get pairedPVAnnotation ≠ other then
          pv.annotations.set pairedPVAnnotation other else pv.annotations) = pv.annotations :=
        if_neg hpaired
      rcases h.state with hsame | ⟨role', -, paired, htaken⟩
      · refine ⟨none, pinRetain_touched { pv with labels := _, annotations := _ } hclean hmarked
          (.inl ⟨?_, hsame.reclaimPolicy⟩)⟩
        rw [← hclean.paired, Function.update_eq_self]
        exact hkeep.trans hsame.annotations
      · exact ⟨paired, pinRetain_touched { pv with labels := _, annotations := _ } hclean hmarked
          (.inr (hkeep.trans htaken.annotations))⟩

/-- **A run of protecting calls** leaves the volume as it was, or taken. -/
theorem Protected.touched {w0 : World ρ} {name : String} (hkeyed : w0.Keyed)
    (hpv0 : w0.volumes name = some pv0) (hclean : pv0.Unmarked) (h : Protected sessionID w0 w) :
    w.Keyed ∧ ∃ pv, w.volumes name = some pv ∧ PV.Touched sessionID pv0 pv := by
  induction h with
  | start => exact ⟨hkeyed, pv0, hpv0, rfl, rfl, .inl ⟨rfl, rfl, rfl⟩⟩
  | @call w w' call hcall hroles _ hstop ih =>
    obtain ⟨hkeyed', hvolume⟩ := ih
    have hguarded : Guarded (Protects sessionID (· ∈ volumeRoles)) (fun _ _ => True)
        (call.program sessionID : Switch ρ Unit) w :=
      guarded_protecting raises_protects (fun _ _ h => h) hcall hroles hkeyed'
    have hwrites := hguarded.stops (rely_writes raises_protects) hstop
    clear hstop
    induction hwrites with
    | refl => exact ⟨hkeyed', hvolume⟩
    | @tail u v _ huv ih =>
      obtain ⟨hkeyed1, pv, hpv, htouched⟩ := ih
      refine ⟨(huv.later raises_protects).keyed hkeyed1, ?_⟩
      rcases huv with rfl | ⟨name', old, new, hold, hchange, rfl⟩
      · exact ⟨pv, hpv, htouched⟩
      by_cases hname : name = name'
      · subst hname
        obtain rfl := Option.some.inj (hpv.symm.trans hold)
        exact ⟨new, World.volumes_setVolume_self u, htouched.protects hclean hchange⟩
      · exact ⟨pv, by rw [World.volumes_setVolume_of_ne u hname]; exact hpv, htouched⟩

/-- What a session has put on a volume is gone when it is given back. -/
theorem PV.Taken.givenBack {paired : Option String} (hclean : pv0.Unmarked)
    (h : PV.Taken sessionID role paired pv0 pv) (policy : ReclaimPolicy) :
    (pv.givenBack policy).labels = pv0.labels.erase managedByLabel ∧
      (pv.givenBack policy).annotations = pv0.annotations := by
  constructor
  · have hmanaged : ((pv.labels.erase sessionKey).erase resourceRoleLabel).get managedByLabel =
        managedByValue := by
      rw [StringMap.get_erase_of_ne _ (by decide), StringMap.get_erase_of_ne _
        (by decide), h.labels]
      unfold takenLabels
      rw [StringMap.get_set_of_ne _ _ (by decide), StringMap.get_set_of_ne _ _ (by decide),
        StringMap.get_set_self]
    show givenBackLabels pv.labels = _
    simp only [givenBackLabels, if_pos hmanaged]
    funext key
    simp only [h.labels, takenLabels, StringMap.erase, StringMap.set, Function.update_apply]
    by_cases hm : key = managedByLabel
    · simp [hm]
    by_cases hr : key = resourceRoleLabel
    · subst hr
      simp [hm, hclean.role]
    by_cases hs : key = sessionKey
    · subst hs
      simp [hm, hclean.session]
    · simp [hm, hr, hs]
  · show (pv.annotations.erase originalPolicyAnnotation).erase pairedPVAnnotation = _
    funext key
    simp only [h.annotations, takenAnnotations, StringMap.erase, StringMap.set,
      Function.update_apply]
    by_cases hp : key = pairedPVAnnotation
    · simp [hp, hclean.paired]
    by_cases ho : key = originalPolicyAnnotation
    · simp [ho, hclean.policy]
    · simp [hp, ho]

theorem erase_eq_self {m : StringMap} {key : String} : m.erase key = m ↔ m key = none := by
  unfold StringMap.erase
  constructor
  · intro h
    rw [← h, Function.update_self]
  · intro h
    rw [← h, Function.update_eq_self]

/-! ### The runs -/

section Runs

variable {ref : ObjectReference} {policy : ReclaimPolicy}

/-- An attempt that ends without a conflict of the API is not repeated. -/
theorem run_retryOnConflict {attempt : Switch ρ Unit} {result : Except Failure Unit}
    (h : run exec attempt w = (result, w')) (hresult : result ≠ .error (.api .conflict)) (n : Nat) :
    run exec (retryOnConflict attempt n) w = (result, w') := by
  cases n with
  | zero => exact h
  | succ n =>
    unfold retryOnConflict
    rw [run_tryCatch, h]
    cases result with
    | ok _ => rfl
    | error e =>
      have he : e ≠ .api .conflict := fun heq => hresult (heq ▸ rfl)
      simp only [if_neg he]
      rfl

section

variable (hpv : w.volumes ref.name = some pv)
include hpv

theorem run_giveBackPV_done (huid : pv.uid = ref.uid) (hdone : pv.IsGivenBack policy) :
    run exec (giveBackPV sessionID ref policy : Switch ρ Unit) w = (.ok (), w) := by
  simp [giveBackPV, Api.getPV, exec, hpv, huid, hdone]

/-- The volume is not the session's, and it has not been given back: an error. -/
theorem run_giveBackPV_foreign (huid : pv.uid = ref.uid)
    (hdone : ¬ pv.IsGivenBack policy) (howner : pv.labels.get sessionKey ≠ sessionID) :
    run exec (giveBackPV sessionID ref policy : Switch ρ Unit) w =
      (.error (ownershipChanged ref), w) := by
  simp [giveBackPV, Api.getPV, exec, hpv, huid, hdone, howner]

theorem run_giveBackPV_owned (hname : pv.name = ref.name)
    (huid : pv.uid = ref.uid) (hdone : ¬ pv.IsGivenBack policy)
    (howner : pv.labels.get sessionKey = sessionID)
    (hrole : pv.labels.get resourceRoleLabel ∈ volumeRoles) :
    run exec (giveBackPV sessionID ref policy : Switch ρ Unit) w =
      (.ok (), w.setVolume ref.name (some (pv.givenBack policy).stored)) := by
  have hupdate : w.update (pv.givenBack policy) =
      (.ok (), w.setVolume ref.name (some (pv.givenBack policy).stored)) := by
    simp [World.update, PV.givenBack, hname, hpv]
  simp [giveBackPV, Api.getPV, updatePV, Api.updatePV, exec, hpv, huid, hdone, howner,
    hrole, hupdate]

end

theorem run_finalizeActivePV {result : Except Failure Unit}
    (h : run exec (giveBackPV sessionID ref policy : Switch ρ Unit) w = (result, w'))
    (hresult : result = .ok () ∨ result = .error (ownershipChanged ref)) :
    run exec (finalizeActivePV sessionID ref (some policy) : Switch ρ Unit) w = (result, w') := by
  have hretry := run_retryOnConflict h (by rcases hresult with rfl | rfl <;>
    simp [ownershipChanged, newError]) defaultRetry
  show run exec (wrapUnlessConflict _ _ _) w = _
  unfold wrapUnlessConflict
  rw [run_tryCatch, hretry]
  rcases hresult with rfl | rfl <;> rfl

theorem run_resolved_taken (hpv : w.volumes ref.name = some pv) (huid : pv.uid = ref.uid)
    (hname : ref.name ≠ "") (hpolicy : pv.annotations.get originalPolicyAnnotation = policy.text)
    (planned : Option ReclaimPolicy) :
    run exec (resolvedSourcePolicy ref planned : Switch ρ _) w = (.ok (some policy), w) := by
  simp [resolvedSourcePolicy, Api.getPV, exec, hpv, huid, hname, hpolicy, reclaimPolicyOf_text]

theorem run_resolved_planned (hpv : w.volumes ref.name = some pv) (huid : pv.uid = ref.uid)
    (hname : ref.name ≠ "") (hpolicy : pv.annotations.get originalPolicyAnnotation = "")
    (planned : Option ReclaimPolicy) :
    run exec (resolvedSourcePolicy ref planned : Switch ρ _) w = (.ok planned, w) := by
  simp [resolvedSourcePolicy, Api.getPV, exec, hpv, huid, hname, hpolicy,
    show reclaimPolicyOf "" = none by decide]

theorem run_giveBack {planned : Option ReclaimPolicy}
    (h : run exec (resolvedSourcePolicy ref planned : Switch ρ _) w = (.ok (some policy), w)) :
    run exec (giveBack sessionID ref planned : Switch ρ Unit) w =
      run exec (finalizeActivePV sessionID ref (some policy)) w := by
  unfold giveBack
  rw [run_bind, h]

end Runs

/-- A volume that is given back is as before, and giving it back again changes nothing. -/
def RoundTrip (sessionID : String) (ref : ObjectReference) (planned : ReclaimPolicy) (pv0 : PV)
    (w : World ρ) : Prop :=
  ∃ w1 pv1, run exec (giveBack sessionID ref (some planned) : Switch ρ Unit) w = (.ok (), w1) ∧
    w1.volumes ref.name = some pv1 ∧ pv0.SameMetadata pv1 ∧
    run exec (giveBack sessionID ref (some planned) : Switch ρ Unit) w1 = (.ok (), w1)

section RoundTrip

variable {pv0 : PV} {ref : ObjectReference} (planned : ReclaimPolicy)

theorem PV.Unmarked.of_same (hclean : pv0.Unmarked) (h : pv0.SameMetadata pv) :
    pv.labels.get sessionKey = "" ∧ pv.labels.get resourceRoleLabel = "" ∧
      pv.annotations.get originalPolicyAnnotation = "" := by
  rw [h.labels, h.annotations]
  simp [StringMap.get, hclean.session, hclean.role, hclean.policy]

/-- A volume as it was before: nothing is done if the plan has its policy, and otherwise it is
refused. -/
theorem run_giveBack_same (hclean : pv0.Unmarked) (hid : sessionID ≠ "") (hname : ref.name ≠ "")
    (hpv : w.volumes ref.name = some pv) (huid : pv.uid = ref.uid) (hsame : pv0.SameMetadata pv) :
    run exec (giveBack sessionID ref (some planned) : Switch ρ Unit) w =
      (if planned = pv0.reclaimPolicy then .ok () else .error (ownershipChanged ref), w) := by
  obtain ⟨hsession, hrole, hpolicy⟩ := hclean.of_same hsame
  rw [run_giveBack (run_resolved_planned hpv huid hname hpolicy (some planned))]
  by_cases hplanned : planned = pv0.reclaimPolicy
  · rw [if_pos hplanned]
    refine run_finalizeActivePV (run_giveBackPV_done hpv huid ⟨hsession, hrole, ?_, hpolicy⟩)
      (.inl rfl)
    rw [hsame.reclaimPolicy, hplanned]
  · rw [if_neg hplanned]
    refine run_finalizeActivePV (run_giveBackPV_foreign hpv huid (fun hdone => hplanned ?_) ?_)
      (.inr rfl)
    · rw [← hdone.2.2.1, hsame.reclaimPolicy]
    · rw [hsession]
      exact hid.symm

theorem run_giveBack_taken {paired : Option String} (hid : sessionID ≠ "") (hname : ref.name ≠ "")
    (hpv : w.volumes ref.name = some pv) (hpvName : pv.name = ref.name) (huid : pv.uid = ref.uid)
    (hrole : role ∈ volumeRoles) (htaken : PV.Taken sessionID role paired pv0 pv) :
    run exec (giveBack sessionID ref (some planned) : Switch ρ Unit) w =
      (.ok (), w.setVolume ref.name (some (pv.givenBack pv0.reclaimPolicy).stored)) := by
  have hpolicy : pv.annotations.get originalPolicyAnnotation = pv0.reclaimPolicy.text := by
    rw [htaken.annotations, takenAnnotations_get]
  have hsession : pv.labels.get sessionKey = sessionID := by
    rw [htaken.labels]
    unfold takenLabels
    rw [StringMap.get_set_of_ne _ _ (by decide), StringMap.get_set_self]
  have hrole' : pv.labels.get resourceRoleLabel = role := by
    rw [htaken.labels]
    exact StringMap.get_set_self _ _ _
  rw [run_giveBack (run_resolved_taken hpv huid hname hpolicy (some planned))]
  refine run_finalizeActivePV (run_giveBackPV_owned hpv hpvName huid (fun hdone => ?_) hsession ?_)
    (.inl rfl)
  · exact hid (hsession.symm.trans hdone.1)
  · rw [hrole']
    exact hrole

/-- **When taking a volume and giving it back is a round trip.**  The plan has to have the policy
that the volume had, since a volume that was given back is told apart by that policy alone.  And a
volume that was taken must not have had a `managed-by` label, since marking the volume overwrites
it. -/
theorem round_trip_iff {w0 w : World ρ} (hkeyed : w0.Keyed) (hid : sessionID ≠ "")
    (hname : ref.name ≠ "")
    (hpv0 : w0.volumes ref.name = some pv0) (huid : pv0.uid = ref.uid) (hclean : pv0.Unmarked)
    (hrun : Protected sessionID w0 w) :
    RoundTrip sessionID ref planned pv0 w ↔ planned = pv0.reclaimPolicy ∧
      (w.ownerOf ref.name ≠ "" → pv0.labels managedByLabel = none) := by
  obtain ⟨hkeyed', pv, hpv, htouched⟩ := hrun.touched hkeyed hpv0 hclean
  have huid' : pv.uid = ref.uid := htouched.uid.trans huid
  have hpvName : pv.name = ref.name := hkeyed' _ _ hpv
  have howner : w.ownerOf ref.name = pv.labels.get sessionKey := by
    unfold World.ownerOf
    rw [hpv]
    rfl
  rw [howner]
  rcases htouched.state with hsame | ⟨role, hrole, paired, htaken⟩
  · have hrun1 := run_giveBack_same planned hclean hid hname hpv huid' hsame
    constructor
    · intro ⟨w1, pv1, hfirst, _⟩
      refine ⟨?_, fun h => absurd (hclean.of_same hsame).1 h⟩
      by_contra hne
      rw [hrun1, if_neg hne] at hfirst
      exact absurd (congrArg Prod.fst hfirst) (by simp)
    · intro ⟨hplanned, _⟩
      rw [if_pos hplanned] at hrun1
      exact ⟨w, pv, hrun1, hpv, hsame, hrun1⟩
  · have hrun1 := run_giveBack_taken planned hid hname hpv hpvName huid' hrole htaken
    obtain ⟨hlabels, hannotations⟩ := htaken.givenBack hclean pv0.reclaimPolicy
    have hback : (w.setVolume ref.name (some (pv.givenBack pv0.reclaimPolicy).stored)).volumes
        ref.name = some (pv.givenBack pv0.reclaimPolicy).stored := World.volumes_setVolume_self w
    constructor
    · intro ⟨w1, pv1, hfirst, hpv1, hsame, hsecond⟩
      obtain rfl : w.setVolume ref.name _ = w1 := congrArg Prod.snd (hrun1.symm.trans hfirst)
      obtain rfl := Option.some.inj (hback.symm.trans hpv1)
      refine ⟨?_, fun _ => erase_eq_self.mp (hlabels.symm.trans hsame.labels)⟩
      rw [run_giveBack_same planned hclean hid hname hpv1 huid' hsame] at hsecond
      by_contra hne
      rw [if_neg hne] at hsecond
      exact absurd (congrArg Prod.fst hsecond) (by simp)
    · intro ⟨hplanned, hmanaged⟩
      have hlabelled : pv.labels.get sessionKey ≠ "" := by
        rw [htaken.labels]
        unfold takenLabels
        rw [StringMap.get_set_of_ne _ _ (by decide), StringMap.get_set_self]
        exact hid
      have hsame : pv0.SameMetadata (pv.givenBack pv0.reclaimPolicy).stored :=
        ⟨hlabels.trans (erase_eq_self.mpr (hmanaged hlabelled)), hannotations, rfl⟩
      refine ⟨_, _, hrun1, hback, hsame, ?_⟩
      rw [run_giveBack_same planned hclean hid hname hback huid' hsame, if_pos hplanned]

def exampleRef : ObjectReference := ⟨"", "pv-1", some 1⟩

def exampleVolume (labels : StringMap) : PV where
  name := "pv-1"
  uid := some 1
  labels := labels
  reclaimPolicy := .delete

def exampleTaken (labels : StringMap) : World Unit :=
  (run exec (VolumeCall.program "move-1" (.ensureRetain exampleRef "source"))
    (exampleWorld labels)).2

theorem exampleTaken_protected (labels : StringMap) :
    Protected "move-1" (exampleWorld labels) (exampleTaken labels) :=
  .call (.ensureRetain exampleRef "source") trivial (show "source" ∈ volumeRoles by decide) .start
    (run_mem_stops _ _)

theorem exampleVolume_unmarked {labels : StringMap} (hsession : labels sessionKey = none)
    (hrole : labels resourceRoleLabel = none) : (exampleVolume labels).Unmarked :=
  ⟨hsession, hrole, rfl, rfl⟩

theorem round_trip_example :
    RoundTrip "move-1" exampleRef .delete (exampleVolume fun _ => none)
      (exampleTaken fun _ => none) :=
  (round_trip_iff .delete (exampleWorld_keyed _) (by decide) (by decide) rfl rfl
    (exampleVolume_unmarked rfl rfl) (exampleTaken_protected _)).mpr ⟨rfl, fun _ => rfl⟩

/-- A `managed-by` label of another tool. -/
def exampleManaged : StringMap := fun key => if key = managedByLabel then some "helm" else none

/-- With the policy `Retain` in the plan the second run is refused, and a `managed-by` label is
lost. -/
theorem round_trip_fails :
    (Protected "move-1" (exampleWorld fun _ => none) (exampleTaken fun _ => none) ∧
      ¬ RoundTrip "move-1" exampleRef .retain (exampleVolume fun _ => none)
        (exampleTaken fun _ => none)) ∧
    (Protected "move-1" (exampleWorld exampleManaged) (exampleTaken exampleManaged) ∧
      ¬ RoundTrip "move-1" exampleRef .delete (exampleVolume exampleManaged)
        (exampleTaken exampleManaged)) := by
  refine ⟨⟨exampleTaken_protected _, fun ⟨w1, pv1, hfirst, _, _, hsecond⟩ => ?_⟩,
    exampleTaken_protected _, fun ⟨w1, pv1, hfirst, hpv1, hsame, _⟩ => ?_⟩
  · obtain rfl := congrArg Prod.snd hfirst
    have herror : (run exec (giveBack "move-1" exampleRef (some .retain) : Switch Unit Unit)
        (run exec (giveBack "move-1" exampleRef (some .retain) : Switch Unit Unit)
          (exampleTaken fun _ => none)).2).1 = .error (ownershipChanged exampleRef) := rfl
    exact absurd (herror.symm.trans (congrArg Prod.fst hsecond)) (by simp)
  · obtain rfl := congrArg Prod.snd hfirst
    have hlabel : (((run exec (giveBack "move-1" exampleRef (some .delete) : Switch Unit Unit)
        (exampleTaken exampleManaged)).2.volumes "pv-1").map fun pv => pv.labels managedByLabel) =
          some none := by decide
    rw [show (run exec (giveBack "move-1" exampleRef (some .delete) : Switch Unit Unit)
      (exampleTaken exampleManaged)).2.volumes "pv-1" = some pv1 from hpv1, Option.map_some,
        hsame.labels]
      at hlabel
    exact absurd (Option.some.inj hlabel) (by decide)

end RoundTrip

end PvcMigrate.Kube
