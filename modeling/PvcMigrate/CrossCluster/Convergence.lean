import PvcMigrate.CrossCluster.Cleanup

/-!
# A cleanup that can be repeated until it succeeds

The argument follows the cleanup call by call, in both environments at once.  `Cleanable` is what
holds of a volume throughout: its live objects fit the record, and the identities of `Recorded` are
there.  Every call keeps it; every check of the cleanup passes because of it; so the only errors are
those of the environment, and a calm environment has none.
-/

namespace PvcMigrate

namespace CrossCluster

open Prog Kube

/-! ## The invariant -/

/-- A volume that can be cleaned up. -/
structure Cleanable (kind : Kind) (deleting : Bool) (w : World) (id : String) (v : Volume) : Prop
    extends Tracked (!deleting) w id v, Recorded kind deleting w v

variable {kind : Kind} {deleting calm : Bool} {w w' : World} {id : String} {v : Volume} {op : Call}
  {i : Nat}

theorem Fades.exists_of_exists {key : String × String} (h : Fades w w')
    (hclaim : w'.claims key ≠ none) : w.claims key ≠ none := by
  obtain ⟨claim', hclaim'⟩ := Option.ne_none_iff_exists'.mp hclaim
  obtain ⟨claim, hclaim, -⟩ := h.claims _ _ hclaim'
  exact Option.ne_none_iff_exists'.mpr ⟨claim, hclaim⟩

theorem Recorded.fades (h : Recorded kind deleting w v) (hfades : Fades w w') :
    Recorded kind deleting w' v where
  unbound hkind hname claim' hclaim' := by
    obtain ⟨claim, hclaim, ⟨-, -, hspec, -⟩, hvolume⟩ := hfades.claims _ _ hclaim'
    obtain ⟨hnone, hunbindable⟩ := h.unbound hkind hname claim hclaim
    refine ⟨?_, fun hbindable => hunbindable ?_⟩
    · rcases hvolume with hsame | ⟨-, hbindable, -⟩
      · rw [hsame, hnone]
      · exact absurd hbindable hunbindable
    · rcases hbindable with ⟨storageClass, hclass, hmode⟩ | ⟨pod', hpod', huses⟩
      · rw [hfades.classes, hspec] at hclass
        exact .inl ⟨storageClass, hclass, hmode⟩
      · obtain ⟨pod, hpod, hsame⟩ := hfades.pods pod' hpod'
        exact .inr ⟨pod, hpod, hsame.uses huses⟩
  consumerUID hname pod' hpod' hkey := by
    obtain ⟨pod, hpod, hpodKey, huid, -⟩ := hfades.pods pod' hpod'
    rw [huid]
    exact h.consumerUID hname pod hpod (hpodKey.symm.trans hkey)
  onlyConsumer hdeleting hclaim pod' hpod' huses := by
    obtain ⟨pod, hpod, hsame⟩ := hfades.pods pod' hpod'
    obtain ⟨hname, hkey⟩ := h.onlyConsumer hdeleting (hfades.exists_of_exists hclaim) pod hpod
      (hsame.uses huses)
    exact ⟨hname, hsame.1.trans hkey⟩

theorem Cleanable.fades (h : Cleanable kind deleting w id v) (hfades : Fades w w') :
    Cleanable kind deleting w' id v :=
  { toTracked := h.toTracked.fades hfades, toRecorded := h.toRecorded.fades hfades }

/-- A cleanup: the service, the fixed part of the session and its kind, the policy that is given,
and whether it deletes. -/
structure Job where
  service : Service
  base : Session
  kind : Kind
  given : UnusedStoragePolicy
  deleting : Bool

/-- A session in memory that can be cleaned up. -/
structure Clean (job : Job) (w : World) (s : Session) : Prop where
  fixed : s.fixed = job.base
  valid : s.fixed.Valid job.service.rules
  kind : s.kind = job.kind
  completed : s.phase = .completed → s.completedAt ≠ none
  deletes : s.deletesDestination job.given = job.deleting
  identified : ∀ v ∈ s.volumes, v.Identified s.destinationCluster
  volumes : ∀ v ∈ s.volumes, Cleanable job.kind job.deleting w job.base.id v

def Kept (job : Job) (ss : List Session) (w : World) : Prop :=
  (∀ r, w.record = some r → r.Valid job.service.rules ∧ Clean job w r) ∧ ∀ s ∈ ss, Clean job w s

variable {job : Job} {s : Session} {ss : List Session}

theorem Clean.fades (h : Clean job w s) (hfades : Fades w w') : Clean job w' s :=
  { h with volumes := fun v hv => (h.volumes v hv).fades hfades }

theorem Kept.fades (h : Kept job ss w) (hfades : Fades w w') (hrecord : w'.record = w.record) :
    Kept job ss w' := by
  refine ⟨fun r hr => ?_, fun s hs => (h.2 s hs).fades hfades⟩
  rw [hrecord] at hr
  exact ⟨(h.1 r hr).1, (h.1 r hr).2.fades hfades⟩

theorem Kept.cons (h : Kept job ss w) (hs : Clean job w s) : Kept job (s :: ss) w :=
  ⟨h.1, List.forall_mem_cons.mpr ⟨hs, h.2⟩⟩

theorem Kept.tail (h : Kept job (s :: ss) w) : Kept job ss w :=
  ⟨h.1, fun t ht => h.2 t (List.mem_cons_of_mem _ ht)⟩

theorem Kept.head (h : Kept job (s :: ss) w) : Clean job w s := h.2 s List.mem_cons_self

section

variable (h : Clean job w s)
include h

theorem Clean.id_eq : job.base.id = s.id := by
  rw [← h.fixed]
  rfl

theorem Clean.get (hget : s.volumes[i]? = some v) : Cleanable job.kind job.deleting w s.id v := by
  rw [← h.id_eq]
  exact h.volumes v (List.mem_of_getElem? hget)

/-- Out of the phase of a finished reservation, the session passes its check. -/
theorem Clean.valid_of_phase (hphase : s.phase ≠ .reserved) : s.Valid job.service.rules :=
  Session.valid_iff.mpr ⟨h.valid, h.identified, fun _ hreserved => absurd hreserved hphase⟩

theorem Clean.nodup : (s.volumes.map Volume.claimKey).Nodup := by
  have hfixed := h.valid.nodup
  have hmap : s.fixed.volumes.map Volume.claimKey = s.volumes.map Volume.claimKey := by
    simp only [Session.fixed, List.map_map]
    rfl
  rwa [hmap] at hfixed

theorem Clean.setVolume {u : Volume} (hget : s.volumes[i]? = some u)
    (hfixed : v.fixed = u.fixed) (hidentified : v.Identified s.destinationCluster)
    (hv : Cleanable job.kind job.deleting w s.id v) : Clean job w (s.setVolume i v) := by
  have hsame := Session.fixed_setVolume hget hfixed
  refine ⟨hsame.trans h.fixed, by rw [hsame]; exact h.valid, h.kind, h.completed, h.deletes, ?_, ?_⟩
  · intro x hx
    rcases Session.mem_setVolume hx with rfl | hx
    · exact hidentified
    · exact h.identified x hx
  · intro x hx
    rcases Session.mem_setVolume hx with rfl | hx
    · rw [h.id_eq]
      exact hv
    · exact h.volumes x hx

end

/-- The cleanup decides on the deletion by the time of the completion. -/
theorem deletesDestination_of_completed {given : UnusedStoragePolicy}
    (h : s.phase = .completed → s.completedAt ≠ none) :
    s.deletesDestination given =
      (deletesUnusedStorage (s.policy given) && (decide (s.kind = .reservation) ||
        s.completedAt.isNone)) := by
  unfold Session.deletesDestination cleanupDeletesDestination
  cases hkind : s.kind with
  | reservation => simp
  | copy =>
    cases hcompletedAt : s.completedAt with
    | some time => simp
    | none =>
      have hphase : s.phase ≠ .completed := fun hphase => h hphase hcompletedAt
      simp [hphase]

theorem Clean.withPhase (h : Clean job w s) {phase : Phase} {message : String}
    (hphase : phase ≠ .completed) : Clean job w { s with phase, message } := by
  have hcompleted : ({ s with phase, message } : Session).phase = .completed →
      ({ s with phase, message } : Session).completedAt ≠ none := fun hc => absurd hc hphase
  refine ⟨h.fixed, h.valid, h.kind, hcompleted, ?_, h.identified, h.volumes⟩
  rw [← h.deletes, deletesDestination_of_completed hcompleted,
    deletesDestination_of_completed h.completed]
  rfl

/-! ## Programs that keep it -/

/-- An error that a calm environment does not have, and that is not the check of the record. -/
def Disturbed (calm : Bool) (_ : World) (e : Failure) : Prop :=
  calm = false ∧ ∀ text, e ≠ .invalid text

/-- A program that keeps the record and the sessions in memory, and fails only if it is
disturbed. -/
abbrev KeepsKept {α : Type} (job : Job) (calm : Bool) (ss : List Session) (A : World → α → Prop)
    (w : World) (p : Action α) : Prop :=
  p.Keeps (Observed job.service.digest calm) (Kept job ss) A (Disturbed calm) w

/-- What can happen around a call that only reads. -/
structure Quiet (calm : Bool) (w w' : World) : Prop where
  fades : Fades w w'
  record : w'.record = w.record
  still : calm = true → w' = w

/-- What can happen around a write of the record. -/
structure Steady (calm : Bool) (w w' : World) : Prop where
  fades : Fades w w'
  still : calm = true → w'.claims = w.claims ∧ w'.volumes = w.volumes ∧ w'.pods = w.pods

theorem Quiet.steady (h : Quiet calm w w') : Steady calm w w' := by
  refine ⟨h.fades, fun hcalm => ?_⟩
  rw [h.still hcalm]
  exact ⟨rfl, rfl, rfl⟩

theorem Before.quiet {w1 : World} (h : Before calm op w w1) (hwait : op.isWait = false) :
    Quiet calm w w1 := ⟨h.controls.toFades, h.controls.record, fun hcalm => h.still hcalm hwait⟩

/-- **One call.** -/
theorem keepsKept_ask {A : World → op.Result → Prop} (htransfer : op.isTransfer = false)
    (hkept : Kept job ss w)
    (hserve : ∀ w1, Before calm op w w1 → Kept job ss w1 → Kept job ss (serve op w1).2 ∧
      match (serve op w1).1 with
      | .ok a => A (serve op w1).2 a
      | .error _ => calm = false) : KeepsKept job calm ss A w (ask op) := by
  refine keeps_ask htransfer hkept (fun hcalm _ _ => ⟨hcalm, nofun⟩)
    fun w1 hbefore => ?_
  have hkept1 := hkept.fades hbefore.controls.toFades hbefore.controls.record
  obtain ⟨hafter, hreply⟩ := hserve w1 hbefore hkept1
  refine ⟨hkept1, hafter, ?_⟩
  generalize (serve op w1).1 = reply at hreply ⊢
  cases reply with
  | ok a => exact hreply
  | error text => exact ⟨hreply, nofun⟩

variable {P : World → Prop} {key : String × String} {uid : Nat} {found : Option Claim}
  {name cluster : String} {ref : ObjectReference} {pv : Option PV} {claim : Claim}

theorem keepsKept_read (hread : op.isRead = true) (hwait : op.isWait = false)
    (hP : ∀ w', Quiet calm w w' → P w') (hkept : Kept job ss w) :
    KeepsKept job calm ss (fun w a => P w ∧ serve op w = (.ok a, w)) w (ask op) := by
  refine keepsKept_ask (Call.isTransfer_of_isRead hread) hkept fun w1 hbefore hkept1 => ?_
  obtain ⟨a, ha⟩ := exists_serve_of_isRead hread w1
  rw [ha]
  exact ⟨hkept1, hP w1 (hbefore.quiet hwait), ha⟩

theorem keepsKept_carry (hread : op.isRead = true) (hwait : op.isWait = false)
    (hP : ∀ w', Quiet calm w w' → P w') (hkept : Kept job ss w) :
    KeepsKept job calm ss (fun w _ => P w) w (ask op) :=
  (keepsKept_read hread hwait hP hkept).post fun _ _ h => h.1

/-- A check that passes, or that only fails if the environment is not calm. -/
theorem keepsKept_reject {bad : Prop} [Decidable bad] {e : Failure} (hkept : Kept job ss w)
    (hgood : bad → calm = false) (he : ∀ text, e ≠ .invalid text) :
    KeepsKept job calm ss (fun w' _ => w' = w ∧ ¬ bad) w (reject bad e) :=
  keeps_reject hkept fun hbad => ⟨hgood hbad, he⟩

theorem keepsKept_reject_bind {α : Type} {bad : Prop} [Decidable bad] {e : Failure}
    {f : Unit → Action α} {A : World → α → Prop} (hkept : Kept job ss w)
    (hgood : bad → calm = false) (he : ∀ text, e ≠ .invalid text)
    (hf : ¬ bad → KeepsKept job calm ss A w (f ())) :
    KeepsKept job calm ss A w (reject bad e >>= f) :=
  keeps_reject_bind hkept (fun hbad => ⟨hgood hbad, he⟩) hf

theorem keepsKept_requireValid (hvalid : s.Valid job.service.rules) (hkept : Kept job ss w) :
    KeepsKept job calm ss (fun w' _ => w' = w) w (requireValid job.service s) := by
  unfold requireValid
  rw [show s.validate job.service.rules = .ok () from hvalid]
  exact ⟨hkept, rfl⟩

/-- **Saving** a session that is not in the phase of a finished reservation. -/
theorem keepsKept_save (hP : ∀ w w', Steady calm w w' → P w → P w') (hphase : s.phase ≠ .reserved)
    (hkept : Kept job (s :: ss) w) (hw : P w) :
    KeepsKept job calm (s :: ss) (fun w _ => w.record = some s ∧ P w) w (save job.service s) := by
  have hvalid : s.Valid job.service.rules := hkept.head.valid_of_phase hphase
  refine (keepsKept_carry rfl rfl (fun w' hquiet => hP _ _ hquiet.steady hw) hkept).bind
    fun w _ hkept hw => ?_
  refine (keepsKept_requireValid hvalid hkept).bind fun w' _ _ hsame => ?_
  rw [hsame]
  refine Keeps.bind (A := fun w _ => w.record = some s ∧ P w) (keepsKept_ask rfl hkept
    fun w1 hbefore hkept1 => ?_) fun w _ hkept hw => ?_
  · have hfades := fades_record w1 (some s)
    refine ⟨⟨fun r hr => ?_, fun t ht => (hkept1.2 t ht).fades hfades⟩, rfl, ?_⟩
    · cases hr
      exact ⟨hvalid, hkept1.head.fades hfades⟩
    · exact hP w1 _ ⟨hfades, fun _ => ⟨rfl, rfl, rfl⟩⟩ (hP w w1 (hbefore.quiet rfl).steady hw)
  · exact keepsKept_carry rfl rfl
      (fun w' hquiet => ⟨hquiet.record.trans hw.1, hP _ _ hquiet.steady hw.2⟩) hkept

/-! ## The consumer Pod -/

/-- The Pod of the record is gone, as far as a calm environment tells. -/
def ConsumerGone (calm : Bool) (v : Volume) (w : World) : Prop :=
  calm = true → v.reservation.consumerPod.name ≠ "" → ∀ pod ∈ w.pods, pod.key ≠ v.podKey

theorem ConsumerGone.steady (h : ConsumerGone calm v w) (hsteady : Steady calm w w') :
    ConsumerGone calm v w' := by
  intro hcalm hname
  rw [(hsteady.still hcalm).2.2]
  exact h hcalm hname

theorem findPod_eq_none (h : w.findPod key = none) :
    ∀ pod ∈ w.pods, pod.key ≠ key := by
  intro pod hpod hkey
  have hnone := List.find?_eq_none.mp h pod hpod
  simp [hkey] at hnone

theorem mem_of_findPod {pod : Pod} (h : w.findPod key = some pod) :
    pod ∈ w.pods ∧ pod.key = key := ⟨List.mem_of_find?_eq_some h, key_of_findPod h⟩

/-- The deletion of the consumer Pod: all Pods of its name are being deleted. -/
theorem keepsKept_deletePod (hget : s.volumes[i]? = some v)
    (hname : v.reservation.consumerPod.name ≠ "") (huid : v.reservation.consumerPod.uid = some uid)
    (hkept : Kept job (s :: ss) w) :
    KeepsKept job calm (s :: ss)
      (fun w _ => ∀ pod ∈ w.pods, pod.key = v.podKey → pod.terminating = true) w
      (ask (.deletePod v.podKey uid)) := by
  refine keepsKept_ask rfl hkept fun w1 _ hkept1 => ?_
  have hfades := fades_deletePod w1 v.podKey uid
  have hcleanable := hkept1.head.get hget
  simp only [serve] at hfades ⊢
  split
  · rename_i hnone
    exact ⟨hkept1, fun pod hpod hkey => absurd hkey (findPod_eq_none hnone pod hpod)⟩
  · rename_i current hcurrent
    obtain ⟨hmem, hkey⟩ := mem_of_findPod hcurrent
    have hsame : current.uid = uid :=
      Option.some.inj ((hcleanable.consumerUID hname current hmem hkey).symm.trans huid)
    rw [hcurrent] at hfades
    simp only [hsame, if_true] at hfades ⊢
    refine ⟨hkept1.fades hfades rfl, fun pod' hpod' hkey' => ?_⟩
    obtain ⟨pod, -, rfl⟩ := List.mem_map.mp hpod'
    split at hkey'
    · rename_i hpodKey
      rw [if_pos hpodKey]
    · rename_i hpodKey
      exact absurd hkey' hpodKey

/-- **The consumer Pod is deleted.** -/
theorem keepsKept_deleteReservationConsumer (hget : s.volumes[i]? = some v)
    (hkept : Kept job (s :: ss) w) :
    KeepsKept job calm (s :: ss) (fun w _ => ConsumerGone calm v w) w
      (deleteReservationConsumer s.id v.reservation.consumerPod) := by
  unfold deleteReservationConsumer
  refine keeps_ite (fun hname => ⟨hkept, fun _ hne => absurd hname hne⟩) fun hname => ?_
  refine (keepsKept_read (P := fun _ => True) rfl rfl (fun _ _ => trivial) hkept).bind
    fun w found hkept hfound => ?_
  have hfound : w.findPod v.podKey = found := Except.ok.inj (congrArg Prod.fst hfound.2)
  cases found with
  | none => exact ⟨hkept, fun _ _ => findPod_eq_none hfound⟩
  | some pod =>
    obtain ⟨hmem, hkey⟩ := mem_of_findPod hfound
    have hcleanable := hkept.head.get hget
    have huid := hcleanable.consumerUID hname pod hmem hkey
    have hlabels := hcleanable.consumer hname pod hmem hkey
    refine keepsKept_reject_bind hkept (fun hbad => ?_) nofun fun _ => ?_
    · rcases hbad with ⟨-, hne⟩ | hne
      · exact absurd huid hne
      · exact absurd hlabels hne
    refine (keepsKept_carry (P := fun _ => True) rfl rfl (fun _ _ => trivial) hkept).bind
      fun w _ hkept _ => ?_
    refine (keepsKept_deletePod hget hname huid hkept).bind fun w _ hkept hdeleted => ?_
    have hstays {w w' : World} (hfades : Fades w w')
        (hdeleted : ∀ pod ∈ w.pods, pod.key = v.podKey → pod.terminating = true) :
        ∀ pod ∈ w'.pods, pod.key = v.podKey → pod.terminating = true := by
      intro pod' hpod' hkey'
      obtain ⟨pod, hpod, hpodKey, -, -, -, hterminating⟩ := hfades.pods pod' hpod'
      exact hterminating (hdeleted pod hpod (hpodKey.symm.trans hkey'))
    refine (keepsKept_carry rfl rfl (fun _ hquiet => hstays hquiet.fades hdeleted) hkept).bind
      fun w _ hkept hdeleted => ?_
    refine Keeps.bind (A := fun w _ => ConsumerGone calm v w) (keepsKept_ask rfl hkept
      fun w1 hbefore hkept1 => ⟨hkept1, fun hcalm _ pod hpod hpodKey => ?_⟩)
        fun w _ hkept hgone => ?_
    · have hterminating := hstays hbefore.controls.toFades hdeleted pod hpod hpodKey
      rw [(hbefore.settled hcalm rfl).pods pod hpod] at hterminating
      cases hterminating
    refine (keepsKept_read rfl rfl (fun _ hquiet => hgone.steady hquiet.steady) hkept).bind
      fun w left hkept hleft => ?_
    have hleft' : w.findPod v.podKey = left := Except.ok.inj (congrArg Prod.fst hleft.2)
    cases left with
    | none => exact ⟨hkept, hleft.1⟩
    | some current =>
      have hdisturbed : calm = false := by
        by_contra hcalm
        obtain ⟨hmem, hkey⟩ := mem_of_findPod hleft'
        exact hleft.1 (by simpa using hcalm) hname current hmem hkey
      exact keeps_ite (fun _ => ⟨hkept, hdisturbed, nofun⟩)
        fun _ => ⟨hkept, hdisturbed, nofun⟩

/-! ## The lookup -/

/-- What a claim that was read says about the claims read later. -/
def SawClaim (key : String × String) : Option Claim → World → Prop
  | none, w => w.claims key = none
  | some claim, w => ∀ claim', w.claims key = some claim' →
      claim'.uid = claim.uid ∧ (claim.volumeName ≠ "" → claim'.volumeName = claim.volumeName)

theorem SawClaim.fades (h : SawClaim key found w)
    (hfades : Fades w w') : SawClaim key found w' := by
  cases found with
  | none =>
    refine Option.eq_none_iff_forall_ne_some.mpr fun claim' hclaim' => ?_
    obtain ⟨claim, hclaim, -⟩ := hfades.claims _ _ hclaim'
    rw [show w.claims key = none from h] at hclaim
    cases hclaim
  | some claim =>
    intro claim' hclaim'
    obtain ⟨old, hold, ⟨huid, -, -, -⟩, hvolume⟩ := hfades.claims _ _ hclaim'
    obtain ⟨holdUID, holdName⟩ := h old hold
    refine ⟨huid.trans holdUID, fun hname => ?_⟩
    rcases hvolume with hsame | ⟨hnone, -⟩
    · exact hsame.trans (holdName hname)
    · exact absurd ((holdName hname).symm.trans hnone) hname

theorem sawClaim_of_claims (h : w.claims key = found) : SawClaim key found w := by
  cases found with
  | none => exact h
  | some claim =>
    intro claim' hclaim'
    cases h.symm.trans hclaim'
    exact ⟨rfl, fun _ => rfl⟩

/-- The volume of a name, if there is one, refers to the claim. -/
def Claimed (name : String) (ref : ObjectReference) (w : World) : Prop :=
  name ∈ w.usedNames ∧ ∀ pv, w.volumes name = some pv → pv.claimRef = some ref ∧ pv.phase ≠ .failed

theorem Claimed.fades (h : Claimed name ref w) (hfades : Fades w w') : Claimed name ref w' := by
  refine ⟨hfades.names _ h.1, fun pv' hpv' => ?_⟩
  obtain ⟨pv, hpv, -, href, hphase⟩ := hfades.volume_of_used h.1 (fun pv hpv => (h.2 pv hpv).1) hpv'
  exact ⟨href, fun hfailed => (h.2 pv hpv).2 (hphase hfailed)⟩

/-- The volume of a name, if there is one, has the UID. -/
def SawVolume (name : String) (uid : Nat) (w : World) : Prop :=
  ∀ pv, w.volumes name = some pv → pv.uid = uid

theorem SawVolume.fades (h : SawVolume name uid w) (hclaimed : Claimed name ref w)
    (hfades : Fades w w') : SawVolume name uid w' := by
  intro pv' hpv'
  obtain ⟨pv, hpv, huid, -⟩ :=
    hfades.volume_of_used hclaimed.1 (fun pv hpv => (hclaimed.2 pv hpv).1) hpv'
  exact huid.trans (h pv hpv)

/-- The reference that the volume of a claim has. -/
def Volume.reference (v : Volume) (uid : UID) : ObjectReference :=
  ⟨v.destination.pvc.ns, v.destination.pvc.name, uid⟩

/-- What is known after the lookup: about the claim, about the volume, and the same about what is
there now, if the environment is calm. -/
structure Inspected (calm : Bool) (kind : Kind) (v : Volume) (found : Option Claim) (pv : Option PV)
    (w : World) : Prop where
  claim : SawClaim v.claimKey found w
  uid : ∀ claim, found = some claim →
    v.destination.pvc.uid = none ∨ v.destination.pvc.uid = some claim.uid
  unbound : kind = .reservation → ∀ claim, found = some claim → v.destination.pv.name = "" →
    claim.volumeName = ""
  claimed : v.volumeName found ≠ "" → v.claimUID found ≠ none ∧
    Claimed (v.volumeName found) (v.reference (v.claimUID found)) w
  volume : ∀ pv', pv = some pv' → v.volumeName found ≠ "" ∧ SawVolume (v.volumeName found) pv'.uid w
  still : calm = true → w.claims v.claimKey = found ∧
    ∀ pv', pv = some pv' → w.volumes (v.volumeName found) = pv

theorem Inspected.steady (h : Inspected calm kind v found pv w) (hsteady : Steady calm w w') :
    Inspected calm kind v found pv w' where
  claim := h.claim.fades hsteady.fades
  uid := h.uid
  unbound := h.unbound
  claimed hname := ⟨(h.claimed hname).1, (h.claimed hname).2.fades hsteady.fades⟩
  volume pv' hpv' := ⟨(h.volume pv' hpv').1, (h.volume pv' hpv').2.fades
    (h.claimed (h.volume pv' hpv').1).2 hsteady.fades⟩
  still hcalm := by
    obtain ⟨hclaims, hvolumes, -⟩ := hsteady.still hcalm
    rw [hclaims, hvolumes]
    exact h.still hcalm

/-- After the claim was read, the volume that will be looked up refers to it. -/
theorem Cleanable.claimed (h : Cleanable kind deleting w id v)
    (hfound : w.claims v.claimKey = found) (hname : v.volumeName found ≠ "") :
    v.claimUID found ≠ none ∧ Claimed (v.volumeName found) (v.reference (v.claimUID found)) w := by
  by_cases hrecorded : v.destination.pv.name = ""
  · -- nothing is recorded: the name is that of the claim's volume
    cases found with
    | none => exact absurd (by simp [Volume.volumeName, hrecorded]) hname
    | some claim =>
      have hvolume : v.volumeName (some claim) = claim.volumeName := by
        simp [Volume.volumeName, hrecorded]
      rw [hvolume] at hname ⊢
      obtain ⟨hused, hpv⟩ := h.binding claim hfound hname
      exact ⟨Option.some_ne_none _, hused, hpv⟩
  · have hvolume : v.volumeName found = v.destination.pv.name := by
      simp [Volume.volumeName, hrecorded]
    obtain ⟨huid, hused, hpv⟩ := h.volume hrecorded
    have hclaimUID : v.claimUID found = v.destination.pvc.uid := by
      cases found with
      | none => rfl
      | some claim =>
        rcases h.claimUID claim hfound with hnone | hsome
        · exact absurd hnone huid
        · exact hsome.symm
    rw [hvolume, hclaimUID]
    exact ⟨huid, hused, fun pv hlive => (hpv pv hlive).2⟩

theorem keepsKept_inspectClaim (hget : s.volumes[i]? = some v) (hkept : Kept job ss w)
    (hs : Clean job w s) (hclaim : w.claims v.claimKey = some claim) :
    KeepsKept job calm ss (fun w' _ => w' = w) w (inspectClaim s.id job.deleting v claim) := by
  have hcleanable := hs.get hget
  refine keepsKept_reject_bind hkept (fun hbad => ?_) nofun fun _ => ?_
  · exfalso
    rcases hbad with ⟨hnone, hne⟩ | ⟨hlabels, hreleased⟩
    · rcases hcleanable.claimUID claim hclaim with h | h
      · exact hnone h
      · exact hne h
    · rcases hcleanable.labels claim hclaim with h | ⟨hkeeping, hempty, huid⟩
      · exact hlabels h
      · exact hreleased ⟨by simpa using hkeeping, huid, hempty⟩
  · refine (keepsKept_reject hkept (fun hbad => ?_) fun _ h => by cases h).post
      fun _ _ h => h.1
    exact absurd (hcleanable.volumeName hbad.1 claim hclaim).symm hbad.2.2

theorem keepsKept_inspectVolume {Q : World → Prop} (hQ : ∀ w w', Quiet calm w w' → Q w → Q w')
    (hget : s.volumes[i]? = some v) (hkept : Kept job (s :: ss) w) (hw : Q w)
    (hclaimed : v.volumeName found ≠ "" → v.claimUID found ≠ none ∧
      Claimed (v.volumeName found) (v.reference (v.claimUID found)) w) :
    KeepsKept job calm (s :: ss) (fun w pv => Q w ∧
        (v.volumeName found ≠ "" → Claimed (v.volumeName found)
          (v.reference (v.claimUID found)) w) ∧
        ∀ pv', pv = some pv' → v.volumeName found ≠ "" ∧ w.volumes (v.volumeName found) = pv) w
      (inspectVolume v (v.claimUID found) (v.volumeName found)) := by
  unfold inspectVolume
  refine keeps_ite (fun hname => ⟨hkept, hw, fun hne => absurd hname hne, nofun⟩)
    fun hname => ?_
  obtain ⟨huid, hclaimed⟩ := hclaimed hname
  refine (keepsKept_read (P := fun w => Q w ∧
    Claimed (v.volumeName found) (v.reference (v.claimUID found)) w) rfl rfl
    (fun w' hquiet => ⟨hQ w w' hquiet hw, hclaimed.fades hquiet.fades⟩) hkept).bind
    fun w pv hkept hread => ?_
  obtain ⟨⟨hw, hclaimed⟩, hpv⟩ := hread
  have hpv : w.volumes (v.volumeName found) = pv := Except.ok.inj (congrArg Prod.fst hpv)
  cases pv with
  | none => exact ⟨hkept, hw, fun _ => hclaimed, nofun⟩
  | some pv =>
    have hcleanable := hkept.head.get hget
    refine keepsKept_reject_bind hkept (fun hbad => ?_) nofun fun _ => ?_
    · exfalso
      rcases hbad with ⟨hsome, hne⟩ | hnone | href
      · have hidentified := hkept.head.identified v (List.mem_of_getElem? hget)
        have hrecorded : v.destination.pv.name ≠ "" := fun h => hsome (hidentified.1.mp h)
        have hvolume : v.volumeName found = v.destination.pv.name := by
          simp [Volume.volumeName, hrecorded]
        rw [hvolume] at hpv
        exact hne ((hcleanable.volume hrecorded).2.2 pv hpv).1
      · exact huid hnone
      · exact href (hclaimed.2 pv hpv).1
    · exact ⟨hkept, hw, fun _ => hclaimed, fun pv' hpv' => ⟨hname, hpv⟩⟩

/-- **The lookup** finds what the record allows. -/
theorem keepsKept_inspectDestination (hget : s.volumes[i]? = some v)
    (hkept : Kept job (s :: ss) w) :
    KeepsKept job calm (s :: ss) (fun w found => Inspected calm job.kind v found.1 found.2 w) w
      (inspectDestination s.id job.deleting v) := by
  refine (keepsKept_read (P := fun _ => True) rfl rfl (fun _ _ => trivial) hkept).bind
    fun w found hkept hread => ?_
  have hfound : w.claims v.claimKey = found := Except.ok.inj (congrArg Prod.fst hread.2)
  have hcleanable := hkept.head.get hget
  -- what is known when the claim has been read, and stays known while the volume is read
  have hknown : ∀ w w', Quiet calm w w' →
      (SawClaim v.claimKey found w ∧ (calm = true → w.claims v.claimKey = found)) →
      SawClaim v.claimKey found w' ∧ (calm = true → w'.claims v.claimKey = found) := by
    intro w w' hquiet hknown
    refine ⟨hknown.1.fades hquiet.fades, fun hcalm => ?_⟩
    rw [hquiet.still hcalm]
    exact hknown.2 hcalm
  have hvolume := keepsKept_inspectVolume hknown hget hkept
    ⟨sawClaim_of_claims hfound, fun _ => hfound⟩ (hcleanable.claimed hfound)
  have hinspected : ∀ w pv, Kept job (s :: ss) w →
      ((SawClaim v.claimKey found w ∧ (calm = true → w.claims v.claimKey = found)) ∧
        (v.volumeName found ≠ "" → Claimed (v.volumeName found)
          (v.reference (v.claimUID found)) w) ∧
        ∀ pv', pv = some pv' → v.volumeName found ≠ "" ∧ w.volumes (v.volumeName found) = pv) →
      Inspected calm job.kind v found pv w := by
    intro w pv hkept ⟨⟨hclaim, hstill⟩, hclaimed, hpv⟩
    refine ⟨hclaim, ?_, ?_, fun hname => ⟨(hcleanable.claimed hfound hname).1, hclaimed hname⟩,
      fun pv' hpv' => ⟨(hpv pv' hpv').1, fun pv'' hpv'' => ?_⟩, fun hcalm => ⟨hstill hcalm,
      fun pv' hpv' => (hpv pv' hpv').2⟩⟩
    · intro claim hsome
      exact hcleanable.claimUID claim (hfound.trans hsome)
    · intro hkind claim hsome hname
      exact (hcleanable.unbound hkind hname claim (hfound.trans hsome)).1
    · have hsame := (hpv pv' hpv').2.symm.trans hpv''
      rw [hpv'] at hsame
      cases hsame
      rfl
  cases found with
  | none => exact hvolume.bind fun w pv hkept h => ⟨hkept, hinspected w pv hkept h⟩
  | some claim =>
    refine (keepsKept_inspectClaim hget hkept hkept.head hfound).bind fun w' _ _ hsame => ?_
    rw [hsame]
    exact hvolume.bind fun w pv hkept h => ⟨hkept, hinspected w pv hkept h⟩

theorem uses_of_active {pod : Pod} (hns : pod.ns = key.1)
    (hactive : activePodUsesPVC pod.toPod key.2 = true) : pod.Uses key := by
  simp only [activePodUsesPVC, podUsesPVC, Bool.and_eq_true, decide_eq_true_eq] at hactive
  exact ⟨hns, hactive.2⟩

/-- The check of the consumers of a claim that is still there passes: only the recorded Pod uses
it. -/
theorem keepsKept_checkConsumers {u : Volume} (hget : s.volumes[i]? = some v)
    (hkey : u.claimKey = v.claimKey) (hconsumer : u.reservation = v.reservation)
    (hkept : Kept job (s :: ss) w) (hinspected : Inspected calm job.kind v found pv w) :
    KeepsKept job calm (s :: ss) (fun w _ => Inspected calm job.kind v found pv w) w
      (checkConsumers s.id job.deleting u found) := by
  unfold checkConsumers
  refine keeps_ite (fun hdeleting => ?_) fun _ => ⟨hkept, hinspected⟩
  refine (keepsKept_read rfl rfl (fun w' hquiet => hinspected.steady hquiet.steady)
    hkept).bind fun w pods hkept hread => ?_
  obtain ⟨hinspected, hpods⟩ := hread
  have hpods : w.pods.filter (fun pod => decide (pod.ns = u.destination.pvc.ns)) = pods :=
    Except.ok.inj (congrArg Prod.fst hpods)
  refine (keepsKept_reject hkept (fun hbad => ?_) fun _ h => by cases h).post
    fun w' _ hsame => by rw [hsame.1]; exact hinspected
  by_contra hcalm
  have hclaim : w.claims v.claimKey ≠ none := by
    rw [(hinspected.still (by simpa using hcalm)).1]
    exact hdeleting.2
  obtain ⟨pod, hpod, hother⟩ := List.any_eq_true.mp hbad
  rw [← hpods] at hpod
  obtain ⟨hmem, hns⟩ := List.mem_filter.mp hpod
  rw [Bool.and_eq_true, Bool.not_eq_true'] at hother
  have hcleanable := hkept.head.get hget
  have huses : pod.Uses v.claimKey := by
    rw [← hkey]
    exact uses_of_active (of_decide_eq_true hns) hother.2
  obtain ⟨hname, hpodKey⟩ := hcleanable.onlyConsumer hdeleting.1 hclaim pod hmem huses
  have huid := hcleanable.consumerUID hname pod hmem hpodKey
  have hlabels := hcleanable.consumer hname pod hmem hpodKey
  have hpodNs : pod.ns = v.reservation.consumerPod.ns := congrArg Prod.fst hpodKey
  have hpodName : pod.name = v.reservation.consumerPod.name := congrArg Prod.snd hpodKey
  have hreserved : isReservedConsumer s.id u pod = true := by
    simp [isReservedConsumer, hconsumer, hpodNs, hpodName, huid, hlabels]
  rw [hreserved] at hother
  cases hother.1

/-! ## Recording what was found -/

theorem Cleanable.withClaimUID (h : Cleanable kind deleting w id v)
    (hlive : ∀ claim, w.claims v.claimKey = some claim → claim.uid = uid)
    (hrecorded : v.destination.pvc.uid = none ∨ v.destination.pvc.uid = some uid) :
    Cleanable kind deleting w id (v.withClaimUID uid) := by
  have huid (hname : v.destination.pv.name ≠ "") : v.destination.pvc.uid = some uid :=
    hrecorded.resolve_left (h.volume hname).1
  exact
    { labels := fun claim hclaim => (h.labels claim hclaim).imp_right fun hreleased =>
        ⟨hreleased.1, hreleased.2.1, by rw [hlive claim hclaim]; rfl⟩
      claimUID := fun claim hclaim => .inr (by rw [hlive claim hclaim]; rfl)
      binding := h.binding
      volume := fun hname => ⟨Option.some_ne_none _, (h.volume hname).2.1, fun pv hpv => by
        have hold := (h.volume hname).2.2 pv hpv
        rw [huid hname] at hold
        exact hold⟩
      volumeName := h.volumeName
      consumer := h.consumer
      unbound := h.unbound
      consumerUID := h.consumerUID
      onlyConsumer := h.onlyConsumer }

theorem Cleanable.withVolume (h : Cleanable kind deleting w id v) (hname : name ≠ "")
    (hclaimUID : v.destination.pvc.uid ≠ none)
    (hclaimed : Claimed name (v.reference v.destination.pvc.uid) w) (hvolume : SawVolume name uid w)
    (hbound : ∀ claim, w.claims v.claimKey = some claim → claim.volumeName = name) :
    Cleanable kind deleting w id (v.withVolume cluster name uid) :=
  { labels := h.labels
    claimUID := h.claimUID
    binding := h.binding
    volume := fun _ => ⟨hclaimUID, hclaimed.1, fun pv hpv =>
      ⟨congrArg some (hvolume pv hpv).symm, hclaimed.2 pv hpv⟩⟩
    volumeName := fun _ => hbound
    consumer := h.consumer
    unbound := fun _ hnone => absurd hnone hname
    consumerUID := h.consumerUID
    onlyConsumer := h.onlyConsumer }

theorem Inspected.cleanable (h : Inspected calm kind v found pv w)
    (hv : Cleanable kind deleting w id v) :
    Cleanable kind deleting w id (v.withFound cluster found pv) := by
  -- first the claim
  have hclaim : Cleanable kind deleting w id (v.withFound cluster found none) ∧
      (v.withFound cluster found none).destination.pvc.uid = v.claimUID found := by
    cases found with
    | none => exact ⟨hv, rfl⟩
    | some claim =>
      exact ⟨hv.withClaimUID (fun claim' hclaim' => (h.claim claim' hclaim').1)
        (h.uid claim rfl), rfl⟩
  cases pv with
  | none => exact hclaim.1
  | some pv =>
    obtain ⟨hname, hvolume⟩ := h.volume pv rfl
    obtain ⟨huid, hclaimed⟩ := h.claimed hname
    have hkey : (v.withFound cluster found none).claimKey = v.claimKey := by
      cases found <;> rfl
    have href : (v.withFound cluster found none).reference
        (v.withFound cluster found none).destination.pvc.uid = v.reference (v.claimUID found) := by
      rw [hclaim.2]
      cases found <;> rfl
    have hbound : ∀ claim', w.claims (v.withFound cluster found none).claimKey = some claim' →
        claim'.volumeName = v.volumeName found := by
      intro claim' hclaim'
      rw [hkey] at hclaim'
      by_cases hrecorded : v.destination.pv.name = ""
      · cases found with
        | none =>
          rw [show w.claims v.claimKey = none from h.claim] at hclaim'
          cases hclaim'
        | some claim =>
          have hsame : v.volumeName (some claim) = claim.volumeName := by
            simp [Volume.volumeName, hrecorded]
          rw [hsame] at hname ⊢
          exact (h.claim claim' hclaim').2 hname
      · rw [hv.volumeName hrecorded claim' hclaim']
        simp [Volume.volumeName, hrecorded]
    have hcleanable : Cleanable kind deleting w id
        ((v.withFound cluster found none).withVolume cluster (v.volumeName found) pv.uid) :=
      hclaim.1.withVolume hname (by rw [hclaim.2]; exact huid)
        (by rw [href]; exact hclaimed) hvolume hbound
    cases found <;> exact hcleanable

theorem identified_withVolume (hname : name ≠ "") :
    (v.withVolume cluster name uid).Identified cluster :=
  ⟨⟨fun h => absurd h hname, nofun⟩, fun _ => rfl⟩

theorem Inspected.identified (h : Inspected calm kind v found pv w) (hv : v.Identified cluster) :
    (v.withFound cluster found pv).Identified cluster := by
  cases pv with
  | none => cases found <;> exact hv
  | some pv =>
    have hname := (h.volume pv rfl).1
    cases found <;> exact identified_withVolume hname

/-- For a reservation, the lookup records the UID of the claim and nothing else. -/
theorem Inspected.inspected_eq (h : Inspected calm .reservation v found pv w) :
    v.inspected found = v.withFound cluster found none := by
  cases found with
  | none => rfl
  | some claim =>
    have hname : v.volumeName (some claim) = v.destination.pv.name := by
      by_cases hrecorded : v.destination.pv.name = ""
      · simp [Volume.volumeName, hrecorded, h.unbound rfl claim rfl hrecorded]
      · simp [Volume.volumeName, hrecorded]
    simp only [Volume.inspected, hname]
    rfl

theorem Inspected.claimOnly
    (h : Inspected calm kind v found pv w) : Inspected calm kind v found none w :=
  { h with volume := fun _ hpv => (by cases hpv), still := fun hcalm => ⟨(h.still hcalm).1,
      fun _ hpv => by cases hpv⟩ }

theorem fixed_withFound :
    (v.withFound cluster found pv).fixed = v.fixed := by
  cases found <;> cases pv <;> rfl

theorem Inspected.clean (hget : s.volumes[i]? = some v) (h : Inspected calm job.kind v found pv w)
    (hs : Clean job w s) :
    Clean job w (s.setVolume i (v.withFound s.destinationCluster found pv)) :=
  hs.setVolume hget fixed_withFound (h.identified (hs.identified v (List.mem_of_getElem? hget)))
    (h.cleanable (hs.get hget))

/-! ## Deleting -/

/-- What is known of a volume that is about to be deleted: it refers to the claim, it has the
recorded UID, and no Pod uses the claim, if it is still there. -/
structure Doomed (calm : Bool) (v : Volume) (bound : String) (w : World) : Prop where
  claimed : v.target bound ≠ "" → v.destination.pvc.uid ≠ none ∧
    Claimed (v.target bound) (v.reference v.destination.pvc.uid) w
  uid : v.target bound ≠ "" → ∀ uid, v.destination.pv.uid = some uid →
    SawVolume (v.target bound) uid w
  free : calm = true → w.claims v.claimKey ≠ none → ∀ pod ∈ w.pods, ¬ pod.Uses v.claimKey

theorem Doomed.fades {bound : String} (h : Doomed calm v bound w) (hfades : Fades w w') :
    Doomed calm v bound w' where
  claimed hname := ⟨(h.claimed hname).1, (h.claimed hname).2.fades hfades⟩
  uid hname uid huid := (h.uid hname uid huid).fades (h.claimed hname).2 hfades
  free hcalm hclaim pod' hpod' huses := by
    obtain ⟨pod, hpod, hsame⟩ := hfades.pods pod' hpod'
    exact h.free hcalm (hfades.exists_of_exists hclaim) pod hpod (hsame.uses huses)

/-- The claim of a name, if there is one, is being deleted. -/
def Going (key : String × String) (w : World) : Prop :=
  ∀ claim, w.claims key = some claim → claim.terminating = true

theorem Going.fades (h : Going key w) (hfades : Fades w w') : Going key w' := by
  intro claim' hclaim'
  obtain ⟨claim, hclaim, ⟨-, -, -, hterminating⟩, -⟩ := hfades.claims _ _ hclaim'
  exact hterminating (h claim hclaim)

/-- When the controllers have finished, the claim is gone and its volume released. -/
theorem Doomed.released {bound : String} (h : Doomed true v bound w) (hgoing : Going v.claimKey w)
    (hsettled : w.Settled) (hname : v.target bound ≠ "") {pv : PV}
    (hpv : w.volumes (v.target bound) = some pv) : pv.phase = .released := by
  refine hsettled.volumes _ pv _ hpv ((h.claimed hname).2.2 pv hpv).1 ?_
  refine Option.eq_none_iff_forall_ne_some.mpr fun claim hclaim => ?_
  obtain ⟨pod, hpod, huses⟩ := hsettled.claims _ claim hclaim (hgoing claim hclaim)
  exact h.free rfl (Option.ne_none_iff_exists'.mpr ⟨claim, hclaim⟩) pod hpod huses

theorem keepsKept_deleteVolume (hclaimed : Claimed name ref w) (huid : SawVolume name uid w)
    (hkept : Kept job ss w) :
    KeepsKept job calm ss (fun _ _ => True) w (ask (.deleteVolume name uid)) := by
  refine keepsKept_ask rfl hkept fun w1 hbefore hkept1 => ?_
  have hfades := fades_deleteVolume w1 name uid
  have huid1 := huid.fades hclaimed hbefore.controls.toFades
  simp only [serve] at hfades ⊢
  split
  · exact ⟨hkept1, trivial⟩
  · rename_i current hcurrent
    have hsame := huid1 current hcurrent
    rw [hcurrent] at hfades
    simp only [hsame, if_true] at hfades ⊢
    exact ⟨hkept1.fades hfades rfl, trivial⟩

/-- **The volume is deleted** once it is released. -/
theorem keepsKept_cleanupDestinationPV {bound : String} (hdoomed : Doomed calm v bound w)
    (hgoing : Going v.claimKey w) (hkept : Kept job ss w) :
    KeepsKept job calm ss (fun _ _ => True) w (cleanupDestinationPV v bound) := by
  unfold cleanupDestinationPV
  refine keeps_ite (fun _ => ⟨hkept, trivial⟩) fun hname => ?_
  refine Keeps.bind (A := fun w _ => Doomed calm v bound w ∧ (calm = true → ∀ pv,
    w.volumes (v.target bound) = some pv → pv.phase = .released)) (keepsKept_ask rfl hkept
    fun w1 hbefore hkept1 => ⟨hkept1, hdoomed.fades hbefore.controls.toFades,
      fun hcalm pv hpv => ?_⟩)
    fun w _ hkept hwaited => ?_
  · have hdoomed1 := hdoomed.fades hbefore.controls.toFades
    subst hcalm
    exact hdoomed1.released (hgoing.fades hbefore.controls.toFades)
      (hbefore.settled rfl rfl) hname hpv
  refine (keepsKept_read (P := fun w => Doomed calm v bound w ∧ (calm = true → ∀ pv,
    w.volumes (v.target bound) = some pv → pv.phase = .released)) rfl rfl
    (fun w' hquiet => ⟨hwaited.1.fades hquiet.fades, fun hcalm => ?_⟩) hkept).bind
    fun w found hkept hread => ?_
  · rw [hquiet.still hcalm]
    exact hwaited.2 hcalm
  obtain ⟨⟨hdoomed, hreleased⟩, hfound⟩ := hread
  have hfound : w.volumes (v.target bound) = found := Except.ok.inj (congrArg Prod.fst hfound)
  cases found with
  | none => exact ⟨hkept, trivial⟩
  | some pv =>
    obtain ⟨huid, hclaimed⟩ := hdoomed.claimed hname
    obtain ⟨href, hfailed⟩ := hclaimed.2 pv hfound
    have hsaw : SawVolume (v.target bound) pv.uid w := by
      intro pv' hpv'
      cases hfound.symm.trans hpv'
      rfl
    refine keepsKept_reject_bind hkept (fun hbad => ?_) nofun fun _ => ?_
    · exfalso
      obtain ⟨uid, hrecorded⟩ := Option.ne_none_iff_exists'.mp hbad.1
      exact hbad.2 (hrecorded.trans
        (congrArg some (hdoomed.uid hname uid hrecorded pv hfound).symm))
    refine keepsKept_reject_bind hkept (fun hbad => ?_) nofun fun _ => ?_
    · exfalso
      rcases hbad.2 with hnone | hne
      · exact huid hnone
      · exact hne href
    refine keepsKept_reject_bind hkept (fun hbad => absurd hbad hfailed) nofun
      fun _ => ?_
    refine keepsKept_reject_bind hkept (fun hbad => ?_) nofun fun _ => ?_
    · by_contra hcalm
      exact hbad.1 (hreleased (by simpa using hcalm) pv hfound)
    refine (keepsKept_carry (P := fun w => Claimed (v.target bound)
      (v.reference v.destination.pvc.uid) w
      ∧ SawVolume (v.target bound) pv.uid w) rfl rfl (fun w' hquiet =>
      ⟨hclaimed.fades hquiet.fades, hsaw.fades hclaimed hquiet.fades⟩) hkept).bind
      fun w _ hkept hknown => ?_
    refine (keepsKept_deleteVolume hknown.1 hknown.2 hkept).bind fun w _ hkept _ => ?_
    exact keepsKept_carry rfl rfl (fun _ _ => trivial) hkept

theorem keepsKept_deleteClaimCall (hP : ∀ w w', Fades w w' → P w → P w')
    (hsaw : SawClaim v.claimKey (some claim) w) (hw : P w) (hkept : Kept job ss w) :
    KeepsKept job calm ss (fun w _ => P w ∧ Going v.claimKey w) w
      (ask (.deleteClaim v.claimKey claim.uid)) := by
  refine keepsKept_ask rfl hkept fun w1 hbefore hkept1 => ?_
  have hfades := fades_deleteClaim w1 v.claimKey claim.uid
  have hsaw1 := hsaw.fades hbefore.controls.toFades
  have hw1 := hP _ _ hbefore.controls.toFades hw
  simp only [serve] at hfades ⊢
  split
  · rename_i hnone
    refine ⟨hkept1, hw1, fun claim' hclaim' => ?_⟩
    rw [hnone] at hclaim'
    cases hclaim'
  · rename_i current hcurrent
    have hsame := (hsaw1 current hcurrent).1
    rw [hcurrent] at hfades
    simp only [hsame, if_true] at hfades ⊢
    refine ⟨hkept1.fades hfades rfl, hP _ _ hfades hw1, fun claim' hclaim' => ?_⟩
    simp only [World.setClaim, Function.update_self, Option.some.injEq] at hclaim'
    rw [← hclaim']

theorem free_of_consumerGone (hcleanable : Cleanable kind true w id v)
    (hgone : ConsumerGone calm v w) (hcalm : calm = true) (hclaim : w.claims v.claimKey ≠ none) :
    ∀ pod ∈ w.pods, ¬ pod.Uses v.claimKey := by
  intro pod hpod huses
  obtain ⟨hname, hkey⟩ := hcleanable.onlyConsumer rfl hclaim pod hpod huses
  exact hgone hcalm hname pod hpod hkey

theorem keepsKept_ensureNoActiveConsumers (hP : ∀ w w', Fades w w' → P w → P w') (hw : P w)
    (hfree : calm = true → ∀ pod ∈ w.pods, ¬ pod.Uses key) (hkept : Kept job ss w) :
    KeepsKept job calm ss (fun w _ => P w) w (ensureNoActiveConsumers key) := by
  refine (keepsKept_read (P := fun w => P w ∧ (calm = true → ∀ pod ∈ w.pods, ¬ pod.Uses key))
    rfl rfl (fun w' hquiet => ⟨hP w w' hquiet.fades hw, fun hcalm => ?_⟩) hkept).bind
    fun w pods hkept hread => ?_
  · rw [hquiet.still hcalm]
    exact hfree hcalm
  obtain ⟨⟨hw, hfree⟩, hpods⟩ := hread
  have hpods : w.pods.filter (fun pod => decide (pod.ns = key.1)) = pods :=
    Except.ok.inj (congrArg Prod.fst hpods)
  refine (keepsKept_reject hkept (fun hbad => ?_) fun _ h => by cases h).post
    fun w' _ hsame => by rw [hsame.1]; exact hw
  by_contra hcalm
  obtain ⟨pod, hpod, hactive⟩ := List.any_eq_true.mp hbad
  rw [← hpods] at hpod
  obtain ⟨hmem, hns⟩ := List.mem_filter.mp hpod
  exact hfree (by simpa using hcalm) pod hmem (uses_of_active (of_decide_eq_true hns) hactive)

/-- What is known of the volume of a claim that was read and can be deleted. -/
theorem Cleanable.doomed (h : Cleanable kind true w id v) (hidentified : v.Identified cluster)
    (hclaim : w.claims v.claimKey = some claim) (hgone : ConsumerGone calm v w) :
    Doomed calm (v.withClaimUID claim.uid) claim.volumeName w := by
  have hrecorded (hne : v.destination.pv.name ≠ "") : claim.volumeName = v.destination.pv.name :=
    h.volumeName hne claim hclaim
  have htarget : (v.withClaimUID claim.uid).target claim.volumeName = claim.volumeName := by
    by_cases hnone : claim.volumeName = ""
    · have hempty : v.destination.pv.name = "" := by
        by_contra hne
        exact hne ((hrecorded hne).symm.trans hnone)
      simp only [Volume.target, hnone, if_true]
      exact hempty
    · simp [Volume.target, hnone]
  have hfree := free_of_consumerGone h hgone
  refine ⟨fun hname => ?_, fun hname uid huid => ?_, hfree⟩
  · rw [htarget] at hname ⊢
    obtain ⟨hused, hpv⟩ := h.binding claim hclaim hname
    exact ⟨Option.some_ne_none _, hused, hpv⟩
  · have hne : v.destination.pv.name ≠ "" := by
      intro hempty
      have hnone := hidentified.1.mp hempty
      rw [show v.destination.pv.uid = some uid from huid] at hnone
      cases hnone
    rw [htarget, hrecorded hne]
    intro pv hpv
    have hpvUID := ((h.volume hne).2.2 pv hpv).1
    exact Option.some.inj (hpvUID.symm.trans huid)

/-- **The claim is deleted**, and then its volume. -/
theorem keepsKept_deleteClaim (hdeleting : job.deleting = true) (hget : s.volumes[i]? = some v)
    (hkept : Kept job (s :: ss) w) (hclaim : w.claims v.claimKey = some claim)
    (hgone : ConsumerGone calm v w) :
    KeepsKept job calm (s :: ss) (fun w v' => v'.fixed = v.fixed ∧ Clean job w (s.setVolume i v')) w
      (deleteClaim s.id v claim) := by
  have hcleanable := hkept.head.get hget
  rw [hdeleting] at hcleanable
  have hidentified := hkept.head.identified v (List.mem_of_getElem? hget)
  refine keepsKept_reject_bind hkept (fun hbad => ?_) nofun fun _ => ?_
  · exfalso
    rcases hcleanable.claimUID claim hclaim with h | h
    · exact hbad.1 h
    · exact hbad.2 h
  refine keepsKept_reject_bind hkept (fun hbad => ?_) nofun fun _ => ?_
  · exfalso
    rcases hcleanable.labels claim hclaim with h | ⟨hkeeping, -⟩
    · exact hbad h
    · cases hkeeping
  refine keepsKept_reject_bind hkept (fun hbad => ?_) nofun fun _ => ?_
  · exact absurd (hcleanable.volumeName hbad.1 claim hclaim).symm hbad.2.2
  -- what stays known until the end: the claim, its volume, and the session with the claim recorded
  have hsession : Clean job w (s.setVolume i (v.withClaimUID claim.uid)) := by
    refine hkept.head.setVolume hget rfl hidentified ?_
    rw [hdeleting]
    refine hcleanable.withClaimUID (fun claim' hclaim' => ?_) (hcleanable.claimUID claim hclaim)
    cases hclaim.symm.trans hclaim'
    rfl
  have hknown : ∀ w w', Fades w w' →
      (SawClaim v.claimKey (some claim) w ∧
        Doomed calm (v.withClaimUID claim.uid) claim.volumeName w ∧
        Clean job w (s.setVolume i (v.withClaimUID claim.uid))) →
      SawClaim v.claimKey (some claim) w' ∧ Doomed calm (v.withClaimUID claim.uid)
        claim.volumeName w' ∧ Clean job w' (s.setVolume i (v.withClaimUID claim.uid)) :=
    fun w w' hfades h => ⟨h.1.fades hfades, h.2.1.fades hfades, h.2.2.fades hfades⟩
  refine (keepsKept_ensureNoActiveConsumers hknown ⟨sawClaim_of_claims hclaim,
    hcleanable.doomed hidentified hclaim hgone, hsession⟩ (fun hcalm =>
    free_of_consumerGone hcleanable hgone hcalm (Option.ne_none_iff_exists'.mpr ⟨claim, hclaim⟩))
    hkept).bind fun w _ hkept hw => ?_
  refine (keepsKept_carry rfl rfl (fun w' hquiet => hknown w w' hquiet.fades hw) hkept).bind
    fun w _ hkept hw => ?_
  refine (keepsKept_deleteClaimCall hknown hw.1 hw hkept).bind fun w _ hkept hw => ?_
  refine (keepsKept_carry rfl rfl (fun w' hquiet => And.intro (hknown w w' hquiet.fades hw.1)
    (hw.2.fades hquiet.fades)) hkept).bind fun w _ hkept hw => ?_
  -- the session with the claim recorded goes through the deletion of the volume
  refine Keeps.bind (A := fun w _ => Clean job w (s.setVolume i (v.withClaimUID claim.uid)))
    ((keepsKept_cleanupDestinationPV hw.1.2.1 hw.2 (hkept.cons hw.1.2.2)).mono (fun _ h => h.tail)
      (fun _ _ h _ => h.head) fun _ _ _ => id) fun w _ hkept hclean => ⟨hkept, rfl, hclean⟩

/-- **One volume of a cleanup that deletes.** -/
theorem keepsKept_cleanupDestinationVolume (hdeleting : job.deleting = true)
    (hget : s.volumes[i]? = some v) (hkept : Kept job (s :: ss) w) :
    KeepsKept job calm (s :: ss) (fun w v' => v'.fixed = v.fixed ∧ Clean job w (s.setVolume i v')) w
      (cleanupDestinationVolume s.id v) := by
  refine (keepsKept_deleteReservationConsumer hget hkept).bind fun w _ hkept hgone => ?_
  refine (keepsKept_read rfl rfl
    (fun w' hquiet => hgone.steady hquiet.steady) hkept).bind fun w found hkept hread => ?_
  obtain ⟨hgone, hfound⟩ := hread
  have hfound : w.claims v.claimKey = found := Except.ok.inj (congrArg Prod.fst hfound)
  cases found with
  | some claim => exact keepsKept_deleteClaim hdeleting hget hkept hfound hgone
  | none =>
    have hcleanable := hkept.head.get hget
    rw [hdeleting] at hcleanable
    have hidentified := hkept.head.identified v (List.mem_of_getElem? hget)
    have htarget : v.target "" = v.destination.pv.name := rfl
    have hdoomed : Doomed calm v "" w := by
      refine ⟨fun hname => ?_, fun hname uid huid pv hpv => ?_,
        free_of_consumerGone hcleanable hgone⟩
      · obtain ⟨huid, hused, hpv⟩ := hcleanable.volume hname
        exact ⟨huid, hused, fun pv hlive => (hpv pv hlive).2⟩
      · exact Option.some.inj (((hcleanable.volume hname).2.2 pv hpv).1.symm.trans huid)
    have hgoing : Going v.claimKey w := by
      intro claim hclaim
      rw [hfound] at hclaim
      cases hclaim
    refine (keepsKept_cleanupDestinationPV hdoomed hgoing hkept).bind fun w _ hkept _ =>
      ⟨hkept, rfl, ?_⟩
    rw [Session.setVolume_of_getElem? hget]
    exact hkept.head

end CrossCluster

end PvcMigrate
