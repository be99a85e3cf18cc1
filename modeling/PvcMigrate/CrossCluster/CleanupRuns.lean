import PvcMigrate.CrossCluster.Convergence

/-!
# Whole cleanups

A cleanup that keeps the storage takes the labels of the session off the claim, after the UID of the
claim has been saved: only the recorded UID tells a later cleanup that the claim is the session's.
So the sessions that were in memory before the save are dropped here, and what is left is the
record.
-/

namespace PvcMigrate

namespace CrossCluster

open Prog Kube

variable {kind : Kind} {calm : Bool} {w w' : World} {id : String} {v : Volume} {i : Nat} {job : Job}
  {s : Session} {ss : List Session}

/-! ## Keeping -/

variable {key : String × String} {found : Option Claim} {pv : Option PV} {name : String}
  {deleteRecord : Bool}

theorem Cleanable.release {current : Claim} (h : Cleanable kind false w id v)
    (hcurrent : w.claims key = some current)
    (huid : v.claimKey = key → v.destination.pvc.uid = some current.uid) :
    Cleanable kind false (w.setClaim key { current with labels := {} }) id v := by
  -- the claim of the volume, before and after
  have hclaims : ∀ claim', (w.setClaim key { current with labels := {} }).claims
      v.claimKey = some claim' →
      ∃ claim, w.claims v.claimKey = some claim ∧ claim'.uid = claim.uid ∧
        claim'.spec = claim.spec ∧ claim'.volumeName = claim.volumeName ∧
        (claim'.labels = claim.labels ∨ v.claimKey = key ∧ claim'.labels = {}) := by
    intro claim' hclaim'
    by_cases hkey : v.claimKey = key
    · rw [hkey] at hclaim' ⊢
      simp only [World.setClaim, Function.update_self, Option.some.injEq] at hclaim'
      subst hclaim'
      exact ⟨current, hcurrent, rfl, rfl, rfl, .inr ⟨rfl, rfl⟩⟩
    · simp only [World.setClaim, Function.update_of_ne hkey] at hclaim'
      exact ⟨claim', hclaim', rfl, rfl, rfl, .inl rfl⟩
  exact
    { labels := fun claim' hclaim' => by
        obtain ⟨claim, hclaim, hsame, -, -, hlabels⟩ := hclaims claim' hclaim'
        rcases hlabels with hlabels | ⟨hkey, hlabels⟩
        · rw [hlabels, hsame]
          exact h.labels claim hclaim
        · rw [hkey, hcurrent] at hclaim
          cases hclaim
          exact .inr ⟨rfl, hlabels, by rw [hsame]; exact huid hkey⟩
      claimUID := fun claim' hclaim' => by
        obtain ⟨claim, hclaim, hsame, -⟩ := hclaims claim' hclaim'
        rw [hsame]
        exact h.claimUID claim hclaim
      binding := fun claim' hclaim' hname => by
        obtain ⟨claim, hclaim, hsame, -, hvolume, -⟩ := hclaims claim' hclaim'
        rw [hvolume] at hname ⊢
        rw [hsame]
        exact h.binding claim hclaim hname
      volume := h.volume
      volumeName := fun hname claim' hclaim' => by
        obtain ⟨claim, hclaim, -, -, hvolume, -⟩ := hclaims claim' hclaim'
        rw [hvolume]
        exact h.volumeName hname claim hclaim
      consumer := h.consumer
      unbound := fun hkind hname claim' hclaim' => by
        obtain ⟨claim, hclaim, -, hspec, hvolume, -⟩ := hclaims claim' hclaim'
        obtain ⟨hnone, hunbindable⟩ := h.unbound hkind hname claim hclaim
        refine ⟨hvolume.trans hnone, fun hbindable => hunbindable ?_⟩
        simp only [World.Bindable, hspec] at hbindable
        exact hbindable
      consumerUID := h.consumerUID
      onlyConsumer := fun hdeleting => by cases hdeleting }

/-- **Releasing a claim** keeps the invariant, when its UID is in the record. -/
theorem Kept.release {current : Claim} (hkept : Kept job [s] w) (hdeleting : job.deleting = false)
    (hrecord : w.record = some s) (hget : s.volumes[i]? = some v)
    (hcurrent : w.claims v.claimKey = some current)
    (huid : v.destination.pvc.uid = some current.uid) :
    Kept job [s] (w.setClaim v.claimKey { current with labels := {} }) := by
  have hclean : Clean job (w.setClaim v.claimKey { current with labels := {} }) s := by
    refine { hkept.head with volumes := fun u hu => ?_ }
    have hcleanable := hkept.head.volumes u hu
    rw [hdeleting] at hcleanable ⊢
    refine hcleanable.release hcurrent fun hkey => ?_
    -- the claims of a session have different names
    have hsame : u = v :=
      List.inj_on_of_nodup_map hkept.head.nodup hu (List.mem_of_getElem? hget) hkey
    rw [hsame]
    exact huid
  refine ⟨fun r hr => ?_, fun t ht => ?_⟩
  · cases hrecord.symm.trans hr
    exact ⟨(hkept.1 s hrecord).1, hclean⟩
  · cases List.mem_singleton.mp ht
    exact hclean

/-- What is known of a claim that was read. -/
structure FoundClaim (calm : Bool) (key : String × String) (found : Option Claim) (w : World) :
    Prop where
  saw : SawClaim key found w
  still : calm = true → w.claims key = found

theorem FoundClaim.step (h : FoundClaim calm key found w) (hfades : Fades w w')
    (hclaims : calm = true → w'.claims = w.claims) : FoundClaim calm key found w' where
  saw := h.saw.fades hfades
  still hcalm := by
    rw [hclaims hcalm]
    exact h.still hcalm

theorem FoundClaim.steady (h : FoundClaim calm key found w)
    (hsteady : Steady calm w w') : FoundClaim calm key found w' :=
  h.step hsteady.fades fun hcalm => (hsteady.still hcalm).1

theorem Inspected.foundClaim
    (h : Inspected calm kind v found pv w) : FoundClaim calm v.claimKey found w :=
  ⟨h.claim, fun hcalm => (h.still hcalm).1⟩

/-- What is known while a claim is released: besides, the session is the record. -/
structure Releasing (calm : Bool) (s : Session) (key : String × String) (found : Option Claim)
    (w : World) : Prop extends FoundClaim calm key found w where
  record : w.record = some s

theorem Releasing.step (h : Releasing calm s key found w) (hfades : Fades w w')
    (hrecord : w'.record = w.record) (hclaims : calm = true → w'.claims = w.claims) :
    Releasing calm s key found w' :=
  ⟨h.toFoundClaim.step hfades hclaims, hrecord.trans h.record⟩

theorem Releasing.quiet (h : Releasing calm s key found w)
    (hquiet : Quiet calm w w') : Releasing calm s key found w' :=
  h.step hquiet.fades hquiet.record fun hcalm => by rw [hquiet.still hcalm]

/-- What is known of a volume that was read. -/
structure FoundVolume (calm : Bool) (name : String) (pv : Option PV) (w : World) : Prop where
  claimed : pv ≠ none → ∃ ref, Claimed name ref w
  uid : ∀ pv', pv = some pv' → SawVolume name pv'.uid w
  still : calm = true → pv ≠ none → w.volumes name = pv

theorem FoundVolume.steady (h : FoundVolume calm name pv w)
    (hsteady : Steady calm w w') : FoundVolume calm name pv w' where
  claimed hpv := by
    obtain ⟨ref, hclaimed⟩ := h.claimed hpv
    exact ⟨ref, hclaimed.fades hsteady.fades⟩
  uid pv' hpv' := by
    obtain ⟨ref, hclaimed⟩ := h.claimed (by rw [hpv']; exact Option.some_ne_none _)
    exact (h.uid pv' hpv').fades hclaimed hsteady.fades
  still hcalm hpv := by
    rw [(hsteady.still hcalm).2.1]
    exact h.still hcalm hpv

theorem Inspected.foundVolume
    (h : Inspected calm kind v found pv w) : FoundVolume calm (v.volumeName found) pv w where
  claimed hpv := by
    obtain ⟨pv', hpv'⟩ := Option.ne_none_iff_exists'.mp hpv
    exact ⟨_, (h.claimed (h.volume pv' hpv').1).2⟩
  uid pv' hpv' := (h.volume pv' hpv').2
  still hcalm hpv := by
    obtain ⟨pv', hpv'⟩ := Option.ne_none_iff_exists'.mp hpv
    exact (h.still hcalm).2 pv' hpv'

theorem keepsKept_updateVolume {pv : PV} (hfound : FoundVolume calm name (some pv) w)
    (hreleasing : Releasing calm s key found w) (hkept : Kept job ss w) :
    KeepsKept job calm ss (fun w _ => Releasing calm s key found w) w
      (ask (.updateVolume name { pv with reclaimPolicy := .retain })) := by
  refine keepsKept_ask rfl hkept fun w1 hbefore hkept1 => ?_
  have hquiet := hbefore.quiet rfl
  have hfound1 := hfound.steady hquiet.steady
  have hreleasing1 := hreleasing.quiet hquiet
  have hfades := fades_updateVolume w1 name { pv with reclaimPolicy := .retain }
  simp only [serve] at hfades ⊢
  split
  · rename_i hnone
    refine ⟨hkept1, ?_⟩
    by_contra hcalm
    have hlive := hfound1.still (by simpa using hcalm) (Option.some_ne_none _)
    rw [hnone] at hlive
    cases hlive
  · rename_i current hcurrent
    have hsame : current.uid = pv.uid := hfound1.uid pv rfl current hcurrent
    rw [hcurrent] at hfades
    simp only [hsame, if_true] at hfades ⊢
    exact ⟨hkept1.fades hfades rfl, hreleasing1.step hfades rfl fun _ => rfl⟩

theorem keepsKept_protectVolume (hfound : FoundVolume calm name pv w)
    (hreleasing : Releasing calm s key found w) (hkept : Kept job ss w) :
    KeepsKept job calm ss (fun w _ => Releasing calm s key found w) w
      (protectVolume name found pv) := by
  cases pv with
  | none => exact ⟨hkept, hreleasing⟩
  | some pv =>
    refine keeps_ite (fun _ => ?_) fun _ => ⟨hkept, hreleasing⟩
    refine (keepsKept_carry (P := fun w => FoundVolume calm name (some pv) w ∧
      Releasing calm s key found w) rfl rfl
      (fun w' hquiet => ⟨hfound.steady hquiet.steady, hreleasing.quiet hquiet⟩) hkept).bind
      fun w _ hkept hw => ?_
    refine (keepsKept_updateVolume hw.1 hw.2 hkept).bind fun w _ hkept hw => ?_
    exact keepsKept_carry rfl rfl (fun w' hquiet => hw.quiet hquiet) hkept

theorem keepsKept_releaseClaim (hdeleting : job.deleting = false) (hget : s.volumes[i]? = some v)
    (huid : ∀ claim, found = some claim → v.destination.pvc.uid = some claim.uid)
    (hreleasing : Releasing calm s v.claimKey found w) (hkept : Kept job [s] w) :
    KeepsKept job calm [s] (fun _ _ => True) w (releaseClaim v.claimKey found) := by
  cases found with
  | none => exact ⟨hkept, trivial⟩
  | some claim =>
    refine (keepsKept_carry rfl rfl (fun w' hquiet => hreleasing.quiet hquiet) hkept).bind
      fun w _ hkept hreleasing => ?_
    refine Keeps.bind (A := fun _ _ => True) (keepsKept_ask rfl hkept
      fun w1 hbefore hkept1 => ?_) fun w _ hkept _ => keepsKept_carry rfl rfl
        (fun _ _ => trivial) hkept
    have hreleasing1 := hreleasing.quiet (hbefore.quiet rfl)
    simp only [serve]
    split
    · rename_i hnone
      refine ⟨hkept1, ?_⟩
      by_contra hcalm
      have hlive := hreleasing1.still (by simpa using hcalm)
      rw [hnone] at hlive
      cases hlive
    · rename_i current hcurrent
      have hsame : current.uid = claim.uid := (hreleasing1.saw current hcurrent).1
      have hreleased := hkept1.release hdeleting hreleasing1.record hget hcurrent
        (by rw [hsame]; exact huid claim rfl)
      simp only [hsame, if_true] at hreleased ⊢
      exact ⟨hreleased, trivial⟩

theorem KeepsKept.drop {α : Type} {A : World → α → Prop} {p : Action α}
    (h : KeepsKept job calm (s :: ss) A w p) :
    KeepsKept job calm ss (fun w a => Clean job w s ∧ A w a) w p :=
  h.mono (fun _ hkept => hkept.tail) (fun _ _ hkept ha => ⟨hkept.head, ha⟩) fun _ _ _ => id

/-- The end of the retention: the volume is protected and the claim released. -/
theorem keepsKept_retain (hdeleting : job.deleting = false) (hget : s.volumes[i]? = some v)
    (huid : ∀ claim, found = some claim → v.destination.pvc.uid = some claim.uid)
    (hfound : FoundVolume calm name pv w) (hreleasing : Releasing calm s v.claimKey found w)
    (hkept : Kept job [s] w) :
    KeepsKept job calm [] (fun w s' => Clean job w s' ∧ s'.phase = s.phase) w (do
      protectVolume name found pv
      releaseClaim v.claimKey found
      ret s) := by
  refine (keepsKept_protectVolume hfound hreleasing hkept).drop.bind fun w _ hkept hw => ?_
  refine (keepsKept_releaseClaim hdeleting hget huid hw.2 (hkept.cons hw.1)).drop.bind
    fun w _ hkept hw => ⟨hkept, hw.1, rfl⟩

theorem claimKey_withFound {cluster : String} :
    (v.withFound cluster found pv).claimKey = v.claimKey := by
  cases found <;> cases pv <;> rfl

theorem claimUID_withFound {claim : Claim} {cluster : String} :
    (v.withFound cluster (some claim) pv).destination.pvc.uid = some claim.uid := by
  cases pv <;> rfl

/-- **One volume of a cleanup of a copy that keeps.** -/
theorem keepsKept_retainDestinationVolume (hdeleting : job.deleting = false)
    (hget : s.volumes[i]? = some v) (hphase : s.phase ≠ .reserved) (hkept : Kept job [s] w) :
    KeepsKept job calm [] (fun w s' => Clean job w s' ∧ s'.phase = s.phase) w
      (retainDestinationVolume job.service s i v) := by
  refine (keepsKept_deleteReservationConsumer hget hkept).drop.bind fun w _ hkept hw => ?_
  rw [← hdeleting]
  refine (keepsKept_inspectDestination hget (hkept.cons hw.1)).drop.bind fun w found hkept hw => ?_
  obtain ⟨hs, hinspected⟩ := hw
  have hsave : KeepsKept job calm [s.setVolume i (v.withFound s.destinationCluster found.1 found.2)]
      (fun w _ => w.record = some (s.setVolume i
        (v.withFound s.destinationCluster found.1 found.2)) ∧
        Inspected calm job.kind v found.1 found.2 w) w
      (save job.service (s.setVolume i (v.withFound s.destinationCluster found.1 found.2))) :=
    keepsKept_save (fun _ _ hsteady h => Inspected.steady h hsteady) hphase
      (hkept.cons (hinspected.clean hget hs)) hinspected
  refine hsave.drop.bind fun w _ hkept hw => ?_
  obtain ⟨hs, hrecord, hinspected⟩ := hw
  have hkey : (v.withFound s.destinationCluster found.1 found.2).claimKey = v.claimKey :=
    claimKey_withFound
  have hclaim : FoundClaim calm (v.withFound s.destinationCluster found.1 found.2).claimKey
      found.1 w := by
    rw [hkey]
    exact hinspected.foundClaim
  have hretain := keepsKept_retain hdeleting (Session.getElem?_setVolume hget)
    (fun claim hfound => by
    rw [hfound]; exact claimUID_withFound) hinspected.foundVolume ⟨hclaim, hrecord⟩ (hkept.cons hs)
  rw [hkey] at hretain
  exact hretain

theorem keepsKept_recordedVolume (hget : s.volumes[i]? = some v) {P : World → Prop}
    (hP : ∀ w w', Quiet calm w w' → P w → P w') (hkept : Kept job (s :: ss) w) (hw : P w) :
    KeepsKept job calm (s :: ss) (fun w pv => P w ∧ FoundVolume calm v.destination.pv.name pv w ∧
        (pv ≠ none → v.destination.pv.name ≠ "")) w (recordedVolume v) := by
  unfold recordedVolume
  refine keeps_ite (fun _ => ⟨hkept, hw, ?_, fun h => absurd rfl h⟩) fun hname => ?_
  · exact ⟨fun h => absurd rfl h, nofun, fun _ h => absurd rfl h⟩
  refine (keepsKept_read rfl rfl (fun w' hquiet => hP w w' hquiet hw) hkept).imp
    (fun w pv hkept hread => ?_) fun _ _ _ => id
  obtain ⟨hw, hpv⟩ := hread
  have hpv : w.volumes v.destination.pv.name = pv := Except.ok.inj (congrArg Prod.fst hpv)
  obtain ⟨-, hused, hlive⟩ := (hkept.head.get hget).volume hname
  refine ⟨hw, ⟨fun _ => ⟨_, hused, fun pv' hpv' => (hlive pv' hpv').2⟩,
    fun pv' hpv' pv'' hpv'' => ?_,
    fun _ _ => hpv⟩, fun _ => hname⟩
  cases (hpv.trans hpv').symm.trans hpv''
  rfl

theorem Clean.withFoundVolume (hs : Clean job w s) (hget : s.volumes[i]? = some v)
    (hfound : FoundVolume calm v.destination.pv.name pv w)
    (hname : pv ≠ none → v.destination.pv.name ≠ "") :
    Clean job w (s.setVolume i (v.withFoundVolume s.destinationCluster pv)) := by
  cases pv with
  | none =>
    rw [show v.withFoundVolume s.destinationCluster none = v from rfl,
      Session.setVolume_of_getElem? hget]
    exact hs
  | some pv =>
    have hcleanable := hs.get hget
    have hne := hname (Option.some_ne_none _)
    obtain ⟨huid, hused, hlive⟩ := hcleanable.volume hne
    refine hs.setVolume hget rfl (identified_withVolume hne) (hcleanable.withVolume hne huid
      ⟨hused, fun pv' hpv' => (hlive pv' hpv').2⟩ (hfound.uid pv rfl) (hcleanable.volumeName hne))

/-- For a reservation, the lookup records the claim alone. -/
theorem keepsKept_inspectReservation (hkind : job.kind = .reservation)
    (hget : s.volumes[i]? = some v) (hkept : Kept job [s] w) :
    KeepsKept job calm [] (fun w found => Clean job w s ∧ Inspected calm job.kind v found.1 none w ∧
        found.2 = v.withFound s.destinationCluster found.1 none) w
      (inspectReservationCleanupDestination s.id job.deleting v) := by
  refine (keepsKept_inspectDestination hget hkept).drop.bind fun w found hkept hw =>
    ⟨hkept, hw.1, hw.2.claimOnly, ?_⟩
  rw [hkind] at hw
  exact hw.2.inspected_eq

/-- **One volume of a cleanup of a reservation that keeps.** -/
theorem keepsKept_retainReservationDestinationVolume (hdeleting : job.deleting = false)
    (hkind : job.kind = .reservation) (hget : s.volumes[i]? = some v) (hphase : s.phase ≠ .reserved)
    (hkept : Kept job [s] w) :
    KeepsKept job calm [] (fun w s' => Clean job w s' ∧ s'.phase = s.phase) w
      (retainReservationDestinationVolume job.service s i v) := by
  refine (keepsKept_deleteReservationConsumer hget hkept).drop.bind fun w _ hkept hw => ?_
  rw [← hdeleting]
  refine (keepsKept_inspectReservation hkind hget (hkept.cons hw.1)).bind fun w found hkept hw => ?_
  obtain ⟨hs, hinspected, heq⟩ := hw
  obtain ⟨found, u⟩ := found
  dsimp only at heq hinspected ⊢
  have huid : ∀ claim, found = some claim → u.destination.pvc.uid = some claim.uid := by
    intro claim hfound
    rw [heq, hfound]
    exact claimUID_withFound
  have hkey : u.claimKey = v.claimKey := by
    rw [heq]
    exact claimKey_withFound
  have hsession : Clean job w (s.setVolume i u) := by
    rw [heq]
    exact hinspected.clean hget hs
  have hgetu : (s.setVolume i u).volumes[i]? = some u := Session.getElem?_setVolume hget
  have hsave : KeepsKept job calm [s.setVolume i u] (fun w _ => w.record = some (s.setVolume i u) ∧
      FoundClaim calm v.claimKey found w) w (save job.service (s.setVolume i u)) :=
    keepsKept_save (fun _ _ hsteady h => FoundClaim.steady h hsteady) hphase (hkept.cons hsession)
      hinspected.foundClaim
  refine hsave.drop.bind fun w _ hkept hw => ?_
  obtain ⟨hs, -, hclaim⟩ := hw
  refine (keepsKept_recordedVolume hgetu (fun _ _ hquiet h => FoundClaim.steady h hquiet.steady)
    (hkept.cons hs) hclaim).drop.bind fun w pv hkept hw => ?_
  obtain ⟨hs, hclaim, hvolume, hname⟩ := hw
  have hsession := hs.withFoundVolume hgetu hvolume hname
  rw [Session.setVolume_setVolume] at hsession
  have hsave : KeepsKept job calm [s.setVolume i (u.withFoundVolume s.destinationCluster pv)]
      (fun w _ => w.record = some (s.setVolume i (u.withFoundVolume s.destinationCluster pv)) ∧
        FoundClaim calm v.claimKey found w ∧ FoundVolume calm u.destination.pv.name pv w) w
      (save job.service (s.setVolume i (u.withFoundVolume s.destinationCluster pv))) :=
    keepsKept_save (fun _ _ hsteady h => ⟨h.1.steady hsteady, h.2.steady hsteady⟩) hphase
      (hkept.cons hsession) ⟨hclaim, hvolume⟩
  refine hsave.drop.bind fun w _ hkept hw => ?_
  obtain ⟨hs, hrecord, hclaim, hvolume⟩ := hw
  have hkeyFound : (u.withFoundVolume s.destinationCluster pv).claimKey = v.claimKey := by
    rw [← hkey]
    cases pv <;> rfl
  have huidFound : ∀ claim, found = some claim →
      (u.withFoundVolume s.destinationCluster pv).destination.pvc.uid = some claim.uid := by
    intro claim hfound
    rw [← huid claim hfound]
    cases pv <;> rfl
  rw [← hkeyFound] at hclaim ⊢
  exact keepsKept_retain hdeleting (Session.getElem?_setVolume hget) huidFound hvolume
    ⟨hclaim, hrecord⟩ (hkept.cons hs)

/-! ## Rounds -/

/-- A round of a cleanup: from a session under cleanup to another one. -/
def CleansVolume (job : Job) (calm : Bool) (round : Session → Nat → Action Session) : Prop :=
  ∀ w s i, s.phase = .cleaning → Kept job [s] w →
    KeepsKept job calm [] (fun w s' => Clean job w s' ∧ s'.phase = .cleaning) w (round s i)

theorem keepsKept_saveWithMessage {message : String} (hphase : s.phase = .cleaning)
    (hkept : Kept job [s] w) :
    KeepsKept job calm [] (fun w s' => Clean job w s' ∧ s'.phase = .cleaning) w
      (saveWithMessage job.service s message) := by
  have hclean : Clean job w { s with message } := hkept.head.withPhase (by rw [hphase]; decide)
  have hsave : KeepsKept job calm [{ s with message }] (fun w _ =>
      w.record = some { s with message } ∧ True) w (save job.service { s with message }) :=
    keepsKept_save (fun _ _ _ => id) (show s.phase ≠ .reserved by rw [hphase]; decide)
      (hkept.tail.cons hclean) trivial
  exact hsave.drop.bind fun w _ hkept hw => ⟨hkept, hw.1, hphase⟩

theorem cleansVolume_deleteRound (hdeleting : job.deleting = true) :
    CleansVolume job calm (deleteRound job.service) := by
  intro w s i hphase hkept
  unfold deleteRound
  cases hget : s.volumes[i]? with
  | none => exact ⟨hkept.tail, hkept.head, hphase⟩
  | some v =>
    refine (keepsKept_cleanupDestinationVolume hdeleting hget hkept).drop.bind
      fun w v' hkept hw => ?_
    exact keepsKept_saveWithMessage (s := s.setVolume i v') hphase (hkept.cons hw.2.2)

theorem cleansVolume_retainRound (hdeleting : job.deleting = false) :
    CleansVolume job calm (retainRound job.service) := by
  intro w s i hphase hkept
  unfold retainRound
  cases hget : s.volumes[i]? with
  | none => exact ⟨hkept.tail, hkept.head, hphase⟩
  | some v =>
    refine (keepsKept_retainDestinationVolume hdeleting hget (by rw [hphase]; decide) hkept).post
      fun w s' hw => ⟨hw.1, hw.2.trans hphase⟩

theorem cleansVolume_retainReservationRound (hdeleting : job.deleting = false)
    (hkind : job.kind = .reservation) : CleansVolume job calm
    (retainReservationRound job.service) := by
  intro w s i hphase hkept
  unfold retainReservationRound
  cases hget : s.volumes[i]? with
  | none => exact ⟨hkept.tail, hkept.head, hphase⟩
  | some v =>
    refine (keepsKept_retainReservationDestinationVolume hdeleting hkind hget
      (by rw [hphase]; decide) hkept).bind fun w s' hkept hw => ?_
    exact keepsKept_saveWithMessage (hw.2.trans hphase) (hkept.cons hw.1)

/-! ## The end -/

/-- What a cleanup that succeeds leaves behind. -/
def Cleaned (deleteRecord : Bool) (w : World) (s : Session) : Prop :=
  s.phase = .cleaned ∧ w.record = if deleteRecord then none else some s

theorem keepsKept_deleteSession (hkept : Kept job ss w) :
    KeepsKept job calm ss (fun w _ => w.record = none) w deleteSession := by
  refine (keepsKept_carry (P := fun _ => True) rfl rfl (fun _ _ => trivial) hkept).bind
    fun w _ hkept _ => ?_
  refine (keepsKept_carry (P := fun _ => True) rfl rfl (fun _ _ => trivial) hkept).bind
    fun w _ hkept _ => ?_
  refine Keeps.bind (A := fun w _ => w.record = none)
    (keepsKept_ask rfl hkept fun w1 _ hkept1 => ?_)
    fun w _ hkept hw => keepsKept_carry rfl rfl (fun w' hquiet => hquiet.record.trans hw) hkept
  refine ⟨⟨fun r hr => (by cases hr), fun t ht => ?_⟩, rfl⟩
  exact (hkept1.2 t ht).fades (fades_record w1 none)

theorem keepsKept_finishCleanup {message : String} (hkept : Kept job [s] w) :
    KeepsKept job calm [] (Cleaned deleteRecord) w
      (finishCleanup job.service s message deleteRecord) := by
  cases deleteRecord with
  | true =>
    refine Keeps.bind (A := fun w _ => w.record = none) (keepsKept_deleteSession hkept.tail)
      fun w _ hkept hw => ⟨hkept, rfl, hw⟩
  | false =>
    have hsave : KeepsKept job calm [{ s with phase := .cleaned, message }]
        (fun w _ => w.record = some { s with phase := .cleaned, message } ∧ True) w
        (save job.service { s with phase := .cleaned, message }) :=
      keepsKept_save (fun _ _ _ => id) (show Phase.cleaned ≠ .reserved by decide)
        (hkept.tail.cons (hkept.head.withPhase (by decide))) trivial
    refine Keeps.bind (A := fun w _ => w.record = some { s with phase := .cleaned, message })
      (hsave.drop.post fun _ _ h => h.2.1) fun w _ hkept hw => ⟨hkept, rfl, hw⟩

/-- **All volumes**, and the end. -/
theorem keepsKept_cleanVolumes {round : Session → Nat → Action Session} {start done : String}
    (hround : CleansVolume job calm round) (hkept : Kept job [s] w) :
    KeepsKept job calm [] (Cleaned deleteRecord) w
      (cleanVolumes job.service round s start done deleteRecord) := by
  have hsave : KeepsKept job calm [s.cleaning start]
      (fun w _ => w.record = some (s.cleaning start) ∧ True) w
        (save job.service (s.cleaning start)) :=
    keepsKept_save (fun _ _ _ => id) (show Phase.cleaning ≠ .reserved by decide)
      (hkept.tail.cons (hkept.head.withPhase (by decide))) trivial
  refine hsave.drop.bind fun w _ hkept hw => ?_
  refine Keeps.bind (A := fun w s' => Clean job w s' ∧ s'.phase = .cleaning)
    (keeps_fold (L := fun _ w s' => Clean job w s' ∧ s'.phase = .cleaning)
      (fun i _ w s' hkept h => hround w s' i h.2 (hkept.cons h.1)) hkept ⟨hw.1, rfl⟩)
    fun w s' hkept hw => keepsKept_finishCleanup (hkept.cons hw.1)

/-! ## The checks at the start -/

theorem keepsKept_validateSession (hvalid : s.Valid job.service.rules) (hkept : Kept job ss w) :
    KeepsKept job calm ss (fun _ _ => True) w (validateSession job.service s) := by
  refine (keepsKept_requireValid hvalid hkept).bind fun w' _ _ hsame => ?_
  rw [hsame]
  exact keepsKept_carry rfl rfl (fun _ _ => trivial) hkept

theorem keepsKept_requirePolicy {policy : UnusedStoragePolicy}
    (hpolicy : validateUnusedStoragePolicy policy = .ok ()) (hkept : Kept job ss w) :
    KeepsKept job calm ss (fun _ _ => True) w (requirePolicy policy) := by
  unfold requirePolicy
  rw [hpolicy]
  exact ⟨hkept, trivial⟩

theorem policy_of_valid {rules : Rules} {given : UnusedStoragePolicy} (hvalid : s.Valid rules)
    (hgiven : validateUnusedStoragePolicy given = .ok ()) :
    validateUnusedStoragePolicy (s.policy given) = .ok () := by
  unfold Session.policy
  by_cases hunset : given = .unset
  · rw [if_pos hunset]
    exact hvalid.policy
  · rw [if_neg hunset]
    exact hgiven

/-- **The checks of a copy** pass. -/
theorem keepsKept_validateCleanup (hvalid : s.Valid job.service.rules)
    (hgiven : validateUnusedStoragePolicy job.given = .ok ())
    (hdeleting : cleanupDeletesDestination s (s.policy job.given) = job.deleting)
    (hkept : Kept job [s] w) :
    KeepsKept job calm [s] (fun _ _ => True) w (validateCleanup job.service s job.given) := by
  refine (keepsKept_validateSession hvalid hkept).bind fun w _ hkept _ => ?_
  refine (keepsKept_requirePolicy (policy_of_valid hvalid hgiven) hkept).bind fun w _ hkept _ => ?_
  rw [hdeleting]
  refine keeps_each (P := fun _ => True) (fun v hv w hkept _ => ?_) hkept trivial
  obtain ⟨i, hget⟩ := List.mem_iff_getElem?.mp hv
  refine (keepsKept_inspectDestination hget hkept).bind fun w found hkept hw => ?_
  exact (keepsKept_checkConsumers hget rfl rfl hkept hw).post fun _ _ _ => trivial

theorem keepsKept_validateReservationRound (hkind : job.kind = .reservation)
    (hkept : Kept job [s] w) :
    KeepsKept job calm [] (fun w s' => Clean job w s') w
      (validateReservationRound job.deleting s i) := by
  unfold validateReservationRound
  cases hget : s.volumes[i]? with
  | none => exact ⟨hkept.tail, hkept.head⟩
  | some v =>
    refine (keepsKept_inspectReservation hkind hget hkept).bind fun w found hkept hw => ?_
    obtain ⟨hs, hinspected, heq⟩ := hw
    obtain ⟨found, u⟩ := found
    dsimp only at heq hinspected ⊢
    have hkey : u.claimKey = v.claimKey := by
      rw [heq]
      exact claimKey_withFound
    have hconsumer : u.reservation = v.reservation := by
      rw [heq]
      cases found <;> rfl
    refine (keepsKept_checkConsumers hget hkey hconsumer (hkept.cons hs) hinspected).drop.bind
      fun w _ hkept hw => ?_
    refine ⟨hkept, ?_⟩
    rw [heq]
    exact hw.2.clean hget hw.1

/-- **The checks of a reservation** pass, and record the claims only. -/
theorem keepsKept_validateReservationCleanup (hvalid : s.Valid job.service.rules)
    (hgiven : validateUnusedStoragePolicy job.given = .ok ()) (hkind : job.kind = .reservation)
    (hdeleting : deletesUnusedStorage (s.policy job.given) = job.deleting)
    (hkept : Kept job [s] w) :
    KeepsKept job calm [] (fun w s' => Clean job w s') w
      (validateReservationCleanup job.service s job.given) := by
  refine (keepsKept_validateSession hvalid hkept).drop.bind fun w _ hkept hw => ?_
  refine (keepsKept_requirePolicy (policy_of_valid hvalid hgiven) (hkept.cons hw.1)).drop.bind
    fun w _ hkept hw => ?_
  rw [hdeleting]
  exact keeps_fold (L := fun _ w s' => Clean job w s')
    (fun i _ w s' hkept h => keepsKept_validateReservationRound hkind (hkept.cons h)) hkept hw.1

/-! ## Whole cleanups -/

theorem keepsKept_cleanup (hvalid : s.Valid job.service.rules)
    (hgiven : validateUnusedStoragePolicy job.given = .ok ())
    (hdeleting : cleanupDeletesDestination s (s.policy job.given) = job.deleting)
    (hkept : Kept job [s] w) :
    KeepsKept job calm [] (Cleaned deleteRecord) w
      (cleanup job.service job.given deleteRecord s) := by
  refine (keepsKept_validateCleanup hvalid hgiven hdeleting hkept).drop.bind fun w _ hkept hw => ?_
  rw [hdeleting]
  refine keeps_ite (fun htrue => ?_) fun hfalse => ?_
  · exact keepsKept_cleanVolumes (cleansVolume_deleteRound htrue) (hkept.cons hw.1)
  · exact keepsKept_cleanVolumes (cleansVolume_retainRound (by simpa using hfalse))
      (hkept.cons hw.1)

theorem keepsKept_cleanupReservation (hvalid : s.Valid job.service.rules)
    (hgiven : validateUnusedStoragePolicy job.given = .ok ()) (hkind : job.kind = .reservation)
    (hdeleting : deletesUnusedStorage (s.policy job.given) = job.deleting)
    (hkept : Kept job [s] w) :
    KeepsKept job calm [] (Cleaned deleteRecord) w
      (cleanupReservation job.service job.given deleteRecord s) := by
  refine (keepsKept_validateReservationCleanup hvalid hgiven hkind hdeleting hkept).bind
    fun w checked hkept hw => ?_
  rw [hdeleting]
  refine keeps_ite (fun htrue => ?_) fun hfalse => ?_
  · exact keepsKept_cleanVolumes (cleansVolume_deleteRound htrue) (hkept.cons hw)
  · exact keepsKept_cleanVolumes (cleansVolume_retainReservationRound (by simpa using hfalse) hkind)
      (hkept.cons hw)

section

variable (hgiven : validateUnusedStoragePolicy job.given = .ok ())
include hgiven

/-- **A whole cleanup** of a session that was read keeps the invariant and fails only if it is
disturbed. -/
theorem keepsKept_cleanupSession (hkept : Kept job [] w) (hrecord : w.record = some s) :
    KeepsKept job calm [] (Cleaned deleteRecord) w
      (cleanupSession job.service job.given deleteRecord s) := by
  obtain ⟨hvalid, hs⟩ := hkept.1 s hrecord
  have hdeletes := hs.deletes
  unfold cleanupSession
  unfold Session.deletesDestination at hdeletes
  cases hkind : s.kind with
  | copy =>
    rw [hkind] at hdeletes
    exact keepsKept_cleanup hvalid hgiven hdeletes (hkept.cons hs)
  | reservation =>
    rw [hkind] at hdeletes
    exact keepsKept_cleanupReservation hvalid hgiven (hs.kind.symm.trans hkind) hdeletes
      (hkept.cons hs)

theorem kept_of_interrupted {start : World} (hstart : Kept job [] start)
    (hinterrupted : Interrupted job.service job.given deleteRecord start w) : Kept job [] w := by
  induction hinterrupted with
  | refl => exact hstart
  | controllers _ hcontrols ih => exact ih.fades hcontrols.toFades hcontrols.record
  | run _ hrecord hrun ih => exact (keepsKept_cleanupSession hgiven ih hrecord).invariant hrun

/-- **The cleanup converges** from every state that satisfies the invariant. -/
theorem converges_of_kept {start : World} (hstart : Kept job [] start) :
    Converges job.service job.given deleteRecord start := by
  intro w s hinterrupted hrecord
  have hkept := kept_of_interrupted hgiven hstart hinterrupted
  refine ⟨?_, fun w' e hrun => ((keepsKept_cleanupSession hgiven hkept hrecord).error hrun).2⟩
  have hcalm : KeepsKept job true [] (Cleaned deleteRecord) w
      (cleanupSession job.service job.given deleteRecord s) :=
    keepsKept_cleanupSession hgiven hkept hrecord
  have hrun : (cleanupSession job.service job.given deleteRecord s).Runs
      (Observed job.service.digest true) w
      (run calmly (cleanupSession job.service job.given deleteRecord s) w).2
      (some (run calmly (cleanupSession job.service job.given deleteRecord s) w).1) :=
    runs_run (H := calmly) (fun _ _ => Observed.calm) _ w
  generalize run calmly (cleanupSession job.service job.given deleteRecord s) w = outcome at hrun ⊢
  obtain ⟨result, w'⟩ := outcome
  cases result with
  | ok s' =>
    obtain ⟨hphase, hcleaned⟩ := hcalm.result hrun
    exact ⟨s', w', rfl, hphase, hcleaned⟩
  | error e => cases (hcalm.error hrun).1

end

theorem Tracked.keeping {keeping : Bool} (h : Tracked false w id v) : Tracked keeping w id v := by
  refine { h with labels := fun claim hclaim => ?_ }
  rcases h.labels claim hclaim with howned | ⟨hfalse, -⟩
  · exact .inl howned
  · cases hfalse

/-- **From every state that `Reserve`, `Copy` and `PromoteReservation` leave behind, in which the
identities are recorded, the cleanup converges.** -/
theorem cleanup_converges {service : Service} {start : World} {given : UnusedStoragePolicy}
    (hfresh : Fresh service start s) (hreachable : Reachable service start w)
    (hgiven : validateUnusedStoragePolicy given = .ok ())
    (hrecorded : ∀ r, w.record = some r → ∀ v ∈ r.volumes,
      Recorded r.kind (r.deletesDestination given) w v) (deleteRecord : Bool) :
    Converges service given deleteRecord w := by
  have hpersisted := persisted_of_reachable hfresh hreachable
  cases hrecord : w.record with
  | none =>
    have hkept : Kept ⟨service, s, s.kind, given, false⟩ [] w := by
      refine ⟨fun r hr => ?_, fun _ h => (by cases h)⟩
      rw [hrecord] at hr
      cases hr
    exact converges_of_kept hgiven hkept
  | some r =>
    have hkept : Kept ⟨service, s.fixed, r.kind, given, r.deletesDestination given⟩ [] w := by
      refine ⟨fun r' hr' => ?_, fun _ h => (by cases h)⟩
      cases hrecord.symm.trans hr'
      obtain ⟨hvalid, hready⟩ := hpersisted r hrecord
      obtain ⟨hfixed, hidentified, -⟩ := Session.valid_iff.mp hvalid
      exact ⟨hvalid, hready.fixed, hfixed, rfl, hready.completed, rfl, hidentified, fun v hv =>
        ⟨(hready.volumes v hv).toTracked.keeping, hrecorded r hrecord v hv⟩⟩
    exact converges_of_kept hgiven hkept

/-! ## Examples -/

/-- Parsers that accept what the examples use. -/
def exampleRules : Rules where
  validSessionID id := id ≠ ""
  validToolImage image := image ≠ ""
  parseQuantity text := if text = "10Gi" then some 10 else none
  normalizeTransferPath path := some path

def exampleService : Service := ⟨exampleRules, fun name => name, 0, 3⟩

def exampleVolume : Volume where
  source :=
    { pvc := ⟨"east", "apps", "data", some 1⟩, pv := ⟨"east", "", "pv-data", some 2⟩,
      capacity := "10Gi" }
  destination :=
    { pvc := ⟨"west", "apps", "data", none⟩, capacity := "10Gi"
      storageClass := ⟨"west", "", "fast", some 3⟩, accessModes := [.readWriteOnce]
      volumeMode := "Filesystem" }
  sourcePath := "/"
  destinationPath := "/"
  sourcePVCName := "data"

def exampleSession : Session where
  apiVersion := sessionAPIVersion
  kind := .reservation
  id := "move-1"
  sessionNamespace := "migration"
  sourceCluster := "east"
  destinationCluster := "west"
  sourceNamespace := "apps"
  destinationNamespace := "apps"
  targetNode := "node-1"
  toolImage := "tool"
  strategies := ["local"]
  volumes := [exampleVolume]

/-- A cluster whose storage class provides volumes at once. -/
def exampleWorld : World where
  claims _ := none
  volumes _ := none
  pods := []
  classes name := if name = "fast" then some ⟨3, false⟩ else none
  nextUID := 10
  usedNames := []
  record := some exampleSession

theorem exampleFresh : Fresh exampleService exampleWorld exampleSession where
  record := rfl
  valid := by decide
  phase := rfl
  blank := by decide
  claims := fun _ _ => rfl
  pods := fun _ _ _ h => by cases h

/-- The same with a storage class that waits for the first consumer. -/
def exampleWaiting : World :=
  { exampleWorld with classes := fun name => if name = "fast" then some ⟨3, true⟩ else none }

theorem exampleWaiting_fresh : Fresh exampleService exampleWaiting exampleSession :=
  { exampleFresh with claims := fun _ _ => rfl }

/-- An API server that does not let the session delete Pods. -/
def deny : (op : Call) → World → op.Reply × World
  | .deletePod _ _, w => (.error "forbidden", w)
  | op, w => serve op w

theorem observed_deny (digest : String → String) (op : Call) (w : World) :
    Observed digest false w op (deny op w).1 (deny op w).2 := by
  cases op <;> first | exact .served (.refl w) | exact .failed (.refl w)

/-- The cluster after a `reserve`. -/
def World.reserved (w : World) (s : Session) : World :=
  (run deny (reserve exampleService s) w).2

/-- The cluster after its Pods were scheduled. -/
def World.scheduled (w : World) (node : String) : World :=
  { w with pods := w.pods.map fun pod => { pod with nodeName := node } }

theorem World.controls_scheduled (w : World) (node : String) : Controls w (w.scheduled node) where
  toFades := { Fades.refl w with
    pods := fun pod' hpod' => by
      obtain ⟨pod, hpod, rfl⟩ := List.mem_map.mp hpod'
      exact ⟨pod, hpod, rfl, rfl, rfl, rfl, id⟩ }
  record := rfl
  stay _ claim hclaim hstay := ⟨claim, hclaim, hstay⟩

/-- The consumer Pod that `reserve` creates. -/
def examplePod : Pod :=
  newPod { exampleWorld with nextUID := 11 } ("apps", "move-1-reserve-data")
    (ownedBy "move-1") "data"

/-- What the first `reserve` records, which waits in vain for its Pod to be scheduled. -/
def exampleTimedOut : Session :=
  { exampleSession with
    phase := .failed
    message := "timed out waiting for reservation Pod scheduling"
    volumes := [(exampleVolume.withClaimUID 10).withConsumer "west" examplePod] }

/-- Then the claim is bound. -/
def exampleProvided : World :=
  (exampleWaiting.reserved exampleSession).bind ("apps", "data")
    (newClaim exampleWorld (ownedBy "move-1") ⟨"fast", "Filesystem", 10, [.readWriteOnce]⟩) "pv-1"
    { uid := 12, claimRef := some (claimReference ("apps", "data") 10), phase := .bound
      reclaimPolicy := .delete }

/-- The second `reserve`, after the Pod was scheduled, records the volume and fails to delete the
Pod. -/
def exampleReserved : World := (exampleProvided.scheduled "node-1").reserved exampleTimedOut

theorem exampleReserved_reachable : Reachable exampleService exampleWaiting exampleReserved := by
  have hreserve {w : World} {s : Session} (hw : Reachable exampleService exampleWaiting w)
      (hrecord : w.record = some s) (hkind : s.kind = .reservation) :
      Reachable exampleService exampleWaiting (w.reserved s) :=
    .run .reserve hw hrecord hkind (runs_run (observed_deny _) _ w)
  have hprovided : Reachable exampleService exampleWaiting exampleProvided := by
    refine .controllers (hreserve .refl rfl rfl) (World.controls_bind rfl rfl ?_ ?_ rfl ?_)
    · exact .inr ⟨examplePod, List.mem_singleton_self _, rfl, by decide⟩
    · decide
    · decide
  exact hreserve (.controllers hprovided (exampleProvided.controls_scheduled _)) rfl rfl

/-- What the second one records. -/
def exampleRecorded : Session :=
  { exampleTimedOut with
    message := "forbidden"
    volumes := exampleTimedOut.volumes.map fun v => v.withVolume "west" "pv-1" 12 }

theorem cleanup_converges_example :
    exampleReserved.record = some exampleRecorded ∧
      exampleReserved.pods = [{ examplePod with nodeName := "node-1" }] ∧
      ∀ given ∈ [UnusedStoragePolicy.delete, .keep], ∀ deleteRecord,
        Converges exampleService given deleteRecord exampleReserved := by
  refine ⟨rfl, rfl, fun given hgiven => ?_⟩
  have hvalid : validateUnusedStoragePolicy given = .ok () := by
    simp only [List.mem_cons, List.not_mem_nil, or_false] at hgiven
    rcases hgiven with rfl | rfl <;> rfl
  refine cleanup_converges exampleWaiting_fresh exampleReserved_reachable hvalid fun r hr v hv => ?_
  obtain rfl : exampleRecorded = r := Option.some.inj hr
  obtain rfl := List.mem_singleton.mp hv
  refine ⟨fun _ hname => absurd hname (by decide), fun _ pod hpod _ => ?_, fun _ _ pod hpod _ => ?_⟩
  · obtain rfl := List.mem_singleton.mp hpod
    rfl
  · obtain rfl := List.mem_singleton.mp hpod
    exact ⟨by decide, rfl⟩

/-- The claim that `reserve` creates. -/
def exampleClaim : Claim where
  uid := 10
  labels := ownedBy "move-1"
  spec := ⟨"fast", "Filesystem", 10, [.readWriteOnce]⟩

/-- The cluster after `reserve` was cut off behind the creation of the claim. -/
def exampleCreated : World :=
  { exampleWorld with
    claims := Function.update exampleWorld.claims ("apps", "data") (some exampleClaim)
    nextUID := 11 }

def exampleBound : World :=
  exampleCreated.bind ("apps", "data") exampleClaim "pv-1"
    { uid := 11, claimRef := some (claimReference ("apps", "data") 10), phase := .bound
      reclaimPolicy := .delete }

theorem exampleCreated_reachable : Reachable exampleService exampleWorld exampleCreated := by
  have hstop : exampleCreated ∈ stops serve (reserve exampleService exampleSession)
      exampleWorld := by
    refine List.mem_of_getElem? (i := 6) ?_
    rfl
  refine .run .reserve .refl rfl rfl (runs_of_mem_stops (fun op w => ?_) hstop)
  exact .served (.refl w)

theorem exampleBound_reachable : Reachable exampleService exampleWorld exampleBound := by
  refine .controllers exampleCreated_reachable ?_
  exact World.controls_bind rfl rfl (.inl ⟨⟨3, false⟩, rfl, rfl⟩) (by decide) rfl (by decide)

/-- **The record never loses the destination**, however the runs on a new session were cut off: it
is valid and of that session, and its volumes fit the live objects. -/
theorem record_tracks_destination {service : Service} {start w : World} {s r : Session}
    (hfresh : Fresh service start s) (hreachable : Reachable service start w)
    (hrecord : w.record = some r) :
    r.Valid service.rules ∧ r.fixed = s.fixed ∧ (r.phase = .completed → r.completedAt ≠ none) ∧
      ∀ v ∈ r.volumes, Reserving service.digest w s.id v := by
  obtain ⟨hvalid, hready⟩ := persisted_of_reachable hfresh hreachable r hrecord
  exact ⟨hvalid, hready.fixed, hready.completed, hready.volumes⟩

theorem record_tracks_destination_bound : exampleSession.Valid exampleService.rules ∧
    ∀ v ∈ exampleSession.volumes, Reserving exampleService.digest exampleBound "move-1" v :=
  have h := record_tracks_destination exampleFresh exampleBound_reachable rfl
  ⟨h.1, h.2.2.2⟩

theorem cleanup_stuck : Fresh exampleService exampleWorld exampleSession ∧
    Reachable exampleService exampleWorld exampleBound ∧ exampleBound.record = some exampleSession ∧
    ∀ given ∈ [UnusedStoragePolicy.delete, .keep], ∀ deleteRecord,
      run calmly (cleanupSession exampleService given deleteRecord exampleSession) exampleBound =
        (.error (.invalid "cross-cluster volume destination PV identity is incomplete"),
          exampleBound) ∧
      ¬ Converges exampleService given deleteRecord exampleBound := by
  have hrun : ∀ given ∈ [UnusedStoragePolicy.delete, .keep], ∀ deleteRecord,
      run calmly (cleanupSession exampleService given deleteRecord exampleSession) exampleBound =
        (.error (.invalid "cross-cluster volume destination PV identity is incomplete"),
          exampleBound) := by
    intro given hgiven deleteRecord
    simp only [List.mem_cons, List.not_mem_nil, or_false] at hgiven
    rcases hgiven with rfl | rfl <;> cases deleteRecord <;> rfl
  refine ⟨exampleFresh, exampleBound_reachable, rfl, fun given hgiven deleteRecord =>
    ⟨hrun given hgiven deleteRecord, fun hconverges => ?_⟩⟩
  obtain ⟨⟨s', w', hok, -⟩, -⟩ := hconverges exampleBound exampleSession .refl rfl
  rw [hrun given hgiven deleteRecord] at hok
  cases hok

end CrossCluster

end PvcMigrate
