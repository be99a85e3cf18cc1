import PvcMigrate.CrossCluster.Destination

/-!
# What a record knows of the destination

A session works on its own objects only, and nobody else touches them.  So what a record says about
them stays true, however late it is read: the claim of the recorded name has the recorded UID, the
recorded volume refers to that claim, the consumer Pod carries the labels of the session.  `Tracked`
says this of one volume; it survives everything the controllers do and every deletion.
-/

namespace PvcMigrate

namespace CrossCluster

open Kube

/-! ## Tracked volumes -/

/-- The live objects fit what is recorded of a volume.  A cleanup that keeps the storage takes the
labels off a claim whose UID it has recorded. -/
structure Tracked (keeping : Bool) (w : World) (id : String) (v : Volume) : Prop where
  labels : ∀ claim, w.claims v.claimKey = some claim → claim.labels = ownedBy id ∨
    keeping = true ∧ claim.labels = {} ∧ v.destination.pvc.uid = some claim.uid
  claimUID : ∀ claim, w.claims v.claimKey = some claim →
    v.destination.pvc.uid = none ∨ v.destination.pvc.uid = some claim.uid
  binding : ∀ claim, w.claims v.claimKey = some claim → claim.volumeName ≠ "" →
    claim.volumeName ∈ w.usedNames ∧ ∀ pv, w.volumes claim.volumeName = some pv →
      pv.claimRef = some (claimReference v.claimKey claim.uid) ∧ pv.phase ≠ .failed
  volume : v.destination.pv.name ≠ "" → v.destination.pvc.uid ≠ none ∧
    v.destination.pv.name ∈ w.usedNames ∧ ∀ pv, w.volumes v.destination.pv.name = some pv →
      v.destination.pv.uid = some pv.uid ∧
      pv.claimRef = some ⟨v.claimKey.1, v.claimKey.2, v.destination.pvc.uid⟩ ∧ pv.phase ≠ .failed
  volumeName : v.destination.pv.name ≠ "" → ∀ claim, w.claims v.claimKey = some claim →
    claim.volumeName = v.destination.pv.name
  consumer : v.reservation.consumerPod.name ≠ "" → ∀ pod ∈ w.pods, pod.key = v.podKey →
    pod.labels = ownedBy id

variable {keeping : Bool} {w w' : World} {id : String} {v : Volume}

theorem Fades.volume_of_used (hfades : Fades w w') {name : String} {ref : ObjectReference}
    (hused : name ∈ w.usedNames) (hclaimed : ∀ pv, w.volumes name = some pv →
      pv.claimRef = some ref)
    {pv' : PV} (hpv' : w'.volumes name = some pv') :
    ∃ pv, w.volumes name = some pv ∧ pv'.uid = pv.uid ∧ pv'.claimRef = some ref ∧
      (pv'.phase = .failed → pv.phase = .failed) := by
  rcases hfades.volumes name pv' hpv' with hunused | ⟨pv, hpv, huid, href, hphase⟩
  · rcases hunused with hfresh | ⟨pv, hpv, hnone⟩
    · exact absurd hused hfresh
    · rw [hclaimed pv hpv] at hnone
      cases hnone
  · exact ⟨pv, hpv, huid, href.trans (hclaimed pv hpv), hphase⟩

/-- **Tracking survives the controllers and deletions.** -/
theorem Tracked.fades (h : Tracked keeping w id v) (hfades : Fades w w') :
    Tracked keeping w' id v where
  labels claim' hclaim' := by
    obtain ⟨claim, hclaim, ⟨huid, hlabels, -, -⟩, -⟩ := hfades.claims _ _ hclaim'
    rw [hlabels, huid]
    exact h.labels claim hclaim
  claimUID claim' hclaim' := by
    obtain ⟨claim, hclaim, ⟨huid, -, -, -⟩, -⟩ := hfades.claims _ _ hclaim'
    rw [huid]
    exact h.claimUID claim hclaim
  binding claim' hclaim' hname := by
    obtain ⟨claim, hclaim, ⟨huid, -, -, -⟩, hvolume⟩ := hfades.claims _ _ hclaim'
    rcases hvolume with hsame | ⟨-, -, -, hused, hpv⟩
    · rw [hsame] at hname ⊢
      obtain ⟨hused, hpv⟩ := h.binding claim hclaim hname
      refine ⟨hfades.names _ hused, fun pv' hpv' => ?_⟩
      obtain ⟨pv, hlive, -, href, hphase⟩ :=
        hfades.volume_of_used hused (fun pv hlive => (hpv pv hlive).1) hpv'
      rw [huid]
      exact ⟨href, fun hfailed => (hpv pv hlive).2 (hphase hfailed)⟩
    · exact ⟨hused, hpv⟩
  volume hname := by
    obtain ⟨huid, hused, hpv⟩ := h.volume hname
    refine ⟨huid, hfades.names _ hused, fun pv' hpv' => ?_⟩
    obtain ⟨pv, hlive, hpvuid, href, hphase⟩ :=
      hfades.volume_of_used hused (fun pv hlive => (hpv pv hlive).2.1) hpv'
    obtain ⟨hrecorded, -, hfailed⟩ := hpv pv hlive
    exact ⟨hrecorded.trans (congrArg some hpvuid.symm), href, fun h => hfailed (hphase h)⟩
  volumeName hname claim' hclaim' := by
    obtain ⟨claim, hclaim, -, hvolume⟩ := hfades.claims _ _ hclaim'
    have hold := h.volumeName hname claim hclaim
    rcases hvolume with hsame | ⟨hnone, -⟩
    · rw [hsame, hold]
    · exact absurd (hold.symm.trans hnone) hname
  consumer hname pod' hpod' hkey := by
    obtain ⟨pod, hpod, hpodKey, -, hlabels, -⟩ := hfades.pods pod' hpod'
    rw [hlabels]
    exact h.consumer hname pod hpod (hpodKey.symm.trans hkey)

/-! ## Deletions -/

theorem fades_record (w : World) (r : Option Session) : Fades w { w with record := r } :=
  ⟨rfl, fun _ h => h, (Fades.refl w).pods, (Fades.refl w).claims, (Fades.refl w).volumes⟩

theorem fades_deleteClaim (w : World) (key : String × String) (uid : Nat) :
    Fades w (serve (.deleteClaim key uid) w).2 := by
  simp only [serve]
  split
  · exact .refl w
  · rename_i current hcurrent
    split
    · refine ⟨rfl, fun _ h => h, (Fades.refl w).pods, fun key' claim' h => ?_,
        (Fades.refl w).volumes⟩
      by_cases hkey : key' = key
      · subst hkey
        simp only [World.setClaim, Function.update_self, Option.some.injEq] at h
        subst h
        exact ⟨current, hcurrent, ⟨rfl, rfl, rfl, fun _ => rfl⟩, .inl rfl⟩
      · simp only [World.setClaim, Function.update_of_ne hkey] at h
        exact ⟨claim', h, .refl claim', .inl rfl⟩
    · exact .refl w

/-- A volume that is removed, or changed in its phase and its policy only. -/
theorem fades_setVolume {name : String} {pv : Option PV}
    (h : ∀ pv', pv = some pv' → ∃ old, w.volumes name = some old ∧ pv'.uid = old.uid ∧
      pv'.claimRef = old.claimRef ∧ pv'.phase = old.phase) : Fades w (w.setVolume name pv) := by
  refine ⟨rfl, fun _ h => h, (Fades.refl w).pods, fun _ claim h =>
    ⟨claim, h, .refl claim, .inl rfl⟩, fun name' pv' hpv' => .inr ?_⟩
  by_cases hname : name' = name
  · subst hname
    simp only [World.setVolume, Function.update_self] at hpv'
    obtain ⟨old, hold, huid, href, hphase⟩ := h pv' hpv'
    exact ⟨old, hold, huid, href, fun hfailed => hphase.symm.trans hfailed⟩
  · simp only [World.setVolume, Function.update_of_ne hname] at hpv'
    exact ⟨pv', hpv', rfl, rfl, id⟩

theorem fades_updateVolume (w : World) (name : String) (pv : PV) :
    Fades w (serve (.updateVolume name pv) w).2 := by
  simp only [serve]
  split
  · exact .refl w
  · rename_i current hcurrent
    split
    · refine fades_setVolume fun pv' hpv' => ⟨current, hcurrent, ?_⟩
      cases hpv'
      exact ⟨rfl, rfl, rfl⟩
    · exact .refl w

theorem fades_deleteVolume (w : World) (name : String) (uid : Nat) :
    Fades w (serve (.deleteVolume name uid) w).2 := by
  simp only [serve]
  split
  · exact .refl w
  · split
    · exact fades_setVolume fun pv' hpv' => by cases hpv'
    · exact .refl w

theorem fades_deletePod (w : World) (key : String × String) (uid : Nat) :
    Fades w (serve (.deletePod key uid) w).2 := by
  simp only [serve]
  split
  · exact .refl w
  · split
    · refine ⟨rfl, fun _ h => h, fun pod' hpod' => ?_, (Fades.refl w).claims,
        (Fades.refl w).volumes⟩
      obtain ⟨pod, hpod, rfl⟩ := List.mem_map.mp hpod'
      refine ⟨pod, hpod, ?_⟩
      split
      · exact ⟨rfl, rfl, rfl, rfl, fun _ => rfl⟩
      · exact .refl pod
    · exact .refl w

/-! ## Before the cleanup -/

def Stays (w w' : World) : Prop :=
  ∀ key claim, w.claims key = some claim → claim.terminating = false →
    ∃ claim', w'.claims key = some claim' ∧ claim'.terminating = false

theorem Stays.of_claims_eq (h : w'.claims = w.claims) : Stays w w' := by
  intro key claim hclaim hstay
  exact ⟨claim, by rw [h]; exact hclaim, hstay⟩

/-- The namespace and the name of the Pod that a reservation creates. -/
def Volume.consumerKey (digest : String → String) (id : String) (v : Volume) : String × String :=
  (v.destination.pvc.ns, reservationConsumerName digest id v.source.pvc.name)

/-- Until the cleanup starts, a recorded claim is there and nobody deletes it. -/
structure Reserving (digest : String → String) (w : World) (id : String) (v : Volume) : Prop
    extends Tracked false w id v where
  alive : ∀ claim, w.claims v.claimKey = some claim → claim.terminating = false
  present : v.destination.pvc.uid ≠ none → ∃ claim, w.claims v.claimKey = some claim
  consumerName : v.reservation.consumerPod.name ≠ "" → v.podKey = v.consumerKey digest id
  pods : ∀ pod ∈ w.pods, pod.key = v.consumerKey digest id → pod.labels = ownedBy id

variable {digest : String → String}

section

variable (h : Reserving digest w id v)
include h

theorem Reserving.step (hfades : Fades w w') (hstays : Stays w w') :
    Reserving digest w' id v where
  toTracked := h.toTracked.fades hfades
  alive claim' hclaim' := by
    obtain ⟨claim, hclaim, -⟩ := hfades.claims _ _ hclaim'
    obtain ⟨claim'', hclaim'', halive⟩ := hstays _ claim hclaim (h.alive claim hclaim)
    cases hclaim'.symm.trans hclaim''
    exact halive
  present huid := by
    obtain ⟨claim, hclaim⟩ := h.present huid
    obtain ⟨claim', hclaim', -⟩ := hstays _ claim hclaim (h.alive claim hclaim)
    exact ⟨claim', hclaim'⟩
  consumerName := h.consumerName
  pods pod' hpod' hkey := by
    obtain ⟨pod, hpod, hpodKey, -, hlabels, -⟩ := hfades.pods pod' hpod'
    rw [hlabels]
    exact h.pods pod hpod (hpodKey.symm.trans hkey)

theorem Reserving.controls (hcontrols : Controls w w') :
    Reserving digest w' id v := h.step hcontrols.toFades hcontrols.stay

/-- **A new claim.**  A volume whose claim is not there has no claim recorded. -/
theorem Reserving.createClaim (key : String × String) (spec : ClaimSpec) : Reserving digest
    (serve (.createClaim key (ownedBy id) spec) w).2 id v := by
  simp only [serve]
  split
  · exact h
  · rename_i hnone
    by_cases hkey : v.claimKey = key
    · have huid : v.destination.pvc.uid = none := by
        by_contra hne
        obtain ⟨claim, hclaim⟩ := h.present hne
        rw [hkey, hnone] at hclaim
        cases hclaim
      have hname : v.destination.pv.name = "" := by
        by_contra hne
        exact (h.volume hne).1 huid
      have hnew {claim : Claim}
          (hclaim : Function.update w.claims key (some (newClaim w (ownedBy id) spec)) v.claimKey =
            some claim) : claim = newClaim w (ownedBy id) spec := by
        rw [hkey, Function.update_self] at hclaim
        exact (Option.some.inj hclaim).symm
      exact
        { labels := fun claim hclaim => .inl (by rw [hnew hclaim]; rfl)
          claimUID := fun _ _ => .inl huid
          binding := fun claim hclaim hne => absurd (by rw [hnew hclaim]; rfl) hne
          volume := fun hne => absurd hname hne
          volumeName := fun hne => absurd hname hne
          consumer := h.consumer
          alive := fun claim hclaim => by rw [hnew hclaim]; rfl
          present := fun hne => absurd huid hne
          consumerName := h.consumerName
          pods := h.pods }
    · have hsame : Function.update w.claims key (some (newClaim w (ownedBy id) spec)) v.claimKey =
          w.claims v.claimKey := Function.update_of_ne hkey ..
      exact
        { labels := fun claim hclaim => h.labels claim (hsame.symm.trans hclaim)
          claimUID := fun claim hclaim => h.claimUID claim (hsame.symm.trans hclaim)
          binding := fun claim hclaim => h.binding claim (hsame.symm.trans hclaim)
          volume := h.volume
          volumeName := fun hne claim hclaim => h.volumeName hne claim (hsame.symm.trans hclaim)
          consumer := h.consumer
          alive := fun claim hclaim => h.alive claim (hsame.symm.trans hclaim)
          present := fun hne => (h.present hne).imp fun _ hclaim => hsame.trans hclaim
          consumerName := h.consumerName
          pods := h.pods }

/-- More Pods, of which those under the name of the consumer are the session's own. -/
theorem Reserving.addPods {pods : List Pod} {nextUID : Nat}
    (hpods : ∀ pod ∈ pods, pod ∈ w.pods ∨ pod.key ≠ v.consumerKey digest id ∨
      pod.labels = ownedBy id) : Reserving digest { w with pods, nextUID } id v := by
  have howned : ∀ pod ∈ pods, pod.key = v.consumerKey digest id → pod.labels = ownedBy id := by
    intro pod hpod hkey
    rcases hpods pod hpod with hold | hother | howned
    · exact h.pods pod hold hkey
    · exact absurd hkey hother
    · exact howned
  exact
    { labels := h.labels
      claimUID := h.claimUID
      binding := h.binding
      volume := h.volume
      volumeName := h.volumeName
      consumer := fun hne pod hpod hkey => howned pod hpod (hkey.trans (h.consumerName hne))
      alive := h.alive
      present := h.present
      consumerName := h.consumerName
      pods := howned }

/-- **A new Pod.** -/
theorem Reserving.createPod (key : String × String) (claim : String) :
    Reserving digest (serve (.createPod key (ownedBy id) claim) w).2 id v := by
  simp only [serve]
  split
  · exact h
  · refine h.addPods fun pod hpod => ?_
    rcases List.mem_append.mp hpod with hold | hnew
    · exact .inl hold
    · rw [List.mem_singleton.mp hnew]
      exact .inr (.inr rfl)

/-- **The Pods a transfer leaves.** -/
theorem Reserving.transferred {left : List Pod}
    (hleft : ∀ pod ∈ left, ∀ pvc, pod.name ≠ reservationConsumerName digest id pvc) :
    Reserving digest { w with pods := w.pods ++ left } id v := by
  refine h.addPods fun pod hpod => ?_
  rcases List.mem_append.mp hpod with hold | hnew
  · exact .inl hold
  · exact .inr (.inl fun hkey => hleft pod hnew _ (congrArg Prod.snd hkey))

end

end CrossCluster

end PvcMigrate
