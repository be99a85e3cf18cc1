import PvcMigrate.App.OrphanCleanup

/-!
# What an orphan cleanup may touch

A walk through the cleanup, call by call, in an environment in which any call may fail and the
storage controllers work on what is being deleted.  `Guard` says under which circumstances each
write is made: which object it meets, and what that object carries.  Every other result about the
cleanup follows from the guards, since a guard holds for whatever the cluster was when the cleanup
began.

The metadata that leads to a deletion can refer to anything, also to the claim itself: a claim may
be annotated as its own destination.  The plan then looks up the destination volume and finds the
source volume, whose role is not that of a destination.
-/

namespace PvcMigrate

namespace Orphan

open Prog Kube

/-! ## The cluster since the start -/

/-- The claim is the same, but it may be under deletion. -/
structure SameClaim (new old : PVC) : Prop where
  ns : new.ns = old.ns
  name : new.name = old.name
  uid : new.uid = old.uid
  resourceVersion : new.resourceVersion = old.resourceVersion
  labels : new.labels = old.labels
  annotations : new.annotations = old.annotations
  spec : new.spec = old.spec
  phase : new.phase = old.phase

/-- The volume is the same, but for its phase and its policy. -/
structure Kin (new old : PV) : Prop where
  name : new.name = old.name
  uid : new.uid = old.uid
  labels : new.labels = old.labels
  annotations : new.annotations = old.annotations
  claimRef : new.claimRef = old.claimRef

variable {new old : PVC}

theorem SameClaim.key (h : SameClaim new old) : claimKey new = claimKey old := by
  simp [claimKey, h.ns, h.name]

theorem SameClaim.ref (h : SameClaim new old) : new.ref = old.ref := by
  simp [PVC.ref, h.ns, h.name, h.uid]

theorem SameClaim.refl (pvc : PVC) : SameClaim pvc pvc := ⟨rfl, rfl, rfl, rfl, rfl, rfl, rfl, rfl⟩

theorem Kin.refl (pv : PV) : Kin pv pv := ⟨rfl, rfl, rfl, rfl, rfl⟩

theorem Kin.trans {a b c : PV} (hab : Kin a b) (hbc : Kin b c) : Kin a c :=
  ⟨hab.name.trans hbc.name, hab.uid.trans hbc.uid, hab.labels.trans hbc.labels,
    hab.annotations.trans hbc.annotations, hab.claimRef.trans hbc.claimRef⟩

theorem SameVolume.kin {new old : PV} (h : SameVolume new old) : Kin new old :=
  ⟨h.name, h.uid, h.labels, h.annotations, h.claimRef⟩

variable {id role : String}

theorem Kin.inRole {new old : PV} (h : Kin new old) : InRole id role new ↔ InRole id role old := by
  simp [InRole, h.labels]

/-- The claims are those of the start, and the volumes too; a volume whose claim is there is
there. -/
structure Since (w0 w : World) : Prop where
  claims : ∀ pvc ∈ w.claims.objects, ∃ old ∈ w0.claims.objects, SameClaim pvc old
  volumes : ∀ pv ∈ w.volumes.objects, ∃ old ∈ w0.volumes.objects, Kin pv old
  stays : ∀ old ∈ w0.volumes.objects, w.ClaimExists old → ∃ pv ∈ w.volumes.objects, Kin pv old

variable {w0 w w' : World}

theorem Since.refl (w : World) : Since w w :=
  ⟨fun pvc h => ⟨pvc, h, .refl pvc⟩, fun pv h => ⟨pv, h, .refl pv⟩, fun pv h _ => ⟨pv, h, .refl pv⟩⟩

namespace Controls

theorem mem_claims (h : Controls w w') {pvc : PVC} (hpvc : pvc ∈ w'.claims.objects) :
    pvc ∈ w.claims.objects := by
  obtain ⟨keep, heq, -⟩ := h.claims
  rw [heq] at hpvc
  exact (List.mem_filter.mp hpvc).1

variable {pv : PV}

theorem mem_volumes (h : Controls w w') (hpv : pv ∈ w'.volumes.objects) :
    ∃ old ∈ w.volumes.objects, SameVolume pv old := by
  obtain ⟨change, heq, hchange⟩ := h.volumes
  rw [heq] at hpv
  obtain ⟨old, hold, hsome⟩ := List.mem_filterMap.mp hpv
  exact ⟨old, hold, (hchange old hold).1 pv hsome⟩

theorem mem_pods (h : Controls w w') {pod : Pod} (hpod : pod ∈ w'.pods.objects) :
    pod ∈ w.pods.objects := by
  obtain ⟨keep, heq⟩ := h.pods
  rw [heq] at hpod
  exact (List.mem_filter.mp hpod).1

theorem claimExists (h : Controls w w') (hexists : w'.ClaimExists pv) : w.ClaimExists pv := by
  obtain ⟨pvc, hpvc, href⟩ := hexists
  exact ⟨pvc, h.mem_claims hpvc, href⟩

theorem volume_stays (h : Controls w w') (hpv : pv ∈ w.volumes.objects)
    (hexists : w.ClaimExists pv) : pv ∈ w'.volumes.objects := by
  obtain ⟨change, heq, hchange⟩ := h.volumes
  rw [heq]
  exact List.mem_filterMap.mpr ⟨pv, hpv, (hchange pv hpv).2 hexists⟩

end Controls

def Lasting (P : World → Prop) : Prop := ∀ w w', Controls w w' → P w → P w'

variable {P : World → Prop}

theorem Lasting.and {Q : World → Prop} (hP : Lasting P) (hQ : Lasting Q) :
    Lasting fun w => P w ∧ Q w := fun w w' h hw => ⟨hP w w' h hw.1, hQ w w' h hw.2⟩

theorem lasting_since : Lasting (Since w0) := by
  intro w w' hcontrols h
  refine ⟨fun pvc hpvc => h.claims pvc (hcontrols.mem_claims hpvc), fun pv hpv => ?_,
    fun old hold hexists => ?_⟩
  · obtain ⟨pv', hpv', hsame⟩ := hcontrols.mem_volumes hpv
    obtain ⟨old, hold, hkin⟩ := h.volumes pv' hpv'
    exact ⟨old, hold, hsame.kin.trans hkin⟩
  · obtain ⟨pv, hpv, hkin⟩ := h.stays old hold (hcontrols.claimExists hexists)
    refine ⟨pv, hcontrols.volume_stays hpv ?_, hkin⟩
    obtain ⟨pvc, hpvc, href⟩ := hcontrols.claimExists hexists
    exact ⟨pvc, hpvc, hkin.claimRef.trans href⟩

theorem Since.deleteClaim {key : String × String} (h : Since w0 w) :
    Since w0 (w.changeClaim key PVC.deleting fun _ => rfl) := by
  have hback : ∀ pvc ∈ (w.changeClaim key PVC.deleting fun _ => rfl).claims.objects,
      ∃ old ∈ w.claims.objects, SameClaim pvc old := by
    intro pvc hpvc
    obtain ⟨old, hold, rfl⟩ := Registry.mem_modify (f := PVC.deleting) (fun _ => rfl) hpvc
    refine ⟨old, hold, ?_⟩
    split
    · exact ⟨rfl, rfl, rfl, rfl, rfl, rfl, rfl, rfl⟩
    · exact .refl old
  refine ⟨fun pvc hpvc => ?_, h.volumes, fun old hold hexists => h.stays old hold ?_⟩
  · obtain ⟨pvc', hpvc', hsame⟩ := hback pvc hpvc
    obtain ⟨old, hold, hsame'⟩ := h.claims pvc' hpvc'
    exact ⟨old, hold, hsame.ns.trans hsame'.ns, hsame.name.trans hsame'.name,
      hsame.uid.trans hsame'.uid, hsame.resourceVersion.trans hsame'.resourceVersion,
      hsame.labels.trans hsame'.labels, hsame.annotations.trans hsame'.annotations,
      hsame.spec.trans hsame'.spec, hsame.phase.trans hsame'.phase⟩
  · obtain ⟨pvc, hpvc, href⟩ := hexists
    obtain ⟨pvc', hpvc', hsame⟩ := hback pvc hpvc
    exact ⟨pvc', hpvc', href.trans (congrArg some hsame.ref)⟩

/-! ## Guards -/

/-- The claim of the options and its volume, when the cleanup began: bound to each other, and the
volume in a role of the session. -/
structure Anchor (o : Options) (w0 : World) (role : String) (pvc : PVC) (pv : PV) : Prop where
  claim : pvc ∈ w0.claims.objects
  key : claimKey pvc = o.sourceKey
  bound : pvc.phase = .bound
  uid : pvc.uid ≠ none
  volume : pv ∈ w0.volumes.objects
  volumeName : pvc.spec.volumeName = pv.name
  named : pv.name ≠ ""
  claimRef : pv.claimRef = some pvc.ref
  inRole : InRole o.sessionID role pv

/-- No Pod of the session in the namespace reserves a claim. -/
def NoConsumers (id ns : String) (w : World) : Prop :=
  ∀ pod ∈ w.pods.objects, pod.ns = ns → (reservationPodSelector id).matches pod.labels = false

/-- The volume has the role of a destination or of a rollback volume of the session. -/
def Disposable (id : String) (pv : PV) : Prop := InRole id roleDestination pv ∨
    InRole id roleRollback pv

/-- An update restores the recorded policy of a volume that will be deleted. -/
def Restores (id : String) (w : World) (new : PV) : Prop :=
  ∀ pv ∈ w.volumes.objects, pv.name = new.name → new.labels = pv.labels ∧
    new.annotations = pv.annotations ∧ Disposable id pv ∧
    new.reclaimPolicy.text = pv.annotations.get originalPolicyAnnotation

/-- An update takes the metadata of the session off the volume of the claim. -/
def Finalizes (o : Options) (w0 w : World) (new : PV) : Prop :=
  (∃ pvc pv role, Anchor o w0 role pvc pv ∧ new.name = pv.name) ∧
  ∀ pv ∈ w.volumes.objects, pv.name = new.name → ∃ policy,
    reclaimPolicyOf (pv.annotations.get originalPolicyAnnotation) = some policy ∧
    new.labels = (releasedVolume policy pv).labels ∧
    new.annotations = (releasedVolume policy pv).annotations ∧ new.reclaimPolicy = policy

/-- The circumstances of a call, in a run that began with `w0`. -/
def Guard (o : Options) (w0 w : World) : Call → Prop
  | .deleteClaim key uid _ => key ≠ o.sourceKey ∧ NoConsumers o.sessionID key.1 w ∧
      ∃ pvc pv, Anchor o w0 roleSource pvc pv ∧ ∀ target ∈ w.claims.objects, claimKey target = key →
        target.uid = uid → OwnedDestination o.sessionID pvc.uid target
  | .deleteVolume name uid _ => (∃ pvc pv role, Anchor o w0 role pvc pv ∧ pv.name ≠ name) ∧
      ∀ target ∈ w.volumes.objects, target.name = name → target.uid = uid →
        Disposable o.sessionID target
  | .updateVolume new => Restores o.sessionID w new ∨ Finalizes o w0 w new
  | .updateClaim new => claimKey new = o.sourceKey ∧
      ∀ pvc ∈ w.claims.objects, claimKey pvc = o.sourceKey →
        new.labels = releasedLabels pvc.labels ∧
          new.annotations = releasedAnnotations pvc.annotations
  | _ => True

/-! ## The walk -/

/-- An observer of a run, with an invariant that guarded calls keep. -/
structure Walk (o : Options) (w0 : World) (γ : Type) where
  world : γ → World
  obs : γ → (op : Call) → op.Reply → γ → Prop
  inv : γ → Prop
  observed : ∀ {g op r g'}, obs g op r g' → Observed (world g) op r (world g')
  step : ∀ {g op r g'}, inv g → Guard o w0 (world g) op → obs g op r g' → inv g'

variable {o : Options} {γ : Type} (k : Walk o w0 γ) {g : γ} {op : Call} {α : Type}

abbrev Walk.Keeps (A : World → α → Prop) (g : γ) (p : Action α) : Prop :=
  p.Keeps k.obs k.inv (fun g a => A (k.world g) a) (fun _ _ => True) g

variable {k}

theorem walk_request (hinv : k.inv g) (hguard : Guard o w0 (k.world g) op) :
    k.Keeps (fun w' r => Observed (k.world g) op r w') g (request op) :=
  keeps_perform.mpr ⟨hinv, fun _ _ hobs => ⟨k.step hinv hguard hobs, k.observed hobs⟩⟩

theorem walk_ask (hinv : k.inv g) (hguard : Guard o w0 (k.world g) op) :
    k.Keeps (fun w' a => ∃ w1, Controls (k.world g) w1 ∧ (serve op w1).1 = .ok a ∧
      (serve op w1).2 = w') g (ask op error) := by
  refine (walk_request hinv hguard).bind fun g' r hinv' hobserved => ?_
  cases r with
  | error e => exact ⟨hinv', trivial⟩
  | ok a =>
    refine ⟨hinv', ?_⟩
    generalize hr : (Except.ok a : op.Reply) = r at hobserved
    generalize hw : k.world g' = w' at hobserved
    cases hobserved with
    | served hcontrols =>
      exact ⟨_, hcontrols, hr.symm, rfl⟩
    | failed _ | lost _ => cases hr

def Call.Reads (op : Call) : Prop := (∀ w, (serve op w).2 = w) ∧ ∀ o w0 w, Guard o w0 w op

def Call.isRead : Call → Bool
  | .deleteRecord | .updateClaim _ | .deleteClaim ..
  | .updateVolume _ | .deleteVolume .. | .deletePod .. => false
  | _ => true

theorem Call.reads (h : op.isRead = true) : op.Reads := by
  cases op <;> first | exact ⟨fun _ => rfl, fun _ _ _ => trivial⟩ | cases h

section

variable (hread : op.isRead = true)
include hread

theorem walk_read (hP : Lasting P) (hinv : k.inv g) (hw : P (k.world g)) :
    k.Keeps (fun w' a => P w' ∧ (serve op w').1 = .ok a) g (ask op error) := by
  refine (walk_ask hinv ((Call.reads hread).2 _ _ _)).post fun g' a h => ?_
  obtain ⟨w1, hcontrols, hreply, hworld⟩ := h
  rw [← hworld, (Call.reads hread).1]
  exact ⟨hP _ _ hcontrols hw, hreply⟩

theorem walk_carry (hP : Lasting P) (hinv : k.inv g)
    (hw : P (k.world g)) : k.Keeps (fun w' _ => P w') g (ask op error) :=
  (walk_read hread hP hinv hw).post fun _ _ h => h.1

theorem walk_pass (hinv : k.inv g) : k.Keeps (fun _ _ => True) g (ask op error) :=
  walk_carry hread (fun _ _ _ _ => trivial) hinv trivial

theorem walk_lookup (hP : Lasting P) (hinv : k.inv g) (hw : P (k.world g)) :
    k.Keeps (fun w' r => P w' ∧ ∀ a, r = .ok a → (serve op w').1 = .ok a) g (request op) := by
  refine (walk_request hinv ((Call.reads hread).2 _ _ _)).post fun g' r h => ?_
  generalize k.world g' = w' at h ⊢
  cases h with
  | served hcontrols =>
    rw [(Call.reads hread).1]
    exact ⟨hP _ _ hcontrols hw, fun _ h => h⟩
  | failed hcontrols => exact ⟨hP _ _ hcontrols hw, nofun⟩
  | lost hcontrols =>
    rw [(Call.reads hread).1]
    exact ⟨hP _ _ hcontrols hw, nofun⟩

end

theorem walk_reject {bad : Prop} [Decidable bad] {e : Error} {f : Unit → Action α}
    {A : γ → α → Prop} (hinv : k.inv g)
    (hf : ¬ bad → (f ()).Keeps k.obs k.inv A (fun _ _ => True) g) :
    (reject bad e >>= f).Keeps k.obs k.inv A (fun _ _ => True) g :=
  keeps_reject_bind hinv (fun _ => trivial) hf

theorem walk_check {bad : Prop} [Decidable bad] {e : Error} (P : World → Prop) (hinv : k.inv g)
    (hw : P (k.world g)) : k.Keeps (fun w' _ => P w') g (reject bad e) :=
  (keeps_reject hinv fun _ => trivial).post fun _ _ h => h.1 ▸ hw

theorem walk_fence (hP : Lasting P) (hinv : k.inv g) (hw : P (k.world g)) :
    k.Keeps (fun w' _ => P w') g checkpointFence := walk_carry rfl hP hinv hw

/-! ## The effects of the writes -/

section Effects

variable (w : World)

theorem effect_deleteClaim (key : String × String) (uid : UID) (version : Nat) :
    (serve (.deleteClaim key uid version) w).2 = w ∨
      (serve (.deleteClaim key uid version) w).2 = w.changeClaim key PVC.deleting fun _ => rfl := by
  simp only [serve]
  split
  · exact .inl rfl
  split
  · exact .inr rfl
  · exact .inl rfl

theorem effect_updateVolume (new : PV) : (serve (.updateVolume new) w).2 = w ∨
    (serve (.updateVolume new) w).2 =
      w.changeVolume new.name (updatedVolume w.nextVersion new) fun _ => rfl := by
  simp only [serve]
  split
  · exact .inl rfl
  split
  · exact .inr rfl
  · exact .inl rfl

theorem effect_deletePod (key : String × String) (uid : UID) (version : Nat) :
    (serve (.deletePod key uid version) w).2 = w ∨
      (serve (.deletePod key uid version) w).2 = w.changePod key Pod.deleting fun _ => rfl := by
  simp only [serve]
  split
  · exact .inl rfl
  split
  · exact .inr rfl
  · exact .inl rfl

end Effects

/-! ## What is known -/

def Gone (o : Options) (w : World) : Prop := ∀ pvc ∈ w.claims.objects, claimKey pvc ≠ o.sourceKey

/-- The claim of a name is the one that was read. -/
def SawClaim (pvc : PVC) (w : World) : Prop :=
  ∀ current ∈ w.claims.objects, claimKey current = claimKey pvc → current = pvc

/-- The volume of a name is the one that was read. -/
def SawVolume (pv : PV) (w : World) : Prop :=
  ∀ current ∈ w.volumes.objects, current.name = pv.name → Kin current pv

def RoleKnown (id role name : String) (w : World) : Prop :=
  ∀ pv ∈ w.volumes.objects, pv.name = name → InRole id role pv

/-- The Pods of the session in the namespace are among those listed. -/
def Pending (id ns : String) (pods : List Pod) (w : World) : Prop :=
  ∀ pod ∈ w.pods.objects, pod.ns = ns → (reservationPodSelector id).matches pod.labels = true →
    pod.key ∈ pods.map Pod.key

section Lasting

variable {id ns role name : String}

theorem lasting_true : Lasting fun _ => True := fun _ _ _ _ => trivial

theorem lasting_gone : Lasting (Gone o) :=
  fun _ _ hcontrols h pvc hpvc => h pvc (hcontrols.mem_claims hpvc)

theorem Lasting.imp {A : Prop} {P : World → Prop} (hP : Lasting P) : Lasting fun w => A → P w :=
  fun w w' hcontrols h hA => hP w w' hcontrols (h hA)

theorem lasting_noConsumers : Lasting (NoConsumers id ns) :=
  fun _ _ hcontrols h pod hpod => h pod (hcontrols.mem_pods hpod)

theorem lasting_pending {pods : List Pod} : Lasting (Pending id ns pods) :=
  fun _ _ hcontrols h pod hpod => h pod (hcontrols.mem_pods hpod)

theorem lasting_sawClaim {pvc : PVC} : Lasting (SawClaim pvc) :=
  fun _ _ hcontrols h current hcurrent => h current (hcontrols.mem_claims hcurrent)

variable {pv : PV}

theorem lasting_sawVolume : Lasting (SawVolume pv) := by
  intro w w' hcontrols h current hcurrent hname
  obtain ⟨old, hold, hsame⟩ := hcontrols.mem_volumes hcurrent
  exact hsame.kin.trans (h old hold (hsame.name.symm.trans hname))

theorem lasting_roleKnown : Lasting (RoleKnown id role name) := by
  intro w w' hcontrols h pv hpv hname
  obtain ⟨old, hold, hsame⟩ := hcontrols.mem_volumes hpv
  exact hsame.kin.inRole.mpr (h old hold (hsame.name.symm.trans hname))

theorem sawClaim_of_find {key : String × String} {pvc : PVC} (h : w.claims.find key = some pvc) :
    SawClaim pvc w :=
  fun _ hcurrent hkey => Registry.eq_of_key hcurrent (Registry.mem_of_find h) hkey

theorem sawVolume_of_find (h : w.volumes.find name = some pv) : SawVolume pv w := by
  intro current hcurrent hname
  rw [Registry.eq_of_key hcurrent (Registry.mem_of_find h) hname]
  exact .refl pv

theorem SawVolume.roleKnown (h : SawVolume pv w) (hname : pv.name = name)
    (hrole : InRole id role pv) : RoleKnown id role name w :=
  fun current hcurrent hcurrentName =>
    (h current hcurrent (hcurrentName.trans hname.symm)).inRole.mpr hrole

/-- An update with the labels of the volume leaves its role as it is. -/
theorem RoleKnown.update {new : PV} (h : RoleKnown id role name w) (hnew : InRole id role new) :
    RoleKnown id role name (serve (.updateVolume new) w).2 := by
  rcases effect_updateVolume w new with hsame | hchange
  · rw [hsame]
    exact h
  · rw [hchange]
    intro pv hpv hname
    obtain ⟨old, hold, rfl⟩ := Registry.mem_modify (f := updatedVolume w.nextVersion new)
      (fun _ => rfl) hpv
    by_cases hat : old.name = new.name
    · rw [if_pos hat]
      exact hnew
    · rw [if_neg hat] at hname ⊢
      exact h old hold hname

end Lasting

theorem Since.congr (h : Since w0 w) (hclaims : w'.claims = w.claims)
    (hvolumes : w'.volumes = w.volumes) : Since w0 w' := by
  refine ⟨?_, ?_, fun old hold hexists => ?_⟩
  · rw [hclaims]
    exact h.claims
  · rw [hvolumes]
    exact h.volumes
  · rw [hvolumes]
    refine h.stays old hold ?_
    unfold World.ClaimExists at hexists ⊢
    rwa [← hclaims]

variable {uid : UID}

theorem since_serve_deleteClaim {key : String × String} {version : Nat} (h : Since w0 w) :
    Since w0 (serve (.deleteClaim key uid version) w).2 := by
  rcases effect_deleteClaim w key uid version with hsame | hchange
  · rw [hsame]
    exact h
  · rw [hchange]
    exact h.deleteClaim

theorem serve_deletePod (w : World) (key : String × String) (uid : UID) (version : Nat) :
    (serve (.deletePod key uid version) w).2.claims = w.claims ∧
      (serve (.deletePod key uid version) w).2.volumes = w.volumes := by
  rcases effect_deletePod w key uid version with hsame | hchange
  · rw [hsame]
    exact ⟨rfl, rfl⟩
  · rw [hchange]
    exact ⟨rfl, rfl⟩

theorem Pending.deletePod {ns : String} {pods : List Pod} {key : String × String} {version : Nat}
    (h : Pending id ns pods w) : Pending id ns pods (serve (.deletePod key uid version) w).2 := by
  rcases effect_deletePod w key uid version with hsame | hchange
  · rw [hsame]
    exact h
  · rw [hchange]
    intro pod hpod
    obtain ⟨old, hold, rfl⟩ := Registry.mem_modify (f := Pod.deleting) (fun _ => rfl) hpod
    have hold := h old hold
    split <;> exact hold

namespace Anchor

variable {role : String} {pvc : PVC} {pv : PV}

/-- The claim under the name of the options is the claim of the anchor. -/
theorem sameClaim (h : Anchor o w0 role pvc pv) (hsince : Since w0 w) {current : PVC}
    (hcurrent : current ∈ w.claims.objects) (hkey : claimKey current = o.sourceKey) :
    SameClaim current pvc := by
  obtain ⟨old, hold, hsame⟩ := hsince.claims current hcurrent
  rw [Registry.eq_of_key h.claim hold (h.key.trans (hkey.symm.trans hsame.key))]
  exact hsame

theorem name_ne (h : Anchor o w0 role pvc pv) (hsince : Since w0 w) {current : PV}
    {id role' : String} (hcurrent : current ∈ w.volumes.objects) (hrole : InRole id role' current)
    (hne : role ≠ role') :
    pv.name ≠ current.name := by
  intro hname
  obtain ⟨old, hold, hkin⟩ := hsince.volumes current hcurrent
  have heq : pv = old := Registry.eq_of_key h.volume hold (hname.trans hkin.name)
  have hold := (hkin.inRole.mp hrole).2
  rw [← heq, h.inRole.2] at hold
  exact hne hold

end Anchor

/-! ## Deletions -/

theorem SameClaim.owned (h : SameClaim new old) :
    OwnedDestination id uid new ↔ OwnedDestination id uid old := by
  simp [OwnedDestination, annotationOwner, h.labels, h.annotations]

variable {pvc : PVC} {pv : PV}

/-- **The destination claim.**  A claim that is its own destination is gone. -/
theorem walk_deleteOrphanDestinationPVC {ref : Reference} (hanchor : Anchor o w0 roleSource pvc pv)
    (hinv : k.inv g) (hsince : Since w0 (k.world g))
    (hfree : NoConsumers o.sessionID ref.ns (k.world g))
    (hself : OwnedDestination o.sessionID pvc.uid pvc → Gone o (k.world g)) :
    k.Keeps (fun w' _ => Since w0 w') g (deleteOrphanDestinationPVC o.sessionID pvc.uid ref) := by
  have hlasting : Lasting fun w => Since w0 w ∧ NoConsumers o.sessionID ref.ns w ∧
      (OwnedDestination o.sessionID pvc.uid pvc → Gone o w) :=
    lasting_since.and (lasting_noConsumers.and lasting_gone.imp)
  refine (walk_read rfl hlasting hinv ⟨hsince, hfree, hself⟩).bind
    fun g' found hinv' hread => ?_
  obtain ⟨⟨hsince', hfree', hself'⟩, hserve⟩ := hread
  have hfind : (k.world g').claims.find ref.key = found := Except.ok.inj hserve
  cases found with
  | none => exact ⟨hinv', hsince'⟩
  | some target =>
    have hmem := Registry.mem_of_find hfind
    have hkey : claimKey target = ref.key := Registry.key_of_find hfind
    refine walk_reject hinv' fun hgood => ?_
    simp only [not_or, not_not] at hgood
    obtain ⟨-, -, howned⟩ := hgood
    have hne : ref.key ≠ o.sourceKey := by
      intro hsource
      have hkey' := hkey.trans hsource
      have hsame := hanchor.sameClaim hsince' hmem hkey'
      exact hself' (hsame.owned.mp howned) target hmem hkey'
    have hlasting' : Lasting fun w => Since w0 w ∧ NoConsumers o.sessionID ref.ns w ∧
        SawClaim target w := lasting_since.and (lasting_noConsumers.and lasting_sawClaim)
    refine (walk_fence hlasting' hinv' ⟨hsince', hfree', sawClaim_of_find hfind⟩).bind
      fun g2 _ hinv2 hknown => ?_
    obtain ⟨hsince2, hfree2, hsaw⟩ := hknown
    have hguard : Guard o w0 (k.world g2)
        (.deleteClaim ref.key target.uid target.resourceVersion) := by
      refine ⟨hne, hfree2, pvc, pv, hanchor, fun current hcurrent hcurrentKey _ => ?_⟩
      rw [hsaw current hcurrent (hcurrentKey.trans hkey.symm)]
      exact howned
    refine (walk_ask hinv2 hguard).bind fun g3 _ hinv3 hdeleted => ?_
    obtain ⟨w1, hcontrols, -, hworld3⟩ := hdeleted
    have hsince3 : Since w0 (k.world g3) := by
      rw [← hworld3]
      exact since_serve_deleteClaim (lasting_since _ _ hcontrols hsince2)
    exact walk_fence lasting_since hinv3 hsince3

theorem walk_deleteVolume {ref : Reference} (hrole : role = roleDestination ∨ role = roleRollback)
    (hother : ∃ pvc pv role, Anchor o w0 role pvc pv ∧ pv.name ≠ ref.name) (hinv : k.inv g)
    (hknown : RoleKnown o.sessionID role ref.name (k.world g)) :
    k.Keeps (fun _ _ => True) g (deleteVolume ref error pv) := by
  refine (walk_fence lasting_roleKnown hinv hknown).bind fun g1 _ hinv1 hknown1 => ?_
  have hguard : Guard o w0 (k.world g1) (.deleteVolume ref.name pv.uid pv.resourceVersion) := by
    refine ⟨hother, fun target htarget hname _ => ?_⟩
    have htargetRole := hknown1 target htarget hname
    rcases hrole with rfl | rfl
    · exact .inl htargetRole
    · exact .inr htargetRole
  refine (walk_ask hinv1 hguard).bind fun g2 _ hinv2 _ => ?_
  refine (walk_pass rfl hinv2).bind fun g3 _ hinv3 _ => ?_
  refine (walk_pass rfl hinv3).bind fun g4 _ hinv4 _ => ?_
  refine (walk_pass rfl hinv4).bind fun g5 found hinv5 _ => ?_
  cases found with
  | none => exact ⟨hinv5, trivial⟩
  | some current => exact walk_reject hinv5 fun _ => ⟨hinv5, trivial⟩

theorem SawVolume.restores {policy : ReclaimPolicy} (h : SawVolume pv w)
    (hrole : role = roleDestination ∨ role = roleRollback) (hinRole : InRole id role pv)
    (hpolicy : pv.annotations.get originalPolicyAnnotation = policy.text) :
    Restores id w { pv with reclaimPolicy := policy } := by
  intro current hcurrent hname
  have hkin := h current hcurrent hname
  refine ⟨hkin.labels.symm, hkin.annotations.symm, ?_, ?_⟩
  · rcases hrole with rfl | rfl
    · exact .inl (hkin.inRole.mpr hinRole)
    · exact .inr (hkin.inRole.mpr hinRole)
  · rw [hkin.annotations, hpolicy]

theorem walk_restoreReclaimedPVPolicyRounds {ref : Reference} {policy : ReclaimPolicy} (left : Nat)
    (hinv : k.inv g) :
    k.Keeps (fun w' found => found ≠ none → RoleKnown o.sessionID roleDestination ref.name w') g
      (restoreReclaimedPVPolicyRounds o.sessionID ref roleDestination none policy left) := by
  induction left generalizing g with
  | zero => exact ⟨hinv, trivial⟩
  | succ left ih =>
    refine (walk_pass rfl hinv).bind fun g1 _ hinv1 _ => ?_
    refine (walk_read rfl lasting_true hinv1 trivial).bind
      fun g2 found hinv2 hread => ?_
    have hfind : (k.world g2).volumes.find ref.name = found := Except.ok.inj hread.2
    cases found with
    | none => exact ⟨hinv2, fun h => absurd rfl h⟩
    | some current =>
      have hname : current.name = ref.name := Registry.key_of_find hfind
      refine walk_reject hinv2 fun hgood => ?_
      simp only [not_or, not_not] at hgood
      obtain ⟨hidentity, -, hpolicy⟩ := hgood
      have hrole : InRole o.sessionID roleDestination current := by
        rcases hidentity.2 with h | ⟨c, hc, -⟩
        · exact h
        · cases hc
      have hpolicy : current.annotations.get originalPolicyAnnotation = policy.text := by
        unfold ReclaimPVPolicy at hpolicy
        rw [if_neg (by simp)] at hpolicy
        exact hpolicy.1
      have hsaw := sawVolume_of_find hfind
      refine keeps_ite (fun _ => ⟨hinv2, fun _ => hsaw.roleKnown hname hrole⟩) fun _ => ?_
      refine (walk_fence lasting_sawVolume hinv2 hsaw).bind fun g4 _ hinv4 hsaw4 => ?_
      have hguard : Guard o w0 (k.world g4)
          (.updateVolume { current with reclaimPolicy := policy }) :=
        .inl (hsaw4.restores (.inl rfl) hrole hpolicy)
      refine (walk_request hinv4 hguard).bind fun g5 r hinv5 hobserved => ?_
      match r, hobserved with
      | .error .conflict, _ =>
        have hfence : Guard o w0 (k.world g5) .fence := trivial
        exact (walk_request hinv5 hfence).bind fun g6 _ hinv6 _ => ih hinv6
      | .error (.other _), _ => exact ⟨hinv5, trivial⟩
      | .ok updated, hobserved =>
        have hknown : RoleKnown o.sessionID roleDestination ref.name (k.world g5) := by
          generalize hreply : (Except.ok updated : (Call.updateVolume _).Reply) = r at hobserved
          generalize k.world g5 = w5 at hobserved
          cases hobserved with
          | served hcontrols =>
            refine RoleKnown.update ?_ hrole
            exact lasting_roleKnown _ _ hcontrols (hsaw4.roleKnown hname hrole)
          | failed _ | lost _ => cases hreply
        refine (walk_fence lasting_roleKnown hinv5 hknown).bind fun g6 _ hinv6 hknown6 => ?_
        exact ⟨hinv6, fun _ => hknown6⟩

variable {policy : String}

theorem walk_restoreAndDelete {ref : Reference}
    (hother : ∃ pvc pv role, Anchor o w0 role pvc pv ∧ pv.name ≠ ref.name) (hinv : k.inv g) :
    k.Keeps (fun _ _ => True) g
      (restoreAndDelete o.sessionID ref roleDestination policy none pv) := by
  refine walk_reject hinv fun _ => ?_
  have hrestore : k.Keeps (fun w' found => found ≠ none →
      RoleKnown o.sessionID roleDestination ref.name w') g
      (restoreReclaimedPVPolicy o.sessionID ref roleDestination none policy) := by
    unfold restoreReclaimedPVPolicy
    split
    · exact ⟨hinv, trivial⟩
    · exact walk_restoreReclaimedPVPolicyRounds 5 hinv
  refine hrestore.bind fun g2 found hinv2 hknown => ?_
  cases found with
  | none => exact ⟨hinv2, trivial⟩
  | some pv => exact walk_deleteVolume (.inl rfl) hother hinv2 (hknown (by simp))

theorem walk_validateDeletingPVClaim (hinv : k.inv g) :
    k.Keeps (fun _ _ => True) g (validateDeletingPVClaim pv) := by
  unfold validateDeletingPVClaim
  split
  · exact ⟨hinv, trivial⟩
  refine walk_reject hinv fun _ => ?_
  refine (walk_pass rfl hinv).bind fun g2 found hinv2 _ => ?_
  cases found with
  | none => exact ⟨hinv2, trivial⟩
  | some claim =>
    refine walk_reject hinv2 fun _ => ?_
    exact walk_check (fun _ => True) hinv2 trivial

theorem walk_waitForPVRelease {ref : Reference} {claim : Option ObjectReference} (hinv : k.inv g) :
    k.Keeps (fun _ _ => True) g (waitForPVRelease id ref role claim pv) := by
  refine (walk_validateDeletingPVClaim hinv).bind fun g1 _ hinv1 _ => ?_
  refine (walk_pass rfl hinv1).bind fun g2 _ hinv2 _ => ?_
  refine (walk_pass rfl hinv2).bind fun g3 found hinv3 _ => ?_
  cases found with
  | none => exact ⟨hinv3, trivial⟩
  | some current =>
    refine walk_reject hinv3 fun _ => ?_
    refine walk_reject hinv3 fun _ => ?_
    refine (walk_pass rfl hinv3).bind fun g6 found hinv6 _ => ?_
    cases found with
    | none => exact ⟨hinv6, trivial⟩
    | some current => exact walk_reject hinv6 fun _ => ⟨hinv6, trivial⟩

/-- **The destination volume.** -/
theorem walk_deleteReclaimedPV {ref : Reference} (hanchor : Anchor o w0 roleSource pvc pv)
    (hinv : k.inv g) (hsince : Since w0 (k.world g)) :
    k.Keeps (fun _ _ => True) g
      (deleteReclaimedPV o.sessionID ref roleDestination policy none) := by
  refine (walk_fence lasting_since hinv hsince).bind fun g1 _ hinv1 hsince1 => ?_
  refine (walk_read rfl lasting_since hinv1 hsince1).bind
    fun g2 found hinv2 hread => ?_
  have hfind : (k.world g2).volumes.find ref.name = found := Except.ok.inj hread.2
  cases found with
  | none => exact ⟨hinv2, trivial⟩
  | some target =>
    refine walk_reject hinv2 fun hgood => ?_
    have hidentity := not_not.mp hgood
    have hrole : InRole o.sessionID roleDestination target := by
      rcases hidentity.2 with h | ⟨c, hc, -⟩
      · exact h
      · cases hc
    have hne := hanchor.name_ne hread.1 (Registry.mem_of_find hfind) hrole (by decide)
    rw [Registry.key_of_find hfind] at hne
    have hother : ∃ pvc pv role, Anchor o w0 role pvc pv ∧ pv.name ≠ ref.name :=
      ⟨pvc, pv, roleSource, hanchor, hne⟩
    refine keeps_ite (fun _ => ?_) fun _ => walk_restoreAndDelete hother hinv2
    refine (walk_waitForPVRelease hinv2).bind fun g4 found hinv4 _ => ?_
    cases found with
    | none => exact ⟨hinv4, trivial⟩
    | some current => exact walk_restoreAndDelete hother hinv4

/-- **The rollback volume.** -/
theorem walk_deleteOrphanRollbackPV {ref : Reference} (hanchor : Anchor o w0 roleActive pvc pv)
    (hinv : k.inv g) (hsince : Since w0 (k.world g)) :
    k.Keeps (fun _ _ => True) g (deleteOrphanRollbackPV o.sessionID ref policy) := by
  refine (walk_read rfl lasting_since hinv hsince).bind
    fun g1 found hinv1 hread => ?_
  have hfind : (k.world g1).volumes.find ref.name = found := Except.ok.inj hread.2
  cases found with
  | none => exact ⟨hinv1, trivial⟩
  | some target =>
    have hname : target.name = ref.name := Registry.key_of_find hfind
    refine walk_reject hinv1 fun hgood => ?_
    simp only [not_or, not_not] at hgood
    obtain ⟨-, -, hrole, -⟩ := hgood
    have hne := hanchor.name_ne hread.1 (Registry.mem_of_find hfind) hrole (by decide)
    rw [hname] at hne
    have hsaw := sawVolume_of_find hfind
    split
    · exact ⟨hinv1, trivial⟩
    · rename_i restored hpolicy
      refine walk_reject hinv1 fun hgood => ?_
      simp only [not_or, not_not] at hgood
      have hrestore : k.Keeps (fun w' _ => RoleKnown o.sessionID roleRollback ref.name w') g1
          (restoreRollbackPolicy restored target) := by
        refine keeps_ite (fun _ => ⟨hinv1, hsaw.roleKnown hname hrole⟩) fun _ => ?_
        refine (walk_fence lasting_sawVolume hinv1 hsaw).bind fun g4 _ hinv4 hsaw4 => ?_
        have hguard : Guard o w0 (k.world g4)
            (.updateVolume { target with reclaimPolicy := restored }) :=
          .inl (hsaw4.restores (.inr rfl) hrole
            (hgood.1.trans (reclaimPolicyOf_eq_some hpolicy).symm))
        refine (walk_ask hinv4 hguard).post fun g5 _ hupdated => ?_
        obtain ⟨w1, hcontrols, -, hworld5⟩ := hupdated
        rw [← hworld5]
        refine RoleKnown.update ?_ hrole
        exact lasting_roleKnown _ _ hcontrols (hsaw4.roleKnown hname hrole)
      refine hrestore.bind fun g4 _ hinv4 hknown => ?_
      exact walk_deleteVolume (.inr rfl) ⟨pvc, pv, roleActive, hanchor, hne⟩ hinv4 hknown

/-! ## The claim and its volume -/

/-- **The source claim.** -/
theorem walk_finalizeOrphanPVC {ref : Reference} (hkey : ref.key = o.sourceKey) (hinv : k.inv g) :
    k.Keeps (fun _ _ => True) g (finalizeOrphanPVC o.sessionID ref) := by
  refine (walk_read rfl lasting_true hinv trivial).bind fun g1 found hinv1 hread => ?_
  have hfind : (k.world g1).claims.find ref.key = found := Except.ok.inj hread.2
  cases found with
  | none => exact ⟨hinv1, trivial⟩
  | some pvc =>
    have hpvc : claimKey pvc = o.sourceKey := (Registry.key_of_find hfind).trans hkey
    refine walk_reject hinv1 fun hgood => ?_
    have hsaw := sawClaim_of_find hfind
    refine keeps_ite (fun _ => ?_) fun _ => ?_
    · exact walk_check (fun _ => True) hinv1 trivial
    refine (walk_fence lasting_sawClaim hinv1 hsaw).bind fun g3 _ hinv3 hsaw3 => ?_
    have hguard : Guard o w0 (k.world g3) (.updateClaim (releasedClaim pvc)) := by
      refine ⟨hpvc, fun current hcurrent hcurrentKey => ?_⟩
      rw [hsaw3 current hcurrent (hcurrentKey.trans hpvc.symm)]
      exact ⟨rfl, rfl⟩
    exact (walk_ask hinv3 hguard).bind fun g4 _ hinv4 _ => walk_pass rfl hinv4

/-- **The volume of the claim.** -/
theorem walk_finalizeOrphanPV {ref : Reference} (hanchor : Anchor o w0 role pvc pv)
    (hname : ref.name = pv.name) (hinv : k.inv g) :
    k.Keeps (fun _ _ => True) g (finalizeOrphanPV o.sessionID ref role) := by
  refine (walk_read rfl lasting_true hinv trivial).bind fun g1 found hinv1 hread => ?_
  have hfind : (k.world g1).volumes.find ref.name = found := Except.ok.inj hread.2
  cases found with
  | none => exact ⟨hinv1, trivial⟩
  | some target =>
    refine walk_reject hinv1 fun hgood => ?_
    have hsaw := sawVolume_of_find hfind
    split
    · exact ⟨hinv1, trivial⟩
    · rename_i policy hpolicy
      refine (walk_fence lasting_sawVolume hinv1 hsaw).bind fun g3 _ hinv3 hsaw3 => ?_
      have hguard : Guard o w0 (k.world g3) (.updateVolume (releasedVolume policy target)) := by
        refine .inr ⟨⟨pvc, pv, role, hanchor, (Registry.key_of_find hfind).trans hname⟩, ?_⟩
        intro current hcurrent hcurrentName
        have hkin := hsaw3 current hcurrent hcurrentName
        refine ⟨policy, ?_, ?_, ?_, rfl⟩
        · rw [hkin.annotations]
          exact hpolicy
        · simp only [releasedVolume, hkin.labels]
        · simp only [releasedVolume, hkin.annotations]
      exact (walk_ask hinv3 hguard).bind fun g4 _ hinv4 _ => walk_pass rfl hinv4

/-! ## Consumer Pods -/

section Pods

variable {P : World → Prop} {ns : String}

theorem walk_deleteReservationConsumer {pod : Pod} {rest : List Pod} (hlasting : Lasting P)
    (hpods : ∀ w key uid version, P w → P (serve (.deletePod key uid version) w).2) (hinv : k.inv g)
    (hw : P (k.world g)) (hpending : Pending o.sessionID ns (pod :: rest) (k.world g)) :
    k.Keeps (fun w' _ => P w' ∧ Pending o.sessionID ns rest w') g
      (deleteReservationConsumer pod) := by
  have hboth : Lasting fun w => P w ∧ Pending o.sessionID ns (pod :: rest) w :=
    hlasting.and lasting_pending
  refine (walk_fence hboth hinv ⟨hw, hpending⟩).bind fun g1 _ hinv1 h1 => ?_
  have hguard : Guard o w0 (k.world g1) (.deletePod pod.key pod.uid pod.resourceVersion) := trivial
  refine (walk_ask hinv1 hguard).bind fun g2 _ hinv2 hdeleted => ?_
  obtain ⟨w1, hcontrols, -, hworld⟩ := hdeleted
  have h2 : P (k.world g2) ∧ Pending o.sessionID ns (pod :: rest) (k.world g2) := by
    rw [← hworld]
    obtain ⟨hP, hpend⟩ := hboth _ _ hcontrols h1
    exact ⟨hpods _ _ _ _ hP, hpend.deletePod⟩
  refine (walk_fence hboth hinv2 h2).bind fun g3 _ hinv3 h3 => ?_
  refine (walk_carry rfl hboth hinv3 h3).bind fun g4 _ hinv4 h4 => ?_
  refine (walk_read rfl hboth hinv4 h4).bind fun g5 found hinv5 hread => ?_
  have hfind : (k.world g5).pods.find pod.key = found := Except.ok.inj hread.2
  cases found with
  | some current => exact walk_reject hinv5 fun _ => ⟨hinv5, trivial⟩
  | none =>
    refine ⟨hinv5, hread.1.1, fun other hother hns hmatches => ?_⟩
    have hmem := hread.1.2 other hother hns hmatches
    rw [List.map_cons, List.mem_cons] at hmem
    exact hmem.resolve_left (Registry.find_eq_none.mp hfind other hother)

theorem walk_deleteReservationConsumers {pods : List Pod} (hlasting : Lasting P)
    (hpods : ∀ w key uid version, P w → P (serve (.deletePod key uid version) w).2) (hinv : k.inv g)
    (hw : P (k.world g)) (hpending : Pending o.sessionID ns pods (k.world g)) :
    k.Keeps (fun w' _ => P w' ∧ Pending o.sessionID ns [] w') g
      (deleteReservationConsumers pods) := by
  induction pods generalizing g with
  | nil => exact ⟨hinv, hw, hpending⟩
  | cons pod rest ih =>
    exact (walk_deleteReservationConsumer hlasting hpods hinv hw hpending).bind
      fun g1 _ hinv1 h1 => ih hinv1 h1.1 h1.2

theorem walk_inventoryReservationPods (hlasting : Lasting P) (hinv : k.inv g) (hw : P (k.world g)) :
    k.Keeps (fun w' pods => P w' ∧ Pending o.sessionID ns pods w') g
      (inventoryReservationPods o.sessionID ns) := by
  refine walk_reject hinv fun _ => ?_
  refine (walk_read rfl hlasting hinv hw).bind fun g2 pods hinv2 hread => ?_
  have hlist := Except.ok.inj hread.2
  refine walk_reject hinv2 fun _ => ⟨hinv2, hread.1, fun pod hpod hns hmatches => ?_⟩
  refine List.mem_map_of_mem ?_
  rw [← hlist]
  exact Registry.mem_select.mpr ⟨hpod, by simp [hns, hmatches]⟩

theorem Pending.noConsumers {id : String} (h : Pending id ns [] w) : NoConsumers id ns w := by
  intro pod hpod hns
  cases hmatches : (reservationPodSelector id).matches pod.labels with
  | false => rfl
  | true => exact absurd (h pod hpod hns hmatches) (by simp)

theorem walk_ensurePVCUnused {ref : Reference} {id : String} (hlasting : Lasting P) (hinv : k.inv g)
    (hw : P (k.world g)) : k.Keeps (fun w' _ => P w') g (ensurePVCUnused ref id) := by
  refine (walk_carry rfl hlasting hinv hw).bind fun g1 found hinv1 hw1 => ?_
  cases found with
  | none => exact ⟨hinv1, hw1⟩
  | some pvc =>
    refine walk_reject hinv1 fun _ => walk_reject hinv1 fun _ => ?_
    refine (walk_carry rfl hlasting hinv1 hw1).bind fun g2 _ hinv2 hw2 => ?_
    refine walk_reject hinv2 fun _ => keeps_ite (fun _ => ⟨hinv2, hw2⟩) fun _ => ?_
    exact (walk_carry rfl hlasting hinv2 hw2).bind fun g3 _ hinv3 hw3 => walk_check P hinv3 hw3

end Pods

/-! ## The plan -/

/-- The resources before the activation, and what they refer to.  A claim that is its own
destination is gone. -/
structure PreReady (o : Options) (w0 w : World) (resources : PreActivation) (pvc : PVC) (pv : PV) :
    Prop where
  anchor : Anchor o w0 roleSource pvc pv
  sourceKey : resources.sourcePVC.key = o.sourceKey
  sourceUID : resources.sourcePVC.uid = pvc.uid
  sourcePV : resources.sourcePV.name = pv.name
  self : OwnedDestination o.sessionID pvc.uid pvc → Gone o w

/-- The resources after the activation, and what they refer to. -/
structure PostReady (o : Options) (w0 : World) (resources : PostActivation) (pvc : PVC) (pv : PV) :
    Prop where
  anchor : Anchor o w0 roleActive pvc pv
  sourceKey : resources.sourcePVC.key = o.sourceKey
  activePV : resources.activePV.name = pv.name

/-- What a plan that is ready says about the cluster. -/
def Sound (o : Options) (w0 w : World) (plan : Plan) : Prop :=
  plan.ready = true → Since w0 w ∧
    (plan.mode = some .preActivation → ∀ resources, plan.preActivation = some resources →
      ∃ pvc pv, PreReady o w0 w resources pvc pv) ∧
    (plan.mode = some .postActivation → ∀ resources, plan.postActivation = some resources →
      ∃ pvc pv, PostReady o w0 resources pvc pv)

section Checks

variable {plan : Plan} {check : Check} {checks : List Check}

theorem ready_addCheck : (plan.addCheck check).ready = true ↔ plan.ready = true ∧
    check.blocks = false := by
  simp [Plan.addCheck]

@[simp] theorem mode_addChecks : (plan.addChecks checks).mode = plan.mode := by
  unfold Plan.addChecks
  induction checks generalizing plan with
  | nil => rfl
  | cons check checks ih => exact ih

@[simp] theorem preActivation_addChecks :
    (plan.addChecks checks).preActivation = plan.preActivation := by
  unfold Plan.addChecks
  induction checks generalizing plan with
  | nil => rfl
  | cons check checks ih => exact ih

@[simp] theorem postActivation_addChecks :
    (plan.addChecks checks).postActivation = plan.postActivation := by
  unfold Plan.addChecks
  induction checks generalizing plan with
  | nil => rfl
  | cons check checks ih => exact ih

theorem ready_addChecks : (plan.addChecks checks).ready = true ↔
    plan.ready = true ∧ ∀ check ∈ checks, check.blocks = false := by
  unfold Plan.addChecks
  induction checks generalizing plan with
  | nil => simp
  | cons check checks ih =>
    rw [List.foldl_cons, ih, ready_addCheck, List.forall_mem_cons, and_assoc]

@[simp] theorem forall_failIf {bad : Prop} [Decidable bad] {name : CheckName} {message : String} :
    (∀ check ∈ failIf bad name message, check.blocks = false) ↔ ¬ bad := by
  by_cases h : bad <;> simp [failIf, h, orphanFailed, Check.blocks]

theorem not_ready_failed {name : CheckName} {message : String} :
    ¬ (plan.addCheck (orphanFailed name message)).ready = true := by
  intro hready
  cases (ready_addCheck.mp hready).2

theorem sound_failed {name : CheckName} {message : String} :
    Sound o w0 w (plan.addCheck (orphanFailed name message)) :=
  fun hready => absurd hready not_ready_failed

theorem Sound.addChecks (h : Sound o w0 w plan) : Sound o w0 w (plan.addChecks checks) := by
  intro hready
  obtain ⟨hsince, hpre, hpost⟩ := h (ready_addChecks.mp hready).1
  refine ⟨hsince, fun hmode resources hresources => ?_, fun hmode resources hresources => ?_⟩
  · rw [mode_addChecks] at hmode
    rw [preActivation_addChecks] at hresources
    exact hpre hmode resources hresources
  · rw [mode_addChecks] at hmode
    rw [postActivation_addChecks] at hresources
    exact hpost hmode resources hresources

theorem lasting_sound : Lasting fun w => Sound o w0 w plan := by
  intro w w' hcontrols h hready
  obtain ⟨hsince, hpre, hpost⟩ := h hready
  refine ⟨lasting_since _ _ hcontrols hsince, fun hmode resources hresources => ?_, hpost⟩
  obtain ⟨pvc, pv, hpreReady⟩ := hpre hmode resources hresources
  exact ⟨pvc, pv, hpreReady.anchor, hpreReady.sourceKey, hpreReady.sourceUID, hpreReady.sourcePV,
    fun hself => lasting_gone _ _ hcontrols (hpreReady.self hself)⟩

end Checks

section Planning

variable {plan : Plan} {pvc pvc' : PVC} {pv pv' : PV}

/-- What is known while the destination of the claim is looked up. -/
structure Known (o : Options) (w0 w : World) (plan : Plan) (pvc : PVC) (claim : Reference) :
    Prop where
  since : Since w0 w
  self : plan.ready = true → OwnedDestination o.sessionID pvc.uid pvc →
    Gone o w ∨ claim.key = o.sourceKey

variable {claim : Reference}

theorem lasting_known : Lasting fun w => Known o w0 w plan pvc claim := by
  intro w w' hcontrols h
  exact ⟨lasting_since _ _ hcontrols h.since,
    fun hready hself => (h.self hready hself).imp_left (lasting_gone _ _ hcontrols)⟩

theorem gone_of_find {key : String × String} (hkey : key = o.sourceKey)
    (h : w.claims.find key = none) : Gone o w := by
  subst hkey
  exact Registry.find_eq_none.mp h

variable {role : String}

theorem Anchor.gone (h : Anchor o w0 role pvc pv) (hsince : Since w0 w)
    (hfind : w.volumes.find pv.name = none) : Gone o w := by
  intro current hcurrent hkey
  have hsame := h.sameClaim hsince hcurrent hkey
  obtain ⟨pv', hpv', hkin⟩ := hsince.stays pv h.volume
    ⟨current, hcurrent, h.claimRef.trans (congrArg some hsame.ref.symm)⟩
  exact Registry.find_eq_none.mp hfind pv' hpv' hkin.name

theorem Anchor.kin (h : Anchor o w0 role pvc pv) (hsince : Since w0 w)
    (hmem : pv' ∈ w.volumes.objects) (hname : pv'.name = pv.name) : Kin pv' pv := by
  obtain ⟨old, hold, hkin⟩ := hsince.volumes pv' hmem
  rw [Registry.eq_of_key h.volume hold (hname.symm.trans hkin.name)]
  exact hkin

/-- What the lookup of the destination volume says about a claim that is its own destination: it is
gone, or what was found is the source volume. -/
def Resolved (o : Options) (w0 w : World) (pvc : PVC) (pv : Option PV) : Prop :=
  Since w0 w ∧ (OwnedDestination o.sessionID pvc.uid pvc →
    Gone o w ∨ ∃ found, pv = some found ∧ InRole o.sessionID roleSource found)

theorem walk_destinationPVForPVC (hanchor : plan.ready = true → Anchor o w0 roleSource pvc pv)
    (hinv : k.inv g) (hknown : Known o w0 (k.world g) plan pvc claim) :
    k.Keeps (fun w' found => found.1.mode = plan.mode ∧
      (found.1.ready = true → plan.ready = true ∧ Resolved o w0 w' pvc found.2)) g
      (destinationPVForPVC plan claim) := by
  refine (walk_lookup rfl lasting_known hinv hknown).bind
    fun g1 r hinv1 hread => ?_
  obtain ⟨hknown1, hread⟩ := hread
  cases r with
  | error _ => exact ⟨hinv1, rfl, fun hready => absurd hready not_ready_failed⟩
  | ok found =>
    have hfind : (k.world g1).claims.find claim.key = found := Except.ok.inj (hread found rfl)
    cases found with
    | none =>
      refine ⟨hinv1, rfl, fun hready => ⟨hready, hknown1.since, fun hself => .inl ?_⟩⟩
      exact (hknown1.self hready hself).elim (fun h => h) fun hkey => gone_of_find hkey hfind
    | some current =>
      -- under the name of the options this is the claim of the anchor
      have hsame : plan.ready = true → claim.key = o.sourceKey →
          current.spec.volumeName = pv.name := by
        intro hready hkey
        have hsame := (hanchor hready).sameClaim hknown1.since (Registry.mem_of_find hfind)
          ((Registry.key_of_find hfind).trans hkey)
        rw [hsame.spec, (hanchor hready).volumeName]
      refine keeps_ite (fun hempty => ?_) fun _ => ?_
      · refine ⟨hinv1, rfl, fun hready => ⟨hready, hknown1.since, fun hself => .inl ?_⟩⟩
        refine (hknown1.self hready hself).elim (fun h => h) fun hkey => ?_
        exact absurd ((hsame hready hkey).symm.trans hempty) (hanchor hready).named
      refine (walk_lookup rfl lasting_known hinv1 hknown1).bind
        fun g2 r hinv2 hread2 => ?_
      obtain ⟨hknown2, hread2⟩ := hread2
      cases r with
      | error _ => exact ⟨hinv2, rfl, fun hready => absurd hready not_ready_failed⟩
      | ok found =>
        have hfind2 : (k.world g2).volumes.find current.spec.volumeName = found :=
          Except.ok.inj (hread2 found rfl)
        cases found with
        | none =>
          refine ⟨hinv2, rfl, fun hready => ?_⟩
          have hready := (ready_addCheck.mp hready).1
          refine ⟨hready, hknown2.since, fun hself => .inl ?_⟩
          refine (hknown2.self hready hself).elim (fun h => h) fun hkey => ?_
          rw [hsame hready hkey] at hfind2
          exact (hanchor hready).gone hknown2.since hfind2
        | some found =>
          refine ⟨hinv2, rfl, fun hready => ⟨hready, hknown2.since, fun hself => ?_⟩⟩
          refine (hknown2.self hready hself).imp_right fun hkey => ⟨found, rfl, ?_⟩
          rw [hsame hready hkey] at hfind2
          have hkin := (hanchor hready).kin hknown2.since (Registry.mem_of_find hfind2)
            (Registry.key_of_find hfind2)
          exact hkin.inRole.mpr (hanchor hready).inRole

theorem walk_resolvePreActivationDestinationPV {sourcePVs destinationPVs : List PV}
    {destinationPVCs : List PVC} (hanchor : plan.ready = true → Anchor o w0 roleSource pvc pv)
    (hnamed : o.sourcePVC ≠ "") (hinv : k.inv g) (hknown : Known o w0 (k.world g) plan pvc claim) :
    k.Keeps (fun w' found => found.1.mode = plan.mode ∧
      (found.1.ready = true → plan.ready = true ∧ Resolved o w0 w' pvc found.2.2)) g
      (resolvePreActivationDestinationPV plan pvc' claim sourcePVs destinationPVs
        destinationPVCs) := by
  refine keeps_ite (fun _ => ?_) fun hname => ?_
  · refine (walk_destinationPVForPVC hanchor hinv hknown).bind fun g1 found hinv1 h => ?_
    exact ⟨hinv1, h⟩
  -- without a name the claim is not the one of the options
  have hresolved : ∀ found : Option PV, plan.ready = true →
      Resolved o w0 (k.world g) pvc found := by
    refine fun found hready => ⟨hknown.since, fun hself => .inl ?_⟩
    refine (hknown.self hready hself).elim (fun h => h) fun hkey => absurd ?_ hnamed
    have hsecond : claim.name = o.sourcePVC := congrArg Prod.snd hkey
    exact hsecond ▸ not_not.mp hname
  dsimp only
  split
  · exact ⟨hinv, rfl, fun hready => ⟨hready, hresolved _ hready⟩⟩
  · refine keeps_ite (fun _ => ?_) fun _ => ?_
    · refine ⟨hinv, rfl, fun hready => ?_⟩
      have hready := (ready_addCheck.mp hready).1
      exact ⟨hready, hresolved _ hready⟩
    · exact ⟨hinv, rfl, fun hready => absurd hready not_ready_failed⟩
  · exact ⟨hinv, rfl, fun hready => absurd hready not_ready_failed⟩

/-- The destination volume that passes its checks is no source volume. -/
theorem not_source_of_destinationPVChecks {id : String}
    (h : ∀ check ∈ destinationPVChecks id claim pv, check.blocks = false) :
    ¬ InRole id roleSource pv := by
  simp only [destinationPVChecks, List.forall_mem_append, forall_failIf] at h
  intro hrole
  have hdestination : pv.labels.get resourceRoleLabel = roleDestination := by
    by_contra hne
    exact h.1.1 (.inr (.inr hne))
  rw [hrole.2] at hdestination
  exact absurd hdestination (by decide)

theorem walk_planDestination {sourcePVs destinationPVs : List PV} {destinationPVCs : List PVC}
    (hanchor : plan.ready = true → Anchor o w0 roleSource pvc pv) (hsame : SameClaim pvc' pvc)
    (hkin : Kin pv' pv) (hkey : claimKey pvc' = o.sourceKey)
    (hmode : plan.mode = some .preActivation) (hnamed : o.sourcePVC ≠ "") (hinv : k.inv g)
    (hknown : Known o w0 (k.world g) plan pvc
      (((matchingClaims pvc' destinationPVCs).head?.map pvcReference).getD {})) :
    k.Keeps (fun w' plan' => Sound o w0 w' plan') g
      (planDestination o plan pvc' pv' sourcePVs destinationPVCs destinationPVs) := by
  refine (walk_resolvePreActivationDestinationPV hanchor hnamed hinv hknown).bind
    fun g1 found hinv1 hfound => ?_
  obtain ⟨hmode1, hfound⟩ := hfound
  have hsound : Sound o w0 (k.world g1) ((found.1.withPreActivation
      (destinationResources pvc' pv' found.2.1 found.2.2)).addChecks
        ((found.2.2.map (destinationPVChecks o.sessionID found.2.1)).getD [])) := by
    intro hready
    obtain ⟨hready, hchecks⟩ := ready_addChecks.mp hready
    obtain ⟨hplan, hsince, hself⟩ := hfound hready
    refine ⟨hsince, fun _ resources hresources => ?_, fun hpost => ?_⟩
    · rw [preActivation_addChecks] at hresources
      obtain rfl := Option.some.inj hresources
      refine ⟨pvc, pv, hanchor hplan, hkey, hsame.uid, hkin.name, fun howned => ?_⟩
      refine (hself howned).elim (fun h => h) fun ⟨target, htarget, hrole⟩ => ?_
      rw [htarget] at hchecks
      exact absurd hrole (not_source_of_destinationPVChecks hchecks)
    · rw [mode_addChecks] at hpost
      have hpre : found.1.mode = some .preActivation := hmode1.trans hmode
      exact absurd (hpre.symm.trans hpost) (by decide)
  refine Keeps.bind (A := fun g plan' => Sound o w0 (k.world g) plan') ?_
    fun g2 plan' hinv2 h => ⟨hinv2, h.addChecks.addChecks⟩
  refine keeps_ite (fun _ => ⟨hinv1, hsound⟩) fun _ => ?_
  exact (walk_ensurePVCUnused lasting_sound hinv1 hsound).handle (fun g2 _ hinv2 h => ⟨hinv2, h⟩)
    fun g2 _ hinv2 _ => ⟨hinv2, sound_failed⟩

theorem OwnedDestination.matches {id : String} {uid : UID} (h : OwnedDestination id uid pvc)
    (hid : id ≠ "") : (preActivationDestinationSelector id).matches pvc.labels = true := by
  have hmanaged := StringMap.eq_some_of_get h.1 (by decide)
  have hsession := StringMap.eq_some_of_get h.2.1 hid
  have hrole := StringMap.eq_some_of_get h.2.2.1 (by decide)
  simp [preActivationDestinationSelector, roleSelector, Selector.matches, hmanaged, hsession, hrole]

/-- A claim that is its own destination is the one that matches, or it is gone. -/
theorem self_matching (hsince : Since w0 w) (hanchor : plan.ready = true →
    Anchor o w0 roleSource pvc pv) (hsame : SameClaim pvc' pvc) (hid : o.sessionID ≠ "")
    (hlength : ¬ 1 < (matchingClaims pvc' (w.claims.select fun pvc =>
      (preActivationDestinationSelector o.sessionID).matches pvc.labels)).length) :
    Known o w0 w plan pvc (((matchingClaims pvc' (w.claims.select fun pvc =>
      (preActivationDestinationSelector o.sessionID).matches pvc.labels)).head?.map
        pvcReference).getD {}) := by
  refine ⟨hsince, fun hready howned => ?_⟩
  cases hfind : w.claims.find o.sourceKey with
  | none => exact .inl (gone_of_find rfl hfind)
  | some current =>
    refine .inr ?_
    have hmem := Registry.mem_of_find hfind
    have hkey : claimKey current = o.sourceKey := Registry.key_of_find hfind
    have hcurrent := ((hanchor hready).sameClaim hsince hmem hkey).owned.mpr howned
    have hmatching : current ∈ matchingClaims pvc' (w.claims.select fun pvc =>
        (preActivationDestinationSelector o.sessionID).matches pvc.labels) := by
      refine List.mem_filter.mpr ⟨Registry.mem_select.mpr ⟨hmem, hcurrent.matches hid⟩, ?_⟩
      rw [hsame.uid]
      exact decide_eq_true hcurrent.2.2.2.2
    generalize matchingClaims pvc' _ = matching at hlength hmatching
    match matching with
    | [x] =>
      rw [List.mem_singleton] at hmatching
      subst hmatching
      exact hkey
    | x :: y :: rest => exact absurd (by simp) hlength

theorem walk_planPreActivationOrphan (hanchor : plan.ready = true → Anchor o w0 roleSource pvc pv)
    (hsame : SameClaim pvc' pvc) (hkin : Kin pv' pv) (hkey : claimKey pvc' = o.sourceKey)
    (hid : o.sessionID ≠ "") (hnamed : o.sourcePVC ≠ "") (hinv : k.inv g)
    (hsince : Since w0 (k.world g)) :
    k.Keeps (fun w' plan' => Sound o w0 w' plan') g (planPreActivationOrphan o plan pvc' pv') := by
  refine keeps_ite (fun _ => ⟨hinv, sound_failed⟩) fun _ => ?_
  refine (walk_lookup rfl lasting_since hinv hsince).bind fun g1 r hinv1 hread => ?_
  cases r with
  | error _ => exact ⟨hinv1, sound_failed⟩
  | ok sourcePVs =>
    refine (walk_lookup rfl lasting_since hinv1 hread.1).bind
      fun g2 r hinv2 hread2 => ?_
    obtain ⟨hsince2, hread2⟩ := hread2
    cases r with
    | error _ => exact ⟨hinv2, sound_failed⟩
    | ok destinationPVCs =>
      have hlist : ((k.world g2).claims.select fun pvc =>
          (preActivationDestinationSelector o.sessionID).matches pvc.labels) = destinationPVCs :=
        Except.ok.inj (hread2 _ rfl)
      refine keeps_ite (fun _ => ⟨hinv2, sound_failed⟩) fun hlength => ?_
      -- the checks of the destination claim do not make the plan ready
      have hanchor2 : ((((plan.inMode .preActivation).withPreActivation
          ⟨pvcReference pvc', pvReference pv', {}, {}, ""⟩).addChecks
          (((matchingClaims pvc' destinationPVCs).head?.map
            (destinationPVCChecks o.sessionID)).getD []))).ready = true →
          Anchor o w0 roleSource pvc pv := fun hready => hanchor (ready_addChecks.mp hready).1
      have hknown := self_matching hsince2 hanchor2 hsame hid (by rw [hlist]; exact hlength)
      rw [hlist] at hknown
      refine (walk_lookup rfl lasting_known hinv2 hknown).bind
        fun g3 r hinv3 hread3 => ?_
      cases r with
      | error _ => exact ⟨hinv3, sound_failed⟩
      | ok destinationPVs =>
        refine walk_planDestination hanchor2 hsame hkin hkey ?_ hnamed hinv3 hread3.1
        rw [mode_addChecks]
        rfl

theorem walk_planPostActivationOrphan (hanchor : plan.ready = true → Anchor o w0 roleActive pvc pv)
    (hkin : Kin pv' pv) (hkey : claimKey pvc' = o.sourceKey) (hinv : k.inv g)
    (hsince : Since w0 (k.world g)) :
    k.Keeps (fun w' plan' => Sound o w0 w' plan') g (planPostActivationOrphan o plan pvc' pv') := by
  refine keeps_ite (fun _ => ⟨hinv, sound_failed⟩) fun _ => ?_
  refine (walk_lookup rfl lasting_since hinv hsince).bind fun g1 r hinv1 hread => ?_
  have hsound : ∀ (checks : List Check) (resources : PostActivation),
      resources.sourcePVC = pvcReference pvc' → resources.activePV = pvReference pv' →
      Sound o w0 (k.world g1) ((((plan.inMode .postActivation).withPostActivation
        ⟨pvcReference pvc', pvReference pv', {}, ""⟩).addChecks checks).withPostActivation
          resources) := by
    intro checks resources hclaim hvolume hready
    have hanchor := hanchor (ready_addChecks.mp hready).1
    refine ⟨hread.1, fun hpre => ?_, fun _ resources' hresources => ?_⟩
    · have hpost : (((plan.inMode .postActivation).withPostActivation
          ⟨pvcReference pvc', pvReference pv', {}, ""⟩).addChecks checks).mode =
            some .postActivation :=
        mode_addChecks
      exact absurd (hpost.symm.trans hpre) (by decide)
    · obtain rfl := Option.some.inj hresources
      exact ⟨pvc, pv, hanchor, hclaim ▸ hkey, hvolume ▸ hkin.name⟩
  match r with
  | .error _ => exact ⟨hinv1, sound_failed⟩
  | .ok none | .ok (some rollback) =>
    exact ⟨hinv1, (hsound _ _ rfl rfl).addChecks.addChecks⟩

theorem sound_of_mode (hsince : Since w0 w) (hpre : plan.mode ≠ some .preActivation)
    (hpost : plan.mode ≠ some .postActivation) : Sound o w0 w plan :=
  fun _ => ⟨hsince, fun h => absurd h hpre, fun h => absurd h hpost⟩

theorem walk_planDeletedSourceOrphan (hinv : k.inv g) (hsince : Since w0 (k.world g)) :
    k.Keeps (fun w' plan' => Sound o w0 w' plan') g (planDeletedSourceOrphan o plan) := by
  refine (walk_lookup rfl lasting_since hinv hsince).bind fun g1 r hinv1 hread => ?_
  cases r with
  | error _ => exact ⟨hinv1, sound_failed⟩
  | ok pvs =>
    refine (walk_lookup rfl lasting_since hinv1 hread.1).bind
      fun g2 r hinv2 hread2 => ?_
    cases r with
    | error _ => exact ⟨hinv2, sound_failed⟩
    | ok pvcs =>
      refine keeps_ite (fun _ => ⟨hinv2, ?_⟩) fun _ => ⟨hinv2, sound_failed⟩
      exact sound_of_mode hread2.1 (by simp [Plan.inMode]) (by simp [Plan.inMode])

theorem anchor_of_currentChecks (hmem : pvc ∈ w0.claims.objects) (hsame : SameClaim pvc' pvc)
    (hkey : claimKey pvc' = o.sourceKey) (hbound : pvc'.phase = .bound)
    (hnamed : pvc'.spec.volumeName ≠ "") (hpv : pv ∈ w0.volumes.objects) (hkin : Kin pv' pv)
    (hname : pv'.name = pvc'.spec.volumeName) (hsession : pv'.labels.get sessionKey = o.sessionID)
    (hrole : pv'.labels.get resourceRoleLabel = role)
    (hchecks : ∀ check ∈ currentChecks o.sessionID pvc' pv', check.blocks = false) :
    Anchor o w0 role pvc pv := by
  simp only [currentChecks, List.forall_mem_append, forall_failIf, not_or, not_not] at hchecks
  have hclaim := hchecks.1.1.1
  have hvolumeName : pvc.spec.volumeName = pv.name := by
    rw [← hsame.spec, ← hname, hkin.name]
  refine ⟨hmem, hsame.key.symm.trans hkey, hsame.phase.symm.trans hbound, ?_, hpv,
    hvolumeName, ?_, ?_, ?_⟩
  · rw [← hsame.uid]
    exact hclaim.1
  · rw [← hvolumeName, ← hsame.spec]
    exact hnamed
  · rw [← hkin.claimRef, hclaim.2, hsame.ref]
  · exact hkin.inRole.mp ⟨hsession, hrole⟩

theorem walk_planSource (hmem : pvc ∈ w0.claims.objects)
    (hsame : SameClaim pvc' pvc) (hkey : claimKey pvc' = o.sourceKey) (hid : o.sessionID ≠ "")
    (hnamed : o.sourcePVC ≠ "") (hinv : k.inv g) (hsince : Since w0 (k.world g)) :
    k.Keeps (fun w' plan' => Sound o w0 w' plan') g (planSource o plan pvc') := by
  refine keeps_ite (fun _ => ⟨hinv, sound_failed⟩) fun hbound => ?_
  simp only [not_or, not_not] at hbound
  refine (walk_lookup rfl lasting_since hinv hsince).bind fun g1 r hinv1 hread => ?_
  obtain ⟨hsince1, hread⟩ := hread
  match r with
  | .error _ | .ok none => exact ⟨hinv1, sound_failed⟩
  | .ok (some current) =>
    have hfind : (k.world g1).volumes.find pvc'.spec.volumeName = some current :=
      Except.ok.inj (hread _ rfl)
    obtain ⟨pv, hpv, hkin⟩ := hsince1.volumes current (Registry.mem_of_find hfind)
    have hname : current.name = pvc'.spec.volumeName := Registry.key_of_find hfind
    refine keeps_ite (fun _ => ⟨hinv1, sound_failed⟩) fun hsession => ?_
    have hanchor : ∀ role, current.labels.get resourceRoleLabel = role →
        ((plan.addChecks (ownershipChecks o.sessionID pvc')).addChecks
          (currentChecks o.sessionID pvc' current)).ready = true → Anchor o w0 role pvc pv := by
      intro role hrole hready
      exact anchor_of_currentChecks hmem hsame hkey hbound.1 hbound.2 hpv hkin hname
        (not_not.mp hsession) hrole (ready_addChecks.mp hready).2
    refine keeps_ite (fun hrole => ?_) fun _ => keeps_ite (fun hrole => ?_) fun _ =>
      ⟨hinv1, sound_failed⟩
    · exact walk_planPreActivationOrphan (hanchor _ hrole) hsame hkin hkey hid hnamed hinv1 hsince1
    · exact walk_planPostActivationOrphan (hanchor _ hrole) hkin hkey hinv1 hsince1

/-- **The plan.** -/
theorem walk_planOrphanCleanup {problems : String → List String} (hid : o.sessionID ≠ "")
    (hinv : k.inv g) (hsince : Since w0 (k.world g)) :
    k.Keeps (fun w' plan' => Sound o w0 w' plan') g (planOrphanCleanup problems o) := by
  refine keeps_ite (fun hunready => ⟨hinv, fun hready => ?_⟩) fun hready => ?_
  · exact absurd (hready.symm.trans hunready) (by decide)
  have hnamed : o.sourcePVC ≠ "" := by
    have hchecks := (ready_addChecks.mp (Bool.eq_true_of_not_eq_false hready)).2
    simp only [optionChecks, List.forall_mem_append, forall_failIf, not_or] at hchecks
    exact hchecks.2.2.2
  have hrecord : k.Keeps (fun w' _ => Since w0 w') g checkOrphanSessionRecord := by
    refine (walk_lookup rfl lasting_since hinv hsince).bind fun g1 r hinv1 hread => ?_
    match r with
    | .error _ | .ok none => exact ⟨hinv1, hread.1⟩
    | .ok (some owner) => exact keeps_ite (fun _ => ⟨hinv1, hread.1⟩) fun _ => ⟨hinv1, hread.1⟩
  refine hrecord.bind fun g1 check hinv1 hsince1 => ?_
  refine (walk_lookup rfl lasting_since hinv1 hsince1).bind fun g2 r hinv2 hread => ?_
  obtain ⟨hsince2, hread⟩ := hread
  match r with
  | .error _ => exact ⟨hinv2, sound_failed⟩
  | .ok none => exact walk_planDeletedSourceOrphan hinv2 hsince2
  | .ok (some pvc') =>
    have hfind : (k.world g2).claims.find o.sourceKey = some pvc' := Except.ok.inj (hread _ rfl)
    obtain ⟨pvc, hpvc, hsame⟩ := hsince2.claims pvc' (Registry.mem_of_find hfind)
    exact walk_planSource hpvc hsame (Registry.key_of_find hfind) hid hnamed hinv2 hsince2

end Planning

/-! ## The operation -/

theorem walk_cleanupDestinationPVC {resources : PreActivation}
    (hready : PreReady o w0 (k.world g) resources pvc pv) (hinv : k.inv g)
    (hsince : Since w0 (k.world g)) :
    k.Keeps (fun w' _ => Since w0 w') g (cleanupDestinationPVC o.sessionID resources) := by
  refine keeps_ite (fun _ => ⟨hinv, hsince⟩) fun _ => ?_
  -- what the deletion of Pods leaves as it is
  have hlasting : Lasting fun w => Since w0 w ∧
      (OwnedDestination o.sessionID pvc.uid pvc → Gone o w) := lasting_since.and lasting_gone.imp
  have hpods : ∀ w key uid version,
      (Since w0 w ∧ (OwnedDestination o.sessionID pvc.uid pvc → Gone o w)) →
      (Since w0 (serve (.deletePod key uid version) w).2 ∧
        (OwnedDestination o.sessionID pvc.uid pvc →
          Gone o (serve (.deletePod key uid version) w).2)) := by
    intro w key uid version h
    obtain ⟨hclaims, hvolumes⟩ := serve_deletePod w key uid version
    refine ⟨h.1.congr hclaims hvolumes, fun hself => ?_⟩
    unfold Gone
    rw [hclaims]
    exact h.2 hself
  refine (walk_inventoryReservationPods hlasting hinv ⟨hsince, hready.self⟩).bind
    fun g1 pods hinv1 h1 => ?_
  refine (walk_deleteReservationConsumers hlasting hpods hinv1 h1.1 h1.2).bind
    fun g2 _ hinv2 h2 => ?_
  refine (walk_ensurePVCUnused (hlasting.and lasting_noConsumers) hinv2
    ⟨h2.1, h2.2.noConsumers⟩).bind fun g3 _ hinv3 h3 => ?_
  rw [hready.sourceUID]
  exact walk_deleteOrphanDestinationPVC hready.anchor hinv3 h3.1.1 h3.2 h3.1.2

theorem walk_cleanupResources {plan : Plan} (hplan : plan.ready = true)
    (hsound : Sound o w0 (k.world g) plan) (hinv : k.inv g) :
    k.Keeps (fun _ _ => True) g (cleanupResources o.sessionID plan) := by
  obtain ⟨hsince, hpre, hpost⟩ := hsound hplan
  unfold cleanupResources
  split
  · rename_i hmode
    split
    · exact ⟨hinv, trivial⟩
    · rename_i resources hresources
      obtain ⟨pvc, pv, hready⟩ := hpre hmode resources hresources
      refine (walk_cleanupDestinationPVC hready hinv hsince).bind fun g1 _ hinv1 hsince1 => ?_
      have hvolume : k.Keeps (fun _ _ => True) g1 (cleanupDestinationPV o.sessionID resources) :=
        keeps_ite (fun _ => ⟨hinv1, trivial⟩) fun _ =>
          walk_deleteReclaimedPV hready.anchor hinv1 hsince1
      refine hvolume.bind fun g2 _ hinv2 _ => ?_
      refine (walk_finalizeOrphanPVC hready.sourceKey hinv2).bind fun g3 _ hinv3 _ => ?_
      exact walk_finalizeOrphanPV hready.anchor hready.sourcePV hinv3
  · rename_i hmode
    split
    · exact ⟨hinv, trivial⟩
    · rename_i resources hresources
      obtain ⟨pvc, pv, hready⟩ := hpost hmode resources hresources
      refine (walk_deleteOrphanRollbackPV hready.anchor hinv hsince).bind fun g1 _ hinv1 _ => ?_
      refine (walk_finalizeOrphanPVC hready.sourceKey hinv1).bind fun g2 _ hinv2 _ => ?_
      exact walk_finalizeOrphanPV hready.anchor hready.activePV hinv2
  · exact ⟨hinv, trivial⟩
  · exact ⟨hinv, trivial⟩

theorem walk_hasOrphanSessionResources (hinv : k.inv g) :
    k.Keeps (fun _ _ => True) g (hasOrphanSessionResources id) := by
  refine (walk_pass rfl hinv).bind fun g1 _ hinv1 _ => ?_
  refine keeps_ite (fun _ => ⟨hinv1, trivial⟩) fun _ => ?_
  refine (walk_pass rfl hinv1).bind fun g2 _ hinv2 _ => ?_
  refine keeps_ite (fun _ => ⟨hinv2, trivial⟩) fun _ => ?_
  exact (walk_pass rfl hinv2).bind fun g3 _ hinv3 _ => ⟨hinv3, trivial⟩

theorem walk_cleanupRecords (hinv : k.inv g) : k.Keeps (fun _ _ => True) g (cleanupRecords id) := by
  have hrecord : k.Keeps (fun _ _ => True) g (deleteStaleSessionRecord id) := by
    refine (walk_pass rfl hinv).bind fun g1 found hinv1 _ => ?_
    cases found with
    | none => exact ⟨hinv1, trivial⟩
    | some owner =>
      refine keeps_ite (fun _ => ?_) fun _ => ⟨hinv1, trivial⟩
      have hguard : Guard o w0 (k.world g1) .deleteRecord := trivial
      exact (walk_ask hinv1 hguard).post fun _ _ _ => trivial
  refine hrecord.bind fun g1 _ hinv1 _ => ?_
  refine (walk_hasOrphanSessionResources hinv1).bind fun g2 _ hinv2 _ => ?_
  refine keeps_ite (fun _ => ⟨hinv2, trivial⟩) fun _ => ?_
  refine (walk_pass rfl hinv2).bind fun g3 _ hinv3 _ => ?_
  exact walk_pass rfl hinv3

theorem walk_releaseLock {result : Except Error α} (hinv : k.inv g) :
    k.Keeps (fun _ _ => True) g (releaseLock result) := by
  refine (walk_lookup rfl lasting_true hinv trivial).bind fun g1 _ hinv1 _ => ?_
  refine (walk_lookup rfl lasting_true hinv1 trivial).bind fun g2 _ hinv2 _ => ?_
  split <;> exact ⟨hinv2, trivial⟩

/-- **The cleanup.**  Each of its calls is guarded. -/
theorem walk_cleanupOrphan {problems : String → List String} (hinv : k.inv g)
    (hstart : k.world g = w0) : k.Keeps (fun _ _ => True) g (cleanupOrphan problems o) := by
  refine walk_reject hinv fun hgood => ?_
  have hid : o.sessionID ≠ "" := (not_or.mp hgood).2
  have hsince : Since w0 (k.world g) := by
    rw [hstart]
    exact .refl w0
  refine (walk_carry rfl lasting_since hinv hsince).bind fun g2 _ hinv2 hsince2 => ?_
  have hlocked : k.Keeps (fun _ _ => True) g2 (cleanupOrphanLocked problems o) := by
    refine (walk_planOrphanCleanup hid hinv2 hsince2).bind fun g3 plan hinv3 hsound => ?_
    refine walk_reject hinv3 fun hready => ?_
    refine (walk_cleanupResources (Bool.eq_true_of_not_eq_false hready) hsound hinv3).bind
      fun g5 _ hinv5 _ => ?_
    exact (walk_cleanupRecords hinv5).bind fun g6 _ hinv6 _ => ⟨hinv6, trivial⟩
  exact hlocked.handle (fun g3 _ hinv3 _ => walk_releaseLock hinv3)
    fun g3 _ hinv3 _ => walk_releaseLock hinv3

/-! ## Deletions of a run -/

/-- A run and its log: each call, and the cluster when it was made. -/
structure Audit where
  world : World
  log : List (World × Call)

def Audited (a : Audit) (op : Call) (r : op.Reply) (a' : Audit) : Prop :=
  Observed a.world op r a'.world ∧ a'.log = a.log ++ [(a.world, op)]

/-- The object carries the session, and a role in which it may be deleted. -/
def Deletable (id : String) (labels : StringMap) : Prop :=
  labels.get sessionKey = id ∧
    (labels.get resourceRoleLabel = roleDestination ∨ labels.get resourceRoleLabel = roleRollback)

/-- A deletion leaves the claim of the options alone, which was bound to a volume of the session,
and this volume too; what it meets carries the session and a role in which it may be deleted. -/
def Permitted (o : Options) (w0 w : World) : Call → Prop
  | .deleteClaim key uid _ => ∃ pvc pv role, Anchor o w0 role pvc pv ∧ key ≠ claimKey pvc ∧
      ∀ target ∈ w.claims.objects, claimKey target = key → target.uid = uid →
        Deletable o.sessionID target.labels
  | .deleteVolume name uid _ => ∃ pvc pv role, Anchor o w0 role pvc pv ∧ name ≠ pv.name ∧
      ∀ target ∈ w.volumes.objects, target.name = name → target.uid = uid →
        Deletable o.sessionID target.labels
  | _ => True

theorem Guard.permitted (h : Guard o w0 w op) : Permitted o w0 w op := by
  cases op with
  | deleteClaim key uid version =>
    obtain ⟨hne, -, pvc, pv, hanchor, htarget⟩ := h
    refine ⟨pvc, pv, roleSource, hanchor, hanchor.key ▸ hne, fun target hmem hkey huid => ?_⟩
    have howned := htarget target hmem hkey huid
    exact ⟨howned.2.1, .inl howned.2.2.1⟩
  | deleteVolume name uid version =>
    obtain ⟨⟨pvc, pv, role, hanchor, hne⟩, htarget⟩ := h
    refine ⟨pvc, pv, role, hanchor, hne.symm, fun target hmem hname huid => ?_⟩
    rcases htarget target hmem hname huid with hrole | hrole
    · exact ⟨hrole.1, .inl hrole.2⟩
    · exact ⟨hrole.1, .inr hrole.2⟩
  | _ => exact trivial

def auditWalk (o : Options) (w0 : World) : Walk o w0 Audit where
  world := Audit.world
  obs := Audited
  inv a := ∀ entry ∈ a.log, Permitted o w0 entry.1 entry.2
  observed h := h.1
  step := by
    intro a op r a' hlog hguard hobs entry hentry
    rw [hobs.2] at hentry
    rcases List.mem_append.mp hentry with hold | hnew
    · exact hlog entry hold
    · obtain rfl := List.mem_singleton.mp hnew
      exact hguard.permitted

/-- **The data in use is never destroyed.**  In every cluster, with every options, at whatever call
the cleanup fails or is cut off: a deletion leaves the claim of the options and its volume alone,
and meets only objects of the session with the role `destination` or `rollback`. -/
theorem deletions_permitted (problems : String → List String) (o : Options) (w0 : World) {a : Audit}
    {result : Option (Except Error Plan)}
    (hrun : (cleanupOrphan problems o).Runs Audited ⟨w0, []⟩ a result) {w : World} {op : Call}
    (hentry : (w, op) ∈ a.log) : Permitted o w0 w op := by
  have hkeeps : (auditWalk o w0).Keeps (fun _ _ => True) ⟨w0, []⟩ (cleanupOrphan problems o) :=
    walk_cleanupOrphan (fun entry hentry => absurd hentry (by simp)) rfl
  exact hkeeps.invariant hrun (w, op) hentry

/-! ### A run -/

def exampleOptions : Options := ⟨"move-1", "system", "apps", "data"⟩

def exampleLabels (role : String) : StringMap := fun key =>
  if key = managedByLabel then some managedByValue
  else if key = sessionKey then some "move-1"
  else if key = resourceRoleLabel then some role
  else none

def exampleAnnotations (paired : String) : StringMap := fun key =>
  if key = originalPolicyAnnotation then some "Delete"
  else if key = pairedPVAnnotation then some paired
  else none

def exampleClaim : PVC where
  ns := "apps"
  name := "data"
  uid := some 1
  spec := { volumeName := "pv-new" }
  phase := .bound

def exampleActive : PV where
  name := "pv-new"
  uid := some 2
  labels := exampleLabels roleActive
  annotations := exampleAnnotations "pv-old"
  reclaimPolicy := .retain
  claimRef := some exampleClaim.ref
  phase := .bound

def exampleRollback : PV where
  name := "pv-old"
  uid := some 3
  labels := exampleLabels roleRollback
  annotations := exampleAnnotations "pv-new"
  reclaimPolicy := .delete
  phase := .released

/-- A cluster in which the workflow's record is lost after the activation. -/
def exampleWorld : World where
  claims := ⟨[exampleClaim], by decide⟩
  volumes := ⟨[exampleActive, exampleRollback], by decide⟩
  pods := ⟨[], by decide⟩
  attachments := []
  owner := none
  nextVersion := 1

def audited (op : Call) (a : Audit) : op.Reply × Audit :=
  ((serve op a.world).1, ⟨(serve op a.world).2, a.log ++ [(a.world, op)]⟩)

theorem audited_observed (op : Call) (a : Audit) : Audited a op (audited op a).1 (audited op a).2 :=
  ⟨.served (.refl a.world), rfl⟩

def Call.deletedVolume : Call → Option String
  | .deleteVolume name _ _ => some name
  | _ => none

def exampleRun : Audit :=
  (run audited (cleanupOrphan (fun _ => []) exampleOptions) ⟨exampleWorld, []⟩).2

theorem deletions_permitted_rollback : ∃ entry ∈ exampleRun.log,
    entry.2.deletedVolume = some "pv-old" ∧
      Permitted exampleOptions exampleWorld entry.1 entry.2 := by
  have hdeleted : some "pv-old" ∈ exampleRun.log.map fun entry => entry.2.deletedVolume := by
    decide
  obtain ⟨entry, hentry, hvolume⟩ := List.mem_map.mp hdeleted
  exact ⟨entry, hentry, hvolume, deletions_permitted _ _ _ (runs_run audited_observed _ _) hentry⟩

end Orphan

end PvcMigrate
