import PvcMigrate.App.MigrationExecutor
import PvcMigrate.Lib.Observed

/-!
# Copies since a resume

A final sync records each volume it has copied, so that an interrupted sync goes on where it
stopped.  A migration that is resumed from FinalSynced has all these records already, and the
workload may have written to the source since.  `finalSync` (`migration_executor_sync.go`,
`namespaced_migration_sync.go`) drops them in that case, going by the phase of the status.

The observer keeps the object in the store and the source claims that were copied since the resume.
A save that ended in an error may or may not have reached the store.
-/

namespace PvcMigrate

open Kube Prog

namespace ClusterMigrationExecutor

/-! ## What is observed -/

/-- The object in the store, and the source claims copied without error since the resume. -/
structure SyncHistory where
  stored : ClusterMigration
  copied : List (String × String)

/-- What a call and its reply do to the history. -/
def observes (h : SyncHistory) : (call : Call) → call.Reply → SyncHistory → Prop
  | .api (.save object), r, h' =>
    h' = { h with stored := object } ∨ (∃ e, (r : Except Failure Unit) = .error e) ∧ h' = h
  | .service (.copy source _ _), r, h' =>
    match (r : Except Failure Unit) with
    | .ok _ => h' = { h with copied := (source.ns, source.name) :: h.copied }
    | .error _ => h' = h
  | _, _, h' => h' = h

/-- The calls that leave no trace in the history. -/
def Call.Unobserved : Call → Prop
  | .api (.save _) | .service (.copy _ _ _) => False
  | _ => True

theorem eq_of_observes {h h' : SyncHistory} {call : Call} {r : call.Reply}
    (hcall : call.Unobserved) (hobs : observes h call r h') : h' = h := by
  cases call with
  | api op =>
    cases op with
    | save object => exact hcall.elim
    | _ => exact hobs
  | service service =>
    cases service with
    | copy source destination attempt => exact hcall.elim
    | _ => exact hobs
  | _ => exact hobs

variable {μ α β : Type}

/-- The action keeps the invariant `I` of the history; its result satisfies `A`, and what is in
memory at an error satisfies `E`. -/
abbrev Tracks (I : SyncHistory → Prop) (p : Action μ α) (A : SyncHistory → α → Prop)
    (E : List (String × String) → μ → Prop) (h : SyncHistory) : Prop :=
  p.Keeps observes I A (fun h e => E h.copied e.2) h

/-! ## Rules -/

section Rules

variable {I : SyncHistory → Prop} {E : List (String × String) → μ → Prop} {h : SyncHistory}
  {memory : μ}

variable {p : Action μ α} {A : SyncHistory → α → Prop}

theorem Tracks.bind {f : α → Action μ β} {B : SyncHistory → β → Prop} (hp : Tracks I p A E h)
    (hf : ∀ h a, I h → A h a → Tracks I (f a) B E h) : Tracks I (p >>= f) B E h :=
  Keeps.bind hp hf

theorem Tracks.imp {B : SyncHistory → α → Prop} {F : List (String × String) → μ → Prop}
    (hp : Tracks I p A E h) (hA : ∀ h a, I h → A h a → B h a)
    (hE : ∀ copied memory, E copied memory → F copied memory) :
    Tracks I p B F h :=
  Keeps.imp hp hA fun _ _ _ he => hE _ _ he

theorem Tracks.handle {ν : Type} {f : α → Action ν β} {k : Failure × μ → Action ν β}
    {B : SyncHistory → β → Prop} {F : List (String × String) → ν → Prop} (hp : Tracks I p A E h)
    (hf : ∀ h a, I h → A h a → Tracks I (f a) B F h)
    (hk : ∀ h cause memory, I h → E h.copied memory → Tracks I (k (cause, memory)) B F h) :
    Tracks I (p.handle f k) B F h :=
  Keeps.handle hp hf fun h e hI he => hk h e.1 e.2 hI he

theorem tracks_pure {a : α} (hI : I h) (hA : A h a) :
    Tracks I (pure a : Action μ α) A E h := ⟨hI, hA⟩

theorem tracks_fail {cause : Failure} (hI : I h)
    (hE : E h.copied memory) : Tracks I (fail (cause, memory) : Action μ α) A E h := ⟨hI, hE⟩

theorem tracks_ite {c : Prop} [Decidable c] {q : Action μ α} (hp : c → Tracks I p A E h)
    (hq : ¬ c → Tracks I q A E h) :
    Tracks I (if c then p else q) A E h := keeps_ite hp hq

theorem tracks_perform {call : Call} (hI : I h) (hcall : call.Unobserved) :
    Tracks I (perform call : Action μ call.Reply) (fun h' _ => h' = h) E h :=
  keeps_silent hI fun _ _ hobs => eq_of_observes hcall hobs

section

variable (hI : I h) (hE : E h.copied memory)
include hI hE

theorem tracks_answer {r : Except Failure α} :
    Tracks I (answer memory r) (fun h' _ => h' = h) E h := by
  cases r with
  | ok a => exact ⟨hI, rfl⟩
  | error e => exact ⟨hI, hE⟩

theorem tracks_ask {service : Service} (hcall : (Call.service service).Unobserved) :
    Tracks I (ask service memory) (fun h' _ => h' = h) E h := by
  refine Tracks.bind (tracks_perform hI hcall) ?_
  rintro h' r hI' rfl
  exact tracks_answer hI' hE

theorem tracks_ensure {check : Except Error Unit} :
    Tracks I (ensure check memory) (fun h' _ => h' = h ∧ check = .ok ()) E h := by
  cases check with
  | ok a => exact ⟨hI, rfl, rfl⟩
  | error e => exact ⟨hI, hE⟩

theorem tracks_reject {bad : Prop} [Decidable bad] {e : Failure} :
    Tracks I (reject bad (e, memory)) (fun h' _ => h' = h ∧ ¬ bad) E h :=
  keeps_reject hI fun _ => hE

end

theorem tracks_each {f : α → Action μ Unit} {xs : List α} (hI : I h)
    (hf : ∀ x, Tracks I (f x) (fun h' _ => h' = h) E h) :
    Tracks I (each f xs) (fun h' _ => h' = h) E h :=
  keeps_each (P := fun h' => h' = h) (fun x _ _ _ hsame => by rw [hsame]; exact hf x) hI rfl

theorem tracks_check {p : Switch ClusterMigration α} (hread : ReadOnly p) (hI : I h)
    (hE : E h.copied memory) : Tracks I (check p memory) (fun h' _ => h' = h) E h := by
  suffices hembed : Tracks I (embed (fun _ m => m) p memory) (fun h' _ => h' = h) E h from
    hembed.bind fun h' _ hI' hsame => ⟨hI', hsame⟩
  induction p with
  | ret a => exact ⟨hI, rfl⟩
  | fail e => exact ⟨hI, hE⟩
  | call op next ih =>
    have hunobserved : (Call.api op).Unobserved := by
      cases op with
      | save object => exact hread.1.elim
      | _ => trivial
    rw [embed, api]
    refine Tracks.bind (A := fun h' _ => h' = h) ?_ fun h' r _ hsame => ?_
    · refine Tracks.bind (tracks_perform hI hunobserved) ?_
      rintro h' r hI' rfl
      exact tracks_answer hI' hE
    · subst hsame
      exact ih r (hread.2 r)

/-- The object is saved, or it may have been although the store answers with an error. -/
theorem tracks_persist {next previous : ClusterMigration}
    {E : List (String × String) → ClusterMigration → Prop} (hI : I h)
    (hnext : I { h with stored := next }) (hE : E h.copied previous) :
    Tracks I (persist next previous)
      (fun h' object => h'.copied = h.copied ∧ object = next) E h := by
  refine Tracks.bind (A := fun h' _ => h'.copied = h.copied) ?_ fun h' _ hI' hcopied =>
    ⟨hI', hcopied, rfl⟩
  refine keeps_bind.mpr (keeps_perform.mpr ⟨hI, fun r h' hobs => ?_⟩)
  rcases hobs with rfl | ⟨-, rfl⟩
  · refine ⟨hnext, (tracks_answer hnext hE).imp (fun h' _ _ hsame => ?_) fun _ _ he => he⟩
    rw [hsame]
  · refine ⟨hI, (tracks_answer hI hE).imp (fun h' _ _ hsame => ?_) fun _ _ he => he⟩
    rw [hsame]

/-- A change of phase saves the object with another status, if anything. -/
theorem tracks_transition {object : ClusterMigration} {next : WorkflowPhase} {message : String}
    (hI : I h) (hsaved : ∀ status, I { h with stored := withStatus object status }) :
    Tracks I (transition object next message)
      (fun h' moved => h'.copied = h.copied ∧ ∃ status, moved = withStatus object status)
      (fun copied memory => copied = h.copied ∧ memory = object) h := by
  unfold transition
  refine Tracks.bind (tracks_ensure hI ⟨rfl, rfl⟩) ?_
  rintro _ _ hI ⟨rfl, -⟩
  refine Tracks.bind (tracks_perform hI trivial) ?_
  rintro _ time hI rfl
  refine Tracks.imp (tracks_persist hI (hsaved _) ⟨rfl, rfl⟩) ?_ fun _ _ he => he
  rintro h' moved - ⟨hcopied, rfl⟩
  exact ⟨hcopied, _, rfl⟩

theorem tracks_validateReservedVolume {plan : ClusterMigrationPlan} {object : ClusterMigration}
    {volume : VolumeSpec} {E : List (String × String) → ClusterMigration → Prop} (hI : I h)
    (hE : E h.copied object) :
    Tracks I (validateReservedVolume plan object volume) (fun h' _ => h' = h) E h := by
  unfold validateReservedVolume
  refine Tracks.bind (tracks_reject hI hE) ?_
  rintro _ _ hI ⟨rfl, -⟩
  exact tracks_ask hI hE trivial

end Rules

/-! ## Records that are backed by a copy -/

def sourceKey (plan : ClusterMigrationPlan) (volume : VolumeSpec) : String × String :=
  (plan.sourceNamespace, volume.sourcePVC.name)

/-- An object of the plan in which every recorded final copy was made since the resume. -/
structure Backed (plan : ClusterMigrationPlan) (copied : List (String × String))
    (object : ClusterMigration) : Prop where
  plan_eq : object.plan = some plan
  synced : ∀ status ∈ object.volumes, status.sync.finalCompletedAt ≠ none →
    (plan.sourceNamespace, status.reservation.sourcePVCName) ∈ copied

section Backed

variable {plan : ClusterMigrationPlan} {copied copied' : List (String × String)}
  {object : ClusterMigration} {volume : VolumeSpec}

section

variable (h : Backed plan copied object)
include h

theorem Backed.mono (hsub : copied ⊆ copied') : Backed plan copied' object :=
  ⟨h.plan_eq, fun status hmem hsynced => hsub (h.synced status hmem hsynced)⟩

theorem Backed.withStatus (status : WorkflowStatus) :
    Backed plan copied (withStatus object status) := ⟨h.plan_eq, h.synced⟩

theorem Backed.checkpoint (hsynced : (object.checkpoint volume).sync.finalCompletedAt ≠ none) :
    sourceKey plan volume ∈ copied := by
  unfold ClusterMigration.checkpoint at hsynced
  cases hfound : checkpointOf object.volumes volume.sourcePVC.name with
  | none =>
    rw [hfound] at hsynced
    exact absurd rfl hsynced
  | some status =>
    rw [hfound] at hsynced
    obtain ⟨hmem, hname⟩ := checkpointOf_eq_some hfound
    rw [sourceKey, ← hname]
    exact h.synced status hmem hsynced

/-- Another sync status of a volume: if it records a copy, the volume was copied. -/
theorem Backed.withSync {sync : MigrationSyncStatus}
    (hsync : sync.finalCompletedAt ≠ none → sourceKey plan volume ∈ copied) :
    Backed plan copied (withSync object volume sync) := by
  refine ⟨h.plan_eq, fun status hmem hsynced => ?_⟩
  obtain ⟨old, hold, rfl⟩ := List.mem_map.mp hmem
  by_cases hname : old.reservation.sourcePVCName = volume.sourcePVC.name
  · simp only [hname, if_true] at hsynced ⊢
    exact hsync hsynced
  · simp only [hname, if_false] at hsynced ⊢
    exact h.synced old hold hsynced

end

theorem backed_resetSync (hplan : object.plan = some plan)
    (hobject : object.status.phase = .finalSynced ∨ Backed plan copied object) :
    Backed plan copied (resetSync object) := by
  unfold resetSync
  by_cases hphase : object.status.phase = .finalSynced
  · rw [if_pos hphase]
    refine ⟨hplan, fun status hmem hsynced => ?_⟩
    obtain ⟨old, -, rfl⟩ := List.mem_map.mp hmem
    exact absurd rfl hsynced
  · rw [if_neg hphase]
    exact hobject.resolve_left hphase

end Backed

/-! ## The stages of a final sync -/

/-- The store has an object of the plan whose records are backed, or which is going to drop them;
the copies in `base` stay made. -/
structure Coherent (plan : ClusterMigrationPlan) (base : List (String × String)) (h : SyncHistory) :
    Prop where
  plan_eq : h.stored.plan = some plan
  stored : h.stored.status.phase = .finalSynced ∨ Backed plan h.copied h.stored
  base_subset : base ⊆ h.copied

section Stages

variable {config : Config} {plan : ClusterMigrationPlan} {base : List (String × String)}
  {h : SyncHistory} {object : ClusterMigration} {volume : VolumeSpec}

theorem Coherent.save (hI : Coherent plan base h) (hobject : Backed plan h.copied object) :
    Coherent plan base { h with stored := object } :=
  ⟨hobject.plan_eq, .inr hobject, hI.base_subset⟩

theorem tracks_save {previous : ClusterMigration}
    {E : List (String × String) → ClusterMigration → Prop} (hI : Coherent plan base h)
    (hobject : Backed plan h.copied object) (hE : E h.copied previous) :
    Tracks (Coherent plan base) (persist object previous)
      (fun h' next => h'.copied = h.copied ∧ next = object) E h :=
  tracks_persist hI (hI.save hobject) hE

theorem tracks_phase {next : WorkflowPhase} {message : String} (hI : Coherent plan base h)
    (hobject : Backed plan h.copied object) :
    Tracks (Coherent plan base) (transition object next message)
      (fun h' moved => h'.copied = h.copied ∧ Backed plan h'.copied moved)
      (fun _ _ => True) h := by
  refine Tracks.imp (tracks_transition hI fun _ => hI.save (hobject.withStatus _)) ?_
    fun _ _ _ => trivial
  rintro h' moved - ⟨hcopied, status, rfl⟩
  rw [hcopied]
  exact ⟨rfl, hobject.withStatus status⟩

/-- Whatever happens to the record of a failure, it is of the object in memory. -/
theorem tracks_recordFailure {cause : Failure} {A : SyncHistory → β → Prop}
    (hI : Coherent plan base h) (hobject : Backed plan h.copied object) :
    Tracks (Coherent plan base) (recordFailure config cause object) A (fun _ _ => True) h := by
  unfold recordFailure
  refine Tracks.bind (tracks_perform hI trivial) ?_
  rintro _ fence hI rfl
  match fence with
  | .error _ => exact tracks_fail hI trivial
  | .ok _ =>
    refine Tracks.bind (tracks_perform hI trivial) ?_
    rintro _ cancelled hI rfl
    refine tracks_ite (fun _ => ?_) fun _ => ?_
    · refine Tracks.bind (tracks_perform hI trivial) ?_
      rintro _ time hI rfl
      exact Tracks.handle (E := fun _ _ => True) (tracks_save hI (hobject.withStatus _) trivial)
        (fun _ _ hI _ => tracks_fail hI trivial) fun _ _ _ hI _ => tracks_fail hI trivial
    · exact Tracks.handle (tracks_phase hI (hobject.withStatus _))
        (fun _ _ hI _ => tracks_fail hI trivial) fun _ _ _ hI _ => tracks_fail hI trivial

theorem tracks_orFail {p : Action ClusterMigration α} {A : SyncHistory → α → Prop}
    (hp : Tracks (Coherent plan base) p A (fun copied memory => Backed plan copied memory) h) :
    Tracks (Coherent plan base) (orFail config p) A (fun _ _ => True) h :=
  Tracks.handle hp (fun _ _ hI ha => tracks_pure hI ha) fun _ _ _ hI hmemory =>
    tracks_recordFailure hI hmemory

theorem tracks_afterCopyError {binding : PVCTransferBindings} {previousError : String}
    {last : Failure} {cleanup : Except Failure Unit} (hI : Coherent plan base h)
    (hobject : Backed plan h.copied object) :
    Tracks (Coherent plan base)
      (afterCopyError config volume binding previousError last cleanup object)
      (fun h' next => Backed plan h'.copied next)
      (fun copied memory => Backed plan copied memory) h := by
  have hsync (text : String) : Backed plan h.copied
      (withSync object volume { (object.checkpoint volume).sync with lastError := text }) :=
    hobject.withSync hobject.checkpoint
  unfold afterCopyError
  refine Tracks.bind (A := fun h' next => Backed plan h'.copied next) ?_ ?_
  · refine Tracks.handle (E := fun copied _ => copied = h.copied)
      (tracks_save hI (hsync (failureText last)) rfl) ?_ ?_
    · rintro h' next hI' ⟨hcopied, rfl⟩
      refine tracks_pure hI' ?_
      rw [hcopied]
      exact hsync _
    · intro h' cause memory hI' hcopied
      have hkept (text : String) : Backed plan h'.copied
          (withSync object volume { (object.checkpoint volume).sync with lastError := text }) := by
        rw [hcopied]
        exact hsync text
      refine Tracks.bind (tracks_perform hI' trivial) ?_
      rintro _ cancelled hI' rfl
      exact tracks_ite (fun _ => tracks_fail hI' (hkept _)) fun _ => tracks_fail hI' (hkept _)
  · intro h' next hI' hnext
    refine Tracks.bind (tracks_reject hI' hnext) ?_
    rintro _ _ hI' ⟨rfl, -⟩
    cases cleanup with
    | error e => exact tracks_fail hI' hnext
    | ok _ => exact tracks_pure hI' hnext

theorem tracks_copyAttempts {left : Nat} {last : Option Failure} (hI : Coherent plan base h)
    (hobject : Backed plan h.copied object) (hleft : left = 0 → last ≠ none) :
    Tracks (Coherent plan base) (copyAttempts config plan volume left last object)
      (fun h' next => Backed plan h'.copied next ∧ sourceKey plan volume ∈ h'.copied)
      (fun copied memory => Backed plan copied memory) h := by
  induction left generalizing last object h with
  | zero =>
    cases last with
    | none => exact absurd rfl (hleft rfl)
    | some cause => exact tracks_fail hI hobject
  | succ left ih =>
    unfold copyAttempts
    refine Tracks.bind (tracks_validateReservedVolume hI hobject) ?_
    rintro _ _ hI rfl
    refine Tracks.bind (tracks_check readOnly_verifyOfflineBindings hI hobject) ?_
    rintro _ _ hI rfl
    refine Tracks.bind (tracks_save hI (hobject.withSync hobject.checkpoint) hobject) ?_
    rintro h1 started hI ⟨hcopied, rfl⟩
    have hstarted : Backed plan h1.copied (withSync object volume
        { (object.checkpoint volume).sync with
          attempts := (object.checkpoint volume).sync.attempts + 1
          lastError := "" }) := by
      rw [hcopied]
      exact hobject.withSync hobject.checkpoint
    refine Tracks.bind (A := fun h' copied => h1.copied ⊆ h'.copied ∧
      (copied = .ok () → sourceKey plan volume ∈ h'.copied)) ?_ ?_
    · refine keeps_perform.mpr ⟨hI, fun r h' hobs => ?_⟩
      match r with
      | .ok () =>
        obtain rfl : h' = _ := hobs
        refine ⟨⟨hI.plan_eq, ?_, ?_⟩, List.subset_cons_self _ _, fun _ => List.mem_cons_self⟩
        · exact hI.stored.imp id fun hb => hb.mono (List.subset_cons_self _ _)
        · exact List.Subset.trans hI.base_subset (List.subset_cons_self _ _)
      | .error e =>
        obtain rfl : h' = h1 := hobs
        exact ⟨hI, List.Subset.refl _, fun hok => by cases hok⟩
    · rintro h2 copied hI ⟨hgrown, hcopy⟩
      refine Tracks.bind (tracks_perform hI trivial) ?_
      rintro _ cleanup hI rfl
      have hstarted := hstarted.mono hgrown
      match hresult : copyError copied cleanup with
      | none =>
        refine tracks_pure hI ⟨hstarted, hcopy ?_⟩
        match copied, hresult with
        | .ok (), _ => rfl
      | some cause =>
        refine Tracks.bind (tracks_afterCopyError hI hstarted) ?_
        intro h3 next hI hnext
        refine tracks_ite (fun _ => ?_) fun _ => ih hI hnext fun _ => by simp
        refine Tracks.bind (tracks_ask hI hnext trivial) ?_
        rintro _ _ hI rfl
        exact ih hI hnext fun _ => by simp

section

variable (hretries : 0 < config.retries) (hI : Coherent plan base h)
  (hobject : Backed plan h.copied object)
include hretries hI hobject

theorem tracks_copyWithRetry :
    Tracks (Coherent plan base) (copyWithRetry config plan volume object)
      (fun h' next => Backed plan h'.copied next ∧ sourceKey plan volume ∈ h'.copied)
      (fun copied memory => Backed plan copied memory) h := by
  unfold copyWithRetry
  refine Tracks.bind (tracks_ask hI hobject trivial) ?_
  rintro _ _ hI rfl
  exact tracks_copyAttempts hI hobject fun hzero => by omega

theorem tracks_syncNext :
    Tracks (Coherent plan base) (syncNext config plan object volume)
      (fun h' next => Backed plan h'.copied next ∧ sourceKey plan volume ∈ h'.copied)
      (fun _ _ => True) h := by
  unfold syncNext
  refine tracks_ite (fun hsynced => tracks_pure hI ⟨hobject, hobject.checkpoint hsynced⟩)
    fun _ => ?_
  refine Tracks.bind (tracks_orFail (tracks_copyWithRetry hretries hI hobject)) ?_
  rintro h1 copiedObject hI ⟨hnext, hcopied⟩
  unfold checkpointFinalCopy
  refine Tracks.bind (tracks_perform hI trivial) ?_
  rintro _ time hI rfl
  refine Tracks.imp (tracks_save hI (hnext.withSync fun _ => hcopied) trivial) ?_ fun _ _ he => he
  rintro h2 synced - ⟨hsame, rfl⟩
  rw [hsame]
  exact ⟨hnext.withSync fun _ => hcopied, hcopied⟩

theorem tracks_syncAll :
    Tracks (Coherent plan base) (fold (syncNext config plan) object plan.volumes)
      (fun h' next => Backed plan h'.copied next ∧
        ∀ volume ∈ plan.volumes, sourceKey plan volume ∈ h'.copied)
      (fun _ _ => True) h := by
  refine Keeps.imp (keeps_fold (L := fun rest h' next => Backed plan h'.copied next ∧
      ∀ volume ∈ plan.volumes, volume ∈ rest ∨ sourceKey plan volume ∈ h'.copied) ?_ hI
    ⟨hobject, fun volume hmem => .inl hmem⟩) ?_ fun _ _ _ he => he
  · rintro volume rest h1 next hI ⟨hnext, hdone⟩
    -- With the copies made so far as the base, none of them is lost in this round.
    have hround : Tracks (Coherent plan h1.copied) (syncNext config plan next volume)
        (fun h' synced => Backed plan h'.copied synced ∧ sourceKey plan volume ∈ h'.copied)
        (fun _ _ => True) h1 :=
      tracks_syncNext hretries ⟨hI.plan_eq, hI.stored, List.Subset.refl _⟩ hnext
    refine Keeps.mono hround ?_ ?_ fun _ _ _ he => he
    · intro h' hI'
      exact ⟨hI'.plan_eq, hI'.stored, List.Subset.trans hI.base_subset hI'.base_subset⟩
    · rintro h' synced hI' ⟨hsynced, hcopied⟩
      refine ⟨hsynced, fun other hmem => ?_⟩
      rcases hdone other hmem with hleft | hkept
      · rcases List.mem_cons.mp hleft with rfl | hrest
        · exact .inr hcopied
        · exact .inl hrest
      · exact .inr (hI'.base_subset hkept)
  · rintro h' next - ⟨hnext, hdone⟩
    exact ⟨hnext, fun volume hmem => (hdone volume hmem).resolve_left List.not_mem_nil⟩

end

end Stages

/-! ## The checks in front -/

section Checks

variable {I : SyncHistory → Prop} {kind : MigrationKind} {config : Config}
  {plan : ClusterMigrationPlan} {object : ClusterMigration} {h : SyncHistory}

theorem tracks_finalSyncPlan {message : String} (hI : I h) :
    Tracks I (finalSyncPlan object message) (fun h' plan => h' = h ∧ object.plan = some plan)
      (fun _ _ => True) h := by
  unfold finalSyncPlan
  cases hplan : object.plan with
  | none => exact tracks_fail hI trivial
  | some plan =>
    exact tracks_ite (fun _ => tracks_pure hI ⟨rfl, rfl⟩) fun _ => tracks_fail hI trivial

theorem tracks_cleanupInterruptedFinalSync (hI : I h) :
    Tracks I (cleanupInterruptedFinalSync plan object) (fun h' _ => h' = h)
      (fun _ _ => True) h := by
  unfold cleanupInterruptedFinalSync
  refine tracks_each hI fun volume => ?_
  refine tracks_ite (fun _ => tracks_pure hI rfl) fun _ => ?_
  refine Tracks.bind (tracks_validateReservedVolume hI trivial) ?_
  rintro _ _ hI rfl
  refine Tracks.bind (tracks_ask hI trivial trivial) ?_
  rintro _ _ hI rfl
  exact tracks_ask hI trivial trivial

theorem readOnly_verifyVolumesOfflineForSession {sessionID : String}
    {volumes : List PVCTransferBindings} :
    ReadOnly (verifyVolumesOfflineForSession sessionID volumes : Switch ClusterMigration Unit) :=
  only_reject_bind readOnly_verifyOfflineBindings

theorem tracks_validateFinalSyncOf (hI : I h) :
    Tracks I (validateFinalSyncOf kind object)
      (fun h' _ => h' = h ∧ kind.validate object = .ok ()) (fun _ _ => True) h := by
  unfold validateFinalSyncOf
  refine Tracks.bind (tracks_ensure hI trivial) ?_
  rintro _ _ hI ⟨rfl, hvalid⟩
  refine Tracks.bind (tracks_ensure hI trivial) ?_
  rintro _ _ hI ⟨rfl, -⟩
  refine Tracks.bind (tracks_finalSyncPlan hI) ?_
  rintro _ plan hI ⟨rfl, -⟩
  refine Tracks.bind (tracks_ask hI trivial trivial) ?_
  rintro _ _ hI rfl
  refine Tracks.bind (tracks_each hI fun volume => ?_) ?_
  · refine Tracks.bind (tracks_ask hI trivial trivial) ?_
    rintro _ _ hI rfl
    exact tracks_validateReservedVolume hI trivial
  · rintro _ _ hI rfl
    refine Tracks.imp (tracks_check readOnly_verifyVolumesOfflineForSession hI trivial) ?_
      fun _ _ he => he
    rintro h' _ - rfl
    exact ⟨rfl, hvalid⟩

/-- A final sync that passes its checks comes to the first change of phase. -/
theorem tracks_finalSyncOf {A : SyncHistory → ClusterMigration → Prop} (hI : I h)
    (hbody : ∀ plan, object.plan = some plan → kind.validate object = .ok () →
      Tracks I (do
        let object ← (transition (resetSync object) .finalSyncing
          "running offline migration final sync").handle pure fun e => fail (e.1, object)
        let object ← fold (syncNext config plan) object plan.volumes
        transition object .finalSynced "offline migration final sync completed") A
        (fun _ _ => True) h) :
    Tracks I (finalSyncOf kind config object) A (fun _ _ => True) h := by
  unfold finalSyncOf
  refine Tracks.bind (tracks_finalSyncPlan hI) ?_
  rintro _ plan hI ⟨rfl, hplan⟩
  refine Tracks.bind (tracks_ensure hI trivial) ?_
  rintro _ _ hI ⟨rfl, -⟩
  refine Tracks.bind (tracks_cleanupInterruptedFinalSync hI) ?_
  rintro _ _ hI rfl
  refine Tracks.bind (tracks_validateFinalSyncOf hI) ?_
  rintro _ _ hI ⟨rfl, hvalid⟩
  refine Tracks.bind (tracks_ask hI trivial trivial) ?_
  rintro _ _ hI rfl
  exact hbody plan hplan hvalid

theorem tracks_withStoredWorkflowLock {body : Action ClusterMigration ClusterMigration}
    {A : SyncHistory → ClusterMigration → Prop} (hI : I h)
    (hbody : Tracks I body A (fun _ _ => True) h) :
    Tracks I (withStoredWorkflowLock kind object body) A (fun _ _ => True) h := by
  unfold withStoredWorkflowLock
  refine Tracks.bind (tracks_ensure hI trivial) ?_
  rintro _ _ hI ⟨rfl, -⟩
  refine Tracks.bind (tracks_reject hI trivial) ?_
  rintro _ _ hI ⟨rfl, -⟩
  refine Tracks.bind (tracks_ask hI trivial trivial) ?_
  rintro _ _ hI rfl
  refine Tracks.bind (tracks_ask hI trivial trivial) ?_
  rintro _ _ hI rfl
  exact hbody

end Checks

/-! ## Calls since the resume -/

variable (kind : MigrationKind) (config : Config)

/-- `FinalSync`, of either kind of migration. -/
def finalSyncCall (object : ClusterMigration) :
    Action ClusterMigration ClusterMigration :=
  withStoredWorkflowLock kind object (finalSyncOf kind config object)

/-- What calls of `FinalSync` lead to from the object `start`.  Each of them works on the stored
object, and may return, fail or be killed. -/
inductive Since (kind : MigrationKind) (config : Config) (start : ClusterMigration) :
    SyncHistory → Prop
  | resumed : Since kind config start ⟨start, []⟩
  | call {h h' : SyncHistory} {result : Option
      (Except (Failure × ClusterMigration) ClusterMigration)} : Since kind config start h →
      (finalSyncCall kind config h.stored).Runs observes h h' result → Since kind config start h'

/-- A call of `FinalSync` that returns without error has, with the calls since the resume, copied
every planned volume. -/
def CopiesAgain (start : ClusterMigration) : Prop :=
  ∀ h h' object, Since kind config start h →
    (finalSyncCall kind config h.stored).Runs observes h h' (some (.ok object)) →
    ∀ plan, start.plan = some plan → ∀ volume ∈ plan.volumes, sourceKey plan volume ∈ h'.copied

/-- Some run of `FinalSync` on the object returns without error. -/
def Completes (start : ClusterMigration) : Prop :=
  ∃ h object, (finalSyncCall kind config start).Runs observes ⟨start, []⟩ h (some (.ok object))

section Resume

variable {kind : MigrationKind} {config : Config} {plan : ClusterMigrationPlan}
  {start : ClusterMigration} {h : SyncHistory}

/-- One call: the records stay backed, and a call that returns has copied everything. -/
theorem tracks_finalSyncCall (hretries : 0 < config.retries) (hI : Coherent plan [] h) :
    Tracks (Coherent plan []) (finalSyncCall kind config h.stored)
      (fun h' _ => ∀ volume ∈ plan.volumes, sourceKey plan volume ∈ h'.copied)
      (fun _ _ => True) h := by
  refine tracks_withStoredWorkflowLock hI (tracks_finalSyncOf hI fun plan' hplan _ => ?_)
  obtain rfl : plan = plan' := Option.some.inj (hI.plan_eq.symm.trans hplan)
  refine Tracks.bind (A := fun h' next => Backed plan h'.copied next) ?_ ?_
  · refine Tracks.handle (tracks_phase hI (backed_resetSync hI.plan_eq hI.stored)) ?_ ?_
    · rintro h' moved hI' ⟨-, hmoved⟩
      exact tracks_pure hI' hmoved
    · intro h' cause memory hI' _
      exact tracks_fail hI' trivial
  · intro h1 next hI1 hnext
    refine Tracks.bind (tracks_syncAll hretries hI1 hnext) ?_
    rintro h2 synced hI2 ⟨hsynced, hcopied⟩
    refine Tracks.imp (tracks_phase hI2 hsynced) ?_ fun _ _ he => he
    rintro h3 _ - ⟨hsame, -⟩
    rw [hsame]
    exact hcopied

theorem coherent_since (hretries : 0 < config.retries) (hplan : start.plan = some plan)
    (hphase : start.status.phase = .finalSynced) (hsince : Since kind config start h) :
    Coherent plan [] h := by
  induction hsince with
  | resumed => exact ⟨hplan, .inl hphase, List.nil_subset _⟩
  | call _ hrun ih => exact (tracks_finalSyncCall hretries ih).invariant hrun

/-- A validated object in FinalSynced has a record of every planned volume. -/
theorem synced_of_validate (hvalid : kind.validate start = .ok ()) (hplan : start.plan = some plan)
    (hresume : workflowResumePhase start.status = .finalSynced) :
    plan.volumes ≠ [] ∧
      ∀ volume ∈ plan.volumes, (start.checkpoint volume).sync.finalCompletedAt ≠ none := by
  obtain ⟨planned, hvolumes, hnonempty, hdistinct, hcover⟩ : ∃ planned : ClusterMigrationPlan,
      planned.volumes = plan.volumes ∧ plan.volumes ≠ [] ∧
        plan.volumes.Pairwise VolumeSpec.Distinct ∧
        ((start.volumes = [] ∧ reservationOpen .finalSynced = true) ∨
          CheckpointsCover planned start.volumes .finalSynced) := by
    cases kind with
    | clusterMigration =>
      have h := validateClusterMigrationObject_eq_ok.mp hvalid
      have hprogress := (ClusterMigration.progress_iff hplan).mp h.progress
      rw [hresume] at hprogress
      exact ⟨plan, rfl, (h.admitted plan hplan).nonempty, (h.admitted plan hplan).distinct,
        hprogress.2⟩
    | migration =>
      simp only [MigrationKind.validate, validateMigrationObject, hplan, hresume,
        Check.andThen_eq_ok, Check.refuse_eq_ok, validateReservationVolumes_eq_ok] at hvalid
      obtain ⟨-, -, -, hvolumes, -, ⟨-, hdistinct⟩, -, hcheckpoints⟩ := hvalid
      let planned : ClusterMigrationPlan :=
        { plan with destinationNamespace := start.ns, temporaryNamespace := start.ns }
      have hcover : (start.volumes = [] ∧ reservationOpen .finalSynced = true) ∨
          CheckpointsCover planned start.volumes .finalSynced :=
        validateMigrationCheckpoints_eq_ok.mp hcheckpoints
      exact ⟨planned, rfl, (not_or.mp hvolumes).1, hdistinct, hcover⟩
  have hcover := hcover.resolve_left fun hempty => by simp [reservationOpen] at hempty
  refine ⟨hnonempty, fun volume hmem => ?_⟩
  obtain ⟨status, hstatus, -, hreached⟩ := hcover.exists_checkpoint (hvolumes ▸ hdistinct)
    (hvolumes ▸ hmem)
  rw [ClusterMigration.checkpoint, hstatus]
  exact hreached.synced rfl

theorem tracks_failed (hphase : start.status.phase ≠ .finalSynced)
    (hresume : workflowResumePhase start.status = .finalSynced) :
    Tracks (fun h => h.copied = []) (finalSyncCall kind config start)
      (fun _ _ => ∃ plan, start.plan = some plan ∧ plan.volumes ≠ []) (fun _ _ => True)
      ⟨start, []⟩ := by
  refine tracks_withStoredWorkflowLock rfl (tracks_finalSyncOf rfl fun plan hplan hvalid => ?_)
  obtain ⟨hnonempty, hsynced⟩ := synced_of_validate hvalid hplan hresume
  have hkept : resetSync start = start := if_neg hphase
  rw [hkept]
  refine Tracks.bind (A := fun _ next => next.volumes = start.volumes) ?_ ?_
  · refine Tracks.handle (tracks_transition rfl fun _ => rfl) ?_ ?_
    · rintro h' _ hI' ⟨-, status, rfl⟩
      exact tracks_pure hI' rfl
    · intro h' cause memory hI' _
      exact tracks_fail hI' trivial
  · intro h1 next hI1 hnext
    refine Tracks.bind (A := fun _ _ => True) ?_ ?_
    · refine Keeps.imp (keeps_fold (L := fun rest _ current =>
        (∀ volume ∈ rest, volume ∈ plan.volumes) ∧ current.volumes = start.volumes) ?_ hI1
        ⟨fun _ => id, hnext⟩) (fun _ _ _ _ => trivial) fun _ _ _ he => he
      rintro volume rest h2 current hI2 ⟨hrest, hcurrent⟩
      have hsame : current.checkpoint volume = start.checkpoint volume := by
        rw [ClusterMigration.checkpoint, hcurrent]
        rfl
      have hskip : (current.checkpoint volume).sync.finalCompletedAt ≠ none := by
        rw [hsame]
        exact hsynced volume (hrest volume List.mem_cons_self)
      rw [syncNext, if_pos hskip]
      exact ⟨hI2, fun other hmem => hrest other (List.mem_cons_of_mem _ hmem), hcurrent⟩
    · intro h2 synced hI2 _
      refine Tracks.imp (tracks_transition hI2 fun _ => hI2) ?_ fun _ _ _ => trivial
      exact fun _ _ _ _ => ⟨plan, hplan, hnonempty⟩

/-- **A resumed final sync copies again** exactly if the phase of the resumed object is FinalSynced.
A failed migration with the checkpoint FinalSynced keeps the records of the copies that were made
before the failure. -/
theorem finalSync_copiesAgain_iff (hretries : 0 < config.retries)
    (hresume : workflowResumePhase start.status = .finalSynced)
    (hcompletes : Completes kind config start) :
    CopiesAgain kind config start ↔ start.status.phase = .finalSynced := by
  constructor
  · intro hagain
    by_contra hphase
    obtain ⟨h, object, hrun⟩ := hcompletes
    have hnothing : h.copied = [] := (tracks_failed hphase hresume).invariant hrun
    obtain ⟨plan, hplan, hnonempty⟩ := (tracks_failed hphase hresume).result hrun
    obtain ⟨volume, rest, hvolumes⟩ := List.exists_cons_of_ne_nil hnonempty
    have hcopied := hagain _ h object .resumed hrun plan hplan volume (by simp [hvolumes])
    rw [hnothing] at hcopied
    exact List.not_mem_nil hcopied
  · intro hphase h h' object hsince hrun plan hplan volume hmem
    have hI := coherent_since hretries hplan hphase hsince
    exact (tracks_finalSyncCall hretries hI).result hrun volume hmem

end Resume

/-! ## A copied migration, resumed -/

section Sample

/-- A migration whose claim was copied, with the phase it is resumed from. -/
def copiedMigration (status : WorkflowStatus) : ClusterMigration :=
  { sampleMigration "app" with status := status }

def sampleConfig : Config where
  toolImageProber := false
  targetNode := ""
  retries := 3
  policies := fun _ => .ok {}
  isDestinationNoSpaceError := fun _ => false

/-- Every call succeeds, in the cluster of the sample. -/
def succeed : (call : Call) → SyncHistory → call.Reply × SyncHistory
  | .api (.save object), h => (.ok (), { h with stored := object })
  | .api op, h => (.ok (exec op (sampleWorld "app")).1, h)
  | .service (.copy source _ _), h =>
    (.ok (), { h with copied := (source.ns, source.name) :: h.copied })
  | .service _, h => (.ok (), h)
  | .now, h => (1, h)
  | .cancelled, h => (false, h)
  | .leaseFence, h => (.ok (), h)

theorem observes_succeed (call : Call) (h : SyncHistory) :
    observes h call (succeed call h).1 (succeed call h).2 := by
  cases call with
  | api op =>
    cases op with
    | save object => exact .inl rfl
    | _ => rfl
  | service service => cases service <;> rfl
  | _ => rfl

/-- The history after a `FinalSync` of the sample in which every call succeeds. -/
def afterFinalSync (kind : MigrationKind) (object : ClusterMigration) : SyncHistory :=
  (Prog.run succeed (finalSyncCall kind sampleConfig object) ⟨object, []⟩).2

theorem completes_of_run {kind : MigrationKind} {object : ClusterMigration}
    (hok : (Prog.run succeed (finalSyncCall kind sampleConfig object)
      ⟨object, []⟩).1.toOption.isSome =
      true) :
    ∃ result, (finalSyncCall kind sampleConfig object).Runs observes ⟨object, []⟩
      (afterFinalSync kind object) (some (.ok result)) := by
  have hrun := runs_run observes_succeed (finalSyncCall kind sampleConfig object) ⟨object, []⟩
  match hresult : (Prog.run succeed (finalSyncCall kind sampleConfig object) ⟨object, []⟩).1 with
  | .ok result =>
    rw [hresult] at hrun
    exact ⟨result, hrun⟩
  | .error e =>
    rw [hresult] at hok
    cases hok

/-- The migration failed after it had been copied. -/
def failedMigration : ClusterMigration :=
  copiedMigration { phase := .failed, resumeFrom := .finalSynced }

/-- A failed migration with the checkpoint FinalSynced: the final sync returns without error, and
nothing was copied. -/
theorem failedMigration_not_copiesAgain :
    workflowResumePhase failedMigration.status = .finalSynced ∧
      ¬ CopiesAgain .clusterMigration sampleConfig failedMigration := by
  refine ⟨rfl, fun hagain => ?_⟩
  obtain ⟨result, hrun⟩ : ∃ result, (finalSyncCall .clusterMigration sampleConfig
      failedMigration).Runs observes ⟨failedMigration, []⟩
      (afterFinalSync .clusterMigration failedMigration) (some (.ok result)) :=
    completes_of_run (by decide)
  have hcopied := hagain _ _ result .resumed hrun (samplePlan "app") rfl sampleVolume
    List.mem_cons_self
  have hnothing : (afterFinalSync .clusterMigration failedMigration).copied = [] := by
    decide
  rw [hnothing] at hcopied
  exact List.not_mem_nil hcopied

/-- A migration that is resumed in the phase FinalSynced. -/
theorem syncedMigration_copiesAgain_iff :
    CopiesAgain .clusterMigration sampleConfig (copiedMigration { phase := .finalSynced }) ↔
      (copiedMigration { phase := .finalSynced }).status.phase = .finalSynced :=
  finalSync_copiesAgain_iff (by decide) rfl
    ⟨_, completes_of_run (by decide)⟩

end Sample

end ClusterMigrationExecutor

end PvcMigrate
