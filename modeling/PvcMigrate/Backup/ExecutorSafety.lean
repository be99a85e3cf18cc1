import PvcMigrate.Backup.BackupExecutor
import PvcMigrate.Backup.RepositorySafety
import PvcMigrate.Backup.RestoreExecutor

/-!
# The executors of backups and restores are safe

Each call of the two executors keeps the invariant of repository workflows, one lemma for each of
their functions.  A run works under the stronger invariant that no abort has been stored, which is
what lets it start a transfer; it holds since the object that a run works on is not aborted.
-/

namespace PvcMigrate

namespace RepositoryWorkflow

open Check Prog LawfulRepositoryObject

variable {p q : Prop}

theorem Carries.set {Ω : Type} [RepositoryObject Ω] {m : Memory Ω} {w : World Ω}
    (hm : Carries q m w) {o : Ω} (hvalid : validate o = .ok ()) (hstatus : status o = m.status)
    (hplanned : planned o = planned m.object) : Carries q (m.set o) w where
  valid := hvalid
  fits := by
    refine ⟨hm.fits.seen, fun hsame h => ?_, fun hsame h => ?_⟩
    · show Closed (status o)
      rw [hstatus]
      exact hm.fits.closed hsame h
    · show (status o).phase = .completed
      rw [hstatus]
      exact hm.fits.completed hsame h
  active hq := by
    show planned o = true ∧ ¬ Closed (status o)
    rw [hstatus, hplanned]
    exact hm.active hq

theorem open_of_not_pending {s : WorkflowStatus} {planned : Bool}
    (hvalid : validateRepositoryStatus s planned = .ok ())
    (hdone : ¬ (s.phase = .completed ∨ s.phase = .aborted)) (hpending : ¬ abortPending s = true) :
    ¬ Closed s := by
  simp only [abortPending, Bool.or_eq_true, decide_eq_true_eq, Bool.and_eq_true, not_or] at hpending
  unfold Closed workflowResumePhase
  by_cases hfailed : s.phase = .failed
  · have hresume := recoverable_of_failed hvalid hfailed
    rw [if_pos hfailed]
    intro hclosed
    rcases hclosed with haborting | haborted
    · exact hpending.2 ⟨hfailed, haborting⟩
    · simp [haborted, recoverablePhase] at hresume
  · rw [if_neg hfailed]
    intro hclosed
    rcases hclosed with haborting | haborted
    · exact hpending.1 haborting
    · exact hdone (.inr haborted)

/-- What a run can count on behind its first checks. -/
theorem Entered.active {Ω : Type} [RepositoryObject Ω] [LawfulRepositoryObject Ω] {w : World Ω}
    {m : Memory Ω} (hm : Entered m w) (hI : Inv p False w) (hvalid : validate m.object = .ok ())
    (hdone : ¬ (m.status.phase = .completed ∨ m.status.phase = .aborted))
    (hpending : ¬ abortPending m.status = true) (hplanned : planned m.object = true) :
    Inv p True w ∧ Carries True m w := by
  have hopen : ¬ Closed m.status := open_of_not_pending (validate_status _ hvalid) hdone hpending
  exact ⟨⟨hI.handed, hI.orderly, hI.closed, hI.completed, hI.lasting,
    fun _ haborted => hopen (hm.closed haborted)⟩, hvalid, hm.fits, fun _ => ⟨hplanned, hopen⟩⟩

/-! ## The validation of backups -/

variable {o : BackupObject}

theorem validateBackupObject_iff :
    validateBackupObject o = .ok () ↔
      validateBackupIntent o = .ok () ∧ validateRepositoryStatus o.lifecycle o.plan.isSome =
        .ok () ∧ validateBackupCheckpoints o = .ok () := by
  simp only [validateBackupObject, validateBackupStatus, andThen_eq_ok]

instance : LawfulRepositoryObject BackupObject where
  Copied _ := True
  status_withStatus _ _ := rfl
  planned_withStatus _ _ := rfl
  withStatus_status _ := rfl
  validate_status _ h := (validateBackupObject_iff.mp h).2.1
  validate_copied _ _ _ := trivial
  validate_withStatus o s h hs hgeneration _ := by
    obtain ⟨hintent, -, hcheckpoints⟩ := validateBackupObject_iff.mp h
    refine validateBackupObject_iff.mpr ⟨?_, hs, hcheckpoints⟩
    have hgeneration : s.observedGeneration = o.lifecycle.observedGeneration := hgeneration
    unfold validateBackupIntent at hintent ⊢
    show (do
      refuse (o.name = "" ∨ o.ns = "") _
      onlyIf (o.deleting = false) do
        refuse (s.observedGeneration ≠ 0 ∧ s.observedGeneration ≠ o.generation) _
        validateBackupSpecPlan o.spec o.plan) = _
    rw [hgeneration]
    exact hintent
  validateStatus_of_validate o h := by
    obtain ⟨-, hlifecycle, hcheckpoints⟩ := validateBackupObject_iff.mp h
    exact andThen_eq_ok.mpr ⟨hlifecycle, hcheckpoints⟩
  status_edited _ _ h := h.lifecycle
  validateStatus_edited o o' h hvalid := by
    have hsame : validateBackupStatus o' = validateBackupStatus o := by
      unfold validateBackupStatus validateBackupCheckpoints
      rw [h.lifecycle, h.plan, h.repository, h.mounts]
    exact hsame.trans hvalid

/-- Other shared mounts, each of them one that was there or one of the planned source. -/
theorem validateBackupObject_mounts {mounts : List SharedMount}
    (h : validateBackupObject o = .ok ())
    (hmounts : ∀ mount ∈ mounts, mount ∈ o.mounts ∨ ∃ plan, o.plan = some plan ∧
      MountMatches plan mount) :
    validateBackupObject { o with mounts := mounts } = .ok () := by
  obtain ⟨hintent, hlifecycle, hcheckpoints⟩ := validateBackupObject_iff.mp h
  refine validateBackupObject_iff.mpr ⟨hintent, hlifecycle, ?_⟩
  unfold validateBackupCheckpoints at hcheckpoints ⊢
  cases hplan : o.plan with
  | none =>
    simp only [hplan, refuse_eq_ok, not_or, not_not] at hcheckpoints ⊢
    refine ⟨hcheckpoints.1, List.eq_nil_iff_forall_not_mem.mpr fun mount hmount => ?_⟩
    rcases hmounts mount hmount with hbefore | ⟨plan, hsome, -⟩
    · rw [hcheckpoints.2] at hbefore
      cases hbefore
    · rw [hplan] at hsome
      cases hsome
  | some plan =>
    simp only [hplan, andThen_eq_ok, forM_eq_ok, refuse_eq_ok, not_not] at hcheckpoints ⊢
    refine ⟨hcheckpoints.1, fun mount hmount => ?_⟩
    rcases hmounts mount hmount with hbefore | ⟨plan', hsome, hmatches⟩
    · exact hcheckpoints.2 mount hbefore
    · rw [hplan] at hsome
      cases hsome
      exact hmatches

/-- The binding to a repository does not matter, once there is a plan. -/
theorem validateBackupObject_repository {plan : BackupPlan} {b : Binding}
    (h : validateBackupObject o = .ok ()) (hplan : o.plan = some plan) :
    validateBackupObject { o with repository := some b } = .ok () := by
  obtain ⟨hintent, hlifecycle, hcheckpoints⟩ := validateBackupObject_iff.mp h
  refine validateBackupObject_iff.mpr ⟨hintent, hlifecycle, ?_⟩
  unfold validateBackupCheckpoints at hcheckpoints ⊢
  simpa only [hplan] using hcheckpoints

/-! ## The calls of backups -/

namespace BackupExecutor

variable {config : BackupConfig} {m : Mem} {w : World BackupObject} {plan : BackupPlan}

/-- The copy differs in the shared mounts only. -/
def Remounted (m m' : Mem) : Prop := ∃ mounts, m'.object = { m.object with mounts := mounts }

variable {m' : Mem} {mount : SharedMount}

theorem Remounted.status (h : Remounted m m') : m'.status = m.status := by
  obtain ⟨mounts, hobject⟩ := h
  show m'.object.lifecycle = m.object.lifecycle
  rw [hobject]

theorem Remounted.plan_eq (h : Remounted m m') : m'.object.plan = m.object.plan := by
  obtain ⟨mounts, hobject⟩ := h
  rw [hobject]

theorem keeps_saveMounts {mounts : List SharedMount} (hI : Inv p q w) (hm : Carries q m w)
    (hmounts : ∀ mount ∈ mounts, mount ∈ m.object.mounts ∨ ∃ plan, m.object.plan = some plan ∧
      MountMatches plan mount) :
    Safe p q (save (setMounts m mounts) m)
      (fun w' m' => m'.object = { m.object with mounts := mounts } ∧ Carries q m' w') w :=
  keeps_save hI hm (hm.follows (validateBackupObject_mounts hm.valid hmounts) rfl rfl)

section

variable (hI : Inv p q w) (hm : Carries q m w)
include hI hm

theorem keeps_restoreOne {s : List SharedMount × Option Error} :
    Safe p q (restoreOne m s mount)
      (fun w' s' => Carries q m w' ∧ (s'.1 = s.1 ∨ s'.1 = s.1 ++ [mount])) w := by
  refine (keeps_contextErr guard_carries hI hm).bind fun w1 _ hI1 hm1 => ?_
  refine (keeps_read rfl hI1 guard_carries.stable hm1).bind fun w2 failed hI2 hm2 => ?_
  refine (keeps_contextErr guard_carries hI2 hm2.1).bind fun w3 _ hI3 hm3 => ?_
  cases failed with
  | none => exact ⟨hI3, hm3, .inl rfl⟩
  | some e => exact ⟨hI3, hm3, .inr rfl⟩

theorem keeps_storeRemaining {remaining : List SharedMount} {result : Option Error}
    (hremaining : ∀ x ∈ remaining, x ∈ m.object.mounts) :
    Safe p q (storeRemaining m remaining result)
      (fun w' m' => Remounted m m' ∧ Carries q m' w') w := by
  refine (keeps_saveMounts hI hm fun x hx => .inl (hremaining x hx)).bind fun w1 m' hI1 hm' => ?_
  obtain ⟨hobject, hm'⟩ := hm'
  refine (keeps_read rfl hI1 guard_carries.stable hm').bind fun w2 e hI2 hm2 => ?_
  -- an error after the save puts the old mounts back
  have hback : Carries q (setMounts m' m.object.mounts) w2 := by
    apply hm2.1.set
    · rw [hobject]
      exact hm.valid
    · rfl
    · rfl
  refine (keeps_report hI2 hm2.1 (fun _ => hback) e).bind fun w3 _ hI3 hm3 => ?_
  refine (keeps_report hI3 hm3 (fun _ => hm3) result).bind fun w4 _ hI4 hm4 => ?_
  exact ⟨hI4, ⟨remaining, hobject⟩, hm4⟩

/-- The mounts that are given back, in whatever order, leave some of those that were there. -/
theorem keeps_restoreSharedMounts :
    Safe p q (restoreSharedMounts config m) (fun w' m' => Remounted m m' ∧ Carries q m' w') w := by
  refine (keeps_contextErr guard_carries hI hm).bind fun w1 _ hI1 hm1 => ?_
  refine keeps_ite (fun _ => ⟨hI1, ⟨m.object.mounts, rfl⟩, hm1⟩) fun _ => ?_
  refine keeps_reject_bind hI1 (fun _ => hm1) fun _ => ?_
  have hloop : Safe p q (fold (restoreOne m) (([], none) : List SharedMount × Option Error)
      m.object.mounts.reverse)
    (fun w' s => Carries q m w' ∧ ∀ x ∈ s.1, x ∈ m.object.mounts) w1 := by
    refine (keeps_fold (L := fun rest w' s => Carries q m w' ∧
      ∀ x, x ∈ rest ∨ x ∈ s.1 → x ∈ m.object.mounts) ?_ hI1 ⟨hm1, by simp⟩).imp ?_
      fun _ _ _ h => h
    · intro mount rest w3 s hI3 hs
      refine (keeps_restoreOne hI3 hs.1).post fun w4 s' hs' => ?_
      refine ⟨hs'.1, fun x hx => ?_⟩
      rcases hs'.2 with hsame | hmore
      · rw [hsame] at hx
        exact hs.2 x (hx.imp_left (List.mem_cons_of_mem _))
      · rw [hmore, List.mem_append, List.mem_singleton] at hx
        apply hs.2 x
        rcases hx with hrest | hbefore | rfl
        · exact .inl (List.mem_cons_of_mem _ hrest)
        · exact .inr hbefore
        · exact .inl List.mem_cons_self
    · intro w3 s _ hs
      exact ⟨hs.1, fun x hx => hs.2 x (.inr hx)⟩
  refine hloop.bind fun w3 left hI3 hleft => ?_
  exact keeps_storeRemaining hI3 hleft.1 fun x hx => hleft.2 x (List.mem_reverse.mp hx)

end

theorem keeps_validateSharedRestore {P : World BackupObject → Prop}
    {E : World BackupObject → Error × Mem → Prop} (hg : Guard P E m) (hI : Inv p q w) (hP : P w) :
    (validateSharedRestore config m).Keeps Observed (Inv p q) (fun w' _ => P w') E w := by
  refine keeps_ite (fun _ => ⟨hI, hP⟩) fun _ => ?_
  refine keeps_reject_bind hI (fun _ => hg.fails _ hP) fun _ => ?_
  exact keeps_each (fun mount _ w2 hI2 hP2 => keeps_service hg hI2 hP2 _) hI hP

section

variable (hI : Inv p q w) (hm : Carries q m w)
include hI hm

/-- A mount that cannot be shared is withdrawn, or stays in the copy. -/
theorem keeps_withdrawShared {previous : Mem} {failed : Error}
    (hprevious : ∀ x ∈ previous.object.mounts, x ∈ m.object.mounts) :
    Safe p q (withdrawShared m previous mount failed)
      (fun w' m' => Remounted m m' ∧ Carries q m' w') w := by
  refine (keeps_read rfl hI guard_carries.stable hm).bind fun w1 owned hI1 hm1 => ?_
  have hsave : Safe p q (save (setMounts m previous.object.mounts) m >>= fun m' =>
    fail (failed, m')) (fun w' m' => Remounted m m' ∧ Carries q m' w') w1 := by
    refine (keeps_saveMounts hI1 hm1.1 fun x hx => .inl (hprevious x hx)).bind ?_
    intro w2 m' hI2 hm'
    exact ⟨hI2, hm'.2⟩
  rcases owned with e | owned
  · exact keeps_ite (fun _ => hsave) fun _ => ⟨hI1, hm1.1⟩
  · cases owned with
    | true => exact ⟨hI1, hm1.1⟩
    | false => exact hsave

theorem keeps_shareSource (hplan : m.object.plan = some plan) (hmount : MountMatches plan mount) :
    Safe p q (shareSource m mount) (fun w' m' => Remounted m m' ∧ Carries q m' w') w := by
  have hmounts : ∀ x ∈ m.object.mounts ++ [mount], x ∈ m.object.mounts ∨
      ∃ plan, m.object.plan = some plan ∧ MountMatches plan x := by
    intro x hx
    rw [List.mem_append, List.mem_singleton] at hx
    rcases hx with hbefore | rfl
    · exact .inl hbefore
    · exact .inr ⟨plan, hplan, hmount⟩
  refine (keeps_saveMounts hI hm hmounts).bind fun w1 m' hI1 hm' => ?_
  obtain ⟨hobject, hm'⟩ := hm'
  refine (keeps_contextErr guard_carries hI1 hm').bind fun w2 _ hI2 hm2 => ?_
  refine (keeps_read rfl hI2 guard_carries.stable hm2).bind fun w3 failed hI3 hm3 => ?_
  cases failed with
  | none => exact ⟨hI3, ⟨_, hobject⟩, hm3.1⟩
  | some e =>
    have hkept : ∀ x ∈ m.object.mounts, x ∈ m'.object.mounts := by
      intro x hx
      rw [hobject]
      exact List.mem_append_left _ hx
    refine (keeps_withdrawShared hI3 hm3.1 hkept).post fun w4 m'' hm'' => ?_
    obtain ⟨⟨mounts, hobject'⟩, hm''⟩ := hm''
    exact ⟨⟨mounts, by rw [hobject', hobject]⟩, hm''⟩

theorem keeps_resumeShared :
    Safe p q (resumeShared m mount) (fun w' m' => m' = m ∧ Carries q m' w') w := by
  have hinspect : Safe p q (inspectBackupSharedMount m mount) (fun w' _ => Carries q m w') w := by
    refine (keeps_read rfl hI guard_carries.stable hm).bind fun w1 shared hI1 hm1 => ?_
    rcases shared with e | shared
    · refine keeps_reject_bind hI1 (fun _ => hm1.1) fun _ => ?_
      exact (keeps_service guard_carries hI1 hm1.1 _).bind fun w3 _ hI3 hm3 => ⟨hI3, hm3⟩
    · cases shared with
      | true | false => exact ⟨hI1, hm1.1⟩
  refine hinspect.bind fun w1 needsEnable hI1 hm1 => ?_
  apply keeps_ite
  · intro _
    exact (keeps_service guard_carries hI1 hm1 _).bind fun w2 _ hI2 hm2 => ⟨hI2, rfl, hm2⟩
  · intro _
    exact ⟨hI1, rfl, hm1⟩

end

variable {info : PVCInfo}

/-- The checkpoint of a source that has to be shared is that of the planned source. -/
theorem mountMatches_sharedMount {volume : LVMVolume} {needsChange : Bool}
    (hname : info.pv.name = plan.sourcePV.name) (huid : info.pv.uid = plan.sourcePV.uid)
    (hvolume : volume.name ≠ "") (hneeds : needsShared volume = .ok needsChange) :
    MountMatches plan (sharedMount info.pv volume) := by
  unfold needsShared at hneeds
  rw [andThen_eq_ok, refuse_eq_ok] at hneeds
  exact ⟨hname, huid, hvolume, hneeds.1⟩

theorem keeps_prepareSource {enableShared : Bool} (hI : Inv p q w) (hm : Carries q m w)
    (hplan : m.object.plan = some plan) (hname : info.pv.name = plan.sourcePV.name)
    (huid : info.pv.uid = plan.sourcePV.uid) :
    Safe p q (prepareSource m enableShared info)
      (fun w' m' => Remounted m m' ∧ Carries q m' w') w := by
  refine (keeps_read rfl hI guard_carries.stable hm).bind fun w1 found hI1 hm1 => ?_
  refine keeps_orFail_bind hI1 (fun _ => hm1.1) fun volume hfound => ?_
  refine keeps_orFail_bind hI1 (fun _ => hm1.1) fun needsChange hneeds => ?_
  refine keeps_ite (fun _ => ⟨hI1, ⟨_, rfl⟩, hm1.1⟩) fun _ => ?_
  refine keeps_reject_bind hI1 (fun _ => hm1.1) fun _ => ?_
  exact keeps_shareSource hI1 hm1.1 hplan
    (mountMatches_sharedMount hname huid (hm1.2 volume hfound) hneeds)

theorem keeps_prepareBackupSharedMounts {enableShared : Bool} (hI : Inv p q w) (hm : Carries q m w)
    (hplan : m.object.plan = some plan) (hname : info.pv.name = plan.sourcePV.name)
    (huid : info.pv.uid = plan.sourcePV.uid) :
    Safe p q (prepareBackupSharedMounts config m enableShared info)
      (fun w' m' => Remounted m m' ∧ Carries q m' w') w := by
  refine (keeps_contextErr guard_carries hI hm).bind fun w1 _ hI1 hm1 => ?_
  refine keeps_ite (fun _ => ⟨hI1, ⟨_, rfl⟩, hm1⟩) fun _ => ?_
  refine keeps_reject_bind hI1 (fun _ => hm1) fun _ => ?_
  split
  · refine (keeps_resumeShared hI1 hm1).post fun w3 m' hm' => ?_
    obtain ⟨rfl, hm'⟩ := hm'
    exact ⟨⟨_, rfl⟩, hm'⟩
  · exact keeps_prepareSource hI1 hm1 hplan hname huid

/-- The copy of a run still has its plan. -/
abbrev Planned (plan : BackupPlan) : World BackupObject → Mem → Prop :=
  Running fun o => o.plan = some plan

theorem Remounted.running {w' : World BackupObject} (h : m.object.plan = some plan)
    (hm' : Remounted m m' ∧ Carries True m' w') : Planned plan w' m' :=
  ⟨hm'.1.plan_eq.trans h, hm'.2⟩

section

variable (hI : Inv p True w)
include hI

theorem keeps_complete (hm : Planned plan w m) :
    Safe p True (complete config m) (Planned plan) w := by
  refine (keeps_toolsStopped guard_running hI hm).bind fun w1 _ hI1 hm1 => ?_
  refine (keeps_service guard_running hI1 hm1 _).bind fun w2 _ hI2 hm2 => ?_
  refine (keeps_restoreSharedMounts hI2 hm2.carries).bind fun w3 m3 hI3 hm3 => ?_
  refine (running_reactivate (fun _ _ h => h) (Remounted.running hm.kept hm3) hI3).bind ?_
  intro w4 m4 hI4 hm4
  refine (running_checkpointFrom (fun _ _ h => h) hm4 hI4 (by simp) (by simp) (by simp)).bind ?_
  intro w5 m5 hI5 hm5
  refine (running_checkpointFrom (fun _ _ h => h) hm5 hI5 (by simp) (fun _ => trivial)
    (by simp)).bind fun w6 m6 hI6 hm6 => ?_
  exact running_checkpointRepositoryPhase (fun _ _ h => h) hm6 hI6 (by simp) (by simp) (by simp)

theorem keeps_validateSource (hm : Carries True m w) :
    Safe p True (validateSource m plan)
      (fun w' info => Carries True m w' ∧ info.pv.name = plan.sourcePV.name ∧
        info.pv.uid = plan.sourcePV.uid) w := by
  refine (keeps_service guard_carries hI hm _).bind fun w1 _ hI1 hm1 => ?_
  refine (keeps_read rfl hI1 guard_carries.stable hm1).bind fun w2 found hI2 hm2 => ?_
  refine keeps_orFail_bind hI2 (fun _ => hm2.1) fun info _ => ?_
  refine keeps_reject_bind hI2 (fun _ => hm2.1) fun hidentity => ?_
  refine (keeps_service guard_carries hI2 hm2.1 _).bind fun w5 _ hI5 hm5 => ?_
  simp only [not_or, not_not] at hidentity
  exact ⟨hI5, hm5, hidentity.2.2, hidentity.2.1⟩

theorem keeps_transferSource (hm : Planned plan w m) :
    Safe p True (transferSource config m plan) (Planned plan) w := by
  refine (keeps_validateSource hI hm.carries).bind fun w1 info hI1 hinfo => ?_
  have hm1 : Planned plan w1 m := ⟨hm.kept, hinfo.1⟩
  refine (running_reactivate (fun _ _ h => h) hm1 hI1).bind fun w2 m2 hI2 hm2 => ?_
  refine (running_checkpointFrom (fun _ _ h => h) hm2 hI2 (by simp) (by simp) (by simp)).bind ?_
  intro w3 m3 hI3 hm3
  refine (keeps_prepareBackupSharedMounts hI3 hm3.carries hm3.kept hinfo.2.1 hinfo.2.2).bind ?_
  intro w4 m4 hI4 hm4
  refine (running_checkpointFrom (fun _ _ h => h) (Remounted.running hm3.kept hm4) hI4 (by simp)
    (fun _ => trivial) (by simp)).bind fun w5 m5 hI5 hm5 => ?_
  refine (keeps_transfer hI5 trivial hm5.carries).bind fun w6 failed hI6 hm6 => ?_
  refine (keeps_report hI6 hm6 (fun _ => hm6) failed).bind fun w7 _ hI7 hm7 => ?_
  exact keeps_complete hI7 ⟨hm5.kept, hm7⟩

theorem keeps_runTransfer (hm : Planned plan w m) :
    Safe p True (runTransfer config m plan) (Planned plan) w := by
  refine (keeps_read rfl hI guard_running.stable hm).bind fun w1 resolved hI1 hm1 => ?_
  refine keeps_orFail_bind hI1 (fun _ => hm1.1.carries) fun binding _ => ?_
  refine (keeps_pinRepository hI1 hm1.1.carries fun b =>
    ⟨validateBackupObject_repository hm.carries.valid hm.kept, rfl, rfl⟩).bind ?_
  intro w3 m3 hI3 hm3
  have hm3 : Planned plan w3 m3 := by
    refine ⟨?_, hm3.2⟩
    rcases hm3.1 with rfl | ⟨b, hobject⟩
    · exact hm.kept
    · rw [hobject]
      exact hm.kept
  refine (keeps_read rfl hI3 guard_running.stable hm3).bind fun w4 found hI4 hm4 => ?_
  refine keeps_orFail_bind hI4 (fun _ => hm4.1.carries) fun manifest _ => ?_
  cases manifest with
  | none => exact keeps_transferSource hI4 hm4.1
  | some session =>
    refine keeps_reject_bind hI4 (fun _ => hm4.1.carries) fun _ => ?_
    exact (keeps_service guard_running hI4 hm4.1 _).bind fun w7 _ hI7 hm7 => keeps_complete hI7 hm7

theorem keeps_finish {result : Option Error} (hm : Carries True m w) :
    Safe p True (finish config m result) (fun w' m' => Carries True m' w') w := by
  refine (keeps_read rfl hI guard_carries.stable hm).bind fun w1 fence hI1 hm1 => ?_
  cases fence with
  | some e => exact ⟨hI1, hm1.1⟩
  | none =>
    have hmounts : Safe p True (toolsStopped m >>= fun _ => restoreSharedMounts config m)
      (fun w' m' => Carries True m' w') w1 := by
      refine (keeps_toolsStopped guard_carries hI1 hm1.1).bind fun w2 _ hI2 hm2 => ?_
      exact (keeps_restoreSharedMounts hI2 hm2).post fun _ _ h => h.2
    refine hmounts.handle ?_ ?_
    · intro w2 m' hI2 hm'
      exact keeps_recordOutcome hI2 hm' (hm'.active trivial).1
    · intro w2 failed hI2 hfailed
      exact keeps_recordOutcome hI2 hfailed (hfailed.active trivial).1

end

section

variable (hI : Inv p False w)
include hI

theorem keeps_validateAbort (hm : Fits m w) :
    (validateAbort config m).Keeps Observed (Inv p False)
      (fun w' _ => Carries False m w' ∧ m.status.phase ≠ .completed) Anyhow w := by
  refine keeps_orFail_bind hI (fun _ => trivial) fun _ hvalid => ?_
  refine keeps_reject_bind hI (fun _ => trivial) fun hphase => ?_
  have hm2 := hm.carries hvalid
  have hg : Guard (Carries False m) Anyhow m := ⟨guard_carries.stable, fun _ _ => trivial⟩
  refine (keeps_toolsStopped hg hI hm2).bind fun w3 _ hI3 hm3 => ?_
  exact (keeps_validateSharedRestore hg hI3 hm3).post fun _ _ h => ⟨h, hphase⟩

theorem keeps_beginAbort (hm : Carries False m w) (hphase : m.status.phase ≠ .completed) :
    Safe p False (beginAbort m)
      (fun w' m' => (m'.status.phase = .aborted ∨ planned m'.object = true) ∧
        Carries False m' w') w := by
  refine keeps_ite (fun haborted => ⟨hI, .inl haborted, hm⟩) fun _ => ?_
  apply keeps_ite
  · intro hnone
    have hplanned : planned m.object = false := by
      show m.object.plan.isSome = false
      rw [hnone]
      rfl
    refine (keeps_abortUnplanned hI hm hplanned hphase).post fun w' m' hm' => ?_
    exact ⟨.inl hm'.1.2, hm'.2⟩
  · intro hsome
    have hplanned : planned m.object = true := Option.isSome_iff_ne_none.mpr hsome
    refine (keeps_checkpointRepositoryPhase hI hm hplanned (by simp) (by simp) False.elim).imp ?_
      fun _ _ _ h => h
    intro w' m' _ hm'
    exact ⟨.inr (hm'.1.1.planned.trans hplanned), hm'.2⟩

theorem keeps_abort (hm : Fits m w) :
    (abort config m).Keeps Observed (Inv p False) (fun w' m' => Carries False m' w') Anyhow w := by
  refine (keeps_validateAbort hI hm).bind fun w1 _ hI1 hm1 => ?_
  have hrest : Safe p False (beginAbort m >>= fun m => do
      let m ← restoreSharedMounts config m
      if m.status.phase = .aborted then pure m
      else
        checkpointRepositoryPhase m .aborted
          "backup aborted; any published recovery point is retained")
    (fun w' m' => Carries False m' w') w1 := by
    refine (keeps_beginAbort hI1 hm1.1 hm1.2).bind fun w2 m2 hI2 hm2 => ?_
    refine (keeps_restoreSharedMounts hI2 hm2.2).bind fun w3 m3 hI3 hm3 => ?_
    refine keeps_ite (fun _ => ⟨hI3, hm3.2⟩) fun hphase => ?_
    have hplanned : planned m3.object = true := by
      rcases hm2.1 with haborted | hplanned
      · exact absurd (hm3.1.status ▸ haborted) hphase
      · show m3.object.plan.isSome = true
        rw [hm3.1.plan_eq]
        exact hplanned
    exact (keeps_checkpointRepositoryPhase hI3 hm3.2 hplanned (by simp) (by simp)
      False.elim).post fun _ _ h => h.2
  exact hrest.imp (fun _ _ _ h => h) fun _ _ _ _ => trivial

theorem calm_run (hm : Entered m w)
    (hvalid : validateBackupObject m.object = .ok ()) : Calm p (run config m) w := by
  refine keeps_ite (fun _ => ⟨hI, trivial⟩) fun hdone => ?_
  refine keeps_ite (fun _ => calm_of_keeps (keeps_abort hI hm.fits)) fun hpending => ?_
  split
  · exact ⟨hI, trivial⟩
  · rename_i plan hplan
    obtain ⟨hI', hm'⟩ := hm.active hI hvalid hdone hpending
      (Option.isSome_iff_exists.mpr ⟨plan, hplan⟩)
    apply calm_of_keeps (A := fun w' m' => Carries True m' w') (E := Fails True)
    refine (keeps_runTransfer hI' ⟨hplan, hm'⟩).handle ?_ ?_
    · intro w1 m1 hI1 hm1
      exact keeps_finish hI1 hm1.carries
    · intro w1 failed hI1 hfailed
      exact keeps_finish hI1 hfailed

theorem calm_cleanup {options : BackupCleanupOptions} (hm : Fits m w) :
    Calm p (cleanup config options m) w := by
  have hg : Guard (Carries False m) Anyhow m := ⟨guard_carries.stable, fun _ _ => trivial⟩
  have hvalidate : (validateCleanup config options m).Keeps Observed (Inv p False)
      (fun w' _ => Carries False m w') Anyhow w := by
    refine keeps_orFail_bind hI (fun _ => trivial) fun _ hvalid => ?_
    have hm1 : Carries False m w := ⟨hvalid, hm, False.elim⟩
    refine keeps_reject_bind hI (fun _ => trivial) fun _ => ?_
    refine keeps_reject_bind hI (fun _ => trivial) fun _ => ?_
    refine (keeps_toolsStopped hg hI hm1).bind fun w4 _ hI4 hm4 => ?_
    refine (keeps_validateSharedRestore hg hI4 hm4).bind fun w5 _ hI5 hm5 => ?_
    exact keeps_onlyWhen hI5 hm5 (keeps_service hg hI5 hm5 _)
  have hany : ∀ {m' : Mem}, Guard (fun _ => True) Anyhow m' :=
    ⟨fun _ _ => trivial, fun _ _ => trivial⟩
  refine hvalidate.bind fun w1 _ hI1 hm1 => ?_
  refine (keeps_service hg hI1 hm1 _).bind fun w2 _ hI2 hm2 => ?_
  refine ((keeps_restoreSharedMounts hI2 hm2).imp (fun _ _ _ h => h)
    fun _ _ _ _ => trivial).bind fun w3 m3 hI3 _ => ?_
  refine (keeps_onlyWhen hI3 trivial (keeps_service hany hI3 trivial _)).bind fun w4 _ hI4 _ => ?_
  exact keeps_ite (fun _ => calm_deleteSession hI4) fun _ => ⟨hI4, trivial⟩

end

end BackupExecutor

/-- **Every call of a backup executor keeps the invariant.** -/
theorem calm_backupCall (config : BackupConfig) :
    ∀ call ∈ backupCalls config, ∀ w m, Inv p False w → Fits m w → Calm p (call m) w := by
  intro program hprogram w m hI hm
  obtain ⟨call, rfl⟩ := hprogram
  exact calm_program (fun _ _ => BackupExecutor.calm_run) (fun _ _ => BackupExecutor.keeps_abort)
    (fun _ _ _ hI hm => BackupExecutor.calm_cleanup hI hm) call hI hm

/-! ## The validation of restores -/

variable {o : RestoreObject}

theorem validateRestoreObject_iff :
    validateRestoreObject o = .ok () ↔
      validateRestoreIntent o = .ok () ∧
        validateRepositoryStatus o.lifecycle o.plan.isSome = .ok () ∧
        validateRestoreCheckpoints o = .ok () := by
  simp only [validateRestoreObject, validateRestoreStatus, andThen_eq_ok]

/-- The checkpoints that a restore with a plan may have. -/
structure CheckpointsMatch (o : RestoreObject) (plan : RestorePlan) : Prop where
  location : ¬ (plan.destinationPVC.name = "" ∨
    (plan.createPVC = false ∧ plan.destinationPVC.uid = "") ∨ plan.repositoryRef = "" ∨
      plan.name = "")
  claim : ∀ ref ∈ o.destinationPVC, DestinationMatches o.ns plan ref
  volume : ∀ ref ∈ o.destinationPV, o.destinationPVC ≠ none ∧ VolumeMatches ref
  copied : workflowResumePhase o.lifecycle = .warmCopied ∨
    workflowResumePhase o.lifecycle = .completed → o.destinationPVC ≠ none ∧ o.destinationPV ≠ none

variable {plan : RestorePlan}

theorem validateRestoreCheckpoints_planned (hplan : o.plan = some plan) :
    validateRestoreCheckpoints o = .ok () ↔ CheckpointsMatch o plan := by
  unfold validateRestoreCheckpoints
  simp only [hplan, validatePlannedCheckpoints, andThen_eq_ok, refuse_eq_ok]
  constructor
  · intro h
    obtain ⟨hlocation, hclaim, hvolume, hcopied⟩ := h
    push Not at hclaim hvolume hcopied
    exact ⟨hlocation, hclaim, hvolume, hcopied⟩
  · intro h
    refine ⟨h.location, ?_, ?_, ?_⟩
    · push Not
      exact h.claim
    · push Not
      exact h.volume
    · push Not
      exact h.copied

instance : LawfulRepositoryObject RestoreObject where
  Copied o := o.destinationPVC ≠ none ∧ o.destinationPV ≠ none
  status_withStatus _ _ := rfl
  planned_withStatus _ _ := rfl
  withStatus_status _ := rfl
  validate_status _ h := (validateRestoreObject_iff.mp h).2.1
  validate_copied o h hdone := by
    obtain ⟨-, hlifecycle, hcheckpoints⟩ := validateRestoreObject_iff.mp h
    cases hplan : o.plan with
    | some plan => exact ((validateRestoreCheckpoints_planned hplan).mp hcheckpoints).copied hdone
    | none =>
      -- a workflow without a plan has not copied anything
      rw [hplan] at hlifecycle
      have hdone : workflowResumePhase o.lifecycle = .warmCopied ∨
          workflowResumePhase o.lifecycle = .completed := hdone
      rcases (validateRepositoryStatus_unplanned.mp hlifecycle).2 with hfresh | hbegun
      · simp [workflowResumePhase, hfresh.1] at hdone
      · rcases hbegun.2.2.2.2 with hpoint | hpoint | hpoint <;> simp [hpoint] at hdone
  validate_withStatus o s h hs hgeneration hcopied := by
    obtain ⟨hintent, -, hcheckpoints⟩ := validateRestoreObject_iff.mp h
    have hgeneration : s.observedGeneration = o.lifecycle.observedGeneration := hgeneration
    refine validateRestoreObject_iff.mpr ⟨?_, hs, ?_⟩
    · unfold validateRestoreIntent at hintent ⊢
      show (do
        refuse (o.name = "" ∨ o.ns = "") _
        onlyIf (o.deleting = false) do
          refuse (s.observedGeneration ≠ 0 ∧ s.observedGeneration ≠ o.generation) _
          validateRestoreSpecPlan o.spec o.plan) = _
      rw [hgeneration]
      exact hintent
    · cases hplan : o.plan with
      | none =>
        show validateRestoreCheckpoints { o with lifecycle := s } = .ok ()
        unfold validateRestoreCheckpoints at hcheckpoints ⊢
        simpa only [hplan] using hcheckpoints
      | some plan =>
        have hmatch := (validateRestoreCheckpoints_planned hplan).mp hcheckpoints
        refine (validateRestoreCheckpoints_planned (o := { o with lifecycle := s }) hplan).mpr ?_
        exact ⟨hmatch.location, hmatch.claim, hmatch.volume, hcopied⟩
  validateStatus_of_validate o h := by
    obtain ⟨-, hlifecycle, hcheckpoints⟩ := validateRestoreObject_iff.mp h
    exact andThen_eq_ok.mpr ⟨hlifecycle, hcheckpoints⟩
  status_edited _ _ h := h.lifecycle
  validateStatus_edited o o' h hvalid := by
    have hsame : validateRestoreStatus o' = validateRestoreStatus o := by
      unfold validateRestoreStatus validateRestoreCheckpoints validatePlannedCheckpoints
      rw [h.lifecycle, h.plan, h.repository, h.destinationPVC, h.destinationPV, h.ns]
    exact hsame.trans hvalid

section

variable (h : validateRestoreObject o = .ok ()) (hplan : o.plan = some plan)
include h hplan

theorem validateRestoreObject_checkpoints {o' : RestoreObject} (hns : o'.ns = o.ns)
    (hname : o'.name = o.name) (hdeleting : o'.deleting = o.deleting)
    (hgeneration : o'.generation = o.generation) (hspec : o'.spec = o.spec)
    (hplan' : o'.plan = o.plan) (hlifecycle : o'.lifecycle = o.lifecycle)
    (hmatch : CheckpointsMatch o plan → CheckpointsMatch o' plan) :
    validateRestoreObject o' = .ok () := by
  obtain ⟨hintent, hvalid, hcheckpoints⟩ := validateRestoreObject_iff.mp h
  refine validateRestoreObject_iff.mpr ⟨?_, ?_, ?_⟩
  · unfold validateRestoreIntent at hintent ⊢
    rw [hns, hname, hdeleting, hgeneration, hspec, hplan', hlifecycle]
    exact hintent
  · rw [hlifecycle, hplan']
    exact hvalid
  · rw [validateRestoreCheckpoints_planned (hplan'.trans hplan)]
    exact hmatch ((validateRestoreCheckpoints_planned hplan).mp hcheckpoints)

theorem validateRestoreObject_repository {b : Binding} : validateRestoreObject
    { o with repository := some b } = .ok () :=
  validateRestoreObject_checkpoints h hplan rfl rfl rfl rfl rfl rfl rfl fun hmatch =>
    ⟨hmatch.location, hmatch.claim, hmatch.volume, hmatch.copied⟩

theorem validateRestoreObject_claim {ref : Reference} (href : DestinationMatches o.ns plan ref) :
    validateRestoreObject { o with destinationPVC := some ref } = .ok () := by
  refine validateRestoreObject_checkpoints h hplan rfl rfl rfl rfl rfl rfl rfl fun hmatch => ?_
  refine ⟨hmatch.location, ?_, ?_, ?_⟩
  · intro other hother
    cases hother
    exact href
  · intro other hother
    exact ⟨by simp, (hmatch.volume other hother).2⟩
  · intro hdone
    exact ⟨by simp, (hmatch.copied hdone).2⟩

/-- The checkpoints of a claim that is the planned destination, and of its volume. -/
theorem validateRestoreObject_destination {ref volume : Reference}
    (href : DestinationMatches o.ns plan ref) (hvolume : VolumeMatches volume) :
    validateRestoreObject { o with destinationPVC := some ref, destinationPV := some volume } =
      .ok () := by
  refine validateRestoreObject_checkpoints h hplan rfl rfl rfl rfl rfl rfl rfl fun hmatch => ?_
  refine ⟨hmatch.location, ?_, ?_, ?_⟩
  · intro other hother
    cases hother
    exact href
  · intro other hother
    cases hother
    exact ⟨by simp, hvolume⟩
  · intro _
    simp

end

/-! ## The calls of restores -/

namespace RestoreExecutor

variable {config : RestoreConfig} {m : Mem} {w : World RestoreObject} {plan : RestorePlan}
  {P : World RestoreObject → Prop} {E : World RestoreObject → Error × Mem → Prop}

variable {m' : Mem}

/-- The copy of a run still has its plan. -/
abbrev Planned (plan : RestorePlan) : World RestoreObject → Mem → Prop :=
  Running fun o => o.plan = some plan

/-- The destination that a run works on has the names of the planned one. -/
def Names (m : Mem) (plan : RestorePlan) (info : PVCInfo) : Prop :=
  info.pvc.ns = m.object.ns ∧ info.pvc.name = plan.destinationPVC.name ∧
    ((executionPlan m plan).destinationPVC.uid = "" ∨
      info.pvc.uid = (executionPlan m plan).destinationPVC.uid)

theorem name_executionPlan : (executionPlan m plan).destinationPVC.name =
    plan.destinationPVC.name := by
  unfold executionPlan
  split <;> rfl

variable {pvc : Claim}

theorem keeps_validateBoundDestination {expectedPV : Option Reference} (hg : Guard P E m)
    (hI : Inv p q w) (hP : P w) :
    (validateBoundDestination m pvc expectedPV).Keeps Observed (Inv p q)
      (fun w' info => P w' ∧ info.pvc.ns = pvc.ns ∧ info.pvc.name = pvc.name ∧
        info.pvc.uid = pvc.uid) E w := by
  refine (keeps_read rfl hI hg.stable hP).bind fun w1 found hI1 hP1 => ?_
  refine keeps_orFail_bind hI1 (fun e => hg.fails e hP1.1) fun info hfound => ?_
  refine keeps_reject_bind hI1 (fun _ => hg.fails _ hP1.1) fun hidentity => ?_
  refine (keeps_service hg hI1 hP1.1 _).bind fun w4 _ hI4 hP4 => ?_
  have hnames := hP1.2 info hfound
  rw [not_or, not_not] at hidentity
  exact ⟨hI4, hP4, hnames.1, hnames.2, hidentity.1⟩

theorem keeps_validateDestination {expectedPV : Option Reference} (hg : Guard P E m)
    (hI : Inv p q w) (hP : P w) :
    (validateDestination m (executionPlan m plan) expectedPV).Keeps Observed (Inv p q)
      (fun w' found => P w' ∧ ∀ info, found = some info → Names m plan info) E w := by
  refine (keeps_service hg hI hP _).bind fun w1 _ hI1 hP1 => ?_
  refine (keeps_getClaim hg hI1 hP1 _ _).bind fun w2 found hI2 hfound => ?_
  obtain ⟨hP2, hfound⟩ := hfound
  cases found with
  | none =>
    refine keeps_reject_bind hI2 (fun _ => hg.fails _ hP2) fun _ => ?_
    refine keeps_reject_bind hI2 (fun _ => hg.fails _ hP2) fun _ => ?_
    refine (keeps_service hg hI2 hP2 _).bind fun w5 _ hI5 hP5 => ?_
    exact ⟨hI5, hP5, by simp⟩
  | some pvc =>
    obtain ⟨hns, hname⟩ := hfound pvc rfl
    refine keeps_reject_bind hI2 (fun _ => hg.fails _ hP2) fun hidentity => ?_
    refine (keeps_onlyWhen hI2 hP2 (keeps_service hg hI2 hP2 _)).bind fun w4 _ hI4 hP4 => ?_
    apply keeps_ite
    · intro _
      refine (keeps_service hg hI4 hP4 _).bind fun w5 _ hI5 hP5 => ?_
      exact ⟨hI5, hP5, by simp⟩
    · intro _
      refine (keeps_validateBoundDestination hg hI4 hP4).bind fun w5 info hI5 hinfo => ?_
      refine ⟨hI5, hinfo.1, ?_⟩
      intro other hother
      cases hother
      refine ⟨hinfo.2.1.trans hns, hinfo.2.2.1.trans (hname.trans name_executionPlan), ?_⟩
      rw [hinfo.2.2.2]
      by_cases huid : (executionPlan m plan).destinationPVC.uid = ""
      · exact .inl huid
      · right
        by_contra hdiffers
        exact hidentity (.inr (.inr ⟨huid, hdiffers⟩))

theorem uid_executionPlan (hvalid : validateRestoreObject m.object = .ok ())
    (hplan : m.object.plan = some plan) :
    plan.destinationPVC.uid = "" ∨
      (executionPlan m plan).destinationPVC.uid = plan.destinationPVC.uid := by
  have hmatch := (validateRestoreCheckpoints_planned hplan).mp
    (validateRestoreObject_iff.mp hvalid).2.2
  unfold executionPlan
  split
  · exact .inr rfl
  · rename_i ref href
    exact (hmatch.claim ref href).2.2.2

section

variable (hI : Inv p True w) (hm : Planned plan w m)
include hI hm

theorem keeps_checkpointPVC : Safe p True (checkpointPVC m plan pvc) (Planned plan) w := by
  refine keeps_reject_bind hI (fun _ => hm.carries) fun hnames => ?_
  refine keeps_reject_bind hI (fun _ => hm.carries) fun _ => ?_
  refine keeps_reject_bind hI (fun _ => hm.carries) fun hidentity => ?_
  simp only [not_or, not_not, not_and] at hnames hidentity
  have hmatches : DestinationMatches m.object.ns plan pvc.reference := by
    refine ⟨hnames.2.2, hnames.2.1, hnames.1, ?_⟩
    by_cases huid : plan.destinationPVC.uid = ""
    · exact .inl huid
    · exact .inr (hidentity huid).symm
  have hvalid := validateRestoreObject_claim hm.carries.valid hm.kept hmatches
  refine (keeps_save hI hm.carries (hm.carries.follows hvalid rfl rfl)).post fun w4 m' hm' => ?_
  refine ⟨?_, hm'.2⟩
  rw [hm'.1]
  exact hm.kept

theorem keeps_checkpointAndBindRestorePVC :
    Safe p True (checkpointAndBindRestorePVC m plan pvc) (Planned plan) w := by
  refine (keeps_contextErr guard_running hI hm).bind fun w1 _ hI1 hm1 => ?_
  refine (keeps_checkpointPVC hI1 hm1).bind fun w2 m2 hI2 hm2 => ?_
  refine (keeps_contextErr guard_running hI2 hm2).bind fun w3 _ hI3 hm3 => ?_
  have hbind : Safe p True (bindRestorePVC m2 pvc) (fun w' _ => Planned plan w' m2) w3 := by
    refine keeps_reject_bind hI3 (fun _ => hm3.carries) fun _ => ?_
    refine keeps_ite (fun _ => ⟨hI3, hm3⟩) fun _ => ?_
    refine keeps_reject_bind hI3 (fun _ => hm3.carries) fun _ => ?_
    exact keeps_service guard_running hI3 hm3 _
  exact hbind.bind fun w4 _ hI4 hm4 => ⟨hI4, hm4⟩

theorem keeps_adoptRestorePVC : Safe p True (adoptRestorePVC m plan pvc) (Planned plan) w :=
  (keeps_service guard_running hI hm _).bind fun _ _ hI1 hm1 =>
    keeps_checkpointAndBindRestorePVC hI1 hm1

theorem keeps_createMissingPVC : Safe p True (createMissingPVC m plan) (Planned plan) w := by
  refine keeps_reject_bind hI (fun _ => hm.carries) fun _ => ?_
  refine (keeps_contextErr guard_running hI hm).bind fun w2 _ hI2 hm2 => ?_
  refine (keeps_read rfl hI2 guard_running.stable hm2).bind fun w3 created hI3 hm3 => ?_
  refine keeps_orFail_bind hI3 (fun _ => hm3.1.carries) fun pvc _ => ?_
  cases pvc with
  | none =>
    refine (keeps_getClaim guard_running hI3 hm3.1 _ _).bind fun w5 appeared hI5 hm5 => ?_
    cases appeared with
    | none => exact ⟨hI5, hm5.1.carries⟩
    | some pvc => exact keeps_adoptRestorePVC hI5 hm5.1
  | some pvc =>
    refine keeps_reject_bind hI3 (fun _ => hm3.1.carries) fun _ => ?_
    exact keeps_checkpointAndBindRestorePVC hI3 hm3.1

theorem keeps_createRestorePVC : Safe p True (createRestorePVC m plan) (Planned plan) w := by
  refine (keeps_contextErr guard_running hI hm).bind fun w1 _ hI1 hm1 => ?_
  refine (keeps_service guard_running hI1 hm1 _).bind fun w2 _ hI2 hm2 => ?_
  refine (keeps_getClaim guard_running hI2 hm2 _ _).bind fun w3 existing hI3 hm3 => ?_
  cases existing with
  | none => exact keeps_createMissingPVC hI3 hm3.1
  | some pvc =>
    refine keeps_reject_bind hI3 (fun _ => hm3.1.carries) fun _ => ?_
    exact keeps_adoptRestorePVC hI3 hm3.1

end

/-- A claim and a volume that are verified have the names and identities that were asked for. -/
theorem keeps_verifyPVCIdentity {ns name pvcUID pvUID : String} (hg : Guard P E m) (hI : Inv p q w)
    (hP : P w) :
    (verifyPVCIdentity m ns name pvcUID pvUID).Keeps Observed (Inv p q)
      (fun w' found => P w' ∧ found.1.ns = ns ∧ found.1.name = name ∧ found.1.uid = pvcUID ∧
        pvcUID ≠ "" ∧ VolumeMatches found.2.reference) E w := by
  refine keeps_reject_bind hI (fun _ => hg.fails _ hP) fun hgiven => ?_
  rw [not_or] at hgiven
  refine (keeps_getClaim hg hI hP _ _).bind fun w2 found hI2 hfound => ?_
  obtain ⟨hP2, hfound⟩ := hfound
  cases found with
  | none => exact ⟨hI2, hg.fails _ hP2⟩
  | some pvc =>
    obtain ⟨hns, hname⟩ := hfound pvc rfl
    refine keeps_reject_bind hI2 (fun _ => hg.fails _ hP2) fun huid => ?_
    refine keeps_reject_bind hI2 (fun _ => hg.fails _ hP2) fun _ => ?_
    refine keeps_reject_bind hI2 (fun _ => hg.fails _ hP2) fun hvolume => ?_
    refine (keeps_read rfl hI2 hg.stable hP2).bind fun w6 volume hI6 hP6 => ?_
    refine keeps_orFail_bind hI6 (fun e => hg.fails e hP6.1) fun pv hok => ?_
    refine keeps_reject_bind hI6 (fun _ => hg.fails _ hP6.1) fun hpvUID => ?_
    refine keeps_reject_bind hI6 (fun _ => hg.fails _ hP6.1) fun _ => ?_
    refine keeps_reject_bind hI6 (fun _ => hg.fails _ hP6.1) fun _ => ?_
    rw [not_not] at huid hpvUID
    have hpvName : pv.name = pvc.volumeName := hP6.2 pv hok
    have hmatches : VolumeMatches pv.reference := by
      refine ⟨?_, ?_, rfl⟩
      · show pv.name ≠ ""
        rw [hpvName]
        exact hvolume
      · show pv.uid ≠ ""
        rw [hpvUID]
        exact hgiven.2
    exact ⟨hI6, hP6.1, hns, hname, huid, hgiven.1, hmatches⟩

section

variable (hI : Inv p True w) (hm : Planned plan w m)
include hI hm

/-- The identities of a destination that is bound; afterwards both are stored. -/
theorem keeps_checkpointBoundDestination {info : PVCInfo} (hinfo : Names m plan info) :
    Safe p True (checkpointBoundDestination m info)
      (fun w' m' => Copied m'.object ∧ Planned plan w' m') w := by
  obtain ⟨hplan, hm⟩ := hm
  refine (keeps_contextErr guard_carries hI hm).bind fun w1 _ hI1 hm1 => ?_
  refine keeps_orFail_bind hI1 (fun _ => hm1) fun _ _ => ?_
  refine (keeps_verifyPVCIdentity guard_carries hI1 hm1).bind fun w3 verified hI3 hverified => ?_
  obtain ⟨hm3, hns, hname, huid, hnonempty, hvolume⟩ := hverified
  apply keeps_ite
  · intro hsame
    -- references have a kind, so that both are stored
    have hclaim : m.object.destinationPVC ≠ none := by
      intro hnone
      have hkind : "" = "PersistentVolumeClaim" := by
        simpa [hnone, Claim.reference] using congrArg Reference.kind hsame.1
      exact absurd hkind (by decide)
    have hpv : m.object.destinationPV ≠ none := by
      intro hnone
      have hkind : "" = "PersistentVolume" := by
        simpa [hnone, Volume.reference] using congrArg Reference.kind hsame.2
      exact absurd hkind (by decide)
    exact ⟨hI3, ⟨hclaim, hpv⟩, hplan, hm3⟩
  · intro _
    refine (keeps_contextErr guard_carries hI3 hm3).bind fun w4 _ hI4 hm4 => ?_
    have hmatches : DestinationMatches m.object.ns plan verified.1.reference := by
      refine ⟨hns.trans hinfo.1, hname.trans hinfo.2.1, ?_, ?_⟩
      · show verified.1.uid ≠ ""
        rw [huid]
        exact hnonempty
      · show plan.destinationPVC.uid = "" ∨ verified.1.uid = plan.destinationPVC.uid
        rcases uid_executionPlan hm.valid hplan with hempty | hsame
        · exact .inl hempty
        · rw [huid, ← hsame]
          by_cases hempty : (executionPlan m plan).destinationPVC.uid = ""
          · exact .inl hempty
          · exact .inr (hinfo.2.2.resolve_left hempty)
    have hvalid := validateRestoreObject_destination hm.valid hplan hmatches hvolume
    refine (keeps_save hI4 hm4 (hm4.follows hvalid rfl rfl)).bind fun w5 m' hI5 hm' => ?_
    obtain ⟨hobject, hm'⟩ := hm'
    refine (keeps_read rfl hI5 guard_carries.stable hm').bind fun w6 fence hI6 hm6 => ?_
    have hstatus : status m.object = m'.status := by
      show m.object.lifecycle = m'.object.lifecycle
      rw [hobject]
      rfl
    have hplanned : planned m.object = planned m'.object := by
      show m.object.plan.isSome = m'.object.plan.isSome
      rw [hobject]
      rfl
    have hback : Carries True (m'.set m.object) w6 := hm6.1.set hm.valid hstatus hplanned
    refine (keeps_report hI6 hm6.1 (fun _ => hback) fence).bind fun w7 _ hI7 hm7 => ?_
    refine ⟨hI7, ?_, ?_, hm7⟩
    · rw [hobject]
      exact ⟨by simp [Memory.set], by simp [Memory.set]⟩
    · rw [hobject]
      exact hplan

theorem keeps_complete : Safe p True (complete m) (Planned plan) w := by
  have hvalidate : Safe p True (validateTransferredDestination m)
      (fun w' _ => Planned plan w' m) w := by
    refine (keeps_toolsStopped guard_running hI hm).bind fun w1 _ hI1 hm1 => ?_
    split
    · refine (keeps_verifyPVCIdentity guard_running hI1 hm1).bind fun w2 current hI2 hm2 => ?_
      refine (keeps_reject hI2 fun _ => hm2.1.carries).post fun w3 _ hsame => ?_
      rw [hsame.1]
      exact hm2.1
    · exact ⟨hI1, hm1.carries⟩
  refine hvalidate.bind fun w1 _ hI1 hm1 => ?_
  refine (running_reactivate (fun _ _ h => h) hm1 hI1).bind fun w2 m2 hI2 hm2 => ?_
  exact running_checkpointRepositoryPhase (fun _ _ h => h) hm2 hI2 (by simp) (by simp) (by simp)

theorem keeps_provideDestination {found : Option PVCInfo}
    (hfound : ∀ info, found = some info → Names m plan info) :
    Safe p True (provideDestination m plan found)
      (fun w' r => Planned plan w' r.1 ∧ Names r.1 plan r.2) w := by
  cases found with
  | some info => exact ⟨hI, hm, hfound info rfl⟩
  | none =>
    refine (keeps_createRestorePVC hI hm).bind fun w1 m1 hI1 hm1 => ?_
    refine (keeps_validateDestination guard_running hI1 hm1).bind fun w2 found hI2 hfound => ?_
    cases found with
    | none => exact ⟨hI2, hfound.1.carries⟩
    | some info => exact ⟨hI2, hfound.1, hfound.2 info rfl⟩

end

theorem Names.restated {info : PVCInfo} (h : Names m plan info) (hm' : Restated m m') :
    Names m' plan info := by
  obtain ⟨s, hobject⟩ := hm'
  have hplan : executionPlan m' plan = executionPlan m plan := by
    unfold executionPlan
    rw [hobject]
    rfl
  unfold Names
  rw [hplan, hobject]
  exact h

theorem keeps_transferDestination (hI : Inv p True w) (hm : Planned plan w m) :
    Safe p True (transferDestination m plan) (Planned plan) w := by
  refine (keeps_read rfl hI guard_running.stable hm).bind fun w1 resolved hI1 hm1 => ?_
  refine keeps_orFail_bind hI1 (fun _ => hm1.1.carries) fun binding _ => ?_
  refine (keeps_pinRepository hI1 hm1.1.carries fun b =>
    ⟨validateRestoreObject_repository hm.carries.valid hm.kept, rfl, rfl⟩).bind ?_
  intro w3 m3 hI3 hm3
  have hm3 : Planned plan w3 m3 := by
    refine ⟨?_, hm3.2⟩
    rcases hm3.1 with rfl | ⟨b, hobject⟩
    · exact hm.kept
    · rw [hobject]
      exact hm.kept
  refine (keeps_service guard_running hI3 hm3 _).bind fun w4 _ hI4 hm4 => ?_
  refine (keeps_validateDestination guard_running hI4 hm4).bind fun w5 found hI5 hfound => ?_
  obtain ⟨hm5, hfound⟩ := hfound
  refine (keeps_reactivate hI5 hm5.carries).bind fun w6 m6 hI6 hm6 => ?_
  have hrunning6 : Planned plan w6 m6 := hm5.restated (fun _ _ h => h) hm6
  refine (keeps_checkpointFrom hI6 hm6.2 (hm6.2.active trivial).1 (by simp) (by simp)
    (by simp)).bind fun w7 m7 hI7 hm7 => ?_
  have hrunning7 : Planned plan w7 m7 := hrunning6.restated (fun _ _ h => h) hm7
  refine (keeps_service guard_running hI7 hrunning7 _).bind fun w8 _ hI8 hm8 => ?_
  have hnames : ∀ info, found = some info → Names m7 plan info := fun info h =>
    ((hfound info h).restated hm6.1).restated hm7.1
  refine (keeps_provideDestination hI8 hm8 hnames).bind fun w9 destination hI9 hd => ?_
  refine (keeps_checkpointBoundDestination hI9 hd.1 hd.2).bind fun w10 m10 hI10 hm10 => ?_
  obtain ⟨hcopied, hm10⟩ := hm10
  refine (keeps_transfer hI10 trivial hm10.carries).bind fun w11 failed hI11 hm11 => ?_
  refine (keeps_report hI11 hm11 (fun _ => hm11) failed).bind fun w12 _ hI12 hm12 => ?_
  have hm12 : Planned plan w12 m10 := ⟨hm10.kept, hm12⟩
  refine (running_checkpointRepositoryPhase (fun _ _ h => h) hm12 hI12 (by simp)
    (fun _ => hcopied) (by simp)).bind fun w13 m13 hI13 hm13 => ?_
  exact keeps_complete hI13 hm13

theorem keeps_abort (hI : Inv p False w) (hm : Fits m w) :
    (abort m).Keeps Observed (Inv p False) (fun w' m' => Carries False m' w') Anyhow w := by
  have hg : Guard (Carries False m) Anyhow m := ⟨guard_carries.stable, fun _ _ => trivial⟩
  have hvalidate : (validateAbort m).Keeps Observed (Inv p False)
      (fun w' _ => Carries False m w' ∧ m.status.phase ≠ .completed) Anyhow w := by
    refine keeps_orFail_bind hI (fun _ => trivial) fun _ hvalid => ?_
    refine keeps_reject_bind hI (fun _ => trivial) fun hphase => ?_
    exact (keeps_toolsStopped hg hI (hm.carries hvalid)).post fun _ _ h => ⟨h, hphase⟩
  refine hvalidate.bind fun w1 _ hI1 hm1 => ?_
  obtain ⟨hm1, hphase⟩ := hm1
  refine keeps_ite (fun _ => ⟨hI1, hm1⟩) fun _ => ?_
  apply keeps_ite
  · intro hnone
    have hplanned : planned m.object = false := by
      show m.object.plan.isSome = false
      rw [hnone]
      rfl
    exact (keeps_abortUnplanned hI1 hm1 hplanned hphase).imp (fun _ _ _ h => h.2)
      fun _ _ _ _ => trivial
  · intro hsome
    have hplanned : planned m.object = true := Option.isSome_iff_ne_none.mpr hsome
    have hbegin : (checkpointRepositoryPhase m .aborting "aborting restore").Keeps Observed
        (Inv p False) (fun w' m' => Restated m m' ∧ Carries False m' w') Anyhow w1 :=
      (keeps_checkpointRepositoryPhase hI1 hm1 hplanned (by simp) (by simp) False.elim).imp
        (fun _ _ _ h => ⟨h.1.1, h.2⟩) fun _ _ _ _ => trivial
    refine hbegin.bind fun w2 m2 hI2 hm2 => ?_
    have hg2 : Guard (Carries False m2) Anyhow m2 := ⟨guard_carries.stable, fun _ _ => trivial⟩
    refine (keeps_service hg2 hI2 hm2.2 _).bind fun w3 _ hI3 hm3 => ?_
    exact (keeps_checkpointRepositoryPhase hI3 hm3 (hm2.1.planned.trans hplanned) (by simp)
      (by simp) False.elim).imp (fun _ _ _ h => h.2) fun _ _ _ _ => trivial

theorem calm_run (hI : Inv p False w) (hm : Entered m w)
    (hvalid : validateRestoreObject m.object = .ok ()) : Calm p (run m) w := by
  refine keeps_ite (fun _ => ⟨hI, trivial⟩) fun hdone => ?_
  refine keeps_ite (fun _ => calm_of_keeps (keeps_abort hI hm.fits)) fun hpending => ?_
  split
  · exact ⟨hI, trivial⟩
  · rename_i plan hplan
    obtain ⟨hI', hm'⟩ := hm.active hI hvalid hdone hpending
      (Option.isSome_iff_exists.mpr ⟨plan, hplan⟩)
    have hrun : Safe p True (runPlanned m plan) (Planned plan) w :=
      keeps_ite (fun _ => keeps_complete hI' ⟨hplan, hm'⟩)
        fun _ => keeps_transferDestination hI' ⟨hplan, hm'⟩
    apply calm_of_keeps (A := fun w' m' => Carries True m' w') (E := Fails True)
    refine hrun.handle ?_ ?_
    · intro w1 m1 hI1 hm1
      exact ⟨hI1, hm1.carries⟩
    · intro w1 failed hI1 hfailed
      exact keeps_recordOutcome hI1 hfailed (hfailed.active trivial).1

theorem keeps_createdDestination (hg : Guard P E m) (hI : Inv p q w) (hP : P w)
    (hvalid : validateRestoreObject m.object = .ok ()) :
    (createdDestination m).Keeps Observed (Inv p q)
      (fun w' r => P w' ∧ ∀ ref, r = some ref →
        ∃ plan, m.object.plan = some plan ∧ DestinationMatches m.object.ns plan ref) E w := by
  unfold createdDestination
  split
  · exact ⟨hI, hP, by simp⟩
  · rename_i plan hplan
    refine keeps_ite (fun _ => ⟨hI, hP, by simp⟩) fun _ => ?_
    refine (keeps_getClaim hg hI hP _ _).bind fun w1 found hI1 hfound => ?_
    obtain ⟨hP1, hfound⟩ := hfound
    cases found with
    | none => exact ⟨hI1, hP1, by simp⟩
    | some pvc =>
      obtain ⟨hns, hname⟩ := hfound pvc rfl
      have hcreated : (createdDestinationFound m plan pvc).Keeps Observed (Inv p q)
          (fun w' ref => P w' ∧ DestinationMatches m.object.ns plan ref) E w1 := by
        refine keeps_reject_bind hI1 (fun _ => hg.fails _ hP1) fun hidentity => ?_
        refine keeps_reject_bind hI1 (fun _ => hg.fails _ hP1) fun _ => ?_
        refine keeps_reject_bind hI1 (fun _ => hg.fails _ hP1) fun _ => ?_
        simp only [not_or, not_and, not_not] at hidentity
        refine ⟨hI1, hP1, hns, hname, hidentity.1, ?_⟩
        rcases uid_executionPlan hvalid hplan with hempty | hsame
        · exact .inl hempty
        · by_cases hempty : plan.destinationPVC.uid = ""
          · exact .inl hempty
          · right
            rw [← hsame] at hempty ⊢
            exact hidentity.2 hempty
      refine hcreated.bind fun w2 ref hI2 href => ?_
      refine ⟨hI2, href.1, ?_⟩
      intro other hother
      cases hother
      exact ⟨plan, hplan, href.2⟩

theorem calm_cleanup {options : RestoreCleanupOptions} (hI : Inv p False w) (hm : Fits m w) :
    Calm p (cleanup config options m) w := by
  have hg : Guard (Carries False m) Anyhow m := ⟨guard_carries.stable, fun _ _ => trivial⟩
  have hany : ∀ {m' : Mem}, Guard (fun _ => True) Anyhow m' :=
    ⟨fun _ _ => trivial, fun _ _ => trivial⟩
  have hvalidate : (validateCleanup config options m).Keeps Observed (Inv p False)
      (fun w' _ => Carries False m w') Anyhow w := by
    refine keeps_orFail_bind hI (fun _ => trivial) fun _ hvalid => ?_
    have hm1 : Carries False m w := ⟨hvalid, hm, False.elim⟩
    refine keeps_reject_bind hI (fun _ => trivial) fun _ => ?_
    refine keeps_reject_bind hI (fun _ => trivial) fun _ => ?_
    refine (keeps_toolsStopped hg hI hm1).bind fun w4 _ hI4 hm4 => ?_
    refine keeps_onlyWhen hI4 hm4 ?_
    refine (keeps_createdDestination hg hI4 hm4 hvalid).bind fun w5 _ hI5 hm5 => ?_
    exact keeps_onlyWhen hI5 hm5.1 (keeps_service hg hI5 hm5.1 _)
  refine hvalidate.bind fun w1 _ hI1 hm1 => ?_
  refine (keeps_service hg hI1 hm1 _).bind fun w2 _ hI2 hm2 => ?_
  refine keeps_orFail_bind hI2 (fun _ => trivial) fun _ _ => ?_
  have hrelease : ∀ deleteUnused, (releaseDestination m options.finalize deleteUnused).Keeps
      Observed (Inv p False) (fun _ _ => True) Anyhow w2 := by
    intro deleteUnused
    refine keeps_ite (fun _ => ⟨hI2, trivial⟩) fun _ => ?_
    refine (keeps_createdDestination hg hI2 hm2 hm2.valid).bind fun w4 created hI4 hcreated => ?_
    cases created with
    | none => exact ⟨hI4, trivial⟩
    | some ref =>
      obtain ⟨plan, hplan, hmatches⟩ := hcreated.2 ref rfl
      have hpin : (pinCreated m ref).Keeps Observed (Inv p False) (fun _ _ => True) Anyhow w4 := by
        apply keeps_ite
        · intro _
          have hvalid := validateRestoreObject_claim hm2.valid hplan hmatches
          exact (keeps_save hI4 hcreated.1 (hcreated.1.follows hvalid rfl rfl)).imp
            (fun _ _ _ _ => trivial) fun _ _ _ _ => trivial
        · intro _
          exact ⟨hI4, trivial⟩
      refine hpin.bind fun w5 m5 hI5 _ => ?_
      exact (keeps_service hany hI5 trivial _).bind fun w6 _ hI6 _ => ⟨hI6, trivial⟩
  refine (hrelease _).bind fun w4 m4 hI4 _ => ?_
  refine (keeps_onlyWhen hI4 trivial (keeps_service hany hI4 trivial _)).bind fun w5 _ hI5 _ => ?_
  exact keeps_ite (fun _ => calm_deleteSession hI5) fun _ => ⟨hI5, trivial⟩

end RestoreExecutor

/-- **Every call of a restore executor keeps the invariant.** -/
theorem calm_restoreCall (config : RestoreConfig) :
    ∀ call ∈ restoreCalls config, ∀ w m, Inv p False w → Fits m w → Calm p (call m) w := by
  intro program hprogram w m hI hm
  obtain ⟨call, rfl⟩ := hprogram
  exact calm_program (fun _ _ => RestoreExecutor.calm_run) (fun _ _ => RestoreExecutor.keeps_abort)
    (fun _ _ _ => RestoreExecutor.calm_cleanup) call hI hm

/-! ## A run -/

section Serving

variable {Ω : Type}

/-- An environment in which every save of the stored version succeeds, every service succeeds, and
nothing that is read is there. -/
def serve : (op : Op Ω) → World Ω → Reply op × World Ω
  | .save m, w =>
    if m.version = w.version then (.ok (w.version + 1), (w.hand m.object).store m.object)
    else (.error (leaseError .conflict "stale"), w.hand m.object)
  | .load, w => (.ok w.memory, w)
  | .staleWrite _, w => (false, w)
  | .acquire, w => (.acquired, w)
  | .now, w => (1, w)
  | .contextErr, w | .leaseFence, w => (none, w)
  | .canceled, w => (false, w)
  | .service _, w => (none, w)
  | .resolveRepository, w | .manifestSession, w => (.ok none, w)
  | .inspect _ _, w | .lvmVolume _, w => (.error (leaseError .kubernetes "not found"), w)
  | .shared _, w => (.ok true, w)
  | .transfer, w => (none, w.transferred)
  | .getClaim _ _, w | .createClaim _ _, w => (.ok none, w)
  | .getVolume _, w => (.error (leaseError .kubernetes "not found"), w)

theorem performed_serve (op : Op Ω) (w : World Ω) : Performed w op (serve op w).1
    (serve op w).2 := by
  cases op with
  | save m =>
    by_cases hversion : m.version = w.version
    · simp only [serve, hversion, if_true]
      exact .saved hversion
    · simp only [serve, hversion, if_false]
      exact .refused
  | load => exact .loaded
  | transfer => exact .transferred
  | _ => exact .read (by simp) (by simp) (by simp) (by simp [Answers, serve])

variable [RepositoryObject Ω]

/-- The world that a call leaves in this environment. -/
def served (call : Memory Ω → Action Ω (Memory Ω)) (start : Ω) : World Ω :=
  (run serve (call ⟨start, 0⟩) ⟨start, 0, [.persisted start]⟩).2

theorem reached_served {calls : Set (Memory Ω → Action Ω (Memory Ω))}
    {call : Memory Ω → Action Ω (Memory Ω)} (hcall : call ∈ calls) (start : Ω) :
    Reached calls start (served call start) := by
  have hstart : Reached calls start ⟨start, 0, [.persisted start]⟩ := .start
  have hknown : Known ⟨start, 0⟩ ⟨start, 0, [.persisted start]⟩ := ⟨le_refl _, fun _ => rfl⟩
  apply Reached.called hstart hcall hknown
  apply runs_run
  intro op w
  exact ⟨w, .refl, performed_serve op w⟩

end Serving

def copyingBackup : BackupObject where
  ns := "team"
  name := "nightly"
  spec := { sourcePVC := ⟨"data", ""⟩, name := "nightly", repositoryRef := "store" }
  plan := some
    { sourcePVC := ⟨"data", "uid-1"⟩, sourcePV := ⟨"pv-1", "uid-2"⟩, name := "nightly",
      repositoryRef := "store" }
  lifecycle := { phase := .warmCopying }

def copyingRestore : RestoreObject where
  ns := "team"
  name := "again"
  spec := { destinationPVC := ⟨"data", "uid-1"⟩, name := "nightly", repositoryRef := "store" }
  plan := some { destinationPVC := ⟨"data", "uid-1"⟩, name := "nightly", repositoryRef := "store" }
  lifecycle := { phase := .warmCopying }

def abortedBackup : World BackupObject :=
  served ((backupExecutor ⟨true, true⟩).program .abort) copyingBackup

def abortedRestore : World RestoreObject :=
  served ((restoreExecutor ⟨true⟩).program .abort) copyingRestore

/-! ## Aborts and completions -/

/-- **An aborted backup or restore stays aborted, and a completed one completed**, whatever its
executor is called for, wherever the calls are cut off, and whatever fails. -/
theorem aborted_stays_aborted :
    (∀ (config : BackupConfig) (start : BackupObject) (w : World BackupObject),
      Reached (backupCalls config) start w → StaysAborted w.log ∧ StaysCompleted w.log) ∧
    ∀ (config : RestoreConfig) (start : RestoreObject) (w : World RestoreObject),
      Reached (restoreCalls config) start w → StaysAborted w.log ∧ StaysCompleted w.log := by
  constructor
  · intro config start w hreached
    have hI := hreached.inv (calm_backupCall (p := False) config) False.elim
    exact ⟨hI.orderly.staysAborted, hI.orderly.staysCompleted⟩
  · intro config start w hreached
    have hI := hreached.inv (calm_restoreCall (p := False) config) False.elim
    exact ⟨hI.orderly.staysAborted, hI.orderly.staysCompleted⟩

theorem aborted_stays_aborted_copying :
    abortedBackup.stored.lifecycle.phase = .aborted ∧
      (StaysAborted abortedBackup.log ∧ StaysCompleted abortedBackup.log) ∧
      abortedRestore.stored.lifecycle.phase = .aborted ∧
      StaysAborted abortedRestore.log ∧ StaysCompleted abortedRestore.log :=
  ⟨by decide,
    aborted_stays_aborted.1 ⟨true, true⟩ copyingBackup _ (reached_served (Set.mem_range_self _) _),
    by decide,
    aborted_stays_aborted.2 ⟨true⟩ copyingRestore _ (reached_served (Set.mem_range_self _) _)⟩

/-! ## What is accepted again -/

/-- A valid failure has a phase to resume from, so that a deletion takes it as it is. -/
theorem normalize_of_valid {s : WorkflowStatus} {planned : Bool}
    (hvalid : validateRepositoryStatus s planned = .ok ()) :
    normalizeDeletedRepositoryStatus s = s := by
  unfold normalizeDeletedRepositoryStatus
  split
  · rename_i hunset
    have hresume := recoverable_of_failed hvalid hunset.1
    rw [hunset.2] at hresume
    cases hresume
  · rfl

/-- **Every object that is handed to the store is valid**, and the status that is stored is always
one that the executor accepts, also where it takes it for a deletion. -/
theorem persisted_accepted :
    (∀ (config : BackupConfig) (start : BackupObject) (w : World BackupObject),
      validateBackupObject start = .ok () → Reached (backupCalls config) start w →
        (∀ object, .handed object ∈ w.log → validateBackupObject object = .ok ()) ∧
          validateBackupStatus w.stored = .ok () ∧
          normalizeDeletedRepositoryStatus w.stored.lifecycle = w.stored.lifecycle) ∧
    ∀ (config : RestoreConfig) (start : RestoreObject) (w : World RestoreObject),
      validateRestoreObject start = .ok () → Reached (restoreCalls config) start w →
        (∀ object, .handed object ∈ w.log → validateRestoreObject object = .ok ()) ∧
          validateRestoreStatus w.stored = .ok () ∧
          normalizeDeletedRepositoryStatus w.stored.lifecycle = w.stored.lifecycle := by
  constructor
  · intro config start w hvalid hreached
    have hI := hreached.inv (calm_backupCall (p := True) config)
      fun _ => validateStatus_of_validate _ hvalid
    have hstatus : validateBackupStatus w.stored = .ok () := hI.lasting trivial
    exact ⟨hI.handed, hstatus, normalize_of_valid (andThen_eq_ok.mp hstatus).1⟩
  · intro config start w hvalid hreached
    have hI := hreached.inv (calm_restoreCall (p := True) config)
      fun _ => validateStatus_of_validate _ hvalid
    have hstatus : validateRestoreStatus w.stored = .ok () := hI.lasting trivial
    exact ⟨hI.handed, hstatus, normalize_of_valid (andThen_eq_ok.mp hstatus).1⟩

theorem persisted_accepted_copying :
    (validateBackupObject copyingBackup = .ok () ∧
      validateBackupStatus abortedBackup.stored = .ok ()) ∧
      validateRestoreObject copyingRestore = .ok () ∧
      validateRestoreStatus abortedRestore.stored = .ok () := by
  have hbackup : validateBackupObject copyingBackup = .ok () := by decide
  have hrestore : validateRestoreObject copyingRestore = .ok () := by decide
  refine ⟨⟨hbackup, ?_⟩, hrestore, ?_⟩
  · exact (persisted_accepted.1 ⟨true, true⟩ _ _ hbackup
      (reached_served (Set.mem_range_self _) _)).2.1
  · exact (persisted_accepted.2 ⟨true⟩ _ _ hrestore (reached_served (Set.mem_range_self _) _)).2.1

end RepositoryWorkflow

end PvcMigrate
