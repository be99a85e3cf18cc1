import PvcMigrate.Lib.Prog

/-!
# Observed runs of programs

A program runs in an environment that answers its calls as it likes.  An observer keeps a state
beside the run: what has been stored, which calls were made and how they ended.  What a call and its
reply do to that state is a relation, since a reply need not tell what has happened: a write that
ended in an error may have been carried out.

A process can also be killed at any call.  `Runs` has all the runs, the unfinished ones included,
and `Keeps` is the weakest precondition for an invariant that holds throughout them.
-/

namespace Prog

variable {Op : Type} {Reply : Op → Type} {ε α β σ γ : Type}

section Definitions

variable (obs : γ → (op : Op) → Reply op → γ → Prop)

/-- The runs of a program from a state of the observer: the state at the end, and the result of a
run that is not cut off. -/
inductive Runs : Prog Op Reply ε α → γ → γ → Option (Except ε α) → Prop
  | cut {p : Prog Op Reply ε α} {g : γ} : Runs p g g none
  | ret {a : α} {g : γ} : Runs (.ret a) g g (some (.ok a))
  | fail {e : ε} {g : γ} : Runs (.fail e) g g (some (.error e))
  | call {op : Op} {next : Reply op → Prog Op Reply ε α} {r : Reply op} {g g' h : γ}
      {result : Option (Except ε α)} :
      obs g op r g' → Runs (next r) g' h result → Runs (.call op next) g h result

/-- The invariant `I` holds at every call and at the end, where a result satisfies `A` and an error
satisfies `E`. -/
def Keeps (I : γ → Prop) (A : γ → α → Prop) (E : γ → ε → Prop) : Prog Op Reply ε α → γ → Prop
  | .ret a, g => I g ∧ A g a
  | .fail e, g => I g ∧ E g e
  | .call op next, g => I g ∧ ∀ r g', obs g op r g' → (next r).Keeps I A E g'

end Definitions

variable {obs : γ → (op : Op) → Reply op → γ → Prop} {I J : γ → Prop} {A C : γ → α → Prop}
  {E D : γ → ε → Prop} {p : Prog Op Reply ε α} {g h : γ}

/-! ## What `Keeps` means -/

/-- The invariant holds where the program starts. -/
theorem Keeps.start (hkeeps : p.Keeps obs I A E g) : I g := by
  cases p <;> exact hkeeps.1

/-- The invariant holds wherever a run ends or is cut off. -/
theorem Keeps.invariant {result : Option (Except ε α)} (hkeeps : p.Keeps obs I A E g)
    (hrun : p.Runs obs g h result) : I h := by
  induction hrun with
  | cut => exact hkeeps.start
  | ret | fail => exact hkeeps.1
  | call hobs _ ih => exact ih (hkeeps.2 _ _ hobs)

variable {a : α}

/-- A result satisfies its postcondition. -/
theorem Keeps.result (hkeeps : p.Keeps obs I A E g) (hrun : p.Runs obs g h (some (.ok a))) :
    A h a := by
  generalize hresult : some (Except.ok a) = result at hrun
  induction hrun with
  | cut => cases hresult
  | ret =>
    cases hresult
    exact hkeeps.2
  | fail => cases hresult
  | call hobs _ ih => exact ih (hkeeps.2 _ _ hobs) hresult

variable {e : ε}

section

variable (hkeeps : p.Keeps obs I A E g)
include hkeeps

/-- An error satisfies its postcondition. -/
theorem Keeps.error (hrun : p.Runs obs g h (some (.error e))) : E h e := by
  generalize hresult : some (Except.error e) = result at hrun
  induction hrun with
  | cut | ret => cases hresult
  | fail =>
    cases hresult
    exact hkeeps.2
  | call hobs _ ih => exact ih (hkeeps.2 _ _ hobs) hresult

/-- Weaker postconditions, and a weaker invariant. -/
theorem Keeps.mono (hI : ∀ g, I g → J g)
    (hA : ∀ g a, I g → A g a → C g a) (hE : ∀ g e, I g → E g e → D g e) : p.Keeps obs J C D g := by
  induction p generalizing g with
  | ret a => exact ⟨hI g hkeeps.1, hA g a hkeeps.1 hkeeps.2⟩
  | fail e => exact ⟨hI g hkeeps.1, hE g e hkeeps.1 hkeeps.2⟩
  | call op next ih => exact ⟨hI g hkeeps.1, fun r g' hobs => ih r (hkeeps.2 r g' hobs)⟩

theorem Keeps.imp (hA : ∀ g a, I g → A g a → C g a)
    (hE : ∀ g e, I g → E g e → D g e) : p.Keeps obs I C D g :=
  hkeeps.mono (fun _ => id) hA hE

theorem Keeps.post (hA : ∀ g a, A g a → C g a) : p.Keeps obs I C E g :=
  hkeeps.imp (fun g a _ => hA g a) fun _ _ _ h => h

end

/-! ## Rules -/

@[simp] theorem keeps_pure : (pure a : Prog Op Reply ε α).Keeps obs I A E g ↔ I g ∧ A g a := Iff.rfl

@[simp] theorem keeps_ret : (ret a : Prog Op Reply ε α).Keeps obs I A E g ↔ I g ∧ A g a := Iff.rfl

@[simp] theorem keeps_fail : (fail e : Prog Op Reply ε α).Keeps obs I A E g ↔ I g ∧ E g e := Iff.rfl

/-- **One call.** -/
theorem keeps_perform {op : Op} {A : γ → Reply op → Prop} :
    (perform op : Prog Op Reply ε (Reply op)).Keeps obs I A E g ↔
      I g ∧ ∀ r g', obs g op r g' → I g' ∧ A g' r := Iff.rfl

/-- A call that leaves no trace. -/
theorem keeps_silent {op : Op} (hI : I g) (hsilent : ∀ r g', obs g op r g' → g' = g) :
    (perform op : Prog Op Reply ε (Reply op)).Keeps obs I (fun g' _ => g' = g) E g := by
  refine keeps_perform.mpr ⟨hI, fun r g' hobs => ?_⟩
  rw [hsilent r g' hobs]
  exact ⟨hI, rfl⟩

variable {B : γ → β → Prop}

/-- **Sequencing.** -/
theorem keeps_bind {f : α → Prog Op Reply ε β} :
    (p >>= f).Keeps obs I B E g ↔ p.Keeps obs I (fun g a => (f a).Keeps obs I B E g) E g := by
  show (p.bind f).Keeps obs I B E g ↔ _
  induction p generalizing g with
  | ret a =>
    constructor
    · intro hkeeps
      exact ⟨hkeeps.start, hkeeps⟩
    · intro hkeeps
      exact hkeeps.2
  | fail e => exact Iff.rfl
  | call op next ih =>
    exact and_congr_right fun _ => forall_congr' fun r => forall_congr' fun g' =>
      imp_congr_right fun _ => ih r

/-- A first program, and one that follows whatever the first one ensures. -/
theorem Keeps.bind {f : α → Prog Op Reply ε β} (hp : p.Keeps obs I A E g)
    (hf : ∀ g a, I g → A g a → (f a).Keeps obs I B E g) : (p >>= f).Keeps obs I B E g :=
  keeps_bind.mpr (hp.imp hf fun _ _ _ => id)

/-- **Going on after an error.** -/
theorem Keeps.handle {ε' : Type} {f : α → Prog Op Reply ε' β} {k : ε → Prog Op Reply ε' β}
    {F : γ → ε' → Prop} (hp : p.Keeps obs I A E g)
    (hf : ∀ g a, I g → A g a → (f a).Keeps obs I B F g)
    (hk : ∀ g e, I g → E g e → (k e).Keeps obs I B F g) : (p.handle f k).Keeps obs I B F g := by
  induction p generalizing g with
  | ret a => exact hf g a hp.1 hp.2
  | fail e => exact hk g e hp.1 hp.2
  | call op next ih => exact ⟨hp.1, fun r g' hobs => ih r (hp.2 r g' hobs)⟩

theorem keeps_ite {c : Prop} [Decidable c] {q : Prog Op Reply ε α}
    (hp : c → p.Keeps obs I A E g) (hq : ¬ c → q.Keeps obs I A E g) :
    (if c then p else q).Keeps obs I A E g := by
  by_cases hc : c
  · rw [if_pos hc]
    exact hp hc
  · rw [if_neg hc]
    exact hq hc

theorem keeps_reject {bad : Prop} [Decidable bad] (hI : I g) (hE : bad → E g e) :
    (reject bad e : Prog Op Reply ε Unit).Keeps obs I (fun g' _ => g' = g ∧ ¬ bad) E g := by
  refine keeps_ite (fun hbad => ⟨hI, hE hbad⟩) fun hgood => ⟨hI, rfl, hgood⟩

/-- A check, and what follows it. -/
theorem keeps_reject_bind {bad : Prop} [Decidable bad] {f : Unit → Prog Op Reply ε α} (hI : I g)
    (hE : bad → E g e) (hf : ¬ bad → (f ()).Keeps obs I A E g) :
    (reject bad e >>= f).Keeps obs I A E g := by
  refine (keeps_reject hI hE).bind fun g' _ _ h => ?_
  rw [h.1]
  exact hf h.2

/-- **Loops.**  A condition on the elements that are left and the state, kept by each round, holds
at the end with no element left. -/
theorem keeps_fold {L : List α → γ → σ → Prop} {f : σ → α → Prog Op Reply ε σ} {xs : List α} {s : σ}
    (hstep : ∀ x rest g t, I g → L (x :: rest) g t → (f t x).Keeps obs I (L rest) E g)
    (hI : I g) (hstart : L xs g s) : (fold f s xs).Keeps obs I (L []) E g := by
  induction xs generalizing g s with
  | nil => exact ⟨hI, hstart⟩
  | cons x xs ih => exact (hstep x xs g s hI hstart).bind fun _ _ hI' hL => ih hI' hL

/-- A loop whose rounds hand nothing on, with a condition that each round keeps. -/
theorem keeps_each {P : γ → Prop} {f : α → Prog Op Reply ε Unit} {xs : List α}
    (hf : ∀ x ∈ xs, ∀ g, I g → P g → (f x).Keeps obs I (fun g' _ => P g') E g) (hI : I g)
    (hP : P g) : (each f xs).Keeps obs I (fun g' _ => P g') E g := by
  induction xs generalizing g with
  | nil => exact ⟨hI, hP⟩
  | cons x xs ih =>
    refine (hf x List.mem_cons_self g hI hP).bind fun g' _ hI' hP' => ?_
    exact ih (fun y hy => hf y (List.mem_cons_of_mem _ hy)) hI' hP'

/-- The run that a handler makes is one of the runs. -/
theorem runs_run {H : (op : Op) → γ → Reply op × γ}
    (hobs : ∀ op g, obs g op (H op g).1 (H op g).2) (p : Prog Op Reply ε α) (g : γ) :
    p.Runs obs g (run H p g).2 (some (run H p g).1) := by
  induction p generalizing g with
  | ret a => exact .ret
  | fail e => exact .fail
  | call op next ih => exact .call (hobs op g) (ih _ _)

/-- Wherever the run that a handler makes can stop, a run can be cut off. -/
theorem runs_of_mem_stops {H : (op : Op) → γ → Reply op × γ}
    (hobs : ∀ op g, obs g op (H op g).1 (H op g).2) (hstop : h ∈ stops H p g) :
    p.Runs obs g h none := by
  induction p generalizing g with
  | ret a | fail e =>
    obtain rfl := List.mem_singleton.mp hstop
    exact .cut
  | call op next ih =>
    rcases List.mem_cons.mp hstop with rfl | hlater
    · exact .cut
    · exact .call (hobs op g) (ih _ hlater)

end Prog
