import Mathlib.Logic.Relation
import PvcMigrate.Lib.Prog

/-!
# Interleaved programs

Several processes run programs on one shared state.  Between two calls of a program the others may
make any number of calls, so what a program has read may be out of date when it writes.

What a program can rely on is a preorder on states: however far the others have come, the state is a
later one.  What it has to guarantee is a relation between the states before and after each of its
own calls.  `Prog.Guarantees` is checked program by program; `Pool.Reach.step_change` says that
every step of every interleaving is then one of the guaranteed ones.

A process may be killed at any call, and it may start any of its programs again.
-/

namespace Prog

variable {Op : Type} {Reply : Op → Type} {ε α β σ : Type}

section Definitions

variable (later change : σ → σ → Prop) (H : (op : Op) → σ → Reply op × σ)

/-- Each call of the program, made in any later state, changes the state by `change`; what the
program returns satisfies `A` from then on. -/
def Guarantees (A : σ → α → Prop) : Prog Op Reply ε α → σ → Prop
  | .ret a, s => ∀ s', later s s' → A s' a
  | .fail _, _ => True
  | .call op next, s => ∀ s', later s s' → change s' (H op s').2 ∧
      (next (H op s').1).Guarantees A (H op s').2

/-- Later states form a preorder, and what a process does leads to a later state. -/
structure Rely : Prop where
  refl : ∀ s, later s s
  trans : ∀ a b c, later a b → later b c → later a c
  change : ∀ s s', change s s' → later s s'

end Definitions

variable {later change : σ → σ → Prop} {H : (op : Op) → σ → Reply op × σ} {A : σ → α → Prop}
  {p : Prog Op Reply ε α} {s s' t : σ}

section

variable (hrely : Rely later change) (h : p.Guarantees later change H A s)
include hrely h

/-- What holds in a state holds in a later one. -/
theorem Guarantees.weaken (hlater : later s s') : p.Guarantees later change H A s' := by
  cases p with
  | ret a => exact fun t ht => h t (hrely.trans _ _ _ hlater ht)
  | fail e => trivial
  | call op next => exact fun t ht => h t (hrely.trans _ _ _ hlater ht)

/-- What holds from the start and in every later state holds at the end as well. -/
theorem Guarantees.and_later {B : σ → Prop} (hB : ∀ s s', later s s' → B s → B s') (hs : B s) :
    p.Guarantees later change H (fun s _ => B s) s := by
  induction p generalizing s with
  | ret a => exact fun t ht => hB s t ht hs
  | fail e => trivial
  | call op next ih =>
    intro t ht
    obtain ⟨hchange, hnext⟩ := h t ht
    exact ⟨hchange, ih _ hnext (hB _ _ (hrely.change _ _ hchange) (hB _ _ ht hs))⟩

/-- Without others, a program that stops anywhere has made guaranteed changes only. -/
theorem Guarantees.stops (ht : t ∈ stops H p s) : Relation.ReflTransGen change s t := by
  induction p generalizing s with
  | ret a | fail e =>
    rw [List.mem_singleton.mp ht]
  | call op next ih =>
    obtain ⟨hchange, hnext⟩ := h s (hrely.refl s)
    rcases List.mem_cons.mp ht with rfl | hlater
    · exact .refl
    · exact .head hchange (ih _ hnext hlater)

end

theorem guarantees_perform {op : Op} {A : σ → Reply op → Prop}
    (h : ∀ s', later s s' → change s' (H op s').2 ∧ ∀ t, later (H op s').2 t → A t (H op s').1) :
    (perform op : Prog Op Reply ε (Reply op)).Guarantees later change H A s := h

/-- **Sequencing.** -/
theorem Guarantees.bind {f : α → Prog Op Reply ε β} {B : σ → β → Prop} (hrely : Rely later change)
    (h : p.Guarantees later change H A s)
    (hf : ∀ s a, A s a → (f a).Guarantees later change H B s) :
    (p >>= f).Guarantees later change H B s := by
  induction p generalizing s with
  | ret a => exact hf s a (h s (hrely.refl s))
  | fail e => trivial
  | call op next ih => exact fun t ht => ⟨(h t ht).1, ih _ (h t ht).2⟩

theorem Guarantees.tryCatch {handle : ε → Prog Op Reply ε α} (hrely : Rely later change)
    (h : p.Guarantees later change H A s)
    (hhandle : ∀ e t, later s t → (handle e).Guarantees later change H A t) :
    (p.tryCatch handle).Guarantees later change H A s := by
  induction p generalizing s with
  | ret a => exact h
  | fail e => exact hhandle e s (hrely.refl s)
  | call op next ih =>
    intro t ht
    obtain ⟨hchange, hnext⟩ := h t ht
    refine ⟨hchange, ih _ hnext fun e u hu => hhandle e u ?_⟩
    exact hrely.trans _ _ _ ht (hrely.trans _ _ _ (hrely.change _ _ hchange) hu)

theorem guarantees_ite {c : Prop} [Decidable c] {q : Prog Op Reply ε α}
    (hp : c → p.Guarantees later change H A s) (hq : ¬ c → q.Guarantees later change H A s) :
    (if c then p else q).Guarantees later change H A s := by
  by_cases hc : c
  · rw [if_pos hc]
    exact hp hc
  · rw [if_neg hc]
    exact hq hc

/-- A check, and what follows if it passes. -/
theorem guarantees_reject_bind {bad : Prop} [Decidable bad] {e : ε} {f : Unit → Prog Op Reply ε α}
    (h : ¬ bad → (f ()).Guarantees later change H A s) :
    (reject bad e >>= f).Guarantees later change H A s := by
  by_cases hbad : bad
  · simp only [reject, if_pos hbad]
    trivial
  · simp only [reject, if_neg hbad]
    exact h hbad

theorem guarantees_reject {bad : Prop} [Decidable bad] {e : ε} :
    (reject bad e : Prog Op Reply ε Unit).Guarantees later change H (fun _ _ => True) s :=
  guarantees_ite (fun _ => trivial) fun _ => fun _ _ => trivial

end Prog

open Prog

/-- Processes on a shared state: what each of them still has to do. -/
structure Pool (Op : Type) (Reply : Op → Type) (ε σ ι : Type) where
  state : σ
  running : ι → Option (Prog Op Reply ε Unit)

namespace Pool

variable {Op : Type} {Reply : Op → Type} {ε σ ι : Type} [DecidableEq ι]

section Definitions

variable (H : (op : Op) → σ → Reply op × σ) (Starts : ι → Prog Op Reply ε Unit → Prop)

/-- A step of one process: it starts a program, makes its next call, or ends, at any call. -/
inductive Step (c : Pool Op Reply ε σ ι) (i : ι) : Pool Op Reply ε σ ι → Prop
  | start {p : Prog Op Reply ε Unit} : Starts i p →
      Step c i ⟨c.state, Function.update c.running i (some p)⟩
  | call {op : Op} {next : Reply op → Prog Op Reply ε Unit} : c.running i = some (.call op next) →
      Step c i ⟨(H op c.state).2, Function.update c.running i (some (next (H op c.state).1))⟩
  | stop : Step c i ⟨c.state, Function.update c.running i none⟩

/-- A run of steps that satisfy a condition. -/
inductive Trace (R : Pool Op Reply ε σ ι → ι → Pool Op Reply ε σ ι → Prop)
    (c : Pool Op Reply ε σ ι) : Pool Op Reply ε σ ι → Prop
  | refl : Trace R c c
  | step {d e : Pool Op Reply ε σ ι} {i : ι} : Trace R c d → R d i e → Trace R c e

/-- The states that the processes reach when none of them has started yet. -/
def Reach (s : σ) : Pool Op Reply ε σ ι → Prop := Trace (Step H Starts) ⟨s, fun _ => none⟩

/-- The programs that run keep the guarantees of their processes. -/
def Guaranteed (later : σ → σ → Prop) (change : ι → σ → σ → Prop) (c : Pool Op Reply ε σ ι) :
    Prop :=
  ∀ i p, c.running i = some p → p.Guarantees later (change i) H (fun _ _ => True) c.state

/-- The processes start only programs that keep their guarantees, in states that satisfy the
invariant. -/
structure Disciplined (later : σ → σ → Prop) (change : ι → σ → σ → Prop) (I : σ → Prop) : Prop where
  rely : ∀ i, Rely later (change i)
  keeps : ∀ s s', later s s' → I s → I s'
  starts : ∀ i p, Starts i p → ∀ s, I s → p.Guarantees later (change i) H (fun _ _ => True) s

end Definitions

variable {H : (op : Op) → σ → Reply op × σ} {Starts : ι → Prog Op Reply ε Unit → Prop}
  {later : σ → σ → Prop} {change : ι → σ → σ → Prop} {I : σ → Prop} {c c' : Pool Op Reply ε σ ι}
  {i : ι} {s : σ}

/-- A program in place of the one that a process runs. -/
theorem Guaranteed.update (hrely : ∀ i, Rely later (change i)) (h : c.Guaranteed H later change)
    {s' : σ} (hlater : later c.state s') {q : Option (Prog Op Reply ε Unit)}
    (hq : ∀ p, q = some p → p.Guarantees later (change i) H (fun _ _ => True) s') :
    Guaranteed H later change ⟨s', Function.update c.running i q⟩ := by
  intro j p hp
  by_cases hj : j = i
  · subst hj
    simp only [Function.update_self] at hp
    exact hq p hp
  · simp only [Function.update_of_ne hj] at hp
    exact (h j p hp).weaken (hrely j) hlater

section

variable (hd : Disciplined H Starts later change I)
include hd

/-- One step: the guarantees stay, and the state changes as the process guarantees. -/
theorem Guaranteed.step (h : c.Guaranteed H later change)
    (hI : I c.state) (hstep : Step H Starts c i c') :
    c'.Guaranteed H later change ∧ (c'.state = c.state ∨ change i c.state c'.state) := by
  have hrefl := (hd.rely i).refl c.state
  cases hstep with
  | start hp =>
    refine ⟨h.update hd.rely hrefl fun p hsome => ?_, .inl rfl⟩
    cases hsome
    exact hd.starts i _ hp c.state hI
  | call hrunning =>
    obtain ⟨hchanged, hnext⟩ := h i _ hrunning c.state hrefl
    refine ⟨h.update hd.rely ((hd.rely i).change _ _ hchanged) fun p hsome => ?_, .inr hchanged⟩
    cases hsome
    exact hnext
  | stop => exact ⟨h.update hd.rely hrefl fun _ hsome => (by cases hsome), .inl rfl⟩

/-- The guarantees and the invariant hold wherever the processes get. -/
theorem Reach.guaranteed (hI : I s)
    (hreach : Reach H Starts s c) : c.Guaranteed H later change ∧ I c.state := by
  unfold Reach at hreach
  induction hreach with
  | refl => exact ⟨nofun, hI⟩
  | @step d e i _ hstep ih =>
    obtain ⟨hall, hchanged⟩ := ih.1.step hd ih.2 hstep
    refine ⟨hall, ?_⟩
    rcases hchanged with hsame | hchanged
    · rw [hsame]
      exact ih.2
    · exact hd.keeps _ _ ((hd.rely i).change _ _ hchanged) ih.2

/-- **Guarantees.**  In every interleaving, each step of a process changes the state as the process
guarantees. -/
theorem Reach.step_change (hI : I s) (hreach : Reach H Starts s c) (hstep : Step H Starts c i c') :
    c'.state = c.state ∨ change i c.state c'.state :=
  ((hreach.guaranteed hd hI).1.step hd (hreach.guaranteed hd hI).2 hstep).2

end

end Pool
