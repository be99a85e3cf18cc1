import Mathlib.Logic.Relation
import PvcMigrate.Lib.Prog

/-!
# Threads in an arbitrary environment

Several threads run programs on one shared state, and the environment answers their calls as it
likes: what a call of a thread does is a relation between the state before, the reply and the state
after.  Between two calls of a thread the others may make any number of calls.

What a thread can rely on is a preorder on states of its own: it has to cover what the others do,
not what the thread does itself.  What it has to guarantee is a relation between the states before
and after each of its calls.  All threads may assume an invariant of the state, which the guarantees
keep.
-/

namespace Prog

variable {Op : Type} {Reply : Op → Type} {ε α β σ : Type}

section Definitions

variable (later change : σ → σ → Prop) (obs : σ → (op : Op) → Reply op → σ → Prop) (I : σ → Prop)

/-- Each call of the program, made in any later state that satisfies the invariant, changes the
state by `change`; a result satisfies `A` from then on. -/
def Guards (A : σ → α → Prop) : Prog Op Reply ε α → σ → Prop
  | .ret a, s => ∀ s', later s s' → I s' → A s' a
  | .fail _, _ => True
  | .call op next, s => ∀ s', later s s' → I s' → ∀ r t, obs s' op r t →
      change s' t ∧ (I t → (next r).Guards A t)

end Definitions

variable {later change : σ → σ → Prop} {obs : σ → (op : Op) → Reply op → σ → Prop} {I : σ → Prop}
  {A : σ → α → Prop} {p : Prog Op Reply ε α} {s t : σ}

/-- What holds in a state holds in a later one. -/
theorem Guards.weaken (htrans : ∀ a b c, later a b → later b c → later a c)
    (h : p.Guards later change obs I A s) (hlater : later s t) :
      p.Guards later change obs I A t := by
  cases p with
  | ret a => exact fun u hu => h u (htrans _ _ _ hlater hu)
  | fail e => trivial
  | call op next => exact fun u hu => h u (htrans _ _ _ hlater hu)

theorem Guards.imp {B : σ → α → Prop} (h : p.Guards later change obs I A s)
    (hAB : ∀ s a, I s → A s a → B s a) : p.Guards later change obs I B s := by
  induction p generalizing s with
  | ret a => exact fun u hu hI => hAB u a hI (h u hu hI)
  | fail e => trivial
  | call op next ih =>
    intro u hu hI r t hobs
    obtain ⟨hchange, hnext⟩ := h u hu hI r t hobs
    exact ⟨hchange, fun ht => ih r (hnext ht)⟩

theorem guards_pure {a : α} (h : ∀ t, later s t → I t → A t a) :
    (pure a : Prog Op Reply ε α).Guards later change obs I A s := h

theorem guards_fail {e : ε} : (fail e : Prog Op Reply ε α).Guards later change obs I A s := trivial

/-- **One call.** -/
theorem guards_perform {op : Op} {A : σ → Reply op → Prop}
    (h : ∀ u, later s u → I u → ∀ r t, obs u op r t →
      change u t ∧ (I t → ∀ v, later t v → I v → A v r)) :
    (perform op : Prog Op Reply ε (Reply op)).Guards later change obs I A s := h

/-- **Sequencing.** -/
theorem Guards.bind {f : α → Prog Op Reply ε β} {B : σ → β → Prop} (hrefl : ∀ s, later s s)
    (hs : I s) (h : p.Guards later change obs I A s)
    (hf : ∀ s a, I s → A s a → (f a).Guards later change obs I B s) :
    (p >>= f).Guards later change obs I B s := by
  induction p generalizing s with
  | ret a => exact hf s a hs (h s (hrefl s) hs)
  | fail e => trivial
  | call op next ih =>
    intro u hu hI r t hobs
    obtain ⟨hchange, hnext⟩ := h u hu hI r t hobs
    exact ⟨hchange, fun ht => ih r ht (hnext ht)⟩

/-- A check, and what follows if it passes. -/
theorem guards_reject_bind {bad : Prop} [Decidable bad] {e : ε} {f : Unit → Prog Op Reply ε α}
    (h : ¬ bad → (f ()).Guards later change obs I A s) :
    (reject bad e >>= f).Guards later change obs I A s := by
  by_cases hbad : bad
  · simp only [reject, if_pos hbad]
    trivial
  · simp only [reject, if_neg hbad]
    exact h hbad

theorem guards_ite {c : Prop} [Decidable c] {q : Prog Op Reply ε α}
    (hp : c → p.Guards later change obs I A s) (hq : ¬ c → q.Guards later change obs I A s) :
    (if c then p else q).Guards later change obs I A s := by
  by_cases hc : c
  · rw [if_pos hc]
    exact hp hc
  · rw [if_neg hc]
    exact hq hc

/-- **Going on after an error.**  What is known after an error is what every step keeps. -/
theorem Guards.handle {ε' : Type} {f : α → Prog Op Reply ε' β} {k : ε → Prog Op Reply ε' β}
    {B : σ → β → Prop} {F : σ → Prop} (hrefl : ∀ s, later s s)
    (hlater : ∀ s t, later s t → F s → F t) (hchange : ∀ s t, change s t → F s → F t)
    (hs : I s) (hF : F s) (h : p.Guards later change obs I A s)
    (hf : ∀ s a, I s → A s a → (f a).Guards later change obs I B s)
    (hk : ∀ s e, I s → F s → (k e).Guards later change obs I B s) :
    (p.handle f k).Guards later change obs I B s := by
  induction p generalizing s with
  | ret a => exact hf s a hs (h s (hrefl s) hs)
  | fail e => exact hk s e hs hF
  | call op next ih =>
    intro u hu hI r t hobs
    obtain ⟨hstep, hnext⟩ := h u hu hI r t hobs
    exact ⟨hstep, fun ht => ih r ht (hchange u t hstep (hlater s u hu hF)) (hnext ht)⟩

/-- The first `n` calls of a program, with an environment that answers as `H` does: what is left of
it, and the state. -/
def advance (H : (op : Op) → σ → Reply op × σ) :
    Nat → Prog Op Reply ε α → σ → Prog Op Reply ε α × σ
  | n + 1, .call op next, s => advance H n (next (H op s).1) (H op s).2
  | _, p, s => (p, s)

end Prog

open Prog Relation

/-- Threads on a shared state: what each of them still has to do. -/
structure Threads (Op : Type) (Reply : Op → Type) (ε σ ι : Type) where
  state : σ
  running : ι → Option (Prog Op Reply ε Unit)

namespace Threads

variable {Op : Type} {Reply : Op → Type} {ε σ ι : Type} [DecidableEq ι]

section Definitions

variable (obs : ι → σ → (op : Op) → Reply op → σ → Prop)
  (Starts : σ → ι → Prog Op Reply ε Unit → Prop)

/-- A step of one thread: it starts a program, makes its next call, or is stopped, at any call. -/
inductive Step (c : Threads Op Reply ε σ ι) (i : ι) : Threads Op Reply ε σ ι → Prop
  | start {p : Prog Op Reply ε Unit} : Starts c.state i p →
      Step c i ⟨c.state, Function.update c.running i (some p)⟩
  | call {op : Op} {next : Reply op → Prog Op Reply ε Unit} {r : Reply op} {s : σ} :
      c.running i = some (.call op next) → obs i c.state op r s →
      Step c i ⟨s, Function.update c.running i (some (next r))⟩
  | stop : Step c i ⟨c.state, Function.update c.running i none⟩

/-- What a run of the threads leads to. -/
def Reach : Threads Op Reply ε σ ι → Threads Op Reply ε σ ι → Prop :=
  ReflTransGen fun c d => ∃ i, Step obs Starts c i d

variable (later change : ι → σ → σ → Prop) (I : σ → Prop) (A : ι → σ → Prop)

/-- The programs that run keep the guarantees of their threads. -/
def Guarded (c : Threads Op Reply ε σ ι) : Prop :=
  ∀ i p, c.running i = some p →
    p.Guards (later i) (change i) (obs i) I (fun s _ => A i s) c.state

/-- The threads rely only on what the others guarantee, and start only programs that keep their own
guarantees. -/
structure Disciplined : Prop where
  refl : ∀ i s, later i s s
  trans : ∀ i a b c, later i a b → later i b c → later i a c
  others : ∀ i j s t, i ≠ j → I s → change j s t → later i s t
  keeps : ∀ i s t, I s → change i s t → I t
  starts : ∀ i p s, Starts s i p → I s → p.Guards (later i) (change i) (obs i) I
    (fun s _ => A i s) s

end Definitions

variable {obs : ι → σ → (op : Op) → Reply op → σ → Prop}
  {Starts : σ → ι → Prog Op Reply ε Unit → Prop}
  {later change : ι → σ → σ → Prop} {I : σ → Prop} {A : ι → σ → Prop} {c d : Threads Op Reply ε σ ι}
  {i : ι}

/-- A program in place of the one that a thread runs, in the same state. -/
theorem Guarded.update (h : c.Guarded obs later change I A) {q : Option (Prog Op Reply ε Unit)}
    (hq : ∀ p, q = some p →
      p.Guards (later i) (change i) (obs i) I (fun s _ => A i s) c.state) :
    Guarded obs later change I A ⟨c.state, Function.update c.running i q⟩ := by
  intro j p hp
  by_cases hj : j = i
  · subst hj
    simp only [Function.update_self] at hp
    exact hq p hp
  · simp only [Function.update_of_ne hj] at hp
    exact h j p hp

section

variable (hd : Disciplined obs Starts later change I A) (h : c.Guarded obs later change I A)
  (hI : I c.state)
include hd h hI

/-- One step: the guarantees stay, and the state changes as the thread guarantees. -/
theorem Guarded.step (hstep : Step obs Starts c i d) :
    d.Guarded obs later change I A ∧ (d.state = c.state ∨ change i c.state d.state) := by
  cases hstep with
  | start hp =>
    refine ⟨h.update fun p hsome => ?_, .inl rfl⟩
    cases hsome
    exact hd.starts i _ c.state hp hI
  | @call op next r s hrunning hobs =>
    obtain ⟨hchange, hnext⟩ := h i _ hrunning c.state (hd.refl i c.state) hI r s hobs
    refine ⟨fun j p hp => ?_, .inr hchange⟩
    by_cases hj : j = i
    · subst hj
      simp only [Function.update_self, Option.some.injEq] at hp
      rw [← hp]
      exact hnext (hd.keeps j _ _ hI hchange)
    · simp only [Function.update_of_ne hj] at hp
      exact (h j p hp).weaken (hd.trans j) (hd.others j i _ _ hj hI hchange)
  | stop => exact ⟨h.update fun _ hsome => (by cases hsome), .inl rfl⟩

/-- **The invariant and the guarantees hold wherever the threads get.** -/
theorem Guarded.reach (hreach : Reach obs Starts c d) :
    d.Guarded obs later change I A ∧ I d.state := by
  unfold Reach at hreach
  induction hreach with
  | refl => exact ⟨h, hI⟩
  | tail _ hstep ih =>
    obtain ⟨j, hstep⟩ := hstep
    obtain ⟨hguarded, hchanged⟩ := ih.1.step hd ih.2 hstep
    refine ⟨hguarded, ?_⟩
    rcases hchanged with hsame | hchanged
    · rw [hsame]
      exact ih.2
    · exact hd.keeps j _ _ ih.2 hchanged

/-- What a run does to the state is a sequence of guaranteed changes. -/
theorem changes (hreach : Reach obs Starts c d) :
    ReflTransGen (fun s t => I s ∧ ∃ i, change i s t) c.state d.state := by
  have hall := fun e (he : Reach obs Starts c e) => h.reach hd hI he
  unfold Reach at hreach hall
  induction hreach with
  | refl => exact .refl
  | tail hbefore hstep ih =>
    obtain ⟨j, hstep⟩ := hstep
    obtain ⟨hguarded, hinv⟩ := hall _ hbefore
    rcases (hguarded.step hd hinv hstep).2 with hsame | hchanged
    · rw [hsame]
      exact ih
    · exact ih.tail ⟨hinv, j, hchanged⟩

end

/-- A thread that runs to its end undisturbed, with an environment that answers as `H` does. -/
theorem reach_of_run {H : (op : Op) → σ → Reply op × σ}
    (hH : ∀ op s, obs i s op (H op s).1 (H op s).2) {p : Prog Op Reply ε Unit}
    (hp : c.running i = some p) (hok : (p.run H c.state).1 = .ok ()) :
    Reach obs Starts c ⟨(p.run H c.state).2, Function.update c.running i (some (.ret ()))⟩ := by
  induction p generalizing c with
  | ret a =>
    rw [← hp, Function.update_eq_self]
    exact .refl
  | fail e => cases hok
  | call op next ih =>
    have hstep : Step obs Starts c i
        ⟨(H op c.state).2, Function.update c.running i (some (next (H op c.state).1))⟩ :=
      .call hp (hH op c.state)
    have hrest := ih (H op c.state).1 (c := ⟨(H op c.state).2,
      Function.update c.running i (some (next (H op c.state).1))⟩) (by simp) hok
    simp only [Function.update_idem] at hrest
    exact .head ⟨i, hstep⟩ hrest

/-- A thread that makes its next calls undisturbed. -/
theorem reach_of_advance {H : (op : Op) → σ → Reply op × σ}
    (hH : ∀ op s, obs i s op (H op s).1 (H op s).2) (n : Nat) {p : Prog Op Reply ε Unit}
    (hp : c.running i = some p) :
    Reach obs Starts c
      ⟨(p.advance H n c.state).2, Function.update c.running i
        (some (p.advance H n c.state).1)⟩ := by
  have hrefl : Reach obs Starts c ⟨c.state, Function.update c.running i (some p)⟩ := by
    rw [← hp, Function.update_eq_self]
    exact .refl
  induction n generalizing c p with
  | zero => exact hrefl
  | succ n ih =>
    cases p with
    | ret a | fail e => exact hrefl
    | call op next =>
      have hstep : Step obs Starts c i
          ⟨(H op c.state).2, Function.update c.running i (some (next (H op c.state).1))⟩ :=
        .call hp (hH op c.state)
      have hrest := ih (c := ⟨(H op c.state).2,
        Function.update c.running i (some (next (H op c.state).1))⟩) (p := next (H op c.state).1)
        (by simp) (by rw [Function.update_idem]; exact .refl)
      simp only [Function.update_idem] at hrest
      exact .head ⟨i, hstep⟩ hrest

omit [DecidableEq ι] in
/-- A thread that has finished has established its postcondition. -/
theorem Guarded.finished (hd : Disciplined obs Starts later change I A)
    (h : c.Guarded obs later change I A) (hI : I c.state) (hdone : c.running i = some (.ret ())) :
    A i c.state :=
  h i _ hdone c.state (hd.refl i c.state) hI

end Threads
