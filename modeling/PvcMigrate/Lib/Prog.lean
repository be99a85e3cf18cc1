import Mathlib.Data.List.Basic
import Mathlib.Tactic.Common

/-!
# Programs that can stop at any call

A program over an interface of operations either returns, raises an error, or calls an
operation and continues with its reply.  The syntax is kept apart from its meaning: a handler
says what an operation answers and how it changes the world.

A process that runs such a program can stop at any moment: before its first call, between two
calls, after the last one.  `stops` lists the worlds it can leave behind.  `calls` lists the
calls it makes, each with the world it is made in.  `wp` is the weakest precondition for a
crash condition on the stops, a condition on the calls and a postcondition; it computes, so a
proof about all stops of a program is a symbolic execution.
-/

/-- Programs over the operations `Op`, whose replies have the type `Reply op`. -/
inductive Prog (Op : Type) (Reply : Op → Type) (ε α : Type)
  | ret (a : α)
  | fail (e : ε)
  | call (op : Op) (next : Reply op → Prog Op Reply ε α)

namespace Prog

variable {Op : Type} {Reply : Op → Type} {ε α β σ : Type}

/-! ## Composition -/

/-- Run a program and continue with its result. -/
protected def bind : Prog Op Reply ε α → (α → Prog Op Reply ε β) → Prog Op Reply ε β
  | ret a, f => f a
  | fail e, _ => fail e
  | call op next, f => call op fun r => (next r).bind f

/-- Run a program and recover from its error. -/
protected def tryCatch : Prog Op Reply ε α → (ε → Prog Op Reply ε α) → Prog Op Reply ε α
  | ret a, _ => ret a
  | fail e, handle => handle e
  | call op next, handle => call op fun r => (next r).tryCatch handle

/-- Run a program and go on with its result or with its error. -/
def handle {ε' : Type} :
    Prog Op Reply ε α → (α → Prog Op Reply ε' β) → (ε → Prog Op Reply ε' β) → Prog Op Reply ε' β
  | ret a, f, _ => f a
  | fail e, _, g => g e
  | call op next, f, g => call op fun r => (next r).handle f g

instance : Monad (Prog Op Reply ε) where
  pure := ret
  bind := Prog.bind

/-- Call one operation. -/
def perform (op : Op) : Prog Op Reply ε (Reply op) := call op ret

/-- Fail with `e` if `bad` holds. -/
def reject (bad : Prop) [Decidable bad] (e : ε) : Prog Op Reply ε Unit :=
  if bad then fail e else ret ()

/-- Run a program for each element of a list, in order. -/
def each (f : α → Prog Op Reply ε Unit) : List α → Prog Op Reply ε Unit
  | [] => ret ()
  | x :: xs => f x >>= fun _ => each f xs

/-- Run a program for each element of a list, handing on a state. -/
def fold (f : σ → α → Prog Op Reply ε σ) : σ → List α → Prog Op Reply ε σ
  | s, [] => ret s
  | s, x :: xs => f s x >>= fun t => fold f t xs

/-- Run a program for each element of a list and collect the results that are there. -/
def gather (f : α → Prog Op Reply ε (Option β)) : List α → Prog Op Reply ε (List β)
  | [] => ret []
  | x :: xs => do
    let y ← f x
    let ys ← gather f xs
    pure (y.toList ++ ys)

/-! ## Meaning -/

variable (H : (op : Op) → σ → Reply op × σ)

/-- The result of a program and the world it leaves. -/
def run : Prog Op Reply ε α → σ → Except ε α × σ
  | ret a, s => (.ok a, s)
  | fail e, s => (.error e, s)
  | call op next, s => (next (H op s).1).run (H op s).2

/-- The worlds a process running the program can leave behind, in order. -/
def stops : Prog Op Reply ε α → σ → List σ
  | ret _, s | fail _, s => [s]
  | call op next, s => s :: (next (H op s).1).stops (H op s).2

/-- The calls of a program, each with the world it is made in. -/
def calls : Prog Op Reply ε α → σ → List (σ × Op)
  | ret _, _ | fail _, _ => []
  | call op next, s => (s, op) :: (next (H op s).1).calls (H op s).2

/-- The weakest precondition of a program for the crash condition `C` on its stops, the
condition `G` on its calls and the postcondition `Q` on its result and last world. -/
def wp (C : σ → Prop) (G : σ → Op → Prop) (Q : Except ε α → σ → Prop) :
    Prog Op Reply ε α → σ → Prop
  | ret a, s => C s ∧ Q (.ok a) s
  | fail e, s => C s ∧ Q (.error e) s
  | call op next, s => C s ∧ G s op ∧ (next (H op s).1).wp C G Q (H op s).2

variable {H} {C C' : σ → Prop} {G G' : σ → Op → Prop} {Q Q' : Except ε α → σ → Prop}
  {p : Prog Op Reply ε α} {s : σ}

/-- **What `wp` means**: every stop satisfies `C`, every call satisfies `G`, and the result
satisfies `Q`. -/
theorem wp_iff : wp H C G Q p s ↔
    (∀ t ∈ stops H p s, C t) ∧ (∀ c ∈ calls H p s, G c.1 c.2) ∧
      Q (run H p s).1 (run H p s).2 := by
  induction p generalizing s with
  | ret a | fail e => simp [wp, stops, calls, run]
  | call op next ih =>
    simp only [wp, stops, calls, run, ih, List.forall_mem_cons]
    tauto

/-- A stop that every crash condition has to cover is a stop of the program. -/
theorem exists_mem_stops {T : σ → Prop}
    (h : ∀ C : σ → Prop, wp H C (fun _ _ => True) (fun _ _ => True) p s → ∃ t, C t ∧ T t) :
    ∃ t ∈ stops H p s, T t := by
  by_contra hnone
  push Not at hnone
  obtain ⟨t, hC, hT⟩ := h (fun t => ¬ T t)
    (wp_iff.mpr ⟨hnone, fun _ _ => trivial, trivial⟩)
  exact hC hT

/-- The crash condition holds where the program starts. -/
theorem wp_crash (h : wp H C G Q p s) : C s := by
  cases p <;> exact h.1

/-! ## Rules -/

variable {a : α} {e : ε} {f : α → Prog Op Reply ε β} {bad : Prop}

@[simp] theorem wp_pure :
    wp H C G Q (pure a : Prog Op Reply ε α) s ↔ C s ∧ Q (.ok a) s := Iff.rfl

@[simp] theorem wp_ret :
    wp H C G Q (ret a : Prog Op Reply ε α) s ↔ C s ∧ Q (.ok a) s := Iff.rfl

@[simp] theorem wp_fail :
    wp H C G Q (fail e : Prog Op Reply ε α) s ↔ C s ∧ Q (.error e) s := Iff.rfl

/-- The postcondition a first program has to meet for a second one to follow it. -/
def andThen (H : (op : Op) → σ → Reply op × σ) (C : σ → Prop) (G : σ → Op → Prop)
    (Q : Except ε β → σ → Prop) (f : α → Prog Op Reply ε β) : Except ε α → σ → Prop
  | .ok a, s => wp H C G Q (f a) s
  | .error e, s => Q (.error e) s

@[simp] theorem andThen_ok {Q : Except ε β → σ → Prop} :
    andThen H C G Q f (.ok a) s = wp H C G Q (f a) s := rfl

@[simp] theorem andThen_error {Q : Except ε β → σ → Prop} :
    andThen H C G Q f (.error e) s = Q (.error e) s := rfl

/-- **Sequencing.** -/
theorem wp_bind {Q : Except ε β → σ → Prop} :
    wp H C G Q (p >>= f) s ↔ wp H C G (andThen H C G Q f) p s := by
  show wp H C G Q (p.bind f) s ↔ _
  induction p generalizing s with
  | ret a => exact ⟨fun h => ⟨wp_crash h, h⟩, fun h => h.2⟩
  | fail e => exact Iff.rfl
  | call op next ih => exact and_congr_right fun _ => and_congr_right fun _ => ih _

/-- **Recovering from an error.** -/
theorem wp_tryCatch {handle : ε → Prog Op Reply ε α} :
    wp H C G Q (p.tryCatch handle) s ↔
      wp H C G (fun r t => match r with
        | .ok a => Q (.ok a) t
        | .error e => wp H C G Q (handle e) t) p s := by
  induction p generalizing s with
  | ret a => exact Iff.rfl
  | fail e => exact ⟨fun h => ⟨wp_crash h, h⟩, fun h => h.2⟩
  | call op next ih => exact and_congr_right fun _ => and_congr_right fun _ => ih _

@[simp] theorem wp_reject [Decidable bad] {Q : Except ε Unit → σ → Prop} :
    wp H C G Q (reject bad e : Prog Op Reply ε Unit) s ↔
      C s ∧ (bad → Q (.error e) s) ∧ (¬ bad → Q (.ok ()) s) := by
  unfold reject
  split <;> simp_all

/-- A guard in front of a program. -/
theorem wp_reject_bind [Decidable bad] {Q : Except ε β → σ → Prop} {f : Unit → Prog Op Reply ε β} :
    wp H C G Q (reject bad e >>= f) s ↔
      if bad then C s ∧ Q (.error e) s else wp H C G Q (f ()) s := by
  unfold reject
  split <;> exact Iff.rfl

variable {op : Op}

theorem wp_perform_bind {Q : Except ε β → σ → Prop} {f : Reply op → Prog Op Reply ε β} :
    wp H C G Q (perform op >>= f) s ↔
      C s ∧ G s op ∧ wp H C G Q (f (H op s).1) (H op s).2 := Iff.rfl

/-- A call that does not change the world adds nothing to what follows it. -/
theorem wp_perform_bind_read {Q : Except ε β → σ → Prop} {f : Reply op → Prog Op Reply ε β}
    (h : (H op s).2 = s) (hG : G s op) :
    wp H C G Q (perform op >>= f) s ↔ wp H C G Q (f (H op s).1) s := by
  rw [wp_perform_bind, h]
  exact ⟨fun hwp => hwp.2.2, fun hwp => ⟨wp_crash hwp, hG, hwp⟩⟩

/-! ## Evaluating a program -/

@[simp] theorem run_pure : run H (pure a : Prog Op Reply ε α) s = (.ok a, s) := rfl

@[simp] theorem run_ret : run H (ret a : Prog Op Reply ε α) s = (.ok a, s) := rfl

@[simp] theorem run_fail : run H (fail e : Prog Op Reply ε α) s = (.error e, s) := rfl

@[simp] theorem run_fail_bind :
    run H ((fail e : Prog Op Reply ε α) >>= f) s = (.error e, s) := rfl

@[simp] theorem run_pure_bind :
    run H ((pure a : Prog Op Reply ε α) >>= f) s = run H (f a) s := rfl

theorem run_bind :
    run H (p >>= f) s = match run H p s with
      | (.ok a, t) => run H (f a) t
      | (.error e, t) => (.error e, t) := by
  show run H (p.bind f) s = _
  induction p generalizing s with
  | ret a | fail e => rfl
  | call op next ih => exact ih _

@[simp] theorem run_perform_bind {f : Reply op → Prog Op Reply ε β} :
    run H (perform op >>= f) s = run H (f (H op s).1) (H op s).2 := rfl

theorem run_tryCatch (p : Prog Op Reply ε α) (handle : ε → Prog Op Reply ε α) (s : σ) :
    run H (p.tryCatch handle) s = match run H p s with
      | (.ok a, t) => (.ok a, t)
      | (.error e, t) => run H (handle e) t := by
  induction p generalizing s with
  | ret a | fail e => rfl
  | call op next ih => exact ih _ _

/-- A value in place of the result. -/
theorem run_bind_pure_snd {b : β} : (run H (p >>= fun _ => pure b) s).2 = (run H p s).2 := by
  rw [run_bind]
  cases run H p s with
  | mk result t => cases result <;> rfl

/-- A program that is not stopped ends where it can stop. -/
theorem run_mem_stops (p : Prog Op Reply ε α) (s : σ) : (run H p s).2 ∈ stops H p s := by
  induction p generalizing s with
  | ret a | fail e => exact List.mem_singleton_self _
  | call op next ih => exact List.mem_cons_of_mem _ (ih _ _)

@[simp] theorem run_reject_bind [Decidable bad] {f : Unit → Prog Op Reply ε β} :
    run H (reject bad e >>= f) s = if bad then (.error e, s) else run H (f ()) s := by
  unfold reject
  split <;> rfl

@[simp] theorem run_reject [Decidable bad] :
    run H (reject bad e : Prog Op Reply ε Unit) s =
      if bad then (.error e, s) else (.ok (), s) := by
  unfold reject
  split <;> rfl

/-! ## Programs that only make some of the calls -/

/-- Every call the program can make, whatever the replies, is one of `R`. -/
def Only (R : Op → Prop) : Prog Op Reply ε α → Prop
  | ret _ | fail _ => True
  | call op next => R op ∧ ∀ r, (next r).Only R

section Only

variable {R R' : Op → Prop}

theorem only_pure : (pure a : Prog Op Reply ε α).Only R := trivial

theorem only_fail : (fail e : Prog Op Reply ε α).Only R := trivial

theorem only_perform {op : Op} (h : R op) :
    (perform op : Prog Op Reply ε (Reply op)).Only R := ⟨h, fun _ => trivial⟩

theorem only_reject [Decidable bad] : (reject bad e : Prog Op Reply ε Unit).Only R := by
  unfold reject
  split <;> trivial

theorem only_bind (hp : p.Only R) (hf : ∀ a, (f a).Only R) : (p >>= f).Only R := by
  show (p.bind f).Only R
  induction p with
  | ret a => exact hf a
  | fail e => trivial
  | call op next ih => exact ⟨hp.1, fun r => ih r (hp.2 r)⟩

theorem only_reject_bind [Decidable bad] {f : Unit → Prog Op Reply ε β} (hf : (f ()).Only R) :
    (reject bad e >>= f).Only R := only_bind only_reject fun _ => hf

theorem only_each {f : α → Prog Op Reply ε Unit} {xs : List α} (hf : ∀ x ∈ xs, (f x).Only R) :
    (each f xs).Only R := by
  induction xs with
  | nil => trivial
  | cons x xs ih =>
    rw [List.forall_mem_cons] at hf
    exact only_bind hf.1 fun _ => ih hf.2

theorem only_gather {f : α → Prog Op Reply ε (Option β)} {xs : List α}
    (hf : ∀ x ∈ xs, (f x).Only R) : (gather f xs).Only R := by
  induction xs with
  | nil => trivial
  | cons x xs ih =>
    rw [List.forall_mem_cons] at hf
    exact only_bind hf.1 fun _ => only_bind (ih hf.2) fun _ => only_pure

theorem only_ite {c : Prop} [Decidable c] {q : Prog Op Reply ε α} (hp : p.Only R)
    (hq : q.Only R) : (if c then p else q).Only R := by
  split <;> assumption

/-- **Reading.**  A program whose calls all leave the world alone is an evaluation: its stops
are the world it starts in, and only its result matters. -/
theorem wp_of_only (h : p.Only R) (hH : ∀ op, R op → ∀ t, (H op t).2 = t)
    (hG : ∀ op, R op → G s op) :
    wp H C G Q p s ↔ C s ∧ Q (run H p s).1 s := by
  induction p with
  | ret a | fail e => exact Iff.rfl
  | call op next ih =>
    simp only [wp, run, hH op h.1, ih _ (h.2 _)]
    exact ⟨fun hwp => hwp.2.2, fun hwp => ⟨hwp.1, hG op h.1, hwp⟩⟩

theorem run_snd_of_only (h : p.Only R) (hH : ∀ op, R op → ∀ t, (H op t).2 = t) :
    (run H p s).2 = s := by
  induction p with
  | ret a | fail e => rfl
  | call op next ih => simp only [run, hH op h.1, ih _ (h.2 _)]

end Only

/-! ## Running a program again after every stop -/

variable (H p s) in
/-- The worlds reached from `s` by running the program any number of times, each run stopped
anywhere and the next one started from a stop that satisfies `A`. -/
inductive Reruns (A : σ → Prop) : σ → Prop
  | refl : Reruns A s
  | step {t u : σ} : Reruns A t → u ∈ stops H p t → A u → Reruns A u

/-- **The recovery rule.**  A condition under which every run of the program succeeds, and
which every stop of every run re-establishes, survives any number of interrupted runs; the
next run that is not interrupted succeeds. -/
theorem recovers {A I : σ → Prop} (h : ∀ t, I t → wp H (fun u => A u → I u) G Q p t) {t : σ}
    (hs : I s) (hreruns : Reruns H p s A t) : I t ∧ Q (run H p t).1 (run H p t).2 := by
  have hI : I t := by
    induction hreruns with
    | refl => exact hs
    | step _ hstop hA ih => exact (wp_iff.mp (h _ ih)).1 _ hstop hA
  exact ⟨hI, (wp_iff.mp (h t hI)).2.2⟩

end Prog
