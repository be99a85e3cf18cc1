import Mathlib.Tactic.Common

/-!
# Checks

A check is a value of `Except ε Unit`: it passes, or it reports an error.  A validator is a
sequence of checks, some of them in a loop, and what it accepts is the conjunction of what its
checks accept.
-/

namespace Check

variable {ε α β κ : Type}

/-- Report `e` if `bad` holds. -/
def refuse (bad : Prop) [Decidable bad] (e : ε) : Except ε Unit :=
  if bad then .error e else .ok ()

@[simp] theorem refuse_eq_ok {bad : Prop} [Decidable bad] {e : ε} :
    refuse bad e = .ok () ↔ ¬ bad := by
  unfold refuse
  split <;> simp_all

/-- A check that passes, as a step of a computation. -/
theorem refuse_of_not {bad : Prop} [Decidable bad] (h : ¬ bad) {e : ε} :
    refuse bad e = pure () :=
  refuse_eq_ok.mpr h

/-- A check in front of a computation. -/
@[simp] theorem andThen_eq_ok {check : Except ε Unit} {next : Unit → Except ε β} {b : β} :
    (check >>= next) = .ok b ↔ check = .ok () ∧ next () = .ok b := by
  rcases check with e | ⟨⟨⟩⟩
  · constructor
    · intro h
      cases h
    · rintro ⟨h, -⟩
      cases h
  · exact ⟨fun h => ⟨rfl, h⟩, And.right⟩

/-- A computation in front of another one. -/
theorem bind_eq_ok {first : Except ε α} {next : α → Except ε β} {b : β} :
    (first >>= next) = .ok b ↔ ∃ a, first = .ok a ∧ next a = .ok b := by
  cases first with
  | error e =>
    constructor
    · intro h
      cases h
    · rintro ⟨a, h, -⟩
      cases h
  | ok a =>
    constructor
    · intro h
      exact ⟨a, rfl, h⟩
    · rintro ⟨a', h, hnext⟩
      cases h
      exact hnext

/-- A check that is made only under a condition. -/
def onlyIf (c : Prop) [Decidable c] (check : Except ε Unit) : Except ε Unit :=
  if c then check else .ok ()

@[simp] theorem onlyIf_eq_ok {c : Prop} [Decidable c] {check : Except ε Unit} :
    onlyIf c check = .ok () ↔ (c → check = .ok ()) := by
  unfold onlyIf
  split <;> simp_all

/-- The key of `x` is not known, and `f` accepts `x`; then the rest, with the key known. -/
def eachFresh [DecidableEq κ] (key : α → κ) (duplicate : ε) (f : α → Except ε Unit) :
    List κ → List α → Except ε Unit
  | _, [] => pure ()
  | seen, x :: xs => do
    refuse (key x ∈ seen) duplicate
    f x
    eachFresh key duplicate f (seen ++ [key x]) xs

theorem eachFresh_eq_ok [DecidableEq κ] {key : α → κ} {duplicate : ε} {f : α → Except ε Unit}
    {seen : List κ} {xs : List α} :
    eachFresh key duplicate f seen xs = .ok () ↔
      (∀ x ∈ xs, key x ∉ seen ∧ f x = .ok ()) ∧ xs.Pairwise fun x y => key x ≠ key y := by
  induction xs generalizing seen with
  | nil => simp [eachFresh, pure, Except.pure]
  | cons x xs ih =>
    simp only [eachFresh, andThen_eq_ok, refuse_eq_ok, ih, List.forall_mem_cons,
      List.pairwise_cons, List.mem_append, List.mem_singleton, not_or]
    constructor
    · rintro ⟨hfresh, hx, hrest, hdistinct⟩
      exact ⟨⟨⟨hfresh, hx⟩, fun y hy => ⟨(hrest y hy).1.1, (hrest y hy).2⟩⟩,
        fun y hy => Ne.symm (hrest y hy).1.2, hdistinct⟩
    · rintro ⟨⟨⟨hfresh, hx⟩, hrest⟩, hne, hdistinct⟩
      exact ⟨hfresh, hx, fun y hy => ⟨⟨(hrest y hy).1, (hne y hy).symm⟩, (hrest y hy).2⟩,
        hdistinct⟩

/-- If every result of `f` agrees under `g` with its argument under `h`, so do the results of a
loop. -/
theorem map_eq_of_mapM_ok {γ : Type} {f : α → Except ε β} {g : β → γ} {h : α → γ} {xs : List α}
    {ys : List β} (hok : xs.mapM f = .ok ys)
    (hagree : ∀ x ∈ xs, ∀ y, f x = .ok y → g y = h x) : ys.map g = xs.map h := by
  induction xs generalizing ys with
  | nil =>
    rw [List.mapM_nil] at hok
    cases hok
    rfl
  | cons x xs ih =>
    rw [List.mapM_cons, bind_eq_ok] at hok
    obtain ⟨y, hx, hok⟩ := hok
    rw [bind_eq_ok] at hok
    obtain ⟨rest, hxs, hok⟩ := hok
    cases hok
    rw [List.map_cons, List.map_cons, hagree x List.mem_cons_self y hx,
      ih hxs fun x' hmem => hagree x' (List.mem_cons_of_mem _ hmem)]

theorem forM_eq_ok {f : α → Except ε Unit} {xs : List α} :
    xs.forM f = .ok () ↔ ∀ x ∈ xs, f x = .ok () := by
  induction xs with
  | nil => simp [pure, Except.pure]
  | cons x xs ih =>
    have hstep : (x :: xs).forM f = f x >>= fun _ => xs.forM f := rfl
    rw [hstep, andThen_eq_ok, ih, List.forall_mem_cons]

end Check
