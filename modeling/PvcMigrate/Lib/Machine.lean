import Mathlib.Data.List.Basic
import Mathlib.Tactic.Common

/-!
# Deterministic machines and their runs

A machine is a step function `σ → ι → σ`; a run is a list of inputs.  The file says what it
means that *every step* of a run satisfies a relation between the state it starts from and
its input, and gives the two rules the developments use: an invariant is carried along a run
whose steps all meet a side condition, and a relation that follows from the invariant then
holds of every step.
-/

namespace Machine

variable {σ ι : Type*} (step : σ → ι → σ)

/-- The state after a list of inputs. -/
def run (s : σ) (is : List ι) : σ := is.foldl step s

@[simp] theorem run_nil (s : σ) : run step s [] = s := rfl

@[simp] theorem run_cons (s : σ) (i : ι) (is : List ι) :
    run step s (i :: is) = run step (step s i) is := rfl

theorem run_append (s : σ) (is js : List ι) :
    run step s (is ++ js) = run step (run step s is) js := by
  simp [run]

/-- Every step of the run `is` from `s` is taken in a state and with an input that satisfy
`R`. -/
def Every (R : σ → ι → Prop) : σ → List ι → Prop
  | _, [] => True
  | s, i :: is => R s i ∧ Every R (step s i) is

instance decidableEvery (R : σ → ι → Prop) [∀ s i, Decidable (R s i)] :
    ∀ (s : σ) (is : List ι), Decidable (Every step R s is)
  | _, [] => isTrue trivial
  | s, i :: is =>
    have := decidableEvery R (step s i) is
    inferInstanceAs (Decidable (R s i ∧ Every step R (step s i) is))

variable {step} {R A : σ → ι → Prop} {I : σ → Prop}

@[simp] theorem every_nil (s : σ) : Every step R s [] := trivial

variable {s : σ} {is : List ι}

@[simp] theorem every_cons {i : ι} :
    Every step R s (i :: is) ↔ R s i ∧ Every step R (step s i) is := Iff.rfl

theorem every_append {js : List ι} :
    Every step R s (is ++ js) ↔ Every step R s is ∧ Every step R (run step s is) js := by
  induction is generalizing s with
  | nil => simp
  | cons i is ih => simp [ih, and_assoc]

/-- `Every` in terms of the prefixes of the run. -/
theorem every_iff :
    Every step R s is ↔
      ∀ front i rest, is = front ++ i :: rest → R (run step s front) i := by
  constructor
  · rintro h front i rest rfl
    exact (every_append.mp h).2.1
  · intro h
    induction is generalizing s with
    | nil => trivial
    | cons i is ih =>
      refine ⟨h [] i is rfl, ih ?_⟩
      rintro front j rest rfl
      exact h (i :: front) j rest rfl

/-- **The invariant rule.**  What holds initially and is kept by every step that meets the
side condition `A` holds after every run whose steps all meet it. -/
theorem invariant (keeps : ∀ s i, I s → A s i → I (step s i)) (hI : I s)
    (hA : Every step A s is) : I (run step s is) := by
  induction is generalizing s with
  | nil => exact hI
  | cons i is ih => exact ih (keeps s i hI hA.1) hA.2

/-- A relation that the invariant implies under the side condition holds of every step. -/
theorem every_of_invariant (keeps : ∀ s i, I s → A s i → I (step s i))
    (implies : ∀ s i, I s → A s i → R s i) (hI : I s)
    (hA : Every step A s is) : Every step R s is := by
  induction is generalizing s with
  | nil => trivial
  | cons i is ih => exact ⟨implies s i hI hA.1, ih (keeps s i hI hA.1) hA.2⟩

/-- Two relations that agree along the run hold of every step together. -/
theorem every_congr (h : Every step (fun t i => R t i ↔ A t i) s is) :
    Every step R s is ↔ Every step A s is := by
  induction is generalizing s with
  | nil => simp
  | cons i is ih => exact and_congr h.1 (ih h.2)

end Machine
