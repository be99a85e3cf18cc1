import Mathlib.Data.List.Nodup
import Mathlib.Tactic.Common

/-!
# Registries

An API server keeps objects under names, at most one under each, and lists them.  A `Registry` is
such a list together with the proof that no name occurs twice.  Objects are changed and removed by
one operation, `evolve`, which leaves the names alone; what it does to a lookup and to a filtered
list is all that a client has to know.
-/

/-- Objects under distinct names. -/
structure Registry {α κ : Type} (key : α → κ) where
  objects : List α
  unique : (objects.map key).Nodup

namespace Registry

variable {α κ : Type} {key : α → κ} (r : Registry key)

/-- The object of a name. -/
def find [DecidableEq κ] (k : κ) : Option α := r.objects.find? fun x => decide (key x = k)

/-- The objects with a property. -/
def select (p : α → Bool) : List α := r.objects.filter p

/-- A change that keeps the names. -/
def KeepsKey (key : α → κ) (g : α → Option α) : Prop := ∀ x y, g x = some y → key y = key x

theorem sublist_map_filterMap {g : α → Option α} (hg : KeepsKey key g) (xs : List α) :
    ((xs.filterMap g).map key).Sublist (xs.map key) := by
  induction xs with
  | nil => exact List.Sublist.slnil
  | cons x xs ih =>
    cases h : g x with
    | none =>
      rw [List.filterMap_cons_none h, List.map_cons]
      exact ih.cons _
    | some y =>
      rw [List.filterMap_cons_some h, List.map_cons, List.map_cons, hg x y h]
      exact ih.cons_cons _

/-- Change or remove objects. -/
def evolve (g : α → Option α) (hg : KeepsKey key g) : Registry key where
  objects := r.objects.filterMap g
  unique := r.unique.sublist (sublist_map_filterMap hg r.objects)

/-- A change of one object. -/
def changeAt [DecidableEq κ] (key : α → κ) (k : κ) (f : α → α) (x : α) : Option α :=
  some (if key x = k then f x else x)

theorem keepsKey_changeAt [DecidableEq κ] {k : κ} {f : α → α} (hf : ∀ x, key (f x) = key x) :
    KeepsKey key (changeAt key k f) := by
  intro x y h
  simp only [changeAt, Option.some.injEq] at h
  subst h
  split
  · exact hf x
  · rfl

/-- Change the object of a name. -/
def modify [DecidableEq κ] (k : κ) (f : α → α) (hf : ∀ x, key (f x) = key x) : Registry key :=
  r.evolve (changeAt key k f) (keepsKey_changeAt hf)

variable {r} {g : α → Option α} {hg : KeepsKey key g} {x y : α} {k : κ} {p : α → Bool}

theorem mem_evolve : y ∈ (r.evolve g hg).objects ↔ ∃ x ∈ r.objects, g x = some y :=
  List.mem_filterMap

theorem mem_select : x ∈ r.select p ↔ x ∈ r.objects ∧ p x = true := List.mem_filter

/-- Two objects of one name are the same. -/
theorem eq_of_key (hx : x ∈ r.objects) (hy : y ∈ r.objects) (h : key x = key y) : x = y :=
  List.inj_on_of_nodup_map r.unique hx hy h

section Find

variable [DecidableEq κ]

/-- **A lookup finds the object of the name.** -/
theorem find_eq_some : r.find k = some x ↔ x ∈ r.objects ∧ key x = k := by
  constructor
  · intro h
    exact ⟨List.mem_of_find?_eq_some h, of_decide_eq_true (List.find?_some h :)⟩
  · intro ⟨hx, hk⟩
    cases h : r.find k with
    | none =>
      have hnone := List.find?_eq_none.mp h x hx
      simp [hk] at hnone
    | some y =>
      have hy : y ∈ r.objects := List.mem_of_find?_eq_some h
      have hyk : key y = k := of_decide_eq_true (List.find?_some h :)
      rw [eq_of_key hy hx (hyk.trans hk.symm)]

theorem find_eq_none : r.find k = none ↔ ∀ x ∈ r.objects, key x ≠ k := by
  simp [find, List.find?_eq_none]

theorem mem_of_find (h : r.find k = some x) : x ∈ r.objects := (find_eq_some.mp h).1

theorem key_of_find (h : r.find k = some x) : key x = k := (find_eq_some.mp h).2

theorem mem_modify {f : α → α} (hf : ∀ x, key (f x) = key x) (h : y ∈ (r.modify k f hf).objects) :
    ∃ x ∈ r.objects, y = if key x = k then f x else x := by
  obtain ⟨x, hx, hy⟩ := mem_evolve.mp h
  exact ⟨x, hx, (Option.some.inj hy).symm⟩

end Find

end Registry
