import Mathlib.Order.Lattice
import Mathlib.Tactic.Common

/-!
# Stores with ordered keys

A `KeyedStore K V` holds at most one value at each key and keeps its entries in the order of the
keys, as an object store does that lists its contents.  Everything it can be asked goes through
`select`: the entries whose keys satisfy a predicate, in order.  A change at one key is then
invisible to every selection that leaves the key out.
-/

/-- Values at keys of a linear order; the entries are kept in the order of their keys. -/
structure KeyedStore (K V : Type) [LinearOrder K] where
  entries : List (K × V)
  sorted : entries.Pairwise fun x y => x.1 < y.1

namespace KeyedStore

variable {K V : Type} [LinearOrder K]

/-- The store without entries. -/
def empty : KeyedStore K V := ⟨[], .nil⟩

/-- The entries whose keys satisfy `p`, in order. -/
def select (p : K → Bool) (s : KeyedStore K V) : List (K × V) :=
  s.entries.filter fun x => p x.1

/-- The value at a key. -/
def get (k : K) (s : KeyedStore K V) : Option V :=
  ((s.select fun x => x = k).head?).map Prod.snd

/-- Set the value at a key. -/
def put (k : K) (v : V) (s : KeyedStore K V) : KeyedStore K V where
  entries := (s.entries.filter fun x => x.1 < k) ++ (k, v) :: s.entries.filter fun x => k < x.1
  sorted := by
    refine List.pairwise_append.mpr
      ⟨s.sorted.filter _, List.pairwise_cons.mpr ⟨?_, s.sorted.filter _⟩, ?_⟩
    · intro y hy
      simpa using (List.mem_filter.mp hy).2
    · intro x hx y hy
      have hxk : x.1 < k := by simpa using (List.mem_filter.mp hx).2
      rcases List.mem_cons.mp hy with rfl | hy
      · exact hxk
      · have hky : k < y.1 := by simpa using (List.mem_filter.mp hy).2
        exact lt_trans hxk hky

/-- Remove the value at a key. -/
def erase (k : K) (s : KeyedStore K V) : KeyedStore K V where
  entries := s.entries.filter fun x => x.1 ≠ k
  sorted := s.sorted.filter _

/-- A selection keeps the order of the keys. -/
theorem sorted_select (p : K → Bool) (s : KeyedStore K V) :
    (s.select p).Pairwise fun x y => x.1 < y.1 :=
  s.sorted.filter _

@[simp] theorem select_empty (p : K → Bool) : (empty : KeyedStore K V).select p = [] := rfl

variable {p : K → Bool} {k : K}

/-- The only entry of a store. -/
theorem select_put_empty (hk : p k = true) (v : V) :
    ((empty : KeyedStore K V).put k v).select p = [(k, v)] := by
  simp [select, put, empty, hk]

/-- In a sorted list the entries around a key that `p` leaves out are all that `p` selects. -/
theorem filter_around (hk : p k = false) :
    ∀ {l : List (K × V)}, (l.Pairwise fun x y => x.1 < y.1) →
      (l.filter fun x => p x.1 && x.1 < k) ++ (l.filter fun x => p x.1 && k < x.1) =
        l.filter fun x => p x.1 := by
  intro l
  induction l with
  | nil => simp
  | cons x l ih =>
    intro hsorted
    obtain ⟨hx, hl⟩ := List.pairwise_cons.mp hsorted
    rcases lt_or_ge x.1 k with hlt | hge
    · -- `x` stands before the key
      by_cases hp : p x.1 = true <;> simp [hlt, not_lt_of_gt hlt, hp, ih hl]
    · -- from here on nothing stands before the key
      have hnone : l.filter (fun y => p y.1 && y.1 < k) = [] := by
        refine List.filter_eq_nil_iff.mpr fun y hy => ?_
        simpa using fun _ => le_of_lt (lt_of_le_of_lt hge (hx y hy))
      have hrest := ih hl
      rw [hnone, List.nil_append] at hrest
      rcases lt_or_eq_of_le hge with hgt | heq
      · by_cases hp : p x.1 = true <;> simp [hgt, not_lt_of_gt hgt, hp, hnone, hrest]
      · simp [← heq, hk, hnone, hrest]

/-- A value at a key that is not selected is not seen. -/
theorem select_put_of_not (hk : p k = false) (v : V) (s : KeyedStore K V) :
    (s.put k v).select p = s.select p := by
  simp only [select, put, List.filter_append]
  rw [List.filter_cons_of_neg (by simpa using hk), List.filter_filter, List.filter_filter]
  exact filter_around hk s.sorted

/-- Neither is its removal. -/
theorem select_erase_of_not (hk : p k = false) (s : KeyedStore K V) :
    (s.erase k).select p = s.select p := by
  simp only [select, erase, List.filter_filter]
  refine List.filter_congr fun x _ => ?_
  by_cases hp : p x.1 = true
  · have hne : x.1 ≠ k := by
      intro h
      rw [h, hk] at hp
      cases hp
    simp [hp, hne]
  · simp [hp]

theorem get_put_of_ne {k' : K} (h : k ≠ k') (v : V) (s : KeyedStore K V) :
    (s.put k v).get k' = s.get k' := by
  rw [get, get, select_put_of_not (by simpa using h)]

theorem get_erase_of_ne {k' : K} (h : k ≠ k') (s : KeyedStore K V) :
    (s.erase k).get k' = s.get k' := by
  rw [get, get, select_erase_of_not (by simpa using h)]

/-- In a sorted list the entries after an entry are those with greater keys. -/
theorem filter_after {front back : List (K × V)} {x : K × V}
    (h : (front ++ x :: back).Pairwise fun x y => x.1 < y.1) :
    (front ++ x :: back).filter (fun y => x.1 < y.1) = back := by
  obtain ⟨-, hxback, hfront⟩ := List.pairwise_append.mp h
  have hnone : front.filter (fun y => x.1 < y.1) = [] := by
    refine List.filter_eq_nil_iff.mpr fun y hy => ?_
    simpa using le_of_lt (hfront y hy x List.mem_cons_self)
  have hall : back.filter (fun y => x.1 < y.1) = back := by
    refine List.filter_eq_self.mpr fun y hy => ?_
    simpa using (List.pairwise_cons.mp hxback).1 y hy
  simp [hnone, hall]

end KeyedStore
