import Mathlib.Data.List.Count
import Mathlib.Data.List.Infix

/-!
# Replacing all occurrences of a word

`replaceAll old new s` replaces the occurrences of the word `old` in `s` by `new`: the leftmost one,
then the leftmost one behind it, and so on, so that no two overlap.  The results say where the
occurrences are found, for words whose letters are told apart from the text around them.
-/

namespace Replace

variable {α : Type} [DecidableEq α]

/-- `strings.ReplaceAll` for a word that is not empty; `skip` letters still belong to the occurrence
found last. -/
def replaceAllFrom (old new : List α) : Nat → List α → List α
  | _, [] => []
  | skip + 1, _ :: s => replaceAllFrom old new skip s
  | 0, c :: s =>
    if old.isPrefixOf (c :: s) then new ++ replaceAllFrom old new (old.length - 1) s
    else c :: replaceAllFrom old new 0 s

/-- `strings.ReplaceAll` for a word that is not empty. -/
def replaceAll (old new s : List α) : List α := replaceAllFrom old new 0 s

variable {old new s : List α}

@[simp] theorem replaceAll_nil : replaceAll old new [] = [] := rfl

theorem replaceAllFrom_drop (skip : Nat) (s : List α) :
    replaceAllFrom old new skip s = replaceAll old new (s.drop skip) := by
  induction skip generalizing s with
  | zero => rfl
  | succ skip ih =>
    cases s with
    | nil => rfl
    | cons c s => exact ih s

/-- The word in front is found. -/
theorem replaceAll_append_self (hold : old ≠ []) (s : List α) :
    replaceAll old new (old ++ s) = new ++ replaceAll old new s := by
  cases old with
  | nil => exact absurd rfl hold
  | cons c old =>
    have hfront : (c :: old).isPrefixOf (c :: (old ++ s)) = true :=
      List.isPrefixOf_iff_prefix.mpr (List.prefix_append (c :: old) s)
    have hstep : replaceAll (c :: old) new (c :: (old ++ s)) =
        new ++ replaceAllFrom (c :: old) new ((c :: old).length - 1) (old ++ s) := by
      rw [replaceAll, replaceAllFrom, if_pos hfront]
    rw [List.cons_append, hstep, replaceAllFrom_drop]
    simp

/-- A letter that starts no occurrence stays. -/
theorem replaceAll_cons_of_no_match {c : α} (h : ¬ old <+: c :: s) :
    replaceAll old new (c :: s) = c :: replaceAll old new s := by
  have hfalse : old.isPrefixOf (c :: s) = false := by
    by_contra hfront
    exact h (List.isPrefixOf_iff_prefix.mp (by simpa using hfront))
  rw [replaceAll, replaceAllFrom, if_neg (by simp [hfalse])]
  rfl

/-- Letters that the word does not have stay. -/
theorem replaceAll_append_of_disjoint (hold : old ≠ []) {front : List α}
    (h : ∀ c ∈ front, c ∉ old) (s : List α) :
    replaceAll old new (front ++ s) = front ++ replaceAll old new s := by
  induction front with
  | nil => rfl
  | cons c front ih =>
    have hnot : ¬ old <+: c :: (front ++ s) := by
      cases old with
      | nil => exact absurd rfl hold
      | cons d old =>
        intro hfront
        obtain ⟨rfl, -⟩ := List.cons_prefix_cons.mp hfront
        exact h d List.mem_cons_self List.mem_cons_self
    rw [List.cons_append, replaceAll_cons_of_no_match hnot,
      ih fun c hc => h c (List.mem_cons_of_mem _ hc), List.cons_append]

/-- Nothing is found if a letter of the word does not occur. -/
theorem replaceAll_of_not_mem {c : α} (hc : c ∈ old) (h : c ∉ s) :
    replaceAll old new s = s := by
  induction s with
  | nil => rfl
  | cons d s ih =>
    have hnot : ¬ old <+: d :: s := fun hfront => h (hfront.subset hc)
    rw [replaceAll_cons_of_no_match hnot, ih fun hmem => h (List.mem_cons_of_mem _ hmem)]

/-! ## Texts with holes -/

variable (word : List α)

/-- A text with holes (`none`), filled with a word. -/
def mix (parts : List (Option (List α))) : List α :=
  parts.flatMap fun part => part.getD word

omit [DecidableEq α] in
theorem mix_append (front back : List (Option (List α))) :
    mix word (front ++ back) = mix word front ++ mix word back :=
  List.flatMap_append

omit [DecidableEq α] in
theorem mix_replicate_none (n : Nat) :
    mix word (List.replicate n none) = (List.replicate n word).flatten := by
  simp [mix, List.flatMap_def]

/-- In a text with holes filled with the word exactly the holes are found, if the text around them
has none of its letters. -/
theorem replaceAll_mix (hold : old ≠ []) {parts : List (Option (List α))}
    (h : ∀ text, some text ∈ parts → ∀ c ∈ text, c ∉ old) :
    replaceAll old new (mix old parts) = mix new parts := by
  induction parts with
  | nil => rfl
  | cons part parts ih =>
    have hrest := ih fun text htext => h text (List.mem_cons_of_mem _ htext)
    cases part with
    | none =>
      exact (replaceAll_append_self hold (mix old parts)).trans (congrArg (new ++ ·) hrest)
    | some text =>
      have hfront : replaceAll old new (text ++ mix old parts) =
          text ++ replaceAll old new (mix old parts) :=
        replaceAll_append_of_disjoint hold (h text List.mem_cons_self) _
      exact hfront.trans (congrArg (text ++ ·) hrest)

/-! ## Counting -/

/-- A word of one letter is replaced letter by letter. -/
theorem replaceAll_singleton (c : α) (s : List α) :
    replaceAll [c] new s = s.flatMap fun d => if d = c then new else [d] := by
  induction s with
  | nil => rfl
  | cons d s ih =>
    by_cases hd : d = c
    · subst hd
      have hself : replaceAll [d] new ([d] ++ s) = new ++ replaceAll [d] new s :=
        replaceAll_append_self (by simp) s
      simpa [ih] using hself
    · have hnot : ¬ [c] <+: d :: s := by
        intro hfront
        exact hd (List.cons_prefix_cons.mp hfront).1.symm
      rw [replaceAll_cons_of_no_match hnot, ih]
      simp [hd]

/-- Each occurrence takes the letters of the word and brings those of its replacement. -/
theorem count_replaceAll (hold : old ≠ []) (x : α) (s : List α) :
    ∃ k, (replaceAll old new s).count x + k * old.count x = s.count x + k * new.count x := by
  induction hn : s.length using Nat.strong_induction_on generalizing s with
  | _ n ih =>
    cases s with
    | nil => exact ⟨0, by simp⟩
    | cons c s =>
      by_cases hfront : old <+: c :: s
      · -- an occurrence in front
        obtain ⟨rest, hrest⟩ := hfront
        have hpos := List.length_pos_iff.mpr hold
        have hlength := congrArg List.length hrest
        simp only [List.length_append] at hlength
        obtain ⟨k, hk⟩ := ih rest.length (by omega) rest rfl
        refine ⟨k + 1, ?_⟩
        rw [← hrest, replaceAll_append_self hold]
        simp only [List.count_append]
        rw [Nat.add_mul, Nat.add_mul, Nat.one_mul, Nat.one_mul]
        omega
      · obtain ⟨k, hk⟩ := ih s.length (by simp at hn; omega) s rfl
        refine ⟨k, ?_⟩
        rw [replaceAll_cons_of_no_match hfront]
        simp only [List.count_cons]
        omega

end Replace
