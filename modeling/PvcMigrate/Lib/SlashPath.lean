import Mathlib.Data.List.Infix
import PvcMigrate.Lib.Text

/-!
# Slash-separated paths

Paths as lists of characters, with the operations of Go's `path` package.  A path is read through
its segments: `split` cuts it at every slash, and nothing is lost, so two paths with the same
segments are equal.  A path all of whose segments are proper (not empty, neither `.` nor `..`) is
what `clean` makes of it, and joining such paths appends their segments.
-/

namespace SlashPath

variable {path other seg name : Text}

/-- `strings.Split(path, "/")`. -/
def split (path : Text) : List Text := path.splitOn '/'

/-- `strings.Join(segments, "/")`. -/
def unsplit (segments : List Text) : Text := ['/'].intercalate segments

/-- The segments of `path.Clean`: `.` and empty segments go, `..` takes the segment before it
along.  `kept` holds the segments so far, the last one first. -/
def resolve (rooted : Bool) : List Text → List Text → List Text
  | kept, [] => kept.reverse
  | kept, seg :: rest =>
    if seg = [] ∨ seg = ['.'] then resolve rooted kept rest
    else if seg = ['.', '.'] then
      match kept with
      | [] => if rooted then resolve rooted [] rest else resolve rooted [['.', '.']] rest
      | last :: before =>
        if last = ['.', '.'] then resolve rooted (seg :: kept) rest
        else resolve rooted before rest
    else resolve rooted (seg :: kept) rest

/-- `path.IsAbs`. -/
def isAbs (path : Text) : Bool := path.head? == some '/'

/-- `path.Clean`. -/
def clean (path : Text) : Text :=
  let body := unsplit (resolve (isAbs path) [] (split path))
  if isAbs path then '/' :: body else if body = [] then ['.'] else body

/-- `path.Join`: empty elements in front are left out. -/
def join (elements : List Text) : Text :=
  match elements.dropWhile (· = []) with
  | [] => []
  | nonempty => clean (unsplit nonempty)

/-! ## Segments -/

@[simp] theorem unsplit_split (path : Text) : unsplit (split path) = path :=
  List.intercalate_splitOn '/'

theorem split_injective (h : split path = split other) : path = other := by
  rw [← unsplit_split path, h, unsplit_split]

theorem split_ne_nil (path : Text) : split path ≠ [] := List.splitOn_ne_nil '/' path

theorem split_of_not_mem (h : '/' ∉ seg) : split seg = [seg] := List.splitOn_eq_singleton h

/-- The segments of a path below another one. -/
theorem split_append_slash (path rest : Text) :
    split (path ++ '/' :: rest) = split path ++ split rest :=
  List.splitOnP_append_cons path rest (by simp)

variable {front segments : List Text}

theorem unsplit_append {back : List Text} (hfront : front ≠ []) (hback : back ≠ []) :
    unsplit (front ++ back) = unsplit front ++ '/' :: unsplit back := by
  induction front with
  | nil => exact absurd rfl hfront
  | cons seg front ih =>
    by_cases h : front = []
    · subst h
      simp [unsplit, List.intercalate_cons_of_ne_nil hback]
    · have hne : front ++ back ≠ [] := by simp [h]
      rw [List.cons_append, unsplit, List.intercalate_cons_of_ne_nil hne, unsplit,
        List.intercalate_cons_of_ne_nil h, ← unsplit, ← unsplit, ih h]
      simp

/-- A path is below another one iff the other's segments are in front of its own, and not all
of them. -/
theorem append_slash_prefix_iff :
    path ++ ['/'] <+: other ↔ ∃ rest, rest ≠ [] ∧ split other = split path ++ rest := by
  constructor
  · rintro ⟨rest, rfl⟩
    refine ⟨split rest, split_ne_nil rest, ?_⟩
    rw [List.append_assoc]
    exact split_append_slash path rest
  · rintro ⟨rest, hne, h⟩
    refine ⟨unsplit rest, ?_⟩
    rw [← unsplit_split other, h, unsplit_append (split_ne_nil path) hne, unsplit_split]
    simp

/-- The segments of a path that was put together from segments. -/
theorem split_unsplit (hne : segments ≠ [])
    (hslash : ∀ seg ∈ segments, '/' ∉ seg) : split (unsplit segments) = segments :=
  List.splitOn_intercalate '/' hslash hne

/-- No segment holds a slash. -/
theorem slash_notMem_of_mem_split (h : seg ∈ split path) : '/' ∉ seg := by
  induction path generalizing seg with
  | nil => simp_all [split]
  | cons c path ih =>
    by_cases hc : c = '/'
    · have hsplit : split (c :: path) = [] :: split path := by
        rw [hc]
        exact split_append_slash [] path
      rw [hsplit] at h
      rcases List.mem_cons.mp h with rfl | h
      · simp
      · exact ih h
    · have hsplit : split (c :: path) = (split path).modifyHead (c :: ·) := by
        simp [split, List.splitOn, List.splitOnP_cons_eq_if_modifyHead, hc]
      obtain ⟨first, rest, hpath⟩ := List.exists_cons_of_ne_nil (split_ne_nil path)
      rw [hsplit, hpath, List.modifyHead_cons] at h
      rw [hpath] at ih
      rcases List.mem_cons.mp h with rfl | h
      · have hfirst := ih List.mem_cons_self
        simp only [List.mem_cons, not_or]
        exact ⟨fun heq => hc heq.symm, hfirst⟩
      · exact ih (List.mem_cons_of_mem _ h)

theorem unsplit_cons {rest : List Text} (hne : rest ≠ []) :
    unsplit (seg :: rest) = seg ++ '/' :: unsplit rest := by
  have happend : unsplit ([seg] ++ rest) = unsplit [seg] ++ '/' :: unsplit rest :=
    unsplit_append (List.cons_ne_nil seg []) hne
  simpa [unsplit] using happend

/-- Leaving segments out leaves characters out. -/
theorem unsplit_sublist {back : List Text} (h : front.Sublist back) :
    (unsplit front).Sublist (unsplit back) := by
  induction h with
  | slnil => exact List.Sublist.refl _
  | @cons front back seg h ih =>
    by_cases hback : back = []
    · subst hback
      rw [List.sublist_nil.mp h]
      exact List.nil_sublist _
    · rw [unsplit_cons hback]
      exact (ih.cons '/').trans (List.sublist_append_right _ _)
  | @cons_cons front back seg h ih =>
    by_cases hback : back = []
    · subst hback
      rw [List.sublist_nil.mp h]
    · rw [unsplit_cons hback]
      by_cases hfront : front = []
      · rw [hfront]
        simp [unsplit]
      · rw [unsplit_cons hfront]
        exact (ih.cons_cons '/').append_left _

/-- The first character of a path is that of its first segment. -/
theorem head?_unsplit {rest : List Text} (hne : seg ≠ []) :
    (unsplit (seg :: rest)).head? = seg.head? := by
  by_cases hrest : rest = []
  · simp [unsplit, hrest]
  · rw [unsplit_cons hrest, List.head?_append_of_ne_nil _ hne]

/-- The last character of a path is that of its last segment. -/
theorem getLast?_unsplit (hne : seg ≠ []) :
    (unsplit (front ++ [seg])).getLast? = seg.getLast? := by
  have hone : unsplit [seg] = seg := by simp [unsplit]
  by_cases hfront : front = []
  · rw [hfront, List.nil_append, hone]
  · rw [unsplit_append hfront (List.cons_ne_nil _ _), hone, List.append_cons,
      List.getLast?_append_of_ne_nil _ hne]

/-! ## Proper segments -/

/-- A segment that `clean` keeps. -/
def Proper (seg : Text) : Prop := seg ≠ [] ∧ seg ≠ ['.'] ∧ seg ≠ ['.', '.']

/-- Proper segments stay. -/
theorem resolve_of_proper {rooted : Bool} (h : ∀ seg ∈ segments, Proper seg)
    (kept : List Text) : resolve rooted kept segments = kept.reverse ++ segments := by
  induction segments generalizing kept with
  | nil => simp [resolve]
  | cons seg rest ih =>
    obtain ⟨hempty, hdot, hdots⟩ := h seg List.mem_cons_self
    have hrest := ih (fun seg hseg => h seg (List.mem_cons_of_mem _ hseg)) (seg :: kept)
    simp [resolve, hempty, hdot, hdots, hrest]

/-- What `clean` keeps of a path without parent segments. -/
theorem resolve_of_no_parent (h : ['.', '.'] ∉ segments)
    (kept : List Text) : resolve false kept segments =
      kept.reverse ++ segments.filter fun seg => seg ≠ [] ∧ seg ≠ ['.'] := by
  induction segments generalizing kept with
  | nil => simp [resolve]
  | cons seg rest ih =>
    obtain ⟨hseg, hrest⟩ := not_or.mp (mt List.mem_cons.mpr h)
    have hparent : seg ≠ ['.', '.'] := fun heq => hseg heq.symm
    by_cases hdrop : seg = [] ∨ seg = ['.']
    · have hskip : ¬ (seg ≠ [] ∧ seg ≠ ['.']) := by
        intro hboth
        exact hdrop.elim hboth.1 hboth.2
      simp [resolve, hdrop, ih hrest, hskip]
    · have hkeep : seg ≠ [] ∧ seg ≠ ['.'] := not_or.mp hdrop
      simp [resolve, hkeep.1, hkeep.2, hparent, ih hrest]

/-- A path that starts with a slash has an empty segment. -/
theorem nil_mem_split_of_isAbs (h : isAbs path = true) : [] ∈ split path := by
  cases path with
  | nil => simp [isAbs] at h
  | cons c rest =>
    have hc : c = '/' := by simpa [isAbs] using h
    subst hc
    have hsplit : split ('/' :: rest) = split [] ++ split rest := split_append_slash [] rest
    rw [hsplit]
    exact List.mem_append_left _ (by simp [split])

/-- A path of proper segments is clean. -/
theorem clean_of_proper (h : ∀ seg ∈ split path, Proper seg) : clean path = path := by
  have habs : isAbs path = false := by
    by_contra habs
    exact (h [] (nil_mem_split_of_isAbs (by simpa using habs))).1 rfl
  have hne : path ≠ [] := by
    rintro rfl
    exact (h [] (by simp [split])).1 rfl
  simp [clean, habs, resolve_of_proper h, hne]

/-- Cleaning a path of proper segments under the root. -/
theorem clean_root_of_proper (h : ∀ seg ∈ split path, Proper seg) :
    clean ('/' :: path) = '/' :: path := by
  have habs : isAbs ('/' :: path) = true := rfl
  have hsplit : split ('/' :: path) = [] :: split path := split_append_slash [] path
  have hresolve : resolve true [] ([] :: split path) = split path := by
    simpa [resolve] using resolve_of_proper h []
  simp [clean, habs, hsplit, hresolve]

/-- The segments of a directory: the empty path has none. -/
def dirSegments (dir : Text) : List Text := if dir = [] then [] else split dir

/-- A name in a directory of proper segments: the segments of the directory, then the name. -/
theorem split_join_pair {dir : Text} (hdir : ∀ seg ∈ dirSegments dir, Proper seg)
    (hname : Proper name) (hslash : '/' ∉ name) :
    split (join [dir, name]) = dirSegments dir ++ [name] := by
  have hsplit : split name = [name] := split_of_not_mem hslash
  by_cases h : dir = []
  · subst h
    have hclean : clean name = name := clean_of_proper (by simpa [hsplit] using hname)
    simp [join, dirSegments, hname.1, unsplit, hclean, hsplit]
  · simp only [dirSegments, h, if_false] at hdir ⊢
    have hjoined : unsplit [dir, name] = dir ++ '/' :: name := by simp [unsplit, List.intercalate]
    have hsegments : split (dir ++ '/' :: name) = split dir ++ [name] := by
      rw [split_append_slash, hsplit]
    have hclean : clean (dir ++ '/' :: name) = dir ++ '/' :: name := by
      apply clean_of_proper
      intro seg hseg
      rw [hsegments] at hseg
      rcases List.mem_append.mp hseg with hseg | hseg
      · exact hdir seg hseg
      · rw [List.mem_singleton.mp hseg]
        exact hname
    simp [join, h, hjoined, hclean, hsegments]

/-- A directory is determined by its segments. -/
theorem dirSegments_injective {dir dir' : Text} (h : dirSegments dir = dirSegments dir') :
    dir = dir' := by
  unfold dirSegments at h
  by_cases hd : dir = [] <;> by_cases hd' : dir' = []
  · rw [hd, hd']
  · rw [if_pos hd, if_neg hd'] at h
    exact absurd h.symm (split_ne_nil dir')
  · rw [if_neg hd, if_pos hd'] at h
    exact absurd h (split_ne_nil dir)
  · rw [if_neg hd, if_neg hd'] at h
    exact split_injective h

end SlashPath
