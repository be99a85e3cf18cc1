import PvcMigrate.ObjectStore.RecoveryPoint

/-!
# Transfer paths

A transfer may be limited to a path below the root of either volume
(`internal/domain/transfer.go`).  `NewTransferScope` normalizes the two paths a user gives, and
`ValidateTransferScope` and `validateCrossClusterPaths` accept only paths that are their own
normal form.

`normalizeTransferPath` trims white space *before* it cleans the path.  Cleaning drops empty and
`.` components, so a component with white space at its outer end can come to the end of the path,
where the next normalization trims it.  `Settled` says of the given path that this does not happen.
-/

namespace PvcMigrate

namespace ObjectStore

open SlashPath Check

/-- `v1alpha1.TransferScope`. -/
structure TransferScope where
  sourcePath : Text
  destinationPath : Text
  deriving DecidableEq

/-- `NewTransferScope`: `none` is the full volume. -/
def newTransferScope (sourcePath destinationPath : Text) :
    Except String (Option TransferScope) := do
  let source ← (normalizeTransferPath sourcePath).mapError ("source path: " ++ ·)
  let destination ← (normalizeTransferPath destinationPath).mapError ("destination path: " ++ ·)
  if source = volumeRootPath ∧ destination = volumeRootPath then pure none
  else pure (some ⟨source, destination⟩)

def validateTransferScope : Option TransferScope → Except String Unit
  | none => pure ()
  | some scope => do
    let source ← (normalizeTransferPath scope.sourcePath).mapError ("source path: " ++ ·)
    let destination ←
      (normalizeTransferPath scope.destinationPath).mapError ("destination path: " ++ ·)
    refuse (source ≠ scope.sourcePath ∨ destination ≠ scope.destinationPath)
      "paths must be stored in normalized form"
    refuse (source = volumeRootPath ∧ destination = volumeRootPath)
      "full-volume transfers must omit transferScope"

/-- The check of one path in `validateCrossClusterPaths`. -/
def validateCrossClusterPath (i : Nat) (name : String) (path : Text) : Except String Unit :=
  refuse (normalizeTransferPath path ≠ .ok path)
    s!"cross-cluster volume {i} {name} path is invalid"

/-- `validateCrossClusterPaths`, of a volume with the given transfer. -/
def validateCrossClusterPaths (i : Nat) (transfer : TransferScope) : Except String Unit := do
  validateCrossClusterPath i "source" transfer.sourcePath
  validateCrossClusterPath i "destination" transfer.destinationPath

/-! ## What is normalized -/

/-- The checks of a path before it is cleaned. -/
structure Sendable (value : Text) : Prop where
  short : value.byteLength ≤ 4096
  relative : isAbs value = false
  slashes : '\\' ∉ value
  printable : value.any isControl = false
  confined : ['.', '.'] ∉ split value

/-- Leaving characters out of a path keeps its checks, but for those of its segments. -/
theorem Sendable.of_sublist {value r : Text} (h : Sendable value) (hsub : r.Sublist value)
    (hrelative : isAbs r = false) (hconfined : ['.', '.'] ∉ split r) : Sendable r where
  short := le_trans (Text.byteLength_le_of_sublist hsub) h.short
  relative := hrelative
  slashes hmem := h.slashes (hsub.subset hmem)
  printable := by
    rw [List.any_eq_false] at *
    intro c hc
    exact List.any_eq_false.mp h.printable c (hsub.subset hc)
  confined := hconfined

/-- A cleaned path that leaves the root starts with a parent segment. -/
theorem parent_mem_split {cleaned : Text}
    (h : cleaned = "..".toList ∨ "../".toList <+: cleaned) : ['.', '.'] ∈ split cleaned := by
  have hparent : split ['.', '.'] = [['.', '.']] := by decide
  rcases h with rfl | h
  · decide
  · have hprefix : ['.', '.'] ++ ['/'] <+: cleaned := h
    obtain ⟨rest, -, hsplit⟩ := append_slash_prefix_iff.mp hprefix
    rw [hsplit, hparent]
    exact List.mem_cons_self

section Kept

variable {t : Text}

/-- The segments of a trimmed path that cleaning keeps. -/
def keptSegments (t : Text) : List Text := (split t).filter fun seg => seg ≠ [] ∧ seg ≠ ['.']

theorem mem_keptSegments {seg : Text} :
    seg ∈ keptSegments t ↔ seg ∈ split t ∧ seg ≠ [] ∧ seg ≠ ['.'] := by
  simp [keptSegments]

theorem Sendable.proper (h : Sendable t) {seg : Text} (hseg : seg ∈ keptSegments t) :
    Proper seg := by
  obtain ⟨hmem, hne, hdot⟩ := mem_keptSegments.mp hseg
  refine ⟨hne, hdot, ?_⟩
  intro hparent
  exact h.confined (hparent ▸ hmem)

theorem Sendable.clean_eq (h : Sendable t) :
    clean t = if keptSegments t = [] then volumeRootPath else unsplit (keptSegments t) := by
  have hresolve : resolve false [] (split t) = keptSegments t :=
    resolve_of_no_parent h.confined []
  simp only [clean, h.relative, hresolve]
  by_cases hnil : keptSegments t = []
  · simp [hnil, unsplit, volumeRootPath]
  · obtain ⟨first, rest, hkept⟩ := List.exists_cons_of_ne_nil hnil
    have hfirst : first ≠ [] := (h.proper (hkept ▸ List.mem_cons_self)).1
    have hbody : unsplit (keptSegments t) ≠ [] := by
      intro hempty
      have hhead : (unsplit (first :: rest)).head? = first.head? := head?_unsplit hfirst
      rw [← hkept, hempty, List.head?_nil] at hhead
      exact hfirst (List.head?_eq_none_iff.mp hhead.symm)
    simp [hnil, hbody]

theorem split_unsplit_keptSegments (hne : keptSegments t ≠ []) :
    split (unsplit (keptSegments t)) = keptSegments t :=
  SlashPath.split_unsplit hne fun _ hseg =>
    slash_notMem_of_mem_split (mem_keptSegments.mp hseg).1

theorem Sendable.unsplit (h : Sendable t) (hne : keptSegments t ≠ []) :
    Sendable (unsplit (keptSegments t)) ∧
      clean (SlashPath.unsplit (keptSegments t)) = SlashPath.unsplit (keptSegments t) := by
  have hsplit := split_unsplit_keptSegments hne
  have hproper : ∀ seg ∈ split (SlashPath.unsplit (keptSegments t)), Proper seg := by
    rw [hsplit]
    exact fun _ hseg => h.proper hseg
  have hsub : (SlashPath.unsplit (keptSegments t)).Sublist t := by
    calc (SlashPath.unsplit (keptSegments t)).Sublist (SlashPath.unsplit (split t)) :=
          unsplit_sublist List.filter_sublist
      _ = t := unsplit_split t
  refine ⟨h.of_sublist hsub ?_ ?_, clean_of_proper hproper⟩
  · by_contra habs
    exact (hproper [] (nil_mem_split_of_isAbs (by simpa using habs))).1 rfl
  · intro hparent
    exact (hproper _ hparent).2.2 rfl

end Kept

theorem normalizeTransferPath_eq_ok {value r : Text} :
    normalizeTransferPath value = .ok r ↔
      if value.trimSpace = [] ∨ value.trimSpace = volumeRootPath then r = volumeRootPath
      else Sendable value.trimSpace ∧ r = clean value.trimSpace := by
  simp only [normalizeTransferPath]
  generalize Text.trimSpace value = t
  by_cases hroot : t = [] ∨ t = volumeRootPath
  · rw [if_pos hroot, if_pos hroot]
    exact ⟨fun h => (Except.ok.inj h).symm, fun h => congrArg Except.ok h.symm⟩
  · rw [if_neg hroot, if_neg hroot]
    simp only [andThen_eq_ok, refuse_eq_ok]
    constructor
    · rintro ⟨hshort, hrelative, hslashes, hprintable, hconfined, -, hr⟩
      have hsendable : Sendable t :=
        ⟨not_lt.mp hshort, by simpa using hrelative, hslashes, by simpa using hprintable, hconfined⟩
      exact ⟨hsendable, (Except.ok.inj hr).symm⟩
    · rintro ⟨h, rfl⟩
      refine ⟨not_lt.mpr h.short, by simp [h.relative], h.slashes, by simp [h.printable],
        h.confined, ?_, rfl⟩
      intro hescapes
      have hparent := parent_mem_split hescapes
      rw [h.clean_eq] at hparent
      by_cases hnil : keptSegments t = []
      · rw [if_pos hnil] at hparent
        exact absurd hparent (by decide)
      · rw [if_neg hnil, split_unsplit_keptSegments hnil] at hparent
        exact (h.proper hparent).2.2 rfl

/-! ## When a normal form is its own normal form -/

/-- The outer ends of the components that a given path keeps have no white space. -/
def Settled (value : Text) : Prop :=
  (∀ first, (keptSegments value.trimSpace).head? = some first →
      ∀ c, first.head? = some c → Text.isSpace c = false) ∧
    ∀ last, (keptSegments value.trimSpace).getLast? = some last →
      ∀ c, last.getLast? = some c → Text.isSpace c = false

theorem normalizeTransferPath_root : normalizeTransferPath volumeRootPath = .ok volumeRootPath := by
  decide

theorem keptSegments_root : keptSegments volumeRootPath = [] := by decide

theorem settled_of_keptSegments_nil {value : Text} (h : keptSegments value.trimSpace = []) :
    Settled value := by
  simp [Settled, h]

section Settled

variable {t : Text}

/-- The joined segments are trimmed iff the outer ends of the segments are. -/
theorem trimSpace_unsplit_iff (h : Sendable t) (hne : keptSegments t ≠ []) :
    Text.trimSpace (unsplit (keptSegments t)) = unsplit (keptSegments t) ↔
      (∀ first, (keptSegments t).head? = some first →
          ∀ c, first.head? = some c → Text.isSpace c = false) ∧
        ∀ last, (keptSegments t).getLast? = some last →
          ∀ c, last.getLast? = some c → Text.isSpace c = false := by
  rw [Text.trimSpace_eq_self_iff]
  apply and_congr
  · obtain ⟨first, rest, hkept⟩ := List.exists_cons_of_ne_nil hne
    have hfirst := (h.proper (hkept ▸ List.mem_cons_self)).1
    rw [hkept, head?_unsplit hfirst]
    simp
  · obtain ⟨front, last, hkept⟩ := (List.eq_nil_or_concat' _).resolve_left hne
    have hlast := (h.proper (hkept ▸ List.mem_append_right _ List.mem_cons_self)).1
    rw [hkept, getLast?_unsplit hlast]
    simp

/-- A path that normalizes to itself is trimmed: nothing that was trimmed comes back. -/
theorem trimSpace_of_fixed {r : Text} (h : normalizeTransferPath r = .ok r) :
    Text.trimSpace r = r := by
  rw [normalizeTransferPath_eq_ok] at h
  by_cases hroot : Text.trimSpace r = [] ∨ Text.trimSpace r = volumeRootPath
  · rw [if_pos hroot] at h
    rw [h]
    decide
  · rw [if_neg hroot] at h
    obtain ⟨hsendable, hclean⟩ := h
    have hshorter : r.length ≤ (Text.trimSpace r).length := by
      rw [hsendable.clean_eq] at hclean
      by_cases hnil : keptSegments (Text.trimSpace r) = []
      · rw [if_pos hnil] at hclean
        rw [hclean]
        decide
      · rw [if_neg hnil] at hclean
        calc r.length = (unsplit (keptSegments (Text.trimSpace r))).length := by rw [← hclean]
          _ ≤ (unsplit (split (Text.trimSpace r))).length :=
            (unsplit_sublist List.filter_sublist).length_le
          _ = (Text.trimSpace r).length := by rw [unsplit_split]
    exact (Text.trimSpace_sublist r).eq_of_length_le hshorter

end Settled

/-- Every normal form is confined to the volume; it is its own normal form iff the given path is
settled. -/
theorem normalizeTransferPath_stable_iff {value r : Text}
    (h : normalizeTransferPath value = .ok r) :
    ['.', '.'] ∉ split r ∧ isAbs r = false ∧ (normalizeTransferPath r = .ok r ↔ Settled value) := by
  have hrootFacts : ['.', '.'] ∉ split volumeRootPath ∧ isAbs volumeRootPath = false := by decide
  rw [normalizeTransferPath_eq_ok] at h
  by_cases hroot : value.trimSpace = [] ∨ value.trimSpace = volumeRootPath
  · rw [if_pos hroot] at h
    subst h
    refine ⟨hrootFacts.1, hrootFacts.2, iff_of_true normalizeTransferPath_root ?_⟩
    apply settled_of_keptSegments_nil
    rcases hroot with hempty | hdot
    · rw [hempty]
      decide
    · rw [hdot, keptSegments_root]
  · rw [if_neg hroot] at h
    obtain ⟨hsendable, rfl⟩ := h
    rw [hsendable.clean_eq]
    by_cases hnil : keptSegments value.trimSpace = []
    · rw [if_pos hnil]
      exact ⟨hrootFacts.1, hrootFacts.2,
        iff_of_true normalizeTransferPath_root (settled_of_keptSegments_nil hnil)⟩
    · rw [if_neg hnil]
      obtain ⟨hagain, hclean⟩ := hsendable.unsplit hnil
      refine ⟨hagain.confined, hagain.relative, ?_⟩
      rw [Settled, ← trimSpace_unsplit_iff hsendable hnil]
      constructor
      · exact trimSpace_of_fixed
      · intro htrim
        rw [normalizeTransferPath_eq_ok, htrim]
        by_cases hdot : unsplit (keptSegments value.trimSpace) = [] ∨
            unsplit (keptSegments value.trimSpace) = volumeRootPath
        · -- a joined path has proper segments, so it is neither empty nor the root
          have hsplit := split_unsplit_keptSegments hnil
          obtain ⟨first, rest, hkept⟩ := List.exists_cons_of_ne_nil hnil
          have hproper := hsendable.proper (hkept ▸ List.mem_cons_self)
          rw [hkept] at hsplit hdot
          rcases hdot with hdot | hdot
          · rw [hdot] at hsplit
            have hfirst : first = [] := by simpa [split] using (List.cons.inj hsplit).1.symm
            exact absurd hfirst hproper.1
          · have hone : split volumeRootPath = [['.']] := by decide
            rw [hdot, hone] at hsplit
            exact absurd (List.cons.inj hsplit).1.symm hproper.2.1
        · rw [if_neg hdot]
          exact ⟨hagain, hclean.symm⟩

/-! ## Scopes -/

theorem mapError_eq_ok {x : Except String Text} {f : String → String} {a : Text} :
    x.mapError f = .ok a ↔ x = .ok a := by
  cases x <;> simp [Except.mapError]

variable {scope : TransferScope}

/-- A new scope holds the normal forms of the two paths, not both the root. -/
theorem newTransferScope_eq_some {source destination : Text}
    (h : newTransferScope source destination = .ok (some scope)) :
    normalizeTransferPath source = .ok scope.sourcePath ∧
      normalizeTransferPath destination = .ok scope.destinationPath ∧
      ¬ (scope.sourcePath = volumeRootPath ∧ scope.destinationPath = volumeRootPath) := by
  simp only [newTransferScope, bind_eq_ok, mapError_eq_ok] at h
  obtain ⟨s, hs, d, hd, h⟩ := h
  by_cases hroot : s = volumeRootPath ∧ d = volumeRootPath
  · simp [hroot] at h
    cases h
  · rw [if_neg hroot] at h
    cases h
    exact ⟨hs, hd, hroot⟩

/-- A scope that is not the full volume is accepted iff both paths are normal forms. -/
theorem validateTransferScope_eq_ok
    (hroot : ¬ (scope.sourcePath = volumeRootPath ∧ scope.destinationPath = volumeRootPath)) :
    validateTransferScope (some scope) = .ok () ↔
      normalizeTransferPath scope.sourcePath = .ok scope.sourcePath ∧
        normalizeTransferPath scope.destinationPath = .ok scope.destinationPath := by
  simp only [validateTransferScope, bind_eq_ok, mapError_eq_ok]
  constructor
  · rintro ⟨s, hs, d, hd, u, hsame, -⟩
    have hboth : s = scope.sourcePath ∧ d = scope.destinationPath := by
      simpa [not_or] using refuse_eq_ok.mp hsame
    rw [hboth.1] at hs
    rw [hboth.2] at hd
    exact ⟨hs, hd⟩
  · rintro ⟨hs, hd⟩
    exact ⟨_, hs, _, hd, (), refuse_eq_ok.mpr (by simp), refuse_eq_ok.mpr hroot⟩

theorem validateCrossClusterPaths_eq_ok {i : Nat} :
    validateCrossClusterPaths i scope = .ok () ↔
      normalizeTransferPath scope.sourcePath = .ok scope.sourcePath ∧
        normalizeTransferPath scope.destinationPath = .ok scope.destinationPath := by
  simp [validateCrossClusterPaths, validateCrossClusterPath]

/-- **Normal forms are confined, and stable exactly when the given path is settled; the scope of
two paths is accepted exactly when both are.** -/
theorem transfer_paths_stable_iff (source destination : Text) :
    (∀ r, normalizeTransferPath source = .ok r →
      ['.', '.'] ∉ split r ∧ isAbs r = false ∧
        (normalizeTransferPath r = .ok r ↔ Settled source)) ∧
    ∀ scope, newTransferScope source destination = .ok (some scope) →
      ((validateTransferScope (some scope) = .ok () ∧
          ∀ i, validateCrossClusterPaths i scope = .ok ()) ↔
        Settled source ∧ Settled destination) := by
  refine ⟨fun r h => normalizeTransferPath_stable_iff h, ?_⟩
  intro scope h
  obtain ⟨hs, hd, hroot⟩ := newTransferScope_eq_some h
  have hsource := (normalizeTransferPath_stable_iff hs).2.2
  have hdestination := (normalizeTransferPath_stable_iff hd).2.2
  simp only [validateTransferScope_eq_ok hroot, validateCrossClusterPaths_eq_ok, forall_const,
    and_self, hsource, hdestination]

/-- The white space in front of the second component comes to the front of the normal form: the
scope that was just made is refused, and so is a session with it. -/
theorem dotted_path_unstable :
    newTransferScope "./ a".toList ".".toList = .ok (some ⟨" a".toList, ".".toList⟩) ∧
      normalizeTransferPath " a".toList = .ok "a".toList ∧
      validateTransferScope (some ⟨" a".toList, ".".toList⟩) =
        .error "paths must be stored in normalized form" ∧
      validateCrossClusterPaths 0 ⟨" a".toList, ".".toList⟩ ≠ .ok () := by
  decide

/-- White space inside a path, and around it, is no obstacle. -/
theorem transfer_paths_stable_inner :
    newTransferScope " ./a b//c ".toList "".toList = .ok (some ⟨"a b/c".toList, ".".toList⟩) ∧
      validateTransferScope (some ⟨"a b/c".toList, ".".toList⟩) = .ok () := by
  have hnew : newTransferScope " ./a b//c ".toList "".toList =
      .ok (some ⟨"a b/c".toList, ".".toList⟩) := by
    decide
  have hsource : Settled " ./a b//c ".toList := by
    have hkept : keptSegments (Text.trimSpace " ./a b//c ".toList) = ["a b".toList,
        "c".toList] := by
      decide
    rw [Settled, hkept]
    constructor
    · intro first hfirst c hc
      cases hfirst
      cases hc
      decide
    · intro last hlast c hc
      cases hlast
      cases hc
      decide
  exact ⟨hnew, (((transfer_paths_stable_iff _ _).2 _ hnew).mpr
    ⟨hsource, settled_of_keptSegments_nil (by decide)⟩).1⟩

end ObjectStore

end PvcMigrate
