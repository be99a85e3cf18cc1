import Mathlib.Data.List.Chain
import PvcMigrate.Lib.Text

/-!
# Names of derived resources

`BoundedName` (`internal/kube/names.go`) and `reservationConsumerName`
(`internal/crosscluster/reservation.go`) put a name together from a session, a claim and so on, and
cut it to the 63 characters of a label, with a digest at the end.  The parts are texts over ASCII,
so that bytes are characters.

A cut may leave separators at its end.  `BoundedName` trims them off the last part to see how much
room is left, but puts the untrimmed part into the name; `reservationConsumerName` trims hyphens
only.
-/

namespace PvcMigrate.Names

/-! ## DNS-1123 subdomains -/

def alnum (c : Char) : Bool := ('a' ≤ c && c ≤ 'z') || ('0' ≤ c && c ≤ '9')

/-- The characters that `strings.Trim` takes off. -/
def separator (c : Char) : Bool := c = '-' || c = '.'

/-- Which character may follow which: labels start and end with a letter or a digit. -/
def Follows (a b : Char) : Prop := (a = '.' → alnum b = true) ∧ (b = '.' → alnum a = true)

instance (a b : Char) : Decidable (Follows a b) := inferInstanceAs (Decidable (_ ∧ _))

/-- `validation.IsDNS1123Subdomain`, apart from the bound on the length. -/
structure Subdomain (t : Text) : Prop where
  chars : t.all (fun c => alnum c || separator c) = true
  chain : t.IsChain Follows
  first : t.head?.any alnum = true
  last : t.getLast?.any alnum = true

/-! ## The functions -/

/-- What is used of the packages `unicode` and `crypto/sha256`. -/
structure Primitives where
  toLower : Char → Char
  toLower_eq : ∀ c, (alnum c || separator c) = true → toLower c = c
  /-- the digest in hexadecimal digits -/
  sha256 : Text → Text
  length_sha256 : ∀ t, (sha256 t).length = 64
  alnum_sha256 : ∀ t, (sha256 t).all alnum = true

/-- `strings.TrimRight` of separators. -/
def trimRight (t : Text) : Text := t.rdropWhile separator

/-- `strings.Trim` of separators. -/
def trim (t : Text) : Text := trimRight (t.dropWhile separator)

/-- `strings.Join` with a hyphen. -/
def join (parts : List Text) : Text := List.intercalate ['-'] parts

/-- `t[:n]`, which panics out of bounds. -/
def slice (t : Text) (n : Int) : Option Text :=
  if 0 ≤ n ∧ n ≤ t.length then some (t.take n.toNat) else none

section Functions

variable (env : Primitives)

def cleanNamePart (value : Text) : Text :=
  trim ((value.map env.toLower).map fun c => if alnum c || separator c then c else '-')

/-- The last part, cut if the name would be too long without any other part, and that name. -/
def fixedParts (cleanPrefix last hash : Text) : Option (Text × Text) :=
  let fixed := cleanPrefix ++ '-' :: (last ++ '-' :: hash)
  if 63 ≤ fixed.length then
    (slice last (63 - cleanPrefix.length - hash.length - 2)).map fun last =>
      (last, cleanPrefix ++ '-' :: (trim last ++ '-' :: hash))
  else some (last, fixed)

/-- The parts in the middle, cut to the room that is left. -/
def fitMiddle (middle : Text) (available : Nat) : Option Text :=
  if available < middle.length then (slice middle available).map trimRight else some middle

/-- `BoundedName` for a name that is too long. -/
def boundedLong (cleanPrefix : Text) (cleanParts : List Text) (hash : Text) : Option Text := do
  let (last, fixed) ← fixedParts cleanPrefix (cleanParts.getLastD ['i', 't', 'e', 'm']) hash
  let middle ← fitMiddle (join cleanParts.dropLast) (63 - fixed.length - 1)
  if middle = [] then some (trim fixed)
  else some (trim (cleanPrefix ++ '-' :: (middle ++ '-' :: (last ++ '-' :: hash))))

def boundedName (namePrefix : Text) (parts : List Text) : Option Text :=
  let cleanPrefix := cleanNamePart env namePrefix
  let cleanParts := parts.map (cleanNamePart env)
  let clean := trim (join (cleanPrefix :: cleanParts))
  if clean.length ≤ 63 then some clean
  else boundedLong cleanPrefix cleanParts ((env.sha256 (join (namePrefix :: parts))).take 10)

def reserve : Text := ['r', 'e', 's', 'e', 'r', 'v', 'e']

def reservationConsumerName (sessionID pvc : Text) : Option Text :=
  let name := join [sessionID, reserve, pvc]
  if name.length ≤ 63 then some name
  else
    let suffix := '-' :: (env.sha256 name).take 8
    (slice name (63 - suffix.length)).map fun cut => cut.rdropWhile (· = '-') ++ suffix

end Functions

/-- The prefixes that the callers of `BoundedName` give. -/
def callerPrefixes : List Text :=
  ["pvc-migrate".toList, "pvc-migrate-bind".toList, "pvc-migrate-probe".toList]

/-! ## Subdomains and their parts -/

section Subdomains

variable {a b t p : Text} {c x y : Char} {n : Nat}

theorem separator_of_alnum (h : alnum c = true) : separator c = false := by
  by_contra hsep
  simp only [separator, Bool.not_eq_false, Bool.or_eq_true, decide_eq_true_eq] at hsep
  rcases hsep with rfl | rfl <;> exact absurd h (by decide)

theorem follows_of_alnum (hx : alnum x = true) (hy : y ≠ '.') : Follows x y := by
  constructor
  · intro hdot
    rw [hdot] at hx
    exact absurd hx (by decide)
  · intro hdot
    exact absurd hdot hy

theorem Subdomain.ne_nil (h : Subdomain t) : t ≠ [] := by
  intro hnil
  have hfirst := h.first
  simp [hnil] at hfirst

theorem Subdomain.append (ha : Subdomain a) (hb : Subdomain b) : Subdomain (a ++ '-' :: b) where
  chars := by
    rw [List.all_append, List.all_cons, ha.chars, hb.chars]
    rfl
  chain := by
    rw [List.isChain_append, List.isChain_cons]
    refine ⟨ha.chain, ⟨?_, hb.chain⟩, ?_⟩
    · intro y hy
      have hfirst := hb.first
      rw [hy] at hfirst
      exact ⟨by simp, fun hdot => by rw [hdot] at hfirst; exact absurd hfirst (by decide)⟩
    · intro x hx y hy
      have hlast := ha.last
      rw [hx] at hlast
      obtain rfl : '-' = y := by simpa using hy
      exact follows_of_alnum hlast (by decide)
  first := by
    rw [List.head?_append_of_ne_nil _ ha.ne_nil]
    exact ha.first
  last := by
    rw [List.getLast?_append_of_ne_nil _ (by simp), List.getLast?_cons_of_ne_nil hb.ne_nil]
    exact hb.last

theorem subdomain_join {parts : List Text} (hparts : ∀ part ∈ parts, Subdomain part)
    (hne : parts ≠ []) : Subdomain (join parts) := by
  induction parts with
  | nil => exact absurd rfl hne
  | cons part rest ih =>
    rw [List.forall_mem_cons] at hparts
    cases rest with
    | nil => simpa [join, List.intercalate] using hparts.1
    | cons next rest =>
      have hrest := ih hparts.2 (by simp)
      simpa [join, List.intercalate] using hparts.1.append hrest

/-- What is cut off a subdomain is one if it ends with a letter or a digit. -/
theorem Subdomain.of_isPrefix (h : Subdomain t) (hpre : p <+: t)
    (hlast : p.getLast?.any alnum = true) : Subdomain p where
  chars := by
    rw [List.all_eq_true]
    intro c hc
    exact List.all_eq_true.mp h.chars c (hpre.subset hc)
  chain := h.chain.prefix hpre
  first := by
    obtain ⟨rest, rfl⟩ := hpre
    have hne : p ≠ [] := by
      intro hnil
      simp [hnil] at hlast
    have hfirst := h.first
    rwa [List.head?_append_of_ne_nil _ hne] at hfirst
  last := hlast

theorem Subdomain.rdropWhile_take_ne_nil {q : Char → Bool} (h : Subdomain t) (hn : 0 < n)
    (hq : ∀ c, alnum c = true → q c = false) : (t.take n).rdropWhile q ≠ [] := by
  intro hnil
  obtain ⟨c, rest, rfl⟩ := List.exists_cons_of_ne_nil h.ne_nil
  have hc : alnum c = true := by simpa using h.first
  have hall := List.rdropWhile_eq_nil_iff.mp hnil c (by cases n <;> simp_all)
  rw [hq c hc] at hall
  cases hall

theorem Subdomain.trimRight_take (h : Subdomain t) (hn : 0 < n) :
    Subdomain (trimRight (t.take n)) := by
  have hpre : trimRight (t.take n) <+: t :=
    (List.rdropWhile_prefix _ _).trans (List.take_prefix n t)
  apply h.of_isPrefix hpre
  have hne : trimRight (t.take n) ≠ [] := h.rdropWhile_take_ne_nil hn fun _ => separator_of_alnum
  have hend := List.rdropWhile_last_not separator (t.take n) hne
  have hchar := List.all_eq_true.mp h.chars _ (hpre.subset (List.getLast_mem hne))
  rw [List.getLast?_eq_some_getLast hne]
  simpa [trimRight, hend] using hchar

/-- A text that starts and ends with a letter or a digit is trimmed. -/
theorem trim_eq_self (hfirst : t.head?.any alnum = true) (hlast : t.getLast?.any alnum = true) :
    trim t = t := by
  cases t with
  | nil => rfl
  | cons c rest =>
    have hc : separator c = false := separator_of_alnum (by simpa using hfirst)
    rw [trim, List.dropWhile_cons_of_neg (by simp [hc]), trimRight, List.rdropWhile_eq_self_iff]
    intro hne
    rw [List.getLast?_eq_some_getLast hne] at hlast
    simp [separator_of_alnum hlast]

theorem Subdomain.trim_eq (h : Subdomain t) : trim t = t := trim_eq_self h.first h.last

theorem Subdomain.cleanNamePart_eq (env : Primitives) (h : Subdomain t) :
    cleanNamePart env t = t := by
  have hsame : (t.map env.toLower).map
      (fun c => if alnum c || separator c then c else '-') = t := by
    rw [List.map_map]
    refine (List.map_congr_left fun c hc => ?_).trans t.map_id
    have hchar := List.all_eq_true.mp h.chars c hc
    simp only [Function.comp_apply, env.toLower_eq c hchar, hchar, if_true, id_eq]
  rw [cleanNamePart, hsame, h.trim_eq]

theorem subdomain_hash {env : Primitives} (hn : 0 < n) (hle : n ≤ 64) :
    Subdomain ((env.sha256 t).take n) := by
  have hall : ∀ c ∈ (env.sha256 t).take n, alnum c = true := fun c hc =>
    List.all_eq_true.mp (env.alnum_sha256 t) c (List.mem_of_mem_take hc)
  have hne : (env.sha256 t).take n ≠ [] := by
    rw [ne_eq, ← List.length_eq_zero_iff, List.length_take, env.length_sha256]
    omega
  refine ⟨?_, ?_, ?_, ?_⟩
  · rw [List.all_eq_true]
    intro c hc
    simp [hall c hc]
  · apply List.Pairwise.isChain
    rw [List.pairwise_iff_forall_sublist]
    intro x y hsub
    exact ⟨fun _ => hall y (hsub.subset (by simp)), fun _ => hall x (hsub.subset (by simp))⟩
  · rw [List.head?_eq_some_head hne]
    exact hall _ (List.head_mem hne)
  · rw [List.getLast?_eq_some_getLast hne]
    exact hall _ (List.getLast_mem hne)

/-- How much of a cut is trimmed depends on its last two characters. -/
theorem length_trimRight_two (s : Text) :
    (separator x && separator y) = true ∧ (trimRight (s ++ [x, y])).length ≤ s.length ∨
      (separator x && separator y) = false ∧ s.length + 1 ≤ (trimRight (s ++ [x, y])).length := by
  have hsplit : s ++ [x, y] = (s ++ [x]) ++ [y] := by simp
  rw [hsplit, trimRight, List.rdropWhile_concat, List.rdropWhile_concat]
  by_cases hy : separator y = true
  · by_cases hx : separator x = true
    · have hle : (s.rdropWhile separator).length ≤ s.length :=
        (List.rdropWhile_prefix separator s).length_le
      simp [hx, hy, hle]
    · simp [hx, hy]
  · simp [hy]

end Subdomains

/-! ## What is usable -/

/-- The function returns, with the name of a label that is a subdomain. -/
def Usable (name : Option Text) : Prop := ∃ t, name = some t ∧ t.length ≤ 63 ∧ Subdomain t

theorem usable_some {t : Text} : Usable (some t) ↔ t.length ≤ 63 ∧ Subdomain t := by
  simp [Usable]

section Bounded

variable {env : Primitives} {pre last hash middle : Text} {parts : List Text} {n : Nat}

/-- The name is too long, there is more than one part, and the last one, cut to the length that is
left for it, ends in two hyphens. -/
def CutDoubled (pre : Text) (parts : List Text) : Prop :=
  63 < (join (pre :: parts)).length ∧ 2 ≤ parts.length ∧
    ['-', '-'] <:+ (parts.getLastD []).take (51 - pre.length)

theorem fitMiddle_spec (hmiddle : middle = [] ∨ Subdomain middle) :
    ∃ m, fitMiddle middle n = some m ∧ m.length ≤ n ∧ (m = [] ∨ Subdomain m) ∧
      (m = [] ↔ middle = [] ∨ n = 0) := by
  unfold fitMiddle
  by_cases hlong : n < middle.length
  · have hvalid : Subdomain middle := by
      apply hmiddle.resolve_left
      intro hnil
      simp [hnil] at hlong
    have hslice : slice middle n = some (middle.take n) := by
      rw [slice, if_pos (by omega), Int.toNat_natCast]
    rw [if_pos hlong, hslice]
    refine ⟨trimRight (middle.take n), rfl, ?_, ?_⟩
    · exact (List.rdropWhile_prefix _ _).length_le.trans (List.length_take_le n middle)
    · rcases Nat.eq_zero_or_pos n with rfl | hn
      · simp [trimRight]
      · have hcut := hvalid.trimRight_take hn
        exact ⟨Or.inr hcut, by simp [hcut.ne_nil, hvalid.ne_nil]; omega⟩
  · rw [if_neg hlong]
    refine ⟨middle, rfl, by omega, hmiddle, ?_⟩
    constructor
    · exact Or.inl
    · rintro (hnil | rfl)
      · exact hnil
      · exact List.length_eq_zero_iff.mp (by omega)

theorem length_parts (a b c : Text) : (a ++ '-' :: (b ++ '-' :: c)).length =
    a.length + b.length + c.length + 2 := by
  simp
  omega

theorem usable_of_room (hpre : Subdomain pre) (hlast : Subdomain last) (hhash : Subdomain hash)
    (hmiddle : middle = [] ∨ Subdomain middle)
    (hroom : (pre ++ '-' :: (last ++ '-' :: hash)).length < 63) :
    Usable (do
      let m ← fitMiddle middle (63 - (pre ++ '-' :: (last ++ '-' :: hash)).length - 1)
      if m = [] then some (trim (pre ++ '-' :: (last ++ '-' :: hash)))
      else some (trim (pre ++ '-' :: (m ++ '-' :: (last ++ '-' :: hash))))) := by
  obtain ⟨m, hm, hlength, hvalid, -⟩ := fitMiddle_spec (n :=
    63 - (pre ++ '-' :: (last ++ '-' :: hash)).length - 1) hmiddle
  have hfixed := hpre.append (hlast.append hhash)
  rw [hm, Option.bind_eq_bind, Option.bind_some]
  by_cases hnil : m = []
  · rw [if_pos hnil, hfixed.trim_eq, usable_some]
    exact ⟨by omega, hfixed⟩
  · have hname := hpre.append ((hvalid.resolve_left hnil).append (hlast.append hhash))
    rw [if_neg hnil, hname.trim_eq, usable_some]
    refine ⟨?_, hname⟩
    rw [length_parts] at hroom hlength
    rw [length_parts, List.length_append, List.length_cons]
    omega

theorem trim_take_eq (h : Subdomain last) : trim (last.take n) = trimRight (last.take n) := by
  obtain ⟨c, rest, rfl⟩ := List.exists_cons_of_ne_nil h.ne_nil
  have hc : separator c = false := separator_of_alnum (by simpa using h.first)
  cases n with
  | zero => rfl
  | succ n => rw [List.take_succ_cons, trim, List.dropWhile_cons_of_neg (by simp [hc])]

theorem exists_last_two {t : Text} (h : 2 ≤ t.length) : ∃ s x y, t = s ++ [x, y] := by
  rcases List.eq_nil_or_concat' t with rfl | ⟨t, y, rfl⟩
  · simp at h
  · rcases List.eq_nil_or_concat' t with rfl | ⟨s, x, rfl⟩
    · simp at h
    · exact ⟨s, x, y, by simp⟩

theorem doubled_iff {s : Text} {x y : Char} (h : (s ++ [x, y]).IsChain Follows) :
    ['-', '-'] <:+ s ++ [x, y] ↔ (separator x && separator y) = true := by
  constructor
  · rintro ⟨t, ht⟩
    obtain ⟨rfl, rfl⟩ : '-' = x ∧ '-' = y := by
      simpa using (List.append_inj' ht rfl).2
    decide
  · intro hsep
    have hfollows : Follows x y := by simpa using (List.isChain_append.mp h).2.1
    obtain ⟨hx, hy⟩ := Bool.and_eq_true_iff.mp hsep
    have hxdot : x ≠ '.' := by
      intro hdot
      rw [separator_of_alnum (hfollows.1 hdot)] at hy
      cases hy
    have hydot : y ≠ '.' := by
      intro hdot
      rw [separator_of_alnum (hfollows.2 hdot)] at hx
      cases hx
    simp only [separator, hxdot, hydot, Bool.or_eq_true, decide_eq_true_eq, or_false] at hx hy
    rw [hx, hy]
    exact List.suffix_append s _

/-- A name that is too long is usable unless the cut of its last part is doubled. -/
theorem usable_boundedLong_iff {init : List Text} (hpre : Subdomain pre) (hshort : pre.length ≤ 17)
    (hinit : ∀ part ∈ init, Subdomain part) (hlast : Subdomain last) (hhash : Subdomain hash)
    (hlength : hash.length = 10) :
    Usable (boundedLong pre (init ++ [last]) hash) ↔
      ¬ (init ≠ [] ∧ ['-', '-'] <:+ last.take (51 - pre.length)) := by
  have hmiddle : join init = [] ∨ Subdomain (join init) := by
    by_cases hnil : init = []
    · simp [hnil, join]
    · exact Or.inr (subdomain_join hinit hnil)
  have hfixed := length_parts pre last hash
  rw [boundedLong, List.getLastD_concat, List.dropLast_concat]
  by_cases hroom : (pre ++ '-' :: (last ++ '-' :: hash)).length < 63
  · have husable := usable_of_room hpre hlast hhash hmiddle hroom
    rw [fixedParts, if_neg (by omega)]
    refine iff_of_true husable ?_
    rintro ⟨-, t, ht⟩
    rw [List.take_of_length_le (by omega)] at ht
    have hend := hlast.last
    rw [← ht] at hend
    simp at hend
    exact absurd hend (by decide)
  · have hcut : 51 - pre.length ≤ last.length := by omega
    have htake : (last.take (51 - pre.length)).length = 51 - pre.length := by simpa using hcut
    have hslice : slice last (63 - pre.length - hash.length - 2) =
        some (last.take (51 - pre.length)) := by
      rw [slice, if_pos (by omega)]
      congr 2
      omega
    obtain ⟨s, x, y, hends⟩ := exists_last_two (t := last.take (51 - pre.length)) (by omega)
    have hsize : s.length + 2 = 51 - pre.length := by
      rw [← htake, hends]
      simp
    have hdoubled := doubled_iff (hends ▸ hlast.chain.take (51 - pre.length))
    have htrimmed := hlast.trimRight_take (n := 51 - pre.length) (by omega)
    have hcutName := hpre.append (htrimmed.append hhash)
    obtain ⟨m, hm, -, hvalid, hempty⟩ := fitMiddle_spec
      (n := 63 -
        (pre ++ '-' :: (trimRight (last.take (51 - pre.length)) ++ '-' :: hash)).length - 1) hmiddle
    rw [fixedParts, if_pos (by omega), hslice]
    simp only [Option.map_some, Option.bind_eq_bind, Option.bind_some, trim_take_eq hlast, hm]
    rw [length_parts] at hempty
    have hle : (trimRight (last.take (51 - pre.length))).length ≤ 51 - pre.length :=
      (List.rdropWhile_prefix _ _).length_le.trans (List.length_take_le _ _)
    have hwithout : Usable (some (trim
        (pre ++ '-' :: (trimRight (last.take (51 - pre.length)) ++ '-' :: hash)))) := by
      rw [hcutName.trim_eq, usable_some, length_parts]
      exact ⟨by omega, hcutName⟩
    have htwo := length_trimRight_two (x := x) (y := y) s
    rw [← hends] at hdoubled htwo
    rw [← hdoubled] at htwo
    by_cases hnil : init = []
    · have hmnil : m = [] := hempty.mpr (Or.inl (by simp [hnil, join]))
      simpa [hmnil, hnil] using hwithout
    · have hjoin : join init ≠ [] := (subdomain_join hinit hnil).ne_nil
      rcases htwo with ⟨hsep, hlen⟩ | ⟨hsep, hlen⟩
      · -- there is room for the middle, but not with the separators
        have hmne : m ≠ [] := fun hmnil => by
          rcases hempty.mp hmnil with hjnil | hzero
          · exact hjoin hjnil
          · omega
        rw [if_neg hmne]
        refine iff_of_false ?_ fun hnot => hnot ⟨hnil, hsep⟩
        rw [trim_eq_self, usable_some, length_parts, List.length_append, List.length_cons, htake]
        · omega
        · rw [List.head?_append_of_ne_nil _ hpre.ne_nil]
          exact hpre.first
        · simpa [List.getLast?_append, List.getLast?_cons, hhash.ne_nil,
            List.getLast?_eq_some_getLast] using hhash.last
      · have hmnil : m = [] := hempty.mpr (Or.inr (by omega))
        rw [if_pos hmnil]
        exact iff_of_true hwithout fun h => by simp [hdoubled.mp h.2] at hsep

/-- **`BoundedName` is usable unless the cut is doubled.** -/
theorem usable_boundedName_iff (hpre : Subdomain pre) (hshort : pre.length ≤ 17)
    (hparts : ∀ part ∈ parts, Subdomain part) :
    Usable (boundedName env pre parts) ↔ ¬ CutDoubled pre parts := by
  have hmap : parts.map (cleanNamePart env) = parts :=
    (List.map_congr_left fun part hpart => (hparts part hpart).cleanNamePart_eq env).trans
      (List.map_id parts)
  have hjoin : Subdomain (join (pre :: parts)) :=
    subdomain_join (List.forall_mem_cons.mpr ⟨hpre, hparts⟩) (by simp)
  simp only [boundedName, hpre.cleanNamePart_eq env, hmap, hjoin.trim_eq, CutDoubled]
  by_cases hfits : (join (pre :: parts)).length ≤ 63
  · rw [if_pos hfits, usable_some]
    exact iff_of_true ⟨hfits, hjoin⟩ fun h => absurd h.1 (by omega)
  · rw [if_neg hfits]
    rcases List.eq_nil_or_concat' parts with rfl | ⟨init, last, rfl⟩
    · simp [join, List.intercalate] at hfits
      omega
    · rw [List.forall_mem_append, List.forall_mem_singleton] at hparts
      rw [usable_boundedLong_iff hpre hshort hparts.1 hparts.2 (subdomain_hash (by simp) (by simp))
        (by simp [env.length_sha256]), List.getLastD_concat]
      have htwo : 2 ≤ (init ++ [last]).length ↔ init ≠ [] := by
        rw [← List.length_pos_iff, List.length_append, List.length_singleton]
        omega
      rw [htwo, and_iff_right (by omega : 63 < (join (pre :: (init ++ [last]))).length)]

end Bounded

/-! ## The consumer Pods of reservations -/

section Consumer

variable {env : Primitives} {sessionID pvc : Text}

/-- The name is too long, and the cut is right behind a dot. -/
def CutAtDot (sessionID pvc : Text) : Prop :=
  63 < (join [sessionID, reserve, pvc]).length ∧ (join [sessionID, reserve, pvc])[53]? = some '.'

theorem getLast?_rdropWhile_hyphen {t : Text} (h : (t ++ ['-']).IsChain Follows) :
    (t.rdropWhile (· = '-')).getLast? ≠ some '.' := by
  induction t using List.reverseRecOn with
  | nil => simp
  | append_singleton t c ih =>
    rw [List.rdropWhile_concat]
    by_cases hc : c = '-'
    · subst hc
      simpa using ih (List.isChain_append.mp h).1
    · rw [if_neg (by simpa using hc), List.getLast?_concat]
      rintro ⟨⟩
      have hfollows : Follows '.' '-' := by
        simpa using (List.isChain_append.mp h).2.2
      exact absurd (hfollows.1 rfl) (by decide)

/-- **`reservationConsumerName` is usable unless the cut is right behind a dot.** -/
theorem usable_reservationConsumerName_iff (hsession : Subdomain sessionID) (hpvc : Subdomain pvc) :
    Usable (reservationConsumerName env sessionID pvc) ↔ ¬ CutAtDot sessionID pvc := by
  have hreserve : Subdomain reserve := ⟨by decide, by decide, by decide, by decide⟩
  have hname : Subdomain (join [sessionID, reserve, pvc]) :=
    subdomain_join (by simp [hsession, hreserve, hpvc]) (by simp)
  unfold reservationConsumerName CutAtDot
  generalize join [sessionID, reserve, pvc] = name at hname
  by_cases hfits : name.length ≤ 63
  · simp only [if_pos hfits, usable_some]
    exact iff_of_true ⟨hfits, hname⟩ fun h => absurd h.1 (by omega)
  · have hhash : Subdomain ((env.sha256 name).take 8) := subdomain_hash (by simp) (by simp)
    have hslice : slice name (63 - ('-' :: (env.sha256 name).take 8).length) =
        some (name.take 54) := by
      have hlength : ('-' :: (env.sha256 name).take 8).length = 9 := by simp [env.length_sha256]
      rw [slice, hlength, if_pos (by omega)]
      rfl
    simp only [if_neg hfits, hslice, Option.map_some, usable_some]
    have htake : (name.take 54).length = 54 := by
      rw [List.length_take]
      omega
    obtain hnil | ⟨t, c, hcut⟩ := List.eq_nil_or_concat' (name.take 54)
    · simp [hnil] at htake
    have hchain : (t ++ [c]).IsChain Follows := hcut ▸ hname.chain.take 54
    have hget : name[53]? = some c := by
      have hsize : t.length = 53 := by simpa [hcut] using htake
      rw [← List.getElem?_take_of_lt (by simp : 53 < 54), hcut, ← hsize,
        List.getElem?_concat_length]
    rw [hget]
    by_cases hdot : c = '.'
    · subst hdot
      refine iff_of_false (fun h => ?_) fun h => h ⟨by omega, rfl⟩
      rw [hcut, List.rdropWhile_concat_neg _ _ _ (by simp)] at h
      have hfollows : Follows '.' '-' := by
        simpa using (List.isChain_append.mp h.2.chain).2.2
      exact absurd (hfollows.1 rfl) (by decide)
    · refine iff_of_true ?_ fun h => hdot (Option.some.inj h.2)
      have hne : (name.take 54).rdropWhile (· = '-') ≠ [] := by
        apply hname.rdropWhile_take_ne_nil (by simp)
        intro c hc
        have hsep := separator_of_alnum hc
        simp only [separator, Bool.or_eq_false_iff] at hsep
        exact hsep.1
      have hpre : (name.take 54).rdropWhile (· = '-') <+: name :=
        (List.rdropWhile_prefix _ _).trans (List.take_prefix _ _)
      have hlast : ((name.take 54).rdropWhile (· = '-')).getLast? ≠ some '.' := by
        rw [hcut]
        by_cases hhyphen : c = '-'
        · subst hhyphen
          simpa [List.rdropWhile_concat] using getLast?_rdropWhile_hyphen hchain
        · simpa [List.rdropWhile_concat, hhyphen] using hdot
      have hcutName : Subdomain ((name.take 54).rdropWhile (· = '-')) := by
        apply hname.of_isPrefix hpre
        rw [List.getLast?_eq_some_getLast hne] at hlast ⊢
        have hend := List.rdropWhile_last_not _ _ hne
        have hchar := List.all_eq_true.mp hname.chars _ (hpre.subset (List.getLast_mem hne))
        simp_all [separator]
      have hlength := (List.rdropWhile_prefix (· = '-') (name.take 54)).length_le
      refine ⟨?_, hcutName.append hhash⟩
      simp [env.length_sha256]
      omega

end Consumer

/-- **Derived names are usable**, for the prefixes that the callers give, exactly if neither the cut
of a bounded name is doubled nor that of a consumer name is behind a dot. -/
theorem names_usable_iff (env : Primitives) (pre : Text) (hpre : pre ∈ callerPrefixes)
    (parts : List Text) (hparts : ∀ part ∈ parts, Subdomain part) (sessionID pvc : Text)
    (hsession : Subdomain sessionID) (hpvc : Subdomain pvc) :
    Usable (boundedName env pre parts) ∧ Usable (reservationConsumerName env sessionID pvc) ↔
      ¬ CutDoubled pre parts ∧ ¬ CutAtDot sessionID pvc := by
  have hcaller : Subdomain pre ∧ pre.length ≤ 17 := by
    simp only [callerPrefixes, List.mem_cons, List.not_mem_nil, or_false] at hpre
    rcases hpre with rfl | rfl | rfl <;>
      exact ⟨⟨by decide, by decide, by decide, by decide⟩, by decide⟩
  rw [usable_boundedName_iff hcaller.1 hcaller.2 hparts,
    usable_reservationConsumerName_iff hsession hpvc]

def zeroDigests : Primitives where
  toLower := id
  toLower_eq _ _ := rfl
  sha256 _ := List.replicate 64 '0'
  length_sha256 _ := by simp
  alnum_sha256 _ := by decide

/-- A claim whose name is cut. -/
def longPVC : Text := List.replicate 60 'p'

theorem cut_names_usable :
    63 < (join ["pvc-migrate-bind".toList, ['s'], longPVC]).length ∧
      63 < (join [['s'], reserve, longPVC]).length ∧
      Usable (boundedName zeroDigests "pvc-migrate-bind".toList [['s'], longPVC]) ∧
      Usable (reservationConsumerName zeroDigests ['s'] longPVC) := by
  have hs : Subdomain ['s'] := ⟨by decide, by decide, by decide, by decide⟩
  have hp : Subdomain longPVC := ⟨by decide, by decide +kernel, by decide, by decide⟩
  refine ⟨by decide, by decide, ?_⟩
  apply (names_usable_iff zeroDigests _ (by decide) [['s'], longPVC]
    (by simp [hs, hp]) _ _ hs hp).mpr
  refine ⟨fun hdoubled => ?_, fun hdot => ?_⟩
  · exact absurd hdoubled.2.2 (by decide)
  · exact absurd hdot.2 (by decide)

/-- A claim whose name has two hyphens where it is cut. -/
def hyphenPVC : Text := List.replicate 33 'a' ++ ['-', '-', 'b']

/-- A claim whose name has a dot where it is cut. -/
def dottedPVC : Text := List.replicate 43 'a' ++ '.' :: List.replicate 20 'b'

/-- The first name has 65 characters, the second one a label that starts with a hyphen. -/
theorem long_names_unusable :
    Subdomain hyphenPVC ∧ Subdomain dottedPVC ∧
      (boundedName zeroDigests "pvc-migrate-bind".toList [List.replicate 10 's', hyphenPVC]).map
        List.length = some 65 ∧
      ¬ Usable (reservationConsumerName zeroDigests ['s'] dottedPVC) := by
  refine ⟨⟨by decide, by decide +kernel, by decide, by decide⟩,
    ⟨by decide, by decide +kernel, by decide, by decide⟩, by decide +kernel, ?_⟩
  rintro ⟨t, ht, -, hvalid⟩
  have hname : t = 's' :: '-' :: (reserve ++ '-' :: (List.replicate 43 'a' ++ '.' :: '-' ::
      List.replicate 8 '0')) := by
    rw [← Option.some_inj, ← ht]
    decide +kernel
  subst hname
  exact absurd hvalid.chain (by decide +kernel)

end PvcMigrate.Names
