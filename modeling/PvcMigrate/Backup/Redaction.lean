import Mathlib.Algebra.BigOperators.Ring.List
import Mathlib.Algebra.Order.BigOperators.Group.List
import Mathlib.Algebra.Order.Ring.Nat
import PvcMigrate.Lib.Replace
import PvcMigrate.Lib.Text

/-!
# Redacting credentials

The error text of a transfer tool may repeat the repository's credentials, and it goes into a
workflow status that others can read.  `redactCredentialText` (`backup/error_redaction.go`)
therefore replaces each credential by a marker, both as it is and as it is escaped for Helm
(`backup/rclone_config.go`).  The credentials are replaced one after the other, so what is left of a
later one depends on the earlier ones: with `minio` and `minio123` the marker is followed by `123`.

The tool's text is a list of pieces: literal text, and credentials in either spelling.  A text hides
the credentials if its redaction is the same for all of them, as long as none of their characters
occurs in the literal text or in the marker.

Texts are valid Unicode, where Go's replacement of bytes is one of characters.
-/

namespace PvcMigrate

namespace Redaction

open Replace

/-- `objectstore.Credentials`. -/
structure Credentials where
  accessKey : Text
  secretKey : Text
  sessionToken : Text
  deriving DecidableEq

def redactionPlaceholder : Text := "[redacted]".toList

def escapeChar (c : Char) : Text := if c = '\\' ∨ c = ',' then ['\\', c] else [c]

def escapeHelmString (value : Text) : Text := value.flatMap escapeChar

/-- The body of the loop of `redactCredentialText`. -/
def redactValue (message value : Text) : Text :=
  if value = [] then message
  else
    let message := replaceAll value redactionPlaceholder message
    if escapeHelmString value ≠ value then
      replaceAll (escapeHelmString value) redactionPlaceholder message
    else message

def redactCredentialText (message : Text) (credentials : Credentials) : Text :=
  [credentials.accessKey, credentials.secretKey, credentials.sessionToken].foldl redactValue message

/-! ## Texts that repeat credentials -/

inductive Component
  | accessKey
  | secretKey
  | sessionToken
  deriving DecidableEq

def Credentials.value (credentials : Credentials) : Component → Text
  | .accessKey => credentials.accessKey
  | .secretKey => credentials.secretKey
  | .sessionToken => credentials.sessionToken

/-- The components in the order in which they are replaced. -/
def order : List Component := [.accessKey, .secretKey, .sessionToken]

/-- A piece of a text: literal, or a component as it is or escaped. -/
inductive Piece
  | literal (text : Text)
  | secret (component : Component) (escaped : Bool)
  deriving DecidableEq

def Piece.render (credentials : Credentials) : Piece → Text
  | .literal text => text
  | .secret component false => credentials.value component
  | .secret component true => escapeHelmString (credentials.value component)

def render (credentials : Credentials) (pieces : List Piece) : Text :=
  pieces.flatMap (Piece.render credentials)

/-- The character occurs neither in the literal text nor in the marker. -/
def Free (pieces : List Piece) (c : Char) : Prop :=
  c ∉ redactionPlaceholder ∧ ∀ text, .literal text ∈ pieces → c ∉ text

/-- All characters of the credentials are told apart from the literal text and the marker. -/
def Admissible (pieces : List Piece) (credentials : Credentials) : Prop :=
  ∀ component, ∀ c ∈ credentials.value component, Free pieces c

/-- The components that are not empty are those of the pattern. -/
def HasPattern (pattern : Component → Bool) (credentials : Credentials) : Prop :=
  ∀ component, credentials.value component = [] ↔ pattern component = false

theorem mem_order (component : Component) : component ∈ order := by
  cases component <;> decide

def Piece.literalText : Piece → Text
  | .literal text => text
  | .secret _ _ => []

instance (pieces : List Piece) (c : Char) : Decidable (Free pieces c) :=
  decidable_of_iff (c ∉ redactionPlaceholder ∧ ∀ piece ∈ pieces, c ∉ piece.literalText) <| by
    refine and_congr_right fun _ => ⟨fun h text htext => h _ htext, fun h piece hpiece => ?_⟩
    cases piece with
    | literal text => exact h text hpiece
    | secret component escaped => exact List.not_mem_nil

instance (pieces : List Piece) (credentials : Credentials) :
    Decidable (Admissible pieces credentials) :=
  decidable_of_iff
    (∀ component ∈ order, (credentials.value component).all (Free pieces ·) = true)
    ⟨fun h component c hc => of_decide_eq_true
        (List.all_eq_true.mp (h component (mem_order component)) c hc),
      fun h component _ => List.all_eq_true.mpr fun c hc => decide_eq_true (h component c hc)⟩

instance (pattern : Component → Bool) (credentials : Credentials) :
    Decidable (HasPattern pattern credentials) :=
  decidable_of_iff
    (∀ component ∈ order, credentials.value component = [] ↔ pattern component = false)
    ⟨fun h component => h component (mem_order component), fun h component _ => h component⟩

/-- The redacted text is the same for all credentials with the pattern. -/
def Hides (pieces : List Piece) (pattern : Component → Bool) : Prop :=
  ∀ first second, HasPattern pattern first → HasPattern pattern second →
    Admissible pieces first → Admissible pieces second →
    redactCredentialText (render first pieces) first =
      redactCredentialText (render second pieces) second

/-- Escaping does not show: no credential has a character that is escaped, or all of them consist
of backslashes alone. -/
def EscapesAlike (pieces : List Piece) : Prop :=
  ¬ Free pieces ',' ∧ (Free pieces '\\' → ∀ c, Free pieces c → c = '\\')

/-- The credentials in the text are all the first one that is not empty, and escaped ones among them
do not show.  (The literal text may also leave no character for a credential at all.) -/
def Hiding (pieces : List Piece) (pattern : Component → Bool) : Prop :=
  (∀ c, ¬ Free pieces c) ∨
    ∀ component escaped, .secret component escaped ∈ pieces → pattern component = true →
      order.find? pattern = some component ∧ (escaped = false ∨ EscapesAlike pieces)

/-! ## Values that do not occur -/

variable {c : Char} {pattern : Component → Bool} {credentials : Credentials}
  {first component : Component} {pieces : List Piece} {n : Component → Nat}

theorem mem_escapeHelmString {value : Text} (h : c ∈ value) :
    c ∈ escapeHelmString value := by
  refine List.mem_flatMap.mpr ⟨c, h, ?_⟩
  unfold escapeChar
  split <;> simp

/-- A value none of whose characters occurs leaves the message as it is. -/
theorem redactValue_of_not_mem {message value : Text} (h : ∀ c ∈ value, c ∉ message) :
    redactValue message value = message := by
  by_cases hvalue : value = []
  · simp [redactValue, hvalue]
  · obtain ⟨c, hc⟩ := List.exists_mem_of_ne_nil value hvalue
    have hraw : replaceAll value redactionPlaceholder message = message :=
      replaceAll_of_not_mem hc (h c hc)
    have hescaped : replaceAll (escapeHelmString value) redactionPlaceholder message = message :=
      replaceAll_of_not_mem (mem_escapeHelmString hc) (h c hc)
    simp [redactValue, hvalue, hraw, hescaped]

theorem foldl_redactValue_of_not_mem {message : Text} {values : List Text}
    (h : ∀ value ∈ values, ∀ c ∈ value, c ∉ message) :
    values.foldl redactValue message = message := by
  induction values with
  | nil => rfl
  | cons value values ih =>
    rw [List.foldl_cons, redactValue_of_not_mem (h value List.mem_cons_self)]
    exact ih fun v hv => h v (List.mem_cons_of_mem _ hv)

/-- The components before the first one that is not empty do nothing. -/
theorem redactCredentialText_eq (hpattern : HasPattern pattern credentials)
    (hfirst : order.find? pattern = some first) :
    ∃ later : List Component, ∀ message, redactCredentialText message credentials =
      (later.map credentials.value).foldl redactValue
        (redactValue message (credentials.value first)) := by
  obtain ⟨-, before, later, horder, hbefore⟩ := List.find?_eq_some_iff_append.mp hfirst
  refine ⟨later, fun message => ?_⟩
  have hvalues : redactCredentialText message credentials =
      (order.map credentials.value).foldl redactValue message := rfl
  have hskip : (before.map credentials.value).foldl redactValue message = message := by
    apply foldl_redactValue_of_not_mem
    intro value hvalue c hc
    obtain ⟨component, hcomponent, rfl⟩ := List.mem_map.mp hvalue
    have hempty : credentials.value component = [] :=
      (hpattern component).mpr (by simpa using hbefore component hcomponent)
    rw [hempty] at hc
    cases hc
  rw [hvalues, horder, List.map_append, List.foldl_append, hskip, List.map_cons, List.foldl_cons]

/-! ## The first credential alone -/

/-- A text with holes has a character of the marker or of the text around the holes only. -/
theorem not_mem_mix {word : Text} {parts : List (Option Text)} (hword : c ∉ word)
    (hparts : ∀ text, some text ∈ parts → c ∉ text) : c ∉ mix word parts := by
  intro h
  obtain ⟨part, hpart, hc⟩ := List.mem_flatMap.mp h
  cases part with
  | none => exact hword hc
  | some text => exact hparts text hpart hc

/-- Wherever the first credential stands alone, it becomes the marker, and nothing else changes. -/
theorem redact_mix (hpattern : HasPattern pattern credentials)
    (hfirst : order.find? pattern = some first) {parts : List (Option Text)}
    (hmarker : ∀ component, ∀ c ∈ credentials.value component, c ∉ redactionPlaceholder)
    (hparts : ∀ component, ∀ c ∈ credentials.value component, ∀ text, some text ∈ parts →
      c ∉ text) :
    redactCredentialText (mix (credentials.value first) parts) credentials =
      mix redactionPlaceholder parts := by
  have hnonempty : credentials.value first ≠ [] := by
    intro h
    have hfalse := (hpattern first).mp h
    rw [List.find?_some hfirst] at hfalse
    cases hfalse
  have hgone : ∀ component, ∀ c ∈ credentials.value component,
      c ∉ mix redactionPlaceholder parts :=
    fun component c hc => not_mem_mix (hmarker component c hc) (hparts component c hc)
  have hreplaced : replaceAll (credentials.value first) redactionPlaceholder
      (mix (credentials.value first) parts) = mix redactionPlaceholder parts :=
    replaceAll_mix hnonempty fun text htext c hc hmem => hparts first c hmem text htext hc
  obtain ⟨c, hc⟩ := List.exists_mem_of_ne_nil _ hnonempty
  have hescaped : replaceAll (escapeHelmString (credentials.value first)) redactionPlaceholder
      (mix redactionPlaceholder parts) = mix redactionPlaceholder parts :=
    replaceAll_of_not_mem (mem_escapeHelmString hc) (hgone first c hc)
  have hvalue : redactValue (mix (credentials.value first) parts) (credentials.value first) =
      mix redactionPlaceholder parts := by
    simp [redactValue, hnonempty, hreplaced, hescaped]
  obtain ⟨later, hlater⟩ := redactCredentialText_eq hpattern hfirst
  rw [hlater, hvalue]
  apply foldl_redactValue_of_not_mem
  intro value hmem c hc
  obtain ⟨component, -, rfl⟩ := List.mem_map.mp hmem
  exact hgone component c hc

/-- The holes of a text: one for each credential, `width` for an escaped one. -/
def holes (width : Nat) (pattern : Component → Bool) (pieces : List Piece) : List (Option Text) :=
  pieces.flatMap fun
    | .literal text => [some text]
    | .secret component escaped =>
      if pattern component = false then [] else List.replicate (if escaped then width else 1) none

theorem some_mem_holes {width : Nat} {text : Text}
    (h : some text ∈ holes width pattern pieces) : .literal text ∈ pieces := by
  obtain ⟨piece, hpiece, hmem⟩ := List.mem_flatMap.mp h
  cases piece with
  | literal text' =>
    have : text = text' := by simpa using hmem
    exact this ▸ hpiece
  | secret component escaped =>
    by_cases hpattern : pattern component = false <;> simp [hpattern] at hmem

/-- A text whose credentials are all the first one is that credential in holes, if escaping it
repeats it. -/
theorem render_eq_mix {width : Nat} (hpattern : HasPattern pattern credentials)
    (h : ∀ component escaped, .secret component escaped ∈ pieces → pattern component = true →
      component = first ∧ (escaped = true → escapeHelmString (credentials.value first) =
        (List.replicate width (credentials.value first)).flatten)) :
    render credentials pieces = mix (credentials.value first) (holes width pattern pieces) := by
  induction pieces with
  | nil => rfl
  | cons piece pieces ih =>
    have hrest := ih fun component escaped hmem =>
      h component escaped (List.mem_cons_of_mem _ hmem)
    have hpiece : piece.render credentials =
        mix (credentials.value first) (holes width pattern [piece]) := by
      cases piece with
      | literal text => simp [Piece.render, holes, mix]
      | secret component escaped =>
        by_cases hempty : pattern component = false
        · have hvalue := (hpattern component).mpr hempty
          cases escaped <;> simp [Piece.render, holes, hempty, hvalue, mix, escapeHelmString]
        · obtain ⟨rfl, hescaped⟩ := h component escaped List.mem_cons_self (by simpa using hempty)
          cases escaped with
          | false => simp [Piece.render, holes, hempty, mix]
          | true => simp [Piece.render, holes, hempty, mix_replicate_none, hescaped rfl]
    have hholes : holes width pattern (piece :: pieces) =
        holes width pattern [piece] ++ holes width pattern pieces := by
      simp [holes]
    rw [hholes, mix_append, ← hpiece, ← hrest]
    rfl

theorem render_of_pattern_false (hpattern : HasPattern pattern credentials)
    (h : ∀ component, pattern component = false)
    (pieces : List Piece) : redactCredentialText (render credentials pieces) credentials =
      mix [] (holes 1 pattern pieces) := by
  have hempty : ∀ component, credentials.value component = [] :=
    fun component => (hpattern component).mpr (h component)
  have hrender : render credentials pieces =
      mix (credentials.value .accessKey) (holes 1 pattern pieces) :=
    render_eq_mix hpattern fun component escaped _ hc => absurd hc (by simp [h])
  have hredact : redactCredentialText (render credentials pieces) credentials =
      render credentials pieces := by
    apply foldl_redactValue_of_not_mem
    intro value hvalue c hc
    have : ∃ component, credentials.value component = value := by
      simp only [List.mem_cons, List.not_mem_nil, or_false] at hvalue
      rcases hvalue with rfl | rfl | rfl
      · exact ⟨.accessKey, rfl⟩
      · exact ⟨.secretKey, rfl⟩
      · exact ⟨.sessionToken, rfl⟩
    obtain ⟨component, rfl⟩ := this
    rw [hempty component] at hc
    cases hc
  rw [hredact, hrender, hempty]

theorem escapeHelmString_of_plain {value : Text} (h : ∀ c ∈ value, c ≠ '\\' ∧ c ≠ ',') :
    escapeHelmString value = value := by
  induction value with
  | nil => rfl
  | cons c value ih =>
    obtain ⟨hbackslash, hcomma⟩ := h c List.mem_cons_self
    have hrest := ih fun c hc => h c (List.mem_cons_of_mem _ hc)
    unfold escapeHelmString at hrest ⊢
    simp [escapeChar, hbackslash, hcomma, hrest]

theorem escapeHelmString_replicate (n : Nat) (c : Char) :
    escapeHelmString (List.replicate n c) = (List.replicate n (escapeChar c)).flatten := by
  simp [escapeHelmString, List.flatMap_def]

/-- How often a value is repeated by escaping it, where escaping does not show. -/
def escapedWidth (pieces : List Piece) : Nat := if Free pieces '\\' then 2 else 1

theorem escapeHelmString_of_alike (halike : EscapesAlike pieces) {value : Text}
    (hvalue : ∀ c ∈ value, Free pieces c) :
    escapeHelmString value = (List.replicate (escapedWidth pieces) value).flatten := by
  by_cases hfree : Free pieces '\\'
  · -- the value consists of backslashes
    have hreplicate : value = List.replicate value.length '\\' :=
      List.eq_replicate_of_mem fun c hc => halike.2 hfree c (hvalue c hc)
    rw [hreplicate, escapeHelmString_replicate]
    simp only [escapedWidth, hfree, if_true]
    have hpair : escapeChar '\\' = List.replicate 2 '\\' := rfl
    rw [hpair, List.flatten_replicate_replicate, List.flatten_replicate_replicate, Nat.mul_comm]
  · have hplain := escapeHelmString_of_plain fun c hc =>
      ⟨fun h => hfree (h ▸ hvalue c hc), fun h => halike.1 (h ▸ hvalue c hc)⟩
    simp [hplain, escapedWidth, hfree]

theorem hides_of_hiding (h : Hiding pieces pattern) : Hides pieces pattern := by
  intro t t' hpattern hpattern' hadmissible hadmissible'
  cases hfirst : order.find? pattern with
  | none =>
    -- there is no credential
    have hfalse : ∀ component, pattern component = false := by
      intro component
      simpa using List.find?_eq_none.mp hfirst component (mem_order component)
    rw [render_of_pattern_false hpattern hfalse, render_of_pattern_false hpattern' hfalse]
  | some first =>
    rcases h with hnone | hpieces
    · -- no character is left for one
      have htrue : pattern first = true := List.find?_some hfirst
      have hvalue : t.value first ≠ [] := by
        intro hempty
        rw [(hpattern first).mp hempty] at htrue
        cases htrue
      obtain ⟨c, hc⟩ := List.exists_mem_of_ne_nil _ hvalue
      exact absurd (hadmissible first c hc) (hnone c)
    · have hredacted : ∀ {t : Credentials}, HasPattern pattern t → Admissible pieces t →
          redactCredentialText (render t pieces) t =
            mix redactionPlaceholder (holes (escapedWidth pieces) pattern pieces) := by
        intro t hpattern hadmissible
        have hrender : render t pieces =
            mix (t.value first) (holes (escapedWidth pieces) pattern pieces) := by
          apply render_eq_mix hpattern
          intro component escaped hmem htrue
          obtain ⟨hcomponent, hescaped⟩ := hpieces component escaped hmem htrue
          refine ⟨Option.some.inj (hcomponent.symm.trans hfirst), fun hescaped' => ?_⟩
          rcases hescaped with hfalse | halike
          · rw [hfalse] at hescaped'
            cases hescaped'
          · exact escapeHelmString_of_alike halike (hadmissible first)
        rw [hrender]
        exact redact_mix hpattern hfirst (fun component c hc => (hadmissible component c hc).1)
          fun component c hc text htext => (hadmissible component c hc).2 text
            (some_mem_holes htext)
      rw [hredacted hpattern hadmissible, hredacted hpattern' hadmissible']

/-! ## Credentials of one character -/

/-- Credentials whose components are powers of one character. -/
def powers (c : Char) (n : Component → Nat) : Credentials :=
  ⟨List.replicate (n .accessKey) c, List.replicate (n .secretKey) c,
    List.replicate (n .sessionToken) c⟩

@[simp] theorem value_powers (c : Char) (n : Component → Nat) (component : Component) :
    (powers c n).value component = List.replicate (n component) c := by
  cases component <;> rfl

theorem hasPattern_powers (c : Char)
    (h : ∀ component, n component = 0 ↔ pattern component = false) :
    HasPattern pattern (powers c n) := by
  intro component
  simp [h]

theorem admissible_powers (hc : Free pieces c)
    (n : Component → Nat) : Admissible pieces (powers c n) := by
  intro component d hd
  rw [value_powers] at hd
  rw [(List.mem_replicate.mp hd).2]
  exact hc

def mark (c d : Char) : Text := if d = c then redactionPlaceholder else [d]

/-- If the first credential is one character, the marker takes the place of that character, and
nothing is left to do for its powers. -/
theorem redact_powers (hn : ∀ component, n component = 0 ↔ pattern component = false)
    (hfirst : order.find? pattern = some first) (hone : n first = 1)
    (hmarker : c ∉ redactionPlaceholder) (message : Text) :
    redactCredentialText message (powers c n) = message.flatMap (mark c) := by
  have hgone : c ∉ message.flatMap (mark c) := by
    intro h
    obtain ⟨d, -, hd⟩ := List.mem_flatMap.mp h
    unfold mark at hd
    split at hd
    · exact hmarker hd
    · next hne => exact hne (List.mem_singleton.mp hd).symm
  have hreplaced : replaceAll [c] redactionPlaceholder message = message.flatMap (mark c) :=
    replaceAll_singleton c message
  have hescaped : replaceAll (escapeHelmString [c]) redactionPlaceholder
      (message.flatMap (mark c)) = message.flatMap (mark c) :=
    replaceAll_of_not_mem (mem_escapeHelmString (List.mem_singleton_self c)) hgone
  have hvalue : redactValue message ((powers c n).value first) = message.flatMap (mark c) := by
    simp [redactValue, hone, hreplaced, hescaped]
  obtain ⟨later, hlater⟩ := redactCredentialText_eq (hasPattern_powers c hn) hfirst
  rw [hlater, hvalue]
  apply foldl_redactValue_of_not_mem
  intro value hmem d hd
  obtain ⟨component, -, rfl⟩ := List.mem_map.mp hmem
  rw [value_powers] at hd
  rw [(List.mem_replicate.mp hd).2]
  exact hgone

/-- How long the escaped character is with the marker in its place. -/
def escapedCost (c : Char) : Nat := if c = ',' then 11 else if c = '\\' then 20 else 10

/-- How long a piece is with the markers in place. -/
def pieceCost (c : Char) (n : Component → Nat) : Piece → Nat
  | .literal text => text.length
  | .secret component false => n component * 10
  | .secret component true => n component * escapedCost c

theorem length_mark_self (c : Char) : (mark c c).length = 10 := by
  rw [mark, if_pos rfl]
  decide

theorem length_escapeChar_mark (c : Char) :
    ((escapeChar c).flatMap (mark c)).length = escapedCost c := by
  by_cases hcomma : c = ','
  · subst hcomma
    decide
  · by_cases hbackslash : c = '\\'
    · subst hbackslash
      decide
    · simp [escapeChar, escapedCost, hcomma, hbackslash, length_mark_self]

theorem length_replicate_flatMap {n : Nat} (text : Text) (f : Char → Text) :
    ((List.replicate n text).flatten.flatMap f).length = n * (text.flatMap f).length := by
  induction n with
  | zero => simp
  | succ n ih =>
    rw [List.replicate_succ, List.flatten_cons, List.flatMap_append, List.length_append, ih,
      Nat.succ_mul]
    omega

theorem length_render_mark (hc : Free pieces c) (n : Component → Nat) {piece : Piece}
    (hpiece : piece ∈ pieces) :
    ((piece.render (powers c n)).flatMap (mark c)).length = pieceCost c n piece := by
  cases piece with
  | literal text =>
    have hplain : text.flatMap (mark c) = text := by
      have hnot := hc.2 text hpiece
      calc text.flatMap (mark c) = text.flatMap fun d => [d] := by
            refine List.flatMap_congr fun d hd => ?_
            have hne : d ≠ c := fun h => hnot (h ▸ hd)
            simp [mark, hne]
        _ = text := List.flatMap_singleton' text
    simp [Piece.render, pieceCost, hplain]
  | secret component escaped =>
    cases escaped with
    | false =>
      have hflatten : List.replicate (n component) c =
          (List.replicate (n component) [c]).flatten := by simp
      simp only [Piece.render, pieceCost, value_powers]
      rw [hflatten, length_replicate_flatMap]
      simp [length_mark_self]
    | true =>
      simp only [Piece.render, pieceCost, value_powers]
      rw [escapeHelmString_replicate, length_replicate_flatMap, length_escapeChar_mark]

theorem length_redact_powers (hc : Free pieces c)
    (hn : ∀ component, n component = 0 ↔ pattern component = false)
    (hfirst : order.find? pattern = some first) (hone : n first = 1) :
    (redactCredentialText (render (powers c n) pieces) (powers c n)).length =
      (pieces.map (pieceCost c n)).sum := by
  rw [redact_powers hn hfirst hone hc.1, render, List.flatMap_assoc, List.length_flatMap]
  congr 1
  exact List.map_congr_left fun piece hpiece => length_render_mark hc n hpiece

/-- Credentials of one character each that lead to texts of different lengths. -/
theorem not_hides_of_cost_lt {n' : Component → Nat} {c' : Char} (hc : Free pieces c)
    (hc' : Free pieces c') (hn : ∀ component, n component = 0 ↔ pattern component = false)
    (hn' : ∀ component, n' component = 0 ↔ pattern component = false)
    (hfirst : order.find? pattern = some first) (hone : n first = 1) (hone' : n' first = 1)
    (hle : ∀ piece ∈ pieces, pieceCost c n piece ≤ pieceCost c' n' piece)
    (hlt : ∃ piece ∈ pieces, pieceCost c n piece < pieceCost c' n' piece) :
    ¬ Hides pieces pattern := by
  intro hhides
  have heq := congrArg List.length (hhides _ _ (hasPattern_powers c hn) (hasPattern_powers c' hn')
    (admissible_powers hc n) (admissible_powers hc' n'))
  rw [length_redact_powers hc hn hfirst hone, length_redact_powers hc' hn' hfirst hone'] at heq
  exact absurd heq (Nat.ne_of_lt (List.sum_lt_sum _ _ hle hlt))

/-- Every component of the pattern is one character. -/
def single (pattern : Component → Bool) (component : Component) : Nat :=
  if pattern component then 1 else 0

theorem single_eq_zero (pattern : Component → Bool) (component : Component) :
    single pattern component = 0 ↔ pattern component = false := by
  unfold single
  split <;> simp_all

theorem single_first (hfirst : order.find? pattern = some first) : single pattern first = 1 := by
  simp [single, List.find?_some hfirst]

/-- A later credential shows: it may be the first one, or the first one twice. -/
theorem first_of_hides (hc : Free pieces c) (hhides : Hides pieces pattern)
    (hfirst : order.find? pattern = some first) {escaped : Bool}
    (hmem : .secret component escaped ∈ pieces) (htrue : pattern component = true) :
    component = first := by
  by_contra hne
  let n : Component → Nat := fun other => if other = first then 1 else 2 * single pattern other
  have hpos : 0 < escapedCost c := by
    unfold escapedCost
    split
    · decide
    · split <;> decide
  have hn : ∀ other, n other = 0 ↔ pattern other = false := by
    intro other
    by_cases h : other = first
    · subst h
      simp [n, List.find?_some hfirst]
    · simp only [n, h, if_false, ← single_eq_zero]
      omega
  have hsingle : ∀ other, single pattern other ≤ n other := by
    intro other
    by_cases h : other = first
    · subst h
      simp [n, single_first hfirst]
    · simp only [n, h, if_false]
      omega
  have hdouble : n component = 2 := by simp [n, hne, single, htrue]
  refine not_hides_of_cost_lt hc hc (single_eq_zero pattern) hn hfirst (single_first hfirst)
    (by simp [n]) ?_ ⟨_, hmem, ?_⟩ hhides
  · intro piece _
    cases piece with
    | literal text => exact Nat.le_refl _
    | secret other escaped =>
      cases escaped <;> exact Nat.mul_le_mul_right _ (hsingle other)
  · have hone : single pattern component = 1 := by simp [single, htrue]
    cases escaped with
    | false => simp [pieceCost, hone, hdouble]
    | true =>
      simp only [pieceCost, hone, hdouble]
      omega

/-- An escaped credential shows if it may be a character that is escaped at one length, or one that
is escaped at another. -/
theorem cost_eq_of_hides {c' : Char} (hc : Free pieces c) (hc' : Free pieces c')
    (hhides : Hides pieces pattern) (hfirst : order.find? pattern = some first)
    (hmem : .secret component true ∈ pieces) (htrue : pattern component = true) :
    ¬ escapedCost c < escapedCost c' := by
  intro hlt
  have hone : single pattern component = 1 := by simp [single, htrue]
  refine not_hides_of_cost_lt hc hc' (single_eq_zero pattern) (single_eq_zero pattern) hfirst
    (single_first hfirst) (single_first hfirst) ?_ ⟨_, hmem, ?_⟩ hhides
  · intro piece _
    cases piece with
    | literal text => exact Nat.le_refl _
    | secret other escaped =>
      cases escaped
      · exact Nat.le_refl _
      · exact Nat.mul_le_mul_left _ (Nat.le_of_lt hlt)
  · simpa [pieceCost, hone] using hlt

/-! ## Counting backslashes -/

/-- The number of backslashes that escaping adds to credentials of commas. -/
def escapes (n : Component → Nat) : Piece → Nat
  | .secret component true => n component
  | _ => 0

/-- The number of backslashes in the literal text. -/
def backslashes : Piece → Nat
  | .literal text => text.count '\\'
  | _ => 0

theorem count_flatMap_of_eq {f : Char → Text} {x : Char} {s : Text}
    (h : ∀ d ∈ s, (f d).count x = [d].count x) : (s.flatMap f).count x = s.count x := by
  induction s with
  | nil => rfl
  | cons d s ih =>
    have hd := h d List.mem_cons_self
    have hs := ih fun d hd => h d (List.mem_cons_of_mem _ hd)
    have hcons : (d :: s).count x = [d].count x + s.count x := by
      rw [← List.count_append]
      rfl
    rw [List.flatMap_cons, List.count_append, hd, hs, hcons]

theorem count_escapeHelmString_commas (n : Nat) :
    (escapeHelmString (List.replicate n ',')).count '\\' = n := by
  rw [escapeHelmString_replicate]
  induction n with
  | zero => rfl
  | succ n ih =>
    have hone : (escapeChar ',').count '\\' = 1 := by decide
    rw [List.replicate_succ, List.flatten_cons, List.count_append, ih, hone]
    omega

theorem count_render_commas (n : Component → Nat) (pieces : List Piece) :
    (render (powers ',' n) pieces).count '\\' =
      (pieces.map backslashes).sum + (pieces.map (escapes n)).sum := by
  induction pieces with
  | nil => rfl
  | cons piece pieces ih =>
    have hpiece : (piece.render (powers ',' n)).count '\\' =
        backslashes piece + escapes n piece := by
      cases piece with
      | literal text => rfl
      | secret component escaped =>
        cases escaped with
        | false => simp [Piece.render, backslashes, escapes, List.count_replicate]
        | true => simp [Piece.render, backslashes, escapes, count_escapeHelmString_commas]
    have hrender : render (powers ',' n) (piece :: pieces) =
        piece.render (powers ',' n) ++ render (powers ',' n) pieces := rfl
    rw [hrender, List.count_append, hpiece, ih]
    simp only [List.map_cons, List.sum_cons]
    omega

/-- Redacting commas takes a multiple of the number of them in backslashes. -/
theorem count_redactValue_commas {n m : Nat} (hm : m = 0 ∨ m = n) (message : Text) :
    ∃ k, (redactValue message (List.replicate m ',')).count '\\' + k * n =
      message.count '\\' := by
  have hmarker : redactionPlaceholder.count '\\' = 0 := by decide
  by_cases hzero : m = 0
  · exact ⟨0, by simp [hzero, redactValue]⟩
  · obtain rfl : m = n := hm.resolve_left hzero
    have hvalue : List.replicate m ',' ≠ [] := by simp [hzero]
    have hraw : (List.replicate m ',').count '\\' = 0 := by simp [List.count_replicate]
    obtain ⟨k, hk⟩ := @count_replaceAll _ _ _ redactionPlaceholder hvalue '\\' message
    rw [hraw, hmarker] at hk
    have hescaped : escapeHelmString (List.replicate m ',') ≠ [] := by
      intro h
      have := count_escapeHelmString_commas m
      rw [h] at this
      exact hzero (by simpa using this.symm)
    obtain ⟨k', hk'⟩ := @count_replaceAll _ _ _ redactionPlaceholder hescaped '\\'
      (replaceAll (List.replicate m ',') redactionPlaceholder message)
    rw [count_escapeHelmString_commas, hmarker] at hk'
    by_cases hplain : escapeHelmString (List.replicate m ',') = List.replicate m ','
    · refine ⟨0, ?_⟩
      simp only [redactValue, hvalue, if_false, hplain, ne_eq, not_true_eq_false]
      omega
    · refine ⟨k', ?_⟩
      simp only [redactValue, hvalue, if_false, hplain, ne_eq, not_false_eq_true, if_true]
      omega

theorem count_foldl_redactValue_commas {n : Nat} {values : List Text}
    (h : ∀ value ∈ values, value = [] ∨ value = List.replicate n ',') (message : Text) :
    ∃ k, (values.foldl redactValue message).count '\\' + k * n = message.count '\\' := by
  induction values generalizing message with
  | nil => exact ⟨0, by simp⟩
  | cons value values ih =>
    obtain ⟨k, hk⟩ := ih (fun v hv => h v (List.mem_cons_of_mem _ hv)) (redactValue message value)
    have hvalue : ∃ m, (m = 0 ∨ m = n) ∧ value = List.replicate m ',' := by
      rcases h value List.mem_cons_self with rfl | rfl
      · exact ⟨0, .inl rfl, rfl⟩
      · exact ⟨n, .inr rfl, rfl⟩
    obtain ⟨m, hm, rfl⟩ := hvalue
    obtain ⟨k', hk'⟩ := count_redactValue_commas hm message
    refine ⟨k + k', ?_⟩
    rw [List.foldl_cons, Nat.add_mul]
    omega

/-- An escaped credential shows if it may be a row of commas: the backslashes of a single comma
stay, those of a longer row go all together or not at all. -/
theorem not_free_comma_of_hides (hhides : Hides pieces pattern)
    (hfirst : order.find? pattern = some first) (hmem : .secret component true ∈ pieces)
    (htrue : pattern component = true) : ¬ Free pieces ',' := by
  intro hcomma
  let N := (pieces.map (escapes (single pattern))).sum
  let row : Component → Nat := fun other => (N + 1) * single pattern other
  have hN : 0 < N := by
    have hone : escapes (single pattern) (.secret component true) = 1 := by
      simp [escapes, single, htrue]
    have hle : escapes (single pattern) (.secret component true) ≤ N :=
      List.single_le_sum (fun _ _ => Nat.zero_le _) _ (List.mem_map_of_mem hmem)
    omega
  have hrow : ∀ other, row other = 0 ↔ pattern other = false := by
    intro other
    simp only [row, Nat.mul_eq_zero, Nat.succ_ne_zero, false_or]
    exact single_eq_zero pattern other
  -- single commas: every backslash is still there
  have hshort : (redactCredentialText (render (powers ',' (single pattern)) pieces)
      (powers ',' (single pattern))).count '\\' = (pieces.map backslashes).sum + N := by
    rw [redact_powers (single_eq_zero pattern) hfirst (single_first hfirst) hcomma.1,
      count_flatMap_of_eq, count_render_commas]
    intro d _
    by_cases hd : d = ','
    · subst hd
      decide
    · simp [mark, hd]
  -- longer rows
  have hescapes : (pieces.map (escapes row)).sum = (N + 1) * N := by
    have hpiece : ∀ piece, escapes row piece = (N + 1) * escapes (single pattern) piece := by
      intro piece
      cases piece with
      | literal text => rfl
      | secret other escaped => cases escaped <;> rfl
    rw [List.map_congr_left fun piece _ => hpiece piece, List.sum_map_mul_left]
  have hvalues : ∀ value ∈ [(powers ',' row).accessKey, (powers ',' row).secretKey,
      (powers ',' row).sessionToken], value = [] ∨ value = List.replicate (N + 1) ',' := by
    have hcomponent : ∀ other, List.replicate (row other) ',' = [] ∨
        List.replicate (row other) ',' = List.replicate (N + 1) ',' := by
      intro other
      by_cases h : pattern other = true
      · exact .inr (by simp [row, single, h])
      · exact .inl (by simp [row, single, h])
    intro value hvalue
    simp only [List.mem_cons, List.not_mem_nil, or_false] at hvalue
    rcases hvalue with rfl | rfl | rfl
    · exact hcomponent .accessKey
    · exact hcomponent .secretKey
    · exact hcomponent .sessionToken
  obtain ⟨k, hk⟩ := count_foldl_redactValue_commas hvalues (render (powers ',' row) pieces)
  have heq := congrArg (List.count '\\') (hhides _ _
    (hasPattern_powers ',' (single_eq_zero pattern)) (hasPattern_powers ',' hrow)
    (admissible_powers hcomma _) (admissible_powers hcomma _))
  rw [hshort] at heq
  rw [count_render_commas, hescapes] at hk
  have hlong : (redactCredentialText (render (powers ',' row) pieces) (powers ',' row)).count '\\' +
      k * (N + 1) = (pieces.map backslashes).sum + (N + 1) * N := hk
  have hdvd : N + 1 ∣ N := by
    refine (Nat.dvd_add_left (Nat.dvd_mul_left (N + 1) k)).mp ⟨N, ?_⟩
    omega
  have := Nat.le_of_dvd hN hdvd
  omega

/-- The redacted text says nothing about the credentials iff they are all the first one. -/
theorem hides_iff_hiding (pieces : List Piece) (pattern : Component → Bool) :
    Hides pieces pattern ↔ Hiding pieces pattern := by
  constructor
  · intro hhides
    by_cases hnone : ∀ c, ¬ Free pieces c
    · exact .inl hnone
    · obtain ⟨c, hc⟩ := not_forall_not.mp hnone
      refine .inr fun component escaped hmem htrue => ?_
      obtain ⟨first, hfirst⟩ : ∃ first, order.find? pattern = some first := by
        apply Option.isSome_iff_exists.mp
        exact List.find?_isSome.mpr ⟨component, mem_order component, htrue⟩
      obtain rfl := first_of_hides hc hhides hfirst hmem htrue
      refine ⟨hfirst, ?_⟩
      cases escaped with
      | false => exact .inl rfl
      | true =>
        have hcomma := not_free_comma_of_hides hhides hfirst hmem htrue
        refine .inr ⟨hcomma, fun hbackslash d hd => ?_⟩
        -- any other character is escaped at its own length
        by_contra hne
        have hdcomma : d ≠ ',' := by
          rintro rfl
          exact hcomma hd
        exact cost_eq_of_hides hd hbackslash hhides hfirst hmem htrue
          (by simp [escapedCost, hne, hdcomma])
  · exact hides_of_hiding

/-! ### Example -/

/-- The tool's text with the access key and the secret key. -/
def exampleText : List Piece :=
  [.literal "key=".toList, .secret .accessKey false, .literal " ".toList, .secret .secretKey false]

/-- Credentials as they are given to a MinIO server. -/
def minioKeys : Credentials := ⟨"minio".toList, "minio123".toList, []⟩

def unrelatedKeys : Credentials := ⟨"QWX".toList, "ZVB".toList, []⟩

/-- A secret key that starts with the access key is not redacted to its end. -/
theorem prefix_key_shows :
    HasPattern (fun component => component ≠ .sessionToken) minioKeys ∧
      HasPattern (fun component => component ≠ .sessionToken) unrelatedKeys ∧
      Admissible exampleText minioKeys ∧ Admissible exampleText unrelatedKeys ∧
      redactCredentialText (render minioKeys exampleText) minioKeys =
        "key=[redacted] [redacted]123".toList ∧
      redactCredentialText (render unrelatedKeys exampleText) unrelatedKeys =
        "key=[redacted] [redacted]".toList ∧
      redactCredentialText (render minioKeys exampleText) minioKeys ≠
        redactCredentialText (render unrelatedKeys exampleText) unrelatedKeys := by
  refine ⟨by decide, by decide, by decide, by decide, by decide, by decide, by decide⟩

end Redaction

end PvcMigrate
