import Mathlib.Data.List.Basic
import Mathlib.Data.Int.Basic
import PvcMigrate.Lib.Text

/-!
# Texts that can be read back

A code is self-delimiting if what it writes can be told from whatever is written after it.  The
strings of Go's `encoding/json` are: each character is written as itself or as an escape, and a
quotation mark ends the string.
-/

/-- What the code writes is read off the front of a text in one way. -/
def SelfDelimiting {α β : Type} (code : α → List β) : Prop :=
  ∀ ⦃a b x y⦄, code a ++ x = code b ++ y → a = b ∧ x = y

namespace SelfDelimiting

variable {α β : Type} {code : α → List β}

theorem flatMap_injective (hcode : SelfDelimiting code) (hne : ∀ a, code a ≠ []) :
    Function.Injective fun as : List α => as.flatMap code := by
  intro as
  induction as with
  | nil =>
    intro bs h
    cases bs with
    | nil => rfl
    | cons b bs => simp [hne b] at h
  | cons a as ih =>
    intro bs h
    cases bs with
    | nil => simp [hne a] at h
    | cons b bs =>
      simp only [List.flatMap_cons] at h
      obtain ⟨rfl, hrest⟩ := hcode h
      rw [ih hrest]

/-- A list that ends with a letter that no element starts with. -/
theorem terminated (hcode : SelfDelimiting code) {stop : β}
    (hstop : ∀ a, ∃ c rest, code a = c :: rest ∧ c ≠ stop) :
    SelfDelimiting fun as : List α => as.flatMap code ++ [stop] := by
  intro as
  induction as with
  | nil =>
    intro bs x y h
    cases bs with
    | nil => simpa using h
    | cons b bs =>
      obtain ⟨c, rest, hb, hc⟩ := hstop b
      simp [hb, hc.symm] at h
  | cons a as ih =>
    intro bs x y h
    cases bs with
    | nil =>
      obtain ⟨c, rest, ha, hc⟩ := hstop a
      simp [ha, hc] at h
    | cons b bs =>
      simp only [List.flatMap_cons, List.append_assoc] at h
      obtain ⟨rfl, hrest⟩ := hcode h
      obtain ⟨rfl, hxy⟩ := ih (by simpa using hrest)
      exact ⟨rfl, hxy⟩

end SelfDelimiting

namespace Json

/-! ## Strings -/

/-- The characters that `encoding/json` escapes: the control characters, the quotation mark, the
backslash, the characters that HTML gives a meaning, and two line separators. -/
def escaped : Text :=
  (List.range 32).map Char.ofNat ++ ['"', '\\', '<', '>', '&', '\u2028', '\u2029']

/-- The characters with a short escape. -/
def shortEscapes : List (Char × Char) :=
  [('"', '"'), ('\\', '\\'), ('\x08', 'b'), ('\x0c', 'f'), ('\n', 'n'), ('\r', 'r'), ('\t', 't')]

variable (c : Char)

/-- The escape of a character, if need be as four hexadecimal digits. -/
def escape : Text :=
  match shortEscapes.lookup c with
  | some short => ['\\', short]
  | none => '\\' :: 'u' :: [4096, 256, 16, 1].map fun place => Nat.digitChar (c.toNat / place % 16)

def char : Text := if escaped.contains c then escape c else [c]

def string (t : Text) : Text := '"' :: (t.flatMap char ++ ['"'])

theorem escape_eq_cons : ∃ rest, escape c = '\\' :: rest := by
  unfold escape
  split <;> exact ⟨_, rfl⟩

theorem escape_injective_of_isPrefix {a b : Char} (ha : a ∈ escaped) (hb : b ∈ escaped)
    (h : escape a <+: escape b) : a = b := by
  have htable : (escaped.all fun a => escaped.all fun b =>
      !(escape a).isPrefixOf (escape b) || a == b) = true := by
    decide +kernel
  have hpair := List.all_eq_true.mp (List.all_eq_true.mp htable a ha) b hb
  simpa [List.isPrefixOf_iff_prefix.mpr h] using hpair

/-- A character is written as an escape or as itself; the backslash and the quotation mark are
not written as themselves. -/
theorem char_cases :
    (c ∈ escaped ∧ char c = escape c) ∨ (c ≠ '\\' ∧ c ≠ '"' ∧ char c = [c]) := by
  by_cases hc : c ∈ escaped
  · exact .inl ⟨hc, by simp [char, hc]⟩
  · refine .inr ⟨?_, ?_, by simp [char, hc]⟩
    · intro h
      exact hc (h ▸ by decide)
    · intro h
      exact hc (h ▸ by decide)

theorem selfDelimiting_char : SelfDelimiting char := by
  intro a b x y h
  -- it is enough to find the character
  suffices hab : a = b by
    subst hab
    exact ⟨rfl, List.append_cancel_left h⟩
  obtain ⟨ra, hra⟩ := escape_eq_cons a
  obtain ⟨rb, hrb⟩ := escape_eq_cons b
  rcases char_cases a with ⟨ha, hca⟩ | ⟨ha, -, hca⟩ <;>
    rcases char_cases b with ⟨hb, hcb⟩ | ⟨hb, -, hcb⟩ <;> rw [hca, hcb] at h
  · rcases List.prefix_or_prefix_of_prefix ⟨x, h⟩ ⟨y, rfl⟩ with hpre | hpre
    · exact escape_injective_of_isPrefix ha hb hpre
    · exact (escape_injective_of_isPrefix hb ha hpre).symm
  · simp [hra, hb.symm] at h
  · simp [hrb, ha] at h
  · simp at h
    exact h.1

theorem selfDelimiting_string : SelfDelimiting string := by
  have hbody : SelfDelimiting fun t : Text => t.flatMap char ++ ['"'] := by
    refine selfDelimiting_char.terminated fun c => ?_
    rcases char_cases c with ⟨-, hc⟩ | ⟨-, hquote, hc⟩
    · obtain ⟨rest, hrest⟩ := escape_eq_cons c
      exact ⟨'\\', rest, hc.trans hrest, by decide⟩
    · exact ⟨c, [], hc, hquote⟩
  intro a b x y h
  exact hbody (List.cons.inj h).2

/-! ## Numbers -/

/-- An integer as `strconv.AppendInt` writes it. -/
def decimal (n : Int) : Text := (if n < 0 then ['-'] else []) ++ Nat.toDigits 10 n.natAbs

theorem notMem_toDigits {c : Char} (hc : c.isDigit = false) (n : ℕ) : c ∉ Nat.toDigits 10 n := by
  intro h
  have := Nat.isDigit_of_mem_toDigits (by decide) (by decide) h
  simp [hc] at this

theorem toDigits_injective {m n : ℕ} (h : Nat.toDigits 10 m = Nat.toDigits 10 n) : m = n := by
  rw [← Nat.ofDigitChars_ten_toDigits (n := m), h, Nat.ofDigitChars_ten_toDigits]

theorem decimal_injective : Function.Injective decimal := by
  intro m n h
  have hminus (k : ℕ) := notMem_toDigits (c := '-') rfl k
  by_cases hm : m < 0 <;> by_cases hn : n < 0 <;> simp [decimal, hm, hn] at h
  · have := toDigits_injective h
    omega
  · exact absurd (h ▸ List.mem_cons_self) (hminus n.natAbs)
  · exact absurd (h ▸ List.mem_cons_self) (hminus m.natAbs)
  · have := toDigits_injective h
    omega

/-- A number with a comma behind it. -/
theorem decimal_append_inj {m n : Int} {x y : Text}
    (h : decimal m ++ ',' :: x = decimal n ++ ',' :: y) : m = n ∧ x = y := by
  have hcomma (k : Int) : ',' ∉ decimal k := by
    have := notMem_toDigits (c := ',') rfl k.natAbs
    by_cases hk : k < 0 <;> simp [decimal, hk, this]
  -- neither number reaches into what stands behind the comma of the other
  rcases List.append_eq_append_iff.mp h with ⟨_ | ⟨c, rest⟩, hn, hrest⟩ | ⟨_ | ⟨c, rest⟩, hm, hrest⟩
  · simp only [List.append_nil, List.nil_append, List.cons.injEq, true_and] at hn hrest
    exact ⟨decimal_injective hn.symm, hrest⟩
  · cases hrest
    exact absurd (hn ▸ by simp) (hcomma n)
  · simp only [List.append_nil, List.nil_append, List.cons.injEq, true_and] at hm hrest
    exact ⟨decimal_injective hm, hrest.symm⟩
  · cases hrest
    exact absurd (hm ▸ by simp) (hcomma m)

end Json
