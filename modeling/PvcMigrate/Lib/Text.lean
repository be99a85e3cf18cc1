import Mathlib.Algebra.Order.BigOperators.Group.List
import Mathlib.Algebra.Order.Ring.Nat
import Mathlib.Data.List.DropRight

/-!
# Texts

Texts as lists of characters, with the operations of Go's `strings` and `unicode` packages that
do not look at the bytes.
-/

/-- A text, one character after the other. -/
abbrev Text := List Char

namespace Text

variable (s : Text)

instance decidableMem (texts : List Text) : Decidable (s ∈ texts) := inferInstance

variable (c : Char)

/-- `unicode.IsSpace`. -/
def isSpace : Bool :=
  c.val ∈ [0x09, 0x0a, 0x0b, 0x0c, 0x0d, 0x20, 0x85, 0xa0, 0x1680, 0x2028, 0x2029, 0x202f,
    0x205f, 0x3000] || (0x2000 ≤ c.val && c.val ≤ 0x200a)

/-- `strings.TrimSpace`. -/
def trimSpace : Text :=
  ((s.dropWhile isSpace).reverse.dropWhile isSpace).reverse

theorem trimSpace_sublist : (trimSpace s).Sublist s :=
  (List.rdropWhile_prefix isSpace _).sublist.trans (List.dropWhile_sublist isSpace)

/-- A text is trimmed iff it neither starts nor ends with a space. -/
theorem trimSpace_eq_self_iff {s : Text} :
    trimSpace s = s ↔
      (∀ c, s.head? = some c → isSpace c = false) ∧ ∀ c, s.getLast? = some c →
        isSpace c = false := by
  have hfront : s.dropWhile isSpace = s ↔ ∀ c, s.head? = some c → isSpace c = false := by
    rw [List.dropWhile_eq_self_iff]
    cases s <;> simp
  have hback : s.rdropWhile isSpace = s ↔ ∀ c, s.getLast? = some c → isSpace c = false := by
    rw [List.rdropWhile_eq_self_iff]
    by_cases hnil : s = []
    · simp [hnil]
    · simp [hnil, List.getLast?_eq_some_getLast]
  rw [← hfront, ← hback]
  constructor
  · intro h
    have hdrop : s.dropWhile isSpace = s := by
      apply (List.dropWhile_sublist isSpace).eq_of_length_le
      calc s.length = (trimSpace s).length := by rw [h]
        _ ≤ (s.dropWhile isSpace).length := (List.rdropWhile_prefix isSpace _).length_le
    refine ⟨hdrop, ?_⟩
    have hsame : (s.dropWhile isSpace).rdropWhile isSpace = s := h
    rwa [hdrop] at hsame
  · rintro ⟨hdrop, hrdrop⟩
    show (s.dropWhile isSpace).rdropWhile isSpace = s
    rw [hdrop, hrdrop]

/-- `len`: the number of bytes of the UTF-8 encoding. -/
def byteLength : Nat := (s.map Char.utf8Size).sum

theorem byteLength_le_of_sublist {s t : Text} (h : s.Sublist t) : byteLength s ≤ byteLength t :=
  (h.map Char.utf8Size).sum_le_sum fun _ _ => Nat.zero_le _

/-- The ASCII letter that a character folds to: `ſ` and the Kelvin sign are the two from outside. -/
def fold : Char :=
  if c.val = 0x17f then 's' else if c.val = 0x212a then 'k' else c.toLower

/-- `strings.EqualFold` of a text and an ASCII word. -/
def equalFold (s word : Text) : Bool := s.map fold = word.map fold

/-- `strconv.IsPrint` up to U+00FF.  Of the characters above, only white space is left out. -/
def isPrint : Bool :=
  if c.val ≤ 0xff then (0x20 ≤ c.val && c.val < 0x7f) || (0xa1 ≤ c.val && c.val ≠ 0xad)
  else !isSpace c

def hexDigits (n : Nat) (c : Char) : Text :=
  (List.range n).reverse.map fun i => Nat.digitChar (c.toNat / 16 ^ i % 16)

/-- The characters with a short escape in a Go string. -/
def goEscapes : List (Char × Char) :=
  [('"', '"'), ('\\', '\\'), ('\x07', 'a'), ('\x08', 'b'), ('\x0c', 'f'), ('\n', 'n'), ('\r', 'r'),
    ('\t', 't'), ('\x0b', 'v')]

def quoteChar : Text :=
  match goEscapes.lookup c with
  | some short => ['\\', short]
  | none =>
    if isPrint c then [c]
    else if c.val < 0x80 then '\\' :: 'x' :: hexDigits 2 c
    else if c.val < 0x10000 then '\\' :: 'u' :: hexDigits 4 c
    else '\\' :: 'U' :: hexDigits 8 c

/-- The verb `%q` of Go's `fmt`. -/
def quote : String := .ofList ('"' :: (s.flatMap quoteChar ++ ['"']))

example : quote ['a', '\n', '\u00a0', '"'] = "\"a\\n\\u00a0\\\"\"" := by decide

end Text
