import MarkupQuery.Text.Span

/-! White space, as the Unicode property `White_Space` has it, and what is cut at it:
the words of a text and its trimmed form. -/

namespace MarkupQuery

def isBlank (c : Char) : Bool :=
  let n := c.toNat
  (9 ≤ n && n ≤ 13) || n == 0x20 || n == 0x85 || n == 0xA0 || n == 0x1680 ||
    (0x2000 ≤ n && n ≤ 0x200A) || n == 0x2028 || n == 0x2029 || n == 0x202F || n == 0x205F ||
    n == 0x3000

def isLineBreak (c : Char) : Bool := c == '\n' || c == '\r'

theorem isBlank_of_isLineBreak {c : Char} (h : isLineBreak c) : isBlank c := by
  simp only [isLineBreak, Bool.or_eq_true, beq_iff_eq] at h
  rcases h with h | h <;> subst h <;> rfl

/-- The maximal blank-free runs of a text, each with its place; the text begins at byte `k`. -/
def wordsFrom (k : Nat) : List Char → List Slice
  | [] => []
  | c :: cs =>
    let rest := wordsFrom (k + c.utf8Size) cs
    if isBlank c then rest
    else match rest with
      | [] => [⟨k, [c]⟩]
      | w :: ws => if w.start = k + c.utf8Size then ⟨k, c :: w.text⟩ :: ws else ⟨k, [c]⟩ :: w :: ws

/-- The maximal blank-free runs of a text. -/
def words (text : List Char) : List (List Char) := (wordsFrom 0 text).map Slice.text

/-- The text without the blanks at its ends. -/
def trim (text : List Char) : List Char :=
  ((text.dropWhile isBlank).reverse.dropWhile isBlank).reverse

end MarkupQuery
