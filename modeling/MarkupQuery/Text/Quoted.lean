import MarkupQuery.Text.Property

/-! The quoted form of a text: between quotation marks, with quotes, backslashes and characters
that cannot be printed written as escapes. Marks that would join the character before them are
escaped as well. -/

namespace MarkupQuery

namespace Quoted

def hexDigits (n : Nat) : List Char := Nat.toDigits 16 n

private def codeEscape (c : Char) : List Char := ['\\', 'u', '{'] ++ hexDigits c.toNat ++ ['}']

/-- Joins the character before it. -/
def joins (c : Char) : Bool := c.toNat ≥ 0x7F && Property.graphemeExtend c

/-- One character of the text, as written between the quotes. -/
def escape (c : Char) : List Char :=
  if c = '"' ∨ c = '\\' then ['\\', c]
  else if c = '\t' then ['\\', 't']
  else if c = '\r' then ['\\', 'r']
  else if c = '\n' then ['\\', 'n']
  else if c.toNat = 0 then ['\\', '0']
  else if isPrintable c && !joins c then [c]
  else codeEscape c

/-- A character stands for itself, or is named after a backslash by another character or by its
number. -/
theorem escape_cases (c : Char) :
    (escape c = [c] ∧ c ∉ ['"', '\\', '\r', '\n']) ∨
      (∃ d, escape c = ['\\', d] ∧
        (d, c) ∈ [('"', '"'), ('\\', '\\'), ('t', '\t'), ('r', '\r'), ('n', '\n'), ('0', '\x00')]) ∨
      escape c = ['\\', 'u', '{'] ++ hexDigits c.toNat ++ ['}'] := by
  unfold escape
  by_cases hmark : c = '"' ∨ c = '\\'
  · refine .inr (.inl ⟨c, if_pos hmark, ?_⟩)
    rcases hmark with rfl | rfl <;> simp
  by_cases htab : c = '\t'
  · exact .inr (.inl ⟨'t', by simp [htab], by simp [htab]⟩)
  by_cases hreturn : c = '\r'
  · exact .inr (.inl ⟨'r', by simp [hreturn], by simp [hreturn]⟩)
  by_cases hfeed : c = '\n'
  · exact .inr (.inl ⟨'n', by simp [hfeed], by simp [hfeed]⟩)
  by_cases hzero : c.toNat = 0
  · have hc : c = '\x00' := by rw [← Char.ofNat_toNat c, hzero]
    exact .inr (.inl ⟨'0', by simp [hc], by simp [hc]⟩)
  by_cases hplain : isPrintable c && !joins c
  · refine .inl ⟨?_, ?_⟩
    · simp only [hmark, htab, hreturn, hfeed, hzero, hplain, if_false, if_true]
    · simpa [not_or, hreturn, hfeed] using hmark
  · refine .inr (.inr ?_)
    simp only [hmark, htab, hreturn, hfeed, hzero, hplain, if_false]
    rfl

end Quoted

/-- The text between quotation marks, with escapes. -/
def quoted (text : String) : String := String.ofList ('"' :: text.toList.flatMap Quoted.escape ++ ['"'])

end MarkupQuery
