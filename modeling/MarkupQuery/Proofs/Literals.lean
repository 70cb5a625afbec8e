import MarkupQuery.Text.Quoted

/-! String literals of a source text, as a compiler reads them. Outside of literals a text is code. In
a literal a backslash begins an escape: of a mark, of a byte or a code point by its number, or of a
line break with the blanks after it. A text in quoted form is one literal, and it is read as that
text. -/

namespace MarkupQuery

/-- Where a reader of source is: in code, in the text of a literal, behind a backslash in it, before
the first or the second digit of a byte, before the brace or at the digits of a code point, or at
blanks that do not count because their line break follows a backslash. -/
inductive SourceState where
  | code
  | text
  | escape
  | byte (first : Option Nat)
  | brace
  | codePoint (digits value : Nat)
  | joint
deriving DecidableEq

/-- A reader of source, with the code since the last line break or literal, less the blanks at its
front, the value so far of an open literal, and the literals found, each with the code before it on
its line. -/
structure SourceReader where
  state : SourceState := .code
  label : List Char := []
  value : List Char := []
  found : List (String × String) := []
deriving DecidableEq

namespace SourceReader

/-- What a character after a backslash stands for. -/
def escaped? : Char → Option Char
  | '"' => some '"'
  | '\'' => some '\''
  | '\\' => some '\\'
  | 'n' => some '\n'
  | 'r' => some '\r'
  | 't' => some '\t'
  | '0' => some '\x00'
  | _ => none

/-- Adds a character to the open literal. -/
def push (r : SourceReader) (c : Char) : SourceReader :=
  { r with state := .text, value := r.value ++ [c] }

def inText (r : SourceReader) (c : Char) : Option SourceReader :=
  if c = '"' then some { found := r.found ++ [(String.ofList r.label, String.ofList r.value)] }
  else if c = '\\' then some { r with state := .escape }
  else if c = '\r' then none
  else some (r.push c)

/-- The code on a line with one character more. -/
def nextLabel (label : List Char) (c : Char) : List Char :=
  if c = '\n' ∨ c = ' ' ∧ label = [] then [] else label ++ [c]

/-- Comments and quoted characters are not read; a mark that may begin one of them is refused. -/
def inCode (r : SourceReader) (c : Char) : Option SourceReader :=
  if c = '"' then some { r with state := .text }
  else if c = '\'' ∨ c = '/' then none
  else some { r with label := nextLabel r.label c }

def step (r : SourceReader) (c : Char) : Option SourceReader :=
  match r.state with
  | .code => r.inCode c
  | .text => r.inText c
  | .escape =>
    if c = 'x' then some { r with state := .byte none }
    else if c = 'u' then some { r with state := .brace }
    else if c = '\n' then some { r with state := .joint }
    else (escaped? c).map r.push
  | .byte none => ((hexDigit? c).filter (· < 8)).map fun d => { r with state := .byte (some d) }
  | .byte (some d) => (hexDigit? c).map fun e => r.push (Char.ofNat (16 * d + e))
  | .brace => if c = '{' then some { r with state := .codePoint 0 0 } else none
  | .codePoint digits n =>
    if c = '}' then
      if 1 ≤ digits ∧ digits ≤ 6 ∧ n.isValidChar then some (r.push (Char.ofNat n)) else none
    else if c = '_' ∧ 1 ≤ digits then some r
    else (hexDigit? c).map fun d => { r with state := .codePoint (digits + 1) (16 * n + d) }
  | .joint => if c ∈ [' ', '\t', '\n', '\r'] then some r else r.inText c

end SourceReader

/-- The string literals of a source text in order, each with the code before it on its line. -/
def stringLiterals? (text : String) : Option (List (String × String)) :=
  (text.toList.foldlM SourceReader.step {}).bind fun r =>
    if r.state = .code then some r.found else none

namespace SourceReader

/-! Reading a text in quoted form. -/

theorem step_codePoint_digitChar (r : SourceReader) (digits n : Nat) {d : Nat} (hd : d < 16) :
    step { r with state := .codePoint digits n } d.digitChar =
      some { r with state := .codePoint (digits + 1) (16 * n + d) } := by
  have hdigit : ∀ d < 16, hexDigit? (Nat.digitChar d) = some d ∧ Nat.digitChar d ≠ '}' ∧
      Nat.digitChar d ≠ '_' := by decide
  obtain ⟨hread, hbrace, hline⟩ := hdigit d hd
  simp [step, hread, hbrace, hline]

theorem read_hexDigits (r : SourceReader) (n : Nat) :
    (Quoted.hexDigits n).foldlM step { r with state := .codePoint 0 0 } =
      some { r with state := .codePoint (Quoted.hexDigits n).length n } := by
  induction n using Nat.strongRecOn with
  | _ n ih =>
    by_cases hn : n < 16
    · rw [Quoted.hexDigits, Nat.toDigits_of_lt_base hn, List.foldlM_cons,
        step_codePoint_digitChar r 0 0 hn]
      simp
    · have hsplit : Quoted.hexDigits n = Quoted.hexDigits (n / 16) ++ [(n % 16).digitChar] :=
        Nat.toDigits_of_base_le (by decide) (by omega)
      have hvalue : 16 * (n / 16) + n % 16 = n := by omega
      rw [hsplit, List.foldlM_append, ih (n / 16) (by omega)]
      simp [step_codePoint_digitChar r _ (n / 16) (Nat.mod_lt n (by decide)), hvalue]

/-- Any code point has from one to six digits. -/
theorem length_hexDigits (c : Char) :
    1 ≤ (Quoted.hexDigits c.toNat).length ∧ (Quoted.hexDigits c.toNat).length ≤ 6 := by
  have hlt : c.toNat < 16 ^ 6 := by
    have hvalid := c.valid
    simp only [UInt32.isValidChar, Nat.isValidChar] at hvalid
    have hval : c.toNat = c.val.toNat := rfl
    omega
  refine ⟨?_, (Nat.length_toDigits_le_iff (by decide) (by decide)).mpr hlt⟩
  exact Nat.length_toDigits_pos

theorem read_escape (r : SourceReader) (hr : r.state = .text) (c : Char) :
    (Quoted.escape c).foldlM step r = some (r.push c) := by
  obtain ⟨state, label, value, found⟩ := r
  obtain rfl : state = .text := hr
  rcases Quoted.escape_cases c with ⟨hescape, hc⟩ | ⟨d, hescape, hd⟩ | hescape
  · simp only [List.mem_cons, List.not_mem_nil, or_false, not_or] at hc
    rw [hescape]
    simp [step, inText, hc]
  · simp only [List.mem_cons, List.not_mem_nil, or_false, Prod.mk.injEq] at hd
    rw [hescape]
    rcases hd with ⟨rfl, rfl⟩ | ⟨rfl, rfl⟩ | ⟨rfl, rfl⟩ | ⟨rfl, rfl⟩ | ⟨rfl, rfl⟩ | ⟨rfl, rfl⟩ <;> rfl
  · have hopen : ['\\', 'u', '{'].foldlM step ⟨.text, label, value, found⟩ =
        some ⟨.codePoint 0 0, label, value, found⟩ := rfl
    have hdigits := read_hexDigits ⟨.text, label, value, found⟩ c.toNat
    have hvalid : c.toNat.isValidChar := c.valid
    rw [hescape, List.foldlM_append, List.foldlM_append, hopen]
    simp only [Option.bind_eq_bind, Option.bind_some] at hdigits ⊢
    rw [hdigits]
    simp [step, push, length_hexDigits c, hvalid]

theorem read_escapes (r : SourceReader) (hr : r.state = .text) (text : List Char) :
    (text.flatMap Quoted.escape).foldlM step r = some { r with value := r.value ++ text } := by
  induction text generalizing r with
  | nil => simp
  | cons c cs ih =>
    rw [List.flatMap_cons, List.foldlM_append, read_escape r hr, Option.bind_eq_bind,
      Option.bind_some, ih (r.push c) rfl]
    simp [push, hr]

/-- A reader passes a text from code to code. It starts and ends with some code on its line, and
finds literals. -/
def Passes (label text : List Char) (literals : List (String × String)) (after : List Char) : Prop :=
  ∀ found, text.foldlM step { label, found } = some { label := after, found := found ++ literals }

/-- Nothing in the text begins a literal, a comment or a quoted character. -/
def IsPlain (text : List Char) : Prop := ∀ c ∈ text, c ∉ ['"', '\'', '/']

-- not the instance that goes through all characters
instance (text : List Char) : Decidable (IsPlain text) := List.decidableBAll _ text

theorem IsPlain.append {a b : List Char} (ha : IsPlain a) (hb : IsPlain b) : IsPlain (a ++ b) :=
  List.forall_mem_append.mpr ⟨ha, hb⟩

section
variable {before after label text text' : List Char} {literals literals' : List (String × String)}

theorem Passes.nil : Passes before [] [] before := by
  intro found
  simp

theorem Passes.append (h : Passes before text literals label)
    (h' : Passes label text' literals' after) :
    Passes before (text ++ text') (literals ++ literals') after := by
  intro found
  rw [List.foldlM_append, h found, Option.bind_eq_bind, Option.bind_some, h', List.append_assoc]

theorem passes_char {c : Char} (hc : c ∉ ['"', '\'', '/']) (before : List Char) :
    Passes before [c] [] (nextLabel before c) := by
  intro found
  simp only [List.mem_cons, List.not_mem_nil, or_false, not_or] at hc
  simp [step, inCode, hc]

theorem exists_passes (h : IsPlain text) (before : List Char) :
    ∃ after, Passes before text [] after := by
  induction text generalizing before with
  | nil => exact ⟨before, .nil⟩
  | cons c cs ih =>
    obtain ⟨hc, hcs⟩ := List.forall_mem_cons.mp h
    obtain ⟨after, hafter⟩ := ih hcs (nextLabel before c)
    exact ⟨after, (passes_char hc before).append hafter⟩

/-- What counts as the code before a literal begins anew at a line break. -/
theorem passes_line (h : IsPlain text) (before : List Char) (level : Nat) :
    Passes before (text ++ '\n' :: List.replicate level ' ') [] [] := by
  obtain ⟨last, hlast⟩ := exists_passes h before
  have hblanks : Passes [] (List.replicate level ' ') [] [] := by
    induction level with
    | zero => exact .nil
    | succ level ih => exact (passes_char (c := ' ') (by decide) []).append ih
  have hbreak : Passes last ('\n' :: List.replicate level ' ') [] [] :=
    (passes_char (c := '\n') (by decide) last).append hblanks
  exact hlast.append hbreak

/-- A piece of code in front of a literal, on one line. -/
structure IsLabel (label : List Char) : Prop where
  isPlain : IsPlain label
  unbroken : '\n' ∉ label
  first : label.head? ≠ some ' '

theorem passes_unbroken (h : IsPlain text) (hbreak : '\n' ∉ text) (hne : before ≠ []) :
    Passes before text [] (before ++ text) := by
  induction text generalizing before with
  | nil => simpa using Passes.nil
  | cons c cs ih =>
    obtain ⟨hc, hcs⟩ := List.forall_mem_cons.mp h
    rw [List.mem_cons, not_or] at hbreak
    have hnext : nextLabel before c = before ++ [c] := by
      simp [nextLabel, hne, Ne.symm hbreak.1]
    have hfirst := passes_char hc before
    rw [hnext] at hfirst
    simpa using hfirst.append (ih hcs hbreak.2 (by simp))

theorem passes_label (h : IsLabel label) : Passes [] label [] label := by
  cases label with
  | nil => exact .nil
  | cons c cs =>
    obtain ⟨hc, hcs⟩ := List.forall_mem_cons.mp h.isPlain
    have hbreak := h.unbroken
    have hblank : c ≠ ' ' := by simpa using h.first
    rw [List.mem_cons, not_or] at hbreak
    have hnext : nextLabel [] c = [c] := by simp [nextLabel, hblank, Ne.symm hbreak.1]
    have hfirst := passes_char hc []
    rw [hnext] at hfirst
    exact hfirst.append (passes_unbroken hcs hbreak.2 (by simp))

end

/-- A text in quoted form is read as that text. -/
theorem passes_quoted (label text : String) :
    Passes label.toList (quoted text).toList [(label, text)] [] := by
  intro found
  have hopen : step { label := label.toList, found } '"' =
      some { state := .text, label := label.toList, found } := rfl
  have htext := read_escapes { state := .text, label := label.toList, found } rfl text.toList
  rw [quoted, String.toList_ofList, List.cons_append, List.foldlM_cons, hopen, Option.bind_eq_bind,
    Option.bind_some, List.foldlM_append, htext]
  simp [step, inText]

theorem stringLiterals?_of_passes {text : String} {literals : List (String × String)}
    {after : List Char} (h : Passes [] text.toList literals after) :
    stringLiterals? text = some literals := by
  rw [stringLiterals?, h []]
  rfl

end SourceReader

end MarkupQuery
