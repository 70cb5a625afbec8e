import MarkupQuery.Cases.Suite
import MarkupQuery.Proofs.Indentation
import MarkupQuery.Proofs.Literals

/-! The text of a suite. A file becomes a module and a case a function in it; their lines are laid out
here as they come to stand in the text. The strings of the file stand in it as literals, each whole on
a line of its own, and no other literal does. -/

namespace MarkupQuery

open SourceReader Writer Writing

/-- A line break with the blanks of a level after it. -/
def lineBreak (level : Nat) : String := String.ofList ('\n' :: indent level)

namespace TestCase

/-- The strings of a case, each with what stands in front of it on its line. -/
def strings (c : TestCase) : List (String × String) :=
  [("selector: ", c.selector),
   ("expect_output: ", String.ofList (trim c.output.toList)),
   ("expect_error: ", c.error),
   ("filter_semantics: ", c.filterSemantics),
   ("not_comparison: ", c.notComparison)]

/-- The function that a case becomes, and the blank line after it. -/
def functionText (c : TestCase) : String :=
  String.join [if c.isIgnored then "#[ignore]" ++ lineBreak 1 else "",
    "#[test]", lineBreak 1,
    "fn ", identifier c.name, "() \x7b", lineBreak 2,
    "Case \x7b", lineBreak 3,
    String.join (c.strings.map fun s => s.1 ++ quoted s.2 ++ "," ++ lineBreak 3),
    "tree: TREE,", lineBreak 2,
    "\x7d.check();", lineBreak 1,
    "\x7d", lineBreak 1,
    lineBreak 1]

end TestCase

namespace CaseFile

def trimmedTree (f : CaseFile) : String := String.ofList (trim f.tree.toList)

/-- The module that a file becomes, with functions in it. -/
def moduleText (name : String) (f : CaseFile) (functions : List String) : String :=
  String.join ["mod ", identifier (Suite.stem name), " \x7b", lineBreak 1,
    "use super::*;", lineBreak 1,
    lineBreak 1,
    "const TREE: &str = ", quoted f.trimmedTree, ";", lineBreak 1,
    lineBreak 1,
    String.join functions, lineBreak 0,
    "\x7d", lineBreak 0]

end CaseFile

/-! Quoted texts and identifiers fit on a line. -/

theorem mem_hexDigits {n : Nat} {c : Char} (h : c ∈ Quoted.hexDigits n) :
    ∃ d < 16, c = Nat.digitChar d := by
  induction n using Nat.strongRecOn with
  | _ n ih =>
    by_cases hn : n < 16
    · rw [Quoted.hexDigits, Nat.toDigits_of_lt_base hn] at h
      exact ⟨n, hn, List.mem_singleton.mp h⟩
    · rw [Quoted.hexDigits, Nat.toDigits_of_base_le (by decide) (by omega)] at h
      rcases List.mem_append.mp h with h | h
      · exact ih (n / 16) (by omega) h
      · exact ⟨n % 16, Nat.mod_lt n (by decide), List.mem_singleton.mp h⟩

theorem break_not_mem_escape (c : Char) : '\n' ∉ Quoted.escape c := by
  have hdigit : ∀ d < 16, Nat.digitChar d ≠ '\n' := by decide
  intro hmem
  rcases Quoted.escape_cases c with ⟨hescape, hc⟩ | ⟨d, hescape, hd⟩ | hescape
  · rw [hescape, List.mem_singleton] at hmem
    subst hmem
    simp at hc
  · simp only [List.mem_cons, List.not_mem_nil, or_false, Prod.mk.injEq] at hd
    rw [hescape] at hmem
    rcases hd with ⟨rfl, rfl⟩ | ⟨rfl, rfl⟩ | ⟨rfl, rfl⟩ | ⟨rfl, rfl⟩ | ⟨rfl, rfl⟩ | ⟨rfl, rfl⟩ <;>
      simp at hmem
  · rw [hescape] at hmem
    simp only [List.mem_append, List.mem_cons, List.not_mem_nil, or_false] at hmem
    rcases hmem with ((hmem | hmem | hmem) | hmem) | hmem
    · cases hmem
    · cases hmem
    · cases hmem
    · obtain ⟨d, hd, heq⟩ := mem_hexDigits hmem
      exact hdigit d hd heq.symm
    · cases hmem

@[simp] theorem break_not_mem_quoted (text : String) : '\n' ∉ (quoted text).toList := by
  rw [quoted, String.toList_ofList]
  simp [break_not_mem_escape]

@[simp] theorem break_not_mem_identifier (name : String) : '\n' ∉ (identifier name).toList := fun h =>
  absurd (zero_le_of_mem_identifier h) (by decide)

theorem isPlain_identifier (name : String) : IsPlain (identifier name).toList := by
  intro c hc hmark
  have hle := zero_le_of_mem_identifier hc
  simp only [List.mem_cons, List.not_mem_nil, or_false] at hmark
  rcases hmark with rfl | rfl | rfl <;> exact absurd hle (by decide)

/-! The layout of functions and modules. -/

theorem shown_nil : shown [] = [] := rfl

theorem shown_break (level : Nat) (ps : List (Nat × String)) :
    shown ((level, "\n") :: ps) = (lineBreak level).toList ++ shown ps := by
  have hbreak : indentText level "\n".toList = (lineBreak level).toList := by
    simp [indentText, lineBreak]
  rw [shown, List.flatMap_cons, hbreak, ← shown]

theorem shown_unbroken {text : String} (h : '\n' ∉ text.toList) (level : Nat)
    (ps : List (Nat × String)) : shown ((level, text) :: ps) = text.toList ++ shown ps := by
  rw [shown, List.flatMap_cons, indentText_of_unbroken h, ← shown]

/-- No text in a function but the line breaks between them has a break in it, so the writer only adds
blanks where a line ends. -/
theorem shown_case (c : TestCase) : shown (partsAll 1 c.writing) = c.functionText.toList := by
  -- the attribute is written by two calls
  have hignore (rest : List Char) :
      "#[ign".toList ++ ("ore]".toList ++ rest) = "#[ignore]".toList ++ rest := rfl
  cases hc : c.isIgnored <;>
    simp (disch := simp) only [TestCase.writing, TestCase.writing.trimmed, hc, Bool.false_eq_true,
      if_false, if_true, partsAll, parts, List.nil_append, List.cons_append, List.append_nil,
      List.map_cons, List.map_nil, String.reduceAppend, shown_break, shown_unbroken, shown_nil,
      TestCase.functionText, TestCase.strings, String.toList_append, String.toList_join,
      List.flatMap_cons, List.flatMap_nil, List.append_assoc, Nat.reduceAdd,
      String.toList_empty, hignore]

theorem shown_cases (cs : List TestCase) :
    shown (partsAll 1 (cs.flatMap TestCase.writing)) =
      (String.join (cs.map TestCase.functionText)).toList := by
  induction cs with
  | nil => rfl
  | cons c cs ih =>
    rw [List.flatMap_cons, partsAll_append, shown_append, shown_case, ih, List.map_cons,
      String.join_cons, String.toList_append]

/-- The functions of a module are those of its cases, by name. -/
theorem result_writing (name : String) (f : CaseFile) :
    result (f.writing (identifier (Suite.stem name))) =
      f.moduleText name (f.byName.map TestCase.functionText) := by
  apply String.toList_injective
  simp (disch := simp) only [toList_result, CaseFile.writing, partsAll, parts, shown_append,
    shown_cases, List.nil_append, List.cons_append, List.append_nil, List.map_cons, List.map_nil,
    shown_break, shown_unbroken, shown_nil, CaseFile.moduleText, CaseFile.trimmedTree,
    String.toList_append, String.toList_join, List.flatMap_cons, List.flatMap_nil, List.append_assoc,
    Nat.reduceAdd]

/-! The literals that are read in functions and modules. -/

theorem isPlain_lineBreak (level : Nat) : IsPlain (lineBreak level).toList := by
  intro c hc
  rw [lineBreak, String.toList_ofList] at hc
  rcases List.mem_cons.mp hc with rfl | hc
  · decide
  · rw [List.eq_of_mem_replicate hc]
    decide

/-- Pieces of code up to the end of a line. -/
theorem passes_code (pieces : List String) (h : ∀ p ∈ pieces, IsPlain p.toList) (before : List Char)
    (level : Nat) : Passes before (String.join pieces ++ lineBreak level).toList [] [] := by
  have hplain : IsPlain (String.join pieces).toList := by
    intro c hc
    rw [String.toList_join, List.mem_flatMap] at hc
    obtain ⟨p, hp, hc⟩ := hc
    exact h p hp c hc
  rw [String.toList_append, lineBreak, String.toList_ofList]
  exact passes_line hplain before _

theorem passes_binding (label : String) (h : IsLabel label.toList) (text : String) :
    Passes [] (label ++ quoted text).toList [(label, text)] [] := by
  rw [String.toList_append]
  exact (passes_label h).append (passes_quoted label text)

theorem passes_join {α : Type} (write : α → String) (literals : α → List (String × String))
    {xs : List α} (h : ∀ x ∈ xs, Passes [] (write x).toList (literals x) []) :
    Passes [] (String.join (xs.map write)).toList (xs.flatMap literals) [] := by
  induction xs with
  | nil => exact .nil
  | cons x xs ih =>
    obtain ⟨hx, hxs⟩ := List.forall_mem_cons.mp h
    rw [List.map_cons, String.join_cons, String.toList_append, List.flatMap_cons]
    exact hx.append (ih hxs)

theorem isLabel_of_mem_strings {c : TestCase} {s : String × String} (h : s ∈ c.strings) :
    IsLabel s.1.toList := by
  have hlabels : ∀ label ∈ ["selector: ", "expect_output: ", "expect_error: ", "filter_semantics: ",
      "not_comparison: "],
      IsPlain label.toList ∧ '\n' ∉ label.toList ∧ label.toList.head? ≠ some ' ' := by decide
  obtain ⟨hplain, hbreak, hfirst⟩ := hlabels s.1 (List.mem_map_of_mem h)
  exact ⟨hplain, hbreak, hfirst⟩

theorem passes_fields (c : TestCase) :
    Passes [] (String.join (c.strings.map fun s => s.1 ++ quoted s.2 ++ "," ++ lineBreak 3)).toList
      c.strings [] := by
  have hend : Passes [] ("," ++ lineBreak 3).toList [] [] := passes_code [","] (by decide) [] 3
  have hfields := passes_join (fun s => s.1 ++ quoted s.2 ++ "," ++ lineBreak 3) (fun s => [s])
    fun s (hs : s ∈ c.strings) => by
      rw [String.append_assoc, String.toList_append]
      exact (passes_binding s.1 (isLabel_of_mem_strings hs) s.2).append hend
  rwa [List.flatMap_singleton'] at hfields

theorem passes_case (c : TestCase) : Passes [] c.functionText.toList c.strings [] := by
  -- code, the fields with their literals, and code again
  have hignored : IsPlain (if c.isIgnored then "#[ignore]" ++ lineBreak 1 else "").toList := by
    split
    · rw [String.toList_append]
      exact IsPlain.append (by decide) (isPlain_lineBreak 1)
    · decide
  have hopening := passes_code
    [if c.isIgnored then "#[ignore]" ++ lineBreak 1 else "", "#[test]", lineBreak 1, "fn ",
      identifier c.name, "() \x7b", lineBreak 2, "Case \x7b"]
    (by
      simp only [List.forall_mem_cons]
      exact ⟨hignored, by decide, isPlain_lineBreak 1, by decide, isPlain_identifier c.name,
        by decide, isPlain_lineBreak 2, by decide, by simp⟩) [] 3
  have hclosing := passes_code
    ["tree: TREE,", lineBreak 2, "\x7d.check();", lineBreak 1, "\x7d", lineBreak 1]
    (by
      simp only [List.forall_mem_cons]
      exact ⟨by decide, isPlain_lineBreak 2, by decide, isPlain_lineBreak 1, by decide,
        isPlain_lineBreak 1, by simp⟩) [] 1
  have hfunction := hopening.append ((passes_fields c).append hclosing)
  simpa only [TestCase.functionText, ← String.toList_append, String.join_cons, String.join_nil,
    String.append_assoc, String.append_empty, List.nil_append, List.append_nil] using hfunction

theorem passes_module (name : String) (f : CaseFile) (cs : List TestCase) :
    Passes [] (f.moduleText name (cs.map TestCase.functionText)).toList
      (("const TREE: &str = ", f.trimmedTree) :: cs.flatMap TestCase.strings) [] := by
  have hopening := passes_code
    ["mod ", identifier (Suite.stem name), " \x7b", lineBreak 1, "use super::*;", lineBreak 1]
    (by
      simp only [List.forall_mem_cons]
      exact ⟨by decide, isPlain_identifier _, by decide, isPlain_lineBreak 1, by decide,
        isPlain_lineBreak 1, by simp⟩) [] 1
  have htree := passes_binding "const TREE: &str = " ⟨by decide, by decide, by decide⟩ f.trimmedTree
  have hbetween := passes_code [";", lineBreak 1]
    (by
      simp only [List.forall_mem_cons]
      exact ⟨by decide, isPlain_lineBreak 1, by simp⟩) [] 1
  have hfunctions := passes_join TestCase.functionText TestCase.strings
    fun c (_ : c ∈ cs) => passes_case c
  have hclosing := passes_code [lineBreak 0, "\x7d"]
    (by
      simp only [List.forall_mem_cons]
      exact ⟨isPlain_lineBreak 0, by decide, by simp⟩) [] 0
  have hmodule := hopening.append (htree.append (hbetween.append (hfunctions.append hclosing)))
  simpa only [CaseFile.moduleText, ← String.toList_append, String.join_cons, String.join_nil,
    String.append_assoc, String.append_empty, List.nil_append, List.append_nil, List.cons_append]
    using hmodule

/-- Whatever calls a writer is given, it holds their texts, indented by the level in force, and its
level is the one before. So the strings of a file are in its module, whole: the literals that are
read there are those of the trimmed tree and, for each of its cases, of the five strings of the
case. -/
theorem literals_of_module :
    (∀ (w : Writer) (xs : List Writing),
      runAll w xs =
        { written := w.written ++ String.ofList (shown (partsAll w.level xs)), level := w.level }) ∧
    ∀ (name : String) (f : CaseFile),
      f.byName.Perm f.cases ∧
      stringLiterals? (result (f.writing (identifier (Suite.stem name)))) =
        some (("const TREE: &str = ", String.ofList (trim f.tree.toList)) ::
          f.byName.flatMap fun c =>
            [("selector: ", c.selector),
              ("expect_output: ", String.ofList (trim c.output.toList)),
              ("expect_error: ", c.error),
              ("filter_semantics: ", c.filterSemantics),
              ("not_comparison: ", c.notComparison)]) := by
  refine ⟨runAll_eq, fun name f => ⟨List.mergeSort_perm _ _, ?_⟩⟩
  rw [result_writing]
  exact stringLiterals?_of_passes (passes_module name f f.byName)

end MarkupQuery
