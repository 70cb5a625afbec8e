/-! Files of selection cases. A file gives a tree, and under the name of each case a selector with
what it should select or how it should fail. In which language it is written is left open. -/

namespace MarkupQuery

/-- What a file says about a case. -/
structure Expectation where
  selector : String
  output : Option String := none
  error : Option String := none
  filterSemantics : Option String := none
  notComparison : Option String := none
  ignore : Option String := none
deriving DecidableEq

structure TestCase where
  name : String
  selector : String
  output : String
  error : String
  filterSemantics : String
  notComparison : String
  isIgnored : Bool
deriving DecidableEq

def TestCase.ofEntry (entry : String × Expectation) : TestCase where
  name := entry.1
  selector := entry.2.selector
  output := entry.2.output.getD "[]"
  error := entry.2.error.getD ""
  filterSemantics := entry.2.filterSemantics.getD "legacy"
  notComparison := entry.2.notComparison.getD "identity"
  isIgnored := entry.2.ignore.isSome

/-- A tree, and what is expected of it under each name. The entries come in any order. -/
structure CaseFile where
  tree : String
  expect : List (String × Expectation)
  distinct : (expect.map Prod.fst).Nodup
deriving DecidableEq

namespace CaseFile

/-- Gives the file that a text is, or says why it is none. -/
abbrev Parser := String → Except String CaseFile

def cases (f : CaseFile) : List TestCase := f.expect.map TestCase.ofEntry

def byName (f : CaseFile) : List TestCase := f.cases.mergeSort fun a b => decide (a.name ≤ b.name)

/-- There is one case for each entry. -/
theorem perm_byName (f : CaseFile) : f.byName.Perm (f.expect.map TestCase.ofEntry) :=
  List.mergeSort_perm _ _

theorem map_name_cases (f : CaseFile) : f.cases.map TestCase.name = f.expect.map Prod.fst := by
  rw [cases, List.map_map]
  rfl

theorem nodup_names (f : CaseFile) : (f.cases.map TestCase.name).Nodup :=
  f.map_name_cases ▸ f.distinct

end CaseFile

end MarkupQuery
