import MarkupQuery.Selector.Attribute

/-! Selectors. A selector is a list of alternatives; an alternative is a list of tokens, each of
which narrows what the tokens before it have found. -/

namespace MarkupQuery

structure AttributeClause where
  name : String
  test : AttributeTest
deriving DecidableEq, Inhabited

/-- A tag name with attribute clauses, such as `a[href][rel='next']`. -/
structure Compound where
  tag : Option String := none
  clauses : List AttributeClause := []
deriving DecidableEq, Inhabited

/-- A tag name with classes, such as `p.main.post`. -/
structure ClassList where
  tag : Option String := none
  classes : List String := []
deriving DecidableEq, Inhabited

mutual

inductive Token where
  | universal
  | compound (c : Compound)
  | id (value : String)
  | classes (c : ClassList)
  | filter (f : FilterCall)
  /-- A token of no known form; it finds nothing. -/
  | unrecognized (text : String)

/-- The use of a filter, `preselector:name(argument)`. An argument that is itself the use of a
filter is kept in both forms: as text and as the filter that runs next. -/
structure FilterCall where
  preselector : Option (List Token) := none
  name : String
  argument : Option String := none
  next : Option FilterCall := none

end

instance : Inhabited Token := ⟨.universal⟩

abbrev Alternative := List Token

abbrev Selector := List Alternative

end MarkupQuery
