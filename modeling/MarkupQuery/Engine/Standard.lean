import MarkupQuery.Engine.Builtin
import MarkupQuery.Pattern.Search

/-! Engines that search with the patterns of this library. -/

namespace MarkupQuery

def Pattern.patterns : Patterns := fun text => (read? text).map occursIn

def Builtin.names : List String := (all Pattern.patterns).map Prod.fst

def Engine.withOptions (options : Options) : Engine := .withPatterns Pattern.patterns options

/-- Selects with the built-in filters and no options set. -/
def select (roots : List Place) (query : String) : Found := (Engine.withOptions {}).select roots query

end MarkupQuery
