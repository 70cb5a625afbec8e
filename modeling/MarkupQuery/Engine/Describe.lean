import MarkupQuery.Engine.Basic
import MarkupQuery.Text.Quoted

/-! How engines and predicate maps show themselves. -/

namespace MarkupQuery

def showSet (members : List String) : String := "\x7b" ++ ", ".intercalate members ++ "\x7d"

def PredicateKey.describe : PredicateKey → String
  | .tagName => "TagName"
  | .attribute name => "Attr(" ++ quoted name ++ ")"

def PredicateMap.describe (m : PredicateMap) : String := showSet (m.keys.map PredicateKey.describe)

def Span.describe (s : Span) : String :=
  "DetachedSpan \x7b start: " ++ toString s.start ++ ", end: " ++ toString s.stop ++ " \x7d"

def NotComparison.describe : NotComparison → String
  | .identity => "Identity"
  | .fieldWise => "FieldWise"

def FilterSemantics.describe : FilterSemantics → String
  | .legacy => "Legacy"
  | .conventional => "Conventional"

def Options.describe (o : Options) : String :=
  "SelectOptions \x7b not_comparison: " ++ o.notComparison.describe ++ ", filter_semantics: " ++
    o.filterSemantics.describe ++ " \x7d"

def Engine.describe (e : Engine) : String :=
  "Engine \x7b filters: " ++ showSet (e.filters.names.map quoted) ++ ", options: " ++
    e.options.describe ++ ", .. \x7d"

end MarkupQuery
