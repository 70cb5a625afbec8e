import MarkupQuery.Selector.Pieces
import MarkupQuery.Text.Excerpt
import MarkupQuery.Text.Quoted

/-! What can go wrong with a selection, and how it is worded. -/

namespace MarkupQuery

/-- The error shown in the text that it came from. -/
def ParseError.render (e : ParseError) (text : String) : String := e.span.excerpt text.toList e.message

inductive SelectError where
  /-- The selector cannot be read. -/
  | malformed (query : String) (error : ParseError)
  /-- A pattern is not well formed, or its search was given up. -/
  | pattern (text : String)
  /-- A filter reported a failure of its own. -/
  | filter (name detail : String)
deriving DecidableEq, Inhabited

namespace SelectError

def message : SelectError → String
  | .malformed query e => "Syntax error in selector:\n" ++ e.render query
  | .pattern text => "invalid pattern " ++ quoted text
  | .filter name detail => "filter :" ++ name ++ " failed: " ++ detail

end SelectError

end MarkupQuery
