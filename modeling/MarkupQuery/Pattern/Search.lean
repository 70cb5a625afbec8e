import MarkupQuery.Pattern.Backtrack
import MarkupQuery.Pattern.Reader

/-! Patterns ready for use. A pattern that needs no retries is matched in one pass over the text,
however it is written; any other one by trying, and then the search may be given up. -/

namespace MarkupQuery

inductive Pattern where
  | onePass (p : Program)
  | trying (p : Plan) (groups : Nat)

namespace Pattern

/-- Programs of more than about so many instructions are refused. -/
def maxWeight : Nat := 300000

def read? (text : String) : Option Pattern := do
  let (r, groups, referenced) ← Regex.read? text
  if (r.traits referenced).hard then
    return .trying (← Plan.search maxWeight referenced r) groups
  else if r.boundsInOrder && decide (r.weight ≤ maxWeight) then
    return .onePass (.ofRegex false r)
  else none

/-- Whether the pattern occurs in a text; nothing if the search is given up. -/
def occursIn (p : Pattern) (text : String) : Option Bool :=
  let text := text.toList.toArray
  match p with
  | .onePass p => some (p.occursIn text)
  | .trying p groups =>
    Backtrack.search text Backtrack.maxSteps Backtrack.maxReturns
      { tasks := [.run p], slots := Array.replicate (2 * groups + 2) none }

end Pattern

end MarkupQuery
