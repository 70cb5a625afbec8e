import MarkupQuery.Text.Blank

/-! A span of a text shown in its place: the lines on which it begins and ends, with the columns
of its ends marked below. -/

namespace MarkupQuery

namespace Excerpt

/-- Line and column, both from one, after a text. -/
structure Place where
  line : Nat := 1
  column : Nat := 1
deriving DecidableEq, Inhabited

def Place.advance (p : Place) (c : Char) : Place :=
  if c = '\n' then ⟨p.line + 1, 1⟩ else ⟨p.line, p.column + 1⟩

def placeAfter (before : List Char) : Place := before.foldl Place.advance {}

/-- Where a span ends. Just after a line break that is one column past the break. -/
def endPlace (before : List Char) : Place :=
  let p := placeAfter before
  if p.column = 1 then
    let q := placeAfter before.dropLast
    ⟨q.line, q.column + 1⟩
  else p

/-- The lines of a text, each with its line break. -/
def lines : List Char → List (List Char)
  | [] => []
  | c :: cs =>
    if c = '\n' then [c] :: lines cs
    else match lines cs with
      | [] => [[c]]
      | l :: ls => (c :: l) :: ls

/-- The lines that begin before byte `stop`, of lines of which the first begins at `k`. -/
def linesBefore (stop k : Nat) : List (List Char) → List (List Char)
  | [] => []
  | l :: ls => if stop ≤ k then [] else l :: linesBefore stop (k + byteLength l) ls

def showBreaks (line : List Char) : List Char :=
  line.map fun c => if c = '\r' then '␍' else if c = '\n' then '␊' else c

/-- The lines that a span touches, the first of them from its start. -/
def touched (before inside after : List Char) : List (List Char) :=
  let lead := (before.reverse.takeWhile (· != '\n')).reverse
  linesBefore (byteLength lead + byteLength inside) 0 (lines (lead ++ inside ++ after))

def pad (width n : Nat) : String :=
  let digits := toString n
  String.ofList (List.replicate (width - digits.length) ' ') ++ digits

/-- Blanks up to the first column, with the tabs of the line kept, and a mark at either end. -/
def underline (line : List Char) (start stop : Nat) : List Char :=
  let (start, stop) := if stop < start then (stop - 1, start + 1) else (start, stop)
  let margin := (line.take (start - 1)).map fun c => if c = '\t' then '\t' else ' '
  let marks := if stop - start > 1 then List.replicate (stop - start - 2) '-' ++ ['^'] else []
  margin ++ '^' :: marks

end Excerpt

open Excerpt

/-- The span shown in the text with a message, or the bare message if it does not fit the text. -/
def Span.excerpt (s : Span) (text : List Char) (message : String) : String :=
  match s.cut? text with
  | none => message
  | some (before, inside, after) =>
    let start := placeAfter before
    let stop := endPlace (before ++ inside)
    let shown := touched before inside after
    let symbols := inside.head?.any isLineBreak || (1 < inside.length && inside.getLast?.any isLineBreak)
    let first := shown.headD []
    let first := if symbols then showBreaks first else first.filter (!isLineBreak ·)
    let last := (shown.drop 1).getLast?.map fun l => if symbols then l else showBreaks l
    let width := (toString (max start.line stop.line)).length
    let margin := String.ofList (List.replicate width ' ')
    let row := fun (n : Nat) (line : List Char) => pad width n ++ " | " ++ String.ofList line
    let body := match last with
      | none => [row start.line first]
      | some l =>
        let gap := if stop.line - start.line > 1 then [margin ++ " | ..."] else []
        row start.line first :: gap ++ [row stop.line l]
    "\n".intercalate <|
      [margin ++ "--> " ++ toString start.line ++ ":" ++ toString start.column, margin ++ " |"] ++
        body ++
        [margin ++ " | " ++ String.ofList (underline first start.column stop.column),
          margin ++ " |", margin ++ " = " ++ message]

end MarkupQuery
