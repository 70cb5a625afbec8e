import MarkupQuery.Text.Blank

/-! How a selector falls into pieces. It is cut at every comma, and each part at its blanks; a word
that closes a bracket without opening one belongs to the word before it. -/

namespace MarkupQuery

/-- The parts between commas; the text begins at byte `k`. -/
def splitCommasFrom (k : Nat) : List Char → List Slice
  | [] => [⟨k, []⟩]
  | c :: cs =>
    let rest := splitCommasFrom (k + c.utf8Size) cs
    if c = ',' then ⟨k, []⟩ :: rest
    else match rest with
      | [] => [⟨k, [c]⟩]
      | s :: ss => ⟨k, c :: s.text⟩ :: ss

def splitCommas (text : List Char) : List Slice := splitCommasFrom 0 text

/-- Closes a bracket or parenthesis and opens none. -/
def isTail (word : List Char) : Bool :=
  word.any (fun c => c == ']' || c == ')') && !word.any (fun c => c == '[' || c == '(')

/-- The text of one token, its words joined by single spaces, and the span from the first word to
the last. -/
structure Piece where
  text : List Char
  span : Span
deriving DecidableEq, Inhabited

namespace Piece

def ofWord (w : Slice) : Piece := ⟨w.text, w.span⟩

def extend (p : Piece) (w : Slice) : Piece := ⟨p.text ++ ' ' :: w.text, ⟨p.span.start, w.stop⟩⟩

/-- A piece begun, followed by the pieces of the remaining words. -/
def collect (p : Piece) : List Slice → List Piece
  | [] => [p]
  | w :: ws => if isTail w.text then collect (p.extend w) ws else p :: collect (ofWord w) ws

end Piece

/-- What is wrong with a selector, and where. -/
structure ParseError where
  span : Span
  message : String
deriving DecidableEq, Inhabited

namespace ParseError

/-- A closing bracket has nothing to close. Selectors are malformed in no other way. -/
def strayCloser (span : Span) : ParseError :=
  ⟨span, "closing bracket or parenthesis with no preceding selector"⟩

def display (e : ParseError) : String :=
  e.message ++ " at bytes " ++ toString e.span.start ++ ".." ++ toString e.span.stop

end ParseError

/-- The pieces of a text that begins at byte `k`. -/
def pieces (text : List Char) (k : Nat) : Except ParseError (List Piece) :=
  match wordsFrom k text with
  | [] => .ok []
  | w :: ws => if isTail w.text then .error (.strayCloser w.span) else .ok ((Piece.ofWord w).collect ws)

end MarkupQuery
