import MarkupQuery.Selector.Basic
import MarkupQuery.Selector.Pieces

/-! Reading selectors. The forms of a token are tried in turn; text that has none of them is an
unrecognized token and no error. A filter's argument that has the form of a filter is read again,
and is always shorter than the token it came from. -/

namespace MarkupQuery

namespace Grammar

def isTagChar (c : Char) : Bool := c.isLower || c.isDigit || c == '_'

def isNameChar (c : Char) : Bool := isTagChar c || c == '-'

def isQuote (c : Char) : Bool := c == '\'' || c == '"'

def isValueChar (c : Char) : Bool := !(c == ']' || isQuote c)

/-- What may stand in front of a filter's colon. -/
def isPreselectorChar (c : Char) : Bool :=
  c.isLower || c.isDigit || isBlank c || "=~|^$*'\"[]().#".toList.contains c

/-- Without the first character, if it is one of those asked for. -/
def dropOne (p : Char → Bool) : List Char → List Char
  | [] => []
  | c :: cs => if p c then cs else c :: cs

/-- Without one leading quote, if there is one. -/
def dropQuote (cs : List Char) : List Char := dropOne isQuote cs

/-- The parts of the use of a filter, as text; the argument comes with its byte offset. -/
structure FilterParts where
  preselector : List Char
  name : List Char
  argument : Slice

/-- Whether all that is left is the parenthesis that ends an argument, perhaps after a quote. -/
def isClosing (text : List Char) : Bool := dropQuote text == [')']

/-- The argument and what follows it. Parentheses and quotes belong to the argument unless they
close it at the end of the token; a line break does not. -/
def splitArgument : List Char → List Char × List Char
  | [] => ([], [])
  | c :: cs =>
    if isClosing (c :: cs) || isLineBreak c then ([], c :: cs)
    else
      let (argument, rest) := splitArgument cs
      (c :: argument, rest)

/-- Reads `(argument)` up to the end of the token; the parenthesis stands at byte `k`. -/
def argument? (k : Nat) : List Char → Option Slice
  | '(' :: text =>
    let body := dropQuote text
    let (argument, rest) := splitArgument body
    if isClosing rest then some ⟨k + 1 + (byteLength text - byteLength body), argument⟩ else none
  | _ => none

/-- Reads `preselector:name` or `preselector:name(argument)`; offsets are from the token's start. -/
def filterParts? (text : List Char) : Option FilterParts :=
  let pre := text.takeWhile isPreselectorChar
  match text.dropWhile isPreselectorChar with
  | ':' :: rest =>
    let name := rest.takeWhile isNameChar
    if name = [] then none
    else
      let place := byteLength pre + byteLength name + 1
      match rest.dropWhile isNameChar with
      | [] => some ⟨pre, name, ⟨place, []⟩⟩
      | rest => (argument? place rest).map (⟨pre, name, ·⟩)
  | _ => none

/-- One clause `[name op value]` and what follows it. -/
def clause? : List Char → Option (AttributeClause × List Char)
  | '[' :: text =>
    let name := text.takeWhile isNameChar
    if name = [] then none
    else
      let afterName := text.dropWhile isNameChar
      let op := afterName.head?.bind Comparison.ofSymbol?
      let afterOp := dropOne (fun c => (Comparison.ofSymbol? c).isSome) afterName
      let atValue := dropQuote (dropOne (· == '=') afterOp)
      let value := String.ofList (atValue.takeWhile isValueChar)
      match dropQuote (atValue.dropWhile isValueChar) with
      | ']' :: rest => some (⟨String.ofList name, op.elim .present (.compare · value)⟩, rest)
      | _ => none
  | _ => none

theorem length_dropWhile_le (p : Char → Bool) (cs : List Char) :
    (cs.dropWhile p).length ≤ cs.length := by
  induction cs with
  | nil => simp
  | cons c cs ih =>
    rw [List.dropWhile_cons]
    split
    · simp only [List.length_cons]
      omega
    · exact Nat.le_refl _

theorem length_dropOne_le (p : Char → Bool) (cs : List Char) :
    (dropOne p cs).length ≤ cs.length := by
  cases cs with
  | nil => simp [dropOne]
  | cons c cs => rw [dropOne]; split <;> simp

theorem length_dropQuote_le (cs : List Char) : (dropQuote cs).length ≤ cs.length :=
  length_dropOne_le _ _

theorem length_of_clause? {text rest : List Char} {c : AttributeClause}
    (h : clause? text = some (c, rest)) : rest.length < text.length := by
  unfold clause? at h
  split at h
  · rename_i text
    simp only at h
    split at h
    · simp at h
    · split at h
      · rename_i hm
        simp only [Option.some.injEq, Prod.mk.injEq] at h
        obtain ⟨-, rfl⟩ := h
        have hlen := congrArg List.length hm
        have := Nat.le_trans (length_dropQuote_le _) (Nat.le_trans (length_dropWhile_le isValueChar _)
          (Nat.le_trans (length_dropQuote_le _) (Nat.le_trans (length_dropOne_le (· == '=') _)
            (Nat.le_trans (length_dropOne_le (fun c => (Comparison.ofSymbol? c).isSome) _)
              (length_dropWhile_le isNameChar text)))))
        simp only [List.length_cons] at hlen ⊢
        omega
      · simp at h
  · simp at h

/-- Clauses up to the end of the text, or none if something else is left over. -/
def clauses? (text : List Char) : Option (List AttributeClause) :=
  if text = [] then some []
  else
    match _ : clause? text with
    | none => none
    | some (c, rest) => (clauses? rest).map (c :: ·)
termination_by text.length
decreasing_by exact length_of_clause? ‹_›

def compound? (text : List Char) : Option Compound :=
  let tag := text.takeWhile isTagChar
  (clauses? (text.dropWhile isTagChar)).map fun clauses =>
    ⟨if tag = [] then none else some (String.ofList tag), clauses⟩

/-- The segments between dots; without a dot there is only one. -/
def segments : List Char → List (List Char)
  | [] => [[]]
  | c :: cs =>
    if c = '.' then [] :: segments cs
    else match segments cs with
      | [] => [[c]]
      | s :: ss => (c :: s) :: ss

def classes? (text : List Char) : Option ClassList :=
  match (segments text).map String.ofList with
  | tag :: c :: cs => some ⟨if tag = "" then none else some tag, c :: cs⟩
  | _ => none

/-- What follows the first hash. -/
def id? (text : List Char) : Option (List Char) :=
  match text.dropWhile (· != '#') with
  | [] => none
  | _ :: value => some value

/-- A token that is not the use of a filter. -/
def plainToken (text : List Char) : Token :=
  if text = ['*'] then .universal
  else match compound? text with
    | some c => .compound c
    | none => match id? text with
      | some value => .id (String.ofList value)
      | none => match classes? text with
        | some c => .classes c
        | none => .unrecognized (String.ofList text)

end Grammar

open Grammar

theorem Grammar.length_splitArgument_le (text : List Char) :
    (splitArgument text).1.length ≤ text.length := by
  induction text with
  | nil => exact Nat.le_refl _
  | cons c cs ih =>
    rw [splitArgument]
    split
    · exact Nat.zero_le _
    · exact Nat.succ_le_succ ih

theorem Grammar.length_of_argument? {k : Nat} {text : List Char} {a : Slice}
    (h : argument? k text = some a) : a.text.length ≤ text.length := by
  unfold argument? at h
  split at h
  · rename_i text
    simp only at h
    split at h
    · cases h
      have := length_splitArgument_le (dropQuote text)
      have := length_dropQuote_le text
      simp only [List.length_cons]
      omega
    · cases h
  · cases h

theorem Grammar.length_argument_lt {text : List Char} {p : FilterParts}
    (h : filterParts? text = some p) : p.argument.text.length < text.length := by
  unfold filterParts? at h
  simp only at h
  split at h
  · rename_i rest hrest
    have hlen := length_dropWhile_le isPreselectorChar text
    rw [hrest, List.length_cons] at hlen
    split at h
    · cases h
    · split at h
      · cases h
        simp only [List.length_nil]
        omega
      · obtain ⟨a, ha, rfl⟩ := Option.map_eq_some_iff.mp h
        have := length_of_argument? ha
        have := length_dropWhile_le isNameChar rest
        simp only
        omega
  · cases h

namespace FilterCall

/-- A preselector holds no colon, so all of its tokens are plain. -/
def parsePreselector (text : List Char) (k : Nat) : Except ParseError (Option (List Token)) :=
  if text = [] then .ok none
  else (pieces text k).map fun ps => some (ps.map fun p => plainToken p.text)

/-- Reads a token that begins at byte `k` as the use of a filter, if it has that form. -/
def parse? (text : List Char) (k : Nat) : Option (Except ParseError FilterCall) :=
  match _ : filterParts? text with
  | none => none
  | some p => some do
    let preselector ← parsePreselector p.preselector k
    let name := String.ofList p.name
    if p.argument.text = [] then return { preselector, name }
    let argument := some (String.ofList p.argument.text)
    match parse? p.argument.text (k + p.argument.start) with
    | none => return { preselector, name, argument }
    | some next => return { preselector, name, argument, next := some (← next) }
termination_by text.length
decreasing_by exact length_argument_lt ‹_›

end FilterCall

namespace Token

/-- Reads the text of one token, which begins at byte `k`. -/
def parse (text : List Char) (k : Nat) : Except ParseError Token :=
  match FilterCall.parse? text k with
  | some call => call.map .filter
  | none => .ok (plainToken text)

end Token

namespace Alternative

/-- Reads an alternative that begins at byte `k`; commas have no meaning here. -/
def parseAt (text : List Char) (k : Nat) : Except ParseError Alternative := do
  (← pieces text k).mapM fun p => Token.parse p.text p.span.start

def parse (text : String) : Except ParseError Alternative := parseAt text.toList 0

end Alternative

namespace Selector

def parse (text : String) : Except ParseError Selector :=
  (splitCommas text.toList).mapM fun s => Alternative.parseAt s.text s.start

end Selector

end MarkupQuery
