import MarkupQuery.Pattern.Bracket
import MarkupQuery.Pattern.Syntax
import MarkupQuery.Text.Decimal

/-! Reading the text of a pattern. There is only one kind of failure, so a reader gives nothing for
a text that is not a pattern. -/

namespace MarkupQuery

namespace PatternReader

structure Flags where
  ignoreCase : Bool := false
  multiLine : Bool := false
  dotAll : Bool := false
  swapGreed : Bool := false
  extended : Bool := false

structure Cursor where
  rest : List Char
  flags : Flags := {}
  opened : Nat := 0
  names : List (String × Nat) := []
  referenced : List Nat := []
  /-- Whether a group was referred to by a bare number. -/
  byNumber : Bool := false
  /-- Bare numbers have to be smaller than this. -/
  numberBound : Nat

abbrev Reader := StateT Cursor Option

def rest : Reader (List Char) := do return (← get).rest

def setRest (cs : List Char) : Reader Unit := modify fun s => { s with rest := cs }

def flags : Reader Flags := do return (← get).flags

/-- Where the text to be left out goes on. -/
inductive Gap where
  | between
  | line
  | comment

/-- What follows the blanks and comments that are left out; a comment in parentheses always is. -/
def skipGap (extended : Bool) : Gap → List Char → Option (List Char)
  | .between, '(' :: '?' :: '#' :: cs => skipGap extended .comment cs
  | .between, c :: cs =>
    if extended && c == '#' then skipGap extended .line cs
    else if extended && (c == ' ' || c == '\r' || c == '\n' || c == '\t') then
      skipGap extended .between cs
    else some (c :: cs)
  | .line, c :: cs => skipGap extended (if c == '\n' then .between else .line) cs
  | .comment, ')' :: cs => skipGap extended .between cs
  | .comment, '\\' :: _ :: cs => skipGap extended .comment cs
  | .comment, _ :: cs => skipGap extended .comment cs
  | .comment, [] => none
  | _, [] => some []

def skip : Reader Unit := do
  match skipGap (← flags).extended .between (← rest) with
  | some cs => setRest cs
  | none => failure

def expectClose : Reader Unit := do
  skip
  match ← rest with
  | ')' :: cs => setRest cs
  | _ => failure

/-- Reads decimal digits, at least one, of a number below 2^64. -/
def decimal? (cs : List Char) : Option (Nat × List Char) :=
  let digits := cs.takeWhile Char.isDigit
  let n := readDecimal digits
  if digits = [] ∨ Nat.pow 2 64 ≤ n then none else some (n, cs.dropWhile Char.isDigit)

/-- Reads the bounds of a repetition after the opening brace. What does not have that form is left
to be read as text. -/
def bounds? (extended : Bool) (cs : List Char) : Option ((Nat × Option Nat) × List Char) := do
  let gap := skipGap extended .between
  let cs ← gap cs
  let (least, cs) ← match cs with
    | ',' :: _ => some (0, cs)
    | _ => decimal? cs
  let cs ← gap cs
  let (most, cs) ← match cs with
    | '}' :: _ => some (some least, cs)
    | ',' :: cs => do
      let cs ← gap cs
      match decimal? cs with
      | some (n, cs) => some (some n, cs)
      | none => some (none, cs)
    | _ => none
  match ← gap cs with
  | '}' :: cs => some ((least, most), cs)
  | _ => none

def isNameChar (c : Char) : Bool := isAlphanumeric c || c == '_'

def name? (close : Char) (cs : List Char) : Option (List Char × List Char) :=
  match cs.takeWhile isNameChar, cs.dropWhile isNameChar with
  | [], _ => none
  | name, c :: cs => if c = close then some (name, cs) else none
  | _, [] => none

def refer (number : Nat) : Reader Unit :=
  modify fun s => { s with referenced := number :: s.referenced }

def groupNumber : Reader Nat := do
  match decimal? (← rest) with
  | none => failure
  | some (n, cs) =>
    if n < (← get).numberBound then
      setRest cs
      refer n
      modify fun s => { s with byNumber := true }
      return n
    else failure

/-- Reads the name of a group, up to the text that closes it. A number may stand for the name, and
a number after a minus sign counts back from the group opened last. -/
def groupName (relative : Bool) (close : Char) : Reader Nat := do
  let s ← get
  match s.rest with
  | '-' :: cs =>
    match relative, decimal? cs with
    | true, some (n, c :: cs) =>
      if c = close ∧ 1 ≤ n ∧ n ≤ s.opened then
        setRest cs
        refer (s.opened + 1 - n)
        return s.opened + 1 - n
      else failure
    | _, _ => failure
  | cs =>
    match name? close cs with
    | none => failure
    | some (name, cs) =>
      let number := s.names.lookup (String.ofList name) <|>
        ((decimal? name).bind fun (n, more) => if more = [] then some n else none)
      match number with
      | none => failure
      | some n =>
        setRest cs
        refer n
        return n

def reference (number : Nat) : Reader Regex := do
  if 1 ≤ number ∧ number ≤ (← get).opened then return .reference number else failure

/-- Reads the digits of a character's code: so many, or up to eight in braces. -/
def codeChar (count : Nat) : Reader Char := do
  let cs ← rest
  let isHex := fun c => (hexDigit? c).isSome
  let (digits, cs) ←
    if (cs.take count).length = count ∧ (cs.take count).all isHex then pure (cs.take count, cs.drop count)
    else match cs with
      | '{' :: cs =>
        match cs.takeWhile isHex, cs.dropWhile isHex with
        | digits, '}' :: cs =>
          if 1 ≤ digits.length ∧ digits.length ≤ 8 then pure (digits, cs) else failure
        | _, _ => failure
      | _ => failure
  let n := readHex digits
  if n < 0xD800 ∨ (0xE000 ≤ n ∧ n < 0x110000) then
    setRest cs
    return Char.ofNat n
  else failure

def propertySet (negated : Bool) : Reader CharSet := do
  let (isNegated, s) ← match ← rest with
    | '{' :: cs =>
      match CharSet.cutAt (· == '}') cs with
      | some (text, cs) => do
        setRest cs
        liftM (CharSet.ofPropertyText? text)
      | none => failure
    | c :: cs => do
      setRest cs
      liftM ((CharSet.property? [c]).map fun s => (false, s))
    | [] => failure
  return .negateIf (negated != isNegated) (.foldIf (← flags).ignoreCase s)

/-- Escapes that stand for the same in and out of brackets. -/
inductive Escape where
  | code (c : Char)
  | char (c : Char)
  | set (s : CharSet)

/-- Characters that stand for themselves in an escape though they are letters, within brackets. -/
def letterEscapes : List Char := ['k', 'A', 'z', 'B', 'K', 'G']

/-- Reads an escape after its first character, for the escapes that may stand in brackets. -/
def commonEscape (c : Char) : Reader Escape := do
  match c with
  | 'd' => return .set CharSet.decimalDigit
  | 'D' => return .set (.negateIf true CharSet.decimalDigit)
  | 's' => return .set isBlank
  | 'S' => return .set (.negateIf true isBlank)
  | 'w' => return .set CharSet.word
  | 'W' => return .set (.negateIf true CharSet.word)
  | 'h' => return .set CharSet.hex
  | 'H' => return .set (.negateIf true CharSet.hex)
  | 'x' => return .code (← codeChar 2)
  | 'u' => return .code (← codeChar 4)
  | 'U' => return .code (← codeChar 8)
  | 'p' => return .set (← propertySet false)
  | 'P' => return .set (← propertySet true)
  | 'a' => return .char '\x07'
  | 'b' => return .char '\x08'
  | 'f' => return .char '\x0c'
  | 'n' => return .char '\n'
  | 'r' => return .char '\r'
  | 't' => return .char '\t'
  | 'v' => return .char '\x0b'
  | 'e' => return .char '\x1b'
  | c => if c.isAlpha && !letterEscapes.contains c then failure else return .char c

def bracketMeta : List Char := "\\.+*?()|[]\x7b\x7d^$#&-~".toList

/-- Reads the symbols of a bracketed class up to the bracket that closes it, with `nest` further
brackets open. -/
def bracketSymbols : (fuel nest : Nat) → Reader (List Bracket.Symbol)
  | 0, _ => failure
  | fuel + 1, nest => do
    match ← rest with
    | [] => failure
    | '\\' :: c :: cs =>
      if c.isDigit then failure
      else
        setRest cs
        let symbol : Bracket.Symbol := match ← commonEscape c with
          | .code c | .char c => if bracketMeta.contains c then .escaped c else .plain c
          | .set s => .set s
        return symbol :: (← bracketSymbols fuel nest)
    | ['\\'] => failure
    | ']' :: cs =>
      setRest cs
      match nest with
      | 0 => return [.plain ']']
      | nest + 1 => return .plain ']' :: (← bracketSymbols fuel nest)
    | c :: cs =>
      setRest cs
      return .plain c :: (← bracketSymbols fuel (if c = '[' then nest + 1 else nest))

def bracket : Reader Regex := do
  let cs ← rest
  let (start, cs) : List Bracket.Symbol × List Char := match cs with
    | '^' :: ']' :: cs => ([.plain '^', .plain ']'], cs)
    | '^' :: cs => ([.plain '^'], cs)
    | ']' :: cs => ([.plain ']'], cs)
    | cs => ([], cs)
  setRest cs
  let symbols ← bracketSymbols (cs.length + 1) 0
  match Bracket.toSet? (← flags).ignoreCase (start ++ symbols) with
  | some s => return .set s
  | none => failure

def literal (ignoreCase : Bool) (c : Char) : Regex :=
  if ignoreCase then .set (.foldIf true (.single c)) else .char c

def escape : Reader Regex := do
  match ← rest with
  | [] => failure
  | c :: cs =>
    let boundary := fun (a : Anchor) => (do
      if cs.head? = some '{' then failure else return .anchor a : Reader Regex)
    if c.isDigit then reference (← groupNumber)
    else
      setRest cs
      match c with
      | 'k' =>
        match cs with
        | '\'' :: cs => do setRest cs; reference (← groupName true '\'')
        | '<' :: cs => do setRest cs; reference (← groupName true '>')
        | _ => failure
      | 'A' => return .anchor .textStart
      | 'z' => return .anchor .textEnd
      | 'Z' => return .look false false (.concat [.repetition (.char '\n') 0 none true, .anchor .textEnd])
      | 'b' => boundary .wordBoundary
      | 'B' => boundary .noWordBoundary
      | '<' => return .anchor .wordStart
      | '>' => return .anchor .wordEnd
      | 'K' => return .keepOut
      | 'G' => return .anchor .searchStart
      | c =>
        match ← commonEscape c with
        | .code c => return literal (← flags).ignoreCase c
        | .char c => return .char c
        | .set s => return .set s

/-- How a group of flags ends: they hold from here on, or for what follows in the group. -/
inductive FlagsEnd where
  | rest
  | group

/-- Reads flags up to the end of their list. `negative` is whether a minus sign was read, `fresh`
whether no letter was read since the list or the minus sign began. -/
def flagList : (fuel : Nat) → (negative fresh : Bool) → Flags → List Char →
    Option (Flags × FlagsEnd × List Char)
  | 0, _, _, _, _ => none
  | fuel + 1, negative, fresh, f, cs => do
    match ← skipGap f.extended .between cs with
    | 'i' :: cs => flagList fuel negative false { f with ignoreCase := !negative } cs
    | 'm' :: cs => flagList fuel negative false { f with multiLine := !negative } cs
    | 's' :: cs => flagList fuel negative false { f with dotAll := !negative } cs
    | 'U' :: cs => flagList fuel negative false { f with swapGreed := !negative } cs
    | 'x' :: cs => flagList fuel negative false { f with extended := !negative } cs
    | 'u' :: cs => if negative then none else flagList fuel negative false f cs
    | '-' :: cs => if negative then none else flagList fuel true true f cs
    | ')' :: cs => if fresh then none else some (f, .rest, cs)
    | ':' :: cs => if negative && fresh then none else some (f, .group, cs)
    | _ => none

def maxGroupDepth : Nat := 63

def isRepeatable : Regex → Bool
  | .empty | .look .. | .anchor _ => false
  | _ => true

def quantifier : Reader (Option (Nat × Option Nat)) := do
  match ← rest with
  | '?' :: cs => setRest cs; return some (0, some 1)
  | '*' :: cs => setRest cs; return some (0, none)
  | '+' :: cs => setRest cs; return some (1, none)
  | '{' :: cs =>
    match bounds? (← flags).extended cs with
    | some (b, cs) => setRest cs; return some b
    | none => return none
  | _ => return none

def optionalChar (c : Char) : Reader Bool := do
  match ← rest with
  | d :: cs => if c = d then setRest cs; return true else return false
  | [] => return false

def openGroup (name : Option (List Char)) : Reader Nat := do
  let number := (← get).opened + 1
  modify fun s => { s with opened := number }
  match name with
  | some n => modify fun s => { s with names := (String.ofList n, number) :: s.names }
  | none => pure ()
  return number

mutual

/-- Reads alternatives. Every call takes one from the first count, which is a multiple of the
length of the text. -/
def alternation : (fuel depth : Nat) → Reader Regex
  | 0, _ => failure
  | fuel + 1, depth => do
    let first ← branch fuel depth
    skip
    match ← rest with
    | '|' :: _ => return .alt (first :: (← moreBranches fuel depth))
    | _ =>
      let s ← get
      if s.byNumber && !s.names.isEmpty then failure else return first

def moreBranches : (fuel depth : Nat) → Reader (List Regex)
  | 0, _ => failure
  | fuel + 1, depth => do
    match ← rest with
    | '|' :: cs =>
      setRest cs
      let r ← branch fuel depth
      skip
      return r :: (← moreBranches fuel depth)
    | _ => return []

def branch : (fuel depth : Nat) → Reader Regex
  | 0, _ => failure
  | fuel + 1, depth => do
    match ← pieces fuel depth with
    | [] => return .empty
    | [r] => return r
    | rs => return .concat rs

/-- Reads pieces until one takes nothing from the text. -/
def pieces : (fuel depth : Nat) → Reader (List Regex)
  | 0, _ => failure
  | fuel + 1, depth => do
    let before := (← rest).length
    let r ← piece fuel depth
    if (← rest).length = before then return []
    else
      let rs ← pieces fuel depth
      return if r.isEmpty then rs else r :: rs

def piece : (fuel depth : Nat) → Reader Regex
  | 0, _ => failure
  | fuel + 1, depth => do
    let r ← atom fuel depth
    skip
    match ← quantifier with
    | none => return r
    | some (least, most) =>
      if isRepeatable r then
        skip
        let lazy ← optionalChar '?'
        let repeated := Regex.repetition r least most (lazy == (← flags).swapGreed)
        return if ← optionalChar '+' then .atomic repeated else repeated
      else failure

def atom : (fuel depth : Nat) → Reader Regex
  | 0, _ => failure
  | fuel + 1, depth => do
    skip
    let f ← flags
    match ← rest with
    | [] => return .empty
    | c :: cs =>
      match c with
      | '.' => setRest cs; return .set fun c => f.dotAll || c != '\n'
      | '^' => setRest cs; return .anchor (if f.multiLine then .lineStart else .textStart)
      | '$' => setRest cs; return .anchor (if f.multiLine then .lineEnd else .textEnd)
      | '(' => setRest cs; group fuel (depth + 1)
      | '\\' => setRest cs; escape
      | '[' => setRest cs; bracket
      | '+' | '*' | '?' | '|' | ')' => return .empty
      | c => setRest cs; return literal f.ignoreCase c

def group : (fuel depth : Nat) → Reader Regex
  | 0, _ => failure
  | fuel + 1, depth => do
    if maxGroupDepth < depth then failure
    skip
    match ← rest with
    | '?' :: '=' :: cs => setRest cs; return .look false false (← inParentheses fuel depth)
    | '?' :: '!' :: cs => setRest cs; return .look false true (← inParentheses fuel depth)
    | '?' :: '<' :: '=' :: cs => setRest cs; return .look true false (← inParentheses fuel depth)
    | '?' :: '<' :: '!' :: cs => setRest cs; return .look true true (← inParentheses fuel depth)
    | '?' :: '<' :: cs => namedGroup fuel depth '>' cs
    | '?' :: '\'' :: cs => namedGroup fuel depth '\'' cs
    | '?' :: 'P' :: '<' :: cs => namedGroup fuel depth '>' cs
    | '?' :: 'P' :: '=' :: cs => setRest cs; reference (← groupName false ')')
    | '?' :: '>' :: cs => setRest cs; return .atomic (← inParentheses fuel depth)
    | '?' :: '(' :: cs => setRest cs; conditional fuel depth
    | '?' :: cs =>
      let old ← flags
      match flagList (cs.length + 1) false true old cs with
      | none => failure
      | some (f, ending, cs) =>
        modify fun s => { s with flags := f, rest := cs }
        match ending with
        | .rest => return .empty
        | .group =>
          let r ← alternation fuel depth
          match ← rest with
          | ')' :: cs =>
            modify fun s => { s with flags := old, rest := cs }
            return r
          | _ => failure
    | _ =>
      let number ← openGroup none
      return .group number (← inParentheses fuel depth)

def namedGroup : (fuel depth : Nat) → (close : Char) → List Char → Reader Regex
  | 0, _, _, _ => failure
  | fuel + 1, depth, close, cs => do
    match name? close cs with
    | none => failure
    | some (name, cs) =>
      let number ← openGroup (some name)
      setRest cs
      return .group number (← inParentheses fuel depth)

def inParentheses : (fuel depth : Nat) → Reader Regex
  | 0, _ => failure
  | fuel + 1, depth => do
    let r ← alternation fuel depth
    expectClose
    return r

/-- Reads a condition after `(?(`. The first alternative is for when it holds, the others are for
when it does not. A condition alone has to be the number or name of a group. -/
def conditional : (fuel depth : Nat) → Reader Regex
  | 0, _ => failure
  | fuel + 1, depth => do
    let known := fun (number : Nat) => (do
      if number ≤ (← get).opened then return .matched number else failure : Reader Regex)
    let test ← match ← rest with
      | [] => failure
      | c :: cs =>
        if c.isDigit then known (← groupNumber)
        else if c = '\'' then do setRest cs; known (← groupName true '\'')
        else if c = '<' then do setRest cs; known (← groupName true '>')
        else do
          match ← alternation fuel depth with
          | .reference number => return .matched number
          | r => return r
    expectClose
    let before := (← rest).length
    let body ← alternation fuel depth
    if (← rest).length = before then
      match test with
      | .matched number => expectClose; return .matched number
      | _ => failure
    else
      expectClose
      match body with
      | .alt (yes :: no :: more) =>
        let otherwise := if more.isEmpty then no else .alt (no :: more)
        return if yes.isEmpty && otherwise.isEmpty then test else .condition test yes otherwise
      | yes => return if yes.isEmpty then test else .condition test yes .empty

end

end PatternReader

open PatternReader in
def Regex.read? (text : String) : Option (Regex × Nat × List Nat) :=
  let cs := text.toList
  match (alternation (8 * cs.length + 16) 0).run { rest := cs, numberBound := byteLength cs / 2 } with
  | some (r, s) => if s.rest = [] then some (r, s.opened, s.referenced) else none
  | none => none

end MarkupQuery
