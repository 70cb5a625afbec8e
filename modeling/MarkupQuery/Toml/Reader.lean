import MarkupQuery.Toml.Scalar
import MarkupQuery.Toml.Value

/-! Reading TOML text. There is only one kind of failure, so a reader gives nothing for a text that
is not TOML. Keys have fewer than 80 parts, and arrays and inline tables are fewer than 80 deep. -/

namespace MarkupQuery

namespace TomlReader

open TomlValue

def limit : Nat := 79

/-- Every line break as a line feed alone. -/
def joinBreaks : List Char → List Char
  | '\r' :: '\n' :: rest => '\n' :: joinBreaks rest
  | c :: rest => c :: joinBreaks rest
  | [] => []

def isGapChar (c : Char) : Bool := c == ' ' || c == '\t'

/-- What may stand in comments and, its quotes apart, in strings. -/
def isTextChar (c : Char) : Bool := c == '\t' || (0x20 ≤ c.toNat && c.toNat != 0x7F)

def skip (text : List Char) : List Char := text.dropWhile isGapChar

def skipLines (inComment : Bool) : List Char → List Char
  | [] => []
  | c :: rest =>
    if c = '\n' then skipLines false rest
    else if inComment then if isTextChar c then skipLines true rest else c :: rest
    else if isGapChar c then skipLines false rest
    else if c = '#' then skipLines true rest
    else c :: rest

/-! ### Strings -/

structure StringForm where
  quote : Char
  /-- whether a backslash begins an escape -/
  escapes : Bool
  /-- whether it is closed by three quotes and may have line breaks -/
  lines : Bool

/-- Where in a string a reader is: at its text, behind a backslash, at the digits of a code point,
or at the blanks after a backslash that joins lines. -/
inductive StringState where
  | text
  | escape
  | code (left : Nat) (read : Nat)
  | joint (broken : Bool)

def escaped? (c : Char) : Option Char :=
  match c with
  | '"' | '\\' => some c
  | 'b' => some (Char.ofNat 8)
  | 't' => some '\t'
  | 'n' => some '\n'
  | 'f' => some (Char.ofNat 12)
  | 'r' => some '\r'
  | _ => none

/-- The state after a blank or line break that follows a backslash; there has to be a break before
the text goes on. -/
def joint? (broken : Bool) (c : Char) (rest : List Char) : Option StringState :=
  let broken := broken || c == '\n'
  if rest.head?.any fun d => isGapChar d || d == '\n' then some (.joint broken)
  else if broken then some .text
  else none

/-- Reads a string after what opens it. Up to two quotes may stand before the three that close a
string of lines. -/
def stringBody (f : StringForm) : StringState → List Char → Option (List Char × List Char)
  | _, [] => none
  | .text, c :: rest =>
    let more := fun (cs, rest) => (c :: cs, rest)
    if c = f.quote then
      if f.lines then
        let run := (rest.takeWhile (· == c)).length + 1
        if run < 3 then (stringBody f .text rest).map more
        else some (List.replicate (min (run - 3) 2) c, rest.drop (min run 5 - 1))
      else some ([], rest)
    else if c = '\\' ∧ f.escapes then stringBody f .escape rest
    else if c = '\n' ∧ f.lines ∨ isTextChar c then (stringBody f .text rest).map more
    else none
  | .escape, c :: rest =>
    if c = 'u' then stringBody f (.code 4 0) rest
    else if c = 'U' then stringBody f (.code 8 0) rest
    else
      match escaped? c with
      | some d => (stringBody f .text rest).map fun (cs, rest) => (d :: cs, rest)
      | none =>
        if f.lines ∧ (isGapChar c ∨ c = '\n') then
          (joint? false c rest).bind fun s => stringBody f s rest
        else none
  | .code left read, c :: rest =>
    (hexDigit? c).bind fun d =>
      let n := 16 * read + d
      if 1 < left then stringBody f (.code (left - 1) n) rest
      else if n.isValidChar then
        (stringBody f .text rest).map fun (cs, rest) => (Char.ofNat n :: cs, rest)
      else none
  | .joint broken, c :: rest => (joint? broken c rest).bind fun s => stringBody f s rest

def string (f : StringForm) (text : List Char) : Option (String × List Char) :=
  (stringBody f .text text).map fun (cs, rest) => (String.ofList cs, rest)

def oneLine (quote : Char) : StringForm := ⟨quote, quote == '"', false⟩

/-- A line break right after the opening quotes does not count. -/
def manyLines (quote : Char) (text : List Char) : Option (String × List Char) :=
  string ⟨quote, quote == '"', true⟩ (if text.head? = some '\n' then text.drop 1 else text)

def anyString : List Char → Option (String × List Char)
  | '"' :: '"' :: '"' :: rest => manyLines '"' rest
  | '\'' :: '\'' :: '\'' :: rest => manyLines '\'' rest
  | '"' :: rest => string (oneLine '"') rest
  | '\'' :: rest => string (oneLine '\'') rest
  | _ => none

/-! ### Keys and values -/

def isKeyChar (c : Char) : Bool := c.isAlphanum || c == '-' || c == '_'

def simpleKey : List Char → Option (String × List Char)
  | '"' :: rest => string (oneLine '"') rest
  | '\'' :: rest => string (oneLine '\'') rest
  | text =>
    match text.takeWhile isKeyChar with
    | [] => none
    | cs => some (String.ofList cs, text.dropWhile isKeyChar)

/-- Reads a key of at most so many parts, and the blanks around it. -/
def key : (parts : Nat) → List Char → Option (DottedKey × List Char)
  | 0, _ => none
  | n + 1, text => do
    let (name, rest) ← simpleKey (skip text)
    match skip rest with
    | '.' :: rest => do
      let (k, rest) ← key n rest
      return ({ k with parents := name :: k.parents }, rest)
    | rest => return (⟨[], name⟩, rest)

def pair (value : List Char → Option (TomlValue × List Char)) (text : List Char) :
    Option ((DottedKey × TomlValue) × List Char) := do
  match ← key limit text with
  | (k, '=' :: rest) => do
    let (v, rest) ← value (skip rest)
    return ((k, v), rest)
  | _ => none

/-- Reads the items of an array up to the bracket that closes it. The count exceeds the items if it
exceeds the characters. -/
def items (value : List Char → Option (TomlValue × List Char)) :
    (count : Nat) → List Char → Option (List TomlValue × List Char)
  | 0, _ => none
  | n + 1, text =>
    match skipLines false text with
    | ']' :: rest => some ([], rest)
    | text => do
      let (v, rest) ← value text
      match skipLines false rest with
      | ']' :: rest => return ([v], rest)
      | ',' :: rest => (items value n rest).map fun (vs, rest) => (v :: vs, rest)
      | _ => none

def pairs (value : List Char → Option (TomlValue × List Char)) :
    (count : Nat) → List Char → Option (List (DottedKey × TomlValue) × List Char)
  | 0, _ => none
  | n + 1, text => do
    let (p, rest) ← pair value text
    match skip rest with
    | '}' :: rest => return ([p], rest)
    | ',' :: rest => (pairs value n rest).map fun (ps, rest) => (p :: ps, rest)
    | _ => none

def leaf (text : List Char) : Option (TomlValue × List Char) :=
  match anyString text with
  | some (s, rest) => some (.string s, rest)
  | none =>
    let scalar := TomlScalar.scalarText text
    if TomlScalar.isScalar scalar then some (.scalar, text.drop scalar.length) else none

/-- Reads a value with at most `depth` levels of arrays and inline tables. -/
def value : (depth : Nat) → List Char → Option (TomlValue × List Char)
  | 0, text => leaf text
  | depth + 1, text =>
    match text with
    | '[' :: rest => (items (value depth) (rest.length + 1) rest).map fun (vs, rest) => (.array vs, rest)
    | '{' :: rest =>
      match skip rest with
      | '}' :: rest => some (.table .inline [], rest)
      | rest => do
        let (ps, rest) ← pairs (value depth) (rest.length + 1) rest
        let es ← addPairs .inline [] ps
        return (.table .inline es, rest)
    | text => leaf text

/-! ### Documents -/

inductive Line where
  | header (key : DottedKey) (isElement : Bool)
  | pair (pair : DottedKey × TomlValue)

def line : List Char → Option (Line × List Char)
  | '[' :: '[' :: text => do
    match ← key limit text with
    | (k, ']' :: ']' :: rest) => return (.header k true, rest)
    | _ => none
  | '[' :: text => do
    match ← key limit text with
    | (k, ']' :: rest) => return (.header k false, rest)
    | _ => none
  | text => (pair (value limit) text).map fun (p, rest) => (.pair p, rest)

/-- Nothing but a comment may follow on a line. -/
def lineEnd (text : List Char) : Option (List Char) :=
  let rest := match skip text with
    | '#' :: comment => comment.dropWhile isTextChar
    | rest => rest
  match rest with
  | [] => some []
  | '\n' :: rest => some rest
  | _ => none

def lines : (count : Nat) → List Char → Option (List Line)
  | 0, _ => none
  | n + 1, text =>
    match skipLines false text with
    | [] => some []
    | text => do
      let (l, rest) ← line text
      let rest ← lineEnd rest
      return l :: (← lines n rest)

def sections : List Line → List (DottedKey × TomlValue) × List TomlSection
  | [] => ([], [])
  | .pair p :: ls =>
    let (ps, ss) := sections ls
    (p :: ps, ss)
  | .header k isElement :: ls =>
    let (ps, ss) := sections ls
    ([], ⟨k, isElement, ps⟩ :: ss)

/-- Reads a document; a byte order mark may stand before it. -/
def read (text : List Char) : Option Entries := do
  let text := joinBreaks (if text.head? = some '\uFEFF' then text.drop 1 else text)
  let (top, ss) := sections (← lines (text.length + 1) text)
  ss.foldlM TomlSection.addTo (← addPairs .header [] top)

end TomlReader

end MarkupQuery
