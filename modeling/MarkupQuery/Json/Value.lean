import MarkupQuery.Text.Quoted

/-! JSON values and their compact text. A number is kept as it was written, and an object keeps
its members in order, repeated names included. -/

namespace MarkupQuery

inductive JsonValue where
  | null
  | bool (value : Bool)
  | number (literal : String)
  | string (value : String)
  | array (items : List JsonValue)
  | object (members : List (String × JsonValue))

namespace JsonValue

instance : Inhabited JsonValue := ⟨.null⟩

def ofNat (n : Nat) : JsonValue := .number (toString n)

/-- One character of a string, as written between the quotes. -/
def escape (c : Char) : List Char :=
  if c = '"' ∨ c = '\\' then ['\\', c]
  else if c = '\n' then ['\\', 'n']
  else if c = '\r' then ['\\', 'r']
  else if c = '\t' then ['\\', 't']
  else if c.toNat = 8 then ['\\', 'b']
  else if c.toNat = 12 then ['\\', 'f']
  else if c.toNat < 0x20 then
    ['\\', 'u', '0', '0', Nat.digitChar (c.toNat / 16), Nat.digitChar (c.toNat % 16)]
  else [c]

def writeString (s : String) : List Char := '"' :: s.toList.flatMap escape ++ ['"']

mutual

/-- The value without a blank between its parts, in front of a text. -/
def writeBefore : JsonValue → List Char → List Char
  | .null, rest => "null".toList ++ rest
  | .bool true, rest => "true".toList ++ rest
  | .bool false, rest => "false".toList ++ rest
  | .number literal, rest => literal.toList ++ rest
  | .string s, rest => writeString s ++ rest
  | .array items, rest => '[' :: writeItems items (']' :: rest)
  | .object members, rest => '{' :: writeMembers members ('}' :: rest)

def writeItems : List JsonValue → List Char → List Char
  | [], rest => rest
  | [x], rest => x.writeBefore rest
  | x :: y :: xs, rest => x.writeBefore (',' :: writeItems (y :: xs) rest)

def writeMembers : List (String × JsonValue) → List Char → List Char
  | [], rest => rest
  | [(k, x)], rest => writeString k ++ ':' :: x.writeBefore rest
  | (k, x) :: y :: xs, rest =>
    writeString k ++ ':' :: x.writeBefore (',' :: writeMembers (y :: xs) rest)

end

def write (v : JsonValue) : List Char := v.writeBefore []

mutual

/-- How deeply arrays and objects are nested. -/
def depth : JsonValue → Nat
  | .array items => depthItems items + 1
  | .object members => depthMembers members + 1
  | _ => 0

def depthItems : List JsonValue → Nat
  | [] => 0
  | x :: xs => max x.depth (depthItems xs)

def depthMembers : List (String × JsonValue) → Nat
  | [] => 0
  | (_, x) :: xs => max x.depth (depthMembers xs)

end

/-- The value under a name; of a repeated name the first. -/
def member? (name : String) : JsonValue → Option JsonValue
  | .object members => members.lookup name
  | _ => none

end JsonValue

end MarkupQuery
