import MarkupQuery.Json.Reader
import MarkupQuery.Node.Basic

/-! The JSON form of nodes. A node is an object with a member for each field that it has, or an
array of its fields in order. A text holds one node or a list of nodes. -/

namespace MarkupQuery

namespace NodeKind

def toText : NodeKind → String
  | .tag => "tag"
  | .script => "script"
  | .style => "style"
  | .text => "text"
  | .comment => "comment"
  | .directive => "directive"
  | .cdata => "cdata"
  | .other => "other"

/-- Any other text stands for some other kind. -/
def ofText : String → NodeKind
  | "tag" => .tag
  | "script" => .script
  | "style" => .style
  | "text" => .text
  | "comment" => .comment
  | "directive" => .directive
  | "cdata" => .cdata
  | _ => .other

theorem ofText_toText (k : NodeKind) : ofText k.toText = k := by cases k <;> rfl

/-- A kind is written as a text, or as the name of a member that is null. -/
def ofJson? : JsonValue → Option NodeKind
  | .string s => some (ofText s)
  | .object [(s, .null)] => some (ofText s)
  | _ => none

end NodeKind

namespace Node

def string? : JsonValue → Option String
  | .string s => some s
  | _ => none

/-- A field that may be left out may also be null. -/
def optional? {α : Type} (read : JsonValue → Option α) : Option JsonValue → Option (Option α)
  | none => some none
  | some .null => some none
  | some v => (read v).map some

def attributes? : JsonValue → Option Attributes
  | .object members =>
    (members.mapM fun (m : String × JsonValue) => (string? m.2).map fun s => (m.1, s)).map .ofList
  | _ => none

def fieldNames : List String := ["type", "name", "attribs", "children", "data"]

/-- Whether a field is given more than once. -/
def repeats (members : List (String × JsonValue)) : Bool :=
  fieldNames.any fun f => 1 < (members.filter fun m => m.1 == f).length

mutual

def ofJson? : JsonValue → Option Node
  | .object members => do
    if repeats members then none
    else
      let kind ← (members.lookup "type").bind NodeKind.ofJson?
      let name ← optional? string? (members.lookup "name")
      let attributes ← optional? attributes? (members.lookup "attribs")
      let children ← childrenMember? members
      let data ← optional? string? (members.lookup "data")
      return { kind, name, attributes, children, data }
  | .array (type :: rest) => do
    if 4 < rest.length then none
    else
      let kind ← NodeKind.ofJson? type
      let name ← optional? string? rest[0]?
      let attributes ← optional? attributes? rest[1]?
      let children ← childrenItem? 2 rest
      let data ← optional? string? rest[3]?
      return { kind, name, attributes, children, data }
  | _ => none

/-- The children of a node written as an object. -/
def childrenMember? : List (String × JsonValue) → Option (Option (List Node))
  | [] => some none
  | (name, v) :: rest => if name = "children" then childList? v else childrenMember? rest

/-- The children of a node written as an array, as the item at a position. -/
def childrenItem? : Nat → List JsonValue → Option (Option (List Node))
  | _, [] => some none
  | 0, v :: _ => childList? v
  | n + 1, _ :: rest => childrenItem? n rest

def childList? : JsonValue → Option (Option (List Node))
  | .null => some none
  | .array items => (ofItems? items).map some
  | _ => none

def ofItems? : List JsonValue → Option (List Node)
  | [] => some []
  | x :: xs => do return (← ofJson? x) :: (← ofItems? xs)

end

mutual

def toJson : Node → JsonValue
  | ⟨kind, name, attributes, children, data⟩ =>
    .object <|
      ("type", .string kind.toText) :: (name.toList.map fun s => ("name", .string s)) ++
        (attributes.toList.map fun a =>
          ("attribs", .object (a.entries.map fun (k, v) => (k, .string v)))) ++
        (match children with
          | none => []
          | some ns => [("children", .array (toItems ns))]) ++
        (data.toList.map fun s => ("data", .string s))

def toItems : List Node → List JsonValue
  | [] => []
  | n :: ns => n.toJson :: toItems ns

end

/-- A list of nodes, or else a single node. -/
def forest? (v : JsonValue) : Option (List Node) :=
  match v with
  | .array items =>
    match ofItems? items with
    | some ns => some ns
    | none => (ofJson? v).map fun n => [n]
  | _ => (ofJson? v).map fun n => [n]

end Node

inductive ForestError where
  | text (fault : JsonFault)
  /-- The value is neither a node nor a list of nodes. -/
  | data
deriving DecidableEq, Inhabited

/-- Reads a forest. The shape of the value is looked at before what follows it. -/
def readForest (text : String) : Except ForestError (List Node) := do
  let (v, rest) ← (JsonValue.readOne text.toList).mapError .text
  match Node.forest? v with
  | none => .error .data
  | some ns =>
    (JsonValue.endOfText rest).mapError .text
    return ns

end MarkupQuery
