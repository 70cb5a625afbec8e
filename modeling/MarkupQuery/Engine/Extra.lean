import MarkupQuery.Engine.Standard

/-! Further filters, which an engine does not have until they are registered. -/

namespace MarkupQuery

namespace Extra

def ofPlaces (f : List Place → List Place) : Filter := fun _ c _ => .ok (f c.places)

def reverse : Filter := ofPlaces List.reverse

def second : Filter := ofPlaces fun ps => (ps.drop 1).take 1

def dup : Filter := ofPlaces fun ps => ps.flatMap fun p => [p, p]

def nothing : Filter := ofPlaces fun _ => []

def children : Filter := ofPlaces fun ps => ps.flatMap Place.children

def heads : Filter := fun _ c _ => .ok (c.groups.filterMap List.head?)

/-- All places, if the argument is the number of groups. -/
def groups : Filter := fun _ c argument =>
  .ok (if argument = some (toString c.groups.length) then c.places else [])

def fail (name : String) : Filter := fun _ _ argument =>
  .error (.filter name (argument.getD "no argument"))

/-- The places in which the argument finds something. -/
def has (name : String) : Filter := fun s c argument =>
  match argument with
  | none => .error (.filter name "needs an argument")
  | some query => c.places.filterM fun p => (s.select [p] query).map fun found => !found.isEmpty

/-- What the argument, as one alternative, finds in each group. -/
def sub (name : String) : Filter := fun s c argument =>
  match Alternative.parse (argument.getD "") with
  | .error e => .error (.filter name e.display)
  | .ok x => (c.groups.mapM fun g => s.selectAlternative g x).map List.flatten

/-- What the filter named by the argument finds without an argument of its own. -/
def call (name : String) : Filter := fun s c argument =>
  match argument.bind fun a => s.filter? a none with
  | none => .error (.filter name "no such filter")
  | some run => run c

end Extra

/-- A further filter by the name of its kind, to be registered under `name`. -/
def Filter.extra? (name : String) : (kind : String) → Option Filter
  | "reverse" => some Extra.reverse
  | "second" => some Extra.second
  | "dup" => some Extra.dup
  | "none" => some Extra.nothing
  | "children" => some Extra.children
  | "heads" => some Extra.heads
  | "groups" => some Extra.groups
  | "fail" => some (Extra.fail name)
  | "has" => some (Extra.has name)
  | "sub" => some (Extra.sub name)
  | "call" => some (Extra.call name)
  | _ => none

end MarkupQuery
