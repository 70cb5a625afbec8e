import MarkupQuery.Engine.Basic
import MarkupQuery.Text.Decimal

/-! The filters that every engine starts with. How a pattern is read and searched for is left open:
any function from patterns to matchers makes filters, and an engine, of its own. -/

namespace MarkupQuery

/-- Whether a text is matched, unless the search in it is given up. -/
abbrev Matcher := String → Option Bool

/-- How texts are matched by a pattern, if it is one. -/
abbrev Patterns := String → Option Matcher

def Node.text? (n : Node) : Option String := n.data.filter (· != "")

namespace Builtin

/-- Works through pairs of a place and its parent: those that may have children are opened, the
others are kept. -/
def openAll : List (Place × Place) → List (Place × Place)
  | [] => []
  | (parent, p) :: rest =>
    match p.node.children with
    | some _ => openAll (p.children.map (fun q => (p, q)) ++ rest)
    | none => (parent, p) :: openAll rest
termination_by ps => Place.measure (ps.map Prod.snd)
decreasing_by
  · have h := Place.measure_cons p (rest.map Prod.snd)
    have hid : (p.children.map fun q => (p, q)).map Prod.snd = p.children := by
      simp [Function.comp_def]
    rw [List.map_append, hid, Place.measure_append, List.map_cons, h]
    omega
  · have h := Place.measure_cons p (rest.map Prod.snd)
    rw [List.map_cons, h]
    omega

/-- The places below `p` that have no list of children, in document order, each after its parent. -/
def leaves (p : Place) : List (Place × Place) := openAll (p.children.map fun q => (p, q))

def textPlace (semantics : FilterSemantics) (p parent : Place) : Place :=
  match semantics with
  | .legacy => parent
  | .conventional => p

def visit (m : Matcher) (fail : SelectError) (semantics : FilterSemantics) (p : Place)
    (x : Place × Place) : Except SelectError (Option Place) :=
  match x.2.node.text? with
  | none => .ok none
  | some text =>
    match m text with
    | none => .error fail
    | some found => .ok (if found then some (textPlace semantics p x.1) else none)

/-- For every leaf whose text is matched, the leaf's parent, or the place from the context. -/
def containsBy (patterns : Patterns) : Filter := fun s c argument =>
  let text := argument.getD ""
  match patterns text with
  | none => .error (.pattern text)
  | some m =>
    (c.places.mapM fun p =>
      (leaves p).filterMapM (visit m (.pattern text) s.options.filterSemantics p)).map List.flatten

/-- An `h` and digits, none of them zero. -/
def isHeaderName (name : String) : Bool :=
  match name.toList with
  | 'h' :: digits => digits != [] && digits.all fun c => '1' ≤ c && c ≤ '9'
  | _ => false

def header : Filter := fun s c _ =>
  let m := PredicateMap.single .tagName fun name => name.any isHeaderName
  .ok (c.groups.flatMap fun g => s.walker.findMatching m g true)

def agrees {α : Type} [DecidableEq α] (wanted actual : Option α) : Bool :=
  wanted.all fun x => decide (actual = some x)

/-- Whether the place `p` is to be left out because of `member`. -/
def isSame (comparison : NotComparison) (member p : Place) : Bool :=
  match comparison with
  | .identity => member.number == p.number
  | .fieldWise =>
    member.node.kind == p.node.kind && agrees member.node.name p.node.name &&
      agrees member.node.data p.node.data &&
      (member.node.attributes.isNone || member.number == p.number) &&
      (member.node.children.isNone || member.number == p.number)

def hasText (n : Node) : Bool := n.data.any (· != "")

/-- The given places and all below them, less those with text, and what is below these; the given
ones stay in any case. -/
def outsideText : List Place → List Place
  | [] => []
  | p :: ps => p :: outsideText (p.children.filter (fun q => !hasText q.node) ++ ps)
termination_by ps => Place.measure ps
decreasing_by
  have h := Place.measure_cons p ps
  rw [Place.measure_append]
  have := Place.measure_filter_le (fun q => !hasText q.node) p.children
  omega

def not : Filter := fun s c argument => do
  let excluded ← match argument with
    | some query => s.select c.places query
    | none => .ok []
  return (outsideText c.places).filter fun p =>
    !excluded.any fun member => isSame s.options.notComparison member p

/-- Elements without a list of children; an empty list is one. -/
def empty : Filter := fun _ c _ =>
  .ok (c.places.filter fun p => p.node.isElement && p.node.children.isNone)

/-- A number below 2^64 in decimal digits, perhaps after a plus sign, blanks around it apart. -/
def readIndex? (text : List Char) : Option Nat :=
  let digits := match trim text with
    | '+' :: rest => rest
    | all => all
  if digits != [] && digits.all Char.isDigit then
    let n := readDecimal digits
    if n < Nat.pow 2 64 then some n else none
  else none

/-- A filter that needs an index and finds nothing without one. -/
def withIndex (f : Scope → List Place → Nat → List Place) : Filter := fun s c argument =>
  match argument.bind fun a => readIndex? a.toList with
  | some n => .ok (f s c.places n)
  | none => .ok []

def eq : Filter := withIndex fun _ ps n => (ps.drop n).take 1

/-- Neither count leaves the range of an index. -/
def gt : Filter := withIndex fun s ps n =>
  match s.options.filterSemantics with
  | .legacy => ps.drop (n - 1)
  | .conventional => ps.drop (min (n + 1) (Nat.pow 2 64 - 1))

def lt : Filter := withIndex fun _ ps n => ps.take n

mutual

def evens {α : Type u} : List α → List α
  | [] => []
  | x :: xs => x :: odds xs

def odds {α : Type u} : List α → List α
  | [] => []
  | _ :: xs => evens xs

end

/-- In the legacy semantics positions count from one. -/
def even : Filter := fun s c _ =>
  match s.options.filterSemantics with
  | .legacy => .ok (c.groups.flatMap odds)
  | .conventional => .ok (c.groups.flatMap evens)

def odd : Filter := fun s c _ =>
  match s.options.filterSemantics with
  | .legacy => .ok (c.groups.flatMap evens)
  | .conventional => .ok (c.groups.flatMap odds)

def first : Filter := fun _ c _ => .ok (c.places.take 1)

/-- The last of the last group, even if that one is empty. -/
def last : Filter := fun _ c _ => .ok ((c.groups.getLastD []).drop ((c.groups.getLastD []).length - 1))

/-- The filters in the order in which they are listed. -/
def all (patterns : Patterns) : List (String × Filter) :=
  [("contains", containsBy patterns), ("header", header), ("not", not), ("empty", empty), ("eq", eq),
    ("gt", gt), ("lt", lt), ("even", even), ("odd", odd), ("first", first), ("last", last)]

end Builtin

/-- An engine with the built-in filters that searches in document order. -/
def Engine.withPatterns (patterns : Patterns) (options : Options) : Engine :=
  { filters := .ofList (Builtin.all patterns), options }

end MarkupQuery
