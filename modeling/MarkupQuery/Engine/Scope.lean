import MarkupQuery.Engine.Context
import MarkupQuery.Node.Walker
import MarkupQuery.Selector.Error
import MarkupQuery.Selector.Parse

/-! Evaluation of selectors. Tokens are applied one after the other to a context; what the filters
among them do is left to the scope in which the selector is evaluated. -/

namespace MarkupQuery

/-- How `:not` tells that a place is one of those to leave out. -/
inductive NotComparison where
  /-- It is that very place. -/
  | identity
  /-- It agrees with that place in every field that one has. Attributes and children agree only
  with themselves. -/
  | fieldWise
deriving DecidableEq, Inhabited

inductive FilterSemantics where
  | legacy
  | conventional
deriving DecidableEq, Inhabited

structure Options where
  notComparison : NotComparison := .identity
  filterSemantics : FilterSemantics := .legacy
deriving DecidableEq, Inhabited

abbrev Found := Except SelectError (List Place)

/-- Where a selector is evaluated: the options, the walker, and the filters by name, each with its
argument given. -/
structure Scope where
  options : Options
  walker : Walker
  filter? : (name : String) → (argument : Option String) → Option (Context → Found)

namespace Scope

/-- With a tag, the tag is searched for and the clauses only sift what was found; without one,
every clause searches. -/
def findCompound (s : Scope) (c : Context) (x : Compound) : Context :=
  let start := match x.tag with
    | some tag => .ofPlaces (c.groups.flatMap fun g => s.walker.findByTag tag g true)
    | none => c
  x.clauses.foldl
    (fun c clause =>
      let m := PredicateMap.single (.attribute clause.name) clause.test.accepts
      .ofPlaces (c.groups.flatMap fun g => s.walker.findMatching m g x.tag.isNone))
    start

def findId (s : Scope) (c : Context) (id : String) : Context :=
  match s.walker.findById id c.places true with
  | some p => .ofPlaces [p]
  | none => {}

def findClasses (s : Scope) (c : Context) (x : ClassList) : Context :=
  let m := PredicateMap.single (.attribute "class") (hasClasses x.classes)
  .ofPlaces <| c.groups.flatMap fun g =>
    match x.tag with
    | some tag => s.walker.findMatching m (s.walker.findByTag tag g true) false
    | none => s.walker.findMatching m g true

mutual

def applyToken (s : Scope) (c : Context) : Token → Except SelectError Context
  | .universal => .ok c
  | .compound x => .ok (s.findCompound c x)
  | .id value => .ok (s.findId c value)
  | .classes x => .ok (s.findClasses c x)
  | .filter f => applyFilter s c f
  | .unrecognized _ => .ok {}

/-- A preselector is evaluated on every group by itself; without one the filter sees all places as
one group. A filter of no known name finds nothing. -/
def applyFilter (s : Scope) (c : Context) : FilterCall → Except SelectError Context
  | ⟨preselector, name, argument, next⟩ => do
    let input ← match preselector with
      | some tokens =>
        (c.groups.mapM fun g => (applyTokens s (.single g) tokens).map Context.places).map Context.mk
      | none => .ok (.single c.places)
    let found ← match s.filter? name argument with
      | some run => run input
      | none => .ok []
    match next with
    | some f => applyFilter s (.ofPlaces found) f
    | none => .ok (.ofPlaces found)

/-- Stops as soon as nothing is left. -/
def applyTokens (s : Scope) (c : Context) : List Token → Except SelectError Context
  | [] => .ok c
  | t :: ts => do
    let c ← applyToken s c t
    if c.isEmpty then .ok {} else applyTokens s c ts

end

def selectAlternative (s : Scope) (roots : List Place) (x : Alternative) : Found :=
  (s.applyTokens (.single roots) x).map Context.places

def selectParsed (s : Scope) (roots : List Place) (x : Selector) : Found :=
  (x.mapM (s.selectAlternative roots)).map List.flatten

def select (s : Scope) (roots : List Place) (query : String) : Found :=
  match Selector.parse query with
  | .ok x => s.selectParsed roots x
  | .error e => .error (.malformed query e)

end Scope

end MarkupQuery
