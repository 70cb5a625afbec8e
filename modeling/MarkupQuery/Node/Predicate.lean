import MarkupQuery.Node.Basic

/-! Conjunctions of tests on a node, at most one for its name and at most one for each attribute. -/

namespace MarkupQuery

inductive PredicateKey where
  /-- The name of an element. -/
  | tagName
  /-- The value of one attribute of a node that has attributes. -/
  | attribute (name : String)
deriving DecidableEq, Inhabited

structure PredicateMap where
  entries : List (PredicateKey × (Option String → Bool)) := []

namespace PredicateMap

/-- Adds a test. It takes the place of an earlier one for its key and becomes the last. -/
def insert (m : PredicateMap) (key : PredicateKey) (test : Option String → Bool) : PredicateMap :=
  ⟨m.entries.filter (fun e => decide (e.1 ≠ key)) ++ [(key, test)]⟩

def single (key : PredicateKey) (test : Option String → Bool) : PredicateMap := ⟨[(key, test)]⟩

def keys (m : PredicateMap) : List PredicateKey := m.entries.map Prod.fst

end PredicateMap

/-- Whether a node passes the test kept under a key. -/
def PredicateKey.accepts (key : PredicateKey) (test : Option String → Bool) (n : Node) : Bool :=
  match key with
  | .tagName => n.isElement && test n.name
  | .attribute name =>
    match n.attributes with
    | none => false
    | some a => test (a.get? name)

def PredicateMap.accepts (m : PredicateMap) (n : Node) : Bool :=
  m.entries.all fun (key, test) => key.accepts test n

end MarkupQuery
