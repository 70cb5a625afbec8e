import MarkupQuery.Node.Place
import MarkupQuery.Node.Predicate

/-! Searches of a forest. Every search starts with the given places themselves and, if it is a deep
one, goes on through all places below them in document order. -/

namespace MarkupQuery

/-- Visits places, each before those below it, until the visitor is done. -/
def walk {σ : Type u} (deep : Bool) (visit : σ → Place → ForInStep σ) (s : σ) : List Place → σ
  | [] => s
  | p :: ps =>
    match visit s p with
    | .done s => s
    | .yield s => walk deep visit s (if deep then p.children ++ ps else ps)
termination_by ps => Place.measure ps
decreasing_by
  have h := Place.measure_cons p ps
  split
  · rw [Place.measure_append]; omega
  · omega

/-- A way to search a forest. Searches by tag and by id are made from the one by predicates, unless
a walker has better ones. -/
structure Walker where
  findMatching : PredicateMap → (places : List Place) → (deep : Bool) → List Place
  findByTag : String → (places : List Place) → (deep : Bool) → List Place := fun name =>
    findMatching (.single .tagName (· == some name))
  findById : String → (places : List Place) → (deep : Bool) → Option Place := fun id places deep =>
    (findMatching (.single (.attribute "id") (· == some id)) places deep).head?

namespace Walker

def collectMatching (m : PredicateMap) (places : List Place) (deep : Bool) : List Place :=
  (walk deep (fun found p => .yield (if m.accepts p.node then p :: found else found)) [] places).reverse

/-- Stops at the first place with the id. -/
def firstWithId (id : String) (places : List Place) (deep : Bool) : Option Place :=
  walk deep (fun s p => if p.node.attribute? "id" = some id then .done (some p) else .yield s) none places

/-- Searches in document order. -/
def document : Walker where
  findMatching := collectMatching
  findById := firstWithId

/-- Looks at the given places only. -/
def shallow : Walker where
  findMatching := fun m places _ => collectMatching m places false

/-- Finds the same as a search in document order, last first. -/
def reversed : Walker where
  findMatching := fun m places deep => (collectMatching m places deep).reverse

end Walker

end MarkupQuery
