import MarkupQuery.Node.Basic

/-! Places in a forest. A node found in a forest is known by its number in document order, counted
from zero over the whole forest, so that two equal nodes in different places stay apart. -/

namespace MarkupQuery

structure Place where
  number : Nat
  node : Node
deriving DecidableEq, Inhabited

namespace Place

/-- Sibling nodes at their places, if the first has number `k`. The last one need not be measured. -/
def siblings (k : Nat) : List Node → List Place
  | [] => []
  | [n] => [⟨k, n⟩]
  | n :: m :: ns => ⟨k, n⟩ :: siblings (k + n.size) (m :: ns)

theorem siblings_cons (k : Nat) (n : Node) (ns : List Node) :
    siblings k (n :: ns) = ⟨k, n⟩ :: siblings (k + n.size) ns := by
  cases ns <;> rfl

def children (p : Place) : List Place := siblings (p.number + 1) p.node.childList

/-- The number of nodes in the trees at these places. -/
def measure (ps : List Place) : Nat := Node.sizeList (ps.map Place.node)

theorem map_node_siblings (k : Nat) (ns : List Node) : (siblings k ns).map Place.node = ns := by
  induction ns generalizing k with
  | nil => rfl
  | cons n ns ih => simp [siblings_cons, ih]

theorem map_node_children (p : Place) : p.children.map Place.node = p.node.childList :=
  map_node_siblings _ _

theorem measure_append (a b : List Place) : measure (a ++ b) = measure a + measure b := by
  simp [measure, Node.sizeList_append]

theorem measure_cons (p : Place) (ps : List Place) :
    measure (p :: ps) = measure p.children + measure ps + 1 := by
  simp only [measure, List.map_cons, Node.sizeList, Node.size_eq p.node, map_node_children]
  omega

theorem measure_filter_le (f : Place → Bool) (ps : List Place) :
    measure (ps.filter f) ≤ measure ps := by
  induction ps with
  | nil => simp
  | cons p ps ih =>
    have h := measure_cons p ps
    rw [List.filter_cons]
    split
    · rw [measure_cons]; omega
    · omega

mutual

/-- A place and all places below it, in document order. -/
def preorder (k : Nat) : Node → List Place
  | n@⟨_, _, _, none, _⟩ => [⟨k, n⟩]
  | n@⟨_, _, _, some cs, _⟩ => ⟨k, n⟩ :: preorderList (k + 1) cs

def preorderList (k : Nat) : List Node → List Place
  | [] => []
  | n :: ns => preorder k n ++ preorderList (k + n.size) ns

end

def inclusive (p : Place) : List Place := preorder p.number p.node

def below (p : Place) : List Place := preorderList (p.number + 1) p.node.childList

theorem inclusive_eq (p : Place) : p.inclusive = p :: p.below := by
  obtain ⟨k, ⟨_, _, _, _ | cs, _⟩⟩ := p <;>
    simp [inclusive, below, preorder, preorderList, Node.childList]

theorem preorderList_eq_flatMap (k : Nat) (ns : List Node) :
    preorderList k ns = (siblings k ns).flatMap inclusive := by
  induction ns generalizing k with
  | nil => rfl
  | cons n ns ih => rw [siblings_cons, preorderList, ih]; rfl

theorem below_eq_flatMap (p : Place) : p.below = p.children.flatMap inclusive :=
  preorderList_eq_flatMap _ _

end Place

/-- The roots of a forest. -/
def roots (forest : List Node) : List Place := Place.siblings 0 forest

/-- All places of a forest in document order; the place numbered `i` stands at position `i`. -/
def allPlaces (forest : List Node) : List Place := Place.preorderList 0 forest

end MarkupQuery
