import MarkupQuery.Text.Dictionary

/-! The nodes of a markup tree. A field that is absent is not the same as one that is empty: a tag
without a list of children is a leaf by nature, one with an empty list just holds nothing. -/

namespace MarkupQuery

/-- Attributes, each with its value. -/
abbrev Attributes := Dictionary String

inductive NodeKind where
  | tag | script | style | text | comment | directive | cdata | other
deriving DecidableEq, Inhabited

structure Node where
  kind : NodeKind
  name : Option String := none
  attributes : Option Attributes := none
  children : Option (List Node) := none
  data : Option String := none

namespace Node

instance : Inhabited Node := ⟨{ kind := .other }⟩

/-- A tag with no attributes set and no list of children. -/
def tag (name : String) : Node := { kind := .tag, name := some name, attributes := some {} }

def text (data : String) : Node := { kind := .text, data := some data }

def withAttribute (n : Node) (name value : String) : Node :=
  { n with attributes := some ((n.attributes.getD {}).insert name value) }

def withChildren (n : Node) (children : List Node) : Node := { n with children := some children }

/-- Scripts and styles are elements too. -/
def isElement (n : Node) : Bool := n.kind == .tag || n.kind == .script || n.kind == .style

def attribute? (n : Node) (name : String) : Option String := n.attributes.bind (·.get? name)

def childList (n : Node) : List Node := n.children.getD []

mutual

/-- The number of nodes in the tree below and including this one. -/
def size : Node → Nat
  | ⟨_, _, _, none, _⟩ => 1
  | ⟨_, _, _, some cs, _⟩ => sizeList cs + 1

def sizeList : List Node → Nat
  | [] => 0
  | n :: ns => n.size + sizeList ns

end

theorem size_eq (n : Node) : n.size = sizeList n.childList + 1 := by
  obtain ⟨_, _, _, _ | cs, _⟩ := n <;> simp [size, childList, sizeList]

theorem sizeList_append (a b : List Node) : sizeList (a ++ b) = sizeList a + sizeList b := by
  induction a with
  | nil => simp [sizeList]
  | cons n ns ih => simp [sizeList, ih, Nat.add_assoc]

mutual

def decEq : (a b : Node) → Decidable (a = b)
  | ⟨k, n, a, none, d⟩, ⟨k', n', a', none, d'⟩ =>
    if h : k = k' ∧ n = n' ∧ a = a' ∧ d = d' then isTrue (by simp [h])
    else isFalse (by simpa using h)
  | ⟨_, _, _, none, _⟩, ⟨_, _, _, some _, _⟩ => isFalse (by simp)
  | ⟨_, _, _, some _, _⟩, ⟨_, _, _, none, _⟩ => isFalse (by simp)
  | ⟨k, n, a, some cs, d⟩, ⟨k', n', a', some cs', d'⟩ =>
    if h : k = k' ∧ n = n' ∧ a = a' ∧ d = d' then
      match decEqList cs cs' with
      | isTrue hc => isTrue (by simp [h, hc])
      | isFalse hc => isFalse (by simp [hc])
    else isFalse (by simp only [mk.injEq]; intro hc; exact h ⟨hc.1, hc.2.1, hc.2.2.1, hc.2.2.2.2⟩)

def decEqList : (a b : List Node) → Decidable (a = b)
  | [], [] => isTrue rfl
  | [], _ :: _ => isFalse (by simp)
  | _ :: _, [] => isFalse (by simp)
  | n :: ns, m :: ms =>
    match decEq n m with
    | isFalse h => isFalse (by simp [h])
    | isTrue h =>
      match decEqList ns ms with
      | isTrue hs => isTrue (by simp [h, hs])
      | isFalse hs => isFalse (by simp [hs])

end

instance : DecidableEq Node := decEq

end Node

end MarkupQuery
