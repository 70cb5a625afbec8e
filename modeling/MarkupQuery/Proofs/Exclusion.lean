import Mathlib.Control.Monad.Basic
import MarkupQuery.Proofs.Descent

/-! What `:not` leaves. It goes through the places of its context and what is below them in document
order, but passes over what is below them and has text, with all that is in there. What the argument
selects is then left out place by place, not with what is below it. -/

namespace MarkupQuery

namespace Place

mutual

/-- A node at number `k` and what is below it, without the trees below it whose root has text. -/
def outlineFrom (k : Nat) : Node → List Place
  | n@⟨_, _, _, none, _⟩ => [⟨k, n⟩]
  | n@⟨_, _, _, some cs, _⟩ => ⟨k, n⟩ :: outlineFromList (k + 1) cs

/-- The same for sibling nodes, of which those with text are passed over. -/
def outlineFromList (k : Nat) : List Node → List Place
  | [] => []
  | n :: ns =>
    (if Builtin.hasText n then [] else outlineFrom k n) ++ outlineFromList (k + n.size) ns

end

def outline (p : Place) : List Place := outlineFrom p.number p.node

theorem outlineFromList_eq_flatMap (k : Nat) (ns : List Node) :
    outlineFromList k ns = ((siblings k ns).filter fun q => !Builtin.hasText q.node).flatMap outline := by
  induction ns generalizing k with
  | nil => rfl
  | cons n ns ih =>
    rw [siblings_cons, outlineFromList, ih, List.filter_cons]
    cases Builtin.hasText n <;> rfl

theorem outline_eq (p : Place) :
    p.outline = p :: (p.children.filter fun q => !Builtin.hasText q.node).flatMap outline := by
  obtain ⟨k, ⟨kind, name, attributes, _ | cs, data⟩⟩ := p
  · rfl
  · rw [outline, outlineFrom, outlineFromList_eq_flatMap]
    rfl

end Place

theorem Builtin.outsideText_eq (ps : List Place) : outsideText ps = ps.flatMap Place.outline := by
  fun_induction outsideText ps with
  | case1 => rfl
  | case2 p ps ih => rw [ih, List.flatMap_append, List.flatMap_cons, p.outline_eq, List.cons_append]

theorem Builtin.mem_allPlaces_of_outsideText {forest : List Node} {ps : List Place}
    (h : ∀ p ∈ ps, p ∈ allPlaces forest) : ∀ p ∈ outsideText ps, p ∈ allPlaces forest :=
  (under_outsideText ps).in_region (Place.isRegion_allPlaces forest) h

theorem Builtin.remaining_identity (excluded ps : List Place) :
    remaining .identity excluded ps = ps.filter fun p => p.number ∉ excluded.map Place.number := by
  refine List.filter_congr fun p _ => ?_
  rw [Bool.eq_iff_iff]
  simp [isSame]

/-- `:not` fails as the selection by its argument fails. Otherwise it leaves out the places that the
argument selects, each of which its number tells; in a forest these are the members of the selection.
Without an argument that is none. -/
theorem run_not_identity {e : Engine} (he : e.options.notComparison = .identity) (c : Context)
    (a : Option String) :
    (e.run Builtin.not c a = (e.selectArgument c a).map fun excluded =>
      (c.places.flatMap Place.outline).filter fun p => p.number ∉ excluded.map Place.number) ∧
    ∀ forest, (∀ p ∈ c.places, p ∈ allPlaces forest) →
      ∀ excluded, e.selectArgument c a = .ok excluded → (∀ p ∈ excluded, p ∈ allPlaces forest) →
        e.run Builtin.not c a =
          .ok ((c.places.flatMap Place.outline).filter fun p => p ∉ excluded) := by
  have hrun : e.run Builtin.not c a = (e.selectArgument c a).map fun excluded =>
      (c.places.flatMap Place.outline).filter fun p => p.number ∉ excluded.map Place.number := by
    rw [Engine.run_not, he, ← Builtin.outsideText_eq]
    simp only [Builtin.remaining_identity]
  refine ⟨hrun, fun forest hc excluded hexcluded hforest => ?_⟩
  rw [hrun, hexcluded, Outcome.map_ok, ← Builtin.outsideText_eq]
  refine congrArg Except.ok (List.filter_congr fun p hp => ?_)
  have hp : p ∈ allPlaces forest := Builtin.mem_allPlaces_of_outsideText hc p hp
  simp only [Place.number_mem_map_iff hp hforest]

/-- A list of two items with a text between them, and a text after it. -/
def twoItems : List Node :=
  [(Node.tag "ul").withChildren [(Node.tag "li").withChildren [.tag "b"], .text "x", .tag "li"],
    .text "y"]

/-- The list, its first item and the last text. -/
def listAndItem : Context := .ofPlaces ((allPlaces twoItems).filter (·.number ∈ [0, 1, 5]))

/-- The first item is left out both times but not what is in it. The text in the list is passed over,
the one in the context is not. -/
theorem run_not_identity_items :
    (Engine.withOptions {}).options.notComparison = .identity ∧
    (∀ p ∈ listAndItem.places, p ∈ allPlaces twoItems) ∧
    (Engine.withOptions {}).selectArgument listAndItem (some "li:first") =
      .ok ((allPlaces twoItems).filter (·.number = 1)) ∧
    (∀ p ∈ (allPlaces twoItems).filter (·.number = 1), p ∈ allPlaces twoItems) ∧
    ((Engine.withOptions {}).run Builtin.not listAndItem (some "li:first")).map (·.map Place.number) =
      .ok [0, 2, 4, 2, 5] := by
  have hcontext : ∀ p ∈ listAndItem.places, p ∈ allPlaces twoItems := by decide +kernel
  have hselect : (Engine.withOptions {}).selectArgument listAndItem (some "li:first") =
      .ok ((allPlaces twoItems).filter (·.number = 1)) := by decide +kernel
  have hforest : ∀ p ∈ (allPlaces twoItems).filter (·.number = 1), p ∈ allPlaces twoItems :=
    fun p hp => (List.mem_filter.mp hp).1
  refine ⟨rfl, hcontext, hselect, hforest, ?_⟩
  rw [(run_not_identity rfl listAndItem (some "li:first")).2 twoItems hcontext _ hselect hforest]
  decide +kernel

end MarkupQuery
