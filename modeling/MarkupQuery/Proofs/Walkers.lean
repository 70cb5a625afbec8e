import Mathlib.Control.Monad.Basic
import MarkupQuery.Engine.Standard
import MarkupQuery.Proofs.Traversal

/-! Walkers that leave the searches by tag and by id as they are made from the search by predicates.
If such a walker searches a document by predicates as the walker of documents does, it is that
walker: to stop at the first place with an id finds no other place than to search on and take the
first. -/

namespace MarkupQuery

namespace Walker

/-- The searches by tag and by id are those made from the search by predicates. -/
def KeepsDefaults (w : Walker) : Prop := w = { findMatching := w.findMatching }

theorem head?_collectMatching_id (id : String) (ps : List Place) (deep : Bool) :
    (collectMatching (.single (.attribute "id") (· == some id)) ps deep).head? =
      firstWithId id ps deep := by
  have hnone : (none == some id) = false := rfl
  rw [firstWithId_eq, collectMatching_attribute hnone, List.head?_filter]
  simp only [Bool.beq_eq_decide_eq]

theorem KeepsDefaults.eq_document {w : Walker} (hw : w.KeepsDefaults)
    (h : ∀ m ps deep, w.findMatching m ps deep = document.findMatching m ps deep) :
    w = document := by
  have hmatching : w.findMatching = collectMatching := by
    funext m ps deep
    exact h m ps deep
  rw [hw, hmatching, document]
  congr 1
  funext id ps deep
  exact head?_collectMatching_id id ps deep

end Walker

/-- Such a walker finds the same place by an id, the first in document order that has it, and an
engine selects the same with it. -/
theorem select_of_keepsDefaults {w : Walker} (hw : w.KeepsDefaults)
    (h : ∀ m ps deep, w.findMatching m ps deep = Walker.document.findMatching m ps deep) :
    (∀ id ps deep, w.findById id ps deep = Walker.document.findById id ps deep ∧
      w.findById id ps deep =
        (Place.reached deep ps).find? (·.node.attribute? "id" = some id)) ∧
    ∀ (e : Engine) (roots : List Place) (query : String),
      { e with walker := w }.select roots query =
        { e with walker := .document }.select roots query := by
  obtain rfl := hw.eq_document h
  refine ⟨fun id ps deep => ⟨rfl, ?_⟩, fun e roots query => rfl⟩
  exact Walker.firstWithId_eq id ps deep

/-- A walker that lists all places before it looks at the first. -/
def Walker.listing : Walker where
  findMatching := fun m ps deep => (Place.reached deep ps).filter (m.accepts ·.node)

/-- An id that stands twice, once in a root that is also below another root. -/
theorem select_of_keepsDefaults_listing :
    Walker.listing.KeepsDefaults ∧
      (∀ m ps deep,
        Walker.listing.findMatching m ps deep = Walker.document.findMatching m ps deep) ∧
      Walker.listing.findById "x" [⟨2, .text "a"⟩,
        ⟨0, (Node.tag "p").withChildren [(Node.tag "i").withAttribute "id" "x", .text "a"]⟩,
        ⟨1, (Node.tag "i").withAttribute "id" "x"⟩] true =
        some ⟨1, (Node.tag "i").withAttribute "id" "x"⟩ ∧
      { Engine.withOptions {} with walker := .listing }.select
        [⟨0, (Node.tag "p").withChildren [(Node.tag "i").withAttribute "id" "x", .text "a"]⟩]
        "p:not(#x)" =
        .ok [⟨0, (Node.tag "p").withChildren [(Node.tag "i").withAttribute "id" "x", .text "a"]⟩] :=
  have hkeeps : Walker.listing.KeepsDefaults := rfl
  have hsame : ∀ m ps deep,
      Walker.listing.findMatching m ps deep = Walker.document.findMatching m ps deep := by
    intro m ps deep
    exact (Walker.collectMatching_eq m ps deep).symm
  ⟨hkeeps, hsame, ((select_of_keepsDefaults hkeeps hsame).1 _ _ _).2.trans (by decide),
    ((select_of_keepsDefaults hkeeps hsame).2 _ _ _).trans (by decide +kernel)⟩

end MarkupQuery
