import MarkupQuery.Node.Walker

/-! Searches in document order. A search visits the places that it is given, each with all places
below it if the search is a deep one, and so it is a filter of their list. The places in a tree are
numbered one after the other. -/

namespace MarkupQuery

namespace Place

/-- The places that a search visits, in order. -/
def reached (deep : Bool) (ps : List Place) : List Place := if deep then ps.flatMap inclusive else ps

theorem reached_append (deep : Bool) (ps qs : List Place) :
    reached deep (ps ++ qs) = reached deep ps ++ reached deep qs := by
  cases deep <;> simp [reached]

mutual

theorem numbers_preorder (k : Nat) : ∀ n : Node, (preorder k n).map number = List.range' k n.size
  | ⟨_, _, _, none, _⟩ => rfl
  | ⟨_, _, _, some cs, _⟩ => by
    rw [preorder, List.map_cons, numbers_preorderList (k + 1) cs, Node.size, List.range'_succ]

theorem numbers_preorderList (k : Nat) :
    ∀ ns : List Node, (preorderList k ns).map number = List.range' k (Node.sizeList ns)
  | [] => rfl
  | n :: ns => by
    rw [preorderList, List.map_append, numbers_preorder k n, numbers_preorderList (k + n.size) ns,
      Node.sizeList, List.range'_append_1]

end

theorem nodup_inclusive (p : Place) : p.inclusive.Nodup := by
  have h : (p.inclusive.map number).Nodup := by
    rw [inclusive, numbers_preorder]
    exact List.nodup_range'
  exact List.Pairwise.of_map number (fun _ _ hne heq => hne (congrArg number heq)) h

end Place

open Place

theorem walk_reached {σ : Type u} (deep : Bool) (visit : σ → Place → ForInStep σ) (s : σ)
    (ps : List Place) : walk deep visit s ps = walk false visit s (reached deep ps) := by
  cases deep with
  | false => rfl
  | true =>
    induction hn : measure ps using Nat.strongRecOn generalizing s ps with
    | _ n ih =>
      subst hn
      cases ps with
      | nil => rw [reached, walk, if_pos rfl, List.flatMap_nil, walk]
      | cons p ps =>
        have hlt : measure (p.children ++ ps) < measure (p :: ps) := by
          rw [measure_append, measure_cons]
          omega
        have hcons : reached true (p :: ps) = p :: reached true (p.children ++ ps) := by
          simp only [reached, if_true, List.flatMap_cons, List.flatMap_append, inclusive_eq,
            below_eq_flatMap, List.cons_append]
        rw [hcons, walk, walk]
        cases visit s p with
        | done s => rfl
        | yield s => exact ih _ hlt s _ rfl

theorem walk_yield {σ : Type u} (f : σ → Place → σ) (s : σ) (ps : List Place) :
    walk false (fun s p => .yield (f s p)) s ps = ps.foldl f s := by
  induction ps generalizing s with
  | nil => rw [walk]; rfl
  | cons p ps ih =>
    rw [walk]
    exact ih _

namespace Walker

theorem collectMatching_eq (m : PredicateMap) (ps : List Place) (deep : Bool) :
    collectMatching m ps deep = (reached deep ps).filter (m.accepts ·.node) := by
  rw [collectMatching, walk_reached, walk_yield,
    ← List.foldl_filter, List.foldl_flip_cons_eq_append, List.append_nil, List.map_id',
    List.reverse_reverse]

/-- A test that fails on no value passes only nodes with attributes. -/
theorem collectMatching_attribute {test : Option String → Bool} (htest : test none = false)
    (name : String) (ps : List Place) (deep : Bool) :
    collectMatching (.single (.attribute name) test) ps deep =
      (Place.reached deep ps).filter fun p => test (p.node.attribute? name) := by
  rw [collectMatching_eq]
  congr 1
  funext p
  cases ha : p.node.attributes <;>
    simp [PredicateMap.single, PredicateMap.accepts, PredicateKey.accepts, Node.attribute?, ha, htest]

theorem firstWithId_eq (id : String) (ps : List Place) (deep : Bool) :
    firstWithId id ps deep = (reached deep ps).find? (·.node.attribute? "id" = some id) := by
  rw [firstWithId, walk_reached]
  induction reached deep ps with
  | nil => rw [walk]; rfl
  | cons p ps ih =>
    rw [walk, List.find?_cons]
    by_cases hp : p.node.attribute? "id" = some id
    · simp only [hp, if_true, decide_true]
    · simp only [hp, if_false, decide_false]
      exact ih

/-- A search group by group finds what one search of all groups finds. -/
theorem collectMatching_flatMap {α : Type u} (m : PredicateMap) (f : α → List Place) (gs : List α)
    (deep : Bool) :
    (gs.flatMap fun g => collectMatching m (f g) deep) = collectMatching m (gs.flatMap f) deep := by
  induction gs with
  | nil => simp [collectMatching_eq, reached]
  | cons g gs ih =>
    rw [List.flatMap_cons, List.flatMap_cons, ih]
    simp only [collectMatching_eq, reached_append, List.filter_append]

theorem collectMatching_flatten (m : PredicateMap) (gs : List (List Place)) (deep : Bool) :
    gs.flatMap (collectMatching m · deep) = collectMatching m gs.flatten deep := by
  rw [collectMatching_flatMap, ← List.flatMap_id']

end Walker

end MarkupQuery
