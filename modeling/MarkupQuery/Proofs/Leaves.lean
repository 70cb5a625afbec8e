import MarkupQuery.Engine.Builtin
import MarkupQuery.Proofs.Outcome

/-! What `:contains` finds. The places below a place are listed in document order, each with its
parent; the leaves among them are what the walk of the filter comes to, and of these it keeps the
ones whose text is matched. How texts are matched does not matter to the walk. -/

namespace MarkupQuery

namespace Place

mutual

/-- The places below a node at number `k`, in document order, each after its parent. -/
def linksFrom (k : Nat) : Node → List (Place × Place)
  | ⟨_, _, _, none, _⟩ => []
  | n@⟨_, _, _, some cs, _⟩ => linksFromList ⟨k, n⟩ (k + 1) cs

/-- The same for nodes with a common parent, and these nodes with them. -/
def linksFromList (parent : Place) (k : Nat) : List Node → List (Place × Place)
  | [] => []
  | n :: ns => (parent, ⟨k, n⟩) :: linksFrom k n ++ linksFromList parent (k + n.size) ns

end

def links (p : Place) : List (Place × Place) := linksFrom p.number p.node

theorem linksFromList_eq_flatMap (parent : Place) (k : Nat) (ns : List Node) :
    linksFromList parent k ns = (siblings k ns).flatMap fun q => (parent, q) :: q.links := by
  induction ns generalizing k with
  | nil => rfl
  | cons n ns ih =>
    rw [siblings_cons, linksFromList, ih]
    rfl

theorem links_eq_flatMap (p : Place) :
    p.links = p.children.flatMap fun q => (p, q) :: q.links := by
  obtain ⟨k, ⟨kind, name, attributes, _ | cs, data⟩⟩ := p
  · simp [links, linksFrom, children, siblings, Node.childList]
  · rw [links, linksFrom, linksFromList_eq_flatMap]
    rfl

mutual

theorem map_snd_linksFrom (k : Nat) : ∀ n : Node, (linksFrom k n).map Prod.snd = below ⟨k, n⟩
  | ⟨_, _, _, none, _⟩ => rfl
  | ⟨kind, name, attributes, some cs, data⟩ => by
    rw [linksFrom, map_snd_linksFromList ⟨k, ⟨kind, name, attributes, some cs, data⟩⟩ (k + 1) cs]
    rfl

theorem map_snd_linksFromList (parent : Place) (k : Nat) :
    ∀ ns : List Node, (linksFromList parent k ns).map Prod.snd = preorderList k ns
  | [] => rfl
  | n :: ns => by
    have hn : preorder k n = ⟨k, n⟩ :: below ⟨k, n⟩ := inclusive_eq ⟨k, n⟩
    rw [linksFromList, List.map_append, List.map_cons, map_snd_linksFrom k n,
      map_snd_linksFromList parent (k + n.size) ns, preorderList, hn]

end

/-- All that is below a place is listed, in order. -/
theorem map_snd_links (p : Place) : p.links.map Prod.snd = p.below := map_snd_linksFrom p.number p.node

mutual

theorem mem_children_of_mem_linksFrom {r q : Place} (k : Nat) :
    ∀ n : Node, (r, q) ∈ linksFrom k n → q ∈ r.children
  | ⟨_, _, _, none, _⟩, h => by cases h
  | ⟨kind, name, attributes, some cs, data⟩, h => by
    refine mem_children_of_mem_linksFromList (k + 1) cs (fun c hc => ?_) h
    exact hc

theorem mem_children_of_mem_linksFromList {r q parent : Place} (k : Nat) :
    ∀ ns : List Node, siblings k ns ⊆ parent.children → (r, q) ∈ linksFromList parent k ns →
      q ∈ r.children
  | [], _, h => by cases h
  | n :: ns, hsub, h => by
    rw [siblings_cons] at hsub
    obtain ⟨hn, hns⟩ := List.cons_subset.mp hsub
    rw [linksFromList] at h
    rcases List.mem_append.mp h with h | h
    · rcases List.mem_cons.mp h with heq | h
      · cases heq
        exact hn
      · exact mem_children_of_mem_linksFrom k n h
    · exact mem_children_of_mem_linksFromList (k + n.size) ns hns h

end

/-- A place stands among the children of the parent with which it is listed. -/
theorem mem_children_of_mem_links {p r q : Place} (h : (r, q) ∈ p.links) : q ∈ r.children :=
  mem_children_of_mem_linksFrom p.number p.node h

end Place

/-- Whether the node is a leaf with a text that is matched. -/
def Node.passes (n : Node) (m : Matcher) : Bool :=
  n.children.isNone && n.text?.any fun text => m text == some true

/-- The node is a leaf with a text in which the search is given up. -/
def Node.GivesUp (n : Node) (m : Matcher) : Prop :=
  n.children = none ∧ ∃ text ∈ n.text?, m text = none

/-- The leaves below a place whose text is matched, each after its parent. -/
def Place.textLeaves (p : Place) (m : Matcher) : List (Place × Place) :=
  p.links.filter fun x => x.2.node.passes m

namespace Builtin

/-- To open a place is to go through all that is below it, before anything that was left. -/
theorem openAll_eq (ps : List (Place × Place)) :
    openAll ps = (ps.flatMap fun x => x :: x.2.links).filter (·.2.node.children.isNone) := by
  fun_induction openAll ps with
  | case1 => rfl
  | case2 parent p rest cs hcs ih =>
    rw [ih, List.flatMap_append, List.flatMap_map, List.flatMap_cons, List.cons_append,
      List.filter_cons_of_neg (by simp [hcs]), p.links_eq_flatMap]
  | case3 parent p rest hnone ih =>
    have hno : p.links = [] := by
      rw [p.links_eq_flatMap, Place.children, Node.childList, hnone]
      rfl
    rw [ih, List.flatMap_cons, hno, List.cons_append, List.nil_append,
      List.filter_cons_of_pos (by simp [hnone])]

theorem leaves_eq (p : Place) : leaves p = p.links.filter (·.2.node.children.isNone) := by
  rw [leaves, openAll_eq, List.flatMap_map, p.links_eq_flatMap]

theorem mem_leaves_iff {p : Place} {x : Place × Place} :
    x ∈ leaves p ↔ x ∈ p.links ∧ x.2.node.children = none := by
  rw [leaves_eq, List.mem_filter, Option.isNone_iff_eq_none]

/-- The leaves are come to by way of their parents. -/
theorem exists_givesUp_iff {p : Place} {m : Matcher} :
    (∃ x ∈ leaves p, x.2.node.GivesUp m) ↔ ∃ q ∈ p.below, q.node.GivesUp m := by
  constructor
  · rintro ⟨x, hx, hgiven⟩
    have hbelow := List.mem_map_of_mem (f := Prod.snd) (mem_leaves_iff.mp hx).1
    rw [p.map_snd_links] at hbelow
    exact ⟨x.2, hbelow, hgiven⟩
  · rintro ⟨q, hq, hgiven⟩
    rw [← p.map_snd_links] at hq
    obtain ⟨x, hx, rfl⟩ := List.mem_map.mp hq
    exact ⟨x, mem_leaves_iff.mpr ⟨hx, hgiven.1⟩, hgiven⟩

theorem filter_leaves (p : Place) (m : Matcher) :
    (leaves p).filter (·.2.node.passes m) = p.textLeaves m := by
  rw [leaves_eq, List.filter_filter, Place.textLeaves]
  refine List.filter_congr fun x _ => ?_
  unfold Node.passes
  cases x.2.node.children.isNone <;> simp

section

variable {m : Matcher} {fail : SelectError} {semantics : FilterSemantics} {p : Place}
  {x : Place × Place}

theorem visit_eq_error_iff (hleaf : x.2.node.children = none) {err : SelectError} :
    visit m fail semantics p x = .error err ↔ err = fail ∧ x.2.node.GivesUp m := by
  unfold visit Node.GivesUp
  cases x.2.node.text? with
  | none => simp
  | some text => cases hm : m text <;> simp [hleaf, hm, eq_comm]

theorem visit_eq_ok (hleaf : x.2.node.children = none) (h : ¬ x.2.node.GivesUp m) :
    visit m fail semantics p x =
      .ok (if x.2.node.passes m then some (textPlace semantics p x.1) else none) := by
  unfold visit Node.passes
  cases htext : x.2.node.text? with
  | none => simp
  | some text =>
    cases hm : m text with
    | none => exact absurd ⟨hleaf, text, htext, hm⟩ h
    | some found => simp [hleaf, hm]

theorem eq_textPlace_of_visit {q : Place} (h : visit m fail semantics p x = .ok (some q)) :
    q = textPlace semantics p x.1 := by
  unfold visit at h
  split at h
  · cases h
  · split at h
    · cases h
    · simp only [Except.ok.injEq, Option.ite_none_right_eq_some, Option.some.injEq] at h
      exact h.2.symm

theorem filterMapM_visit_eq_ok (h : ∀ q ∈ p.below, ¬ q.node.GivesUp m) :
    (leaves p).filterMapM (visit m fail semantics p) =
      .ok ((p.textLeaves m).map fun x => textPlace semantics p x.1) := by
  have hvisit : ∀ x ∈ leaves p, visit m fail semantics p x =
      .ok (if x.2.node.passes m then some (textPlace semantics p x.1) else none) := by
    intro x hx
    refine visit_eq_ok (mem_leaves_iff.mp hx).2 fun hgiven => ?_
    obtain ⟨q, hq, hq'⟩ := exists_givesUp_iff.mp ⟨x, hx, hgiven⟩
    exact h q hq hq'
  rw [Outcome.filterMapM_of_forall_ok hvisit, ← filter_leaves, ← List.filterMap_eq_map,
    List.filterMap_filter]
  rfl

theorem exists_filterMapM_visit_eq_error_iff :
    (∃ err, (leaves p).filterMapM (visit m fail semantics p) = .error err) ↔
      ∃ q ∈ p.below, q.node.GivesUp m := by
  rw [Outcome.exists_filterMapM_eq_error_iff, ← exists_givesUp_iff]
  refine exists_congr fun x => and_congr_right fun hx => ?_
  simp only [visit_eq_error_iff (mem_leaves_iff.mp hx).2, exists_eq_left]

end

/-- The filter fails only with the text that was to be a pattern. -/
theorem containsBy_error {patterns : Patterns} {s : Scope} {c : Context} {a : Option String}
    {err : SelectError} (h : containsBy patterns s c a = .error err) : err = .pattern (a.getD "") := by
  unfold containsBy at h
  dsimp only at h
  split at h
  · cases h
    rfl
  · obtain ⟨_, p, _, -, -, hp⟩ := Outcome.mapM_eq_error_iff.mp (Outcome.map_eq_error_iff.mp h)
    obtain ⟨x, hx, herr⟩ := Outcome.filterMapM_error hp
    exact ((visit_eq_error_iff (mem_leaves_iff.mp hx).2).mp herr).1

/-- Where no search is given up, there is one place for every leaf with a text that is matched. -/
theorem containsBy_eq_ok {patterns : Patterns} {s : Scope} {c : Context} {argument : Option String}
    {m : Matcher} (hread : patterns (argument.getD "") = some m)
    (hsearch : ∀ p ∈ c.places, ∀ q ∈ p.below, ¬ q.node.GivesUp m) :
    containsBy patterns s c argument = .ok (c.places.flatMap fun p =>
      (p.textLeaves m).map fun x => textPlace s.options.filterSemantics p x.1) := by
  rw [containsBy]
  simp only [hread]
  rw [Outcome.mapM_of_forall_ok fun p hp => filterMapM_visit_eq_ok (hsearch p hp)]
  rfl

end Builtin

end MarkupQuery
