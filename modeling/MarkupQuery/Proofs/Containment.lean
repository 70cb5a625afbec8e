import MarkupQuery.Engine.Standard
import MarkupQuery.Proofs.Descent
import MarkupQuery.Proofs.Leaves

/-! The two semantics of `:contains`. Under either the same leaves are come to, so the search is given
up under both or under none: when the argument is no pattern, or in the text of some leaf. Otherwise
one place is found for every leaf with a text that is matched, its parent or the place of the context
that it is below. -/

namespace MarkupQuery

/-- A search in the context is given up: the text is no pattern, or it is not searched for to the end
in some leaf. -/
inductive Context.SearchFails (patterns : Patterns) (c : Context) (text : String) : Prop where
  | unread (h : patterns text = none)
  | givenUp (m : Matcher) (hread : patterns text = some m) (p : Place) (hp : p ∈ c.places)
      (q : Place) (hq : q ∈ p.below) (h : q.node.GivesUp m)

theorem Place.map_snd_textLeaves (p : Place) (m : Matcher) :
    (p.textLeaves m).map Prod.snd = p.below.filter (·.node.passes m) := by
  rw [textLeaves, ← p.map_snd_links, List.filter_map]
  rfl

/-- A leaf is listed with the place that it is a child of, which need not be the one that it is
searched for from. -/
theorem Place.parent_of_mem_textLeaves {p : Place} {m : Matcher} {x : Place × Place}
    (hx : x ∈ p.textLeaves m) : x.1 ∈ p.inclusive ∧ x.2 ∈ x.1.children := by
  obtain ⟨hlink, hpasses⟩ := List.mem_filter.mp hx
  obtain ⟨hleaf, -⟩ := Bool.and_eq_true_iff.mp hpasses
  refine ⟨?_, mem_children_of_mem_links hlink⟩
  exact Builtin.parent_mem_inclusive
    (Builtin.mem_leaves_iff.mpr ⟨hlink, Option.isNone_iff_eq_none.mp hleaf⟩)

/-- What stands for the same leaves in either semantics, one by one. -/
theorem forall₂_textLeaves (m : Matcher) (ps : List Place) :
    List.Forall₂ (fun q p => q = p ∨ q ∈ p.below)
      (ps.flatMap fun p => (p.textLeaves m).map Prod.fst)
      (ps.flatMap fun p => (p.textLeaves m).map fun _ => p) := by
  induction ps with
  | nil => exact .nil
  | cons p ps ih =>
    rw [List.flatMap_cons, List.flatMap_cons]
    refine List.rel_append ?_ ih
    rw [List.forall₂_map_left_iff, List.forall₂_map_right_iff, List.forall₂_same]
    intro x hx
    have hparent := (Place.parent_of_mem_textLeaves hx).1
    rwa [Place.inclusive_eq, List.mem_cons] at hparent

namespace Builtin

variable {patterns : Patterns} {s : Scope} {c : Context} {a : Option String}

theorem exists_containsBy_eq_error_iff :
    (∃ err, containsBy patterns s c a = .error err) ↔ c.SearchFails patterns (a.getD "") := by
  unfold containsBy
  dsimp only
  cases hread : patterns (a.getD "") with
  | none => exact ⟨fun _ => .unread hread, fun _ => ⟨_, rfl⟩⟩
  | some m =>
    simp only [Outcome.map_eq_error_iff, Outcome.exists_mapM_eq_error_iff,
      exists_filterMapM_visit_eq_error_iff]
    constructor
    · rintro ⟨p, hp, q, hq, hgiven⟩
      exact .givenUp m hread p hp q hq hgiven
    · rintro (hunread | ⟨m', hread', p, hp, q, hq, hgiven⟩)
      · cases hread.symm.trans hunread
      · cases hread.symm.trans hread'
        exact ⟨p, hp, q, hq, hgiven⟩

theorem containsBy_eq_error_iff {err : SelectError} :
    containsBy patterns s c a = .error err ↔
      err = .pattern (a.getD "") ∧ c.SearchFails patterns (a.getD "") := by
  constructor
  · intro h
    exact ⟨containsBy_error h, exists_containsBy_eq_error_iff.mp ⟨err, h⟩⟩
  · rintro ⟨rfl, hfails⟩
    obtain ⟨err, h⟩ := exists_containsBy_eq_error_iff.mpr hfails
    rw [h, containsBy_error h]

end Builtin

/-- Whatever the patterns are, `:contains` fails under both semantics or under none. If it does not, a
legacy search finds the parents of the leaves with a text that is matched, and a conventional one, just
as often, the place that they are below. An engine with these patterns has this filter. -/
theorem run_contains_semantics (patterns : Patterns) (e : Engine) (c : Context) (a : Option String) :
    (∀ x err, (e.withSemantics x).run (Builtin.containsBy patterns) c a = .error err ↔
      err = .pattern (a.getD "") ∧ c.SearchFails patterns (a.getD "")) ∧
    (¬ c.SearchFails patterns (a.getD "") → ∃ m legacy conventional,
      patterns (a.getD "") = some m ∧
      (e.withSemantics .legacy).run (Builtin.containsBy patterns) c a = .ok legacy ∧
      (e.withSemantics .conventional).run (Builtin.containsBy patterns) c a = .ok conventional ∧
      legacy = c.places.flatMap (fun p => (p.textLeaves m).map Prod.fst) ∧
      conventional = c.places.flatMap (fun p =>
        List.replicate (p.below.filter (·.node.passes m)).length p) ∧
      legacy.length = conventional.length ∧
      List.Forall₂ (fun q p => q = p ∨ q ∈ p.below) legacy conventional) ∧
    (∀ (m : Matcher) (p : Place), (p.textLeaves m).map Prod.snd = p.below.filter (·.node.passes m) ∧
      ∀ x ∈ p.textLeaves m, x.1 ∈ p.inclusive ∧ x.2 ∈ x.1.children) ∧
    ∀ o, (Engine.withPatterns patterns o).filters.get? "contains" =
      some (Builtin.containsBy patterns) := by
  refine ⟨fun x err => Builtin.containsBy_eq_error_iff, ?_, ?_,
    fun o => Engine.get?_filters_withPatterns patterns o "contains"⟩
  · intro hsearch
    cases hread : patterns (a.getD "") with
    | none => exact absurd (.unread hread) hsearch
    | some m =>
      have hfound : ∀ x, (e.withSemantics x).run (Builtin.containsBy patterns) c a =
          .ok (c.places.flatMap fun p =>
            (p.textLeaves m).map fun y => Builtin.textPlace x p y.1) := fun x =>
        Builtin.containsBy_eq_ok hread fun p hp q hq hgiven =>
          hsearch (.givenUp m hread p hp q hq hgiven)
      have hpairs := forall₂_textLeaves m c.places
      refine ⟨m, _, _, rfl, hfound .legacy, hfound .conventional, rfl, ?_, hpairs.length_eq, hpairs⟩
      simp only [← Place.map_snd_textLeaves, List.length_map, ← List.map_const']
      rfl
  · intro m p
    exact ⟨p.map_snd_textLeaves m, fun x hx => Place.parent_of_mem_textLeaves hx⟩

/-- An element with two texts, one of them without any data in it. -/
def innerText : Node :=
  (Node.tag "i").withChildren [.text "", .text "bb", (Node.tag "b").withChildren []]

/-- The element below another one with text, and on its own as well. -/
def overlapping : Context :=
  ⟨[[⟨0, (Node.tag "p").withChildren [.text "ab", innerText]⟩], [⟨2, innerText⟩]]⟩

/-- The inner text is found from both places. What is no pattern fails, and so does a search that is
given up after a leaf was found. -/
theorem run_contains_semantics_overlapping :
    let outer : Place := ⟨0, (Node.tag "p").withChildren [.text "ab", innerText]⟩
    let inner : Place := ⟨2, innerText⟩
    let contains := Builtin.containsBy Pattern.patterns
    let abandoned : Patterns := fun _ => some fun text => if text = "bb" then none else some true
    ¬ overlapping.SearchFails Pattern.patterns "b+" ∧
      ((Engine.withOptions {}).withSemantics .legacy).run contains overlapping (some "b+") =
        .ok [outer, inner, inner] ∧
      ((Engine.withOptions {}).withSemantics .conventional).run contains overlapping (some "b+") =
        .ok [outer, outer, inner] ∧
      List.Forall₂ (fun q p => q = p ∨ q ∈ p.below) [outer, inner, inner] [outer, outer, inner] ∧
      (∀ x, ((Engine.withOptions {}).withSemantics x).run contains overlapping (some "(") =
        .error (.pattern "(")) ∧
      ∀ x, ((Engine.withOptions {}).withSemantics x).run (Builtin.containsBy abandoned) overlapping
        none = .error (.pattern "") := by
  intro outer inner contains abandoned
  have hlegacy : ((Engine.withOptions {}).withSemantics .legacy).run contains overlapping
      (some "b+") = .ok [outer, inner, inner] := by decide +kernel
  have hconventional : ((Engine.withOptions {}).withSemantics .conventional).run contains overlapping
      (some "b+") = .ok [outer, outer, inner] := by decide +kernel
  obtain ⟨herror, hok, -⟩ :=
    run_contains_semantics Pattern.patterns (Engine.withOptions {}) overlapping (some "b+")
  have hsearch : ¬ overlapping.SearchFails Pattern.patterns "b+" := fun hfails => by
    cases hlegacy.symm.trans ((herror .legacy _).mpr ⟨rfl, hfails⟩)
  obtain ⟨m, _, _, -, hlegacy', hconventional', -, -, -, hpairs⟩ := hok hsearch
  cases hlegacy.symm.trans hlegacy'
  cases hconventional.symm.trans hconventional'
  refine ⟨hsearch, hlegacy, hconventional, hpairs, fun x => ?_, fun x => ?_⟩
  · refine ((run_contains_semantics Pattern.patterns _ overlapping (some "(")).1 x _).mpr ⟨rfl, ?_⟩
    exact .unread (by with_unfolding_all rfl)
  · refine ((run_contains_semantics abandoned _ overlapping none).1 x _).mpr ⟨rfl, ?_⟩
    refine .givenUp _ rfl outer ?_ ⟨4, .text "bb"⟩ ?_ ?_
    · decide
    · decide
    · exact ⟨rfl, "bb", rfl, rfl⟩

end MarkupQuery
