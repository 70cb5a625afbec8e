import MarkupQuery.Engine.Standard
import MarkupQuery.Proofs.Narrowing

/-! Compounds with several clauses. After a tag the clauses only sift, so what is found passes all of
them. Without a tag every clause searches again below what the one before it has left: the clauses
act like tokens of their own, `[a][b]` like `[a] [b]`, and each of them is passed by a place on the
way from a root to what is found, the last one by that itself. -/

namespace MarkupQuery

/-- The node is an element of the name, if there is one, and has for every clause the attribute with
a value that is accepted. -/
structure Compound.PassedBy (x : Compound) (n : Node) : Prop where
  tag : ∀ tag ∈ x.tag, n.isElement ∧ n.name = some tag
  clauses : ∀ clause ∈ x.clauses,
    ∃ value, n.attribute? clause.name = some value ∧ clause.test.accepts (some value)

/-- The clause as a compound of its own. -/
def AttributeClause.alone (clause : AttributeClause) : Token := .compound { clauses := [clause] }

namespace Compound

theorem passedBy_of_accepts {x : Compound} {n : Node} (h : x.accepts n) : x.PassedBy n := by
  simp only [accepts, Node.hasTag, Bool.and_eq_true, List.all_eq_true] at h
  obtain ⟨htag, hclauses⟩ := h
  constructor
  · intro tag hmem
    rw [Option.mem_def.mp hmem] at htag
    simpa using htag
  · intro clause hmem
    have haccepts := hclauses clause hmem
    cases hvalue : n.attribute? clause.name with
    | none =>
      rw [hvalue, AttributeTest.accepts_none] at haccepts
      cases haccepts
    | some value => exact ⟨value, rfl, hvalue ▸ haccepts⟩

/-- What is found passes all of a compound that has a tag, or one clause at most. -/
theorem accepts_of_mem_search {x : Compound} (hx : x.tag.isSome ∨ x.clauses.length ≤ 1)
    {ps : List Place} {q : Place} (hq : q ∈ x.search ps) : x.accepts q.node := by
  by_cases hsifts : x.tag.isSome ∨ x.clauses.length = 1
  · rw [search_eq hsifts] at hq
    exact (List.mem_filter.mp hq).2
  · -- nothing is left to pass
    obtain ⟨htag, hone⟩ := not_or.mp hsifts
    have hle : x.clauses.length ≤ 1 := hx.resolve_left htag
    have hclauses : x.clauses = [] := List.length_eq_zero_iff.mp (by omega)
    have hnone : x.tag = none := by simpa using htag
    simp [accepts, Node.hasTag, hclauses, hnone]

theorem search_untagged (clauses : List AttributeClause) (ps : List Place) :
    search { clauses } ps = Alternative.narrow (clauses.map AttributeClause.alone) ps := by
  induction clauses generalizing ps with
  | nil => rfl
  | cons clause clauses ih =>
    have hstep : search { clauses := [clause] } ps = clause.alone.narrow ps := search_eq (.inr rfl) ps
    rw [List.map_cons, Alternative.narrow, List.foldl_cons, ← hstep]
    exact ih _

end Compound

/-- Without ids a place is found where a chain leads to it from one of the first places. -/
theorem Alternative.mem_narrow_iff {ts : List Token} (hid : ∀ t ∈ ts, ¬ t.IsId) {ps : List Place}
    {q : Place} : q ∈ Alternative.narrow ts ps ↔ ∃ p ∈ ps, ∃ qs, Chain p ts qs q := by
  induction ts generalizing ps with
  | nil =>
    constructor
    · intro hq
      exact ⟨q, hq, [], .nil⟩
    · rintro ⟨p, hp, qs, hchain⟩
      cases hchain
      exact hp
  | cons t ts ih =>
    obtain ⟨ht, hts⟩ := List.forall_mem_cons.mp hid
    rw [Alternative.narrow, List.foldl_cons, Token.narrow_eq_flatMap ht]
    refine (ih hts).trans ?_
    simp only [List.mem_flatMap, Token.mem_narrow_singleton ht]
    constructor
    · rintro ⟨r, ⟨p, hp, hr⟩, qs, hchain⟩
      exact ⟨p, hp, r :: qs, .cons hr hchain⟩
    · rintro ⟨p, hp, qs, hchain⟩
      cases hchain with
      | @cons _ r _ _ _ qs hr hchain => exact ⟨r, ⟨p, hp, hr⟩, qs, hchain⟩

/-- A compound by itself always selects. With a tag, or with one clause at most, what it finds passes
all of it. Without a tag it finds what a chain of places leads to from a root, where each place lies
in the tree of the one before and passes the next clause. -/
theorem selectAlternative_compound {e : Engine} (hw : e.walker = .document) (x : Compound)
    (roots : List Place) :
    ∃ found, e.selectAlternative roots [.compound x] = .ok found ∧
      (x.tag.isSome ∨ x.clauses.length ≤ 1 → ∀ q ∈ found, x.PassedBy q.node) ∧
      (x.tag = none → ∀ q, q ∈ found ↔
        ∃ r ∈ roots, ∃ qs, Chain r (x.clauses.map AttributeClause.alone) qs q) := by
  refine ⟨x.search roots, e.scope.selectAlternative_of_compound hw x roots, ?_, ?_⟩
  · intro hx q hq
    exact Compound.passedBy_of_accepts (Compound.accepts_of_mem_search hx hq)
  · intro hx q
    obtain ⟨tag, clauses⟩ := x
    obtain rfl : tag = none := hx
    rw [Compound.search_untagged]
    apply Alternative.mem_narrow_iff
    intro t ht
    obtain ⟨clause, -, rfl⟩ := List.mem_map.mp ht
    exact id

/-- Of two nested elements the inner one passes both clauses. With its name it is found as one that
passes them all, and without a name there is a chain to it. -/
theorem selectAlternative_compound_nested :
    (Engine.withOptions {}).walker = .document ∧
      (Engine.withOptions {}).selectAlternative
        [⟨0, ((Node.tag "p").withAttribute "a" "y").withChildren [(Node.tag "i").withAttribute "a" "x"]⟩]
        [.compound { tag := some "i", clauses := [⟨"a", .present⟩, ⟨"a", .compare .equals "x"⟩] }] =
        .ok [⟨1, (Node.tag "i").withAttribute "a" "x"⟩] ∧
      Compound.PassedBy { tag := some "i", clauses := [⟨"a", .present⟩, ⟨"a", .compare .equals "x"⟩] }
        ((Node.tag "i").withAttribute "a" "x") ∧
      (Engine.withOptions {}).selectAlternative
        [⟨0, ((Node.tag "p").withAttribute "a" "y").withChildren [(Node.tag "i").withAttribute "a" "x"]⟩]
        [.compound { clauses := [⟨"a", .present⟩, ⟨"a", .compare .equals "x"⟩] }] =
        .ok [⟨1, (Node.tag "i").withAttribute "a" "x"⟩, ⟨1, (Node.tag "i").withAttribute "a" "x"⟩] ∧
      ∃ r ∈ [(⟨0, ((Node.tag "p").withAttribute "a" "y").withChildren
          [(Node.tag "i").withAttribute "a" "x"]⟩ : Place)],
        ∃ qs, Chain r [AttributeClause.alone ⟨"a", .present⟩,
          AttributeClause.alone ⟨"a", .compare .equals "x"⟩] qs
          ⟨1, (Node.tag "i").withAttribute "a" "x"⟩ := by
  have hnamed : (Engine.withOptions {}).selectAlternative
      [⟨0, ((Node.tag "p").withAttribute "a" "y").withChildren [(Node.tag "i").withAttribute "a" "x"]⟩]
      [.compound { tag := some "i", clauses := [⟨"a", .present⟩, ⟨"a", .compare .equals "x"⟩] }] =
      .ok [⟨1, (Node.tag "i").withAttribute "a" "x"⟩] := by decide +kernel
  have hunnamed : (Engine.withOptions {}).selectAlternative
      [⟨0, ((Node.tag "p").withAttribute "a" "y").withChildren [(Node.tag "i").withAttribute "a" "x"]⟩]
      [.compound { clauses := [⟨"a", .present⟩, ⟨"a", .compare .equals "x"⟩] }] =
      .ok [⟨1, (Node.tag "i").withAttribute "a" "x"⟩, ⟨1, (Node.tag "i").withAttribute "a" "x"⟩] := by
    decide +kernel
  obtain ⟨found, hfound, hpassed, -⟩ := selectAlternative_compound (e := .withOptions {}) rfl
    { tag := some "i", clauses := [⟨"a", .present⟩, ⟨"a", .compare .equals "x"⟩] }
    [⟨0, ((Node.tag "p").withAttribute "a" "y").withChildren [(Node.tag "i").withAttribute "a" "x"]⟩]
  obtain ⟨found', hfound', -, hchain⟩ := selectAlternative_compound (e := .withOptions {}) rfl
    { clauses := [⟨"a", .present⟩, ⟨"a", .compare .equals "x"⟩] }
    [⟨0, ((Node.tag "p").withAttribute "a" "y").withChildren [(Node.tag "i").withAttribute "a" "x"]⟩]
  obtain rfl := Except.ok.inj (hfound.symm.trans hnamed)
  obtain rfl := Except.ok.inj (hfound'.symm.trans hunnamed)
  exact ⟨rfl, hnamed, hpassed (.inl rfl) _ (List.mem_singleton.mpr rfl), hunnamed,
    (hchain rfl _).mp List.mem_cons_self⟩

/-- An element with the first attribute holds one with the second, and this one is found. -/
theorem selectAlternative_compound_apart :
    Alternative.parse "[a][b]" =
      .ok [.compound { clauses := [⟨"a", .present⟩, ⟨"b", .present⟩] }] ∧
      (Engine.withOptions {}).selectAlternative
        [⟨0, ((Node.tag "p").withAttribute "a" "x").withChildren
          [(Node.tag "i").withAttribute "b" "y"]⟩]
        [.compound { clauses := [⟨"a", .present⟩, ⟨"b", .present⟩] }] =
        .ok [⟨1, (Node.tag "i").withAttribute "b" "y"⟩] ∧
      ¬ Compound.PassedBy { clauses := [⟨"a", .present⟩, ⟨"b", .present⟩] }
        ((Node.tag "i").withAttribute "b" "y") := by
  refine ⟨by with_unfolding_all rfl, by decide +kernel, ?_⟩
  intro h
  obtain ⟨value, hvalue, -⟩ := h.clauses ⟨"a", .present⟩ (by simp)
  have hnone : ((Node.tag "i").withAttribute "b" "y").attribute? "a" = none := by decide
  rw [hnone] at hvalue
  cases hvalue

end MarkupQuery
