import MarkupQuery.Proofs.Exclusion
import MarkupQuery.Proofs.Options

/-! The two comparisons of `:not`. Field by field a place agrees with itself and, if it has neither
attributes nor a list of children, with every place that looks like it. So the comparison by fields
leaves out what the one by identity does, and more only for the sake of such places. -/

namespace MarkupQuery

/-- The first node has neither attributes nor a list of children, and the second one has its kind and
what it has of a name and of data. -/
structure Node.Lookalike (m n : Node) : Prop where
  attributes : m.attributes = none
  children : m.children = none
  kind : n.kind = m.kind
  name : ∀ name ∈ m.name, n.name = some name
  data : ∀ data ∈ m.data, n.data = some data

namespace Builtin

theorem agrees_iff {α : Type} [DecidableEq α] {wanted actual : Option α} :
    agrees wanted actual ↔ ∀ x ∈ wanted, actual = some x := by
  cases wanted <;> simp [agrees]

variable {forest : List Node} {m n : Place}

theorem isSame_identity_iff (hm : m ∈ allPlaces forest) (hn : n ∈ allPlaces forest) :
    isSame .identity m n ↔ m = n := by
  simp only [isSame, beq_iff_eq]
  exact ⟨Place.eq_of_number_eq hm hn, congrArg Place.number⟩

theorem isSame_fieldWise_iff (hm : m ∈ allPlaces forest) (hn : n ∈ allPlaces forest) :
    isSame .fieldWise m n ↔ m = n ∨ m.node.Lookalike n.node := by
  have hnumber : m.number = n.number ↔ m = n := ⟨Place.eq_of_number_eq hm hn, congrArg Place.number⟩
  simp only [isSame, Bool.and_eq_true, Bool.or_eq_true, agrees_iff, beq_iff_eq, hnumber,
    Option.isNone_iff_eq_none]
  constructor
  · rintro ⟨⟨⟨⟨hkind, hname⟩, hdata⟩, hattributes⟩, hchildren⟩
    by_cases heq : m = n
    · exact .inl heq
    · exact .inr ⟨hattributes.resolve_right heq, hchildren.resolve_right heq, hkind.symm, hname, hdata⟩
  · rintro (rfl | h)
    · simp
    · exact ⟨⟨⟨⟨h.kind.symm, h.name⟩, h.data⟩, .inl h.attributes⟩, .inl h.children⟩

variable {excluded ps : List Place}

/-- What is excluded by identity is excluded by fields. -/
theorem remaining_fieldWise_sublist (hexcluded : ∀ m ∈ excluded, m ∈ allPlaces forest)
    (hps : ∀ p ∈ ps, p ∈ allPlaces forest) :
    (remaining .fieldWise excluded ps).Sublist (remaining .identity excluded ps) := by
  have himp : ∀ p ∈ ps, excluded.any (isSame .identity · p) → excluded.any (isSame .fieldWise · p) := by
    intro p hp hany
    obtain ⟨m, hm, hsame⟩ := List.any_eq_true.mp hany
    have heq := (isSame_identity_iff (hexcluded m hm) (hps p hp)).mp hsame
    exact List.any_eq_true.mpr
      ⟨m, hm, (isSame_fieldWise_iff (hexcluded m hm) (hps p hp)).mpr (.inl heq)⟩
  have htwice : remaining .fieldWise excluded ps =
      remaining .fieldWise excluded (remaining .identity excluded ps) := by
    rw [remaining, remaining, remaining, List.filter_filter]
    refine List.filter_congr fun p hp => ?_
    have hexcludes := himp p hp
    grind
  rw [htwice]
  exact List.filter_sublist

/-- Excluded nodes without lookalikes are told by their fields. -/
theorem remaining_fieldWise_eq (hexcluded : ∀ m ∈ excluded, m ∈ allPlaces forest)
    (hps : ∀ p ∈ ps, p ∈ allPlaces forest)
    (hfields : ∀ m ∈ excluded, m.node.attributes ≠ none ∨ m.node.children ≠ none) :
    remaining .fieldWise excluded ps = remaining .identity excluded ps := by
  refine List.filter_congr fun p hp => congrArg (!·) ?_
  rw [Bool.eq_iff_iff, List.any_eq_true, List.any_eq_true]
  refine exists_congr fun m => and_congr_right fun hm => ?_
  have hno : ¬ m.node.Lookalike p.node := by
    intro h
    rcases hfields m hm with hattributes | hchildren
    · exact hattributes h.attributes
    · exact hchildren h.children
  rw [isSame_fieldWise_iff (hexcluded m hm) (hps p hp),
    isSame_identity_iff (hexcluded m hm) (hps p hp), or_iff_left hno]

end Builtin

namespace Engine

variable {e : Engine}

/-- The engine with another comparison. -/
def comparing (e : Engine) (x : NotComparison) : Engine :=
  { e with options := { e.options with notComparison := x } }

namespace OnlyBuiltin

variable {patterns : Patterns} (he : e.OnlyBuiltin patterns) {c : Context} {a : Option String}

include he

/-- An argument without `:not` selects the same under either comparison. -/
theorem selectArgument_comparing (c : Context)
    (ha : ∀ query ∈ a, ¬ ":not".toList <:+: query.toList) (x y : NotComparison) :
    (e.comparing x).selectArgument c a = (e.comparing y).selectArgument c a := by
  cases a with
  | none => rfl
  | some query =>
    apply (he.agreeApart_comparison x y).select_eq
    rintro name rfl hmention
    exact ha query rfl hmention.2

theorem selectArgument_mem (hw : e.walker.Keeps (· ∈ allPlaces forest))
    (hc : ∀ p ∈ c.places, p ∈ allPlaces forest) {excluded : List Place}
    (h : e.selectArgument c a = .ok excluded) : ∀ m ∈ excluded, m ∈ allPlaces forest := by
  cases a with
  | none =>
    cases h
    intro m hm
    cases hm
  | some query => exact (he.keeps (Place.isRegion_allPlaces forest) hw).select hc h

end OnlyBuiltin

end Engine

/-- Two nodes of a forest are the same field by field if they are one node or the second looks like
the first. With the built-in filters and a walker that returns nodes of the forest, `:not` fails alike
under both comparisons when its argument does not use it. Otherwise the comparison by fields leaves a
sublist of what the one by identity leaves, and the same if all excluded nodes have attributes or a
list of children, so that none has lookalikes. -/
theorem run_not_fieldWise (forest : List Node) :
    (∀ m ∈ allPlaces forest, ∀ n ∈ allPlaces forest,
      Builtin.isSame .fieldWise m n ↔ m = n ∨ m.node.Lookalike n.node) ∧
    ∀ (e : Engine) (patterns : Patterns), e.OnlyBuiltin patterns → e.walker.Keeps (· ∈ allPlaces forest) →
      ∀ c : Context, (∀ p ∈ c.places, p ∈ allPlaces forest) →
      ∀ a : Option String, (∀ query ∈ a, ¬ ":not".toList <:+: query.toList) →
        (∃ err, (e.comparing .fieldWise).run Builtin.not c a = .error err ∧
          (e.comparing .identity).run Builtin.not c a = .error err) ∨
        ∃ excluded ps qs, (e.comparing .identity).selectArgument c a = .ok excluded ∧
          (e.comparing .fieldWise).run Builtin.not c a = .ok ps ∧
          (e.comparing .identity).run Builtin.not c a = .ok qs ∧
          ps.Sublist qs ∧
          ((∀ m ∈ excluded, m.node.attributes ≠ none ∨ m.node.children ≠ none) → ps = qs) := by
  refine ⟨fun m hm n hn => Builtin.isSame_fieldWise_iff hm hn, fun e _ he hw c hc a ha => ?_⟩
  rw [Engine.run_not, Engine.run_not, he.selectArgument_comparing c ha .fieldWise .identity]
  cases hselect : (e.comparing .identity).selectArgument c a with
  | error err => exact .inl ⟨err, rfl, rfl⟩
  | ok excluded =>
    have hexcluded : ∀ m ∈ excluded, m ∈ allPlaces forest :=
      Engine.OnlyBuiltin.selectArgument_mem (e := e.comparing .identity) he hw hc hselect
    have hwalked := Builtin.mem_allPlaces_of_outsideText hc
    exact .inr ⟨excluded, _, _, rfl, rfl, rfl, Builtin.remaining_fieldWise_sublist hexcluded hwalked,
      Builtin.remaining_fieldWise_eq hexcluded hwalked⟩

/-- Two line breaks without a list of attributes, the second in a span. -/
def twoBreaks : List Node :=
  [(Node.tag "div").withChildren [{ kind := .tag, name := some "br" },
    (Node.tag "span").withChildren [{ kind := .tag, name := some "br" }]]]

/-- The argument selects the second line break, of which the first one is a lookalike. -/
theorem run_not_fieldWise_breaks :
    (∀ m ∈ allPlaces twoBreaks, ∀ n ∈ allPlaces twoBreaks,
      Builtin.isSame .fieldWise m n ↔ m = n ∨ m.node.Lookalike n.node) ∧
    (Engine.withOptions {}).OnlyBuiltin Pattern.patterns ∧
    (Engine.withOptions {}).walker.Keeps (· ∈ allPlaces twoBreaks) ∧
    (∀ p ∈ (Context.ofPlaces (roots twoBreaks)).places, p ∈ allPlaces twoBreaks) ∧
    (∀ query ∈ some "span br", ¬ ":not".toList <:+: query.toList) ∧
    ∃ ps qs,
      ((Engine.withOptions {}).comparing .fieldWise).run Builtin.not
        (Context.ofPlaces (roots twoBreaks)) (some "span br") = .ok ps ∧
      ((Engine.withOptions {}).comparing .identity).run Builtin.not
        (Context.ofPlaces (roots twoBreaks)) (some "span br") = .ok qs ∧
      ps.Sublist qs ∧ ps.map Place.number = [0, 2] ∧ qs.map Place.number = [0, 1, 2] := by
  have hbuiltin := Engine.onlyBuiltin_withOptions {}
  have hwalker := Walker.document_keeps (Place.isRegion_allPlaces twoBreaks)
  have hcontext : ∀ p ∈ (Context.ofPlaces (roots twoBreaks)).places, p ∈ allPlaces twoBreaks := by
    decide +kernel
  have hquery : ∀ query ∈ some "span br", ¬ ":not".toList <:+: query.toList := by
    rintro query ⟨⟩
    decide +kernel
  have hfields : (((Engine.withOptions {}).comparing .fieldWise).run Builtin.not
      (Context.ofPlaces (roots twoBreaks)) (some "span br")).map (·.map Place.number) = .ok [0, 2] := by
    decide +kernel
  have hidentity : (((Engine.withOptions {}).comparing .identity).run Builtin.not
      (Context.ofPlaces (roots twoBreaks)) (some "span br")).map (·.map Place.number) =
        .ok [0, 1, 2] := by
    decide +kernel
  obtain ⟨hsame, hruns⟩ := run_not_fieldWise twoBreaks
  refine ⟨hsame, hbuiltin, hwalker, hcontext, hquery, ?_⟩
  obtain ⟨err, hps, -⟩ | ⟨excluded, ps, qs, -, hps, hqs, hsub, -⟩ :=
    hruns _ _ hbuiltin hwalker _ hcontext _ hquery
  · rw [hps] at hfields
    cases hfields
  · rw [hps] at hfields
    rw [hqs] at hidentity
    exact ⟨ps, qs, hps, hqs, hsub, Except.ok.inj hfields, Except.ok.inj hidentity⟩

end MarkupQuery
