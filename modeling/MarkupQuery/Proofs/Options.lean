import MarkupQuery.Proofs.Registry

/-! Which options matter to a selection. Options are looked at by filters only, the semantics by four
of the built-in ones and the comparison by `:not`. Two engines that differ in one option agree
apart from the filters that look at it, so they select the same by every text that mentions none of
these, also by way of the selectors in its arguments. -/

namespace MarkupQuery

namespace Engine

variable {e : Engine} {patterns : Patterns}

theorem OnlyBuiltin.agreeApart_semantics (he : e.OnlyBuiltin patterns) (x y : FilterSemantics) :
    { e with options := { e.options with filterSemantics := x } }.AgreeApart
      { e with options := { e.options with filterSemantics := y } }
      (· ∈ ["even", "odd", "gt", "contains"]) := by
  refine ⟨rfl, fun _ _ => rfl, ?_⟩
  intro name f hname hf
  apply Builtin.sameUnder_of_mem (he name f hf)
  · intro hmem
    exact absurd hmem hname
  · intro _
    rfl

theorem OnlyBuiltin.agreeApart_comparison (he : e.OnlyBuiltin patterns) (x y : NotComparison) :
    { e with options := { e.options with notComparison := x } }.AgreeApart
      { e with options := { e.options with notComparison := y } } (· = "not") := by
  refine ⟨rfl, fun _ _ => rfl, ?_⟩
  intro name f hname hf
  apply Builtin.sameUnder_of_mem (he name f hf)
  · intro _
    rfl
  · intro hnot
    exact absurd hnot hname

end Engine

/-- A text in which none of the four names stands after a colon selects the same under either
semantics, and one without `:not` under either comparison. -/
theorem select_of_option_unread {e : Engine} {patterns : Patterns} (he : e.OnlyBuiltin patterns)
    (query : String)
    (roots : List Place) :
    ((∀ name ∈ ["even", "odd", "gt", "contains"], ¬ ':' :: name.toList <:+: query.toList) →
      { e with options := { e.options with filterSemantics := .legacy } }.select roots query =
        { e with options := { e.options with filterSemantics := .conventional } }.select
          roots query) ∧
    (¬ ':' :: "not".toList <:+: query.toList →
      { e with options := { e.options with notComparison := .identity } }.select roots query =
        { e with options := { e.options with notComparison := .fieldWise } }.select
          roots query) := by
  constructor
  · intro habsent
    apply (he.agreeApart_semantics .legacy .conventional).select_eq
    intro name hname hmention
    exact habsent name hname hmention.2
  · intro habsent
    apply (he.agreeApart_comparison .identity .fieldWise).select_eq
    rintro name rfl hmention
    exact habsent hmention.2

/-- The names stand in the texts, but as those of elements; of the filters that are used one selects
again. -/
theorem select_of_option_unread_elements :
    (Engine.withOptions {}).OnlyBuiltin Pattern.patterns ∧
      (∀ name ∈ ["even", "odd", "gt", "contains"],
        ¬ ':' :: name.toList <:+: "even,li:not(:first gt)".toList) ∧
      (Engine.withOptions { filterSemantics := .conventional }).select
        [⟨0, (Node.tag "ul").withChildren [.tag "even", .tag "li", .tag "li"]⟩]
        "even,li:not(:first gt)" = .ok [⟨1, .tag "even"⟩, ⟨2, .tag "li"⟩, ⟨3, .tag "li"⟩] ∧
      ¬ ':' :: "not".toList <:+: "li:gt(1),not".toList ∧
      (Engine.withOptions { notComparison := .fieldWise }).select
        [⟨0, (Node.tag "ul").withChildren [.tag "not", .tag "li", .tag "li"]⟩]
        "li:gt(1),not" = .ok [⟨2, .tag "li"⟩, ⟨3, .tag "li"⟩, ⟨1, .tag "not"⟩] :=
  have hbuiltin := Engine.onlyBuiltin_withOptions {}
  have hfour : ∀ name ∈ ["even", "odd", "gt", "contains"],
      ¬ ':' :: name.toList <:+: "even,li:not(:first gt)".toList := by decide +kernel
  have hone : ¬ ':' :: "not".toList <:+: "li:gt(1),not".toList := by decide +kernel
  ⟨hbuiltin, hfour, ((select_of_option_unread hbuiltin _ _).1 hfour).symm.trans (by decide +kernel),
    hone, ((select_of_option_unread hbuiltin _ _).2 hone).symm.trans (by decide +kernel)⟩

end MarkupQuery
