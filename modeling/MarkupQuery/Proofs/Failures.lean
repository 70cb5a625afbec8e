import Mathlib.Control.Monad.Basic
import MarkupQuery.Proofs.BuiltinFilters

/-! The ways in which a selection with the built-in filters fails. No filter among them reports a
failure of its own, and only `:contains` has a pattern. A selector in an argument can use it too,
but then the text around that argument mentions it as well, so a text that does not is either
selected by or malformed. -/

namespace MarkupQuery

/-- What a selection by the text may end in: something is malformed, or a pattern is refused and the
text mentions the filter that has one. -/
inductive SelectError.ArisesFrom (text : List Char) : SelectError → Prop where
  | malformed (query : String) (error : ParseError) : ArisesFrom text (.malformed query error)
  | pattern (p : String) : Mentions text "contains" → ArisesFrom text (.pattern p)

/-- What arises from a part of a text arises from the text. -/
theorem SelectError.ArisesFrom.mono {a text : List Char} {err : SelectError}
    (h : err.ArisesFrom a) (ha : Within a text) : err.ArisesFrom text := by
  cases h with
  | malformed query error => exact .malformed query error
  | pattern p hmention => exact .pattern p (ha.mentions hmention)

/-- The induction is on the text: `:not` passes on the error of a selection by its argument, which
is shorter and stands in the text. -/
theorem Engine.OnlyBuiltin.select_arisesFrom {e : Engine} {patterns : Patterns}
    (he : e.OnlyBuiltin patterns) {roots : List Place}
    {query : String} {err : SelectError} (h : e.select roots query = .error err) :
    err.ArisesFrom query.toList := by
  induction hn : query.toList.length using Nat.strongRecOn generalizing roots query with
  | _ n ih =>
    subst hn
    obtain ⟨error, -, rfl⟩ | ⟨x, hx, u, hu, input, hrun⟩ := Scope.select_error h
    · exact .malformed query error
    have hnames := Selector.names_of_parse hx u hu
    obtain ⟨hname, rfl⟩ | ⟨-, argument, hargument, hselect⟩ := he.runFilter_error hrun
    · apply SelectError.ArisesFrom.pattern
      exact hname ▸ hnames.name
    · have hinner := ih _ (hnames.shorter argument hargument) hselect rfl
      exact hinner.mono (hnames.argument argument hargument)

/-- No filter of an engine with the built-in ones reports a failure of its own. A pattern is refused
only where the text has the name of `:contains` after a colon, so by a text without it something is
selected or malformed. -/
theorem select_fails_malformed_or_contains {e : Engine} {patterns : Patterns}
    (he : e.OnlyBuiltin patterns) (roots : List Place)
    (query : String) :
    (∀ name detail, e.select roots query ≠ .error (.filter name detail)) ∧
    (∀ p, e.select roots query = .error (.pattern p) → ":contains".toList <:+: query.toList) ∧
    (¬ ":contains".toList <:+: query.toList →
      (∃ ps, e.select roots query = .ok ps) ∨
        ∃ q error, e.select roots query = .error (.malformed q error)) := by
  have hpattern : ∀ p, e.select roots query = .error (.pattern p) →
      ":contains".toList <:+: query.toList := by
    intro p h
    cases he.select_arisesFrom h with
    | pattern _ hmention => exact hmention.2
  refine ⟨?_, hpattern, ?_⟩
  · intro name detail h
    cases he.select_arisesFrom h
  · intro habsent
    cases h : e.select roots query with
    | ok ps => exact .inl ⟨ps, rfl⟩
    | error err =>
      cases he.select_arisesFrom h with
      | malformed q error => exact .inr ⟨q, error, rfl⟩
      | pattern p hmention => exact absurd hmention.2 habsent

/-- A pattern that is refused two arguments deep, and a text without any pattern. -/
theorem select_fails_malformed_or_contains_nested :
    (Engine.withOptions {}).OnlyBuiltin Pattern.patterns ∧
      (Engine.withOptions {}).select [⟨0, .tag "p"⟩] ":not(:not(:contains(()))" =
        .error (.pattern "(") ∧
      ":contains".toList <:+: ":not(:not(:contains(()))".toList ∧
      ¬ ":contains".toList <:+: "p:not(contains:last ])".toList ∧
      ((∃ ps, (Engine.withOptions {}).select [⟨0, .tag "p"⟩] "p:not(contains:last ])" = .ok ps) ∨
        ∃ q error, (Engine.withOptions {}).select [⟨0, .tag "p"⟩] "p:not(contains:last ])" =
          .error (.malformed q error)) :=
  have hbuiltin := Engine.onlyBuiltin_withOptions {}
  have hrefused : (Engine.withOptions {}).select [⟨0, .tag "p"⟩] ":not(:not(:contains(()))" =
      .error (.pattern "(") := by decide +kernel
  have habsent : ¬ ":contains".toList <:+: "p:not(contains:last ])".toList := by decide +kernel
  ⟨hbuiltin, hrefused, (select_fails_malformed_or_contains hbuiltin _ _).2.1 _ hrefused, habsent,
    (select_fails_malformed_or_contains hbuiltin _ _).2.2 habsent⟩

end MarkupQuery
