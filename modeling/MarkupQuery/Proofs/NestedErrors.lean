import Mathlib.Control.Monad.Basic
import MarkupQuery.Proofs.BuiltinFilters

/-! Syntax errors that show up late. Arguments are kept as text, and `:not` reads its own only when
it runs. So a selector that can be read may still fail as malformed, but only for the text of such
an argument, and with the error of that text. -/

namespace MarkupQuery

/-- The second text is the argument of some `:not` that the first one uses, or that is used inside
such an argument. -/
inductive NotArgument : (query argument : String) → Prop where
  | own {query argument : String} {x : Selector} :
      Selector.parse query = .ok x → ⟨"not", some argument⟩ ∈ x.uses → NotArgument query argument
  | nested {query between argument : String} {x : Selector} :
      Selector.parse query = .ok x → ⟨"not", some between⟩ ∈ x.uses →
      NotArgument between argument → NotArgument query argument

/-- A selection fails as malformed by its own text or by the argument of some `:not`. The induction
is on the text, as an argument in it is shorter. -/
theorem Engine.OnlyBuiltin.select_malformed {e : Engine} {patterns : Patterns}
    (he : e.OnlyBuiltin patterns) {roots : List Place}
    {query q : String} {err : ParseError} (h : e.select roots query = .error (.malformed q err)) :
    (q = query ∨ NotArgument query q) ∧ Selector.parse q = .error err := by
  induction hn : query.toList.length using Nat.strongRecOn generalizing roots query with
  | _ n ih =>
    subst hn
    rcases Scope.select_error h with ⟨e', hparse, herr⟩ | ⟨x, hx, u, hu, input, hrun⟩
    · cases herr
      exact ⟨.inl rfl, hparse⟩
    obtain ⟨name, argument⟩ := u
    rcases he.runFilter_error hrun with ⟨-, herr⟩ | ⟨rfl, p, rfl, hselect⟩
    · cases herr
    have hshorter := (Selector.names_of_parse hx _ hu).shorter p rfl
    obtain ⟨hq, hparse⟩ := ih _ hshorter hselect rfl
    refine ⟨.inr ?_, hparse⟩
    rcases hq with rfl | hq
    · exact .own hx hu
    · exact .nested hx hu hq

/-- A selector that can be read is run as it was read, and fails as malformed only for an argument
of `:not`, with the error of that argument. -/
theorem select_malformed_only_nested {e : Engine} {patterns : Patterns}
    (he : e.OnlyBuiltin patterns) {query : String}
    {x : Selector} (hx : Selector.parse query = .ok x) (roots : List Place) :
    e.select roots query = e.selectParsed roots x ∧
      ∀ q err, e.selectParsed roots x = .error (.malformed q err) →
        NotArgument query q ∧ Selector.parse q = .error err := by
  have hrun : e.select roots query = e.selectParsed roots x := by
    rw [Engine.select, Scope.select, hx]
    rfl
  refine ⟨hrun, fun q err h => ?_⟩
  obtain ⟨rfl | hq, hparse⟩ := he.select_malformed (hrun.trans h)
  · rw [hx] at hparse
    cases hparse
  · exact ⟨hq, hparse⟩

/-- A malformed argument deep inside, which no filter has as its own. -/
theorem select_malformed_only_nested_twice :
    (Engine.withOptions {}).OnlyBuiltin Pattern.patterns ∧
      Selector.parse ":not(a:not(]) c)" =
        .ok [[.filter { name := "not", argument := some "a:not(]) c" }]] ∧
      (Engine.withOptions {}).select [⟨0, .tag "p"⟩] ":not(a:not(]) c)" =
        .error (.malformed "]" (.strayCloser ⟨0, 1⟩)) ∧
      NotArgument ":not(a:not(]) c)" "]" :=
  have hbuiltin := Engine.onlyBuiltin_withOptions {}
  have hparse : Selector.parse ":not(a:not(]) c)" =
      .ok [[.filter { name := "not", argument := some "a:not(]) c" }]] := by with_unfolding_all rfl
  have hselect : (Engine.withOptions {}).select [⟨0, .tag "p"⟩] ":not(a:not(]) c)" =
      .error (.malformed "]" (.strayCloser ⟨0, 1⟩)) := by decide +kernel
  have hboth := select_malformed_only_nested hbuiltin hparse [⟨0, .tag "p"⟩]
  ⟨hbuiltin, hparse, hselect, (hboth.2 _ _ (hboth.1.symm.trans hselect)).1⟩

/-- It does happen that a selector is read and then fails as malformed. -/
theorem select_malformed_after_parse :
    (Engine.withOptions {}).OnlyBuiltin Pattern.patterns ∧
      Selector.parse ":not(])" = .ok [[.filter { name := "not", argument := some "]" }]] ∧
      (Engine.withOptions {}).select [⟨0, .tag "p"⟩] ":not(])" =
        .error (.malformed "]" (.strayCloser ⟨0, 1⟩)) ∧
      (Engine.withOptions {}).selectParsed [⟨0, .tag "p"⟩]
        [[.filter { name := "not", argument := some "]" }]] = .error (.malformed "]" (.strayCloser ⟨0, 1⟩)) :=
  ⟨Engine.onlyBuiltin_withOptions {}, by with_unfolding_all rfl, by decide +kernel,
    by decide +kernel⟩

end MarkupQuery
