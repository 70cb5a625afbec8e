import MarkupQuery.Proofs.Descent

/-! Where nothing is left, nothing is found any more. Evaluation stops at the first token that leaves
nothing; a run that applies all tokens in any case finds the same if it comes to its end. With the
built-in filters what a token leaves lies below what it was given, so from a context without places
it leads to none, or fails. Only such a failure is hidden by stopping. -/

namespace MarkupQuery

open Place

namespace Scope

/-- Applies every token, also where nothing is left. -/
def applyAll (s : Scope) (c : Context) (ts : List Token) : Except SelectError Context :=
  ts.foldlM s.applyToken c

variable {s : Scope} {c d : Context}

theorem applyAll_cons (t : Token) (ts : List Token) :
    s.applyAll c (t :: ts) = s.applyToken c t >>= fun c' => s.applyAll c' ts :=
  List.foldlM_cons

theorem Inward.applyAll (hs : s.Inward) {ts : List Token} (h : s.applyAll c ts = .ok d) :
    Under d.places c.places := by
  induction ts generalizing c with
  | nil =>
    cases h
    exact .of_subset (List.Subset.refl _)
  | cons t ts ih =>
    rw [applyAll_cons] at h
    obtain ⟨c', ht, hts⟩ := Outcome.bind_eq_ok_iff.mp h
    exact (ih hts).trans (hs.applyToken t ht)

/-- Nothing lies below nothing. -/
theorem Inward.applyAll_isEmpty (hs : s.Inward) {ts : List Token} (h : s.applyAll c ts = .ok d)
    (hc : c.isEmpty) : d.isEmpty := by
  rw [Context.isEmpty_iff] at hc ⊢
  have hunder := hs.applyAll h
  rw [hc] at hunder
  rw [List.eq_nil_iff_forall_not_mem]
  intro p hp
  obtain ⟨q, hq, -⟩ := hunder p hp
  cases hq

/-- A run to the end and a run that may stop come to the same places. -/
theorem Inward.applyTokens_of_applyAll (hs : s.Inward) {ts : List Token}
    (h : s.applyAll c ts = .ok d) : ∃ d', s.applyTokens c ts = .ok d' ∧ d'.places = d.places := by
  induction ts generalizing c with
  | nil =>
    cases h
    exact ⟨_, by rw [Scope.applyTokens], rfl⟩
  | cons t ts ih =>
    rw [applyAll_cons] at h
    obtain ⟨c', ht, hts⟩ := Outcome.bind_eq_ok_iff.mp h
    rw [Scope.applyTokens, ht, Outcome.ok_bind]
    by_cases hc' : c'.isEmpty
    · rw [if_pos hc']
      have hd := hs.applyAll_isEmpty hts hc'
      rw [Context.isEmpty_iff] at hd
      exact ⟨{}, rfl, hd.symm⟩
    · rw [if_neg hc']
      exact ih hts

/-- A run that stops has only passed over later tokens, so an error of its own is one of the whole
run. -/
theorem applyAll_error {ts : List Token} {err : SelectError} (h : s.applyTokens c ts = .error err) :
    s.applyAll c ts = .error err := by
  induction ts generalizing c with
  | nil =>
    rw [applyTokens] at h
    cases h
  | cons t ts ih =>
    rw [applyTokens] at h
    rw [applyAll_cons]
    rcases Outcome.bind_eq_error_iff.mp h with ht | ⟨c', ht, hts⟩
    · rw [ht]
      rfl
    · rw [ht]
      split at hts
      · cases hts
      · exact ih hts

end Scope

/-- An alternative, as read or made by hand, finds what its tokens come to when all of them are
applied, if they come to anything. -/
theorem selectAlternative_of_applyAll {e : Engine} {patterns : Patterns}
    (he : e.OnlyBuiltin patterns) (hw : e.walker = .document)
    (roots : List Place) (ts : List Token) :
    (∀ d, e.scope.applyAll (.single roots) ts = .ok d →
      e.selectAlternative roots ts = .ok d.places) ∧
    ∀ err, e.selectAlternative roots ts = .error err →
      e.scope.applyAll (.single roots) ts = .error err := by
  constructor
  · intro d h
    obtain ⟨d', hd', hplaces⟩ := (he.inward hw).applyTokens_of_applyAll h
    rw [Engine.selectAlternative, Scope.selectAlternative, hd', Outcome.map_ok, hplaces]
  · intro err h
    exact Scope.applyAll_error (Outcome.map_eq_error_iff.mp h)

/-- The first filter is given one group without places. In the preselector of the second stands a
filter, which no text reads as. A pattern that is not well formed fails either way. -/
theorem selectAlternative_of_applyAll_nothing :
    (Engine.withOptions {}).OnlyBuiltin Pattern.patterns ∧ (Engine.withOptions {}).walker = .document ∧
      (Engine.withOptions {}).scope.applyAll (.single [⟨0, .tag "li"⟩])
        [.filter { preselector := some [.compound { tag := some "td" }], name := "last" },
          .filter { preselector := some [.filter { name := "not", argument := some "p" }],
                    name := "even", next := some { name := "not", argument := some ":first" } }] =
        .ok {} ∧
      (Engine.withOptions {}).selectAlternative [⟨0, .tag "li"⟩]
        [.filter { preselector := some [.compound { tag := some "td" }], name := "last" },
          .filter { preselector := some [.filter { name := "not", argument := some "p" }],
                    name := "even", next := some { name := "not", argument := some ":first" } }] =
        .ok [] ∧
      (Engine.withOptions {}).selectAlternative [⟨0, .tag "li"⟩]
        [.filter { name := "contains", argument := some "(" }] = .error (.pattern "(") ∧
      (Engine.withOptions {}).scope.applyAll (.single [⟨0, .tag "li"⟩])
        [.filter { name := "contains", argument := some "(" }] = .error (.pattern "(") :=
  have hbuiltin := Engine.onlyBuiltin_withOptions {}
  have hall : (Engine.withOptions {}).scope.applyAll (.single [⟨0, .tag "li"⟩])
      [.filter { preselector := some [.compound { tag := some "td" }], name := "last" },
        .filter { preselector := some [.filter { name := "not", argument := some "p" }],
                  name := "even", next := some { name := "not", argument := some ":first" } }] =
      .ok {} := by decide +kernel
  have hfails : (Engine.withOptions {}).selectAlternative [⟨0, .tag "li"⟩]
      [.filter { name := "contains", argument := some "(" }] = .error (.pattern "(") := by
    decide +kernel
  ⟨hbuiltin, rfl, hall, (selectAlternative_of_applyAll hbuiltin rfl _ _).1 _ hall, hfails,
    (selectAlternative_of_applyAll hbuiltin rfl _ _).2 _ hfails⟩

end MarkupQuery
