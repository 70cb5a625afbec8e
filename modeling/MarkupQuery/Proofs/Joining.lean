import MarkupQuery.Engine.Basic
import MarkupQuery.Proofs.Grouping
import MarkupQuery.Proofs.Reading

/-! Selectors one after the other. A text reads the same wherever it stands, apart from the places
of errors, so two selectors with a blank between them read as the tokens of both. To select by both
is to select by the second from what the first has found, unless the second begins with a filter
that looks at groups. -/

namespace MarkupQuery

open Grammar

/-! Readings move along with their text. -/

theorem readPreselector_shift {pre : List Char} (hpre : ∀ c ∈ pre, isPreselectorChar c) (k d : Nat) :
    readPreselector pre (k + d) = (readPreselector pre k).mapError (·.shift d) := by
  rw [← parsePreselector_eq hpre, ← parsePreselector_eq hpre]
  unfold FilterCall.parsePreselector
  split
  · rfl
  · rw [pieces_shift]
    cases pieces pre k with
    | error e => rfl
    | ok ps => simp [Piece.shift]

theorem parse?_shift (text : List Char) (k d : Nat) :
    FilterCall.parse? text (k + d) = (FilterCall.parse? text k).map (·.mapError (·.shift d)) := by
  induction hn : text.length using Nat.strongRecOn generalizing text k with
  | _ n ih =>
    subst hn
    rw [parse?_eq, parse?_eq]
    cases hp : filterParts? text with
    | none => rfl
    | some p =>
      obtain ⟨_, -, hpre, -⟩ := filterParts?_eq_some_iff.mp hp
      have hnext := ih _ (length_argument_lt hp) p.argument.text (k + p.argument.start) rfl
      simp only [Option.map_some, Option.some.injEq]
      rw [Nat.add_right_comm, hnext, readPreselector_shift hpre]
      cases FilterCall.parse? p.argument.text (k + p.argument.start) with
      | none => cases readPreselector p.preselector k <;> rfl
      | some next => cases readPreselector p.preselector k <;> cases next <;> rfl

theorem Token.parse_shift (text : List Char) (k d : Nat) :
    Token.parse text (k + d) = (Token.parse text k).mapError (·.shift d) := by
  unfold Token.parse
  rw [parse?_shift]
  cases FilterCall.parse? text k with
  | none => rfl
  | some call => cases call <;> rfl

/-- Only the empty text asks for nothing. -/
theorem Token.eq_nil_of_parse {text : List Char} {k : Nat}
    (h : Token.parse text k = .ok (.compound {})) : text = [] := by
  unfold Token.parse at h
  split at h
  · obtain ⟨f, -, hf⟩ := Outcome.map_eq_ok_iff.mp h
    cases hf
  · have htoken : plainToken text = .compound {} := by simpa using h
    unfold plainToken at htoken
    split at htoken
    · cases htoken
    · split at htoken
      · rename_i c hc
        cases htoken
        exact (compound?_eq_some_iff.mp hc).eq_nil
      · split at htoken
        · cases htoken
        · split at htoken <;> cases htoken

namespace Alternative

theorem parseAt_shift (text : List Char) (k d : Nat) :
    parseAt text (k + d) = (parseAt text k).mapError (·.shift d) := by
  unfold parseAt
  rw [pieces_shift]
  cases pieces text k with
  | error e => rfl
  | ok ps =>
    simp only [Outcome.map_ok, Outcome.mapError_ok, Outcome.ok_bind, List.mapM_map]
    exact Outcome.mapM_mapError fun p _ => Token.parse_shift p.text p.span.start d

/-- Texts that meet at a blank read one after the other. -/
theorem parseAt_append {a b : List Char} {k : Nat} {ts us : Alternative} (hb : Stops isSolid b)
    (ha : parseAt a k = .ok ts) (hu : parseAt b (k + byteLength a) = .ok us) :
    parseAt (a ++ b) k = .ok (ts ++ us) := by
  obtain ⟨ps, hps, hts⟩ := Outcome.bind_eq_ok_iff.mp ha
  obtain ⟨qs, hqs, hus⟩ := Outcome.bind_eq_ok_iff.mp hu
  rw [parseAt, pieces_append hb hps hqs, Outcome.ok_bind, List.mapM_append, hts, Outcome.ok_bind, hus]
  rfl

theorem parseAt_blank {c : Char} (hc : isBlank c) (text : List Char) (k : Nat) :
    parseAt (c :: text) k = parseAt text (k + c.utf8Size) := by
  simp only [parseAt, pieces, wordsFrom, hc, if_true]

/-- Two alternatives with a space between them read as one. -/
theorem parse_append_space {a b : String} {ts us : Alternative} (ha : Alternative.parse a = .ok ts)
    (hb : Alternative.parse b = .ok us) : Alternative.parse (a ++ " " ++ b) = .ok (ts ++ us) := by
  have hspace : parseAt (' ' :: b.toList) (0 + byteLength a.toList) = .ok us := by
    rw [parseAt_blank rfl, Nat.add_assoc, parseAt_shift, ← Alternative.parse, hb]
    rfl
  have htext : (a ++ " " ++ b).toList = a.toList ++ ' ' :: b.toList := by simp
  rw [Alternative.parse, htext]
  exact parseAt_append (stops_cons.mpr rfl) ha hspace

/-- No token is a compound that asks for nothing. -/
theorem empty_not_mem_parseAt {text : List Char} {k : Nat} {ts : Alternative}
    (h : parseAt text k = .ok ts) : .compound {} ∉ ts := by
  intro hmem
  obtain ⟨ps, hps, p, hp, htoken⟩ := mem_parseAt h hmem
  exact piece_ne_nil hps hp (Token.eq_nil_of_parse htoken)

end Alternative

theorem Selector.parse_of_no_comma {text : String} (h : ',' ∉ text.toList) :
    Selector.parse text = (Alternative.parse text).map fun ts => [ts] := by
  rw [Selector.parse, splitCommas, splitCommasFrom_of_not_mem h, List.mapM_cons, List.mapM_nil,
    Alternative.parse]
  cases Alternative.parseAt text.toList 0 <;> rfl

namespace Scope

variable {s : Scope}

theorem selectParsed_singleton (roots : List Place) (ts : Alternative) :
    s.selectParsed roots [ts] = s.selectAlternative roots ts := by
  rw [selectParsed, List.mapM_cons, List.mapM_nil]
  cases s.selectAlternative roots ts with
  | error e => rfl
  | ok ps => simp

theorem exists_parse_of_select {roots ps : List Place} {query : String}
    (h : s.select roots query = .ok ps) : ∃ x, Selector.parse query = .ok x := by
  unfold select at h
  cases hx : Selector.parse query with
  | error err =>
    rw [hx] at h
    cases h
  | ok x => exact ⟨x, rfl⟩

theorem select_of_parse {query : String} (h : ',' ∉ query.toList) {ts : Alternative}
    (hts : Alternative.parse query = .ok ts) (roots : List Place) :
    s.select roots query = s.selectAlternative roots ts := by
  rw [select, Selector.parse_of_no_comma h, hts, Outcome.map_ok]
  exact selectParsed_singleton roots ts

/-- To go on with further tokens is to select by them from what was found, if anything was. -/
theorem selectAlternative_append (hw : s.walker = .document) {roots ps : List Place}
    {ts us : Alternative} (h : s.selectAlternative roots ts = .ok ps) (hne : ps ≠ [])
    (hblind : us.StartsBlind) (hempty : .compound {} ∉ us) :
    s.selectAlternative roots (ts ++ us) = s.selectAlternative ps us := by
  unfold selectAlternative at h ⊢
  obtain ⟨c, hc, rfl⟩ := Outcome.map_eq_ok_iff.mp h
  have hfull : c.isEmpty = false := by
    rw [← Bool.not_eq_true, Context.isEmpty_iff]
    exact hne
  rw [applyTokens_append hc hfull]
  exact applyTokens_congr hw (Context.places_single _).symm hblind hempty

/-- Whatever the filters of the scope do, a space goes from one selector to the next. -/
theorem select_joined (hw : s.walker = .document) {a b : String} (ha : ',' ∉ a.toList)
    (hb : ',' ∉ b.toList) {y : Selector} (hy : Selector.parse b = .ok y)
    (hblind : ∀ us ∈ y, us.StartsBlind) {roots ps : List Place} (hsel : s.select roots a = .ok ps)
    (hne : ps ≠ []) : s.select roots (a ++ " " ++ b) = s.select ps b := by
  rw [Selector.parse_of_no_comma hb] at hy
  obtain ⟨us, hus, rfl⟩ := Outcome.map_eq_ok_iff.mp hy
  obtain ⟨x, hx⟩ := exists_parse_of_select hsel
  rw [Selector.parse_of_no_comma ha] at hx
  obtain ⟨ts, hts, -⟩ := Outcome.map_eq_ok_iff.mp hx
  have hab : ',' ∉ (a ++ " " ++ b).toList := by simp [ha, hb]
  rw [select_of_parse ha hts] at hsel
  rw [select_of_parse hab (Alternative.parse_append_space hts hus), select_of_parse hb hus]
  exact selectAlternative_append hw hsel hne (hblind us List.mem_cons_self)
    (Alternative.empty_not_mem_parseAt hus)

end Scope

/-- To select by two selectors with a space between them is to select by the second from what the
first has found. -/
theorem select_append_space {e : Engine} (hw : e.walker = .document) {a b : String}
    (ha : ',' ∉ a.toList) (hb : ',' ∉ b.toList) {y : Selector} (hy : Selector.parse b = .ok y)
    (hblind : ∀ us ∈ y, us.StartsBlind) {roots ps : List Place} (hsel : e.select roots a = .ok ps)
    (hne : ps ≠ []) : e.select roots (a ++ " " ++ b) = e.select ps b := by
  unfold Engine.select at hsel ⊢
  exact Scope.select_joined hw ha hb hy hblind hsel hne

/-- The inner of two elements, with a universal token on the way. -/
theorem select_append_space_nested :
    (⟨{}, {}, .document⟩ : Engine).select [⟨0, (Node.tag "div").withChildren [.tag "p"]⟩] "div" =
        .ok [⟨0, (Node.tag "div").withChildren [.tag "p"]⟩] ∧
      Selector.parse "* p" = .ok [[.universal, .compound { tag := some "p" }]] ∧
      (⟨{}, {}, .document⟩ : Engine).select [⟨0, (Node.tag "div").withChildren [.tag "p"]⟩]
        ("div" ++ " " ++ "* p") = .ok [⟨1, .tag "p"⟩] :=
  have hsel : (⟨{}, {}, .document⟩ : Engine).select
      [⟨0, (Node.tag "div").withChildren [.tag "p"]⟩] "div" =
      .ok [⟨0, (Node.tag "div").withChildren [.tag "p"]⟩] := by with_unfolding_all rfl
  have hparse : Selector.parse "* p" = .ok [[.universal, .compound { tag := some "p" }]] := by
    with_unfolding_all rfl
  ⟨hsel, hparse, (select_append_space rfl (by decide) (by decide) hparse
    (by simp [Alternative.StartsBlind, Token.SeesGroups]) hsel (by simp)).trans
    (by with_unfolding_all rfl)⟩

end MarkupQuery
