import Mathlib.Control.Monad.Basic
import MarkupQuery.Proofs.ErrorSpan
import MarkupQuery.Proofs.Joining
import MarkupQuery.Proofs.Mentions

/-! Which texts are refused. All that a reader of words refuses is a first word that closes what
nothing has opened, and words are read in a part between commas and in the preselectors of its
filters. A filter has one preselector at each link of the chain that its argument makes, and no
preselector holds a further filter. -/

namespace MarkupQuery

open Grammar

/-- The first word of the text closes a bracket and opens none. -/
def StartsStray (text : List Char) : Prop :=
  ∃ gap word rest, text = gap ++ word ++ rest ∧ IsGap gap ∧ Offending word ∧ Stops isSolid rest

/-- The text has the form of a filter, and so may have its argument, the argument of that, and so
on; at one of these links the preselector starts so. -/
inductive StrayInChain : List Char → Prop where
  | preselector {text pre name : List Char} {body : Option (List Char)} :
      FilterForm text pre name body → StartsStray pre → StrayInChain text
  | argument {text pre name : List Char} {body : Option (List Char)} :
      FilterForm text pre name body → StrayInChain (argumentOf pre name body).text →
      StrayInChain text

theorem Offending.isTail {word : List Char} (h : Offending word) : isTail word := by
  refine isTail_iff.mpr ⟨?_, h.opens_not⟩
  rcases h.closes with hc | hc
  · exact ⟨_, hc, .inl rfl⟩
  · exact ⟨_, hc, .inr rfl⟩

theorem exists_pieces_eq_error_iff {text : List Char} {k : Nat} :
    (∃ e, pieces text k = .error e) ↔ StartsStray text := by
  constructor
  · rintro ⟨e, h⟩
    obtain ⟨w, ws, hws, htail, -⟩ := pieces_eq_error_iff.mp h
    cases spaced_iff.mpr hws with
    | @word _ _ g w r ws hg hw hr hj _ => exact ⟨g, w, r, rfl, hg, hw.offending htail, hr⟩
  · rintro ⟨gap, word, rest, rfl, hgap, hword, hrest⟩
    have hspaced : Spaced k (gap ++ word ++ rest) _ :=
      .word hgap hword.isWord hrest rfl (spaced_wordsFrom _ rest)
    have hws := spaced_iff.mp hspaced
    exact ⟨_, pieces_eq_error_iff.mpr ⟨_, _, hws, hword.isTail, rfl⟩⟩

theorem exists_parseAt_preselector_eq_error_iff {pre : List Char}
    (hpre : ∀ c ∈ pre, isPreselectorChar c) {k : Nat} :
    (∃ e, Alternative.parseAt pre k = .error e) ↔ StartsStray pre := by
  simp only [parseAt_of_preselector hpre, Outcome.map_eq_error_iff]
  exact exists_pieces_eq_error_iff

theorem exists_readPreselector_eq_error_iff {pre : List Char}
    (hpre : ∀ c ∈ pre, isPreselectorChar c) {k : Nat} :
    (∃ e, readPreselector pre k = .error e) ↔ StartsStray pre := by
  rw [← exists_parseAt_preselector_eq_error_iff hpre (k := k), readPreselector]
  by_cases hnil : pre = []
  · subst hnil
    simp [Alternative.parseAt, pieces, wordsFrom]
  · simp only [if_neg hnil, Outcome.map_eq_error_iff]

/-- A preselector has no filter among its tokens. -/
theorem not_filter_of_parseAt_preselector {pre : List Char} (hpre : ∀ c ∈ pre, isPreselectorChar c)
    {k : Nat} {ts : Alternative} (h : Alternative.parseAt pre k = .ok ts) {t : Token} (ht : t ∈ ts)
    (f : FilterCall) : t ≠ .filter f := by
  rintro rfl
  have huse : ⟨f.name, f.argument⟩ ∈ (Token.filter f).uses := by
    rw [Token.uses]
    exact FilterCall.mem_uses.mpr (.inr (.inl rfl))
  have hmem : ⟨f.name, f.argument⟩ ∈ Alternative.uses ts := Alternative.mem_uses.mpr ⟨_, ht, huse⟩
  rw [uses_of_parseAt_preselector hpre h] at hmem
  cases hmem

variable {text : List Char}

/-- The reader of a filter goes along the chain, the proof with it: down the lengths of the
arguments in one direction, and up the links in the other. -/
theorem exists_parse?_eq_error_iff (hb : ∀ c ∈ text, isLineBreak c = false) {k : Nat} :
    (∃ e, FilterCall.parse? text k = some (.error e)) ↔ StrayInChain text := by
  constructor
  · rintro ⟨e, h⟩
    induction hn : text.length using Nat.strongRecOn generalizing text k with
    | _ n ih =>
      subst hn
      obtain ⟨p, hp, hfail⟩ := parse?_eq_error_iff.mp h
      obtain ⟨body, hform, harg⟩ := (filterParts?_eq_some_iff_form hb).mp hp
      rcases hfail with hpre | ⟨-, hnext⟩
      · have hstray := (exists_readPreselector_eq_error_iff hform.pre_chars).mp ⟨e, hpre⟩
        exact .preselector hform hstray
      · have hlen := length_argument_lt hp
        rw [harg] at hnext hlen
        exact .argument hform (ih _ hlen (hform.argument_unbroken hb) hnext rfl)
  · intro h
    induction h generalizing k with
    | preselector hform hstray =>
      obtain ⟨e, he⟩ := (exists_readPreselector_eq_error_iff hform.pre_chars (k := k)).mpr hstray
      exact ⟨e, parse?_eq_error_iff.mpr ⟨_, hform.filterParts?_eq hb, .inl he⟩⟩
    | @argument _ pre name body hform _ ih =>
      obtain ⟨e, he⟩ := ih (hform.argument_unbroken hb)
        (k := k + (argumentOf pre name body).start)
      -- an error of the preselector comes before that of the argument
      cases hpre : readPreselector pre k with
      | error e' => exact ⟨e', parse?_eq_error_iff.mpr ⟨_, hform.filterParts?_eq hb, .inl hpre⟩⟩
      | ok x =>
        exact ⟨e, parse?_eq_error_iff.mpr ⟨_, hform.filterParts?_eq hb, .inr ⟨⟨x, hpre⟩, he⟩⟩⟩

theorem exists_parse_eq_error_iff (hb : ∀ c ∈ text, isLineBreak c = false) {k : Nat} :
    (∃ e, Token.parse text k = .error e) ↔ StrayInChain text := by
  simp only [Token.parse_eq_error_iff]
  exact exists_parse?_eq_error_iff hb

/-- A part is refused for its own first word or for one of its tokens. -/
theorem exists_parseAt_eq_error_iff {k : Nat} :
    (∃ e, Alternative.parseAt text k = .error e) ↔
      StartsStray text ∨ ∃ ps, pieces text 0 = .ok ps ∧ ∃ p ∈ ps, StrayInChain p.text := by
  have hstart : (∃ e, Alternative.parseAt text k = .error e) ↔
      ∃ e, Alternative.parseAt text 0 = .error e := by
    rw [← Nat.zero_add k, Alternative.parseAt_shift]
    cases Alternative.parseAt text 0 <;> simp
  rw [hstart, ← exists_pieces_eq_error_iff (k := 0), Alternative.parseAt]
  cases hps : pieces text 0 with
  | error e => simp
  | ok ps =>
    have htokens : (∃ p ∈ ps, ∃ e, Token.parse p.text p.span.start = .error e) ↔
        ∃ p ∈ ps, StrayInChain p.text :=
      exists_congr fun p => and_congr_right fun hp =>
        exists_parse_eq_error_iff (unbroken_piece hps hp)
    rw [Outcome.ok_bind, Outcome.exists_mapM_eq_error_iff, htokens]
    simp

/-- A text is refused exactly for a first word that closes what nothing has opened, of a part
between commas or of a preselector in the chain of one of its filters. A preselector is refused for
nothing else, as none of its tokens is a filter. -/
theorem parse_refuses_iff (text : String) :
    ((∃ e, Selector.parse text = .error e) ↔
      ∃ part ∈ text.toList.splitOn ',', StartsStray part ∨
        ∃ ps, pieces part 0 = .ok ps ∧ ∃ p ∈ ps, StrayInChain p.text) ∧
    ∀ t pre name body k, FilterForm t pre name body →
      ((∃ e, Alternative.parseAt pre k = .error e) ↔ StartsStray pre) ∧
      ∀ ts, Alternative.parseAt pre k = .ok ts → ∀ t ∈ ts, ∀ f, t ≠ .filter f := by
  constructor
  · rw [Selector.parse, Outcome.exists_mapM_eq_error_iff, ← map_text_splitCommasFrom 0, ← splitCommas]
    simp only [exists_parseAt_eq_error_iff, List.mem_map, exists_exists_and_eq_and]
  · intro t pre name body k hform
    exact ⟨exists_parseAt_preselector_eq_error_iff hform.pre_chars,
      fun ts hts t ht => not_filter_of_parseAt_preselector hform.pre_chars hts ht⟩

/-- A stray bracket two arguments deep, in a word that opens two parentheses. -/
theorem parse_refuses_iff_chained : ∃ e, Selector.parse "li,:not(a:eq(]:x))" = .error e :=
  have hstray : StartsStray [']'] :=
    ⟨[], [']'], [], rfl, .nil, ⟨by decide, List.forall_mem_singleton.mpr rfl, by decide, by decide⟩,
      stops_nil _⟩
  have hinner : FilterForm "]:x".toList [']'] ['x'] none :=
    ⟨List.all_eq_true.mp rfl, by decide, List.all_eq_true.mp rfl, by decide⟩
  have hmiddle : FilterForm "a:eq(]:x)".toList ['a'] "eq".toList (some "]:x".toList) :=
    ⟨List.all_eq_true.mp rfl, by decide, List.all_eq_true.mp rfl, by decide⟩
  have houter : FilterForm ":not(a:eq(]:x))".toList [] "not".toList (some "a:eq(]:x)".toList) :=
    ⟨List.all_eq_true.mp rfl, by decide, List.all_eq_true.mp rfl, by decide⟩
  have hchain : StrayInChain ":not(a:eq(]:x))".toList :=
    .argument houter (.argument hmiddle (.preselector hinner hstray))
  (parse_refuses_iff "li,:not(a:eq(]:x))").1.mpr ⟨":not(a:eq(]:x))".toList, by decide, .inr
    ⟨[⟨":not(a:eq(]:x))".toList, ⟨0, 15⟩⟩], by decide, _, List.mem_singleton.mpr rfl, hchain⟩⟩

end MarkupQuery
