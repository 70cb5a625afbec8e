import MarkupQuery.Proofs.Words
import MarkupQuery.Selector.Attribute

/-! Which values the comparisons of an attribute accept, and how the comparisons are ordered. The word
test looks for a run of characters between blanks, the dash test for the literal and at most one more
part. A front, an end and a word of a value all stand inside it. Only equality accepts an empty value;
any other value that equals the literal passes every test but that of words. -/

namespace MarkupQuery

/-- A run of characters without blanks that blanks or the ends of the text enclose. -/
def IsRun (run text : List Char) : Prop :=
  ∃ before after, text = before ++ run ++ after ∧ IsWord run ∧
    (∀ c ∈ before.getLast?, isBlank c) ∧ ∀ c ∈ after.head?, isBlank c

theorem stops_isSolid_iff {text : List Char} :
    Stops isSolid text ↔ ∀ c ∈ text.head?, isBlank c := by
  simp [Stops, isSolid]

theorem mem_wordsFrom_gap_append {g run after : List Char} (hg : IsGap g) (hrun : IsWord run)
    (hafter : Stops isSolid after) (k : Nat) :
    run ∈ (wordsFrom k (g ++ run ++ after)).map Slice.text := by
  rw [spaced_iff.mp (.word hg hrun hafter rfl (spaced_wordsFrom _ after))]
  exact List.mem_cons_self

theorem IsRun.mem_words {run text : List Char} (h : IsRun run text) : run ∈ words text := by
  obtain ⟨before, after, rfl, hrun, hbefore, hafter⟩ := h
  have hstops := stops_isSolid_iff.mpr hafter
  rcases List.eq_nil_or_concat before with rfl | ⟨front, c, rfl⟩
  · exact mem_wordsFrom_gap_append .nil hrun hstops 0
  · -- the text is cut at the blank in front of the run
    have hc : isBlank c := hbefore c (by simp)
    have hcut : Stops isSolid ([c] ++ run ++ after) := stops_cons.mpr (by simp [isSolid, hc])
    have htext : front.concat c ++ run ++ after = front ++ ([c] ++ run ++ after) := by simp
    rw [words, htext, wordsFrom_append 0 front hcut, List.map_append]
    exact List.mem_append_right _ (mem_wordsFrom_gap_append (.cons hc .nil) hrun hstops _)

theorem Spaced.isRun {k : Nat} {text : List Char} {ws : List Slice} (h : Spaced k text ws) :
    ∀ v ∈ ws, IsRun v.text text := by
  induction h with
  | gap => simp
  | @word k j g w r ws hg hw hr hj h ih =>
    refine List.forall_mem_cons.mpr ⟨⟨g, r, rfl, hw, ?_, stops_isSolid_iff.mp hr⟩, fun v hv => ?_⟩
    · intro c hc
      exact hg c (List.mem_of_getLast? hc)
    · obtain ⟨before, after, rfl, hrun, hbefore, hafter⟩ := ih v hv
      have hne : before ≠ [] := by
        rintro rfl
        rw [List.nil_append] at hr
        exact hrun.not_stops hr
      refine ⟨g ++ w ++ before, after, by simp, hrun, ?_, hafter⟩
      obtain ⟨front, c, rfl⟩ := (List.eq_nil_or_concat before).resolve_left hne
      simpa using hbefore

theorem mem_words_iff {run text : List Char} : run ∈ words text ↔ IsRun run text := by
  constructor
  · intro h
    obtain ⟨v, hv, rfl⟩ := List.mem_map.mp h
    exact (spaced_wordsFrom 0 text).isRun v hv
  · exact IsRun.mem_words

namespace Comparison

variable {literal value : List Char}

theorem accepts_equals : equals.accepts literal value ↔ value = literal := by simp [accepts]

theorem accepts_includes_iff : includes.accepts literal value ↔ IsRun literal value := by
  rw [← mem_words_iff]
  simp only [accepts, Bool.and_eq_true, bne_iff_ne, List.contains_iff_mem, and_iff_right_iff_imp]
  rintro h rfl
  cases h

theorem accepts_startsWith : startsWith.accepts literal value ↔ value ≠ [] ∧ literal <+: value := by
  simp [accepts]

theorem accepts_endsWith :
    endsWith.accepts literal value ↔ value ≠ [] ∧ literal ≠ [] ∧ literal <:+ value := by
  simp [accepts, and_assoc]

theorem accepts_contains : contains.accepts literal value ↔ value ≠ [] ∧ literal <:+: value := by
  simp [accepts, isInside_iff]

theorem accepts_dashMatch :
    dashMatch.accepts literal value ↔
      value ≠ [] ∧ (value = literal ∨ ∃ part, value = literal ++ ['-'] ++ part ∧ '-' ∉ part) := by
  have hpart : ((literal ++ ['-']) <+: value ∧ '-' ∉ value.drop (literal.length + 1)) ↔
      ∃ part, value = literal ++ ['-'] ++ part ∧ '-' ∉ part := by
    have hdrop : ∀ part, (literal ++ ['-'] ++ part).drop (literal.length + 1) = part := fun part =>
      List.drop_left' (by simp)
    constructor
    · rintro ⟨⟨part, rfl⟩, hdash⟩
      exact ⟨part, rfl, hdrop part ▸ hdash⟩
    · rintro ⟨part, rfl, hdash⟩
      exact ⟨List.prefix_append _ _, (hdrop part).symm ▸ hdash⟩
  rw [← hpart]
  simp [accepts]

/-! The order of the comparisons. -/

theorem ne_nil_of_accepts {op : Comparison} (hop : op ≠ equals) (h : op.accepts literal value) :
    value ≠ [] := by
  cases op with
  | equals => exact absurd rfl hop
  | includes =>
    obtain ⟨before, after, rfl, hrun, -⟩ := accepts_includes_iff.mp h
    simp [hrun.ne_nil]
  | startsWith => exact (accepts_startsWith.mp h).1
  | endsWith => exact (accepts_endsWith.mp h).1
  | contains => exact (accepts_contains.mp h).1
  | dashMatch => exact (accepts_dashMatch.mp h).1

theorem startsWith_of_dashMatch (h : dashMatch.accepts literal value) :
    startsWith.accepts literal value := by
  obtain ⟨hne, rfl | ⟨part, rfl, -⟩⟩ := accepts_dashMatch.mp h
  · exact accepts_startsWith.mpr ⟨hne, List.prefix_rfl⟩
  · refine accepts_startsWith.mpr ⟨hne, ?_⟩
    rw [List.append_assoc]
    exact List.prefix_append _ _

theorem contains_of_accepts {op : Comparison} (hop : op ∈ [startsWith, endsWith, includes])
    (h : op.accepts literal value) : contains.accepts literal value := by
  have hinside : literal <:+: value := by
    simp only [List.mem_cons, List.not_mem_nil, or_false] at hop
    rcases hop with rfl | rfl | rfl
    · exact (accepts_startsWith.mp h).2.isInfix
    · exact (accepts_endsWith.mp h).2.2.isInfix
    · obtain ⟨before, after, rfl, -⟩ := accepts_includes_iff.mp h
      exact ⟨before, after, rfl⟩
  have hne : op ≠ equals := by
    rintro rfl
    simp at hop
  exact accepts_contains.mpr ⟨ne_nil_of_accepts hne h, hinside⟩

theorem accepts_of_equals {op : Comparison}
    (hop : op ∈ [startsWith, endsWith, contains, dashMatch]) (hne : value ≠ [])
    (h : equals.accepts literal value) : op.accepts literal value := by
  obtain rfl := accepts_equals.mp h
  simp only [List.mem_cons, List.not_mem_nil, or_false] at hop
  rcases hop with rfl | rfl | rfl | rfl
  · exact accepts_startsWith.mpr ⟨hne, List.prefix_rfl⟩
  · exact accepts_endsWith.mpr ⟨hne, hne, List.suffix_rfl⟩
  · exact accepts_contains.mpr ⟨hne, List.infix_rfl⟩
  · exact accepts_dashMatch.mpr ⟨hne, .inl rfl⟩

end Comparison

open Comparison

/-- The values that the dash test and the word test accept, and the order of the comparisons with one
literal. Values may be absent. -/
theorem comparisons_ordered (literal : String) :
    (∀ value, (AttributeTest.compare dashMatch literal).accepts (some value) ↔
      value ≠ "" ∧ (value = literal ∨
        ∃ part, value = literal ++ "-" ++ part ∧ '-' ∉ part.toList)) ∧
    (∀ value, (AttributeTest.compare includes literal).accepts (some value) ↔
      IsRun literal.toList value.toList) ∧
    (∀ actual, (AttributeTest.compare dashMatch literal).accepts actual →
      (AttributeTest.compare startsWith literal).accepts actual) ∧
    (∀ op ∈ [startsWith, endsWith, includes], ∀ actual,
      (AttributeTest.compare op literal).accepts actual →
        (AttributeTest.compare contains literal).accepts actual) ∧
    (∀ op, op ≠ equals → ∀ actual, (AttributeTest.compare op literal).accepts actual →
      AttributeTest.present.accepts actual) ∧
    ∀ op ∈ [startsWith, endsWith, contains, dashMatch], ∀ actual, actual ≠ some "" →
      (AttributeTest.compare equals literal).accepts actual →
        (AttributeTest.compare op literal).accepts actual := by
  have hempty : ∀ value : String, value.toList ≠ [] ↔ value ≠ "" := by simp
  refine ⟨fun value => ?_, fun value => accepts_includes_iff, ?_, ?_, ?_, ?_⟩
  · rw [AttributeTest.accepts_compare_some]
    refine accepts_dashMatch.trans (and_congr (hempty value) (or_congr String.toList_inj ?_))
    constructor
    · rintro ⟨part, hvalue, hdash⟩
      refine ⟨String.ofList part, String.toList_inj.mp ?_, by simpa using hdash⟩
      simpa using hvalue
    · rintro ⟨part, rfl, hdash⟩
      exact ⟨part.toList, by simp, hdash⟩
  · rintro (_ | value) h
    · cases h
    · exact startsWith_of_dashMatch h
  · rintro op hop (_ | value) h
    · cases h
    · exact contains_of_accepts hop h
  · rintro op hop (_ | value) h
    · cases h
    · simpa using (hempty value).mp (ne_nil_of_accepts hop h)
  · rintro op hop (_ | value) hne h
    · cases h
    · exact accepts_of_equals hop ((hempty value).mpr (by simpa using hne)) h

/-- A language with one part more, and one that stands as a word between other blanks than spaces. -/
theorem comparisons_ordered_language :
    (AttributeTest.compare dashMatch "en").accepts (some "en-us") ∧
      IsRun "en".toList "de\u2003en\nfr".toList ∧
      (AttributeTest.compare startsWith "en").accepts (some "en-us") ∧
      (AttributeTest.compare contains "en").accepts (some "de\u2003en\nfr") ∧
      AttributeTest.present.accepts (some "de\u2003en\nfr") ∧
      (AttributeTest.compare dashMatch "en").accepts (some "en") := by
  obtain ⟨hdash, hword, hstarts, hcontains, hpresent, hequals⟩ := comparisons_ordered "en"
  have hpart : (AttributeTest.compare dashMatch "en").accepts (some "en-us") :=
    (hdash "en-us").mpr ⟨by decide, .inr ⟨"us", by decide, by decide⟩⟩
  have hmiddle : (AttributeTest.compare includes "en").accepts (some "de\u2003en\nfr") := by
    decide +kernel
  exact ⟨hpart, (hword _).mp hmiddle, hstarts _ hpart, hcontains includes (by decide) _ hmiddle,
    hpresent includes (by decide) _ hmiddle,
    hequals dashMatch (by decide) (some "en") (by decide) (by decide)⟩

end MarkupQuery
