import MarkupQuery.Engine.Standard
import MarkupQuery.Proofs.Enclosed
import MarkupQuery.Proofs.Joining
import MarkupQuery.Proofs.Leaves
import MarkupQuery.Proofs.Narrowing
import MarkupQuery.Proofs.Preselectors

/-! The search for a text below the elements of a name. A pattern without blanks and commas comes
through the reader as it is, brackets and all. Only if it has the form of a filter is it one as well,
and then that filter runs on what the search has found. -/

namespace MarkupQuery

open Grammar

/-- A text that an argument holds as it is: no blank or comma cuts it, and no quote at its ends is
taken off. -/
structure IsBare (text : List Char) : Prop where
  ne_nil : text ≠ []
  solid : ∀ c ∈ text, isBlank c = false
  no_comma : ',' ∉ text
  first : ∀ c ∈ text.head?, isQuote c = false
  last : ∀ c ∈ text.getLast?, isQuote c = false

/-- Asks for the parents of the texts below elements of a name that a pattern occurs in. -/
def textQuery (tag pattern : String) : String := tag ++ ":contains(" ++ pattern ++ ")"

/-- For every element of that name, and every leaf below it whose text is matched, the leaf's
parent. -/
def textParents (tag : String) (m : Matcher) (roots : List Place) : List Place :=
  ((roots.flatMap Place.inclusive).filter (·.node.hasTag (some tag))).flatMap fun p =>
    (p.textLeaves m).map Prod.fst

/-! The argument comes back as it is. -/

theorem Grammar.dropLastQuote_eq_self {text : List Char} (h : ∀ c ∈ text.getLast?, isQuote c = false) :
    dropLastQuote text = text := by
  fun_induction dropLastQuote text with
  | case1 => rfl
  | case2 c hc => simp [hc] at h
  | case3 => rfl
  | case4 c d cs ih => rw [ih (by simpa [List.getLast?_cons_cons] using h)]

theorem IsBare.dropQuote_eq {text : List Char} (h : IsBare text) : dropQuote text = text :=
  dropOne_eq_self h.first

theorem IsBare.argumentOf_eq {text : List Char} (h : IsBare text) (pre name : List Char) :
    argumentOf pre name (some text) = ⟨byteLength pre + byteLength name + 2, text⟩ := by
  rw [argumentOf, unquoted, h.dropQuote_eq, dropLastQuote_eq_self h.last, Nat.sub_self, Nat.add_zero]

/-- The filter that such a query is read as, and the one that runs after it, if any. -/
def textCall (tag pattern : String) (next : Option FilterCall) : FilterCall :=
  { preselector := some [.compound { tag := some tag }], name := "contains", argument := some pattern, next }

section
variable {tag pattern : String} (htag : tag ≠ "") (hchars : ∀ c ∈ tag.toList, isTagChar c)

include htag hchars

theorem plainToken_tag : plainToken tag.toList = .compound { tag := some tag } := by
  have hne : tag.toList ≠ [] := by simpa using htag
  have hstar : tag.toList ≠ ['*'] := by
    intro heq
    simp [heq, isTagChar] at hchars
  have hform : CompoundForm tag.toList { tag := some tag } :=
    ⟨tag.toList, [], hchars, by simp, by simp, by simp [nonempty?, htag]⟩
  rw [plainToken, if_neg hstar, compound?_eq_some_iff.mpr hform]

/-- A name alone stands for the elements of that name. -/
theorem readPreselector_tag (k : Nat) :
    readPreselector tag.toList k = .ok (some [.compound { tag := some tag }]) := by
  have hne : tag.toList ≠ [] := by simpa using htag
  have hname : ∀ c ∈ tag.toList, isNameChar c := fun c hc => by simp [isNameChar, hchars c hc]
  have hword : IsWord tag.toList := ⟨hne, fun c hc => isBlank_of_isNameChar (hname c hc)⟩
  have htail : isTail tag.toList = false :=
    isTail_of_no_bracket fun c hc => isBracket_of_isNameChar (hname c hc)
  have hcolon : ':' ∉ tag.toList := fun hmem => absurd (hchars _ hmem) (by decide)
  have hparse : Alternative.parseAt tag.toList k = .ok [.compound { tag := some tag }] := by
    rw [parseAt_of_isWord hword htail, Token.parse, parse?_of_no_colon hcolon]
    simp [plainToken_tag htag hchars]
  rw [readPreselector, if_neg hne, hparse, Outcome.map_ok]

variable (hbody : IsBare pattern.toList)

include hbody

omit htag in
/-- The query is one word, and it opens a bracket. -/
theorem isWord_textQuery :
    IsWord (textQuery tag pattern).toList ∧ isTail (textQuery tag pattern).toList = false := by
  have htext : (textQuery tag pattern).toList =
      (tag.toList ++ ":contains".toList) ++ '(' :: (pattern.toList ++ [')']) := by simp [textQuery]
  have hsolid : ∀ c ∈ tag.toList, isBlank c = false :=
    fun c hc => isBlank_of_isNameChar (by simp [isNameChar, hchars c hc])
  rw [htext]
  constructor
  · apply Encloses.round.isWord_opened
    · exact List.forall_mem_append.mpr ⟨hsolid, by simp [isBlank]⟩
    · exact List.forall_mem_append.mpr ⟨hbody.solid, by simp [isBlank]⟩
  · apply Encloses.round.isTail_opened

omit htag in
/-- The query is one token. -/
theorem Selector.parse_textQuery : Selector.parse (textQuery tag pattern) =
    (Token.parse (textQuery tag pattern).toList 0).map fun t => [[t]] := by
  obtain ⟨hword, htail⟩ := isWord_textQuery hchars hbody
  have hcomma : ',' ∉ (textQuery tag pattern).toList := by
    have htag : ',' ∉ tag.toList := fun hmem => absurd (hchars _ hmem) (by decide)
    simp [textQuery, htag, hbody.no_comma]
  rw [Selector.parse_of_no_comma hcomma, Alternative.parse, parseAt_of_isWord hword htail]
  cases Token.parse (textQuery tag pattern).toList 0 <;> rfl

omit htag in
theorem Scope.select_textQuery {s : Scope} {t : Token}
    (ht : Token.parse (textQuery tag pattern).toList 0 = .ok t) (roots : List Place) :
    s.select roots (textQuery tag pattern) =
      (s.applyToken (.single roots) t).map Context.places := by
  rw [Scope.select, Selector.parse_textQuery hchars hbody, ht, Outcome.map_ok]
  exact (selectParsed_singleton roots [t]).trans (selectAlternative_singleton roots t)

/-- The pattern is read once more where it stands, as the filter that runs next. -/
theorem Token.parse_textQuery (hpre : '_' ∉ tag.toList) :
    Token.parse (textQuery tag pattern).toList 0 =
      match FilterCall.parse? pattern.toList (byteLength tag.toList + 10) with
      | none => .ok (.filter (textCall tag pattern none))
      | some next => next.map fun f => .filter (textCall tag pattern (some f)) := by
  have hform : FilterForm (textQuery tag pattern).toList tag.toList "contains".toList
      (some pattern.toList) := by
    refine ⟨fun c hc => ?_, by decide, List.all_eq_true.mp rfl, by simp [textQuery]⟩
    have hchar := hchars c hc
    have hne : c ≠ '_' := fun heq => hpre (heq ▸ hc)
    simp only [isTagChar, Bool.or_eq_true, beq_iff_eq, hne, or_false] at hchar
    rcases hchar with hlower | hdigit
    · simp [isPreselectorChar, hlower]
    · simp [isPreselectorChar, hdigit]
  have hunbroken := unbroken_of_solid (isWord_textQuery hchars hbody).1.solid
  have hargument : nonempty? pattern.toList = some pattern := by
    rw [nonempty?, if_neg hbody.ne_nil, String.ofList_toList]
  have hstart : 0 + (byteLength tag.toList + byteLength "contains".toList + 2) =
      byteLength tag.toList + 10 := by
    have : byteLength "contains".toList = 8 := by decide
    omega
  rw [Token.parse, parse?_eq, hform.filterParts?_eq hunbroken, hbody.argumentOf_eq, Option.map_some]
  dsimp only
  rw [readPreselector_tag htag hchars, hargument, hstart]
  cases FilterCall.parse? pattern.toList (byteLength tag.toList + 10) with
  | none => rfl
  | some next => cases next <;> rfl

omit htag hbody in
/-- An underscore cannot stand in a preselector. -/
theorem Token.parse_textQuery_of_underscore (hmem : '_' ∈ tag.toList) :
    Token.parse (textQuery tag pattern).toList 0 = .ok (plainToken (textQuery tag pattern).toList) := by
  have htext : (textQuery tag pattern).toList =
      tag.toList ++ ':' :: ("contains(".toList ++ (pattern.toList ++ [')'])) := by simp [textQuery]
  have hcolon : ':' ∉ tag.toList := fun hmem => absurd (hchars _ hmem) (by decide)
  have hother : ¬ ∀ c ∈ tag.toList, isPreselectorChar c := fun h => absurd (h _ hmem) (by decide)
  rw [htext, parse_append_colon_of_not_preselector hcolon hother]

end

/-- The elements of a name are searched for in all roots as one group. -/
theorem Scope.preselected_tag {s : Scope} (hw : s.walker = .document) (roots : List Place)
    (tag : String) : s.preselected (.single roots) (some [.compound { tag := some tag }]) =
      .ok (.single ((roots.flatMap Place.inclusive).filter (·.node.hasTag (some tag)))) := by
  have hselect : s.selectAlternative roots [.compound { tag := some tag }] =
      .ok ((roots.flatMap Place.inclusive).filter (·.node.hasTag (some tag))) := by
    rw [selectAlternative_of_compound hw, Compound.search_eq (.inl rfl)]
    simp [Compound.accepts]
  simp [preselected, Context.single, hselect]

/-- The filter finds the parents of the texts, and the next one goes on from there. -/
theorem applyFilter_textCall {patterns : Patterns} {e : Engine} {tag p : String} {m : Matcher}
    (hcontains : e.filters.get? "contains" = some (Builtin.containsBy patterns))
    (hw : e.walker = .document) (hlegacy : e.options.filterSemantics = .legacy)
    (hread : patterns p = some m) (hsearch : ∀ data, m data ≠ none) (roots : List Place)
    (next : Option FilterCall) :
    e.scope.applyFilter (.single roots) (textCall tag p next) =
      next.elim (.ok (.ofPlaces (textParents tag m roots)))
        (e.scope.applyFilter (.ofPlaces (textParents tag m roots))) := by
  have hargument : patterns ((some p).getD "") = some m := hread
  have hleaf : ∀ n : Node, ¬ n.GivesUp m := by
    rintro n ⟨-, text, -, hnone⟩
    exact hsearch text hnone
  have hrun : ∀ ps, e.scope.runFilter ⟨"contains", some p⟩ (.single ps) =
      .ok (ps.flatMap fun q => (q.textLeaves m).map Prod.fst) := by
    intro ps
    rw [Scope.runFilter, Engine.scope_filter?, hcontains, Option.map_some]
    dsimp only
    rw [Builtin.containsBy_eq_ok hargument fun _ _ q _ => hleaf q.node, Context.places_single]
    simp only [Scope.limit, Engine.scope, hlegacy, Builtin.textPlace]
  rw [Scope.applyFilter_eq, textCall]
  dsimp only
  rw [Scope.preselected_tag hw, Outcome.ok_bind, hrun, Outcome.ok_bind, textParents]
  cases next <;> rfl

/-- Whatever the patterns are: one that is not written like a filter finds the parents of the texts
that it matches, with all its brackets and colons. One that is written like a filter is read as that
too, and it runs on these parents. A name with an underscore is no preselector. -/
theorem select_contains {patterns : Patterns} {e : Engine} {tag p : String} {m : Matcher}
    (hcontains : e.filters.get? "contains" = some (Builtin.containsBy patterns))
    (hw : e.walker = .document) (hlegacy : e.options.filterSemantics = .legacy)
    (hread : patterns p = some m) (hsearch : ∀ data, m data ≠ none) (htag : tag ≠ "")
    (hchars : ∀ c ∈ tag.toList, isTagChar c) (hbare : IsBare p.toList) (roots : List Place) :
    ('_' ∉ tag.toList →
      (¬ IsFilter p.toList →
        e.select roots (textQuery tag p) = .ok (textParents tag m roots)) ∧
      (∀ f, ReadsFilter p.toList (byteLength tag.toList + 10) (.ok f) →
        e.select roots (textQuery tag p) =
          (e.scope.applyFilter (.ofPlaces (textParents tag m roots)) f).map Context.places) ∧
      ∀ err, ReadsFilter p.toList (byteLength tag.toList + 10) (.error err) →
        e.select roots (textQuery tag p) = .error (.malformed (textQuery tag p) err)) ∧
    ('_' ∈ tag.toList →
      ∃ u, Selector.parse (textQuery tag p) = .ok [[u]] ∧ ∀ f, u ≠ .filter f) := by
  have hunbroken := unbroken_of_solid hbare.solid
  have hparse := Selector.parse_textQuery hchars hbare
  have hrun := fun next : Option FilterCall =>
    @applyFilter_textCall _ _ tag _ _ hcontains hw hlegacy hread hsearch roots next
  constructor
  · intro hpre
    have htoken := Token.parse_textQuery htag hchars hbare hpre
    refine ⟨fun hno => ?_, fun f hf => ?_, fun err herr => ?_⟩
    · rw [(parse?_eq_none_iff hunbroken).mpr hno] at htoken
      rw [Engine.select, Scope.select_textQuery hchars hbare htoken, Scope.applyToken, hrun,
        Option.elim_none, Outcome.map_ok, Context.places_ofPlaces]
    · rw [(parse?_eq_some_iff hunbroken).mpr hf] at htoken
      rw [Engine.select, Scope.select_textQuery hchars hbare htoken, Scope.applyToken, hrun,
        Option.elim_some]
    · rw [(parse?_eq_some_iff hunbroken).mpr herr] at htoken
      rw [Engine.select, Scope.select, hparse, htoken]
      rfl
  · intro hmem
    refine ⟨plainToken (textQuery tag p).toList, ?_, plainToken_ne_filter _⟩
    rw [hparse, Token.parse_textQuery_of_underscore hchars hmem, Outcome.map_ok]

namespace Pattern

/-- Whether the pattern is matched in one pass, which is always made to its end. -/
def isOnePass : Pattern → Bool
  | .onePass _ => true
  | .trying _ _ => false

theorem exists_matcher {text : String} (h : (read? text).any isOnePass) :
    ∃ m, patterns text = some m ∧ ∀ data, m data ≠ none := by
  obtain ⟨p, hp, honePass⟩ := (Option.any_eq_true _ _).mp h
  refine ⟨p.occursIn, by rw [patterns, hp, Option.map_some], fun data => ?_⟩
  cases p with
  | onePass p => simp [occursIn]
  | trying p groups => cases honePass

end Pattern

/-- A pattern with colons and brackets; one that is also the use of a filter, and one that is a
malformed use; and a name with an underscore. -/
theorem select_contains_patterns :
    (Engine.withOptions {}).filters.get? "contains" = some (Builtin.containsBy Pattern.patterns) ∧
    (Engine.withOptions {}).walker = .document ∧
    (Engine.withOptions {}).options.filterSemantics = .legacy ∧
    (∃ m, Pattern.patterns "(?:a|b):[0-9]" = some m ∧ (∀ data, m data ≠ none) ∧
      ¬ IsFilter "(?:a|b):[0-9]".toList ∧
      (Engine.withOptions {}).select [⟨0, (Node.tag "p").withChildren [.text "b:7"]⟩]
        (textQuery "p" "(?:a|b):[0-9]") =
        .ok (textParents "p" m [⟨0, (Node.tag "p").withChildren [.text "b:7"]⟩]) ∧
      textParents "p" m [⟨0, (Node.tag "p").withChildren [.text "b:7"]⟩] =
        [⟨0, (Node.tag "p").withChildren [.text "b:7"]⟩]) ∧
    (∃ m, Pattern.patterns ":eq(0)" = some m ∧ (∀ data, m data ≠ none) ∧
      ReadsFilter ":eq(0)".toList 11 (.ok { name := "eq", argument := some "0" }) ∧
      (Engine.withOptions {}).select [⟨0, (Node.tag "p").withChildren [.text ":eq0"]⟩]
        (textQuery "p" ":eq(0)") =
        ((Engine.withOptions {}).scope.applyFilter
          (.ofPlaces (textParents "p" m [⟨0, (Node.tag "p").withChildren [.text ":eq0"]⟩]))
          { name := "eq", argument := some "0" }).map Context.places) ∧
    (∃ m, Pattern.patterns "]:x" = some m ∧ (∀ data, m data ≠ none) ∧
      ReadsFilter "]:x".toList 11 (.error (.strayCloser ⟨11, 12⟩)) ∧
      (Engine.withOptions {}).select [⟨0, .tag "p"⟩] (textQuery "p" "]:x") =
        .error (.malformed (textQuery "p" "]:x") (.strayCloser ⟨11, 12⟩))) ∧
    ∃ u, Selector.parse (textQuery "a_b" "]:x") = .ok [[u]] ∧ ∀ f, u ≠ .filter f := by
  have hbare : IsBare "(?:a|b):[0-9]".toList ∧ IsBare ":eq(0)".toList ∧ IsBare "]:x".toList := by
    refine ⟨?_, ?_, ?_⟩ <;> constructor <;> simp [isBlank, isQuote]
  obtain ⟨colons, hcolons, hcolonsSearch⟩ := Pattern.exists_matcher
    (show (Pattern.read? "(?:a|b):[0-9]").any Pattern.isOnePass by decide +kernel)
  obtain ⟨filter, hfilter, hfilterSearch⟩ := Pattern.exists_matcher
    (show (Pattern.read? ":eq(0)").any Pattern.isOnePass by decide +kernel)
  obtain ⟨stray, hstray, hstraySearch⟩ := Pattern.exists_matcher
    (show (Pattern.read? "]:x").any Pattern.isOnePass by decide +kernel)
  have hnone : FilterCall.parse? "(?:a|b):[0-9]".toList 0 = none := by with_unfolding_all rfl
  have hno : ¬ IsFilter "(?:a|b):[0-9]".toList :=
    (parse?_eq_none_iff (unbroken_of_solid hbare.1.solid)).mp hnone
  have hreads : ReadsFilter ":eq(0)".toList 11 (.ok { name := "eq", argument := some "0" }) :=
    (parse?_eq_some_iff (unbroken_of_solid hbare.2.1.solid)).mp (by with_unfolding_all rfl)
  have herror : ReadsFilter "]:x".toList 11 (.error (.strayCloser ⟨11, 12⟩)) :=
    (parse?_eq_some_iff (unbroken_of_solid hbare.2.2.solid)).mp (by with_unfolding_all rfl)
  have hp : ∀ c ∈ "p".toList, isTagChar c := List.all_eq_true.mp rfl
  have hcontains : (Engine.withOptions {}).filters.get? "contains" =
      some (Builtin.containsBy Pattern.patterns) := rfl
  have hcase := (select_contains hcontains rfl rfl hcolons hcolonsSearch (by decide) hp hbare.1
    [⟨0, (Node.tag "p").withChildren [.text "b:7"]⟩]).1 (by decide)
  have hfound : (Engine.withOptions {}).select [⟨0, (Node.tag "p").withChildren [.text "b:7"]⟩]
      (textQuery "p" "(?:a|b):[0-9]") = .ok [⟨0, (Node.tag "p").withChildren [.text "b:7"]⟩] := by
    decide +kernel
  refine ⟨hcontains, rfl, rfl, ⟨colons, hcolons, hcolonsSearch, hno, hcase.1 hno, ?_⟩,
    ⟨filter, hfilter, hfilterSearch, hreads, ?_⟩, ⟨stray, hstray, hstraySearch, herror, ?_⟩, ?_⟩
  · exact Except.ok.inj ((hcase.1 hno).symm.trans hfound)
  · exact ((select_contains hcontains rfl rfl hfilter hfilterSearch (by decide) hp hbare.2.1 _).1
      (by decide)).2.1 _ hreads
  · exact ((select_contains hcontains rfl rfl hstray hstraySearch (by decide) hp hbare.2.2 _).1
      (by decide)).2.2 _ herror
  · exact (select_contains hcontains rfl rfl hstray hstraySearch (by decide)
      (List.all_eq_true.mp rfl) hbare.2.2 []).2 (by decide)

/-- The text of a paragraph has the pattern, and the paragraph is its parent; but the pattern is also
the use of a filter, of which no paragraph is left. -/
theorem select_contains_filter_form :
    IsBare "a:b".toList ∧
      (∃ m, Pattern.patterns "a:b" = some m ∧ (∀ data, m data ≠ none) ∧
        textParents "p" m [⟨0, (Node.tag "p").withChildren [.text "a:b"]⟩] =
          [⟨0, (Node.tag "p").withChildren [.text "a:b"]⟩]) ∧
      (Engine.withOptions {}).select [⟨0, (Node.tag "p").withChildren [.text "a:b"]⟩]
        (textQuery "p" "a:b") = .ok [] := by
  refine ⟨by constructor <;> simp [isBlank, isQuote], ?_, by decide +kernel⟩
  obtain ⟨m, hread, hsearch⟩ := Pattern.exists_matcher
    (show (Pattern.read? "a:b").any Pattern.isOnePass by decide +kernel)
  have hmatches : (Pattern.patterns "a:b").map (fun m =>
      textParents "p" m [⟨0, (Node.tag "p").withChildren [.text "a:b"]⟩]) =
        some [⟨0, (Node.tag "p").withChildren [.text "a:b"]⟩] := by decide +kernel
  rw [hread] at hmatches
  exact ⟨m, hread, hsearch, Option.some.inj hmatches⟩

end MarkupQuery
