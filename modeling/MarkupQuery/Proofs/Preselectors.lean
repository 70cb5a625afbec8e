import MarkupQuery.Proofs.Enclosed
import MarkupQuery.Proofs.Mentions

/-! Plain tokens in front of a filter's colon. The first colon of a text ends the preselector, so
what stands before it is one if all of its characters may stand there. The other characters of tags,
names, values, ids and classes may not, the hyphen and the underscore among them; after these the
colon is one more character of a plain token. -/

namespace MarkupQuery

open Grammar

/-- A text is cut at its first colon in one way only. -/
theorem eq_of_append_colon_eq {a b r s : List Char} (ha : ':' ∉ a) (hb : ':' ∉ b)
    (h : a ++ ':' :: r = b ++ ':' :: s) : a = b ∧ r = s := by
  have hstop : ∀ t, Stops (· != ':') (':' :: t) := fun t => stops_cons.mpr rfl
  have hrun : ∀ {u : List Char}, ':' ∉ u → ∀ c ∈ u, c != ':' := by
    intro u hu c hc
    rw [bne_iff_ne]
    rintro rfl
    exact hu hc
  obtain ⟨ha1, ha2⟩ := span_eq_iff.mpr ⟨rfl, hrun ha, hstop r⟩
  obtain ⟨hb1, hb2⟩ := span_eq_iff.mpr ⟨rfl, hrun hb, hstop s⟩
  rw [h] at ha1 ha2
  exact ⟨ha1.symm.trans hb1, (List.cons.inj (ha2.symm.trans hb2)).2⟩

theorem plainToken_ne_filter (text : List Char) (f : FilterCall) : plainToken text ≠ .filter f := by
  intro h
  have huse : ⟨f.name, f.argument⟩ ∈ (plainToken text).uses := by
    rw [h, Token.uses]
    exact FilterCall.mem_uses.mpr (.inr (.inl rfl))
  rw [uses_plainToken] at huse
  cases huse

theorem isBracket_of_isNameChar {c : Char} (h : isNameChar c) : isBracket c = false := by
  rw [← Bool.not_eq_true]
  intro hbracket
  simp only [isBracket, Bool.or_eq_true, beq_iff_eq] at hbracket
  rcases hbracket with ((rfl | rfl) | rfl) | rfl <;> simp [isNameChar, isTagChar] at h

/-- A colon and a name make no tail of a word, and keep none from being one. -/
theorem isTail_append_colon_name (w : List Char) {name : List Char}
    (hname : ∀ c ∈ name, isNameChar c) : isTail (w ++ ':' :: name) = isTail w := by
  apply isTail_append_of_no_bracket
  exact List.forall_mem_cons.mpr ⟨rfl, fun c hc => isBracket_of_isNameChar (hname c hc)⟩

/-- A word that is no tail is read as one token. -/
theorem parseAt_of_isWord {w : List Char} (hw : IsWord w) (htail : isTail w = false) (k : Nat) :
    Alternative.parseAt w k = (Token.parse w k).map fun t => [t] := by
  rw [Alternative.parseAt, pieces_of_isWord hw htail, Outcome.ok_bind, List.mapM_cons, List.mapM_nil]
  dsimp only
  cases Token.parse w k <;> rfl

/-- A text without blanks has a token only if it is such a word. -/
theorem isWord_of_parseAt {text : List Char} {k : Nat} {t : Token}
    (hsolid : ∀ c ∈ text, isBlank c = false) (h : Alternative.parseAt text k = .ok [t]) :
    IsWord text ∧ isTail text = false := by
  have hword : IsWord text := by
    refine ⟨?_, hsolid⟩
    rintro rfl
    simp [Alternative.parseAt, pieces, wordsFrom] at h
  refine ⟨hword, ?_⟩
  rw [← Bool.not_eq_true]
  intro htail
  simp [Alternative.parseAt, pieces, wordsFrom_of_isWord hword, htail] at h

section
variable {w name : List Char} (hcolon : ':' ∉ w) (hne : name ≠ []) (hname : ∀ c ∈ name, isNameChar c)

include hne hname

theorem filterParts?_append_colon_name (hpre : ∀ c ∈ w, isPreselectorChar c) :
    filterParts? (w ++ ':' :: name) = some ⟨w, name, ⟨byteLength w + byteLength name + 1, []⟩⟩ :=
  filterParts?_eq_some_iff.mpr ⟨[], by simp, hpre, hne, hname, .inl ⟨rfl, rfl⟩⟩

/-- The preselector reads as it does alone, and there is no argument. -/
theorem parse_append_colon_name (hw : w ≠ []) (hpre : ∀ c ∈ w, isPreselectorChar c) {t : Token}
    {k : Nat} (ht : Alternative.parseAt w k = .ok [t]) :
    Token.parse (w ++ ':' :: name) k =
      .ok (.filter { preselector := some [t], name := .ofList name }) := by
  have hread : readPreselector w k = .ok (some [t]) := by
    rw [readPreselector, if_neg hw, ht, Outcome.map_ok]
  have hcall : FilterCall.parse? (w ++ ':' :: name) k =
      some (.ok { preselector := some [t], name := .ofList name }) := by
    rw [parse?_eq, filterParts?_append_colon_name hne hname hpre, Option.map_some,
      parse?_of_no_colon (by simp)]
    simp [hread, nonempty?]
  rw [Token.parse, hcall]
  rfl

omit hne hname in
include hcolon in
/-- No later colon ends the preselector, and the first one does not. -/
theorem parse_append_colon_of_not_preselector (hpre : ¬ ∀ c ∈ w, isPreselectorChar c) (k : Nat) :
    Token.parse (w ++ ':' :: name) k = .ok (plainToken (w ++ ':' :: name)) := by
  have hparts : filterParts? (w ++ ':' :: name) = none := by
    rw [Option.eq_none_iff_forall_ne_some]
    intro p hp
    obtain ⟨rest, htext, hchars, -⟩ := filterParts?_eq_some_iff.mp hp
    have hcolon' : ':' ∉ p.preselector := fun hmem => absurd (hchars _ hmem) (by decide)
    obtain ⟨rfl, -⟩ := eq_of_append_colon_eq hcolon hcolon' htext
    exact hpre hchars
  rw [Token.parse, parse?_eq, hparts, Option.map_none]

end

/-- A text that reads as one token, with a colon and a name after it, is a filter with that token for
its preselector exactly if all of its characters may stand in one. Otherwise it is one token still,
but a plain one. -/
theorem parse_preselected_iff {pre name : String} {t : Token}
    (hpre : ∀ c ∈ pre.toList, isBlank c = false ∧ c ≠ ':') (ht : Alternative.parse pre = .ok [t])
    (hne : name ≠ "") (hname : ∀ c ∈ name.toList, isNameChar c) :
    (Alternative.parse (pre ++ ":" ++ name) = .ok [.filter { preselector := some [t], name }] ↔
      ∀ c ∈ pre.toList, isPreselectorChar c) ∧
    ((∃ c ∈ pre.toList, isPreselectorChar c = false) →
      ∃ u, Alternative.parse (pre ++ ":" ++ name) = .ok [u] ∧ ∀ f, u ≠ .filter f) := by
  have hsolid : ∀ c ∈ pre.toList, isBlank c = false := fun c hc => (hpre c hc).1
  have hcolon : ':' ∉ pre.toList := fun hmem => (hpre _ hmem).2 rfl
  have hne' : name.toList ≠ [] := by simpa using hne
  obtain ⟨hword, htail⟩ := isWord_of_parseAt hsolid ht
  have hread : Alternative.parse (pre ++ ":" ++ name) =
      (Token.parse (pre.toList ++ ':' :: name.toList) 0).map fun t => [t] := by
    have htext : (pre ++ ":" ++ name).toList = pre.toList ++ ':' :: name.toList := by simp
    have hwhole : IsWord (pre.toList ++ ':' :: name.toList) := by
      refine ⟨by simp, List.forall_mem_append.mpr ⟨hsolid, ?_⟩⟩
      exact List.forall_mem_cons.mpr ⟨rfl, fun c hc => isBlank_of_isNameChar (hname c hc)⟩
    rw [Alternative.parse, htext]
    exact parseAt_of_isWord hwhole ((isTail_append_colon_name _ hname).trans htail) 0
  have hplain : (∃ c ∈ pre.toList, isPreselectorChar c = false) →
      Alternative.parse (pre ++ ":" ++ name) =
        .ok [plainToken (pre.toList ++ ':' :: name.toList)] := by
    rintro ⟨c, hc, hother⟩
    rw [hread, parse_append_colon_of_not_preselector hcolon, Outcome.map_ok]
    intro hchars
    simp [hchars c hc] at hother
  refine ⟨⟨fun h c hc => ?_, fun hchars => ?_⟩, fun hother => ?_⟩
  · rw [← Bool.not_eq_false]
    intro hother
    rw [hplain ⟨c, hc, hother⟩] at h
    exact plainToken_ne_filter _ _ (by simpa using h)
  · rw [hread, parse_append_colon_name hne' hname hword.ne_nil hchars ht]
    simp
  · exact ⟨_, hplain hother, plainToken_ne_filter _⟩

/-- Clauses with quotes, a bracket, a hash and a dot in their values; and a hyphen in a class. -/
theorem parse_preselected_iff_clauses :
    (∀ c ∈ "h1[lang|='en'][x=\"(#.\"]".toList, isBlank c = false ∧ c ≠ ':') ∧
      Alternative.parse "h1[lang|='en'][x=\"(#.\"]" = .ok [.compound
        { tag := some "h1"
          clauses := [⟨"lang", .compare .dashMatch "en"⟩, ⟨"x", .compare .equals "(#."⟩] }] ∧
      Alternative.parse ("h1[lang|='en'][x=\"(#.\"]" ++ ":" ++ "no-2_x") = .ok [.filter
        { preselector := some [.compound
            { tag := some "h1"
              clauses := [⟨"lang", .compare .dashMatch "en"⟩, ⟨"x", .compare .equals "(#."⟩] }]
          name := "no-2_x" }] ∧
      (∀ c ∈ "p.main-post".toList, isBlank c = false ∧ c ≠ ':') ∧
      Alternative.parse "p.main-post" =
        .ok [.classes { tag := some "p", classes := ["main-post"] }] ∧
      ∃ u, Alternative.parse ("p.main-post" ++ ":" ++ "first") = .ok [u] ∧ ∀ f, u ≠ .filter f :=
  have hclauses : ∀ c ∈ "h1[lang|='en'][x=\"(#.\"]".toList, isBlank c = false ∧ c ≠ ':' := by
    simp [isBlank]
  have hcompound : Alternative.parse "h1[lang|='en'][x=\"(#.\"]" = .ok [.compound
      { tag := some "h1"
        clauses := [⟨"lang", .compare .dashMatch "en"⟩, ⟨"x", .compare .equals "(#."⟩] }] := by
    with_unfolding_all rfl
  have hclass : ∀ c ∈ "p.main-post".toList, isBlank c = false ∧ c ≠ ':' := by simp [isBlank]
  have hclasses : Alternative.parse "p.main-post" =
      .ok [.classes { tag := some "p", classes := ["main-post"] }] := by with_unfolding_all rfl
  ⟨hclauses, hcompound,
    (parse_preselected_iff hclauses hcompound (by decide) (List.all_eq_true.mp rfl)).1.mpr
      (List.all_eq_true.mp rfl),
    hclass, hclasses,
    (parse_preselected_iff hclass hclasses (by decide) (List.all_eq_true.mp rfl)).2
      ⟨'-', by decide, by decide⟩⟩

/-- A class with a hyphen is no preselector: the colon and the name become part of it. -/
theorem parse_class_with_hyphen :
    (∀ c ∈ "p.main-post".toList, isBlank c = false ∧ c ≠ ':') ∧
      Alternative.parse "p.main-post" =
        .ok [.classes { tag := some "p", classes := ["main-post"] }] ∧
      Alternative.parse ("p.main-post" ++ ":" ++ "first") =
        .ok [.classes { tag := some "p", classes := ["main-post:first"] }] :=
  ⟨by simp [isBlank], by with_unfolding_all rfl, by with_unfolding_all rfl⟩

end MarkupQuery
