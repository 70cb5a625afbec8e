import MarkupQuery.Proofs.Rejection

/-! The shape of what is read. Every token that the parser gives, also inside a preselector or
further along a chain of filters, has the parts that its kind asks for, from the alphabet of these
parts, and all texts in it have single spaces for blanks. Evaluation relies on this: a compound
without a tag and without clauses, say, would leave a context as it is. -/

namespace MarkupQuery

open Grammar

/-! Blanks. -/

/-- All blanks in the text are spaces, and no two of these stand together. -/
structure Tidy (text : List Char) : Prop where
  spaces : ∀ c ∈ text, isBlank c → c = ' '
  single : ¬ [' ', ' '] <:+: text

theorem Tidy.of_stretch {a text : List Char} (h : Tidy text) (ha : a <:+: text) : Tidy a :=
  ⟨fun c hc => h.spaces c (ha.subset hc), fun hin => h.single (hin.trans ha)⟩

theorem IsWord.tidy {word : List Char} (h : IsWord word) : Tidy word := by
  constructor
  · intro c hc hblank
    rw [h.solid c hc] at hblank
    cases hblank
  · intro hin
    have hspace := h.solid ' ' (hin.subset List.mem_cons_self)
    cases hspace

/-- A single space between a word and a tidy text that does not begin with a blank. -/
theorem Tidy.join {word text : List Char} (hword : ∀ c ∈ word, isBlank c = false) (h : Tidy text)
    (hstart : Stops isBlank text) : Tidy (word ++ ' ' :: text) := by
  constructor
  · intro c hc hblank
    rcases List.mem_append.mp hc with hc | hc
    · rw [hword c hc] at hblank
      cases hblank
    · rcases List.mem_cons.mp hc with rfl | hc
      · rfl
      · exact h.spaces c hc hblank
  · induction word with
    | nil =>
      rw [List.nil_append, List.infix_cons_iff, not_or]
      refine ⟨fun hpre => ?_, h.single⟩
      obtain ⟨-, rest, hrest⟩ := List.cons_prefix_cons.mp hpre
      rw [← hrest] at hstart
      cases stops_cons.mp hstart
    | cons c word ih =>
      obtain ⟨hc, hword⟩ := List.forall_mem_cons.mp hword
      rw [List.cons_append, List.infix_cons_iff, not_or]
      refine ⟨fun hpre => ?_, ih hword⟩
      obtain ⟨rfl, -⟩ := List.cons_prefix_cons.mp hpre
      cases hc

theorem tidy_joined {word : List Char} {ts : List Slice} (hword : IsWord word)
    (hts : ∀ t ∈ ts, IsWord t.text) : Tidy (joined word ts) := by
  induction ts generalizing word with
  | nil =>
    rw [joined_nil]
    exact hword.tidy
  | cons t ts ih =>
    obtain ⟨ht, hts⟩ := List.forall_mem_cons.mp hts
    have hjoin : joined word (t :: ts) = word ++ ' ' :: joined t.text ts := by simp [joined]
    have hstart : Stops isBlank (joined t.text ts) := by
      obtain ⟨c, cs, hcs⟩ := List.exists_cons_of_ne_nil ht.ne_nil
      rw [joined, hcs]
      exact stops_cons.mpr (ht.solid c (hcs ▸ List.mem_cons_self))
    rw [hjoin]
    exact .join hword.solid (ih ht hts) hstart

theorem tidy_piece {text : List Char} {k : Nat} {ps : List Piece} {p : Piece}
    (h : pieces text k = .ok ps) (hp : p ∈ ps) : Tidy p.text := by
  obtain ⟨us, w, ts, vs, hws, -, -, rfl⟩ := (grouped_of_pieces h).mem hp
  have hwords : ∀ v ∈ us ++ w :: (ts ++ vs), IsWord v.text := by
    intro v hv
    rw [← hws] at hv
    exact (isWord_of_mem hv).1
  exact tidy_joined (hwords w (by simp)) fun t ht => hwords t (by simp [ht])

/-! The parts of a token. -/

structure AttributeClause.WellFormed (x : AttributeClause) : Prop where
  name_ne_empty : x.name ≠ ""
  bare : x.test.comparison? = none → x.test.literal = ""
  literal : ']' ∉ x.test.literal.toList ∧ '\'' ∉ x.test.literal.toList ∧ '"' ∉ x.test.literal.toList

structure Compound.WellFormed (x : Compound) : Prop where
  ne_empty : x.tag.isSome ∨ x.clauses ≠ []
  tag : ∀ tag ∈ x.tag, tag ≠ "" ∧ ∀ c ∈ tag.toList, isTagChar c
  clauses : ∀ clause ∈ x.clauses, clause.WellFormed

structure ClassList.WellFormed (x : ClassList) : Prop where
  classes_ne_nil : x.classes ≠ []
  tag_ne_empty : x.tag ≠ some ""
  segments : ∀ s ∈ x.tag.toList ++ x.classes, '.' ∉ s.toList ∧ '#' ∉ s.toList

/-- The use of a filter apart from what is inside its preselector and further along its chain. -/
structure FilterCall.Proper (f : FilterCall) : Prop where
  name_ne_empty : f.name ≠ ""
  name_chars : ∀ c ∈ f.name.toList, isNameChar c
  argument_ne_empty : f.argument ≠ some ""
  preselector : ∀ ts ∈ f.preselector, ∀ t ∈ ts, ∀ g, t ≠ .filter g
  next_iff : f.next.isSome ↔ ∃ a ∈ f.argument, IsFilter a.toList
  next_shorter : ∀ g ∈ f.next, ∀ b ∈ g.argument, ∃ a ∈ f.argument, b.toList.length < a.toList.length

mutual

inductive Token.WellFormed : Token → Prop where
  | universal : Token.WellFormed .universal
  | compound {x : Compound} : x.WellFormed → Token.WellFormed (.compound x)
  | id {value : String} : Token.WellFormed (.id value)
  | classes {x : ClassList} : x.WellFormed → Token.WellFormed (.classes x)
  | filter {f : FilterCall} : FilterCall.WellFormed f → Token.WellFormed (.filter f)
  | unrecognized {text : String} :
      text ≠ "" → '#' ∉ text.toList → '.' ∉ text.toList → Token.WellFormed (.unrecognized text)

inductive FilterCall.WellFormed : FilterCall → Prop where
  | intro {f : FilterCall} : f.Proper → (∀ ts ∈ f.preselector, ∀ t ∈ ts, Token.WellFormed t) →
      (∀ g ∈ f.next, FilterCall.WellFormed g) → FilterCall.WellFormed f

end

mutual

/-- All texts in a token. -/
def Token.texts : Token → List String
  | .universal => []
  | .compound x =>
    x.tag.toList ++ x.clauses.flatMap fun clause => [clause.name, clause.test.literal]
  | .id value => [value]
  | .classes x => x.tag.toList ++ x.classes
  | .filter f => FilterCall.texts f
  | .unrecognized text => [text]

def FilterCall.texts : FilterCall → List String
  | ⟨preselector, name, argument, next⟩ =>
    (match preselector with
      | some ts => Alternative.texts ts
      | none => []) ++ name :: argument.toList ++
    (match next with
      | some f => FilterCall.texts f
      | none => [])

def Alternative.texts : List Token → List String
  | [] => []
  | t :: ts => Token.texts t ++ Alternative.texts ts

end

theorem Alternative.mem_texts {ts : List Token} {s : String} :
    s ∈ Alternative.texts ts ↔ ∃ t ∈ ts, s ∈ t.texts := by
  induction ts with
  | nil => simp [Alternative.texts]
  | cons t ts ih => simp [Alternative.texts, ih]

theorem FilterCall.mem_texts {f : FilterCall} {s : String} :
    s ∈ f.texts ↔ (∃ ts ∈ f.preselector, s ∈ Alternative.texts ts) ∨ s = f.name ∨ s ∈ f.argument ∨
      ∃ g ∈ f.next, s ∈ g.texts := by
  obtain ⟨preselector, name, argument, next⟩ := f
  cases preselector <;> cases next <;> simp [FilterCall.texts]

/-! Plain tokens. -/

theorem ofList_ne_empty {text : List Char} (h : text ≠ []) : String.ofList text ≠ "" := by
  simpa using h

namespace Grammar

theorem ClauseText.WellFormed.clause {t : ClauseText} (h : t.WellFormed) : t.clause.WellFormed := by
  refine ⟨ofList_ne_empty h.name_ne_nil, ?_, ?_⟩
  · intro hbare
    cases hop : t.op with
    | none => simp [ClauseText.clause, hop]
    | some op => simp [ClauseText.clause, hop] at hbare
  · have hvalue : ∀ c, isValueChar c = false → c ∉ t.value := by
      intro c hc hmem
      rw [h.value c hmem] at hc
      cases hc
    cases hop : t.op with
    | none => simp [ClauseText.clause, hop]
    | some op =>
      simp only [ClauseText.clause, hop, Option.elim, AttributeTest.literal_compare,
        String.toList_ofList]
      exact ⟨hvalue _ rfl, hvalue _ rfl, hvalue _ rfl⟩

theorem CompoundForm.wellFormed {text : List Char} {x : Compound} (h : CompoundForm text x)
    (hne : text ≠ []) : x.WellFormed := by
  have hx : x ≠ {} := by
    rintro rfl
    exact hne h.eq_nil
  obtain ⟨tag, parts, htag, hparts, rfl, rfl⟩ := h
  refine ⟨?_, fun name hname => ?_, fun clause hclause => ?_⟩
  · by_contra hboth
    rw [not_or, Option.not_isSome_iff_eq_none, not_not] at hboth
    exact hx (congrArg₂ Compound.mk hboth.1 hboth.2)
  · have htext := eq_of_mem_nonempty? hname
    refine ⟨?_, fun c hc => htag c (htext ▸ hc)⟩
    rintro rfl
    rw [← htext] at hname
    cases hname
  · obtain ⟨t, ht, rfl⟩ := List.mem_map.mp hclause
    exact (hparts t ht).clause

theorem infix_of_mem_intercalate {sep s : List Char} {ss : List (List Char)} (h : s ∈ ss) :
    s <:+: sep.intercalate ss := by
  have hmem : s ∈ ss.intersperse sep := by
    induction ss with
    | nil => cases h
    | cons a ss ih =>
      cases ss with
      | nil => simpa using h
      | cons b bs =>
        rw [List.intersperse_cons_cons]
        rcases List.mem_cons.mp h with rfl | h
        · exact List.mem_cons_self
        · exact List.mem_cons_of_mem _ (List.mem_cons_of_mem _ (ih h))
  exact List.infix_of_mem_flatten hmem

theorem ClassForm.wellFormed {text : List Char} {x : ClassList} (h : ClassForm text x)
    (hhash : '#' ∉ text) : x.WellFormed := by
  obtain ⟨tag, classes, hne, hdot, rfl, rfl⟩ := h
  have hsegment : ∀ s ∈ tag :: classes, '.' ∉ s ∧ '#' ∉ s := fun s hs =>
    ⟨hdot s hs, fun hc => hhash ((infix_of_mem_intercalate hs).subset hc)⟩
  refine ⟨by simpa using hne, fun htag => ?_, fun s hs => ?_⟩
  · have htext := eq_of_mem_nonempty? htag
    rw [← htext] at htag
    cases htag
  · rcases List.mem_append.mp hs with hs | hs
    · rw [eq_of_mem_nonempty? (Option.mem_toList.mp hs)]
      exact hsegment tag List.mem_cons_self
    · obtain ⟨cs, hcs, rfl⟩ := List.mem_map.mp hs
      simpa using hsegment cs (List.mem_cons_of_mem _ hcs)

end Grammar

theorem wellFormed_plainToken {text : List Char} (hne : text ≠ []) :
    (plainToken text).WellFormed := by
  unfold plainToken
  split
  · exact .universal
  · split
    · rename_i x hx
      exact .compound ((compound?_eq_some_iff.mp hx).wellFormed hne)
    · split
      · exact .id
      · rename_i hid
        have hhash := id?_eq_none_iff.mp hid
        split
        · rename_i x hx
          exact .classes ((classes?_eq_some_iff.mp hx).wellFormed hhash)
        · rename_i hclasses
          have hdot := classes?_eq_none_iff.mp hclasses
          exact .unrecognized (ofList_ne_empty hne) (by simpa using hhash) (by simpa using hdot)

theorem infix_of_mem_texts_clause {t : ClauseText} {s : String}
    (hs : s ∈ [t.clause.name, t.clause.test.literal]) : s.toList <:+: t.text := by
  have hvalue : t.value <:+: t.text := by
    refine ⟨'[' :: (t.name ++ t.op.toList.map Comparison.symbol ++
      (if t.equals then ['='] else []) ++ t.opening.toList), t.closing.toList ++ [']'], ?_⟩
    simp [ClauseText.text, ClauseText.afterName, ClauseText.afterOp]
  rcases List.mem_cons.mp hs with rfl | hs
  · rw [ClauseText.clause, String.toList_ofList]
    exact ⟨['['], t.afterName, by simp [ClauseText.text]⟩
  · obtain rfl := List.mem_singleton.mp hs
    cases hop : t.op with
    | none =>
      simp only [ClauseText.clause, hop, Option.elim, AttributeTest.literal_present]
      exact List.nil_infix
    | some op =>
      simp only [ClauseText.clause, hop, Option.elim, AttributeTest.literal_compare,
        String.toList_ofList]
      exact hvalue

/-- The texts in a plain token are stretches of its text. -/
theorem infix_of_mem_texts_plainToken {text : List Char} {s : String}
    (hs : s ∈ (plainToken text).texts) : s.toList <:+: text := by
  unfold plainToken at hs
  split at hs
  · cases hs
  · split at hs
    · rename_i x hx
      obtain ⟨tag, parts, -, -, rfl, rfl⟩ := compound?_eq_some_iff.mp hx
      rcases List.mem_append.mp hs with hs | hs
      · rw [eq_of_mem_nonempty? (Option.mem_toList.mp hs)]
        exact List.infix_append_left
      · obtain ⟨clause, hclause, hs⟩ := List.mem_flatMap.mp hs
        obtain ⟨t, ht, rfl⟩ := List.mem_map.mp hclause
        have hpart : t.text <:+: parts.flatMap ClauseText.text :=
          List.infix_of_mem_flatten (List.mem_map_of_mem ht)
        exact ((infix_of_mem_texts_clause hs).trans hpart).trans List.infix_append_right
    · split at hs
      · rename_i value hid
        obtain ⟨before, -, rfl⟩ := id?_eq_some_iff.mp hid
        obtain rfl := List.mem_singleton.mp hs
        exact ⟨before ++ ['#'], [], by simp⟩
      · split at hs
        · rename_i x hx
          obtain ⟨tag, classes, -, -, rfl, rfl⟩ := classes?_eq_some_iff.mp hx
          rcases List.mem_append.mp hs with hs | hs
          · rw [eq_of_mem_nonempty? (Option.mem_toList.mp hs)]
            exact infix_of_mem_intercalate List.mem_cons_self
          · obtain ⟨cs, hcs, rfl⟩ := List.mem_map.mp hs
            rw [String.toList_ofList]
            exact infix_of_mem_intercalate (List.mem_cons_of_mem _ hcs)
        · obtain rfl := List.mem_singleton.mp hs
          exact ⟨[], [], by simp⟩

/-! What the readers give. -/

theorem parseAt_of_mem_readPreselector {pre : List Char} {k : Nat} {x : Option Alternative}
    (h : readPreselector pre k = .ok x) {ts : Alternative} (hts : ts ∈ x) :
    Alternative.parseAt pre k = .ok ts := by
  unfold readPreselector at h
  split at h
  · cases h
    cases hts
  · obtain ⟨ts', hread, rfl⟩ := Outcome.map_eq_ok_iff.mp h
    obtain rfl := Option.mem_some_iff.mp hts
    exact hread

/-- The tokens of a preselector are the plain tokens of its pieces. -/
theorem mem_parseAt_preselector {pre : List Char} (hpre : ∀ c ∈ pre, isPreselectorChar c) {k : Nat}
    {ts : Alternative} (h : Alternative.parseAt pre k = .ok ts) {t : Token} (ht : t ∈ ts) :
    ∃ ps, pieces pre k = .ok ps ∧ ∃ p ∈ ps, t = plainToken p.text := by
  rw [parseAt_of_preselector hpre] at h
  obtain ⟨ps, hps, rfl⟩ := Outcome.map_eq_ok_iff.mp h
  obtain ⟨p, hp, rfl⟩ := List.mem_map.mp ht
  exact ⟨ps, hps, p, hp, rfl⟩

theorem not_isFilter_nil : ¬ IsFilter [] := by
  rintro ⟨pre, name, body, h⟩
  simpa using h.text_eq

theorem exists_mem_nonempty?_isFilter {text : List Char} :
    (∃ a ∈ nonempty? text, IsFilter a.toList) ↔ IsFilter text := by
  unfold nonempty?
  split
  · rename_i hnil
    subst hnil
    simpa using not_isFilter_nil
  · simp

variable {text : List Char} {k : Nat} {f : FilterCall}

/-- A filter goes on with another one exactly where its argument has the form of a filter. -/
theorem next_isSome_iff (hb : ∀ c ∈ text, isLineBreak c = false)
    (h : FilterCall.parse? text k = some (.ok f)) :
    f.next.isSome ↔ ∃ a ∈ f.argument, IsFilter a.toList := by
  rw [parse?_eq] at h
  obtain ⟨p, hp, hr⟩ := Option.map_eq_some_iff.mp h
  have harg : ∀ c ∈ p.argument.text, isLineBreak c = false :=
    fun c hc => hb c ((infix_of_filterParts? hp).2.subset hc)
  cases hnext : FilterCall.parse? p.argument.text (k + p.argument.start) with
  | none =>
    rw [hnext] at hr
    obtain ⟨preselector, -, rfl⟩ := Outcome.map_eq_ok_iff.mp hr
    have hno := (parse?_eq_none_iff harg).mp hnext
    exact iff_of_false (by simp) (mt exists_mem_nonempty?_isFilter.mp hno)
  | some next =>
    rw [hnext] at hr
    obtain ⟨preselector, -, hr⟩ := Outcome.bind_eq_ok_iff.mp hr
    obtain ⟨g, -, hr⟩ := Outcome.bind_eq_ok_iff.mp hr
    cases hr
    have hfilter : IsFilter p.argument.text := by
      by_contra hno
      rw [(parse?_eq_none_iff harg).mpr hno] at hnext
      cases hnext
    exact iff_of_true rfl (exists_mem_nonempty?_isFilter.mpr hfilter)

theorem proper_of_parse? (hb : ∀ c ∈ text, isLineBreak c = false)
    (h : FilterCall.parse? text k = some (.ok f)) : f.Proper := by
  obtain ⟨p, hp, hpre, hname, harg, hnext⟩ := parse?_eq_ok h
  obtain ⟨_, -, hchars, hne, hnamechars, -⟩ := filterParts?_eq_some_iff.mp hp
  refine ⟨?_, ?_, ?_, ?_, next_isSome_iff hb h, ?_⟩
  · rw [hname]
    exact ofList_ne_empty hne
  · simpa [hname] using hnamechars
  · intro hempty
    rw [harg] at hempty
    have htext := eq_of_mem_nonempty? hempty
    rw [← htext] at hempty
    cases hempty
  · intro ts hts t ht
    exact not_filter_of_parseAt_preselector hchars (parseAt_of_mem_readPreselector hpre hts) ht
  · intro g hg b hgb
    obtain ⟨q, hq, -, -, hgarg, -⟩ := parse?_eq_ok (hnext g hg)
    have hlen := length_argument_lt hq
    rw [hgarg] at hgb
    rw [harg, eq_of_mem_nonempty? hgb]
    refine ⟨String.ofList p.argument.text, ?_, by simpa using hlen⟩
    rw [nonempty?, if_neg (List.ne_nil_of_length_pos (Nat.zero_lt_of_lt hlen))]
    rfl

/-- The induction is on the text, as the next filter is read from the argument. -/
theorem wellFormed_of_parse? (hb : ∀ c ∈ text, isLineBreak c = false)
    (h : FilterCall.parse? text k = some (.ok f)) : f.WellFormed := by
  induction hn : text.length using Nat.strongRecOn generalizing text k f with
  | _ n ih =>
    subst hn
    obtain ⟨p, hp, hpre, -, -, hnext⟩ := parse?_eq_ok h
    obtain ⟨_, -, hchars, -⟩ := filterParts?_eq_some_iff.mp hp
    refine .intro (proper_of_parse? hb h) (fun ts hts t ht => ?_) (fun g hg => ?_)
    · have hread := parseAt_of_mem_readPreselector hpre hts
      obtain ⟨ps, hps, q, hq, rfl⟩ := mem_parseAt_preselector hchars hread ht
      exact wellFormed_plainToken (piece_ne_nil hps hq)
    · have harg : ∀ c ∈ p.argument.text, isLineBreak c = false :=
        fun c hc => hb c ((infix_of_filterParts? hp).2.subset hc)
      exact ih _ (length_argument_lt hp) harg (hnext g hg) rfl

theorem tidy_of_parse? (htidy : Tidy text) (h : FilterCall.parse? text k = some (.ok f)) :
    ∀ s ∈ f.texts, Tidy s.toList := by
  induction hn : text.length using Nat.strongRecOn generalizing text k f with
  | _ n ih =>
    subst hn
    intro s hs
    obtain ⟨p, hp, hpre, hname, harg, hnext⟩ := parse?_eq_ok h
    obtain ⟨_, -, hchars, -⟩ := filterParts?_eq_some_iff.mp hp
    obtain ⟨hnamein, hargin⟩ := infix_of_filterParts? hp
    rcases FilterCall.mem_texts.mp hs with ⟨ts, hts, hs⟩ | rfl | hs | ⟨g, hg, hs⟩
    · obtain ⟨t, ht, hs⟩ := Alternative.mem_texts.mp hs
      have hread := parseAt_of_mem_readPreselector hpre hts
      obtain ⟨ps, hps, q, hq, rfl⟩ := mem_parseAt_preselector hchars hread ht
      exact (tidy_piece hps hq).of_stretch (infix_of_mem_texts_plainToken hs)
    · have hstretch : p.name <:+: ':' :: p.name := (List.suffix_cons _ _).isInfix
      rw [hname, String.toList_ofList]
      exact htidy.of_stretch (hstretch.trans hnamein)
    · rw [harg] at hs
      rw [eq_of_mem_nonempty? hs]
      exact htidy.of_stretch hargin
    · exact ih _ (length_argument_lt hp) (htidy.of_stretch hargin) (hnext g hg) rfl s hs

/-- What is read from a piece of a text. -/
theorem wellFormed_and_tidy_of_parse {ps : List Piece} {p : Piece} (hps : pieces text k = .ok ps)
    (hp : p ∈ ps) {j : Nat} {t : Token} (h : Token.parse p.text j = .ok t) :
    t.WellFormed ∧ ∀ s ∈ t.texts, Tidy s.toList := by
  unfold Token.parse at h
  split at h
  · rename_i call hcall
    obtain ⟨f, rfl, rfl⟩ := Outcome.map_eq_ok_iff.mp h
    rw [Token.texts]
    exact ⟨.filter (wellFormed_of_parse? (unbroken_piece hps hp) hcall),
      tidy_of_parse? (tidy_piece hps hp) hcall⟩
  · cases h
    exact ⟨wellFormed_plainToken (piece_ne_nil hps hp),
      fun s hs => (tidy_piece hps hp).of_stretch (infix_of_mem_texts_plainToken hs)⟩

/-- All tokens have the shape of their kind, at every depth, and all texts in them are tidy. -/
structure Alternative.WellFormed (ts : Alternative) : Prop where
  tokens : ∀ t ∈ ts, t.WellFormed
  tidy : ∀ s ∈ Alternative.texts ts, Tidy s.toList

theorem wellFormed_of_parseAt {ts : Alternative} (h : Alternative.parseAt text k = .ok ts) :
    Alternative.WellFormed ts := by
  have hread : ∀ t ∈ ts, t.WellFormed ∧ ∀ s ∈ t.texts, Tidy s.toList := by
    intro t ht
    obtain ⟨ps, hps, p, hp, htoken⟩ := Alternative.mem_parseAt h ht
    exact wellFormed_and_tidy_of_parse hps hp htoken
  refine ⟨fun t ht => (hread t ht).1, fun s hs => ?_⟩
  obtain ⟨t, ht, hs⟩ := Alternative.mem_texts.mp hs
  exact (hread t ht).2 s hs

/-- Whatever is read from a text, as a selector or as one alternative, is well formed. -/
theorem parse_wellFormed (text : String) :
    (∀ x, Selector.parse text = .ok x → ∀ ts ∈ x, Alternative.WellFormed ts) ∧
      ∀ ts, Alternative.parse text = .ok ts → Alternative.WellFormed ts := by
  constructor
  · intro x hx ts hts
    obtain ⟨s, -, hpart⟩ := Outcome.mem_of_mapM_eq_ok hx hts
    exact wellFormed_of_parseAt hpart
  · intro ts hts
    exact wellFormed_of_parseAt hts

/-- A filter with a second one in its argument, both with a preselector, and blanks in between. -/
theorem parse_wellFormed_chained :
    Selector.parse "li.a:not('b.c:eq(   2)')" = .ok [[.filter
        { preselector := some [.classes { tag := some "li", classes := ["a"] }], name := "not",
          argument := some "b.c:eq( 2)", next := some
            { preselector := some [.classes { tag := some "b", classes := ["c"] }], name := "eq",
              argument := some " 2" } }]] ∧
      Alternative.WellFormed [.filter
        { preselector := some [.classes { tag := some "li", classes := ["a"] }], name := "not",
          argument := some "b.c:eq( 2)", next := some
            { preselector := some [.classes { tag := some "b", classes := ["c"] }], name := "eq",
              argument := some " 2" } }] :=
  have hparse : Selector.parse "li.a:not('b.c:eq(   2)')" = .ok [[.filter
      { preselector := some [.classes { tag := some "li", classes := ["a"] }], name := "not",
        argument := some "b.c:eq( 2)", next := some
          { preselector := some [.classes { tag := some "b", classes := ["c"] }], name := "eq",
            argument := some " 2" } }]] := by with_unfolding_all rfl
  ⟨hparse, (parse_wellFormed "li.a:not('b.c:eq(   2)')").1 _ hparse _ List.mem_cons_self⟩

end MarkupQuery
