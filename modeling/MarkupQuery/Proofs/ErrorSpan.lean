import MarkupQuery.Proofs.Reading

/-! Where a syntax error is reported. The text at fault is a piece that closes a bracket and opens
none; nested readings count their offsets in the text of a token, where every run of blanks has
become one space. So the span is that of the piece exactly when no blank, or a single byte of blank,
comes between the piece and what opens its argument. -/

namespace MarkupQuery

open Grammar

/-- A piece that closes what nothing has opened. -/
structure Offending (piece : List Char) : Prop where
  ne_nil : piece ≠ []
  solid : ∀ c ∈ piece, isBlank c = false
  closes : ']' ∈ piece ∨ ')' ∈ piece
  opens_not : '[' ∉ piece ∧ '(' ∉ piece

theorem IsWord.offending {word : List Char} (hw : IsWord word) (ht : isTail word) : Offending word := by
  obtain ⟨⟨c, hc, hclose⟩, hopen⟩ := isTail_iff.mp ht
  refine ⟨hw.ne_nil, hw.solid, ?_, hopen⟩
  rcases hclose with rfl | rfl
  · exact .inl hc
  · exact .inr hc

theorem Offending.isWord {piece : List Char} (h : Offending piece) : IsWord piece := ⟨h.ne_nil, h.solid⟩

/-- The text ends where an argument begins, after the parenthesis and perhaps a quote. -/
def EndsInOpening (text : List Char) : Prop :=
  ∃ (v : List Char) (q : Option Char), (∀ c ∈ q, isQuote c) ∧ text = v ++ '(' :: q.toList

/-- The error of a reading of `text`, which begins at byte `k`, lies at the piece; this stands, after
a gap, at the start of the text or of an argument in it. -/
structure FailsAt (text : List Char) (k : Nat) (e : ParseError) (before gap piece after : List Char) :
    Prop where
  text_eq : text = before ++ gap ++ piece ++ after
  before_eq : before = [] ∨ EndsInOpening before
  isGap : IsGap gap
  offending : Offending piece
  span_eq : e.span = Span.shift ⟨byteLength (before ++ gap), byteLength (before ++ gap ++ piece)⟩ k

/-- Only the first word of a text is ever refused. -/
theorem failsAt_of_pieces {text : List Char} {k : Nat} {e : ParseError}
    (h : pieces text k = .error e) : ∃ gap piece after, FailsAt text k e [] gap piece after := by
  obtain ⟨w, ws, hws, htail, rfl⟩ := pieces_eq_error_iff.mp h
  cases spaced_iff.mpr hws with
  | @word _ _ g w r ws hg hw hr hj _ =>
    refine ⟨g, w, r, by simp, .inl rfl, hg, hw.offending htail, ?_⟩
    simp [ParseError.strayCloser, Slice.span, Slice.stop, Span.shift, hj]
    omega

theorem failsAt_of_readPreselector {pre : List Char} (hpre : ∀ c ∈ pre, isPreselectorChar c) {k : Nat}
    {e : ParseError} (h : readPreselector pre k = .error e) :
    ∃ gap piece after, FailsAt pre k e [] gap piece after := by
  rw [← parsePreselector_eq hpre, FilterCall.parsePreselector] at h
  split at h
  · cases h
  · exact failsAt_of_pieces (Outcome.map_eq_error_iff.mp h)

theorem FailsAt.of_argument {text pre name arg tail before gap piece after : List Char}
    {q : Option Char} {k start : Nat} {e : ParseError}
    (h : FailsAt arg (k + start) e before gap piece after)
    (htext : text = pre ++ ':' :: (name ++ '(' :: (q.toList ++ arg ++ tail)))
    (hq : ∀ c ∈ q, isQuote c)
    (hstart : start = byteLength pre + byteLength name + 1 + 1 + byteLength q.toList) :
    FailsAt text k e (pre ++ ':' :: (name ++ '(' :: q.toList) ++ before) gap piece (after ++ tail) := by
  refine ⟨?_, .inr ?_, h.isGap, h.offending, ?_⟩
  · rw [htext, h.text_eq]
    simp
  · rcases h.before_eq with rfl | ⟨v, q', hq', rfl⟩
    · exact ⟨pre ++ ':' :: name, q, hq, by simp⟩
    · exact ⟨pre ++ ':' :: (name ++ '(' :: q.toList) ++ v, q', hq', by simp⟩
  · have hcolon : ':'.utf8Size = 1 := rfl
    have hparen : '('.utf8Size = 1 := rfl
    rw [h.span_eq, hstart]
    simp only [Span.shift, byteLength_append, byteLength, hcolon, hparen, Span.mk.injEq]
    omega

/-- What is at fault in the use of a filter is the start of a preselector, its own or that of an
argument at any depth. -/
theorem failsAt_of_parse? {text : List Char} {k : Nat} {e : ParseError}
    (h : FilterCall.parse? text k = some (.error e)) :
    ∃ before gap piece after, FailsAt text k e before gap piece after := by
  induction hn : text.length using Nat.strongRecOn generalizing text k with
  | _ n ih =>
    subst hn
    obtain ⟨p, hp, hfail⟩ := parse?_eq_error_iff.mp h
    obtain ⟨rest, htext, hpre, -, -, harg⟩ := filterParts?_eq_some_iff.mp hp
    rcases hfail with hown | ⟨-, hnext⟩
    · obtain ⟨gap, piece, after, hf⟩ := failsAt_of_readPreselector hpre hown
      exact ⟨[], gap, piece, after ++ ':' :: (p.name ++ rest),
        by rw [htext, hf.text_eq]; simp, hf.before_eq, hf.isGap, hf.offending, hf.span_eq⟩
    · obtain ⟨before, gap, piece, after, hf⟩ := ih _ (length_argument_lt hp) hnext rfl
      rcases harg with ⟨-, harg⟩ | harg
      · rw [harg, parse?_of_no_colon (by simp)] at hnext
        cases hnext
      · obtain ⟨q, q', hq, -, rfl, hstart⟩ := argument?_eq_some harg
        rw [List.append_assoc _ q'.toList] at htext
        exact ⟨_, gap, piece, _, hf.of_argument htext hq hstart⟩

/-! From the text of a token back to the text that it was read from. -/

/-- A word that is found right after a gap is found at the start of the first word. -/
theorem starts_first_word {w tail gap piece after : List Char} (hw : IsWord w)
    (htail : Stops isSolid tail) (hg : IsGap gap) (hp : IsWord piece)
    (h : w ++ tail = gap ++ piece ++ after) : gap = [] ∧ ∃ r, w = piece ++ r := by
  cases gap with
  | cons c g =>
    have hs := hg.stops (r := piece ++ after) (.inl (by simp))
    rw [← List.append_assoc, ← h] at hs
    exact absurd hs hw.not_stops
  | nil =>
    refine ⟨rfl, ?_⟩
    rcases List.append_eq_append_iff.mp h with ⟨r, hr, htail'⟩ | ⟨r, hr, -⟩
    · cases r with
      | nil => exact ⟨[], by simpa using hr.symm⟩
      | cons c cs =>
        rw [htail', List.cons_append, stops_cons] at htail
        have hc := hp.solid c (by rw [show piece = w ++ c :: cs from hr]; simp)
        simp [isSolid, hc] at htail
    · exact ⟨r, hr⟩

/-- Where no parenthesis opens after the first word, all that comes before an argument is in it. -/
theorem opening_in_first_word {w tail u rest : List Char} (hstop : Stops isSolid tail)
    (hparen : '(' ∉ tail) (hu : EndsInOpening u) (h : w ++ tail = u ++ rest) :
    ∃ r, w = u ++ r ∧ r ++ tail = rest := by
  obtain ⟨v, q, hq, rfl⟩ := hu
  have hcut : ∃ r, w = v ++ ['('] ++ r ∧ r ++ tail = q.toList ++ rest := by
    rw [show v ++ '(' :: q.toList ++ rest = v ++ ['('] ++ (q.toList ++ rest) by simp] at h
    rcases List.append_eq_append_iff.mp h with ⟨r, hr, htail⟩ | ⟨r, hr, hrest⟩
    · rcases List.eq_nil_or_concat r with rfl | ⟨r, c, rfl⟩
      · exact ⟨[], by simpa using hr.symm, by simpa using htail⟩
      · rw [List.concat_eq_append, ← List.append_assoc] at hr
        obtain ⟨-, hc⟩ := List.append_inj' hr rfl
        cases hc
        exact absurd (by simp [htail]) hparen
    · exact ⟨r, hr, hrest.symm⟩
  obtain ⟨r, hr, hrest⟩ := hcut
  cases q with
  | none => exact ⟨r, by simpa using hr, hrest⟩
  | some c =>
    have hc : isSolid c = true := by
      have := hq c rfl
      simp only [isQuote, Bool.or_eq_true, beq_iff_eq] at this
      rcases this with rfl | rfl <;> rfl
    cases r with
    | nil =>
      rw [List.nil_append] at hrest
      rw [hrest, Option.toList_some, List.singleton_append, stops_cons, hc] at hstop
      cases hstop
    | cons d r =>
      obtain ⟨rfl, hsame⟩ := List.cons.inj hrest
      exact ⟨r, by simpa using hr, hsame⟩

/-- The error of a reading of `text`, which begins at byte `k`, is reported at the end of `before`
or, if a gap comes between that and the piece, one byte after it. -/
structure ReportedAt (text : List Char) (k : Nat) (e : ParseError)
    (before gap piece after : List Char) : Prop where
  text_eq : text = before ++ gap ++ piece ++ after
  opening : gap ≠ [] → EndsInOpening before
  isGap : IsGap gap
  offending : Offending piece
  span_eq : e.span = Span.shift ⟨byteLength before + min 1 (byteLength gap),
    byteLength before + min 1 (byteLength gap) + byteLength piece⟩ k

theorem reportedAt_of_pieces {text : List Char} {k : Nat} {e : ParseError}
    (h : pieces text k = .error e) : ∃ before piece after, ReportedAt text k e before [] piece after := by
  obtain ⟨gap, piece, after, hf⟩ := failsAt_of_pieces h
  exact ⟨gap, piece, after, by simpa using hf.text_eq, by simp, .nil, hf.offending,
    by simpa using hf.span_eq⟩

theorem stops_joined {ts : List Slice} : Stops isSolid (ts.flatMap fun t => ' ' :: t.text) := by
  cases ts with
  | nil => exact stops_nil _
  | cons t ts => exact stops_cons.mpr rfl

theorem no_opening_in_tails {ts : List Slice} (hts : ∀ t ∈ ts, isTail t.text) :
    '(' ∉ ts.flatMap fun t => ' ' :: t.text := by
  intro h
  obtain ⟨t, ht, h⟩ := List.mem_flatMap.mp h
  rcases List.mem_cons.mp h with h | h
  · cases h
  · exact (isTail_iff.mp (hts t ht)).2.2 h

theorem starts_tail {t : Slice} {ts : List Slice} {gap piece after : List Char} (ht : IsWord t.text)
    (hg : IsGap gap) (hp : IsWord piece)
    (h : ((t :: ts).flatMap fun t => ' ' :: t.text) = gap ++ piece ++ after) :
    gap = [' '] ∧ ∃ r, t.text = piece ++ r := by
  rw [List.flatMap_cons, List.cons_append] at h
  cases gap with
  | nil =>
    have hs : Stops isSolid (piece ++ after) := by
      rw [← List.nil_append (piece ++ after), ← List.append_assoc, ← h]
      exact stops_cons.mpr rfl
    exact absurd hs hp.not_stops
  | cons c g =>
    obtain ⟨rfl, hsame⟩ := List.cons.inj h
    obtain ⟨rfl, hr⟩ := starts_first_word ht stops_joined (List.forall_mem_cons.mp hg).2 hp hsame
    exact ⟨rfl, hr⟩

/-- Where the piece begins the word after an opening, the joined text has one space and the text
itself the whole gap. -/
theorem reportedAt_next_word {before u rest piece r : List Char} {k j : Nat} {t : Slice}
    {ts : List Slice} {e : ParseError} (hu : EndsInOpening u) (hstop : Stops isSolid rest)
    (hws : Spaced j rest (t :: ts)) (hp : Offending piece) (ht : t.text = piece ++ r)
    (hspan : e.span = Span.shift ⟨byteLength (before ++ u) + 1,
      byteLength (before ++ u) + 1 + byteLength piece⟩ k) :
    ∃ before' gap piece after, ReportedAt (before ++ u ++ rest) k e before' gap piece after := by
  cases hws with
  | @word _ j g w r' ws hg hw hs hj _ =>
    obtain rfl : w = piece ++ r := ht
    have hg0 : byteLength g ≠ 0 := by
      intro h0
      rw [byteLength_eq_zero.mp h0] at hstop
      exact hw.not_stops hstop
    refine ⟨before ++ u, g, piece, r ++ r', by simp, fun _ => ?_, hg, hp, ?_⟩
    · obtain ⟨v, q, hq, rfl⟩ := hu
      exact ⟨before ++ v, q, hq, by simp⟩
    · rw [hspan, Nat.min_eq_left (by omega)]

/-- The piece at fault stands in the first word of its token or at the start of the second. -/
theorem reportedAt_of_word {text : List Char} {k : Nat} {w : Slice} {us ts vs : List Slice}
    (hws : Spaced k text (us ++ w :: (ts ++ vs))) (hts : ∀ t ∈ ts, isTail t.text)
    {e : ParseError} {u gap piece after : List Char}
    (hf : FailsAt (joined w.text ts) w.start e u gap piece after) :
    ∃ before gap piece after, ReportedAt text k e before gap piece after := by
  obtain ⟨before, rest, rfl, hstart, hword, hrest, hlater⟩ := hws.split
  have hjoin := hf.text_eq
  rw [joined] at hjoin
  -- what comes before the argument at fault is in the first word
  obtain ⟨r, hw, hr⟩ : ∃ r, w.text = u ++ r ∧
      (r ++ ts.flatMap fun t => ' ' :: t.text) = gap ++ piece ++ after := by
    rcases hf.before_eq with rfl | hu
    · exact ⟨w.text, rfl, by simpa using hjoin⟩
    · exact opening_in_first_word stops_joined (no_opening_in_tails hts) hu (by simpa using hjoin)
  by_cases hr0 : r = []
  · subst hr0
    rw [List.append_nil] at hw
    have hu : EndsInOpening u := hf.before_eq.resolve_left fun h => hword.ne_nil (hw.trans h)
    cases ts with
    | nil => exact absurd hr.symm (by simp [hf.offending.ne_nil])
    | cons t ts =>
      have ht : IsWord t.text := by
        cases hlater with
        | word _ ht => exact ht
      obtain ⟨rfl, r', hr'⟩ := starts_tail ht hf.isGap hf.offending.isWord hr
      rw [hw]
      refine reportedAt_next_word hu hrest hlater hf.offending hr' ?_
      have hspace : ' '.utf8Size = 1 := rfl
      rw [hf.span_eq, hstart]
      simp only [Span.shift, byteLength_append, byteLength, hspace, Span.mk.injEq]
      omega
  · have hrword : IsWord r := ⟨hr0, fun c hc => hword.solid c (by simp [hw, hc])⟩
    obtain ⟨rfl, r', rfl⟩ := starts_first_word hrword stops_joined hf.isGap hf.offending.isWord hr
    refine ⟨before ++ u, [], piece, r' ++ rest, by rw [hw]; simp, by simp, .nil, hf.offending, ?_⟩
    rw [hf.span_eq, hstart]
    simp [Span.shift]
    omega

theorem ReportedAt.within {text before gap piece after b a : List Char} {k d : Nat} {e : ParseError}
    (h : ReportedAt text (k + d) e before gap piece after) (hd : d = byteLength b) :
    ReportedAt (b ++ text ++ a) k e (b ++ before) gap piece (after ++ a) := by
  refine ⟨by rw [h.text_eq]; simp, fun hg => ?_, h.isGap, h.offending, ?_⟩
  · obtain ⟨v, q, hq, rfl⟩ := h.opening hg
    exact ⟨b ++ v, q, hq, by simp⟩
  · rw [h.span_eq, hd]
    simp only [Span.shift, byteLength_append, Span.mk.injEq]
    omega

theorem reportedAt_of_parseAt {text : List Char} {k : Nat} {e : ParseError}
    (h : Alternative.parseAt text k = .error e) :
    ∃ before gap piece after, ReportedAt text k e before gap piece after := by
  rcases Outcome.bind_eq_error_iff.mp h with hps | ⟨ps, hps, hmap⟩
  · obtain ⟨before, piece, after, hr⟩ := reportedAt_of_pieces hps
    exact ⟨before, [], piece, after, hr⟩
  · obtain ⟨qs, p, rs, rfl, -, hp⟩ := Outcome.mapM_eq_error_iff.mp hmap
    obtain ⟨us, w, ts, vs, hws, -, hts, rfl⟩ := (grouped_of_pieces hps).mem (p := p) (by simp)
    obtain ⟨u, gap, piece, after, hf⟩ := failsAt_of_parse? (Token.parse_eq_error_iff.mp hp)
    exact reportedAt_of_word (spaced_iff.mpr hws) hts hf

theorem reportedAt_of_parse {text : String} {e : ParseError} (h : Selector.parse text = .error e) :
    ∃ before gap piece after, ReportedAt text.toList 0 e before gap piece after := by
  obtain ⟨qs, s, rs, hsplit, -, hs⟩ := Outcome.mapM_eq_error_iff.mp h
  have hmem : s ∈ splitCommas text.toList := by simp [hsplit]
  obtain ⟨b, a, htext, hstart⟩ := mem_splitCommasFrom hmem
  obtain ⟨before, gap, piece, after, hr⟩ := reportedAt_of_parseAt hs
  rw [htext]
  rw [hstart] at hr
  exact ⟨_, gap, piece, _, hr.within rfl⟩

/-- The span fits the text and shows a piece there that closes what nothing has opened. -/
def Span.ShowsFault (s : Span) (text : List Char) : Prop :=
  ∃ before piece after, s.cut? text = some (before, piece, after) ∧ Offending piece

section
variable {text before gap piece after : List Char} {e : ParseError}

theorem ReportedAt.cut?_eq (h : ReportedAt text 0 e before gap piece after)
    (hgap : byteLength gap ≤ 1) : e.span.cut? text = some (before ++ gap, piece, after) := by
  refine Span.cut?_eq_some_iff.mpr ⟨h.text_eq, ?_⟩
  rw [h.span_eq]
  simp only [Span.shift, byteLength_append, Span.mk.injEq]
  omega

/-- After a longer gap the span begins at a blank, or within one. -/
theorem ReportedAt.not_showsFault (h : ReportedAt text 0 e before gap piece after)
    (hgap : 1 < byteLength gap) : ¬ e.span.ShowsFault text := by
  rintro ⟨b, p, a, hcut, hp⟩
  obtain ⟨htext, hspan⟩ := Span.cut?_eq_some_iff.mp hcut
  have hb : byteLength b = byteLength before + 1 := by
    rw [h.span_eq] at hspan
    have := congrArg Span.start hspan
    simp only [Span.shift] at this
    omega
  rw [h.text_eq, List.append_assoc, List.append_assoc, List.append_assoc] at htext
  rcases List.append_eq_append_iff.mp htext with ⟨r, rfl, hrest⟩ | ⟨r, rfl, -⟩
  · have hr : byteLength r = 1 := by simpa using hb
    rcases List.append_eq_append_iff.mp hrest with ⟨r', rfl, -⟩ | ⟨r', rfl, hsame⟩
    · rw [byteLength_append] at hr
      omega
    · have hne : r' ≠ [] := by
        rintro rfl
        simp [hr] at hgap
      have hstop := IsGap.stops (r := piece ++ after) (List.forall_mem_append.mp h.isGap).2 (.inl hne)
      rw [← hsame] at hstop
      exact hp.isWord.not_stops hstop
  · rw [byteLength_append] at hb
    omega

theorem ReportedAt.showsFault_iff (h : ReportedAt text 0 e before gap piece after) :
    e.span.ShowsFault text ↔ byteLength gap ≤ 1 :=
  ⟨fun hs => Nat.le_of_not_lt fun hgap => h.not_showsFault hgap hs,
    fun hgap => ⟨_, _, _, h.cut?_eq hgap, h.offending⟩⟩

end

/-- A syntax error is reported at the piece at fault, unless a gap of more than one byte stands
between the piece and the opening of the argument that it begins; then the span misses it. -/
theorem parse_error_showsFault_iff {text : String} {e : ParseError}
    (h : Selector.parse text = .error e) :
    ∃ before gap piece after, ReportedAt text.toList 0 e before gap piece after ∧
      (byteLength gap ≤ 1 → e.span.cut? text.toList = some (before ++ gap, piece, after)) ∧
      (e.span.ShowsFault text.toList ↔ byteLength gap ≤ 1) := by
  obtain ⟨before, gap, piece, after, hr⟩ := reportedAt_of_parse h
  exact ⟨before, gap, piece, after, hr, hr.cut?_eq, hr.showsFault_iff⟩

theorem parse_error_showsFault_iff_nested :
    Selector.parse "a, b:not(:is( ]:x))" = .error (.strayCloser ⟨14, 15⟩) ∧
      ∃ before gap piece after,
        ReportedAt "a, b:not(:is( ]:x))".toList 0 (.strayCloser ⟨14, 15⟩) before gap piece after ∧
        (byteLength gap ≤ 1 → Span.cut? ⟨14, 15⟩ "a, b:not(:is( ]:x))".toList =
          some (before ++ gap, piece, after)) ∧
        (Span.ShowsFault ⟨14, 15⟩ "a, b:not(:is( ]:x))".toList ↔ byteLength gap ≤ 1) :=
  ⟨by with_unfolding_all rfl, parse_error_showsFault_iff (by with_unfolding_all rfl)⟩

/-- Of three spaces in front of the piece two are not counted. -/
theorem parse_error_misses_fault :
    Selector.parse ":not(   ]:x)" = .error (.strayCloser ⟨6, 7⟩) ∧
      ¬ Span.ShowsFault ⟨6, 7⟩ ":not(   ]:x)".toList := by
  refine ⟨by with_unfolding_all rfl, ?_⟩
  rintro ⟨b, p, a, hcut, hp⟩
  rw [show Span.cut? ⟨6, 7⟩ ":not(   ]:x)".toList = some (":not( ".toList, [' '], " ]:x)".toList) from
    by decide] at hcut
  obtain ⟨-, rfl, -⟩ := hcut
  exact absurd (hp.solid ' ' (by simp)) (by decide)

end MarkupQuery
