import MarkupQuery.Proofs.Pieces

/-! What the pieces of a text cover. Words stand apart, and every character that is no blank is in one
of them. A piece is a run of words, so the spans of the pieces are in order, fit the text and have all
of it between them but blanks. The parts between commas have all of it but the commas. -/

namespace MarkupQuery

/-- A character of two texts put together is in the first of them or in the second. -/
theorem append_eq_append_cons {a b before after : List Char} {c : Char}
    (h : a ++ b = before ++ c :: after) :
    (∃ u, a = before ++ c :: u) ∨ ∃ u, before = a ++ u ∧ b = u ++ c :: after := by
  rcases List.append_eq_append_iff.mp h with ⟨u, hbefore, hb⟩ | ⟨u, ha, hafter⟩
  · exact .inr ⟨u, hbefore, hb⟩
  · cases u with
    | nil => exact .inr ⟨[], by simp [ha], by simpa using hafter.symm⟩
    | cons d u =>
      obtain ⟨rfl, -⟩ := List.cons.inj hafter
      exact .inl ⟨u, ha⟩

theorem Slice.start_le_stop (s : Slice) : s.start ≤ s.stop := Nat.le_add_right _ _

/-! The words of a text. -/

namespace Spaced

variable {k : Nat} {text : List Char} {ws : List Slice}

theorem start_le (h : Spaced k text ws) : ∀ w ∈ ws, k ≤ w.start := by
  induction h with
  | gap => simp
  | word _ _ _ hj _ ih =>
    refine List.forall_mem_cons.mpr ⟨?_, fun w hw => ?_⟩
    · dsimp only
      omega
    · have := ih w hw
      omega

/-- Where the text begins with a blank, its words begin later. -/
theorem start_lt (h : Spaced k text ws) (hs : Stops isSolid text) : ∀ w ∈ ws, k < w.start := by
  cases h with
  | gap => simp
  | @word _ j g w r ws hg hw hr hj h =>
    have hgap : byteLength g ≠ 0 := by
      intro h0
      rw [byteLength_eq_zero.mp h0] at hs
      exact hw.not_stops hs
    refine List.forall_mem_cons.mpr ⟨?_, fun v hv => ?_⟩
    · dsimp only
      omega
    · have := h.start_le v hv
      omega

theorem ordered (h : Spaced k text ws) : ws.Pairwise fun v w => v.stop < w.start := by
  induction h with
  | gap => exact .nil
  | word _ _ hr _ h ih => exact .cons (h.start_lt hr) ih

/-- Every character that is no blank is in a word. -/
theorem covered (h : Spaced k text ws) {before after : List Char} {c : Char}
    (htext : text = before ++ c :: after) (hc : isBlank c = false) :
    ∃ w ∈ ws, w.start ≤ k + byteLength before ∧ k + byteLength before + c.utf8Size ≤ w.stop := by
  have hgap {g u v : List Char} (hg : IsGap g) : g ≠ u ++ c :: v := by
    rintro rfl
    have hblank := hg c (by simp)
    rw [hc] at hblank
    cases hblank
  induction h generalizing before with
  | gap hg => exact absurd htext (hgap hg)
  | @word k j g w r ws hg hw hr hj h ih =>
    rcases append_eq_append_cons htext with ⟨u, hgw⟩ | ⟨u, rfl, hrest⟩
    · rcases append_eq_append_cons hgw with ⟨v, hg'⟩ | ⟨v, rfl, rfl⟩
      · exact absurd hg' (hgap hg)
      · refine ⟨_, List.mem_cons_self, ?_⟩
        simp only [Slice.stop, byteLength_append, byteLength]
        omega
    · obtain ⟨v, hv, hstart, hstop⟩ := ih hrest
      refine ⟨v, List.mem_cons_of_mem _ hv, ?_⟩
      simp only [byteLength_append]
      omega

/-- A run of words ends where its last word does. -/
theorem exists_run {ts vs : List Slice} (h : Spaced k text (ts ++ vs)) :
    ∃ run rest, text = run ++ rest ∧
      ∀ w : Slice, w.stop = k → (ts.getLastD w).stop = k + byteLength run := by
  induction ts generalizing k text with
  | nil => exact ⟨[], text, rfl, fun w hw => by simpa using hw⟩
  | cons t ts ih =>
    cases h with
    | @word _ j g w r _ hg hw hr hj h =>
      obtain ⟨run, rest, rfl, hstop⟩ := ih h
      refine ⟨g ++ w ++ run, rest, by simp, fun _ _ => ?_⟩
      rw [List.getLastD_cons, hstop _ rfl]
      simp only [hj, byteLength_append]
      omega

end Spaced

/-! Words in order, in groups. -/

section
variable {w : Slice} {ts us : List Slice}

theorem start_le_of_mem (h : (w :: ts).Pairwise fun v w => v.stop < w.start) :
    ∀ v ∈ w :: ts, w.start ≤ v.start := by
  obtain ⟨hw, -⟩ := List.pairwise_cons.mp h
  refine List.forall_mem_cons.mpr ⟨Nat.le_refl _, fun v hv => ?_⟩
  have hlt := hw v hv
  have hle := w.start_le_stop
  omega

theorem stop_le_last (h : (w :: ts).Pairwise fun v w => v.stop < w.start) :
    ∀ v ∈ w :: ts, v.stop ≤ (ts.getLastD w).stop := by
  induction ts generalizing w with
  | nil => simp
  | cons t ts ih =>
    obtain ⟨hw, hts⟩ := List.pairwise_cons.mp h
    rw [List.getLastD_cons]
    refine List.forall_mem_cons.mpr ⟨?_, ih hts⟩
    have hlt := hw t List.mem_cons_self
    have hle := t.start_le_stop
    have hlast := ih hts t List.mem_cons_self
    omega

end

namespace Grouped

variable {ws : List Slice} {ps : List Piece}

/-- Every word is in a piece. -/
theorem covered (h : Grouped ws ps) (ho : ws.Pairwise fun v w => v.stop < w.start) :
    ∀ v ∈ ws, ∃ p ∈ ps, p.span.start ≤ v.start ∧ v.stop ≤ p.span.stop := by
  induction h with
  | nil => simp
  | @cons w ts us ps _ _ _ _ ih =>
    rw [← List.cons_append, List.pairwise_append] at ho
    intro v hv
    rw [← List.cons_append] at hv
    rcases List.mem_append.mp hv with hv | hv
    · exact ⟨_, List.mem_cons_self, start_le_of_mem ho.1 v hv, stop_le_last ho.1 v hv⟩
    · obtain ⟨p, hp, hcover⟩ := ih ho.2.1 v hv
      exact ⟨p, List.mem_cons_of_mem _ hp, hcover⟩

theorem ordered (h : Grouped ws ps) (ho : ws.Pairwise fun v w => v.stop < w.start) :
    ps.Pairwise fun p q => p.span.stop < q.span.start := by
  induction h with
  | nil => exact .nil
  | @cons w ts us ps _ _ _ hps ih =>
    rw [← List.cons_append, List.pairwise_append] at ho
    refine .cons (fun q hq => ?_) (ih ho.2.1)
    obtain ⟨vs, v, ts', vs', rfl, -, -, rfl⟩ := hps.mem hq
    exact ho.2.2 _ List.getLastD_mem_cons v (by simp)

/-- Words go into pieces in one way only. -/
theorem collect_eq (h : Grouped ws ps) {w : Slice} {us : List Slice} (hws : ws = w :: us) :
    ps = (Piece.ofWord w).collect us := by
  induction h generalizing w us with
  | nil => cases hws
  | @cons w ts us ps hw hts hus hps ih =>
    cases hws
    cases us with
    | nil =>
      cases hps
      rw [List.append_nil, ← Piece.ofWords_nil, Piece.collect_tails hts, List.nil_append]
    | cons u us =>
      rw [Piece.collect_append _ _ (hus u rfl), ← ih rfl, ← Piece.ofWords_nil,
        Piece.collect_tails hts, List.nil_append, List.singleton_append]

theorem unique {qs : List Piece} (h : Grouped ws ps) (h' : Grouped ws qs) : ps = qs := by
  cases ws with
  | nil =>
    cases h
    cases h'
    rfl
  | cons w us => exact (h.collect_eq rfl).trans (h'.collect_eq rfl).symm

end Grouped

/-- Where the first word is no tail, the pieces are the groups of the words. -/
theorem pieces_eq_ok_iff {text : List Char} {k : Nat} {ps : List Piece} :
    pieces text k = .ok ps ↔ Grouped (wordsFrom k text) ps := by
  refine ⟨grouped_of_pieces, fun h => ?_⟩
  cases hpieces : pieces text k with
  | ok qs => rw [(grouped_of_pieces hpieces).unique h]
  | error e =>
    obtain ⟨w, ws, hws, htail, -⟩ := pieces_eq_error_iff.mp hpieces
    rw [hws] at h
    cases h with
    | cons hw => rw [htail] at hw; cases hw

/-! The spans of the pieces. -/

/-- The spans fit the text, none is empty, each ends before the next begins, and every character
that is no blank lies in one of them. -/
structure SpansCover (ss : List Span) (text : List Char) : Prop where
  fits : ∀ s ∈ ss, s.fits text
  start_lt_stop : ∀ s ∈ ss, s.start < s.stop
  ordered : ss.Pairwise fun s t => s.stop < t.start
  covered : ∀ before c after, text = before ++ c :: after → isBlank c = false →
    ∃ s ∈ ss, s.start ≤ byteLength before ∧ byteLength before + c.utf8Size ≤ s.stop

theorem Spaced.span_of_run {text : List Char} {us ts vs : List Slice} {w : Slice}
    (h : Spaced 0 text (us ++ w :: (ts ++ vs))) :
    ∃ before inside after, inside ≠ [] ∧
      (Piece.ofWords w ts).span.cut? text = some (before, inside, after) := by
  obtain ⟨before, rest, rfl, hstart, hword, -, hrest⟩ := h.split
  obtain ⟨run, after, rfl, hstop⟩ := hrest.exists_run
  refine ⟨before, w.text ++ run, after, by simp [hword.ne_nil], Span.cut?_eq_some_iff.mpr ⟨by simp, ?_⟩⟩
  simp only [Piece.ofWords, hstop w rfl, hstart, byteLength_append, Span.mk.injEq]
  omega

theorem spansCover_of_grouped {text : List Char} {ws : List Slice} {ps : List Piece}
    (hws : Spaced 0 text ws) (hps : Grouped ws ps) : SpansCover (ps.map Piece.span) text := by
  have hcut : ∀ s ∈ ps.map Piece.span, ∃ before inside after, inside ≠ [] ∧
      s.cut? text = some (before, inside, after) := by
    intro s hs
    obtain ⟨p, hp, rfl⟩ := List.mem_map.mp hs
    obtain ⟨us, w, ts, vs, rfl, -, -, rfl⟩ := hps.mem hp
    exact hws.span_of_run
  constructor
  · intro s hs
    obtain ⟨before, inside, after, -, hcut⟩ := hcut s hs
    simp [Span.fits, hcut]
  · intro s hs
    obtain ⟨before, inside, after, hne, hcut⟩ := hcut s hs
    obtain ⟨-, rfl⟩ := Span.cut?_eq_some_iff.mp hcut
    have hpos : byteLength inside ≠ 0 := fun h0 => hne (byteLength_eq_zero.mp h0)
    dsimp only
    omega
  · exact List.pairwise_map.mpr (hps.ordered hws.ordered)
  · intro before c after htext hc
    obtain ⟨w, hw, hstart, hstop⟩ := hws.covered htext hc
    obtain ⟨p, hp, hle, hge⟩ := hps.covered hws.ordered w hw
    refine ⟨p.span, List.mem_map_of_mem hp, ?_⟩
    omega

/-! The parts between commas. -/

theorem not_mem_splitCommasFrom {k : Nat} {text : List Char} {s : Slice}
    (hs : s ∈ splitCommasFrom k text) : ',' ∉ s.text := by
  have hs : s.text ∈ text.splitOn ',' := map_text_splitCommasFrom k text ▸ List.mem_map_of_mem hs
  exact not_mem_of_mem_splitOn hs

/-- A part begins after the parts before it and a comma after each of them. -/
theorem start_of_splitCommasFrom {k : Nat} {text : List Char} {us vs : List Slice} {s : Slice}
    (h : splitCommasFrom k text = us ++ s :: vs) :
    s.start = k + byteLength (us.flatMap fun u => u.text ++ [',']) := by
  have hcomma : ','.utf8Size = 1 := rfl
  induction text generalizing k us with
  | nil =>
    cases us with
    | nil =>
      cases h
      rfl
    | cons u us => simp [splitCommasFrom] at h
  | cons c cs ih =>
    rw [splitCommasFrom] at h
    by_cases hc : c = ','
    · rw [if_pos hc] at h
      cases us with
      | nil =>
        cases h
        rfl
      | cons u us =>
        obtain ⟨rfl, hrest⟩ := List.cons.inj h
        rw [ih hrest, hc]
        simp only [List.flatMap_cons, byteLength_append, byteLength, List.nil_append]
        omega
    · obtain ⟨first, rest, later, heq, -⟩ := splitCommasFrom_eq_cons (k + c.utf8Size) cs
      rw [if_neg hc, heq] at h
      cases us with
      | nil =>
        cases h
        rfl
      | cons u us =>
        obtain ⟨rfl, hrest⟩ := List.cons.inj h
        rw [@ih (k + c.utf8Size) (⟨k + c.utf8Size, first⟩ :: us) (by rw [heq, hrest]; rfl)]
        simp only [List.flatMap_cons, byteLength_append, byteLength]
        omega

/-- How a text that begins at byte `k` falls into pieces, and a text into parts. The words are those
of the one layout of the text. A tail as the first of them is refused, with its span; else every word
that is no tail makes a piece with the tails right after it, and there is one way to group the words
so. The parts begin one byte after each other, and a comma between each two gives the text back. -/
theorem pieces_and_parts (text : List Char) (k : Nat) :
    (∀ word, isTail word ↔ (∃ c ∈ word, c = ']' ∨ c = ')') ∧ '[' ∉ word ∧ '(' ∉ word) ∧
    (∃ ws, (∀ vs, Spaced 0 text vs ↔ vs = ws) ∧
      (∀ e, pieces text k = .error e ↔
        ∃ w ∈ ws.head?, isTail w.text ∧ e = .strayCloser (w.span.shift k)) ∧
      (∀ qs, pieces text k = .ok qs ↔ ∃ ps, Grouped ws ps ∧ qs = ps.map (·.shift k)) ∧
      ∀ ps, Grouped ws ps → (∀ qs, Grouped ws qs → qs = ps) ∧ SpansCover (ps.map Piece.span) text) ∧
    (∀ s ∈ splitCommas text, ',' ∉ s.text) ∧
    [','].intercalate ((splitCommas text).map Slice.text) = text ∧
    ∀ us s vs, splitCommas text = us ++ s :: vs →
      s.start = byteLength (us.flatMap fun u => u.text ++ [',']) := by
  have hshift : pieces text k = ((pieces text 0).map (·.map (·.shift k))).mapError (·.shift k) := by
    simpa using pieces_shift text 0 k
  have hwords : wordsFrom k text = (wordsFrom 0 text).map (·.shift k) := by
    simpa using wordsFrom_shift 0 k text
  refine ⟨fun _ => isTail_iff, ⟨wordsFrom 0 text, ?_, ?_, ?_, ?_⟩, ?_, ?_, ?_⟩
  · intro vs
    exact spaced_iff.trans eq_comm
  · intro e
    rw [pieces_eq_error_iff, hwords]
    cases wordsFrom 0 text with
    | nil => simp
    | cons w ws => simp [Slice.span_shift]
  · intro qs
    rw [hshift]
    simp only [← pieces_eq_ok_iff]
    cases pieces text 0 with
    | error e => simp
    | ok ps => simp [eq_comm]
  · intro ps hps
    exact ⟨fun qs hqs => hqs.unique hps, spansCover_of_grouped (spaced_wordsFrom 0 text) hps⟩
  · intro s hs
    exact not_mem_splitCommasFrom hs
  · rw [splitCommas, map_text_splitCommasFrom, List.intercalate_splitOn]
  · intro us s vs h
    simpa using start_of_splitCommasFrom h

end MarkupQuery
