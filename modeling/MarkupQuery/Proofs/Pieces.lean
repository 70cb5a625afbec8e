import MarkupQuery.Proofs.Outcome
import MarkupQuery.Proofs.Words

/-! Pieces as groups of words. Each piece is a word that is no tail with all the tails right after
it, so pieces of texts that meet at a blank go one after the other, and pieces move along with
their text. -/

namespace MarkupQuery

/-- The text of a piece: a word and further words, with single spaces between them. -/
def joined (w : List Char) (ts : List Slice) : List Char := w ++ ts.flatMap fun t => ' ' :: t.text

@[simp] theorem joined_nil (w : List Char) : joined w [] = w := by simp [joined]

theorem isTail_iff {word : List Char} :
    isTail word ↔ (∃ c ∈ word, c = ']' ∨ c = ')') ∧ '[' ∉ word ∧ '(' ∉ word := by
  simp only [isTail, Bool.and_eq_true, List.any_eq_true, Bool.or_eq_true, beq_iff_eq,
    Bool.not_eq_true', List.any_eq_false, not_or]
  refine and_congr_right fun _ => ⟨fun h => ⟨fun hc => (h _ hc).1 rfl, fun hc => (h _ hc).2 rfl⟩, ?_⟩
  rintro ⟨hs, hp⟩ c hc
  exact ⟨fun e => hs (e ▸ hc), fun e => hp (e ▸ hc)⟩

namespace Piece

/-- The piece of a word and the tails after it. -/
def ofWords (w : Slice) (ts : List Slice) : Piece :=
  ⟨joined w.text ts, w.start, (ts.getLastD w).stop⟩

theorem ofWords_nil (w : Slice) : ofWords w [] = ofWord w := by simp [ofWords, ofWord, Slice.span]

theorem extend_ofWords (w t : Slice) (ts : List Slice) :
    (ofWords w ts).extend t = ofWords w (ts ++ [t]) := by
  simp [ofWords, extend, joined]

end Piece

/-- Which words go into which piece: a word that is no tail, with the tails up to the next such. -/
inductive Grouped : List Slice → List Piece → Prop where
  | nil : Grouped [] []
  | cons {w : Slice} {ts us : List Slice} {ps : List Piece} :
      isTail w.text = false → (∀ t ∈ ts, isTail t.text) → (∀ u ∈ us.head?, isTail u.text = false) →
      Grouped us ps → Grouped (w :: (ts ++ us)) (.ofWords w ts :: ps)

theorem Grouped.mem {ws : List Slice} {ps : List Piece} (h : Grouped ws ps) {p : Piece}
    (hp : p ∈ ps) : ∃ us w ts vs, ws = us ++ w :: (ts ++ vs) ∧ isTail w.text = false ∧
      (∀ t ∈ ts, isTail t.text) ∧ p = .ofWords w ts := by
  induction h with
  | nil => simp at hp
  | @cons w ts us ps hw hts hus _ ih =>
    rcases List.mem_cons.mp hp with rfl | hp
    · exact ⟨[], w, ts, us, rfl, hw, hts, rfl⟩
    · obtain ⟨us', w', ts', vs', rfl, h⟩ := ih hp
      exact ⟨w :: (ts ++ us'), w', ts', vs', by simp, h⟩

namespace Piece

theorem grouped_collect {w : Slice} {ts : List Slice} (hw : isTail w.text = false)
    (hts : ∀ t ∈ ts, isTail t.text) (ws : List Slice) :
    Grouped (w :: (ts ++ ws)) ((ofWords w ts).collect ws) := by
  induction ws generalizing w ts with
  | nil => exact .cons hw hts (by simp) .nil
  | cons v ws ih =>
    rw [collect]
    split
    · rename_i hv
      rw [extend_ofWords, List.append_cons]
      exact ih hw (List.forall_mem_append.mpr ⟨hts, by simpa using hv⟩)
    · rename_i hv
      have hv' : isTail v.text = false := by simpa using hv
      have hrest := @ih v [] hv' (by simp)
      rw [ofWords_nil] at hrest
      exact .cons hw hts (by simpa using hv') hrest

theorem collect_append (p : Piece) (ws : List Slice) {v : Slice} (hv : isTail v.text = false)
    (vs : List Slice) : p.collect (ws ++ v :: vs) = p.collect ws ++ (ofWord v).collect vs := by
  induction ws generalizing p with
  | nil => simp [collect, hv]
  | cons w ws ih =>
    simp only [List.cons_append, collect]
    split
    · exact ih _
    · rw [ih, List.cons_append]

/-- Where no tail follows, every word is a piece. -/
theorem collect_of_no_tail {ws : List Slice} (h : ∀ w ∈ ws, isTail w.text = false) (p : Piece) :
    p.collect ws = p :: ws.map ofWord := by
  induction ws generalizing p with
  | nil => rfl
  | cons w ws ih =>
    obtain ⟨hw, hws⟩ := List.forall_mem_cons.mp h
    simp [collect, hw, ih hws]

theorem collect_tails {w : Slice} {ts us : List Slice} (hus : ∀ u ∈ us, isTail u.text) :
    (ofWords w ts).collect us = [ofWords w (ts ++ us)] := by
  induction us generalizing ts with
  | nil => simp [collect]
  | cons u us ih =>
    obtain ⟨hu, hus⟩ := List.forall_mem_cons.mp hus
    rw [collect, if_pos hu, extend_ofWords, ih hus, List.append_assoc, List.singleton_append]

theorem collect_tail (w : Slice) {v : Slice} (hv : isTail v.text) :
    (ofWord w).collect [v] = [ofWords w [v]] := by
  rw [← ofWords_nil, collect_tails (List.forall_mem_singleton.mpr hv), List.nil_append]

/-- A tail at the end makes the last word before it longer. -/
theorem collect_tail_last {ws : List Slice} {w v : Slice} (hws : ∀ w ∈ ws, isTail w.text = false)
    (hw : isTail w.text = false) (hv : isTail v.text) (p : Piece) :
    p.collect (ws ++ [w, v]) = p :: (ws.map ofWord ++ [ofWords w [v]]) := by
  rw [collect_append p ws hw, collect_of_no_tail hws, collect_tail w hv, List.cons_append]

def shift (p : Piece) (d : Nat) : Piece := ⟨p.text, p.span.shift d⟩

theorem ofWord_shift (w : Slice) (d : Nat) : ofWord (w.shift d) = (ofWord w).shift d := by
  simp [ofWord, shift, Slice.shift, Slice.span, Slice.stop, Span.shift, Nat.add_right_comm]

theorem extend_shift (p : Piece) (w : Slice) (d : Nat) :
    (p.shift d).extend (w.shift d) = (p.extend w).shift d := by
  simp [extend, shift, Slice.shift, Slice.stop, Span.shift, Nat.add_right_comm]

theorem collect_shift (p : Piece) (ws : List Slice) (d : Nat) :
    (p.shift d).collect (ws.map (·.shift d)) = (p.collect ws).map (·.shift d) := by
  induction ws generalizing p with
  | nil => rfl
  | cons w ws ih =>
    simp only [List.map_cons, collect, ofWord_shift, extend_shift, Slice.text_shift]
    split
    · exact ih _
    · rw [ih, List.map_cons]

end Piece

theorem grouped_of_pieces {text : List Char} {k : Nat} {ps : List Piece}
    (h : pieces text k = .ok ps) : Grouped (wordsFrom k text) ps := by
  unfold pieces at h
  split at h
  · rename_i hws
    cases h
    rw [hws]
    exact .nil
  · rename_i w ws hws
    split at h
    · cases h
    · rename_i hw
      cases h
      rw [hws, ← Piece.ofWords_nil]
      exact @Piece.grouped_collect w [] (by simpa using hw) (by simp) ws

/-- A text that is one word and no tail is one piece. -/
theorem pieces_of_isWord {w : List Char} (hw : IsWord w) (htail : isTail w = false) (k : Nat) :
    pieces w k = .ok [⟨w, ⟨k, k + byteLength w⟩⟩] := by
  simp only [pieces, wordsFrom_of_isWord hw, htail, Bool.false_eq_true, if_false]
  rfl

/-- Only a tail as the first word is an error. -/
theorem pieces_eq_error_iff {text : List Char} {k : Nat} {e : ParseError} :
    pieces text k = .error e ↔
      ∃ w ws, wordsFrom k text = w :: ws ∧ isTail w.text ∧ e = .strayCloser w.span := by
  unfold pieces
  split
  · rename_i hws
    simp [hws]
  · rename_i w ws hws
    rw [hws]
    split
    · rename_i hw
      constructor
      · rintro ⟨⟩
        exact ⟨w, ws, rfl, hw, rfl⟩
      · rintro ⟨_, _, ⟨⟩, -, rfl⟩
        rfl
    · rename_i hw
      simp only [reduceCtorEq, false_iff]
      rintro ⟨_, _, ⟨⟩, h, -⟩
      exact hw h

theorem pieces_append {a b : List Char} {k : Nat} {ps qs : List Piece} (hb : Stops isSolid b)
    (ha : pieces a k = .ok ps) (hq : pieces b (k + byteLength a) = .ok qs) :
    pieces (a ++ b) k = .ok (ps ++ qs) := by
  rw [pieces, wordsFrom_append k a hb]
  unfold pieces at ha hq
  cases hv : wordsFrom (k + byteLength a) b with
  | nil =>
    rw [hv] at hq
    cases hq
    simpa using ha
  | cons v vs =>
    rw [hv] at hq
    dsimp only at hq
    split at hq
    · cases hq
    · rename_i htail
      cases hq
      cases hw : wordsFrom k a with
      | nil =>
        rw [hw] at ha
        cases ha
        simp [htail]
      | cons w ws =>
        rw [hw] at ha
        simp only [List.cons_append] at ha ⊢
        split at ha
        · cases ha
        · rename_i hw
          cases ha
          rw [if_neg hw, Piece.collect_append _ _ (by simpa using htail)]

def ParseError.shift (e : ParseError) (d : Nat) : ParseError := { e with span := e.span.shift d }

theorem pieces_shift (text : List Char) (k d : Nat) :
    pieces text (k + d) =
      ((pieces text k).map (·.map (·.shift d))).mapError (·.shift d) := by
  unfold pieces
  rw [wordsFrom_shift]
  cases wordsFrom k text with
  | nil => rfl
  | cons w ws =>
    simp only [List.map_cons, Piece.ofWord_shift, Piece.collect_shift, Slice.text_shift]
    by_cases hw : isTail w.text
    · simp [hw, ParseError.shift, ParseError.strayCloser, Slice.span_shift]
    · simp [hw]

/-- A piece has the characters of words, and spaces. -/
theorem mem_word_of_mem_piece {text : List Char} {k : Nat} {ps : List Piece} {p : Piece} {c : Char}
    (h : pieces text k = .ok ps) (hp : p ∈ ps) (hc : c ∈ p.text) :
    c = ' ' ∨ ∃ v ∈ wordsFrom k text, c ∈ v.text := by
  obtain ⟨us, w, ts, vs, hws, -, -, rfl⟩ := (grouped_of_pieces h).mem hp
  rw [hws]
  simp only [Piece.ofWords, joined, List.mem_append, List.mem_flatMap, List.mem_cons] at hc
  rcases hc with hc | ⟨t, ht, rfl | hc⟩
  · exact .inr ⟨w, by simp, hc⟩
  · exact .inl rfl
  · exact .inr ⟨t, by simp [ht], hc⟩

/-- The characters of a piece are those of the text, apart from spaces. -/
theorem mem_of_mem_piece {text : List Char} {k : Nat} {ps : List Piece} {p : Piece} {c : Char}
    (h : pieces text k = .ok ps) (hp : p ∈ ps) (hc : c ∈ p.text) : c ∈ text ∨ c = ' ' := by
  rcases mem_word_of_mem_piece h hp hc with rfl | ⟨v, hv, hc⟩
  · exact .inr rfl
  · exact .inl ((isWord_of_mem hv).2.subset hc)

/-- However the text is broken into lines, its pieces are not. -/
theorem unbroken_piece {text : List Char} {k : Nat} {ps : List Piece} {p : Piece}
    (h : pieces text k = .ok ps) (hp : p ∈ ps) : ∀ c ∈ p.text, isLineBreak c = false := by
  intro c hc
  rcases mem_word_of_mem_piece h hp hc with rfl | ⟨v, hv, hc⟩
  · rfl
  · exact unbroken_of_solid (isWord_of_mem hv).1.solid c hc

theorem piece_ne_nil {text : List Char} {k : Nat} {ps : List Piece} {p : Piece}
    (h : pieces text k = .ok ps) (hp : p ∈ ps) : p.text ≠ [] := by
  obtain ⟨us, w, ts, vs, hws, -, -, rfl⟩ := (grouped_of_pieces h).mem hp
  obtain ⟨before, rest, -, -, hword, -⟩ := (spaced_iff.mpr hws).split
  simp [Piece.ofWords, joined, hword.ne_nil]

/-- Single spaces are the least that can stand between words. -/
theorem length_tails_le {k : Nat} {text : List Char} {ts vs : List Slice}
    (h : Spaced k text (ts ++ vs)) (hstop : Stops isSolid text) :
    (ts.flatMap fun t => ' ' :: t.text).length ≤ text.length := by
  induction ts generalizing k text with
  | nil => simp
  | cons t ts ih =>
    cases h with
    | @word _ j g w r _ hg hw hr hj hrest =>
      have hgap : g ≠ [] := by
        rintro rfl
        exact hw.not_stops (r := r) hstop
      have hpos : 0 < g.length := List.length_pos_iff.mpr hgap
      have htails := ih hrest hr
      simp only [List.flatMap_cons, List.length_append, List.length_cons]
      omega

theorem length_piece_le {text : List Char} {k : Nat} {ps : List Piece} {p : Piece}
    (h : pieces text k = .ok ps) (hp : p ∈ ps) : p.text.length ≤ text.length := by
  obtain ⟨us, w, ts, vs, hws, -, -, rfl⟩ := (grouped_of_pieces h).mem hp
  obtain ⟨before, rest, rfl, -, -, hstop, hrest⟩ := (spaced_iff.mpr hws).split
  have htails := length_tails_le hrest hstop
  simp only [Piece.ofWords, joined, List.length_append]
  omega

/-! The parts between commas. -/

theorem splitCommasFrom_eq_cons (k : Nat) (text : List Char) :
    ∃ first rest later, splitCommasFrom k text = ⟨k, first⟩ :: later ∧ text = first ++ rest := by
  induction text generalizing k with
  | nil => exact ⟨[], [], [], rfl, rfl⟩
  | cons c cs ih =>
    rw [splitCommasFrom]
    by_cases hc : c = ','
    · exact ⟨[], c :: cs, _, if_pos hc, rfl⟩
    · obtain ⟨first, rest, later, heq, rfl⟩ := ih (k + c.utf8Size)
      exact ⟨c :: first, rest, later, by rw [if_neg hc, heq], rfl⟩

theorem splitCommasFrom_of_not_mem {text : List Char} (h : ',' ∉ text) (k : Nat) :
    splitCommasFrom k text = [⟨k, text⟩] := by
  induction text generalizing k with
  | nil => rfl
  | cons c cs ih =>
    obtain ⟨hc, hcs⟩ := not_or.mp (mt List.mem_cons.mpr h)
    rw [splitCommasFrom, if_neg (Ne.symm hc), ih hcs]

theorem splitCommasFrom_shift (k d : Nat) (text : List Char) :
    splitCommasFrom (k + d) text = (splitCommasFrom k text).map (·.shift d) := by
  induction text generalizing k with
  | nil => rfl
  | cons c cs ih =>
    rw [splitCommasFrom, splitCommasFrom, Nat.add_right_comm, ih]
    by_cases hc : c = ','
    · rw [if_pos hc, if_pos hc]
      rfl
    · obtain ⟨first, rest, later, heq, -⟩ := splitCommasFrom_eq_cons (k + c.utf8Size) cs
      rw [if_neg hc, if_neg hc, heq]
      rfl

/-- A comma ends the last part before it. -/
theorem splitCommasFrom_append_comma (k : Nat) (a b : List Char) :
    splitCommasFrom k (a ++ ',' :: b) =
      splitCommasFrom k a ++ splitCommasFrom (k + (byteLength a + 1)) b := by
  induction a generalizing k with
  | nil => rfl
  | cons c cs ih =>
    have hk : k + c.utf8Size + (byteLength cs + 1) = k + (byteLength (c :: cs) + 1) := by
      rw [byteLength]
      omega
    rw [List.cons_append, splitCommasFrom, splitCommasFrom, ih, hk]
    by_cases hc : c = ','
    · rw [if_pos hc, if_pos hc]
      rfl
    · obtain ⟨first, rest, later, heq, -⟩ := splitCommasFrom_eq_cons (k + c.utf8Size) cs
      rw [if_neg hc, if_neg hc, heq]
      rfl

/-- Apart from where they stand, the parts are those of the list. -/
theorem map_text_splitCommasFrom (k : Nat) (text : List Char) :
    (splitCommasFrom k text).map Slice.text = text.splitOn ',' := by
  induction text generalizing k with
  | nil => rfl
  | cons c cs ih =>
    rw [splitCommasFrom, List.splitOn_cons_eq_if_modifyHead, ← ih (k + c.utf8Size)]
    by_cases hc : c = ','
    · simp [hc]
    · obtain ⟨first, rest, later, heq, -⟩ := splitCommasFrom_eq_cons (k + c.utf8Size) cs
      simp [hc, heq]

theorem mem_splitCommasFrom {k : Nat} {text : List Char} {s : Slice} (h : s ∈ splitCommasFrom k text) :
    ∃ before after, text = before ++ s.text ++ after ∧ s.start = k + byteLength before := by
  induction text generalizing k s with
  | nil =>
    obtain rfl := List.mem_singleton.mp h
    exact ⟨[], [], rfl, rfl⟩
  | cons c cs ih =>
    have hlater {s : Slice} (hs : s ∈ splitCommasFrom (k + c.utf8Size) cs) :
        ∃ before after, c :: cs = before ++ s.text ++ after ∧ s.start = k + byteLength before := by
      obtain ⟨before, after, rfl, hstart⟩ := ih hs
      exact ⟨c :: before, after, by simp, by rw [hstart, byteLength, Nat.add_assoc]⟩
    rw [splitCommasFrom] at h
    split at h
    · rcases List.mem_cons.mp h with rfl | h
      · exact ⟨[], c :: cs, rfl, rfl⟩
      · exact hlater h
    · obtain ⟨first, rest, later, heq, hcs⟩ := splitCommasFrom_eq_cons (k + c.utf8Size) cs
      rw [heq] at h hlater
      rcases List.mem_cons.mp h with rfl | h
      · exact ⟨[], rest, by rw [hcs]; rfl, rfl⟩
      · exact hlater (List.mem_cons_of_mem _ h)

end MarkupQuery
