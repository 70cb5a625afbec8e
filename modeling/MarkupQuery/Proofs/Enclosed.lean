import Mathlib.Control.Monad.Basic
import MarkupQuery.Proofs.Pieces

/-! Blanks between one pair of brackets. A word is joined to the one before it for its own brackets
alone, so of a text in brackets only the last word is joined. That makes one piece of the text if it
has a single run of blanks; with more of them the words in the middle are pieces, and the last of
these gets the closing bracket. -/

namespace MarkupQuery

/-- The two kinds of brackets. -/
inductive Encloses : (opening closing : Char) → Prop where
  | square : Encloses '[' ']'
  | round : Encloses '(' ')'

def isBracket (c : Char) : Bool := c == '[' || c == ']' || c == '(' || c == ')'

/-- The text with one space in place of every run of blanks. -/
def squeeze : List Char → List Char
  | [] => []
  | c :: cs =>
    if isBlank c then
      if cs.head?.any isBlank then squeeze cs else ' ' :: squeeze cs
    else c :: squeeze cs

/-- All blanks of the text stand together, if there are any. -/
def AtMostOneGap (text : List Char) : Prop :=
  ∃ a gap b, text = a ++ gap ++ b ∧ (∀ c ∈ a, isBlank c = false) ∧ IsGap gap ∧
    ∀ c ∈ b, isBlank c = false

theorem squeeze_solid_append {a : List Char} (ha : ∀ c ∈ a, isBlank c = false) (r : List Char) :
    squeeze (a ++ r) = a ++ squeeze r := by
  induction a with
  | nil => rfl
  | cons c a ih =>
    obtain ⟨hc, ha⟩ := List.forall_mem_cons.mp ha
    simp [squeeze, hc, ih ha]

theorem squeeze_of_solid {a : List Char} (ha : ∀ c ∈ a, isBlank c = false) : squeeze a = a := by
  simpa [squeeze] using squeeze_solid_append ha []

/-- A run of blanks up to a word leaves one space. -/
theorem squeeze_gap_append {gap w : List Char} (hgap : IsGap gap) (hne : gap ≠ []) (hw : IsWord w) :
    squeeze (gap ++ w) = ' ' :: w := by
  have hword := squeeze_of_solid hw.solid
  obtain ⟨d, ds, rfl⟩ := List.exists_cons_of_ne_nil hw.ne_nil
  have hd : isBlank d = false := hw.solid d List.mem_cons_self
  induction gap with
  | nil => exact absurd rfl hne
  | cons c gap ih =>
    obtain ⟨hc, hgap⟩ := List.forall_mem_cons.mp hgap
    rw [List.cons_append, squeeze, if_pos hc]
    cases gap with
    | nil => simp [hd, hword]
    | cons c' gap =>
      have hc' : isBlank c' := hgap c' List.mem_cons_self
      simpa [hc'] using ih hgap (by simp)

/-- What stands after the last blank of a text. -/
theorem exists_last_blank {text : List Char} (h : ¬ ∀ c ∈ text, isBlank c = false) :
    ∃ before c after, text = before ++ c :: after ∧ isBlank c ∧ ∀ d ∈ after, isBlank d = false := by
  induction text with
  | nil => exact absurd (by simp) h
  | cons c cs ih =>
    by_cases hcs : ∀ d ∈ cs, isBlank d = false
    · have hc : isBlank c := by
        rw [← Bool.not_eq_false]
        intro hc
        exact h (List.forall_mem_cons.mpr ⟨hc, hcs⟩)
      exact ⟨[], c, cs, rfl, hc, hcs⟩
    · obtain ⟨before, d, after, rfl, hd, hafter⟩ := ih hcs
      exact ⟨c :: before, d, after, rfl, hd, hafter⟩

theorem Stops.append_blank {r : List Char} (hr : Stops isSolid r) {c : Char} (hc : isBlank c)
    (t : List Char) : Stops isSolid (r ++ c :: t) := by
  cases r with
  | nil => exact stops_cons.mpr (by simp [isSolid, hc])
  | cons d ds => exact stops_cons.mpr (stops_cons.mp hr)

/-- A word, blanks with words between them, and after the last blank another word. -/
theorem wordsFrom_between {u r v : List Char} {c : Char} (hu : IsWord u) (hr : Stops isSolid r)
    (hc : isBlank c) (hv : IsWord v) (k : Nat) :
    wordsFrom k (u ++ (r ++ c :: v)) =
      ⟨k, u⟩ :: (wordsFrom (k + byteLength u) r ++ [⟨k + byteLength (u ++ (r ++ [c])), v⟩]) := by
  have hstop : Stops isSolid (c :: v) := Stops.append_blank (stops_nil _) hc v
  have hlast : wordsFrom (k + byteLength u + byteLength r) (c :: v) =
      [⟨k + byteLength (u ++ (r ++ [c])), v⟩] := by
    have hstart : k + byteLength u + byteLength r + c.utf8Size =
        k + byteLength (u ++ (r ++ [c])) := by
      simp only [byteLength_append, byteLength]
      omega
    simp only [wordsFrom, hc, if_true, hstart, wordsFrom_of_isWord hv]
  rw [wordsFrom_append k u (hr.append_blank hc v), wordsFrom_append _ r hstop, hlast,
    wordsFrom_of_isWord hu, List.singleton_append]

/-! How the pieces go where only the last word is a tail. -/

section
variable {k : Nat} {text : List Char} {u w v : Slice} {ws : List Slice}

theorem pieces_of_two_words (h : wordsFrom k text = [u, v]) (hu : isTail u.text = false)
    (hv : isTail v.text) : pieces text k = .ok [.ofWords u [v]] := by
  simp [pieces, h, hu, Piece.collect_tail u hv]

theorem pieces_of_more_words (h : wordsFrom k text = u :: (ws ++ [w, v])) (hu : isTail u.text = false)
    (hws : ∀ w ∈ ws, isTail w.text = false) (hw : isTail w.text = false) (hv : isTail v.text) :
    pieces text k = .ok (.ofWord u :: (ws.map .ofWord ++ [.ofWords w [v]])) := by
  simp [pieces, h, hu, Piece.collect_tail_last hws hw hv]

end

/-- Without brackets nothing is closed and nothing opened. -/
theorem isTail_append_of_no_bracket (w : List Char) {v : List Char}
    (hv : ∀ c ∈ v, isBracket c = false) : isTail (w ++ v) = isTail w := by
  have hclosing : ∀ c ∈ v, ¬ (c = ']' ∨ c = ')') := by
    rintro c hc (rfl | rfl) <;> cases hv _ hc
  have hopening : '[' ∉ v ∧ '(' ∉ v := by
    constructor <;> intro hc <;> cases hv _ hc
  have hmem : (∃ c ∈ w ++ v, c = ']' ∨ c = ')') ↔ ∃ c ∈ w, c = ']' ∨ c = ')' := by
    simp only [List.mem_append, or_and_right, exists_or]
    exact or_iff_left fun ⟨c, hc, hclose⟩ => hclosing c hc hclose
  rw [Bool.eq_iff_iff, isTail_iff, isTail_iff, hmem]
  simp [hopening]

theorem isTail_of_no_bracket {w : List Char} (hw : ∀ c ∈ w, isBracket c = false) :
    isTail w = false := isTail_append_of_no_bracket [] hw

namespace Encloses

variable {opening closing : Char} (h : Encloses opening closing)

include h

theorem isTail_opened (p a : List Char) : isTail (p ++ opening :: a) = false := by
  rw [← Bool.not_eq_true, isTail_iff]
  cases h <;> simp

theorem isTail_closed {b : List Char} (hb : ∀ c ∈ b, isBracket c = false) :
    isTail (b ++ [closing]) := by
  have hopen : '[' ∉ b ∧ '(' ∉ b := by
    constructor <;> intro hmem <;> simpa [isBracket] using hb _ hmem
  rw [isTail_iff]
  cases h <;> simp [hopen]

theorem isWord_opened {p a : List Char} (hp : ∀ c ∈ p, isBlank c = false)
    (ha : ∀ c ∈ a, isBlank c = false) : IsWord (p ++ opening :: a) := by
  have hopening : isBlank opening = false := by cases h <;> rfl
  refine ⟨by simp, List.forall_mem_append.mpr ⟨hp, ?_⟩⟩
  exact List.forall_mem_cons.mpr ⟨hopening, ha⟩

theorem isWord_closed {b : List Char} (hb : ∀ c ∈ b, isBlank c = false) :
    IsWord (b ++ [closing]) := by
  have hclosing : isBlank closing = false := by cases h <;> rfl
  refine ⟨by simp, List.forall_mem_append.mpr ⟨hb, ?_⟩⟩
  simpa using hclosing

variable {p body : List Char} (hp : ∀ c ∈ p, isBlank c = false)
  (hbody : ∀ c ∈ body, isBracket c = false) (k : Nat)

include hp hbody

/-- The word that opens and, if there are blanks, the one that closes are all there is. -/
theorem pieces_of_atMostOneGap (hgap : AtMostOneGap body) :
    pieces (p ++ opening :: (body ++ [closing])) k =
      .ok [⟨squeeze (p ++ opening :: (body ++ [closing])),
        ⟨k, k + byteLength (p ++ opening :: (body ++ [closing]))⟩⟩] := by
  obtain ⟨a, gap, b, rfl, ha, hgap, hb⟩ := hgap
  have hfirst := h.isWord_opened hp ha
  have hlast := h.isWord_closed hb
  rcases List.eq_nil_or_concat gap with rfl | ⟨r, c, rfl⟩
  · have hword : IsWord (p ++ opening :: (a ++ (b ++ [closing]))) :=
      h.isWord_opened hp (List.forall_mem_append.mpr ⟨ha, hlast.solid⟩)
    have hpieces := pieces_of_isWord hword (h.isTail_opened p _) k
    simpa [squeeze_of_solid hword.solid] using hpieces
  · rw [List.concat_eq_append] at hgap hbody ⊢
    obtain ⟨hr, hc⟩ := List.forall_mem_append.mp hgap
    have hstop : Stops isSolid r := by simpa using IsGap.stops hr (.inr (stops_nil _))
    have hwords := wordsFrom_between hfirst hstop (hc c List.mem_cons_self) hlast k
    rw [wordsFrom_eq_nil_iff.mpr hr, List.nil_append] at hwords
    have htail : isTail (b ++ [closing]) :=
      h.isTail_closed fun d hd => hbody d (List.mem_append_right _ hd)
    have hpieces := pieces_of_two_words hwords (h.isTail_opened p a) htail
    have htext : p ++ opening :: (a ++ (r ++ [c]) ++ b ++ [closing]) =
        (p ++ opening :: a) ++ (r ++ c :: (b ++ [closing])) := by simp
    have hsqueeze : squeeze ((p ++ opening :: a) ++ (r ++ c :: (b ++ [closing]))) =
        joined (p ++ opening :: a) [⟨0, b ++ [closing]⟩] := by
      have hspace := squeeze_gap_append hgap (by simp) hlast
      rw [List.append_assoc, List.singleton_append] at hspace
      rw [squeeze_solid_append hfirst.solid, hspace]
      simp [joined]
    rw [htext, hpieces, hsqueeze]
    simp [Piece.ofWords, joined, Slice.stop]
    omega

/-- Otherwise there are words between these two, and only the last of them is made longer. -/
theorem pieces_of_not_atMostOneGap (hgaps : ¬ AtMostOneGap body) :
    ∃ first middle w last,
      wordsFrom k (p ++ opening :: (body ++ [closing])) = first :: (middle ++ [w, last]) ∧
      pieces (p ++ opening :: (body ++ [closing])) k =
        .ok (.ofWord first :: (middle.map .ofWord ++ [.ofWords w [last]])) := by
  have hblank : ¬ ∀ c ∈ body, isBlank c = false := by
    intro hsolid
    exact hgaps ⟨body, [], [], by simp, hsolid, .nil, by simp⟩
  obtain ⟨before, c, b, rfl, hc, hb⟩ := exists_last_blank hblank
  obtain ⟨htext, ha, hr⟩ := span_eq_iff.mp (⟨rfl, rfl⟩ : before.takeWhile isSolid = _ ∧ _)
  generalize before.takeWhile isSolid = a at *
  generalize before.dropWhile isSolid = r at *
  subst htext
  have ha : ∀ d ∈ a, isBlank d = false := by simpa [isSolid] using ha
  have hwords := wordsFrom_between (h.isWord_opened hp ha) hr hc (h.isWord_closed hb) k
  have hne : wordsFrom (k + byteLength (p ++ opening :: a)) r ≠ [] := by
    rw [Ne, wordsFrom_eq_nil_iff]
    intro hgap
    apply hgaps
    exact ⟨a, r ++ [c], b, by simp, ha, List.forall_mem_append.mpr ⟨hgap, by simpa using hc⟩, hb⟩
  have hinner : ∀ w ∈ wordsFrom (k + byteLength (p ++ opening :: a)) r, isTail w.text = false := by
    intro w hw
    apply isTail_of_no_bracket
    intro d hd
    have hdr := (isWord_of_mem hw).2.subset hd
    exact hbody d (by simp [hdr])
  obtain ⟨middle, w, hsplit⟩ := (List.eq_nil_or_concat _).resolve_left hne
  rw [List.concat_eq_append] at hsplit
  rw [hsplit] at hinner
  rw [hsplit, List.append_assoc middle, List.singleton_append] at hwords
  obtain ⟨hmiddle, hw⟩ := List.forall_mem_append.mp hinner
  have htail : isTail (b ++ [closing]) := h.isTail_closed fun d hd => hbody d (by simp [hd])
  have htext : p ++ opening :: (a ++ r ++ c :: b ++ [closing]) =
      (p ++ opening :: a) ++ (r ++ c :: (b ++ [closing])) := by simp
  rw [htext]
  exact ⟨_, middle, w, _, hwords, pieces_of_more_words hwords (h.isTail_opened p a) hmiddle
    (hw w List.mem_cons_self) htail⟩

end Encloses

/-- A text that stands in one pair of brackets, perhaps after other characters, is one piece exactly
if its blanks stand together: then the piece is the whole text with one space for them. Otherwise its
first words are pieces and the last two make one. -/
theorem pieces_enclosed {opening closing : Char} (h : Encloses opening closing) {p body : List Char}
    (hp : ∀ c ∈ p, isBlank c = false) (hbody : ∀ c ∈ body, isBracket c = false) (k : Nat) :
    let text := p ++ opening :: (body ++ [closing])
    (AtMostOneGap body ↔ pieces text k = .ok [⟨squeeze text, ⟨k, k + byteLength text⟩⟩]) ∧
    (¬ AtMostOneGap body → ∃ first middle w last,
      wordsFrom k text = first :: (middle ++ [w, last]) ∧
      pieces text k = .ok (.ofWord first :: (middle.map .ofWord ++ [.ofWords w [last]]))) := by
  intro text
  refine ⟨⟨h.pieces_of_atMostOneGap hp hbody k, fun hone => ?_⟩,
    h.pieces_of_not_atMostOneGap hp hbody k⟩
  by_cases hgap : AtMostOneGap body
  · exact hgap
  · obtain ⟨first, middle, w, last, -, hmore⟩ := h.pieces_of_not_atMostOneGap hp hbody k hgap
    rw [hmore] at hone
    simp at hone

/-- One run of three different blanks. -/
theorem pieces_enclosed_one_gap :
    (∀ c ∈ "p:contains".toList, isBlank c = false) ∧
      (∀ c ∈ "add \t\u00a0by".toList, isBracket c = false) ∧
      AtMostOneGap "add \t\u00a0by".toList ∧
      pieces "p:contains(add \t\u00a0by)".toList 7 =
        .ok [⟨"p:contains(add by)".toList, ⟨7, 28⟩⟩] :=
  have hp : ∀ c ∈ "p:contains".toList, isBlank c = false := by simp [isBlank]
  have hbody : ∀ c ∈ "add \t\u00a0by".toList, isBracket c = false := by simp [isBracket]
  have hgap : AtMostOneGap "add \t\u00a0by".toList :=
    ⟨"add".toList, " \t\u00a0".toList, "by".toList, by decide, by simp [isBlank],
      List.all_eq_true.mp rfl, by simp [isBlank]⟩
  ⟨hp, hbody, hgap, ((pieces_enclosed .round hp hbody 7).1.mp hgap).trans (by decide)⟩

/-- With two runs of blanks the value of an attribute falls apart. -/
theorem pieces_enclosed_two_gaps :
    (∀ c ∈ "p".toList, isBlank c = false ∧ isBracket c = false) ∧
      (∀ c ∈ "class='x y z'".toList, isBracket c = false) ∧
      pieces "p[class='x y z']".toList 0 =
        .ok [⟨"p[class='x".toList, ⟨0, 10⟩⟩, ⟨"y z']".toList, ⟨11, 16⟩⟩] ∧
      pieces "p[class='x y z']".toList 0 ≠
        .ok [⟨squeeze "p[class='x y z']".toList, ⟨0, 16⟩⟩] :=
  ⟨by simp [isBlank, isBracket], by simp [isBracket], by decide, by decide⟩

end MarkupQuery
