import MarkupQuery.Selector.Pieces

/-! The words of a text and the pieces made of them. `Spaced` lays a text out as words between runs
of blanks, with the place of every word; each text has exactly one such layout, and it is the one
that `wordsFrom` finds. A piece is a word and the tails right after it. -/

namespace MarkupQuery

/-- The text does not begin with a character of the class. -/
def Stops (p : Char → Bool) (text : List Char) : Prop := ∀ c ∈ text.head?, p c = false

theorem stops_nil (p : Char → Bool) : Stops p [] := by simp [Stops]

theorem stops_cons {p : Char → Bool} {c : Char} {cs : List Char} :
    Stops p (c :: cs) ↔ p c = false := by simp [Stops]

theorem stops_append {p : Char → Bool} {a : List Char} (ha : a ≠ []) (b : List Char) :
    Stops p (a ++ b) ↔ Stops p a := by
  obtain ⟨c, cs, rfl⟩ := List.exists_cons_of_ne_nil ha
  simp [stops_cons]

theorem stops_dropWhile (p : Char → Bool) (text : List Char) : Stops p (text.dropWhile p) := by
  intro c hc
  have h := List.head?_dropWhile_not p text
  rw [Option.mem_def.mp hc] at h
  simpa using h

/-- A maximal run of a class at the start of a text is the only way to cut the text so. -/
theorem span_eq_iff {p : Char → Bool} {text run rest : List Char} :
    text.takeWhile p = run ∧ text.dropWhile p = rest ↔
      text = run ++ rest ∧ (∀ c ∈ run, p c) ∧ Stops p rest := by
  constructor
  · rintro ⟨rfl, rfl⟩
    exact ⟨List.takeWhile_append_dropWhile.symm, List.all_eq_true.mp List.all_takeWhile,
      stops_dropWhile p text⟩
  · rintro ⟨rfl, hrun, hrest⟩
    rw [List.takeWhile_append_of_pos hrun, List.dropWhile_append_of_pos hrun]
    cases rest with
    | nil => simp
    | cons c cs => simp [stops_cons.mp hrest]

/-- What stands between two separators has none in it. -/
theorem not_mem_of_mem_splitOn {sep : Char} {text s : List Char} (hs : s ∈ text.splitOn sep) :
    sep ∉ s := by
  induction text generalizing s with
  | nil =>
    obtain rfl := List.mem_singleton.mp hs
    exact List.not_mem_nil
  | cons c cs ih =>
    rw [List.splitOn_cons_eq_if_modifyHead] at hs
    by_cases hc : c = sep
    · rw [if_pos (beq_iff_eq.mpr hc)] at hs
      rcases List.mem_cons.mp hs with rfl | hs
      · exact List.not_mem_nil
      · exact ih hs
    · rw [if_neg (mt beq_iff_eq.mp hc)] at hs
      cases hsplit : cs.splitOn sep with
      | nil => exact absurd hsplit (List.splitOn_ne_nil _ _)
      | cons first later =>
        rw [hsplit] at hs ih
        obtain ⟨hfirst, hlater⟩ := List.forall_mem_cons.mp fun s (hs : s ∈ first :: later) => ih hs
        rcases List.mem_cons.mp hs with rfl | hs
        · exact mt List.mem_cons.mp (not_or.mpr ⟨Ne.symm hc, hfirst⟩)
        · exact hlater s hs

theorem byteLength_eq_zero {text : List Char} : byteLength text = 0 ↔ text = [] := by
  cases text with
  | nil => simp
  | cons c cs =>
    have := c.utf8Size_pos
    simp only [byteLength, reduceCtorEq, iff_false]
    omega

/-- A text without blanks that is not empty. -/
structure IsWord (word : List Char) : Prop where
  ne_nil : word ≠ []
  solid : ∀ c ∈ word, isBlank c = false

/-- A run of blanks, perhaps an empty one. -/
def IsGap (gap : List Char) : Prop := ∀ c ∈ gap, isBlank c

def isSolid (c : Char) : Bool := !isBlank c

/-- The layout of a text that begins at byte `k`: its words, each after a gap and up to the next
blank. -/
inductive Spaced : Nat → List Char → List Slice → Prop where
  | gap {k : Nat} {g : List Char} : IsGap g → Spaced k g []
  | word {k j : Nat} {g w r : List Char} {ws : List Slice} :
      IsGap g → IsWord w → Stops isSolid r → j = k + byteLength g →
      Spaced (j + byteLength w) r ws → Spaced k (g ++ w ++ r) (⟨j, w⟩ :: ws)

/-- A line break is a blank too. -/
theorem unbroken_of_solid {text : List Char} (h : ∀ c ∈ text, isBlank c = false) :
    ∀ c ∈ text, isLineBreak c = false := by
  intro c hc
  rw [← Bool.not_eq_true]
  intro hbreak
  have hblank := isBlank_of_isLineBreak hbreak
  rw [h c hc] at hblank
  cases hblank

theorem IsGap.nil : IsGap [] := by simp [IsGap]

theorem IsGap.cons {c : Char} {g : List Char} (hc : isBlank c) (hg : IsGap g) : IsGap (c :: g) :=
  List.forall_mem_cons.mpr ⟨hc, hg⟩

theorem IsGap.stops {g r : List Char} (hg : IsGap g) (h : g ≠ [] ∨ Stops isSolid r) :
    Stops isSolid (g ++ r) := by
  cases g with
  | nil => simpa using h
  | cons c cs => exact stops_cons.mpr (by simp [isSolid, hg c])

theorem IsWord.not_stops {w r : List Char} (hw : IsWord w) : ¬ Stops isSolid (w ++ r) := by
  obtain ⟨c, cs, rfl⟩ := List.exists_cons_of_ne_nil hw.ne_nil
  intro h
  simpa [isSolid, hw.solid c] using stops_cons.mp h

namespace Spaced

theorem blank_cons {k : Nat} {c : Char} {text : List Char} {ws : List Slice} (hc : isBlank c)
    (h : Spaced (k + c.utf8Size) text ws) : Spaced k (c :: text) ws := by
  cases h with
  | gap hg => exact .gap (hg.cons hc)
  | @word _ _ g w r ws hg hw hs hj h =>
    exact .word (g := c :: g) (hg.cons hc) hw hs (by rw [hj, byteLength]; omega) h

/-- The places of the words move along with the text. -/
theorem shift {k : Nat} {text : List Char} {ws : List Slice} (h : Spaced k text ws) (d : Nat) :
    Spaced (k + d) text (ws.map (·.shift d)) := by
  induction h with
  | gap hg => exact .gap hg
  | word hg hw hs hj _ ih =>
    rw [List.map_cons, Slice.shift]
    refine .word hg hw hs (by rw [hj, Nat.add_right_comm]) ?_
    rwa [Nat.add_right_comm]

/-- Two layouts that meet at a blank make one. -/
theorem append {k : Nat} {a b : List Char} {ws vs : List Slice} (ha : Spaced k a ws)
    (hb : Spaced (k + byteLength a) b vs) (hs : Stops isSolid b) : Spaced k (a ++ b) (ws ++ vs) := by
  induction ha with
  | @gap k g hg =>
    cases hb with
    | gap hb => exact .gap (List.forall_mem_append.mpr ⟨hg, hb⟩)
    | @word _ _ g' w r vs hg' hw hr hj h =>
      rw [show g ++ (g' ++ w ++ r) = (g ++ g') ++ w ++ r by simp]
      exact .word (List.forall_mem_append.mpr ⟨hg, hg'⟩) hw hr
        (by rw [hj, byteLength_append]; omega) h
  | @word k j g w r ws hg hw hr hj h ih =>
    rw [List.append_assoc]
    refine .word hg hw ?_ hj (ih ?_)
    · cases r with
      | nil => simpa using hs
      | cons c cs => exact stops_cons.mpr (stops_cons.mp hr)
    · simpa [hj, Nat.add_assoc] using hb

/-- Around one of its words a text falls into what precedes it and what follows, from the next
blank on. -/
theorem split {k : Nat} {text : List Char} {us vs : List Slice} {v : Slice}
    (h : Spaced k text (us ++ v :: vs)) :
    ∃ before rest, text = before ++ v.text ++ rest ∧ v.start = k + byteLength before ∧
      IsWord v.text ∧ Stops isSolid rest ∧ Spaced (v.start + byteLength v.text) rest vs := by
  induction us generalizing k text with
  | nil =>
    cases h with
    | @word _ _ g w r ws hg hw hs hj h => exact ⟨g, r, rfl, hj, hw, hs, h⟩
  | cons u us ih =>
    cases h with
    | @word _ j g w r ws hg hw hs hj h =>
      obtain ⟨before, rest, rfl, hv, hword, hrest, hvs⟩ := ih h
      refine ⟨g ++ w ++ before, rest, by simp, ?_, hword, hrest, hvs⟩
      simp only [hv, hj, byteLength_append]
      omega

end Spaced

theorem spaced_wordsFrom (k : Nat) (text : List Char) : Spaced k text (wordsFrom k text) := by
  induction text generalizing k with
  | nil => exact .gap .nil
  | cons c cs ih =>
    have h := ih (k + c.utf8Size)
    rw [wordsFrom]
    by_cases hc : isBlank c
    · simpa [hc] using h.blank_cons hc
    · have hone : IsWord [c] := ⟨by simp, by simpa using hc⟩
      simp only [hc, Bool.false_eq_true, if_false]
      -- a word goes on only where the next one begins at once
      generalize wordsFrom (k + c.utf8Size) cs = ws at h
      cases h with
      | gap hg =>
        refine .word (g := []) .nil hone ?_ (by simp) (.gap hg)
        simpa using hg.stops (.inr (stops_nil _))
      | @word _ j g w r ws hg hw hs hj h =>
        by_cases hgap : g = []
        · subst hgap
          have hj' : j = k + c.utf8Size := by simpa using hj
          simp only [if_pos hj']
          refine .word (g := []) (w := c :: w) .nil ⟨by simp, ?_⟩ hs (by simp) ?_
          · exact List.forall_mem_cons.mpr ⟨by simpa using hc, hw.solid⟩
          · rwa [byteLength, ← Nat.add_assoc, ← hj']
        · have hpos : byteLength g ≠ 0 := fun h0 => hgap (byteLength_eq_zero.mp h0)
          simp only [show j ≠ k + c.utf8Size by omega, if_false]
          refine .word (g := []) (w := [c]) .nil hone ?_ (by simp)
            (.word hg hw hs (by simpa using hj) h)
          simpa using hg.stops (.inl hgap)

/-- The first gap, the first word and the rest, read off the text. -/
theorem first_word_eq {g w r : List Char} (hg : IsGap g) (hw : IsWord w) (hr : Stops isSolid r) :
    (g ++ w ++ r).takeWhile isBlank = g ∧ ((g ++ w ++ r).dropWhile isBlank).takeWhile isSolid = w ∧
      ((g ++ w ++ r).dropWhile isBlank).dropWhile isSolid = r := by
  have hstop : Stops isBlank (w ++ r) := by
    obtain ⟨c, cs, rfl⟩ := List.exists_cons_of_ne_nil hw.ne_nil
    exact stops_cons.mpr (hw.solid c List.mem_cons_self)
  obtain ⟨hgap, hrest⟩ := span_eq_iff.mpr ⟨List.append_assoc g w r, hg, hstop⟩
  obtain ⟨hword, hr⟩ : (w ++ r).takeWhile isSolid = w ∧ (w ++ r).dropWhile isSolid = r :=
    span_eq_iff.mpr ⟨rfl, fun c hc => by simp [isSolid, hw.solid c hc], hr⟩
  exact ⟨hgap, by rw [hrest, hword], by rw [hrest, hr]⟩

theorem Spaced.unique {k : Nat} {text : List Char} {ws vs : List Slice} (h : Spaced k text ws)
    (h' : Spaced k text vs) : ws = vs := by
  induction h generalizing vs with
  | @gap k g hg =>
    cases h' with
    | gap => rfl
    | @word _ _ g' w r vs hg' hw hr hj h =>
      obtain ⟨c, cs, rfl⟩ := List.exists_cons_of_ne_nil hw.ne_nil
      simpa [hw.solid c] using hg c (by simp)
  | @word k j g w r ws hg hw hr hj _ ih =>
    generalize ht : g ++ w ++ r = text at h'
    cases h' with
    | gap hg' =>
      subst ht
      obtain ⟨c, cs, rfl⟩ := List.exists_cons_of_ne_nil hw.ne_nil
      simpa [hw.solid c] using hg' c (by simp)
    | @word _ _ g' w' r' vs hg' hw' hr' hj' h' =>
      obtain ⟨h1, h2, h3⟩ := first_word_eq hg hw hr
      obtain ⟨h1', h2', h3'⟩ := first_word_eq hg' hw' hr'
      rw [ht] at h1 h2 h3
      obtain rfl := h1.symm.trans h1'
      obtain rfl := h2.symm.trans h2'
      obtain rfl := h3.symm.trans h3'
      subst hj hj'
      rw [ih h']

theorem spaced_iff {k : Nat} {text : List Char} {ws : List Slice} :
    Spaced k text ws ↔ wordsFrom k text = ws :=
  ⟨fun h => (spaced_wordsFrom k text).unique h, fun h => h ▸ spaced_wordsFrom k text⟩

theorem wordsFrom_eq_nil_iff {k : Nat} {text : List Char} : wordsFrom k text = [] ↔ IsGap text := by
  constructor
  · intro h
    cases spaced_iff.mpr h with
    | gap hgap => exact hgap
  · intro hgap
    exact spaced_iff.mp (.gap hgap)

/-- A text that is one word. -/
theorem wordsFrom_of_isWord {w : List Char} (hw : IsWord w) (k : Nat) : wordsFrom k w = [⟨k, w⟩] := by
  have hlast : Spaced (k + byteLength w) [] [] := .gap .nil
  have hspaced : Spaced k ([] ++ w ++ []) [⟨k, w⟩] := .word .nil hw (stops_nil _) rfl hlast
  rw [List.nil_append, List.append_nil] at hspaced
  exact spaced_iff.mp hspaced

theorem isWord_of_mem {k : Nat} {text : List Char} {v : Slice} (hv : v ∈ wordsFrom k text) :
    IsWord v.text ∧ v.text <:+: text := by
  obtain ⟨us, vs, hsplit⟩ := List.append_of_mem hv
  obtain ⟨before, rest, rfl, -, hword, -⟩ := (spaced_iff.mpr hsplit).split
  exact ⟨hword, before, rest, rfl⟩

theorem wordsFrom_shift (k d : Nat) (text : List Char) :
    wordsFrom (k + d) text = (wordsFrom k text).map (·.shift d) :=
  spaced_iff.mp ((spaced_wordsFrom k text).shift d)

theorem wordsFrom_append (k : Nat) (a : List Char) {b : List Char} (hb : Stops isSolid b) :
    wordsFrom k (a ++ b) = wordsFrom k a ++ wordsFrom (k + byteLength a) b :=
  spaced_iff.mp ((spaced_wordsFrom k a).append (spaced_wordsFrom _ b) hb)

end MarkupQuery
