import Mathlib.Control.Monad.Basic
import MarkupQuery.Proofs.Joining

/-! What stands between the words of a selector. A part between commas reads as its words do,
whatever blanks lie between and around them. The places of the words differ from text to text, but
they go into nothing except the place of an error, so the reading is stated here once without them,
as a function of the words. -/

namespace MarkupQuery

/-- The texts of the pieces that a piece begun and the words after it make. -/
def glue (piece : List Char) : List (List Char) → List (List Char)
  | [] => [piece]
  | w :: ws => if isTail w then glue (piece ++ ' ' :: w) ws else piece :: glue w ws

/-- What words read as, with the message of an error in place of the error. -/
def readWords : List (List Char) → Except String Alternative
  | [] => .ok []
  | w :: ws =>
    if isTail w then .error (ParseError.strayCloser {}).message
    else (glue w ws).mapM fun text => (Token.parse text 0).mapError ParseError.message

theorem map_text_wordsFrom (k : Nat) (text : List Char) :
    (wordsFrom k text).map Slice.text = words text := by
  have hshift := wordsFrom_shift 0 k text
  rw [Nat.zero_add] at hshift
  rw [hshift, words, List.map_map]
  rfl

theorem Piece.map_text_collect (p : Piece) (ws : List Slice) :
    (p.collect ws).map Piece.text = glue p.text (ws.map Slice.text) := by
  induction ws generalizing p with
  | nil => rfl
  | cons w ws ih =>
    simp only [collect, List.map_cons, glue]
    split
    · exact ih _
    · rw [List.map_cons, ih]
      rfl

/-- A token reads the same wherever it stands. -/
theorem Token.parse_message (text : List Char) (k : Nat) :
    (Token.parse text k).mapError ParseError.message =
      (Token.parse text 0).mapError ParseError.message := by
  rw [← Nat.zero_add k, Token.parse_shift]
  cases Token.parse text 0 <;> rfl

theorem Alternative.parseAt_message (text : List Char) (k : Nat) :
    (Alternative.parseAt text k).mapError ParseError.message = readWords (words text) := by
  have htokens (ps : List Piece) :
      (ps.mapM fun p => Token.parse p.text p.span.start).mapError ParseError.message =
        (ps.map Piece.text).mapM fun text => (Token.parse text 0).mapError ParseError.message := by
    rw [List.mapM_map]
    exact (Outcome.mapM_mapError fun p _ => (Token.parse_message p.text p.span.start).symm).symm
  rw [Alternative.parseAt, pieces, ← map_text_wordsFrom k]
  cases wordsFrom k text with
  | nil => rfl
  | cons w ws =>
    simp only [List.map_cons, readWords]
    split
    · rfl
    · rw [Outcome.ok_bind, htokens, Piece.map_text_collect]
      rfl

theorem Selector.parse_message (text : String) :
    (Selector.parse text).mapError ParseError.message =
      ((text.toList.splitOn ',').map words).mapM readWords := by
  rw [Selector.parse, ← map_text_splitCommasFrom 0, ← splitCommas, List.map_map, List.mapM_map]
  exact (Outcome.mapM_mapError fun s _ => (Alternative.parseAt_message s.text s.start).symm).symm

/-- Texts with the same words between their commas read as the same selector, and then select the
same, or are both refused with one message. -/
theorem parse_of_same_words {a b : String}
    (h : (a.toList.splitOn ',').map words = (b.toList.splitOn ',').map words) :
    (∃ x, Selector.parse a = .ok x ∧ Selector.parse b = .ok x ∧
      ∀ (e : Engine) roots, e.select roots a = e.select roots b) ∨
    ∃ err err', Selector.parse a = .error err ∧ Selector.parse b = .error err' ∧
      err.message = err'.message := by
  have hsame : (Selector.parse a).mapError ParseError.message =
      (Selector.parse b).mapError ParseError.message := by
    rw [Selector.parse_message, h, Selector.parse_message]
  rcases Outcome.mapError_eq_mapError_iff.mp hsame with ⟨x, ha, hb⟩ | hrefused
  · refine .inl ⟨x, ha, hb, fun e roots => ?_⟩
    simp only [Engine.select, Scope.select, ha, hb]
  · exact .inr hrefused

/-- Blanks of several kinds around a comma and inside an argument of an argument. -/
theorem parse_of_same_words_blanks :
    ("ul\t li:not(:contains(add \u00a0 by)) ,\np".toList.splitOn ',').map words =
        (" ul li:not(:contains(add by)),p".toList.splitOn ',').map words ∧
      ∃ x, Selector.parse "ul\t li:not(:contains(add \u00a0 by)) ,\np" = .ok x ∧
        Selector.parse " ul li:not(:contains(add by)),p" = .ok x ∧
        ∀ (e : Engine) roots, e.select roots "ul\t li:not(:contains(add \u00a0 by)) ,\np" =
          e.select roots " ul li:not(:contains(add by)),p" :=
  have hwords : ("ul\t li:not(:contains(add \u00a0 by)) ,\np".toList.splitOn ',').map words =
      (" ul li:not(:contains(add by)),p".toList.splitOn ',').map words := by decide +kernel
  have hread : Selector.parse " ul li:not(:contains(add by)),p" =
      .ok [[.compound { tag := some "ul" }, .filter
        { preselector := some [.compound { tag := some "li" }], name := "not",
          argument := some ":contains(add by)",
          next := some { name := "contains", argument := some "add by" } }],
        [.compound { tag := some "p" }]] := by
    with_unfolding_all rfl
  ⟨hwords, (parse_of_same_words hwords).resolve_right (by simp [hread])⟩

end MarkupQuery
