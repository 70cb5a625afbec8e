/-! Positions in a text, counted in bytes of its UTF-8 form. A span fits a text when its ends are
in order and both fall between characters, and then it cuts the text into three parts. -/

namespace MarkupQuery

@[simp] def byteLength : List Char → Nat
  | [] => 0
  | c :: cs => c.utf8Size + byteLength cs

@[simp] theorem byteLength_append (a b : List Char) : byteLength (a ++ b) = byteLength a + byteLength b := by
  induction a with
  | nil => simp [byteLength]
  | cons c cs ih => simp [byteLength, ih, Nat.add_assoc]

/-- Cuts a text at a byte offset, if a character starts there or the text ends there. -/
def splitAtByte? : Nat → List Char → Option (List Char × List Char)
  | 0, cs => some ([], cs)
  | _ + 1, [] => none
  | n + 1, c :: cs =>
    if c.utf8Size ≤ n + 1 then
      (splitAtByte? (n + 1 - c.utf8Size) cs).map fun (a, b) => (c :: a, b)
    else none

theorem splitAtByte?_byteLength (a b : List Char) :
    splitAtByte? (byteLength a) (a ++ b) = some (a, b) := by
  induction a with
  | nil => simp [byteLength, splitAtByte?]
  | cons c cs ih =>
    obtain ⟨k, hk⟩ : ∃ k, c.utf8Size + byteLength cs = k + 1 :=
      ⟨c.utf8Size + byteLength cs - 1, by have := c.utf8Size_pos; omega⟩
    simp only [byteLength, List.cons_append, hk, splitAtByte?]
    rw [if_pos (by omega), show k + 1 - c.utf8Size = byteLength cs by omega, ih]
    rfl

theorem splitAtByte?_eq_some_iff {n : Nat} {text a b : List Char} :
    splitAtByte? n text = some (a, b) ↔ text = a ++ b ∧ byteLength a = n := by
  constructor
  · intro h
    fun_induction splitAtByte? n text generalizing a with
    | case1 => cases h; exact ⟨rfl, rfl⟩
    | case2 => cases h
    | case3 n c cs hle ih =>
      obtain ⟨⟨a', b'⟩, hsplit, heq⟩ := Option.map_eq_some_iff.mp h
      cases heq
      obtain ⟨rfl, hlen⟩ := ih hsplit
      exact ⟨rfl, by rw [byteLength, hlen]; omega⟩
    | case4 => cases h
  · rintro ⟨rfl, rfl⟩
    exact splitAtByte?_byteLength a b

structure Span where
  start : Nat := 0
  stop : Nat := 0
deriving DecidableEq, Inhabited

namespace Span

/-- What stands before, in and after the span, if it fits the text. -/
def cut? (s : Span) (text : List Char) : Option (List Char × List Char × List Char) :=
  if s.start ≤ s.stop then do
    let (before, rest) ← splitAtByte? s.start text
    let (inside, after) ← splitAtByte? (s.stop - s.start) rest
    return (before, inside, after)
  else none

theorem cut?_eq_some_iff {s : Span} {text before inside after : List Char} :
    s.cut? text = some (before, inside, after) ↔
      text = before ++ inside ++ after ∧
        s = ⟨byteLength before, byteLength before + byteLength inside⟩ := by
  obtain ⟨start, stop⟩ := s
  unfold cut?
  dsimp only
  constructor
  · intro h
    split at h
    · obtain ⟨⟨b, rest⟩, hb, h⟩ := Option.bind_eq_some_iff.mp h
      obtain ⟨⟨i, a⟩, hi, h⟩ := Option.bind_eq_some_iff.mp h
      cases h
      obtain ⟨rfl, rfl⟩ := splitAtByte?_eq_some_iff.mp hb
      obtain ⟨rfl, hlen⟩ := splitAtByte?_eq_some_iff.mp hi
      exact ⟨by simp, by rw [hlen, Nat.add_sub_cancel' (by omega)]⟩
    · cases h
  · rintro ⟨rfl, heq⟩
    cases heq
    rw [if_pos (Nat.le_add_right _ _), List.append_assoc, splitAtByte?_byteLength,
      Nat.add_sub_cancel_left]
    dsimp only [bind, Option.bind]
    rw [splitAtByte?_byteLength]
    rfl

def fits (s : Span) (text : List Char) : Bool := (s.cut? text).isSome

def shift (s : Span) (k : Nat) : Span := ⟨s.start + k, s.stop + k⟩

end Span

/-- A stretch of a longer text, with the byte offset at which it begins there. -/
structure Slice where
  start : Nat
  text : List Char
deriving DecidableEq, Inhabited

namespace Slice

def stop (s : Slice) : Nat := s.start + byteLength s.text

def span (s : Slice) : Span := ⟨s.start, s.stop⟩

def shift (s : Slice) (k : Nat) : Slice := ⟨s.start + k, s.text⟩

@[simp] theorem text_shift (s : Slice) (k : Nat) : (s.shift k).text = s.text := rfl

theorem span_shift (s : Slice) (k : Nat) : (s.shift k).span = s.span.shift k := by
  simp [span, stop, shift, Span.shift, Nat.add_right_comm]

end Slice

end MarkupQuery
