import Mathlib.Data.List.Induction
import Mathlib.Data.Nat.Digits.Defs
import MarkupQuery.Proofs.BuiltinFilters

/-! Filters by position. The argument of `:lt`, `:eq` and `:gt` is an index, written in decimal. What
is before an index, what is at it and what is after it make up all places of a context; in the legacy
semantics `:gt` counts from one and includes the index, so that it goes on where `:lt` of the index
before has stopped. `:even` and `:odd` go through each group by itself, and every position of it is
kept by one of them. -/

namespace MarkupQuery

open Grammar

/-- The decimal digits of a number below 2^64. -/
structure IsNumeral (digits : List Char) (n : Nat) : Prop where
  ne_nil : digits ≠ []
  isDigit : ∀ c ∈ digits, c.isDigit
  value : Nat.ofDigits 10 (digits.reverse.map fun c => c.toNat - '0'.toNat) = n
  lt : n < 2 ^ 64

/-- The text of an index: a numeral, perhaps after a plus sign, between blanks. -/
def IsIndex (text : List Char) (n : Nat) : Prop :=
  ∃ before sign digits after, text = before ++ (sign ++ digits) ++ after ∧
    IsGap before ∧ IsGap after ∧ (sign = [] ∨ sign = ['+']) ∧ IsNumeral digits n

/-- The members at the positions asked for, in order. -/
def atPositions {α : Type u} (keep : Nat → Bool) (xs : List α) : List α :=
  (xs.zipIdx.filter fun x => keep x.2).map Prod.fst

/-! Reading an index. -/

theorem IsIndex.lt {text : List Char} {n : Nat} (h : IsIndex text n) : n < 2 ^ 64 := by
  obtain ⟨_, _, _, _, -, -, -, -, hnumeral⟩ := h
  exact hnumeral.lt

/-- A text is its trimmed form between blanks. -/
theorem exists_trim (text : List Char) :
    ∃ before after, IsGap before ∧ IsGap after ∧ text = before ++ trim text ++ after := by
  obtain ⟨hfront, hbefore, -⟩ := span_eq_iff.mp (⟨rfl, rfl⟩ : text.takeWhile isBlank = _ ∧ _)
  obtain ⟨hback, hafter, -⟩ := span_eq_iff.mp
    (⟨rfl, rfl⟩ : (text.dropWhile isBlank).reverse.takeWhile isBlank = _ ∧ _)
  refine ⟨_, ((text.dropWhile isBlank).reverse.takeWhile isBlank).reverse, hbefore, ?_, ?_⟩
  · intro c hc
    exact hafter c (List.mem_reverse.mp hc)
  · rw [trim, List.append_assoc, ← List.reverse_append, ← hback, List.reverse_reverse]
    exact hfront

/-- A word between blanks is what trimming leaves. -/
theorem trim_of_isWord {before w after : List Char} (hbefore : IsGap before) (hw : IsWord w)
    (hafter : IsGap after) : trim (before ++ w ++ after) = w := by
  have hfirst : Stops isBlank (w ++ after) := by
    obtain ⟨c, cs, rfl⟩ := List.exists_cons_of_ne_nil hw.ne_nil
    exact stops_cons.mpr (hw.solid c List.mem_cons_self)
  have hlast : Stops isBlank w.reverse := by
    obtain ⟨cs, c, rfl⟩ := (List.eq_nil_or_concat w).resolve_left hw.ne_nil
    rw [List.concat_eq_append, List.reverse_append]
    exact stops_cons.mpr (hw.solid c (by simp))
  have hfront := (span_eq_iff.mpr ⟨List.append_assoc before w after, hbefore, hfirst⟩).2
  have hback := (span_eq_iff.mpr
    ⟨List.reverse_append, fun c hc => hafter c (List.mem_reverse.mp hc), hlast⟩).2
  rw [trim, hfront, hback, List.reverse_reverse]

theorem readDecimal_eq_ofDigits (digits : List Char) :
    readDecimal digits = Nat.ofDigits 10 (digits.reverse.map fun c => c.toNat - '0'.toNat) := by
  induction digits using List.reverseRecOn with
  | nil => rfl
  | append_singleton digits c ih =>
    rw [readDecimal] at ih
    rw [readDecimal, List.foldl_append, ih, List.reverse_append, List.reverse_singleton,
      List.singleton_append, List.map_cons, Nat.ofDigits_cons, Nat.add_comm]
    rfl

theorem IsNumeral.stops_plus {digits : List Char} {n : Nat} (h : IsNumeral digits n) :
    Stops (· == '+') digits := by
  intro c hc
  have hdigit := h.isDigit c (List.mem_of_mem_head? hc)
  rw [beq_eq_false_iff_ne]
  rintro rfl
  cases hdigit

theorem IsNumeral.isWord {sign digits : List Char} {n : Nat} (h : IsNumeral digits n)
    (hsign : sign = [] ∨ sign = ['+']) : IsWord (sign ++ digits) := by
  refine ⟨List.append_ne_nil_of_right_ne_nil sign h.ne_nil, ?_⟩
  have hdigits : ∀ c ∈ digits, isBlank c = false := fun c hc =>
    isBlank_of_isNameChar (by simp [isNameChar, isTagChar, h.isDigit c hc])
  rcases hsign with rfl | rfl
  · exact hdigits
  · exact List.forall_mem_cons.mpr ⟨rfl, hdigits⟩

namespace Builtin

/-- The check of the digits that are left once blanks and a plus sign are gone. -/
theorem readIndex?_eq_some_iff_isNumeral {text : List Char} {n : Nat} :
    readIndex? text = some n ↔ IsNumeral (dropOne (· == '+') (trim text)) n := by
  have hread : readIndex? text =
      let digits := dropOne (· == '+') (trim text)
      if digits != [] && digits.all Char.isDigit then
        if readDecimal digits < Nat.pow 2 64 then some (readDecimal digits) else none
      else none := by
    unfold readIndex?
    rcases dropOne_cases (· == '+') (trim text) with ⟨hstops, hdrop⟩ | ⟨c, hc, hdrop⟩
    · rw [hdrop]
      split
      · rename_i hplus
        rw [hplus] at hstops
        cases stops_cons.mp hstops
      · rfl
    · obtain rfl := beq_iff_eq.mp hc
      rw [hdrop]
      rfl
  rw [hread]
  simp only [readDecimal_eq_ofDigits, Option.ite_none_right_eq_some, Bool.and_eq_true, bne_iff_ne,
    List.all_eq_true, Option.some.injEq]
  constructor
  · rintro ⟨⟨hne, hdigits⟩, hlt, hvalue⟩
    exact ⟨hne, hdigits, hvalue, hvalue ▸ hlt⟩
  · rintro ⟨hne, hdigits, hvalue, hlt⟩
    exact ⟨⟨hne, hdigits⟩, hvalue ▸ hlt, hvalue⟩

theorem readIndex?_eq_some_iff {text : List Char} {n : Nat} :
    readIndex? text = some n ↔ IsIndex text n := by
  rw [readIndex?_eq_some_iff_isNumeral]
  constructor
  · intro h
    obtain ⟨before, after, hbefore, hafter, htext⟩ := exists_trim text
    rcases dropOne_cases (· == '+') (trim text) with ⟨-, hdrop⟩ | ⟨c, hc, hdrop⟩
    · rw [hdrop] at h
      exact ⟨before, [], _, after, htext, hbefore, hafter, .inl rfl, h⟩
    · obtain rfl := beq_iff_eq.mp hc
      rw [hdrop] at htext
      exact ⟨before, ['+'], _, after, htext, hbefore, hafter, .inr rfl, h⟩
  · rintro ⟨before, sign, digits, after, rfl, hbefore, hafter, hsign, hdigits⟩
    rw [trim_of_isWord hbefore (hdigits.isWord hsign) hafter]
    rcases hsign with rfl | rfl
    · rw [List.nil_append, dropOne_eq_self hdigits.stops_plus]
      exact hdigits
    · exact hdigits

theorem atPositions_cons {α : Type u} (keep : Nat → Bool) (x : α) (xs : List α) :
    atPositions keep (x :: xs) =
      (if keep 0 then [x] else []) ++ atPositions (fun i => keep (i + 1)) xs := by
  rw [atPositions, List.zipIdx_cons', List.filter_cons, List.filter_map]
  cases keep 0 <;> simp [atPositions, Function.comp_def]

/-- One goes through the even positions and the other through the rest, so they change places from
one member to the next. -/
theorem evens_odds_eq_atPositions {α : Type u} (xs : List α) :
    evens xs = atPositions (fun i => i % 2 == 0) xs ∧
      odds xs = atPositions (fun i => !(i % 2 == 0)) xs := by
  induction xs with
  | nil => exact ⟨rfl, rfl⟩
  | cons x xs ih =>
    have hnext : ∀ i, ((i + 1) % 2 == 0) = !(i % 2 == 0) := fun i => by grind
    obtain ⟨hevens, hodds⟩ := ih
    rw [evens, odds, atPositions_cons, atPositions_cons, hevens, hodds]
    simp [hnext]

end Builtin

namespace Engine

section

variable {find : Scope → List Place → Nat → List Place} {e : Engine} {c : Context} {text : String}
  {n : Nat}

theorem run_withIndex (h : IsIndex text.toList n) :
    e.run (Builtin.withIndex find) c (some text) =
      .ok (find (e.scope.limit (argumentSize (some text))) c.places n) := by
  rw [run, Builtin.withIndex, Option.bind_some, Builtin.readIndex?_eq_some_iff.mpr h]

theorem run_withIndex_of_no_index {a : Option String}
    (h : ∀ text ∈ a, ∀ n, ¬ IsIndex text.toList n) :
    e.run (Builtin.withIndex find) c a = .ok [] := by
  have hread : (a.bind fun text => Builtin.readIndex? text.toList) = none := by
    rw [Option.bind_eq_none_iff]
    intro text htext
    exact Option.eq_none_iff_forall_ne_some.mpr fun n hn =>
      h text htext n (Builtin.readIndex?_eq_some_iff.mp hn)
  rw [run, Builtin.withIndex, hread]

theorem run_lt (h : IsIndex text.toList n) :
    e.run Builtin.lt c (some text) = .ok (c.places.take n) := run_withIndex h

theorem run_eq (h : IsIndex text.toList n) :
    e.run Builtin.eq c (some text) = .ok c.places[n]?.toList := by
  rw [Builtin.eq, run_withIndex h, List.take_one, List.head?_drop]

theorem run_gt_legacy (h : IsIndex text.toList n) :
    (e.withSemantics .legacy).run Builtin.gt c (some text) = .ok (c.places.drop (n - 1)) :=
  run_withIndex h

theorem run_gt_conventional (h : IsIndex text.toList n) :
    (e.withSemantics .conventional).run Builtin.gt c (some text) =
      .ok (c.places.drop (min (n + 1) (2 ^ 64 - 1))) :=
  run_withIndex h

end

end Engine

/-- What is before an index, at it and after it is the whole list, unless there is a place at the
greatest index, where the count of what comes before the rest cannot go on. -/
theorem take_append_getElem?_append_drop_iff {α : Type u} {xs : List α} {n : Nat} (hn : n < 2 ^ 64) :
    xs.take n ++ xs[n]?.toList ++ xs.drop (min (n + 1) (2 ^ 64 - 1)) = xs ↔
      n + 1 < 2 ^ 64 ∨ xs.length < 2 ^ 64 := by
  rw [← List.take_add_one]
  rcases Nat.lt_or_ge (n + 1) (2 ^ 64) with hsmall | hgreatest
  · rw [Nat.min_eq_left (by omega), List.take_append_drop]
    exact iff_of_true rfl (.inl hsmall)
  · obtain rfl : n = 2 ^ 64 - 1 := by omega
    constructor
    · intro h
      have hlength := congrArg List.length h
      simp only [List.length_append, List.length_take, List.length_drop] at hlength
      omega
    · intro h
      have hlength : xs.length < 2 ^ 64 := h.resolve_left (by omega)
      rw [List.drop_of_length_le (by omega), List.take_of_length_le (by omega), List.append_nil]

/-- An index cuts the places of a context into those before it, the one at it, if there is one, and
those after it. Only at the greatest index, and in a context of 2^64 places, would the place at it be
counted among those after it. The legacy `:gt` of the next index is all that is not before the index.
The three filters find nothing without an index. Of each group `:even` and `:odd` keep complementary
positions. -/
theorem run_positions_partition (e : Engine) (c : Context) :
    (∀ text n, IsIndex text.toList n → ∃ before after,
      (e.withSemantics .conventional).run Builtin.lt c (some text) = .ok before ∧
      (e.withSemantics .conventional).run Builtin.eq c (some text) = .ok c.places[n]?.toList ∧
      (e.withSemantics .conventional).run Builtin.gt c (some text) = .ok after ∧
      (before ++ c.places[n]?.toList ++ after = c.places ↔ n + 1 < 2 ^ 64 ∨ c.size < 2 ^ 64) ∧
      before.length = min n c.size ∧ after = c.places.drop (min (n + 1) (2 ^ 64 - 1))) ∧
    (∀ text next n, IsIndex text.toList n → IsIndex next.toList (n + 1) → ∃ before after,
      (e.withSemantics .legacy).run Builtin.lt c (some text) = .ok before ∧
      (e.withSemantics .legacy).run Builtin.gt c (some next) = .ok after ∧
      before ++ after = c.places ∧ before.length = min n c.size) ∧
    (∀ text, IsIndex text.toList 0 →
      (e.withSemantics .legacy).run Builtin.gt c (some text) = .ok c.places) ∧
    (∀ a, (∀ text ∈ a, ∀ n, ¬ IsIndex text.toList n) →
      ∀ x, ∀ f ∈ [Builtin.lt, Builtin.eq, Builtin.gt], (e.withSemantics x).run f c a = .ok []) ∧
    ∀ a,
      (e.withSemantics .conventional).run Builtin.even c a =
        .ok (c.groups.flatMap (atPositions fun i => i % 2 == 0)) ∧
      (e.withSemantics .conventional).run Builtin.odd c a =
        .ok (c.groups.flatMap (atPositions fun i => !(i % 2 == 0))) ∧
      (e.withSemantics .legacy).run Builtin.even c a =
        (e.withSemantics .conventional).run Builtin.odd c a ∧
      (e.withSemantics .legacy).run Builtin.odd c a =
        (e.withSemantics .conventional).run Builtin.even c a := by
  refine ⟨?_, ?_, ?_, ?_, ?_⟩
  · intro text n h
    exact ⟨_, _, Engine.run_lt h, Engine.run_eq h, Engine.run_gt_conventional h,
      take_append_getElem?_append_drop_iff h.lt, List.length_take, rfl⟩
  · intro text next n htext hnext
    exact ⟨_, _, Engine.run_lt htext, Engine.run_gt_legacy hnext, List.take_append_drop n c.places,
      List.length_take⟩
  · intro text h
    exact Engine.run_gt_legacy h
  · intro a hnone x f hf
    simp only [List.mem_cons, List.not_mem_nil, or_false] at hf
    rcases hf with rfl | rfl | rfl <;> exact Engine.run_withIndex_of_no_index hnone
  · intro a
    have hevens : Builtin.evens = atPositions (α := Place) fun i => i % 2 == 0 :=
      funext fun xs => (Builtin.evens_odds_eq_atPositions xs).1
    have hodds : Builtin.odds = atPositions (α := Place) fun i => !(i % 2 == 0) :=
      funext fun xs => (Builtin.evens_odds_eq_atPositions xs).2
    rw [← hevens, ← hodds]
    exact ⟨rfl, rfl, rfl, rfl⟩

/-- Two groups of places with an empty one between them. -/
def fourPlaces : Context :=
  ⟨[[⟨0, .tag "p"⟩, ⟨1, .text "a"⟩, ⟨2, .tag "b"⟩], [], [⟨4, .text "c"⟩]]⟩

/-- One index stands between blanks and after a sign, one is the greatest that there is, and a number
below zero is none. -/
theorem run_positions_partition_fourPlaces :
    let legacy := (Engine.withOptions {}).withSemantics .legacy
    let conventional := (Engine.withOptions {}).withSemantics .conventional
    IsIndex " +2\t".toList 2 ∧ IsIndex "3".toList (2 + 1) ∧ IsIndex "00".toList 0 ∧
      IsIndex "18446744073709551615".toList (2 ^ 64 - 1) ∧
      (∀ text ∈ some "-1", ∀ n, ¬ IsIndex text.toList n) ∧
      (∃ before after, conventional.run Builtin.lt fourPlaces (some " +2\t") = .ok before ∧
        conventional.run Builtin.eq fourPlaces (some " +2\t") = .ok [⟨2, .tag "b"⟩] ∧
        conventional.run Builtin.gt fourPlaces (some " +2\t") = .ok after ∧
        before ++ [⟨2, .tag "b"⟩] ++ after = fourPlaces.places ∧ before.length = 2) ∧
      (∃ before after,
        conventional.run Builtin.lt fourPlaces (some "18446744073709551615") = .ok before ∧
        conventional.run Builtin.eq fourPlaces (some "18446744073709551615") = .ok [] ∧
        conventional.run Builtin.gt fourPlaces (some "18446744073709551615") = .ok after ∧
        before ++ [] ++ after = fourPlaces.places ∧ before.length = 4) ∧
      (∃ before after, legacy.run Builtin.lt fourPlaces (some " +2\t") = .ok before ∧
        legacy.run Builtin.gt fourPlaces (some "3") = .ok after ∧
        before ++ after = fourPlaces.places ∧ before.length = 2) ∧
      legacy.run Builtin.gt fourPlaces (some "00") = .ok fourPlaces.places ∧
      conventional.run Builtin.eq fourPlaces (some "-1") = .ok [] ∧
      legacy.run Builtin.even fourPlaces none = .ok [⟨1, .text "a"⟩] := by
  intro legacy conventional
  have htwo : IsIndex " +2\t".toList 2 := Builtin.readIndex?_eq_some_iff.mp (by decide +kernel)
  have hthree : IsIndex "3".toList (2 + 1) := Builtin.readIndex?_eq_some_iff.mp (by decide +kernel)
  have hzero : IsIndex "00".toList 0 := Builtin.readIndex?_eq_some_iff.mp (by decide +kernel)
  have hmax : IsIndex "18446744073709551615".toList (2 ^ 64 - 1) :=
    Builtin.readIndex?_eq_some_iff.mp (by decide +kernel)
  have hnone : ∀ text ∈ some "-1", ∀ n, ¬ IsIndex text.toList n := by
    rintro _ ⟨⟩ n h
    have hread : Builtin.readIndex? "-1".toList = none := by decide +kernel
    cases hread.symm.trans (Builtin.readIndex?_eq_some_iff.mpr h)
  obtain ⟨hconventional, hlegacy, hfirst, habsent, heven⟩ :=
    run_positions_partition (Engine.withOptions {}) fourPlaces
  obtain ⟨before, after, hlt, heq, hgt, hall, hlength, -⟩ := hconventional _ _ htwo
  obtain ⟨before', after', hlt', heq', hgt', hall', hlength', -⟩ := hconventional _ _ hmax
  have hall := hall.mpr (.inl (by decide))
  have hall' := hall'.mpr (.inr (by decide))
  exact ⟨htwo, hthree, hzero, hmax, hnone, ⟨before, after, hlt, heq, hgt, hall, hlength⟩,
    ⟨before', after', hlt', heq', hgt', hall', hlength'⟩, hlegacy _ _ _ htwo hthree,
    hfirst _ hzero, habsent _ hnone .conventional Builtin.eq (by simp),
    (heven none).2.2.1.trans (by decide +kernel)⟩

end MarkupQuery
