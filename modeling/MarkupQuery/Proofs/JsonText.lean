import Mathlib.Tactic.SplitIfs
import MarkupQuery.Json.Reader
import MarkupQuery.Proofs.Outcome

/-! The compact text of a value reads back as that value, with nothing left over of the value's own
text, as long as it is not nested deeper than the reader goes; otherwise it is refused. Values with
numbers are left aside, as a number is kept in whatever way it was written. -/

namespace MarkupQuery

namespace JsonReader

open JsonValue (escape writeString)

/-! Strings. -/

theorem hexDigit?_digitChar : ∀ n < 16, hexDigit? (Nat.digitChar n) = some n := by decide

/-- A control character is written by its number. -/
theorem codePoint_control {n : Nat} (h : n < 0x20) (rest : List Char) :
    codePoint ('0' :: '0' :: Nat.digitChar (n / 16) :: Nat.digitChar (n % 16) :: rest) =
      .ok (Char.ofNat n, rest) := by
  have hzero : hexDigit? '0' = some 0 := rfl
  have hsum : 4096 * 0 + 256 * 0 + 16 * (n / 16) + n % 16 = n := by omega
  have hunit : codeUnit ('0' :: '0' :: Nat.digitChar (n / 16) :: Nat.digitChar (n % 16) :: rest) =
      .ok (n, rest) := by
    simp only [codeUnit, hzero, hexDigit?_digitChar (n / 16) (by omega),
      hexDigit?_digitChar (n % 16) (by omega), hsum]
  rw [codePoint, hunit, Outcome.ok_bind]
  exact if_pos (.inl (by omega))

theorem stringBody_backslash (text : List Char) {c : Char} {rest : List Char}
    (h : escaped text = .ok (c, rest)) :
    stringBody ('\\' :: text) = (stringBody rest).map fun (cs, rest) => (c :: cs, rest) := by
  rw [stringBody]
  split
  · rename_i hno
    rw [h] at hno
    cases hno
  · rename_i hyes
    rw [h] at hyes
    cases hyes
    rfl

/-- A character is read back from the way it is written. -/
theorem stringBody_escape (c : Char) (text : List Char) :
    stringBody (escape c ++ text) = (stringBody text).map fun (cs, rest) => (c :: cs, rest) := by
  unfold escape
  split_ifs with hquote hn hr ht hb hf hcontrol
  · rcases hquote with rfl | rfl <;> exact stringBody_backslash _ rfl
  · subst hn
    exact stringBody_backslash _ rfl
  · subst hr
    exact stringBody_backslash _ rfl
  · subst ht
    exact stringBody_backslash _ rfl
  · rw [← Char.ofNat_toNat c, hb]
    exact stringBody_backslash _ rfl
  · rw [← Char.ofNat_toNat c, hf]
    exact stringBody_backslash _ rfl
  · refine stringBody_backslash _ ?_
    have hpoint := codePoint_control hcontrol text
    rw [Char.ofNat_toNat] at hpoint
    exact hpoint
  · obtain ⟨hquote, hslash⟩ := not_or.mp hquote
    rw [List.singleton_append, stringBody, if_neg hcontrol]
    · exact hquote
    · exact hslash

theorem stringBody_written (s rest : List Char) :
    stringBody (s.flatMap escape ++ '"' :: rest) = .ok (s, rest) := by
  induction s with
  | nil => rw [List.flatMap_nil, List.nil_append, stringBody]
  | cons c s ih => rw [List.flatMap_cons, List.append_assoc, stringBody_escape, ih, Outcome.map_ok]

end JsonReader

namespace JsonValue

open JsonReader

mutual

/-- No number occurs in the value. -/
def NoNumber : JsonValue → Prop
  | .number _ => False
  | .array items => NoNumberItems items
  | .object members => NoNumberMembers members
  | _ => True

def NoNumberItems : List JsonValue → Prop
  | [] => True
  | x :: xs => x.NoNumber ∧ NoNumberItems xs

def NoNumberMembers : List (String × JsonValue) → Prop
  | [] => True
  | (_, x) :: xs => x.NoNumber ∧ NoNumberMembers xs

end

theorem NoNumberMembers.append {xs ys : List (String × JsonValue)} (hx : NoNumberMembers xs)
    (hy : NoNumberMembers ys) : NoNumberMembers (xs ++ ys) := by
  induction xs with
  | nil => exact hy
  | cons x xs ih => exact ⟨hx.1, ih hx.2⟩

theorem depthMembers_append (xs ys : List (String × JsonValue)) :
    depthMembers (xs ++ ys) = max (depthMembers xs) (depthMembers ys) := by
  induction xs with
  | nil => exact (Nat.zero_max _).symm
  | cons x xs ih =>
    obtain ⟨k, v⟩ := x
    rw [List.cons_append, depthMembers, depthMembers, ih, Nat.max_assoc]

theorem writeString_append (s : String) (rest : List Char) :
    writeString s ++ rest = '"' :: (s.toList.flatMap escape ++ '"' :: rest) := by
  simp [writeString]

/-- A written value neither begins with a blank nor looks like the end of an array. -/
theorem writeBefore_eq_cons {v : JsonValue} (hv : v.NoNumber) (rest : List Char) :
    ∃ c text, v.writeBefore rest = c :: text ∧ isJsonBlank c = false ∧ c ≠ ']' := by
  cases v with
  | null => exact ⟨'n', _, rfl, rfl, by decide⟩
  | bool b => cases b with
    | true => exact ⟨'t', _, rfl, rfl, by decide⟩
    | false => exact ⟨'f', _, rfl, rfl, by decide⟩
  | number literal => exact hv.elim
  | string s => exact ⟨'"', _, writeString_append s rest, rfl, by decide⟩
  | array items => exact ⟨'[', _, rfl, rfl, by decide⟩
  | object members => exact ⟨'\x7b', _, rfl, rfl, by decide⟩

mutual

theorem suffix_writeBefore (rest : List Char) : ∀ v : JsonValue, rest <:+ v.writeBefore rest
  | .null => List.suffix_append _ _
  | .bool true => List.suffix_append _ _
  | .bool false => List.suffix_append _ _
  | .number literal => List.suffix_append _ _
  | .string s => List.suffix_append _ _
  | .array items => by
    have h := suffix_writeItems (']' :: rest) items
    exact ((List.suffix_cons ']' rest).trans h).trans (List.suffix_cons _ _)
  | .object members => by
    have h := suffix_writeMembers ('\x7d' :: rest) members
    exact ((List.suffix_cons '\x7d' rest).trans h).trans (List.suffix_cons _ _)

theorem suffix_writeItems (rest : List Char) : ∀ xs : List JsonValue, rest <:+ writeItems xs rest
  | [] => List.suffix_refl _
  | [x] => suffix_writeBefore rest x
  | x :: y :: xs => by
    have h := suffix_writeItems rest (y :: xs)
    rw [writeItems]
    exact (h.trans (List.suffix_cons ',' _)).trans (suffix_writeBefore _ x)

theorem suffix_writeMembers (rest : List Char) :
    ∀ xs : List (String × JsonValue), rest <:+ writeMembers xs rest
  | [] => List.suffix_refl _
  | [(k, x)] => by
    rw [writeMembers]
    exact ((suffix_writeBefore rest x).trans (List.suffix_cons ':' _)).trans
      (List.suffix_append _ _)
  | (k, x) :: y :: xs => by
    have h := suffix_writeMembers rest (y :: xs)
    rw [writeMembers]
    exact (((h.trans (List.suffix_cons ',' _)).trans (suffix_writeBefore _ x)).trans
      (List.suffix_cons ':' _)).trans (List.suffix_append _ _)

end

theorem writeItems_eq_cons {x : JsonValue} (hx : x.NoNumber) (xs : List JsonValue)
    (rest : List Char) :
    ∃ c text, writeItems (x :: xs) rest = c :: text ∧ isJsonBlank c = false ∧ c ≠ ']' := by
  cases xs with
  | nil => exact writeBefore_eq_cons hx rest
  | cons y xs => exact writeBefore_eq_cons hx _

theorem skip_of_not_blank {c : Char} (h : isJsonBlank c = false) (text : List Char) :
    skip (c :: text) = c :: text :=
  List.dropWhile_cons_of_neg (by simp [h])

/-! Depth. -/

/-- What is nested within the limit is read, and what is nested deeper is a fault. -/
def within {α : Type} (depth limit : Nat) (r : α) : Except JsonFault α :=
  if depth ≤ limit then .ok r else .error .malformed

section
variable {α β : Type} {depth depth' limit : Nat}

theorem within_of_le (h : depth ≤ limit) (r : α) : within depth limit r = .ok r := if_pos h

theorem within_of_lt (h : limit < depth) (r : α) : within depth limit r = .error .malformed :=
  if_neg (Nat.not_le_of_lt h)

theorem within_succ (depth limit : Nat) (r : α) :
    within (depth + 1) (limit + 1) r = within depth limit r := by
  simp only [within, Nat.add_le_add_iff_right]

/-- Of two parts, each within the limit or not, the first is looked at first. -/
theorem bind_within (r : α) {s : β} {f : α → Except JsonFault β} (h : f r = within depth' limit s) :
    (within depth limit r >>= f) = within (max depth depth') limit s := by
  rcases Nat.lt_or_ge limit depth with hdepth | hdepth
  · rw [within_of_lt hdepth, within_of_lt (Nat.lt_of_lt_of_le hdepth (Nat.le_max_left _ _))]
    rfl
  · rw [within_of_le hdepth, Outcome.ok_bind, h]
    simp only [within, Nat.max_le, hdepth, true_and]

theorem bind_within_ok (r : α) {s : β} {f : α → Except JsonFault β} (h : f r = .ok s) :
    (within depth limit r >>= f) = within depth limit s := by
  rw [bind_within r (h.trans (within_of_le (Nat.zero_le limit) s).symm), Nat.max_zero]

theorem map_within (r : α) (f : α → β) :
    (within depth limit r).map f = within depth limit (f r) := by
  rcases Nat.lt_or_ge limit depth with hdepth | hdepth
  · rw [within_of_lt hdepth, within_of_lt hdepth, Outcome.map_error]
  · rw [within_of_le hdepth, within_of_le hdepth, Outcome.map_ok]

end

/-! What the reader does with the parts of an array or an object. -/

theorem value_quote (fuel depth : Nat) (text : List Char) :
    value (fuel + 1) depth ('"' :: text) =
      (stringBody text).map fun (s, rest) => (.string (String.ofList s), rest) := rfl

theorem value_string (fuel depth : Nat) (s : String) (rest : List Char) :
    value (fuel + 1) depth (writeString s ++ rest) = .ok (.string s, rest) := by
  rw [writeString_append, value_quote, stringBody_written, Outcome.map_ok]
  dsimp only
  rw [String.ofList_toList]

theorem value_bracket (fuel depth : Nat) (text : List Char) :
    value (fuel + 1) (depth + 1) ('[' :: text) = match skip text with
      | ']' :: rest => .ok (.array [], rest)
      | rest => (items fuel depth rest).map fun (xs, rest) => (.array xs, rest) := rfl

theorem value_brace (fuel depth : Nat) (text : List Char) :
    value (fuel + 1) (depth + 1) ('\x7b' :: text) = match skip text with
      | '\x7d' :: rest => .ok (.object [], rest)
      | rest => (members fuel depth rest).map fun (xs, rest) => (.object xs, rest) := rfl

theorem value_array_cons {x : JsonValue} (hx : x.NoNumber) (xs : List JsonValue) (fuel depth : Nat)
    (rest : List Char) :
    value (fuel + 1) (depth + 1) ('[' :: writeItems (x :: xs) rest) =
      (items fuel depth (writeItems (x :: xs) rest)).map fun (xs, rest) => (.array xs, rest) := by
  obtain ⟨c, text, htext, hblank, hc⟩ := writeItems_eq_cons hx xs rest
  rw [value_bracket, htext, skip_of_not_blank hblank]
  split
  · rename_i heq
    exact absurd (List.cons.inj heq).1 hc
  · rfl

theorem value_object_cons (m : String × JsonValue) (xs : List (String × JsonValue))
    (fuel depth : Nat) (rest : List Char) :
    value (fuel + 1) (depth + 1) ('\x7b' :: writeMembers (m :: xs) rest) =
      (members fuel depth (writeMembers (m :: xs) rest)).map
        fun (xs, rest) => (.object xs, rest) := by
  have hquote : ∃ text, writeMembers (m :: xs) rest = '"' :: text := by
    cases xs with
    | nil => exact ⟨_, writeString_append _ _⟩
    | cons y xs => exact ⟨_, writeString_append _ _⟩
  obtain ⟨text, htext⟩ := hquote
  rw [value_brace, htext]
  rfl

section
variable {fuel depth d d' : Nat} {text text' rest : List Char} {x : JsonValue}

theorem items_last (h : value fuel depth text = within d depth (x, ']' :: rest)) :
    items (fuel + 1) depth text = within d depth ([x], rest) := by
  rw [items, h]
  exact bind_within_ok _ rfl

theorem items_more {xs : List JsonValue}
    (h : value fuel depth text = within d depth (x, ',' :: text'))
    (hxs : items fuel depth text' = within d' depth (xs, rest)) :
    items (fuel + 1) depth text = within (max d d') depth (x :: xs, rest) := by
  have hcons : (items fuel depth text').map (fun (xs, rest) => (x :: xs, rest)) =
      within d' depth (x :: xs, rest) := by rw [hxs, map_within]
  rw [items, h]
  exact bind_within _ hcons

theorem members_quote (fuel depth : Nat) (text : List Char) :
    members (fuel + 1) depth ('"' :: text) = (do
      let (k, rest) ← stringBody text
      match skip rest with
      | ':' :: rest =>
        let (x, rest) ← value fuel depth rest
        match skip rest with
        | '\x7d' :: rest => .ok ([(String.ofList k, x)], rest)
        | ',' :: rest =>
          (members fuel depth rest).map fun (xs, rest) => ((String.ofList k, x) :: xs, rest)
        | rest => .error (faultAt rest)
      | rest => .error (faultAt rest)) := by
  rw [members]
  rfl

/-- A written name is read back, and the value after the colon comes next. -/
theorem members_written (fuel depth : Nat) (k : String) (text : List Char) :
    members (fuel + 1) depth (writeString k ++ ':' :: text) = (do
      let (x, rest) ← value fuel depth text
      match skip rest with
      | '\x7d' :: rest => .ok ([(k, x)], rest)
      | ',' :: rest => (members fuel depth rest).map fun (xs, rest) => ((k, x) :: xs, rest)
      | rest => .error (faultAt rest)) := by
  rw [writeString_append, members_quote, stringBody_written, Outcome.ok_bind]
  dsimp only
  rw [String.ofList_toList]
  rfl

theorem members_last (k : String) (h : value fuel depth text = within d depth (x, '\x7d' :: rest)) :
    members (fuel + 1) depth (writeString k ++ ':' :: text) = within d depth ([(k, x)], rest) := by
  rw [members_written, h]
  exact bind_within_ok _ rfl

theorem members_more (k : String) {xs : List (String × JsonValue)}
    (h : value fuel depth text = within d depth (x, ',' :: text'))
    (hxs : members fuel depth text' = within d' depth (xs, rest)) :
    members (fuel + 1) depth (writeString k ++ ':' :: text) =
      within (max d d') depth ((k, x) :: xs, rest) := by
  have hcons : (members fuel depth text').map (fun (xs, rest) => ((k, x) :: xs, rest)) =
      within d' depth ((k, x) :: xs, rest) := by rw [hxs, map_within]
  rw [members_written, h]
  exact bind_within _ hcons

end

/-! Two calls for each character of the text are enough. -/

theorem exists_fuel_inside {c : Char} {text : List Char} {n : Nat}
    (h : 2 * (c :: text).length ≤ n + 1) : ∃ fuel, n = fuel + 1 ∧ 2 * text.length ≤ fuel := by
  rw [List.length_cons] at h
  exact ⟨n - 1, by omega, by omega⟩

theorem exists_fuel {c : Char} {text : List Char} {n : Nat} (x : JsonValue)
    (h : 2 * (x.writeBefore (c :: text)).length ≤ n) :
    ∃ fuel, n = fuel + 1 ∧ 2 * text.length ≤ fuel := by
  have hlength := (suffix_writeBefore (c :: text) x).length_le
  exact exists_fuel_inside (Nat.le_succ_of_le (Nat.le_trans (Nat.mul_le_mul_left 2 hlength) h))

theorem length_member_le {text : List Char} {n : Nat} (k : String)
    (h : 2 * (writeString k ++ ':' :: text).length ≤ n) : 2 * text.length ≤ n := by
  rw [List.length_append, List.length_cons] at h
  omega

mutual

/-- A written value is read back. The text in hand bounds the calls that are still to come. -/
theorem value_writeBefore : ∀ {v : JsonValue}, v.NoNumber → ∀ (fuel depth : Nat) (rest : List Char),
    2 * (v.writeBefore rest).length ≤ fuel + 1 →
      value (fuel + 1) depth (v.writeBefore rest) = within v.depth depth (v, rest)
  | .null, _, fuel, depth, rest, _ => (within_of_le (Nat.zero_le _) _).symm
  | .bool true, _, fuel, depth, rest, _ => (within_of_le (Nat.zero_le _) _).symm
  | .bool false, _, fuel, depth, rest, _ => (within_of_le (Nat.zero_le _) _).symm
  | .number literal, hv, _, _, _, _ => hv.elim
  | .string s, _, fuel, depth, rest, _ =>
    (value_string fuel depth s rest).trans (within_of_le (Nat.zero_le _) _).symm
  | .array _, _, _, 0, _, _ => (within_of_lt (Nat.succ_pos _) _).symm
  | .array [], _, fuel, depth + 1, rest, _ =>
    (within_of_le (Nat.succ_le_succ (Nat.zero_le _)) _).symm
  | .array (x :: xs), hv, fuel, depth + 1, rest, hfuel => by
    obtain ⟨fuel, rfl, hrest⟩ := exists_fuel_inside hfuel
    have hitems := items_writeItems (List.cons_ne_nil x xs) hv fuel depth rest hrest
    refine (value_array_cons hv.1 xs (fuel + 1) depth (']' :: rest)).trans ?_
    rw [hitems, map_within]
    exact (within_succ _ _ _).symm
  | .object _, _, _, 0, _, _ => (within_of_lt (Nat.succ_pos _) _).symm
  | .object [], _, fuel, depth + 1, rest, _ =>
    (within_of_le (Nat.succ_le_succ (Nat.zero_le _)) _).symm
  | .object (m :: xs), hv, fuel, depth + 1, rest, hfuel => by
    obtain ⟨fuel, rfl, hrest⟩ := exists_fuel_inside hfuel
    have hmembers := members_writeMembers (List.cons_ne_nil m xs) hv fuel depth rest hrest
    refine (value_object_cons m xs (fuel + 1) depth ('\x7d' :: rest)).trans ?_
    rw [hmembers, map_within]
    exact (within_succ _ _ _).symm

theorem items_writeItems : ∀ {xs : List JsonValue}, xs ≠ [] → NoNumberItems xs →
    ∀ (fuel depth : Nat) (rest : List Char), 2 * (writeItems xs (']' :: rest)).length ≤ fuel →
      items (fuel + 1) depth (writeItems xs (']' :: rest)) = within (depthItems xs) depth (xs, rest)
  | [], hne, _, _, _, _, _ => absurd rfl hne
  | [x], _, hv, fuel, depth, rest, hfuel => by
    obtain ⟨fuel, rfl, -⟩ := exists_fuel x hfuel
    have hx := value_writeBefore hv.1 fuel depth (']' :: rest) hfuel
    rw [depthItems, depthItems, Nat.max_zero]
    exact items_last hx
  | x :: y :: ys, _, hv, fuel, depth, rest, hfuel => by
    obtain ⟨fuel, rfl, hrest⟩ := exists_fuel x hfuel
    have hx := value_writeBefore hv.1 fuel depth (',' :: writeItems (y :: ys) (']' :: rest)) hfuel
    exact items_more hx (items_writeItems (List.cons_ne_nil y ys) hv.2 fuel depth rest hrest)

theorem members_writeMembers : ∀ {xs : List (String × JsonValue)}, xs ≠ [] → NoNumberMembers xs →
    ∀ (fuel depth : Nat) (rest : List Char), 2 * (writeMembers xs ('\x7d' :: rest)).length ≤ fuel →
      members (fuel + 1) depth (writeMembers xs ('\x7d' :: rest)) =
        within (depthMembers xs) depth (xs, rest)
  | [], hne, _, _, _, _, _ => absurd rfl hne
  | [(k, x)], _, hv, fuel, depth, rest, hfuel => by
    have hlength := length_member_le k hfuel
    obtain ⟨fuel, rfl, -⟩ := exists_fuel x hlength
    have hx := value_writeBefore hv.1 fuel depth ('\x7d' :: rest) hlength
    rw [depthMembers, depthMembers, Nat.max_zero]
    exact members_last k hx
  | (k, x) :: y :: ys, _, hv, fuel, depth, rest, hfuel => by
    have hlength := length_member_le k hfuel
    obtain ⟨fuel, rfl, hrest⟩ := exists_fuel x hlength
    have hx := value_writeBefore hv.1 fuel depth (',' :: writeMembers (y :: ys) ('\x7d' :: rest))
      hlength
    exact members_more k hx
      (members_writeMembers (List.cons_ne_nil y ys) hv.2 fuel depth rest hrest)

end

/-- A written value is read back whole, or refused if it is nested more than 127 deep. -/
theorem readOne_write {v : JsonValue} (hv : v.NoNumber) :
    readOne v.write = within v.depth maxDepth (v, []) :=
  value_writeBefore hv _ maxDepth [] (by rw [write]; omega)

end JsonValue

end MarkupQuery
