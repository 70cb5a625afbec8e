import MarkupQuery.Json.Value
import MarkupQuery.Text.Decimal
import MarkupQuery.Text.Ranges

/-! Reading JSON text. A fault is either that the text ends too early or that it goes wrong at some
character. Numbers have to lie in the range of double precision, arrays and objects may be nested
127 deep, and escapes have to make whole characters. -/

namespace MarkupQuery

inductive JsonFault where
  | ended
  | malformed
deriving DecidableEq, Inhabited

namespace JsonReader

def maxDepth : Nat := 127

def isJsonBlank (c : Char) : Bool := c == ' ' || c == '\t' || c == '\n' || c == '\r'

def skip (text : List Char) : List Char := text.dropWhile isJsonBlank

/-- The fault of a text that goes on in a way that it should not. -/
def faultAt : List Char → JsonFault
  | [] => .ended
  | _ :: _ => .malformed

/-- Reads four hexadecimal digits; a text of fewer than four bytes has ended. -/
def codeUnit : List Char → Except JsonFault (Nat × List Char)
  | a :: b :: c :: d :: rest =>
    match hexDigit? a, hexDigit? b, hexDigit? c, hexDigit? d with
    | some w, some x, some y, some z => .ok (4096 * w + 256 * x + 16 * y + z, rest)
    | _, _, _, _ => .error .malformed
  | text => .error (if byteLength text < 4 then .ended else .malformed)

/-- Reads the rest of an escape after `\u`: one code unit, or the two of a surrogate pair. -/
def codePoint (text : List Char) : Except JsonFault (Char × List Char) := do
  let (n, rest) ← codeUnit text
  if n < 0xD800 ∨ 0xE000 ≤ n then .ok (Char.ofNat n, rest)
  else if 0xDC00 ≤ n then .error .malformed
  else
    match rest with
    | '\\' :: 'u' :: rest => do
      let (m, rest) ← codeUnit rest
      if 0xDC00 ≤ m ∧ m < 0xE000 then
        .ok (Char.ofNat (0x10000 + 0x400 * (n - 0xD800) + (m - 0xDC00)), rest)
      else .error .malformed
    | [] => .error .ended
    | ['\\'] => .error .ended
    | _ => .error .malformed

/-- Reads the rest of an escape after the backslash. -/
def escaped : List Char → Except JsonFault (Char × List Char)
  | [] => .error .ended
  | 'u' :: text => codePoint text
  | c :: rest =>
    match c with
    | '"' | '\\' | '/' => .ok (c, rest)
    | 'b' => .ok (Char.ofNat 8, rest)
    | 'f' => .ok (Char.ofNat 12, rest)
    | 'n' => .ok ('\n', rest)
    | 'r' => .ok ('\r', rest)
    | 't' => .ok ('\t', rest)
    | _ => .error .malformed

theorem length_of_codeUnit {text rest : List Char} {n : Nat} (h : codeUnit text = .ok (n, rest)) :
    rest.length < text.length := by
  unfold codeUnit at h
  split at h
  · split at h
    · simp only [Except.ok.injEq, Prod.mk.injEq] at h
      obtain ⟨-, rfl⟩ := h
      simp only [List.length_cons]
      omega
    · simp at h
  · simp at h

theorem length_of_codePoint {text rest : List Char} {c : Char} (h : codePoint text = .ok (c, rest)) :
    rest.length < text.length := by
  unfold codePoint at h
  cases hn : codeUnit text with
  | error e => simp [hn, bind, Except.bind] at h
  | ok r =>
    obtain ⟨n, r⟩ := r
    have h1 := length_of_codeUnit hn
    simp only [hn, bind, Except.bind] at h
    split at h
    · simp only [Except.ok.injEq, Prod.mk.injEq] at h
      obtain ⟨-, rfl⟩ := h
      exact h1
    · split at h
      · simp at h
      · split at h
        · rename_i q
          cases hm : codeUnit q with
          | error e => simp [hm] at h
          | ok s =>
            obtain ⟨m, s⟩ := s
            have h2 := length_of_codeUnit hm
            simp only [hm] at h
            split at h
            · simp only [Except.ok.injEq, Prod.mk.injEq] at h
              obtain ⟨-, rfl⟩ := h
              simp only [List.length_cons] at h1
              omega
            · simp at h
        all_goals simp at h

theorem length_of_escaped {text rest : List Char} {c : Char} (h : escaped text = .ok (c, rest)) :
    rest.length < text.length := by
  unfold escaped at h
  split at h
  · simp at h
  · have := length_of_codePoint h
    simp only [List.length_cons]
    omega
  · split at h
    all_goals simp at h
    all_goals simp [← h.2]

def stringBody : List Char → Except JsonFault (List Char × List Char)
  | [] => .error .ended
  | '"' :: rest => .ok ([], rest)
  | '\\' :: text =>
    match _ : escaped text with
    | .error e => .error e
    | .ok (c, rest) => (stringBody rest).map fun (cs, rest) => (c :: cs, rest)
  | c :: text =>
    if c.toNat < 0x20 then .error .malformed
    else (stringBody text).map fun (cs, rest) => (c :: cs, rest)
termination_by text => text.length
decreasing_by
  · have := length_of_escaped ‹_›
    simp only [List.length_cons]
    omega
  · simp

def digits (text : List Char) : Except JsonFault (List Char × List Char) :=
  match text.takeWhile Char.isDigit, text.dropWhile Char.isDigit with
  | [], rest => .error (faultAt rest)
  | ds, rest => .ok (ds, rest)

/-- Reads a whole number without leading zeros. -/
def whole (text : List Char) : Except JsonFault (List Char × List Char) := do
  let (ds, rest) ← digits text
  if ds.head? = some '0' ∧ 1 < ds.length then .error .malformed else .ok (ds, rest)

def fraction : List Char → Except JsonFault (List Char × List Char)
  | '.' :: text => digits text
  | text => .ok ([], text)

def exponent : List Char → Except JsonFault (Int × List Char)
  | c :: text =>
    if c = 'e' ∨ c = 'E' then
      match text with
      | '-' :: text => (digits text).map fun (ds, rest) => (-(readDecimal ds : Int), rest)
      | '+' :: text => (digits text).map fun (ds, rest) => (readDecimal ds, rest)
      | text => (digits text).map fun (ds, rest) => (readDecimal ds, rest)
    else .ok (0, c :: text)
  | [] => .ok (0, [])

/-- Reads a number; what follows it is up to its surroundings. -/
def number (text : List Char) : Except JsonFault (String × List Char) := do
  let (_, rest) ← whole (if text.head? = some '-' then text.drop 1 else text)
  let ds := (if text.head? = some '-' then text.drop 1 else text).takeWhile Char.isDigit
  let (fs, rest) ← fraction rest
  let (power, rest) ← exponent rest
  if exceedsDouble (ds ++ fs) (power - fs.length) then .error .malformed
  else .ok (String.ofList (text.take (text.length - rest.length)), rest)

def word (value : JsonValue) : List Char → List Char → Except JsonFault (JsonValue × List Char)
  | [], text => .ok (value, text)
  | _ :: _, [] => .error .ended
  | c :: cs, d :: text => if c = d then word value cs text else .error .malformed

mutual

/-- Reads a value with at most `depth` levels of nesting. Every call takes one from the first
count, which is never used up if there are twice as many as characters. -/
def value : Nat → (depth : Nat) → List Char → Except JsonFault (JsonValue × List Char)
  | 0, _, _ => .error .ended
  | fuel + 1, depth, text =>
    match skip text with
    | [] => .error .ended
    | 'n' :: rest => word .null "ull".toList rest
    | 't' :: rest => word (.bool true) "rue".toList rest
    | 'f' :: rest => word (.bool false) "alse".toList rest
    | '"' :: rest => (stringBody rest).map fun (s, rest) => (.string (String.ofList s), rest)
    | '[' :: rest =>
      match depth with
      | 0 => .error .malformed
      | depth + 1 =>
        match skip rest with
        | ']' :: rest => .ok (.array [], rest)
        | rest => (items fuel depth rest).map fun (xs, rest) => (.array xs, rest)
    | '{' :: rest =>
      match depth with
      | 0 => .error .malformed
      | depth + 1 =>
        match skip rest with
        | '}' :: rest => .ok (.object [], rest)
        | rest => (members fuel depth rest).map fun (xs, rest) => (.object xs, rest)
    | c :: rest =>
      if c = '-' ∨ c.isDigit then
        (number (c :: rest)).map fun (literal, rest) => (.number literal, rest)
      else .error .malformed

def items : Nat → (depth : Nat) → List Char → Except JsonFault (List JsonValue × List Char)
  | 0, _, _ => .error .ended
  | fuel + 1, depth, text => do
    let (x, rest) ← value fuel depth text
    match skip rest with
    | ']' :: rest => .ok ([x], rest)
    | ',' :: rest => (items fuel depth rest).map fun (xs, rest) => (x :: xs, rest)
    | rest => .error (faultAt rest)

def members : Nat → (depth : Nat) → List Char → Except JsonFault (List (String × JsonValue) × List Char)
  | 0, _, _ => .error .ended
  | fuel + 1, depth, text =>
    match skip text with
    | '"' :: rest => do
      let (k, rest) ← stringBody rest
      match skip rest with
      | ':' :: rest =>
        let (x, rest) ← value fuel depth rest
        let m := (String.ofList k, x)
        match skip rest with
        | '}' :: rest => .ok ([m], rest)
        | ',' :: rest => (members fuel depth rest).map fun (xs, rest) => (m :: xs, rest)
        | rest => .error (faultAt rest)
      | rest => .error (faultAt rest)
    | rest => .error (faultAt rest)

end

end JsonReader

namespace JsonValue

def readOne (text : List Char) : Except JsonFault (JsonValue × List Char) :=
  JsonReader.value (2 * text.length + 2) JsonReader.maxDepth text

/-- Nothing but blanks may follow a value. -/
def endOfText (rest : List Char) : Except JsonFault Unit :=
  if JsonReader.skip rest = [] then .ok () else .error .malformed

def read (text : List Char) : Except JsonFault JsonValue := do
  let (v, rest) ← readOne text
  endOfText rest
  return v

end JsonValue

end MarkupQuery
