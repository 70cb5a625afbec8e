import MarkupQuery.Text.Decimal
import MarkupQuery.Text.Ranges

/-! The numbers, truth values and dates of TOML, as tests on their texts. Integers fit into 64 bits
with a sign, floats do not round to positive infinity, and a date is one of the calendar. -/

namespace MarkupQuery

namespace TomlScalar

/-- Digits, with single underscores between them allowed. -/
def isGrouped (digit : Char → Bool) : List Char → Bool
  | [] => false
  | [c] => digit c
  | c :: '_' :: rest => digit c && isGrouped digit rest
  | c :: rest => digit c && isGrouped digit rest

def ungrouped (text : List Char) : List Char := text.filter (· != '_')

def dropSign : List Char → List Char
  | '+' :: rest => rest
  | '-' :: rest => rest
  | text => text

/-- Decimal digits without a leading zero. -/
def isWhole (text : List Char) : Bool :=
  isGrouped Char.isDigit text && (text.length == 1 || text.head? != some '0')

/-- Digits of a base up to sixteen, whose number is below 2^63. -/
def isBased (base : Nat) (text : List Char) : Bool :=
  let digit := fun c => (hexDigit? c).filter (· < base)
  isGrouped (fun c => (digit c).isSome) text &&
    decide ((ungrouped text).foldl (fun n c => base * n + (digit c).getD 0) 0 < Nat.pow 2 63)

def isInteger : List Char → Bool
  | '0' :: 'x' :: digits => isBased 16 digits
  | '0' :: 'o' :: digits => isBased 8 digits
  | '0' :: 'b' :: digits => isBased 2 digits
  | text =>
    let digits := dropSign text
    let bound := if text.head? = some '-' then Nat.pow 2 63 + 1 else Nat.pow 2 63
    isWhole digits && decide (readDecimal (ungrouped digits) < bound)

def cut (p : Char → Bool) (text : List Char) : List Char × Option (List Char) :=
  match text.span (fun c => !p c) with
  | (before, []) => (before, none)
  | (before, _ :: rest) => (before, some rest)

def isFloat (text : List Char) : Bool :=
  let unsigned := dropSign text
  if unsigned = "inf".toList ∨ unsigned = "nan".toList then true
  else
    let (mantissa, power) := cut (fun c => c == 'e' || c == 'E') unsigned
    let (whole, fraction) := cut (· == '.') mantissa
    let places := ungrouped (fraction.getD [])
    let exponent : Int :=
      match power with
      | none => 0
      | some p =>
        let n : Int := readDecimal (ungrouped (dropSign p))
        if p.head? = some '-' then -n else n
    (fraction.isSome || power.isSome) && isWhole whole && fraction.all (isGrouped Char.isDigit) &&
      power.all (fun p => isGrouped Char.isDigit (dropSign p)) &&
      (text.head? == some '-' ||
        !exceedsDouble (ungrouped whole ++ places) (exponent - places.length))

def isTwoDigits (low high : Nat) (a b : Char) : Bool :=
  a.isDigit && b.isDigit && decide (low ≤ readDecimal [a, b] ∧ readDecimal [a, b] ≤ high)

def daysIn (year month : Nat) : Nat :=
  if month = 2 then
    if year % 4 = 0 ∧ (year % 100 ≠ 0 ∨ year % 400 = 0) then 29 else 28
  else if month = 4 ∨ month = 6 ∨ month = 9 ∨ month = 11 then 30
  else 31

def isDate : List Char → Bool
  | [y1, y2, y3, y4, '-', m1, m2, '-', d1, d2] =>
    let year := [y1, y2, y3, y4]
    year.all Char.isDigit && isTwoDigits 1 12 m1 m2 &&
      isTwoDigits 1 (daysIn (readDecimal year) (readDecimal [m1, m2])) d1 d2
  | _ => false

def isTime : List Char → Bool
  | h1 :: h2 :: ':' :: m1 :: m2 :: ':' :: s1 :: s2 :: rest =>
    isTwoDigits 0 23 h1 h2 && isTwoDigits 0 59 m1 m2 && isTwoDigits 0 60 s1 s2 &&
      match rest with
      | [] => true
      | '.' :: digits => digits != [] && digits.all Char.isDigit
      | _ => false
  | _ => false

def isZone : List Char → Bool
  | [] => true
  | ['Z'] => true
  | ['z'] => true
  | [sign, h1, h2, ':', m1, m2] =>
    (sign == '+' || sign == '-') && isTwoDigits 0 23 h1 h2 && isTwoDigits 0 59 m1 m2
  | _ => false

/-- A date, a time, or both with a letter or a blank between them and perhaps a time zone. -/
def isMoment (text : List Char) : Bool :=
  isDate text || isTime text ||
    match text.drop 10 with
    | mark :: rest =>
      let (time, zone) := rest.span fun c => !"Zz+-".toList.contains c
      isDate (text.take 10) && "Tt ".toList.contains mark && isTime time && isZone zone
    | [] => false

def isScalar (text : List Char) : Bool :=
  text == "true".toList || text == "false".toList || isInteger text || isFloat text || isMoment text

def isScalarChar (c : Char) : Bool := c.isAlphanum || "+-_.:".toList.contains c

/-- The longest text at the front that could be a scalar. Only after a date can it go on behind a
blank. -/
def scalarText (text : List Char) : List Char :=
  let run := text.takeWhile isScalarChar
  match text.dropWhile isScalarChar with
  | ' ' :: rest =>
    match rest.takeWhile isScalarChar with
    | [] => run
    | more => if isDate run then run ++ ' ' :: more else run
  | _ => run

end TomlScalar

end MarkupQuery
