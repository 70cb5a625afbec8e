/-! Numbers written in decimal digits, and where those with a power of ten leave the range of
double precision. -/

namespace MarkupQuery

/-- The number that decimal digits write. -/
def readDecimal (digits : List Char) : Nat := digits.foldl (fun n c => 10 * n + (c.toNat - 48)) 0

/-- Whether digits times a power of ten would round to infinity in double precision. Far from the
limit the place of the first digit decides. -/
def exceedsDouble (digits : List Char) (power : Int) : Bool :=
  let digits := digits.dropWhile (· == '0')
  let place := digits.length + power
  if digits = [] ∨ place < 300 then false
  else if 320 < place then true
  else decide ((Nat.pow 2 1024 - Nat.pow 2 970) * Nat.pow 10 (-power).toNat ≤
    readDecimal digits * Nat.pow 10 power.toNat)

end MarkupQuery
