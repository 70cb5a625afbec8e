import MarkupQuery.Text.Blank

/-! Sets of characters given as sorted ranges, written as text: `41-5A 5F` holds the capital
letters and the underscore. Membership is found by bisection. -/

namespace MarkupQuery

def hexDigit? (c : Char) : Option Nat :=
  if '0' ≤ c ∧ c ≤ '9' then some (c.toNat - 48)
  else if 'A' ≤ c ∧ c ≤ 'F' then some (c.toNat - 55)
  else if 'a' ≤ c ∧ c ≤ 'f' then some (c.toNat - 87)
  else none

/-- The number that hexadecimal digits write; other characters count as zero. -/
def readHex (digits : List Char) : Nat :=
  digits.foldl (fun n c => 16 * n + (hexDigit? c).getD 0) 0

/-- The least place from `lo` to `hi` at which `p` fails, for a `p` that holds up to some place. -/
def bisect (p : Nat → Bool) (lo hi : Nat) : Nat :=
  if lo < hi then
    let mid := (lo + hi) / 2
    if p mid then bisect p (mid + 1) hi else bisect p lo mid
  else lo
termination_by hi - lo

structure Ranges where
  bounds : Array (Nat × Nat)

namespace Ranges

private def readRange (word : List Char) : Nat × Nat :=
  match word.span (· != '-') with
  | (a, []) => (readHex a, readHex a)
  | (a, _ :: b) => (readHex a, readHex b)

def ofText (text : String) : Ranges := ⟨((words text.toList).map readRange).toArray⟩

def mem (r : Ranges) (n : Nat) : Bool :=
  let after := bisect (fun i => decide ((r.bounds[i]?.getD default).1 ≤ n)) 0 r.bounds.size
  match r.bounds[after - 1]? with
  | some (lo, hi) => decide (lo ≤ n ∧ n ≤ hi)
  | none => false

end Ranges

end MarkupQuery
