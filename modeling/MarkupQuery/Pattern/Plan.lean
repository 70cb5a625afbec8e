import MarkupQuery.Pattern.Automaton

/-! How a pattern is matched by trying. A part that nothing around it forces to be tried again is
matched in one pass, so that its first match is its only one. -/

namespace MarkupQuery

inductive Plan where
  | read (s : CharSet)
  | anchor (a : Anchor)
  /-- In one pass; the marks of the groups given are set anew. -/
  | once (p : Program) (groups : List Nat)
  | seq (ps : List Plan)
  | alt (ps : List Plan)
  | group (number : Nat) (p : Plan)
  /-- A guarded loop does not go round without taking a character. -/
  | loop (least : Nat) (most : Option Nat) (greedy guarded : Bool) (p : Plan)
  /-- Looks from so many characters back. -/
  | look (back : Nat) (negative : Bool) (p : Plan)
  | reference (number : Nat)
  | matched (number : Nat)
  | atomic (p : Plan)
  | condition (test yes no : Plan)

namespace Plan

instance : Inhabited Plan := ⟨.seq []⟩

/-- The plan for parts that are matched in one pass; not all bounds of repetitions are allowed. -/
def inOnePass (maxWeight : Nat) (rs : List Regex) : Option Plan :=
  if rs.all Regex.isStraight then
    some (.seq (rs.map fun
      | .char c => .read (.single c)
      | .set s => .read s
      | .anchor a => .anchor a
      | _ => .seq []))
  else if Regex.allBoundsInOrder rs && decide (Regex.weightOfAll rs ≤ maxWeight) then
    let groups := Regex.groupsOfAll rs
    some (.once (.ofRegex (!groups.isEmpty) (.concat rs)) groups)
  else none

/-- Parts from the front and from the back that are matched in one pass, around the others. -/
def cut (referenced : List Nat) (hard : Bool) (rs : List Regex) : Nat × Nat :=
  let easy := fun (r : Regex) => let t := r.traits referenced; t.fixed && !t.hard
  let front := (rs.takeWhile easy).length
  let easyBack := if hard then easy else fun r => !(r.traits referenced).hard
  (front, ((rs.drop front).reverse.takeWhile easyBack).length)

variable (maxWeight : Nat) (referenced : List Nat)

mutual

/-- The plan for a part, if there is one. A part in hard surroundings may have to be tried again. -/
def ofRegex (hard : Bool) : Regex → Option Plan
  | .empty => some (.seq [])
  | .char c => some (.read (.single c))
  | .set s => some (.read s)
  | .anchor a => some (.anchor a)
  | .concat rs =>
    if !hard && !(Regex.traitsOfAll referenced rs).hard then inOnePass maxWeight rs
    else do
      let (front, back) := cut referenced hard rs
      let middle := ((ofAll true rs).take (rs.length - back)).drop front
      let middle ← middle.mapM id
      let first ← inOnePass maxWeight (rs.take front)
      let last ← inOnePass maxWeight (rs.drop (rs.length - back))
      return .seq (first :: middle ++ [last])
  | .alt rs =>
    if !hard && !((Regex.alt rs).traits referenced).hard then inOnePass maxWeight [.alt rs]
    else ((ofAll hard rs).mapM id).map .alt
  | .group number r =>
    if !hard && !((Regex.group number r).traits referenced).hard then
      inOnePass maxWeight [.group number r]
    else (ofRegex hard r).map (.group number)
  | .repetition r least most greedy =>
    let t := r.traits referenced
    if !hard && !t.hard then inOnePass maxWeight [.repetition r least most greedy]
    else
      let optional := least == 0 && most == some 1
      (ofRegex (hard || (!optional && t.hard)) r).map
        (.loop least most greedy (most.isNone && t.least == 0))
  | .look behind negative r =>
    let t := r.traits referenced
    if behind && !t.fixed then
      match r with
      | .alt rs =>
        if rs.all fun r => (r.traits referenced).fixed then do
          let ps ← (ofAll false rs).mapM id
          let looks := (rs.zip ps).map fun (r, p) => .look (r.traits referenced).least negative p
          return if negative then .seq looks else .alt looks
        else none
      | _ => none
    else (ofRegex false r).map (.look (if behind then t.least else 0) negative)
  | .reference number => some (.reference number)
  | .matched number => some (.matched number)
  | .atomic r => (ofRegex false r).map .atomic
  | .keepOut => some (.seq [])
  | .condition test yes no => do
    return .condition (← ofRegex hard test) (← ofRegex hard yes) (← ofRegex hard no)

def ofAll (hard : Bool) : List Regex → List (Option Plan)
  | [] => []
  | r :: rs => ofRegex hard r :: ofAll hard rs

end

def search (r : Regex) : Option Plan :=
  (ofRegex maxWeight referenced true r).map fun p =>
    .seq [.loop 0 none false false (.read fun _ => true), .group 0 p]

end Plan

end MarkupQuery
