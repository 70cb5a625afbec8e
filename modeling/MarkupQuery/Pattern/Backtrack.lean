import MarkupQuery.Pattern.Plan

/-! Matching by trying. The machine works off a list of tasks. Where there is a choice it takes one
way and keeps the other; when a task fails it returns to the choice kept last. A search that has to
return too often is given up. -/

namespace MarkupQuery

namespace Backtrack

mutual

inductive Task where
  | run (p : Plan)
  | close (number : Nat)
  /-- A loop that has gone round so often, with the position at which it last had a choice. -/
  | again (least : Nat) (most : Option Nat) (greedy guarded : Bool) (p : Plan) (count : Nat)
      (last : Option Nat)
  | comeBack (position : Nat)
  /-- Forgets all choices but these. -/
  | commit (choices : List Choice)
  /-- Fails, and forgets all choices but these. -/
  | refute (choices : List Choice)

inductive Choice where
  | mk (tasks : List Task) (position : Nat) (slots : Slots)

end

structure State where
  tasks : List Task
  position : Nat := 0
  slots : Slots
  choices : List Choice := []

inductive Move where
  | on (s : State)
  | back (choices : List Choice)

namespace State

def fail (s : State) : Move := .back s.choices

def onIf (s : State) (b : Bool) : Move := if b then .on s else s.fail

def pushTasks (s : State) (ts : List Task) : State := { s with tasks := ts ++ s.tasks }

def keep (s : State) (ts : List Task) : State :=
  { s with choices := .mk (ts ++ s.tasks) s.position s.slots :: s.choices }

def setSlot (s : State) (slot : Nat) (position : Option Nat) : State :=
  { s with slots := s.slots.setIfInBounds slot position }

def captured (s : State) (text : Haystack) (number : Nat) : Option (List Char) :=
  match s.slots.getD (2 * number) none, s.slots.getD (2 * number + 1) none with
  | some a, some b => some (text.extract a b).toList
  | _, _ => none

end State

def continues (text : Haystack) (position : Nat) (cs : List Char) : Bool :=
  (text.extract position (position + cs.length)).toList == cs

def look (back : Nat) (negative : Bool) (p : Plan) (s : State) : Move :=
  let s' := if negative then s.keep [] else s
  if s.position < back then s'.fail
  else
    let inside := { s' with position := s.position - back }
    if negative then .on { inside with tasks := [.run p, .refute s.choices] }
    else .on (inside.pushTasks [.run p, .comeBack s.position])

def run (text : Haystack) (s : State) : Plan → Move
  | .read set =>
    match text[s.position]? with
    | some c => ({ s with position := s.position + 1 } : State).onIf (set c)
    | none => s.fail
  | .anchor a => s.onIf (a.holds text s.position)
  | .once p groups =>
    let slots := groups.foldl
      (fun slots n => (slots.setIfInBounds (2 * n) none).setIfInBounds (2 * n + 1) none) s.slots
    match p.matchAt text s.position slots with
    | some (stop, slots) => .on { s with position := stop, slots }
    | none => s.fail
  | .seq ps => .on (s.pushTasks (ps.map .run))
  | .alt [] => s.fail
  | .alt [p] => .on (s.pushTasks [.run p])
  | .alt (p :: ps) => .on ((s.keep [.run (.alt ps)]).pushTasks [.run p])
  | .group number p => .on ((s.setSlot (2 * number) (some s.position)).pushTasks [.run p, .close number])
  | .loop least most greedy guarded p => .on (s.pushTasks [.again least most greedy guarded p 0 none])
  | .look back negative p => look back negative p s
  | .reference number =>
    match s.captured text number with
    | some cs =>
      ({ s with position := s.position + cs.length } : State).onIf (continues text s.position cs)
    | none => s.fail
  | .matched number => s.onIf (s.slots.getD (2 * number) none).isSome
  | .atomic p => .on (s.pushTasks [.run p, .commit s.choices])
  | .condition test yes no =>
    .on ((s.keep [.run no]).pushTasks [.run test, .commit s.choices, .run yes])

def perform (text : Haystack) (s : State) : Task → Move
  | .run p => run text s p
  | .close number => .on (s.setSlot (2 * number + 1) (some s.position))
  | .again least most greedy guarded p count last =>
    if most = some count then .on s
    else if guarded ∧ 0 < count ∧ last = some s.position then s.fail
    else
      let optional := least ≤ count
      let last := if guarded ∧ optional then some s.position else last
      let round := [.run p, .again least most greedy guarded p (count + 1) last]
      if ¬ optional then .on (s.pushTasks round)
      else if greedy then .on ((s.keep []).pushTasks round)
      else .on (s.keep round)
  | .comeBack position => .on { s with position }
  | .commit choices => .on { s with choices }
  | .refute choices => .back choices

def maxReturns : Nat := 1000000

/-- More steps than any search takes before it has returned too often. -/
def maxSteps : Nat := Nat.pow 2 60

/-- Whether the tasks can be done, unless the search is given up. -/
def search (text : Haystack) : (steps returns : Nat) → State → Option Bool
  | 0, _, _ => none
  | steps + 1, returns, s =>
    match s.tasks with
    | [] => some true
    | t :: ts =>
      match perform text { s with tasks := ts } t with
      | .on s => search text steps returns s
      | .back [] => some false
      | .back (.mk tasks position slots :: choices) =>
        match returns with
        | 0 => none
        | returns + 1 => search text steps returns ⟨tasks, position, slots, choices⟩

end Backtrack

end MarkupQuery
