import MarkupQuery.Pattern.Traits

/-! Matching in one pass. A part of a pattern without references, looks and the like becomes a
program, all branches of which are followed side by side, the preferred ones first; the time is
bounded by the lengths of the program and of the text. -/

namespace MarkupQuery

abbrev Haystack := Array Char

abbrev Slots := Array (Option Nat)

namespace Anchor

def holds (text : Haystack) (position : Nat) (a : Anchor) : Bool :=
  let before := if position = 0 then none else text[position - 1]?
  let after := text[position]?
  let isWord := fun (c : Option Char) => c.any CharSet.word
  match a with
  | .textStart => position == 0
  | .textEnd => position == text.size
  | .lineStart => position == 0 || before == some '\n'
  | .lineEnd => position == text.size || after == some '\n'
  | .wordBoundary => isWord before != isWord after
  | .noWordBoundary => isWord before == isWord after
  | .wordStart => !isWord before && isWord after
  | .wordEnd => isWord before && !isWord after
  | .searchStart => position == 0

end Anchor

inductive Instruction where
  | read (s : CharSet) (next : Nat)
  | check (a : Anchor) (next : Nat)
  | save (slot next : Nat)
  /-- Goes on at both places; the first is preferred. -/
  | split (first second : Nat)
  | accept
  | dead

structure Program where
  code : Array Instruction
  start : Nat

namespace Program

/-- Code with the place at which its last written part begins. -/
abbrev Draft := Nat × Array Instruction

def put (i : Nat → Instruction) (d : Draft) : Draft := (d.2.size, d.2.push (i d.1))

/-- A choice between a part and what follows it at `next`. -/
def putOptional (greedy : Bool) (next : Nat) (d : Draft) : Draft :=
  put (fun part => if greedy then .split part next else .split next part) d

def putLoop (greedy : Bool) (write : Draft → Draft) (d : Draft) : Draft :=
  let next := d.1
  let loop := d.2.size
  let (entry, code) := write (loop, d.2.push .dead)
  (entry, code.setIfInBounds loop (if greedy then .split entry next else .split next entry))

/-- A part any number of times. A part that may be empty is tried before it is left out. -/
def putStar (greedy mayBeEmpty : Bool) (write : Draft → Draft) (d : Draft) : Draft :=
  if mayBeEmpty then putOptional greedy d.1 (putLoop greedy write d)
  else
    let loop := d.2.size
    (loop, (putLoop greedy write d).2)

variable (marked : Bool)

mutual

/-- Writes the code of a part in front of the code written so far; groups leave marks if wanted. A
part that needs retries has no code. -/
def write : Regex → Draft → Draft
  | .empty, d => d
  | .char c, d => put (.read (.single c)) d
  | .set s, d => put (.read s) d
  | .anchor a, d => put (.check a) d
  | .concat rs, d => writeAll rs d
  | .alt rs, d => writeAny rs d.1 d
  | .group number r, d =>
    if marked then put (.save (2 * number)) (write r (put (.save (2 * number + 1)) d)) else write r d
  | .repetition r least most greedy, d =>
    let once := fun d => write r d
    match most with
    | some most =>
      let next := d.1
      let d := Nat.repeat (fun d => putOptional greedy next (once d)) (most - least) d
      Nat.repeat once least d
    | none =>
      match least with
      | 0 => putStar greedy ((r.traits []).least == 0) once d
      | least + 1 => Nat.repeat once least (putLoop greedy once d)
  | _, d => put (fun _ => .dead) d

def writeAll : List Regex → Draft → Draft
  | [], d => d
  | r :: rs, d => write r (writeAll rs d)

/-- Writes alternatives, all of which go on at `next`. -/
def writeAny : List Regex → (next : Nat) → Draft → Draft
  | [], _, d => put (fun _ => .dead) d
  | [r], next, d => write r (next, d.2)
  | r :: rs, next, d =>
    let (others, code) := writeAny rs next d
    put (fun part => .split part others) (write r (next, code))

end

def ofRegex (r : Regex) : Program :=
  let (start, code) := write marked r (put (fun _ => .accept) (0, #[]))
  ⟨code, start⟩

structure Thread where
  place : Nat
  slots : Slots

/-- Follows threads to the instructions that read or accept, each of which is reached only once.
The result is in reverse order. -/
def follow (p : Program) (text : Haystack) (position : Nat) :
    (fuel : Nat) → List Thread → (seen : Array Bool) → (reached : List Thread) → List Thread
  | 0, _, _, reached => reached
  | _ + 1, [], _, reached => reached
  | fuel + 1, t :: ts, seen, reached =>
    if seen.getD t.place true then follow p text position fuel ts seen reached
    else
      let seen := seen.setIfInBounds t.place true
      match p.code.getD t.place .dead with
      | .split a b =>
        follow p text position fuel ({ t with place := a } :: { t with place := b } :: ts) seen reached
      | .save slot next =>
        let slots := t.slots.setIfInBounds slot (some position)
        follow p text position fuel (⟨next, slots⟩ :: ts) seen reached
      | .check a next =>
        let ts := if a.holds text position then { t with place := next } :: ts else ts
        follow p text position fuel ts seen reached
      | .read .. | .accept => follow p text position fuel ts seen (t :: reached)
      | .dead => follow p text position fuel ts seen reached

def followAll (p : Program) (text : Haystack) (position : Nat) (ts : List Thread) : List Thread :=
  (follow p text position (2 * p.code.size + ts.length + 1) ts (Array.replicate p.code.size false) []).reverse

def isAccept (p : Program) (t : Thread) : Bool :=
  match p.code.getD t.place .dead with
  | .accept => true
  | _ => false

def read? (p : Program) (c : Char) (t : Thread) : Option Thread :=
  match p.code.getD t.place .dead with
  | .read s next => if s c then some { t with place := next } else none
  | _ => none

/-- The end and the marks of the preferred match from a position on, of threads that stand there
and the match found so far. -/
def preferred (p : Program) (text : Haystack) :
    (fuel position : Nat) → List Thread → Option (Nat × Slots) → Option (Nat × Slots)
  | 0, _, _, best => best
  | fuel + 1, position, ts, best =>
    let before := ts.takeWhile (!p.isAccept ·)
    let best := match ts.dropWhile (!p.isAccept ·) with
      | [] => best
      | t :: _ => some (position, t.slots)
    match text[position]? with
    | none => best
    | some c =>
      match before.filterMap (p.read? c) with
      | [] => best
      | ts => preferred p text fuel (position + 1) (p.followAll text (position + 1) ts) best

def matchAt (p : Program) (text : Haystack) (position : Nat) (slots : Slots) : Option (Nat × Slots) :=
  p.preferred text (text.size - position + 1) position
    (p.followAll text position [⟨p.start, slots⟩]) none

def occurs (p : Program) (text : Haystack) : (fuel position : Nat) → List Thread → Bool
  | 0, _, _ => false
  | fuel + 1, position, ts =>
    let ts := p.followAll text position (ts ++ [⟨p.start, #[]⟩])
    if ts.any p.isAccept then true
    else
      match text[position]? with
      | none => false
      | some c => occurs p text fuel (position + 1) (ts.filterMap (p.read? c))

def occursIn (p : Program) (text : Haystack) : Bool := p.occurs text (text.size + 1) 0 []

end Program

end MarkupQuery
