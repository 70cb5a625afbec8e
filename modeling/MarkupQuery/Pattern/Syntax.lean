import MarkupQuery.Pattern.CharSet

/-! The syntax of patterns: regular expressions with references to what a group matched, looks
ahead and behind, groups that keep their first match, and conditions. -/

namespace MarkupQuery

inductive Anchor where
  | textStart
  | textEnd
  | lineStart
  | lineEnd
  | wordBoundary
  | noWordBoundary
  | wordStart
  | wordEnd
  /-- Where the search began. -/
  | searchStart
deriving DecidableEq, Inhabited

inductive Regex where
  | empty
  | char (c : Char)
  | set (s : CharSet)
  | anchor (a : Anchor)
  | concat (rs : List Regex)
  | alt (rs : List Regex)
  /-- A group with its number, from one. -/
  | group (number : Nat) (r : Regex)
  | repetition (r : Regex) (least : Nat) (most : Option Nat) (greedy : Bool)
  | look (behind negative : Bool) (r : Regex)
  | reference (number : Nat)
  | matched (number : Nat)
  /-- Only the first match counts. -/
  | atomic (r : Regex)
  /-- Starts the reported match anew, which does not bear on whether there is one. -/
  | keepOut
  | condition (test yes no : Regex)

namespace Regex

instance : Inhabited Regex := ⟨.empty⟩

def isEmpty : Regex → Bool
  | .empty => true
  | _ => false

end Regex

end MarkupQuery
