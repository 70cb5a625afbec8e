import MarkupQuery.Pattern.Syntax

/-! What can be told of a part of a pattern without a text: how many characters it takes at least,
whether it always takes so many, and whether matching it may need a return to an earlier choice
that goes beyond the part itself. -/

namespace MarkupQuery

structure Traits where
  least : Nat := 0
  fixed : Bool := true
  hard : Bool := false
deriving DecidableEq, Inhabited

namespace Traits

def andThen (a b : Traits) : Traits := ⟨a.least + b.least, a.fixed && b.fixed, a.hard || b.hard⟩

def orElse (a b : Traits) : Traits :=
  ⟨min a.least b.least, a.fixed && b.fixed && a.least == b.least, a.hard || b.hard⟩

end Traits

def Anchor.isHard : Anchor → Bool
  | .wordBoundary | .noWordBoundary | .wordStart | .wordEnd | .searchStart => true
  | _ => false

namespace Regex

variable (referenced : List Nat)

mutual

/-- The traits of a part of a pattern in which the groups given are referred to. -/
def traits : Regex → Traits
  | .empty => {}
  | .char _ => { least := 1 }
  | .set _ => { least := 1 }
  | .anchor a => { hard := a.isHard }
  | .concat rs => traitsOfAll rs
  | .alt [] => {}
  | .alt (r :: rs) => traitsOfAny r.traits rs
  | .group number r =>
    let t := r.traits
    { t with hard := t.hard || referenced.contains number }
  | .repetition r least most _ =>
    let t := r.traits
    ⟨t.least * least, t.fixed && most == some least, t.hard⟩
  | .look .. => { hard := true }
  | .reference _ => { fixed := false, hard := true }
  | .matched _ => { hard := true }
  | .atomic r => { r.traits with hard := true }
  | .keepOut => { hard := true }
  | .condition test yes no =>
    let t := test.traits.andThen yes.traits
    let n := no.traits
    ⟨test.traits.least + min yes.traits.least n.least, t.fixed && n.fixed && t.least == n.least, true⟩

def traitsOfAll : List Regex → Traits
  | [] => {}
  | r :: rs => r.traits.andThen (traitsOfAll rs)

def traitsOfAny (t : Traits) : List Regex → Traits
  | [] => t
  | r :: rs => traitsOfAny (t.orElse r.traits) rs

end

mutual

/-- Whether all repetitions have their bounds in order, and bounds that fit 32 bits. -/
def boundsInOrder : Regex → Bool
  | .repetition r least most _ =>
    least < 2 ^ 32 && most.all (fun m => least ≤ m && m < 2 ^ 32) && r.boundsInOrder
  | .concat rs | .alt rs => allBoundsInOrder rs
  | .group _ r | .atomic r | .look _ _ r => r.boundsInOrder
  | .condition test yes no => test.boundsInOrder && yes.boundsInOrder && no.boundsInOrder
  | _ => true

def allBoundsInOrder : List Regex → Bool
  | [] => true
  | r :: rs => r.boundsInOrder && allBoundsInOrder rs

end

mutual

/-- About how many instructions it takes to match the part in one pass. -/
def weight : Regex → Nat
  | .concat rs | .alt rs => weightOfAll rs + 1
  | .group _ r | .atomic r | .look _ _ r => r.weight + 2
  | .repetition r least most _ => (r.weight + 1) * max 1 (most.getD (least + 1))
  | .condition test yes no => test.weight + yes.weight + no.weight
  | _ => 1

def weightOfAll : List Regex → Nat
  | [] => 0
  | r :: rs => r.weight + weightOfAll rs

end

mutual

def groups : Regex → List Nat
  | .group number r => number :: r.groups
  | .concat rs | .alt rs => groupsOfAll rs
  | .repetition r _ _ _ | .look _ _ r | .atomic r => r.groups
  | .condition test yes no => test.groups ++ yes.groups ++ no.groups
  | _ => []

def groupsOfAll : List Regex → List Nat
  | [] => []
  | r :: rs => r.groups ++ groupsOfAll rs

end

/-- Takes character after character without a choice. -/
def isStraight : Regex → Bool
  | .empty | .char _ | .set _ | .anchor _ => true
  | _ => false

end Regex

end MarkupQuery
