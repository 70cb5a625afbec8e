import MarkupQuery.Pattern.CharSet

/-! Bracketed classes such as `[a-z&&[^aeiou]]`. The text between the brackets comes as symbols, so
that escaped characters are told from those with a meaning. -/

namespace MarkupQuery

namespace Bracket

inductive Symbol where
  | plain (c : Char)
  | escaped (c : Char)
  | set (s : CharSet)

inductive Operator where
  | intersection
  | difference
  | symmetric

namespace Operator

def apply : Operator → CharSet → CharSet → CharSet
  | .intersection => CharSet.intersection
  | .difference => CharSet.difference
  | .symmetric => CharSet.symmetric

end Operator

/-- An item that is a character can be the end of a range. -/
inductive Item where
  | char (c : Char)
  | set (s : CharSet)

namespace Item

def ofSymbol : Symbol → Item
  | .plain c => .char c
  | .escaped c => .char c
  | .set s => .set s

def toSet : Item → CharSet
  | .char c => .single c
  | .set s => s

end Item

/-- A bracket being read: whether it is negated, the operand to the left of the last operator, and
the union of the items since. -/
structure Level where
  negated : Bool
  left : Option (CharSet × Operator) := none
  items : CharSet := .never

namespace Level

def add (l : Level) (s : CharSet) : Level := { l with items := l.items.union s }

/-- The value so far. The sides of an operator are closed under case before they are combined. -/
def value (ignoreCase : Bool) (l : Level) : CharSet :=
  match l.left with
  | none => l.items
  | some (s, op) => op.apply (.foldIf ignoreCase s) (.foldIf ignoreCase l.items)

def operate (ignoreCase : Bool) (l : Level) (op : Operator) : Level :=
  { l with left := some (l.value ignoreCase, op), items := .never }

/-- The set of a closed bracket: case is folded first, and then the set is negated. -/
def close (ignoreCase : Bool) (l : Level) : CharSet :=
  .negateIf l.negated (.foldIf ignoreCase (l.value ignoreCase))

end Level

/-- Reads hyphens that open a bracket, and a closing bracket in the first place. -/
def openingItems (l : Level) : (first : Bool) → List Symbol → Level × List Symbol
  | _, .plain '-' :: rest => openingItems (l.add (.single '-')) false rest
  | true, .plain ']' :: rest => (l.add (.single ']'), rest)
  | _, rest => (l, rest)

def openLevel : List Symbol → Level × List Symbol
  | .plain '^' :: rest => openingItems { negated := true } true rest
  | rest => openingItems { negated := false } true rest

def named? (ignoreCase : Bool) (symbols : List Symbol) : Option (CharSet × List Symbol) :=
  let isColon : Symbol → Bool := fun
    | .plain ':' => true
    | _ => false
  let (negated, symbols) : Bool × List Symbol := match symbols with
    | .plain '^' :: rest => (true, rest)
    | rest => (false, rest)
  let name := (symbols.takeWhile (!isColon ·)).mapM fun
    | .plain c => some c
    | _ => none
  match name, symbols.dropWhile (!isColon ·) with
  | some name, .plain ':' :: .plain ']' :: rest =>
    (CharSet.ascii? (String.ofList name)).map fun s =>
      (.negateIf negated (.foldIf ignoreCase s), rest)
  | _, _ => none

def range? (start : Symbol) : List Symbol → Option (CharSet × List Symbol)
  | .plain '-' :: .plain ']' :: rest => some ((Item.ofSymbol start).toSet, .plain '-' :: .plain ']' :: rest)
  | .plain '-' :: .plain '-' :: rest => some ((Item.ofSymbol start).toSet, .plain '-' :: .plain '-' :: rest)
  | .plain '-' :: stop :: rest =>
    match Item.ofSymbol start, Item.ofSymbol stop with
    | .char a, .char b => if a ≤ b then some (.range a b, rest) else none
    | _, _ => none
  | rest => some ((Item.ofSymbol start).toSet, rest)

/-- Reads symbols to the end of the outermost bracket, which has to be the end of all symbols. The
bracket being read comes first, those around it follow. -/
def read? (ignoreCase : Bool) : (fuel : Nat) → Level → List Level → List Symbol → Option CharSet
  | 0, _, _, _ => none
  | _ + 1, _, _, [] => none
  | fuel + 1, l, around, symbol :: rest =>
    match symbol, rest with
    | .plain '[', rest =>
      let asClass := match rest with
        | .plain ':' :: rest => named? ignoreCase rest
        | _ => none
      match asClass with
      | some (s, rest) => read? ignoreCase fuel (l.add s) around rest
      | none =>
        let (inner, rest) := openLevel rest
        read? ignoreCase fuel inner (l :: around) rest
    | .plain ']', rest =>
      match around, rest with
      | [], [] => some (l.close ignoreCase)
      | [], _ :: _ => none
      | outer :: around, rest => read? ignoreCase fuel (outer.add (l.close ignoreCase)) around rest
    | .plain '&', .plain '&' :: rest =>
      read? ignoreCase fuel (l.operate ignoreCase .intersection) around rest
    | .plain '-', .plain '-' :: rest =>
      read? ignoreCase fuel (l.operate ignoreCase .difference) around rest
    | .plain '~', .plain '~' :: rest =>
      read? ignoreCase fuel (l.operate ignoreCase .symmetric) around rest
    | symbol, rest =>
      match range? symbol rest with
      | some (s, rest) => read? ignoreCase fuel (l.add s) around rest
      | none => none

def toSet? (ignoreCase : Bool) (symbols : List Symbol) : Option CharSet :=
  let (l, rest) := openLevel symbols
  read? ignoreCase (symbols.length + 1) l [] rest

end Bracket

end MarkupQuery
