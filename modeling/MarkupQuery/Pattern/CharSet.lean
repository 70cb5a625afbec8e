import MarkupQuery.Text.Case
import MarkupQuery.Text.Script

/-! Sets of characters as patterns name them. -/

namespace MarkupQuery

abbrev CharSet := Char → Bool

namespace CharSet

def never : CharSet := fun _ => false

def single (c : Char) : CharSet := fun d => d == c

def range (first last : Char) : CharSet := fun c => first ≤ c && c ≤ last

def union (s t : CharSet) : CharSet := fun c => s c || t c

def intersection (s t : CharSet) : CharSet := fun c => s c && t c

def difference (s t : CharSet) : CharSet := fun c => s c && !t c

def symmetric (s t : CharSet) : CharSet := fun c => s c != t c

def negateIf (negated : Bool) (s : CharSet) : CharSet := fun c => s c != negated

/-- With every character that differs from a member in case only. -/
def foldIf (ignoreCase : Bool) (s : CharSet) : CharSet :=
  if ignoreCase then fun c => (caseVariants c).any s else s

def hex : CharSet := fun c => (hexDigit? c).isSome

def decimalDigit : CharSet := fun c => Category.ofChar c == .nd

/-- Letters, marks, digits, connecting punctuation and the two joiners. -/
def word : CharSet := fun c =>
  let g := Category.ofChar c
  Property.alphabetic c || g.isMark || g == .nd || g == .pc || c == '\u200c' || c == '\u200d'

def ascii? : String → Option CharSet
  | "alnum" => some Char.isAlphanum
  | "alpha" => some Char.isAlpha
  | "ascii" => some fun c => c.toNat < 0x80
  | "blank" => some fun c => c == ' ' || c == '\t'
  | "cntrl" => some fun c => c.toNat < 0x20 || c.toNat == 0x7F
  | "digit" => some Char.isDigit
  | "graph" => some fun c => 0x21 ≤ c.toNat && c.toNat ≤ 0x7E
  | "lower" => some Char.isLower
  | "print" => some fun c => 0x20 ≤ c.toNat && c.toNat ≤ 0x7E
  | "punct" => some fun c => 0x21 ≤ c.toNat && c.toNat ≤ 0x7E && !c.isAlphanum
  | "space" => some fun c => c == ' ' || (9 ≤ c.toNat && c.toNat ≤ 13)
  | "upper" => some Char.isUpper
  | "word" => some fun c => c.isAlphanum || c == '_'
  | "xdigit" => some hex
  | _ => none

def categories? : String → Option (List Category)
  | "l" | "letter" => some [.lu, .ll, .lt, .lm, .lo]
  | "lc" | "casedletter" => some [.lu, .ll, .lt]
  | "lu" | "uppercaseletter" => some [.lu]
  | "ll" | "lowercaseletter" => some [.ll]
  | "lt" | "titlecaseletter" => some [.lt]
  | "lm" | "modifierletter" => some [.lm]
  | "lo" | "otherletter" => some [.lo]
  | "m" | "mark" | "combiningmark" => some [.mn, .mc, .me]
  | "mn" | "nonspacingmark" => some [.mn]
  | "mc" | "spacingmark" => some [.mc]
  | "me" | "enclosingmark" => some [.me]
  | "n" | "number" => some [.nd, .nl, .no]
  | "nd" | "decimalnumber" | "digit" => some [.nd]
  | "nl" | "letternumber" => some [.nl]
  | "no" | "othernumber" => some [.no]
  | "p" | "punctuation" | "punct" => some [.pc, .pd, .ps, .pe, .pi, .pf, .po]
  | "pc" | "connectorpunctuation" => some [.pc]
  | "pd" | "dashpunctuation" => some [.pd]
  | "ps" | "openpunctuation" => some [.ps]
  | "pe" | "closepunctuation" => some [.pe]
  | "pi" | "initialpunctuation" => some [.pi]
  | "pf" | "finalpunctuation" => some [.pf]
  | "po" | "otherpunctuation" => some [.po]
  | "s" | "symbol" => some [.sm, .sc, .sk, .so]
  | "sm" | "mathsymbol" => some [.sm]
  | "sc" | "currencysymbol" => some [.sc]
  | "sk" | "modifiersymbol" => some [.sk]
  | "so" | "othersymbol" => some [.so]
  | "z" | "separator" => some [.zs, .zl, .zp]
  | "zs" | "spaceseparator" => some [.zs]
  | "zl" | "lineseparator" => some [.zl]
  | "zp" | "paragraphseparator" => some [.zp]
  | "c" | "other" => some [.cc, .cf, .cs, .co, .cn]
  | "cc" | "control" | "cntrl" => some [.cc]
  | "cf" | "format" => some [.cf]
  | "cs" | "surrogate" => some [.cs]
  | "co" | "privateuse" => some [.co]
  | "cn" | "unassigned" => some [.cn]
  | _ => none

def category? (name : String) : Option CharSet :=
  match name with
  | "any" => some fun _ => true
  | "assigned" => some fun c => Category.ofChar c != .cn
  | "ascii" => some fun c => c.toNat < 0x80
  | _ => (categories? name).map fun gs => fun c => gs.contains (Category.ofChar c)

def script? (name : String) : Option CharSet :=
  (Script.named? name).map fun r => fun c => r.mem c.toNat

/-- Names are compared in lower case, without blanks, hyphens and underscores, and without a
leading "is". -/
def looseName (name : List Char) : String :=
  let kept := (name.filter fun c => c.toNat < 0x80 && !(c == ' ' || c == '_' || c == '-')).map Char.toLower
  match name, kept with
  | a :: b :: _, 'i' :: 's' :: rest =>
    if a.toLower = 'i' ∧ b.toLower = 's' ∧ rest ≠ ['c'] then String.ofList rest
    else String.ofList kept
  | _, _ => String.ofList kept

def property? (name : List Char) : Option CharSet :=
  let name := looseName name
  let binary := if name = "cf" ∨ name = "sc" ∨ name = "lc" then none else Property.named? name
  binary <|> category? name <|> script? name

def propertyValue? (name value : List Char) : Option CharSet :=
  match looseName name with
  | "generalcategory" | "gc" => category? (looseName value)
  | "script" | "sc" | "scriptextensions" | "scx" => script? (looseName value)
  | _ => none

/-- Cuts at the first place at which `p` holds; the character there is dropped. -/
def cutAt (p : Char → Bool) (text : List Char) : Option (List Char × List Char) :=
  match text.dropWhile (!p ·) with
  | [] => none
  | _ :: rest => some (text.takeWhile (!p ·), rest)

/-- Cuts at the first exclamation mark that an equals sign follows; both are dropped. -/
def cutAtUnequal : List Char → Option (List Char × List Char)
  | [] => none
  | '!' :: '=' :: rest => some ([], rest)
  | c :: rest => (cutAtUnequal rest).map fun (a, b) => (c :: a, b)

/-- The set that is written between the braces of a property escape, and whether it is negated. -/
def ofPropertyText? (text : List Char) : Option (Bool × CharSet) :=
  match cutAtUnequal text with
  | some (name, value) => (propertyValue? name value).map fun s => (true, s)
  | none =>
    let positive := match cutAt (· == ':') text with
      | some (name, value) => propertyValue? name value
      | none =>
        match cutAt (· == '=') text with
        | some (name, value) => propertyValue? name value
        | none => property? text
    positive.map fun s => (false, s)

end CharSet

end MarkupQuery
