/-! TOML documents as tables of values, and how headers and dotted keys add to them. Every table
knows how it came about, because that decides what may still be added to it. -/

namespace MarkupQuery

inductive TableOrigin where
  /-- written between braces, and complete -/
  | inline
  /-- under a header of its own -/
  | header
  /-- on the way to a table under a header -/
  | implied
  /-- on the way to a value under a dotted key -/
  | dotted
deriving DecidableEq

/-- Nothing is kept of numbers, truth values and dates. The elements of an array of tables come
latest first. -/
inductive TomlValue where
  | string (text : String)
  | scalar
  | array (items : List TomlValue)
  | table (origin : TableOrigin) (entries : List (String × TomlValue))
  | tables (elements : List (List (String × TomlValue)))

structure DottedKey where
  parents : List String
  name : String
deriving DecidableEq

namespace TomlValue

instance : Inhabited TomlValue := ⟨.scalar⟩

abbrev Entries := List (String × TomlValue)

def put (name : String) (value : TomlValue) : Entries → Entries
  | [] => [(name, value)]
  | e :: es => if e.1 = name then (name, value) :: es else e :: put name value es

/-- Changes the table at the end of a path, and adds tables that are missing on the way. Dotted
keys do not lead through a table that has its own header, and nothing leads through an inline
one. Through an array of tables the path goes by the latest. -/
def within (keyed : Bool) (change : TableOrigin → Entries → Option Entries) :
    List String → TableOrigin → Entries → Option Entries
  | [], origin, entries => change origin entries
  | name :: path, _, entries =>
    match entries.lookup name with
    | none =>
      let origin := if keyed then .dotted else .implied
      (within keyed change path origin []).map fun es => put name (.table origin es) entries
    | some (.table origin es) =>
      if origin = .inline ∨ keyed ∧ origin = .header then none
      else (within keyed change path origin es).map fun es => put name (.table origin es) entries
    | some (.tables (es :: earlier)) =>
      (within keyed change path .header es).map fun es => put name (.tables (es :: earlier)) entries
    | some _ => none

/-- Adds a value under a dotted key. No value is replaced, and a table that the key leads to has
to come from dotted keys as well. -/
def addPair (origin : TableOrigin) (entries : Entries) (pair : DottedKey × TomlValue) :
    Option Entries :=
  let (key, value) := pair
  within true (fun origin es =>
    if (key.parents ≠ [] ∧ origin ≠ .dotted) ∨ (es.lookup key.name).isSome then none
    else some (put key.name value es)) key.parents origin entries

def addPairs (origin : TableOrigin) (entries : Entries) (pairs : List (DottedKey × TomlValue)) :
    Option Entries :=
  pairs.foldlM (addPair origin) entries

end TomlValue

structure TomlSection where
  key : DottedKey
  /-- whether the header adds to an array of tables -/
  isElement : Bool
  pairs : List (DottedKey × TomlValue)

namespace TomlSection

open TomlValue

/-- A header may come once, and after the headers of tables below it. Headers of elements may be
repeated. -/
def addTo (document : Entries) (s : TomlSection) : Option Entries :=
  within false (fun _ es =>
    let place := fun base (value : Entries → TomlValue) =>
      (addPairs .header base s.pairs).map fun built => put s.key.name (value built) es
    match s.isElement, es.lookup s.key.name with
    | false, none => place [] (.table .header)
    | false, some (.table .implied found) => place found (.table .header)
    | true, none => place [] fun built => .tables [built]
    | true, some (.tables earlier) => place [] fun built => .tables (built :: earlier)
    | _, some _ => none) s.key.parents .header document

end TomlSection

end MarkupQuery
