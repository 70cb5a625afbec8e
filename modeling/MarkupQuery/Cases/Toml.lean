import MarkupQuery.Cases.CaseFile
import MarkupQuery.Text.Dictionary
import MarkupQuery.Toml.Reader

/-! Files of cases that are written in TOML. -/

namespace MarkupQuery

namespace TomlValue

def string? : TomlValue → Option String
  | .string s => some s
  | _ => none

/-- A value as a record: a table, or an array of all its fields in order. -/
def record? (fields : List String) : TomlValue → Option Entries
  | .table _ es => some es
  | .array items => if items.length < fields.length then none else some (fields.zip items)
  | _ => none

def required? (name : String) (record : Entries) : Option String :=
  (record.lookup name).bind string?

/-- A field that may be missing. -/
def optional? (name : String) (record : Entries) : Option (Option String) :=
  match record.lookup name with
  | none => some none
  | some v => v.string?.map some

end TomlValue

open TomlValue

def Expectation.ofToml? (value : TomlValue) : Option Expectation := do
  let fields := ["selector", "output", "output_err", "filter_semantics", "not_comparison", "ignore"]
  let record ← value.record? fields
  return { selector := ← required? "selector" record
           output := ← optional? "output" record
           error := ← optional? "output_err" record
           filterSemantics := ← optional? "filter_semantics" record
           notComparison := ← optional? "not_comparison" record
           ignore := ← optional? "ignore" record }

namespace CaseFile

def ofToml? (document : Entries) : Option CaseFile := do
  let given ← (← document.lookup "given").record? ["tree"]
  let tree ← required? "tree" given
  match ← document.lookup "expect" with
  | .table _ expected =>
    let entries ← expected.mapM fun (name, value) => (Expectation.ofToml? value).map fun x => (name, x)
    let expect := Dictionary.ofList entries
    return { tree, expect := expect.entries, distinct := expect.nodup_names }
  | _ => none

/-- What is wrong with a text is not told apart. -/
def ofToml : Parser := fun text =>
  match (TomlReader.read text.toList).bind ofToml? with
  | some f => .ok f
  | none => .error "no file of cases"

end CaseFile

end MarkupQuery
