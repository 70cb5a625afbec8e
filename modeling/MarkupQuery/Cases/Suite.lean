import MarkupQuery.Cases.CaseFile
import MarkupQuery.Cases.Identifier
import MarkupQuery.Cases.Writer
import MarkupQuery.Text.Quoted

/-! The source of a test suite, made from the files in the folder of cases. It has a module for
each file, by path, and in it a function for each case, by name. -/

namespace MarkupQuery

def TestCase.writing (c : TestCase) : List Writing :=
  let field := fun name value => Writing.line (name ++ ": " ++ quoted value ++ ",")
  (if c.isIgnored then [.text "#[ign", .line "ore]"] else []) ++
  [.line "#[test]",
   .texts ["fn ", identifier c.name, "() \x7b"],
   .indented [
     .text "Case \x7b",
     .indented [
       field "selector" c.selector,
       field "expect_output" (trimmed c.output),
       field "expect_error" c.error,
       field "filter_semantics" c.filterSemantics,
       field "not_comparison" c.notComparison,
       .text "tree: TREE,"],
     .text "\x7d.check();"],
   .text "\x7d", .newLine, .newLine]
where
  trimmed (s : String) : String := String.ofList (trim s.toList)

namespace CaseFile

def writing (moduleName : String) (f : CaseFile) : List Writing :=
  let tree := String.ofList (trim f.tree.toList)
  [.texts ["mod ", moduleName, " \x7b"],
   .indented ([.text "use super::*;", .newLine, .newLine,
     .line ("const TREE: &str = " ++ quoted tree ++ ";"), .newLine] ++
     f.byName.flatMap TestCase.writing),
   .line "\x7d"]

end CaseFile

inductive SuiteError where
  | noTarget
  | noFolder
  | notAFile (path : String)
  | unreadable (path reason : String)
  | notText (path : String)
  | malformed (path reason : String)
deriving DecidableEq

def SuiteError.message : SuiteError → String
  | .noTarget => "environment variable not found"
  | .noFolder => "No such file or directory (os error 2)"
  | .notAFile path => path ++ ": not a regular file"
  | .unreadable path reason => path ++ ": " ++ reason
  | .notText path => path ++ ": stream did not contain valid UTF-8"
  | .malformed path reason => path ++ ": " ++ reason

namespace Suite

def folder : String := "tests/select_cases/"

/-- Asks to be run again when the cases change. -/
def announcement : String := "cargo::rerun-if-changed=" ++ folder

/-- What a folder holds under a name. -/
inductive Entry where
  | folder
  /-- something that cannot be read, for some reason -/
  | unreadable (reason : String)
  | file (content : ByteArray)

def Entry.read (parse : CaseFile.Parser) (path : String) : Entry → Except SuiteError CaseFile
  | .folder => .error (.notAFile path)
  | .unreadable reason => .error (.unreadable path reason)
  | .file content =>
    match String.fromUTF8? content with
    | none => .error (.notText path)
    | some text =>
      match parse text with
      | .error reason => .error (.malformed path reason)
      | .ok f => .ok f

/-- The name of a file up to its last dot, unless that is in front. -/
def stem (name : String) : String :=
  let cs := name.toList
  match (cs.reverse.dropWhile (· != '.')).drop 1 with
  | [] => name
  | front => String.ofList front.reverse

/-- The suite for files with their names, each read or at fault. They are taken by path, and the
first fault counts. -/
def ofFiles (files : List (String × Except SuiteError CaseFile)) : Except SuiteError String := do
  let byPath := files.mergeSort fun a b => decide (a.1 ≤ b.1)
  let modules ← byPath.mapM fun (name, file) => do
    return (← file).writing (identifier (stem name))
  return Writing.result modules.flatten

/-- The suite for a folder, which may be missing, to be written to a target, which may be missing
too. -/
def generate (parse : CaseFile.Parser) (hasTarget : Bool) (entries? : Option (List (String × Entry))) :
    Except SuiteError String :=
  if !hasTarget then .error .noTarget
  else
    match entries? with
    | none => .error .noFolder
    | some entries => ofFiles (entries.map fun (name, e) => (name, e.read parse (folder ++ name)))

end Suite

end MarkupQuery
