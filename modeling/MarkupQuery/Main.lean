import MarkupQuery.Cases.Suite
import MarkupQuery.Cases.Toml

/-! The command that writes the test suite for the cases below the working directory. -/

namespace MarkupQuery

namespace Suite

/-- The path of the suite below its target. -/
def file : String := "tests/integ_test_cases.rs"

def readEntry (e : IO.FS.DirEntry) : IO Entry := do
  try
    if (← e.path.symlinkMetadata).type == .file then return .file (← IO.FS.readBinFile e.path)
    else return .folder
  catch reason => return .unreadable (toString reason)

/-- What the folder of cases holds, if there is one. -/
def readEntries : IO (Option (List (String × Entry))) := do
  let cases := (← IO.currentDir) / folder
  if !(← cases.isDir) then return none
  let entries ← (← cases.readDir).toList.mapM fun e => return (e.fileName, ← readEntry e)
  return some entries

end Suite

end MarkupQuery

open MarkupQuery in
def main : IO UInt32 := do
  IO.println Suite.announcement
  let target? ← IO.getEnv "OUT_DIR"
  match Suite.generate CaseFile.ofToml target?.isSome (← Suite.readEntries) with
  | .error e =>
    IO.eprintln ("Error: " ++ quoted e.message)
    return 1
  | .ok text =>
    let target := target?.getD ""
    IO.FS.createDirAll (target ++ "/tests")
    IO.FS.writeFile (target ++ "/" ++ Suite.file) text
    return 0
