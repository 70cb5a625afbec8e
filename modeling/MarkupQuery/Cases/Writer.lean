/-! A text under construction, with a level of indentation. Whatever is written, each of its line
breaks is followed by four spaces for every level. -/

namespace MarkupQuery

structure Writer where
  written : String := ""
  level : Nat := 0
deriving DecidableEq

namespace Writer

/-- The lines of a text, which has at least one. -/
def linesOf : List Char → List (List Char)
  | [] => [[]]
  | c :: cs =>
    if c = '\n' then [] :: linesOf cs
    else
      match linesOf cs with
      | [] => [[c]]
      | l :: ls => (c :: l) :: ls

def indent (level : Nat) : List Char := List.replicate (4 * level) ' '

def write (w : Writer) (text : String) : Writer :=
  let lines := linesOf text.toList
  { w with written := w.written ++ String.ofList (List.intercalate ('\n' :: indent w.level) lines) }

def writeAll (w : Writer) (texts : List String) : Writer := texts.foldl write w

def newLine (w : Writer) : Writer := w.write "\n"

def writeLine (w : Writer) (text : String) : Writer := (w.write text).newLine

/-- Writes a block on lines of its own, one level further in. -/
def indented (w : Writer) (block : Writer → Writer) : Writer :=
  let inner := block ({ w with level := w.level + 1 }.newLine)
  { inner with level := inner.level - 1 }.newLine

end Writer

/-- Something that a writer can write. -/
inductive Writing where
  | text (text : String)
  | texts (texts : List String)
  | line (text : String)
  | newLine
  | indented (block : List Writing)

namespace Writing

instance : Inhabited Writing := ⟨.newLine⟩

mutual

def run (w : Writer) : Writing → Writer
  | .text t => w.write t
  | .texts ts => w.writeAll ts
  | .line t => w.writeLine t
  | .newLine => w.newLine
  | .indented block => w.indented fun w => runAll w block

def runAll (w : Writer) : List Writing → Writer
  | [] => w
  | x :: xs => runAll (x.run w) xs

end

/-- What a new writer holds in the end. -/
def result (xs : List Writing) : String := (runAll {} xs).written

end Writing

end MarkupQuery
