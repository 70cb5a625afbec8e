import MarkupQuery.Cases.Writer

/-! What a writer holds. Whatever calls it is written with, it holds all texts of the calls one after
the other, and after each of their line breaks four blanks for every level that is in force when the
text is written. A block raises the level for the texts in it, and only for them. -/

namespace MarkupQuery

namespace Writer

/-- A text with the blanks of a level after each of its line breaks. -/
def indentText (level : Nat) (text : List Char) : List Char :=
  text.flatMap fun c => if c = '\n' then '\n' :: indent level else [c]

theorem indentText_of_unbroken {text : List Char} (h : '\n' ∉ text) (level : Nat) :
    indentText level text = text := by
  induction text with
  | nil => rfl
  | cons c cs ih =>
    rw [List.mem_cons, not_or] at h
    rw [indentText, List.flatMap_cons, if_neg (Ne.symm h.1), ← indentText, ih h.2]
    rfl

theorem linesOf_ne_nil (text : List Char) : linesOf text ≠ [] := by
  cases text with
  | nil => simp [linesOf]
  | cons c cs =>
    rw [linesOf]
    split
    · simp
    · split <;> simp

/-- To join the lines again is to look at every line break. -/
theorem intercalate_linesOf (level : Nat) (text : List Char) :
    List.intercalate ('\n' :: indent level) (linesOf text) = indentText level text := by
  induction text with
  | nil => simp [linesOf, indentText]
  | cons c cs ih =>
    obtain ⟨l, ls, hlines⟩ := List.exists_cons_of_ne_nil (linesOf_ne_nil cs)
    rw [hlines] at ih
    rw [linesOf, hlines, indentText, List.flatMap_cons, ← indentText, ← ih]
    by_cases hc : c = '\n'
    · rw [if_pos hc, if_pos hc, List.intercalate_cons_cons]
      rfl
    · rw [if_neg hc, if_neg hc]
      cases ls with
      | nil => simp
      | cons l' ls => simp [List.intercalate_cons_cons]

/-- Texts as they are shown, each at its level. -/
def shown (parts : List (Nat × String)) : List Char := parts.flatMap fun p => indentText p.1 p.2.toList

theorem shown_append (ps qs : List (Nat × String)) : shown (ps ++ qs) = shown ps ++ shown qs :=
  List.flatMap_append

/-- The writer with texts added, each at its level. -/
def add (w : Writer) (parts : List (Nat × String)) : Writer :=
  { w with written := w.written ++ String.ofList (shown parts) }

@[simp] theorem level_add (w : Writer) (parts : List (Nat × String)) :
    (w.add parts).level = w.level := rfl

theorem add_nil (w : Writer) : w.add [] = w := by simp [add, shown]

theorem add_add (w : Writer) (ps qs : List (Nat × String)) :
    (w.add ps).add qs = w.add (ps ++ qs) := by
  simp [add, shown_append, String.ofList_append, String.append_assoc]

theorem write_eq (w : Writer) (text : String) : w.write text = w.add [(w.level, text)] := by
  simp [write, add, shown, intercalate_linesOf]

theorem newLine_eq (w : Writer) : w.newLine = w.add [(w.level, "\n")] := w.write_eq "\n"

theorem writeAll_eq (w : Writer) (texts : List String) :
    w.writeAll texts = w.add (texts.map (w.level, ·)) := by
  induction texts generalizing w with
  | nil => exact w.add_nil.symm
  | cons text texts ih =>
    have hrest := ih (w.add [(w.level, text)])
    rw [add_add] at hrest
    rw [writeAll, List.foldl_cons, ← writeAll, write_eq]
    exact hrest

theorem writeLine_eq (w : Writer) (text : String) :
    w.writeLine text = w.add [(w.level, text), (w.level, "\n")] := by
  rw [writeLine, newLine_eq, write_eq, add_add]
  rfl

/-- A block that leaves the level as it finds it is written one level further in. -/
theorem indented_eq {w : Writer} {block : Writer → Writer} {parts : List (Nat × String)}
    (h : ∀ v : Writer, v.level = w.level + 1 → block v = v.add parts) :
    w.indented block = w.add ((w.level + 1, "\n") :: (parts ++ [(w.level, "\n")])) := by
  have hblock : block (newLine { w with level := w.level + 1 }) =
      add { w with level := w.level + 1 } ((w.level + 1, "\n") :: parts) := by
    rw [newLine_eq, h _ rfl, add_add]
    rfl
  have hlevel : w.level + 1 - 1 = w.level := Nat.add_sub_cancel w.level 1
  rw [indented, hblock, newLine_eq, ← List.cons_append, ← add_add]
  simp only [add, hlevel]

end Writer

namespace Writing

open Writer

mutual

/-- The texts that are written, in order, each with the level in force. -/
def parts (level : Nat) : Writing → List (Nat × String)
  | .text t => [(level, t)]
  | .texts ts => ts.map (level, ·)
  | .line t => [(level, t), (level, "\n")]
  | .newLine => [(level, "\n")]
  | .indented block => (level + 1, "\n") :: (partsAll (level + 1) block ++ [(level, "\n")])

def partsAll (level : Nat) : List Writing → List (Nat × String)
  | [] => []
  | x :: xs => parts level x ++ partsAll level xs

end

theorem partsAll_append (level : Nat) (xs ys : List Writing) :
    partsAll level (xs ++ ys) = partsAll level xs ++ partsAll level ys := by
  induction xs with
  | nil => rfl
  | cons x xs ih => rw [List.cons_append, partsAll, partsAll, ih, List.append_assoc]

mutual

theorem run_eq (w : Writer) : ∀ x : Writing, x.run w = w.add (parts w.level x)
  | .text t => w.write_eq t
  | .texts ts => w.writeAll_eq ts
  | .line t => w.writeLine_eq t
  | .newLine => w.newLine_eq
  | .indented block => by
    rw [run, parts]
    refine indented_eq fun v hv => ?_
    rw [runAll_eq v block, hv]

theorem runAll_eq (w : Writer) : ∀ xs : List Writing, runAll w xs = w.add (partsAll w.level xs)
  | [] => w.add_nil.symm
  | x :: xs => by
    rw [runAll, run_eq w x, runAll_eq _ xs, level_add, add_add, partsAll]

end

theorem toList_result (xs : List Writing) : (result xs).toList = shown (partsAll 0 xs) := by
  simp [result, runAll_eq, add]

end Writing

end MarkupQuery
