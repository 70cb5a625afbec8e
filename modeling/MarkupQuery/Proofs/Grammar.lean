import MarkupQuery.Proofs.Words
import MarkupQuery.Selector.Parse

/-! The written forms of a token, each as a decomposition of the text, and for every reader that it
finds exactly the texts of its form, with the same parts. Optional parts are there or not, runs are
as long as the text allows. -/

namespace MarkupQuery.Grammar

/-- The text, unless it is empty. -/
def nonempty? (text : List Char) : Option String := if text = [] then none else some (String.ofList text)

/-- Without one trailing quote, if there is one. -/
def dropLastQuote : List Char → List Char
  | [] => []
  | [c] => if isQuote c then [] else [c]
  | c :: d :: cs => c :: dropLastQuote (d :: cs)

/-- Less at most one leading quote and then at most one trailing quote. -/
def unquoted (body : List Char) : List Char := dropLastQuote (dropQuote body)

/-- `pre:name`, or `pre:name(body)` if there is a body. -/
structure FilterForm (text pre name : List Char) (body : Option (List Char)) : Prop where
  pre_chars : ∀ c ∈ pre, isPreselectorChar c
  name_ne_nil : name ≠ []
  name_chars : ∀ c ∈ name, isNameChar c
  text_eq : text = pre ++ ':' :: (name ++ body.elim [] fun b => '(' :: (b ++ [')']))

/-- The argument in such a text, and where it begins. -/
def argumentOf (pre name : List Char) : Option (List Char) → Slice
  | none => ⟨byteLength pre + byteLength name + 1, []⟩
  | some b =>
    ⟨byteLength pre + byteLength name + 2 + (byteLength b - byteLength (dropQuote b)), unquoted b⟩

/-- The text of one clause in its parts, `[name op = quote value quote]`; of these the operator, the
equals sign and the quotes may be missing. -/
structure ClauseText where
  name : List Char
  op : Option Comparison
  equals : Bool
  opening : Option Char
  value : List Char
  closing : Option Char

namespace ClauseText

def afterOp (t : ClauseText) : List Char :=
  (if t.equals then ['='] else []) ++ t.opening.toList ++ t.value ++ t.closing.toList ++ [']']

def afterName (t : ClauseText) : List Char := t.op.toList.map Comparison.symbol ++ t.afterOp

def text (t : ClauseText) : List Char := '[' :: (t.name ++ t.afterName)

/-- A clause without an operator asks for presence, whatever its value. -/
def clause (t : ClauseText) : AttributeClause :=
  ⟨String.ofList t.name, t.op.elim .present (.compare · (String.ofList t.value))⟩

/-- The name is as long as it can be, and a character that can be the operator or the equals sign
is that. -/
structure WellFormed (t : ClauseText) : Prop where
  name_ne_nil : t.name ≠ []
  name : ∀ c ∈ t.name, isNameChar c
  name_longest : Stops isNameChar t.afterName
  op_first : t.op = none → Stops (fun c => (Comparison.ofSymbol? c).isSome) t.afterName
  equals_first : t.equals = false → Stops (· == '=') t.afterOp
  opening : ∀ q ∈ t.opening, isQuote q
  value : ∀ c ∈ t.value, isValueChar c
  closing : ∀ q ∈ t.closing, isQuote q

end ClauseText

/-- A tag, perhaps none, and clauses. -/
def CompoundForm (text : List Char) (c : Compound) : Prop :=
  ∃ (tag : List Char) (parts : List ClauseText), (∀ d ∈ tag, isTagChar d) ∧
    (∀ t ∈ parts, t.WellFormed) ∧ text = tag ++ parts.flatMap ClauseText.text ∧
    c = ⟨nonempty? tag, parts.map ClauseText.clause⟩

/-- Something, a first hash, and the id. -/
def IdForm (text value : List Char) : Prop :=
  ∃ before, '#' ∉ before ∧ text = before ++ '#' :: value

/-- A tag, perhaps empty, and classes, each after a dot. -/
def ClassForm (text : List Char) (c : ClassList) : Prop :=
  ∃ (tag : List Char) (classes : List (List Char)), classes ≠ [] ∧ (∀ s ∈ tag :: classes, '.' ∉ s) ∧
    text = ['.'].intercalate (tag :: classes) ∧ c = ⟨nonempty? tag, classes.map String.ofList⟩

/-! What the readers of single parts do. -/

theorem dropOne_eq_self {p : Char → Bool} {text : List Char} (h : Stops p text) :
    dropOne p text = text := by
  cases text with
  | nil => rfl
  | cons c cs => simp [dropOne, stops_cons.mp h]

theorem dropOne_cons {p : Char → Bool} {c : Char} (cs : List Char) (h : p c) :
    dropOne p (c :: cs) = cs := by simp [dropOne, h]

theorem dropQuote_cons {q : Char} (cs : List Char) (h : isQuote q) : dropQuote (q :: cs) = cs :=
  dropOne_cons cs h

/-- Either nothing is dropped, or the first character, which is of the class. -/
theorem dropOne_cases (p : Char → Bool) (text : List Char) :
    (Stops p text ∧ dropOne p text = text) ∨ ∃ c, p c ∧ text = c :: dropOne p text := by
  cases text with
  | nil => exact .inl ⟨stops_nil p, rfl⟩
  | cons c cs =>
    by_cases hc : p c
    · exact .inr ⟨c, hc, by simp [dropOne, hc]⟩
    · exact .inl ⟨stops_cons.mpr (by simpa using hc), by simp [dropOne, hc]⟩

theorem exists_dropQuote (text : List Char) :
    ∃ q : Option Char, (∀ c ∈ q, isQuote c) ∧ text = q.toList ++ dropQuote text := by
  rcases dropOne_cases isQuote text with ⟨-, h⟩ | ⟨c, hc, h⟩
  · exact ⟨none, by simp, by simp [dropQuote, h]⟩
  · exact ⟨some c, by simpa using hc, h⟩

theorem isClosing_iff {text : List Char} :
    isClosing text ↔ ∃ q : Option Char, (∀ c ∈ q, isQuote c) ∧ text = q.toList ++ [')'] := by
  rw [isClosing, beq_iff_eq]
  constructor
  · intro h
    obtain ⟨q, hq, htext⟩ := exists_dropQuote text
    exact ⟨q, hq, by rw [htext, h]⟩
  · rintro ⟨q | q, hq, rfl⟩
    · rfl
    · exact dropQuote_cons _ (hq q rfl)

theorem append_splitArgument (text : List Char) :
    (splitArgument text).1 ++ (splitArgument text).2 = text := by
  induction text with
  | nil => rfl
  | cons c cs ih =>
    rw [splitArgument]
    split
    · rfl
    · simpa using ih

theorem mem_of_mem_dropLastQuote {text : List Char} {c : Char} (h : c ∈ dropLastQuote text) :
    c ∈ text := by
  fun_induction dropLastQuote text with
  | case1 => exact h
  | case2 => cases h
  | case3 => exact h
  | case4 d e cs ih =>
    rcases List.mem_cons.mp h with rfl | h
    · exact List.mem_cons_self
    · exact List.mem_cons_of_mem _ (ih h)

theorem mem_of_mem_unquoted {body : List Char} {c : Char} (h : c ∈ unquoted body) : c ∈ body := by
  obtain ⟨q, -, hbody⟩ := exists_dropQuote body
  rw [hbody]
  exact List.mem_append_right _ (mem_of_mem_dropLastQuote h)

/-- Up to the closing parenthesis the argument is all of the text but a last quote. -/
theorem splitArgument_closed {body : List Char} (hb : ∀ c ∈ body, isLineBreak c = false) :
    ∃ rest, splitArgument (body ++ [')']) = (dropLastQuote body, rest) ∧ isClosing rest := by
  induction body with
  | nil => exact ⟨[')'], rfl, rfl⟩
  | cons c cs ih =>
    obtain ⟨hc, hcs⟩ := List.forall_mem_cons.mp hb
    obtain ⟨rest, hrest, hclosing⟩ := ih hcs
    cases cs with
    | nil =>
      by_cases hq : isQuote c
      · exact ⟨[c, ')'], by simp [splitArgument, isClosing, dropQuote, dropOne, hq, dropLastQuote],
          by simp [isClosing, dropQuote, dropOne, hq]⟩
      · refine ⟨[')'], ?_, rfl⟩
        simp [splitArgument, isClosing, dropQuote, dropOne, hq, hc, dropLastQuote]
        decide
    | cons d ds =>
      refine ⟨rest, ?_, hclosing⟩
      -- two characters and a parenthesis are more than a closing
      have hopen : isClosing (c :: d :: ds ++ [')']) = false := by
        by_cases hq : isQuote c <;> simp [isClosing, dropQuote, dropOne, hq]
      rw [List.cons_append, splitArgument, ← List.cons_append, hopen, hc, hrest]
      rfl

theorem argument?_eq_some {k : Nat} {text : List Char} {a : Slice} (h : argument? k text = some a) :
    ∃ q q' : Option Char, (∀ c ∈ q, isQuote c) ∧ (∀ c ∈ q', isQuote c) ∧
      text = '(' :: (q.toList ++ a.text ++ q'.toList ++ [')']) ∧
      a.start = k + 1 + byteLength q.toList := by
  unfold argument? at h
  split at h
  · rename_i text
    dsimp only at h
    split at h
    · rename_i hclosing
      cases h
      obtain ⟨q, hq, htext⟩ := exists_dropQuote text
      obtain ⟨q', hq', hrest⟩ := isClosing_iff.mp hclosing
      refine ⟨q, q', hq, hq', ?_, ?_⟩
      · rw [List.append_assoc, ← hrest, List.append_assoc, append_splitArgument, ← htext]
      · have := congrArg byteLength htext
        rw [byteLength_append] at this
        dsimp only
        omega
    · cases h
  · cases h

theorem argument?_closed (k : Nat) {body : List Char} (hb : ∀ c ∈ body, isLineBreak c = false) :
    argument? k ('(' :: (body ++ [')'])) =
      some ⟨k + 1 + (byteLength body - byteLength (dropQuote body)), unquoted body⟩ := by
  have hdrop : dropQuote (body ++ [')']) = dropQuote body ++ [')'] := by
    cases body with
    | nil => rfl
    | cons c cs => by_cases hc : isQuote c <;> simp [dropQuote, dropOne, hc]
  obtain ⟨q, -, hbody⟩ := exists_dropQuote body
  have hb' : ∀ c ∈ dropQuote body, isLineBreak c = false := by
    rw [hbody] at hb
    exact fun c hc => hb c (List.mem_append_right _ hc)
  obtain ⟨rest, hrest, hclosing⟩ := splitArgument_closed hb'
  rw [argument?]
  simp only [hdrop, hrest, hclosing, if_true, byteLength_append, Nat.add_sub_add_right]
  rfl

/-- A text is read as the use of a filter as far as its argument can be. -/
theorem filterParts?_eq_some_iff {text : List Char} {p : FilterParts} :
    filterParts? text = some p ↔
      ∃ rest, text = p.preselector ++ ':' :: (p.name ++ rest) ∧
        (∀ c ∈ p.preselector, isPreselectorChar c) ∧ p.name ≠ [] ∧ (∀ c ∈ p.name, isNameChar c) ∧
        ((rest = [] ∧ p.argument = ⟨byteLength p.preselector + byteLength p.name + 1, []⟩) ∨
          argument? (byteLength p.preselector + byteLength p.name + 1) rest = some p.argument) := by
  constructor
  · intro h
    unfold filterParts? at h
    dsimp only at h
    split at h
    · rename_i rest hrest
      obtain ⟨htext, hpre, -⟩ := span_eq_iff.mp ⟨rfl, hrest⟩
      obtain ⟨hname, hchars, -⟩ := span_eq_iff.mp (⟨rfl, rfl⟩ : rest.takeWhile isNameChar = _ ∧ _)
      split at h
      · cases h
      · rename_i hne
        split at h
        · rename_i hnil
          cases h
          refine ⟨[], ?_, hpre, hne, hchars, .inl ⟨rfl, rfl⟩⟩
          rw [hnil, List.append_nil] at hname
          rw [List.append_nil, ← hname]
          exact htext
        · obtain ⟨a, ha, rfl⟩ := Option.map_eq_some_iff.mp h
          exact ⟨_, by rw [← hname]; exact htext, hpre, hne, hchars, .inr ha⟩
    · cases h
  · obtain ⟨pre, name, argument⟩ := p
    rintro ⟨rest, rfl, hpre, hne, hname, hrest⟩
    dsimp only at hpre hne hname hrest ⊢
    have hstop : Stops isNameChar rest := by
      rcases hrest with ⟨rfl, -⟩ | ha
      · exact stops_nil _
      · obtain ⟨_, _, -, -, rfl, -⟩ := argument?_eq_some ha
        exact stops_cons.mpr rfl
    obtain ⟨hpre1, hpre2⟩ := span_eq_iff.mpr
      ⟨rfl, hpre, (stops_cons.mpr rfl : Stops isPreselectorChar (':' :: (name ++ rest)))⟩
    obtain ⟨hname1, hname2⟩ := span_eq_iff.mpr ⟨rfl, hname, hstop⟩
    unfold filterParts?
    simp only [hpre1, hpre2, hname1, hname2, if_neg hne]
    rcases hrest with ⟨rfl, rfl⟩ | ha
    · rfl
    · cases rest with
      | nil => cases ha
      | cons c cs => simp only [ha, Option.map_some]

/-- Without line breaks these are the texts of the filter form. -/
theorem filterParts?_eq_some_iff_form {text : List Char} (hb : ∀ c ∈ text, isLineBreak c = false)
    {p : FilterParts} :
    filterParts? text = some p ↔
      ∃ body, FilterForm text p.preselector p.name body ∧
        p.argument = argumentOf p.preselector p.name body := by
  rw [filterParts?_eq_some_iff]
  constructor
  · rintro ⟨rest, htext, hpre, hne, hname, ⟨rfl, harg⟩ | harg⟩
    · exact ⟨none, ⟨hpre, hne, hname, htext⟩, harg⟩
    · obtain ⟨q, q', hq, hq', rfl, -⟩ := argument?_eq_some harg
      have hbody : ∀ c ∈ q.toList ++ p.argument.text ++ q'.toList, isLineBreak c = false := by
        intro c hc
        rw [htext] at hb
        exact hb c (List.mem_append_right _ (.tail _ (List.mem_append_right _
          (.tail _ (List.mem_append_left _ hc)))))
      refine ⟨some _, ⟨hpre, hne, hname, htext⟩, ?_⟩
      rw [argument?_closed _ hbody] at harg
      exact (Option.some.inj harg).symm
  · rintro ⟨body, ⟨hpre, hne, hname, htext⟩, harg⟩
    refine ⟨_, htext, hpre, hne, hname, ?_⟩
    cases body with
    | none => exact .inl ⟨rfl, harg⟩
    | some b =>
      have hbody : ∀ c ∈ b, isLineBreak c = false := fun c hc => hb c (by rw [htext]; simp [hc])
      exact .inr (by rw [harg]; exact argument?_closed _ hbody)

theorem exists_op (text : List Char) :
    ∃ op : Option Comparison, text.head?.bind Comparison.ofSymbol? = op ∧
      text = op.toList.map Comparison.symbol ++
        dropOne (fun c => (Comparison.ofSymbol? c).isSome) text ∧
      (op = none → Stops (fun c => (Comparison.ofSymbol? c).isSome) text) := by
  rcases dropOne_cases (fun c => (Comparison.ofSymbol? c).isSome) text with ⟨hs, h⟩ | ⟨c, hc, h⟩
  · refine ⟨none, ?_, by simp [h], fun _ => hs⟩
    cases text with
    | nil => rfl
    | cons c cs => simpa using stops_cons.mp hs
  · obtain ⟨op, hop⟩ := Option.isSome_iff_exists.mp hc
    refine ⟨some op, ?_, ?_, by simp⟩
    · rw [h]
      exact hop
    · rw [Option.toList_some, List.map_singleton, Comparison.symbol_of_ofSymbol? hop]
      exact h

theorem exists_equals (text : List Char) :
    ∃ b : Bool, text = (if b then ['='] else []) ++ dropOne (· == '=') text ∧
      (b = false → Stops (· == '=') text) := by
  rcases dropOne_cases (· == '=') text with ⟨hs, h⟩ | ⟨c, hc, h⟩
  · exact ⟨false, by simp [h], fun _ => hs⟩
  · exact ⟨true, by simpa [beq_iff_eq.mp hc] using h, by simp⟩

/-- Between its quotes, of which either may be missing, a value is read as it stands. -/
theorem value_eq {q q' : Option Char} {v : List Char} (hq : ∀ c ∈ q, isQuote c)
    (hv : ∀ c ∈ v, isValueChar c) (hq' : ∀ c ∈ q', isQuote c) (rest : List Char) :
    let read := dropQuote (q.toList ++ (v ++ (q'.toList ++ ']' :: rest)))
    read.takeWhile isValueChar = v ∧ dropQuote (read.dropWhile isValueChar) = ']' :: rest := by
  have hlast : dropQuote (q'.toList ++ ']' :: rest) = ']' :: rest := by
    cases q' with
    | none => rfl
    | some c => exact dropQuote_cons _ (hq' c rfl)
  have hstop : Stops isValueChar (q'.toList ++ ']' :: rest) := by
    cases q' with
    | none => exact stops_cons.mpr rfl
    | some c => exact stops_cons.mpr (by simp [isValueChar, hq' c rfl])
  have hread : dropQuote (q.toList ++ (v ++ (q'.toList ++ ']' :: rest))) =
      v ++ (q'.toList ++ ']' :: rest) ∨
      v = [] ∧ dropQuote (q.toList ++ (v ++ (q'.toList ++ ']' :: rest))) = ']' :: rest := by
    cases q with
    | some c => exact .inl (dropQuote_cons _ (hq c rfl))
    | none =>
      cases v with
      | nil => exact .inr ⟨rfl, hlast⟩
      | cons c cs =>
        refine .inl (dropOne_eq_self (stops_cons.mpr ?_))
        have := hv c List.mem_cons_self
        simp only [isValueChar, Bool.not_eq_true', Bool.or_eq_false_iff] at this
        exact this.2
  rcases hread with hread | ⟨rfl, hread⟩
  · obtain ⟨h1, h2⟩ := span_eq_iff.mpr ⟨rfl, hv, hstop⟩
    exact ⟨by rw [hread, h1], by rw [hread, h2, hlast]⟩
  · exact ⟨by rw [hread]; rfl, by rw [hread]; rfl⟩

namespace ClauseText

theorem afterOp_ne_nil (t : ClauseText) : t.afterOp ≠ [] := by simp [afterOp]

theorem afterName_ne_nil (t : ClauseText) : t.afterName ≠ [] := by simp [afterName, afterOp]

theorem read_op (t : ClauseText) (ht : t.WellFormed) (rest : List Char) :
    (t.afterName ++ rest).head?.bind Comparison.ofSymbol? = t.op ∧
      dropOne (fun c => (Comparison.ofSymbol? c).isSome) (t.afterName ++ rest) = t.afterOp ++ rest := by
  cases hop : t.op with
  | none =>
    have hname : t.afterName = t.afterOp := by simp [afterName, hop]
    have hs := (stops_append t.afterName_ne_nil rest).mpr (ht.op_first hop)
    rw [dropOne_eq_self hs, hname]
    rw [hname] at hs
    obtain ⟨op, h1, -, h2⟩ := exists_op (t.afterOp ++ rest)
    cases op with
    | none => exact ⟨h1, rfl⟩
    | some op =>
      obtain ⟨c, hc, hop⟩ := Option.bind_eq_some_iff.mp h1
      simpa [hop] using hs c hc
  | some op =>
    have hname : t.afterName = op.symbol :: t.afterOp := by simp [afterName, hop]
    rw [hname, List.cons_append, dropOne_cons _ (by simp [Comparison.ofSymbol?_symbol])]
    exact ⟨Comparison.ofSymbol?_symbol op, rfl⟩

theorem read_equals (t : ClauseText) (ht : t.WellFormed) (rest : List Char) :
    dropOne (· == '=') (t.afterOp ++ rest) =
      t.opening.toList ++ (t.value ++ (t.closing.toList ++ ']' :: rest)) := by
  cases he : t.equals with
  | false =>
    rw [dropOne_eq_self ((stops_append t.afterOp_ne_nil rest).mpr (ht.equals_first he))]
    simp [afterOp, he]
  | true => simp [afterOp, he, dropOne]

end ClauseText

/-- The parts of a clause that was read, from the name on. -/
theorem exists_clauseText {text rest : List Char} {c : AttributeClause}
    (h : clause? text = some (c, rest)) :
    ∃ t : ClauseText, t.WellFormed ∧ text = t.text ++ rest ∧ c = t.clause := by
  unfold clause? at h
  split at h
  · rename_i text
    dsimp only at h
    split at h
    · cases h
    · rename_i hne
      split at h
      · rename_i rest' hend
        cases h
        obtain ⟨hname, hchars, hlong⟩ :=
          span_eq_iff.mp (⟨rfl, rfl⟩ : text.takeWhile isNameChar = _ ∧ _)
        obtain ⟨op, hop, hafter, hfirst⟩ := exists_op (text.dropWhile isNameChar)
        obtain ⟨b, hb, heq⟩ := exists_equals
          (dropOne (fun c => (Comparison.ofSymbol? c).isSome) (text.dropWhile isNameChar))
        obtain ⟨q, hq, hopen⟩ := exists_dropQuote (dropOne (· == '=')
          (dropOne (fun c => (Comparison.ofSymbol? c).isSome) (text.dropWhile isNameChar)))
        generalize text.dropWhile isNameChar = afterName at *
        generalize dropOne (fun c => (Comparison.ofSymbol? c).isSome) afterName = afterOp at *
        generalize dropQuote (dropOne (· == '=') afterOp) = atValue at *
        obtain ⟨q', hq', hclose⟩ := exists_dropQuote (atValue.dropWhile isValueChar)
        obtain ⟨hvalue, hvchars, -⟩ :=
          span_eq_iff.mp (⟨rfl, rfl⟩ : atValue.takeWhile isValueChar = _ ∧ _)
        rw [hend] at hclose
        let t : ClauseText := ⟨text.takeWhile isNameChar, op, b, q, atValue.takeWhile isValueChar, q'⟩
        have hOp : afterOp = t.afterOp ++ rest := by
          rw [hb, hopen, hvalue, hclose]
          simp [t, ClauseText.afterOp]
        have hName : afterName = t.afterName ++ rest := by
          rw [hafter, hOp]
          simp [t, ClauseText.afterName]
        refine ⟨t, ⟨hne, hchars, ?_, ?_, ?_, hq, hvchars, hq'⟩, ?_, ?_⟩
        · exact (stops_append t.afterName_ne_nil rest).mp (hName ▸ hlong)
        · exact fun h0 => (stops_append t.afterName_ne_nil rest).mp (hName ▸ hfirst h0)
        · exact fun h0 => (stops_append t.afterOp_ne_nil rest).mp (hOp ▸ heq h0)
        · rw [ClauseText.text, List.cons_append, List.append_assoc, ← hName]
          exact congrArg _ hname
        · rw [hop]
          rfl
      · cases h
  · cases h

theorem clause?_text {t : ClauseText} (ht : t.WellFormed) (rest : List Char) :
    clause? (t.text ++ rest) = some (t.clause, rest) := by
  obtain ⟨hname, hafter⟩ := span_eq_iff.mpr
    ⟨rfl, ht.name, (stops_append t.afterName_ne_nil rest).mpr ht.name_longest⟩
  obtain ⟨hop, hrest⟩ := t.read_op ht rest
  have hequals := t.read_equals ht rest
  obtain ⟨hvalue, hclose⟩ := value_eq ht.opening ht.value ht.closing rest
  rw [ClauseText.text, List.cons_append, List.append_assoc, clause?]
  simp only [hname, hafter, hop, hrest, hequals, hvalue, hclose, if_neg ht.name_ne_nil]
  rfl

theorem clauses?_eq_some_iff {text : List Char} {cs : List AttributeClause} :
    clauses? text = some cs ↔
      ∃ parts : List ClauseText, (∀ t ∈ parts, t.WellFormed) ∧
        text = parts.flatMap ClauseText.text ∧ cs = parts.map ClauseText.clause := by
  constructor
  · intro h
    induction text using clauses?.induct generalizing cs with
    | case1 =>
      rw [clauses?] at h
      cases h
      exact ⟨[], by simp⟩
    | case2 text hne hnone =>
      rw [clauses?, if_neg hne, hnone] at h
      cases h
    | case3 text hne c rest hsome ih =>
      rw [clauses?, if_neg hne, hsome] at h
      obtain ⟨cs, hcs, rfl⟩ := Option.map_eq_some_iff.mp h
      obtain ⟨parts, hparts, rfl, rfl⟩ := ih hcs
      obtain ⟨t, ht, rfl, rfl⟩ := exists_clauseText hsome
      exact ⟨t :: parts, List.forall_mem_cons.mpr ⟨ht, hparts⟩, rfl, rfl⟩
  · rintro ⟨parts, hparts, rfl, rfl⟩
    induction parts with
    | nil => rw [clauses?]; rfl
    | cons t parts ih =>
      obtain ⟨ht, hparts⟩ := List.forall_mem_cons.mp hparts
      have hclause : clause? ((t :: parts).flatMap ClauseText.text) =
          some (t.clause, parts.flatMap ClauseText.text) := clause?_text ht _
      rw [clauses?, if_neg (by simp [ClauseText.text]), hclause]
      simp [ih hparts]

theorem stops_tag_clauses {parts : List ClauseText} :
    Stops isTagChar (parts.flatMap ClauseText.text) := by
  cases parts with
  | nil => exact stops_nil _
  | cons t parts => exact stops_cons.mpr rfl

theorem compound?_eq_some_iff {text : List Char} {c : Compound} :
    compound? text = some c ↔ CompoundForm text c := by
  unfold compound? CompoundForm
  constructor
  · intro h
    obtain ⟨cs, hcs, rfl⟩ := Option.map_eq_some_iff.mp h
    obtain ⟨parts, hparts, hrest, rfl⟩ := clauses?_eq_some_iff.mp hcs
    obtain ⟨htext, htag, -⟩ := span_eq_iff.mp ⟨rfl, hrest⟩
    exact ⟨_, parts, htag, hparts, htext, rfl⟩
  · rintro ⟨tag, parts, htag, hparts, rfl, rfl⟩
    obtain ⟨h1, h2⟩ := span_eq_iff.mpr ⟨rfl, htag, @stops_tag_clauses parts⟩
    simp only [h1, h2, clauses?_eq_some_iff.mpr ⟨parts, hparts, rfl, rfl⟩, Option.map_some]
    rfl

theorem CompoundForm.eq_nil {text : List Char} (h : CompoundForm text {}) : text = [] := by
  obtain ⟨tag, parts, -, -, rfl, hc⟩ := h
  obtain ⟨htag, hparts⟩ := Compound.mk.inj hc
  have htag : tag = [] := by
    unfold nonempty? at htag
    split at htag
    · assumption
    · cases htag
  simp [htag, List.map_eq_nil_iff.mp hparts.symm]

theorem compound?_eq_none_iff {text : List Char} :
    compound? text = none ↔ ¬ ∃ c, CompoundForm text c := by
  rw [Option.eq_none_iff_forall_ne_some, not_exists]
  exact forall_congr' fun c => not_congr compound?_eq_some_iff

theorem id?_eq_some_iff {text value : List Char} : id? text = some value ↔ IdForm text value := by
  unfold id? IdForm
  constructor
  · intro h
    split at h
    · cases h
    · rename_i c value' hrest
      cases h
      obtain ⟨htext, hbefore, hstop⟩ := span_eq_iff.mp ⟨rfl, hrest⟩
      have hc : c = '#' := by simpa [Stops] using hstop
      rw [hc] at htext
      exact ⟨_, fun hmem => by simpa using hbefore _ hmem, htext⟩
  · rintro ⟨before, hbefore, rfl⟩
    have hchars : ∀ c ∈ before, (c != '#') = true := by
      intro c hc
      rw [bne_iff_ne]
      rintro rfl
      exact hbefore hc
    have hstop : Stops (· != '#') ('#' :: value) := stops_cons.mpr rfl
    rw [(span_eq_iff.mpr ⟨rfl, hchars, hstop⟩).2]

theorem id?_eq_none_iff {text : List Char} : id? text = none ↔ '#' ∉ text := by
  unfold id?
  have hmem : text.dropWhile (· != '#') = [] ↔ '#' ∉ text := by
    induction text with
    | nil => simp
    | cons c cs ih =>
      by_cases hc : c = '#'
      · simp [hc]
      · simp [hc, ih, Ne.symm hc]
  rw [← hmem]
  cases text.dropWhile (· != '#') <;> simp

theorem segments_eq_splitOn (text : List Char) : segments text = text.splitOn '.' := by
  induction text with
  | nil => rfl
  | cons c cs ih =>
    rw [segments, List.splitOn_cons_eq_if_modifyHead, ih]
    by_cases hc : c = '.'
    · simp [hc]
    · simp only [hc, if_false, beq_iff_eq]
      cases h : cs.splitOn '.' with
      | nil => exact absurd h (List.splitOn_ne_nil _ _)
      | cons s ss => rfl

theorem segments_eq_iff {text : List Char} {ss : List (List Char)} :
    segments text = ss ↔ ss ≠ [] ∧ (∀ s ∈ ss, '.' ∉ s) ∧ text = ['.'].intercalate ss := by
  rw [segments_eq_splitOn]
  constructor
  · rintro rfl
    exact ⟨List.splitOn_ne_nil _ _, fun s hs => not_mem_of_mem_splitOn hs,
      (List.intercalate_splitOn _).symm⟩
  · rintro ⟨hne, hdot, rfl⟩
    exact List.splitOn_intercalate '.' hdot hne

theorem eq_of_mem_nonempty? {text : List Char} {a : String} (h : a ∈ nonempty? text) :
    a.toList = text := by
  unfold nonempty? at h
  split at h
  · cases h
  · obtain rfl := Option.mem_some_iff.mp h
    simp

theorem nonempty?_eq (text : List Char) :
    nonempty? text = if String.ofList text = "" then none else some (String.ofList text) := by
  simp [nonempty?]

theorem classes?_eq_some_iff {text : List Char} {c : ClassList} :
    classes? text = some c ↔ ClassForm text c := by
  unfold classes? ClassForm
  constructor
  · intro h
    obtain ⟨hne, hdot, htext⟩ := segments_eq_iff.mp (rfl : segments text = _)
    cases hseg : segments text with
    | nil => exact absurd hseg hne
    | cons tag classes =>
      rw [hseg] at h hdot htext
      cases classes with
      | nil => cases h
      | cons d ds =>
        cases h
        exact ⟨tag, d :: ds, by simp, hdot, htext, by rw [nonempty?_eq]; rfl⟩
  · rintro ⟨tag, classes, hne, hdot, htext, rfl⟩
    rw [segments_eq_iff.mpr ⟨by simp, hdot, htext⟩, nonempty?_eq]
    obtain ⟨d, ds, rfl⟩ := List.exists_cons_of_ne_nil hne
    rfl

theorem classes?_eq_none_iff {text : List Char} : classes? text = none ↔ '.' ∉ text := by
  have hone : '.' ∉ text ↔ segments text = [text] := by
    rw [segments_eq_iff]
    simp
  rw [hone]
  unfold classes?
  obtain ⟨hne, -, htext⟩ := segments_eq_iff.mp (rfl : segments text = _)
  cases hseg : segments text with
  | nil => exact absurd hseg hne
  | cons tag classes =>
    rw [hseg] at htext
    cases classes with
    | nil => simpa using htext.symm
    | cons d ds => simp

end MarkupQuery.Grammar
