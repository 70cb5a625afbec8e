import MarkupQuery.Proofs.Preselectors
import MarkupQuery.Proofs.Shape

/-! Compounds as they are written. A text in the form of a compound ends in a bracket, or it is a
tag. So it never has the form of a filter, whatever colons and parentheses stand in its values, and
without blanks it is one token. The form in which a compound shows itself is such a text as long as
its values can stand between quotation marks as they are, and then it reads as that compound. -/

namespace MarkupQuery

open Grammar

/-! Reading a text in the form of a compound. -/

theorem Grammar.ClauseText.getLast?_text (t : ClauseText) : t.text.getLast? = some ']' := by
  have htext : t.text = ('[' :: (t.name ++ (t.op.toList.map Comparison.symbol ++
      ((if t.equals then ['='] else []) ++ t.opening.toList ++ t.value ++ t.closing.toList)))) ++
        [']'] := by
    simp [ClauseText.text, ClauseText.afterName, ClauseText.afterOp]
  rw [htext, List.getLast?_concat]

/-- The only blanks of a clause are those of its value. -/
theorem Grammar.ClauseText.WellFormed.solid_text {t : ClauseText} (h : t.WellFormed)
    (hvalue : ∀ c ∈ t.value, isBlank c = false) : ∀ c ∈ t.text, isBlank c = false := by
  have hname : ∀ c ∈ t.name, isBlank c = false := fun c hc => isBlank_of_isNameChar (h.name c hc)
  have hquote : ∀ q, isQuote q → isBlank q = false := by
    intro q hq
    simp only [isQuote, Bool.or_eq_true, beq_iff_eq] at hq
    rcases hq with rfl | rfl <;> rfl
  have hop : ∀ op : Comparison, isBlank op.symbol = false := by
    intro op
    cases op <;> rfl
  intro c hc
  simp only [ClauseText.text, ClauseText.afterName, ClauseText.afterOp, List.mem_cons,
    List.mem_append, List.mem_map, Option.mem_toList, List.not_mem_nil, or_false] at hc
  rcases hc with rfl | hc | ⟨op, -, rfl⟩ | (((hc | hc) | hc) | hc) | rfl
  · rfl
  · exact hname c hc
  · exact hop op
  · split at hc
    · obtain rfl := List.mem_singleton.mp hc
      rfl
    · cases hc
  · exact hquote c (h.opening c hc)
  · exact hvalue c hc
  · exact hquote c (h.closing c hc)
  · rfl

theorem Grammar.FilterForm.getLast?_cases {text pre name : List Char} {body : Option (List Char)}
    (h : FilterForm text pre name body) : ∀ c ∈ text.getLast?, isNameChar c ∨ c = ')' := by
  intro c hc
  cases body with
  | none =>
    obtain ⟨first, last, rfl⟩ := (List.eq_nil_or_concat name).resolve_left h.name_ne_nil
    have htext : text = (pre ++ ':' :: first) ++ [last] := by simp [h.text_eq]
    rw [htext, List.getLast?_concat] at hc
    cases hc
    exact .inl (h.name_chars c (by simp))
  | some body =>
    have htext : text = (pre ++ ':' :: (name ++ '(' :: body)) ++ [')'] := by simp [h.text_eq]
    rw [htext, List.getLast?_concat] at hc
    cases hc
    exact .inr rfl

namespace Grammar.CompoundForm

variable {text : List Char} {x : Compound}

theorem not_isFilter (h : CompoundForm text x) : ¬ IsFilter text := by
  obtain ⟨tag, parts, htag, -, rfl, -⟩ := h
  rintro ⟨pre, name, body, hform⟩
  rcases List.eq_nil_or_concat parts with rfl | ⟨parts, last, rfl⟩
  · have hcolon : ':' ∈ tag := by
      rw [List.flatMap_nil, List.append_nil] at hform
      simp [hform.text_eq]
    exact absurd (htag _ hcolon) (by decide)
  · have hlast : (tag ++ (parts.concat last).flatMap ClauseText.text).getLast? = some ']' := by
      simp [List.getLast?_append, ClauseText.getLast?_text]
    rcases hform.getLast?_cases _ hlast with hname | hround
    · exact absurd hname (by decide)
    · cases hround

theorem isTail_eq (h : CompoundForm text x) : isTail text = false := by
  obtain ⟨tag, parts, htag, -, rfl, -⟩ := h
  cases parts with
  | nil =>
    refine isTail_of_no_bracket fun c hc => isBracket_of_isNameChar ?_
    rw [List.flatMap_nil, List.append_nil] at hc
    simp [isNameChar, htag c hc]
  | cons first parts => exact Encloses.square.isTail_opened tag _

theorem ne_universal (h : CompoundForm text x) : text ≠ ['*'] := by
  obtain ⟨tag, parts, htag, -, rfl, -⟩ := h
  intro heq
  cases tag with
  | nil =>
    cases parts with
    | nil => cases heq
    | cons first parts => cases heq
  | cons c tag =>
    obtain ⟨rfl, -⟩ := List.cons_eq_cons.mp heq
    exact absurd (htag '*' List.mem_cons_self) (by decide)

/-- Without blanks it is one token, and nothing else than the compound. -/
theorem parseAt_eq (h : CompoundForm text x) (hword : IsWord text) (k : Nat) :
    Alternative.parseAt text k = .ok [.compound x] := by
  have hreads : Reads text k (.ok (.compound x)) := .compound h.ne_universal h.not_isFilter h
  rw [parseAt_of_isWord hword h.isTail_eq, parse_of_reads (unbroken_of_solid hword.solid) hreads]
  rfl

end Grammar.CompoundForm

/-- A tag and clauses without blanks in their values are one token. -/
theorem parseAt_clauseTexts {tag : List Char} {parts : List ClauseText}
    (hne : tag ≠ [] ∨ parts ≠ []) (htag : ∀ c ∈ tag, isTagChar c)
    (hparts : ∀ t ∈ parts, t.WellFormed ∧ ∀ c ∈ t.value, isBlank c = false) (k : Nat) :
    Alternative.parseAt (tag ++ parts.flatMap ClauseText.text) k =
      .ok [.compound ⟨nonempty? tag, parts.map ClauseText.clause⟩] := by
  have hform : CompoundForm (tag ++ parts.flatMap ClauseText.text)
      ⟨nonempty? tag, parts.map ClauseText.clause⟩ :=
    ⟨tag, parts, htag, fun t ht => (hparts t ht).1, rfl, rfl⟩
  refine hform.parseAt_eq ⟨?_, List.forall_mem_append.mpr ⟨fun c hc => ?_, fun c hc => ?_⟩⟩ k
  · rw [Ne, List.append_eq_nil_iff, not_and_or]
    refine hne.imp id fun hparts hnil => ?_
    obtain ⟨t, later, rfl⟩ := List.exists_cons_of_ne_nil hparts
    cases hnil
  · exact isBlank_of_isNameChar (by simp [isNameChar, htag c hc])
  · obtain ⟨t, ht, hc⟩ := List.mem_flatMap.mp hc
    exact (hparts t ht).1.solid_text (hparts t ht).2 c hc

/-! The written form. -/

def AttributeClause.display (x : AttributeClause) : String := "[" ++ x.name ++ x.test.display ++ "]"

def Compound.display (x : Compound) : String :=
  x.tag.getD "" ++ String.join (x.clauses.map AttributeClause.display)

/-- The name can be read, and what the value is compared with stands between quotation marks as it
is. -/
structure AttributeClause.Writable (x : AttributeClause) : Prop extends x.WellFormed where
  name_chars : ∀ c ∈ x.name.toList, isNameChar c
  solid : ∀ c ∈ x.test.literal.toList, isBlank c = false
  printed : ∀ c ∈ x.test.literal.toList, Quoted.escape c = [c]

theorem toList_quoted {text : String} (h : ∀ c ∈ text.toList, Quoted.escape c = [c]) :
    (quoted text).toList = '"' :: (text.toList ++ ['"']) := by
  have hescape : text.toList.map Quoted.escape = text.toList.map fun c => [c] :=
    List.map_congr_left h
  rw [quoted, String.toList_ofList, List.flatMap_def, hescape, ← List.flatMap_def,
    List.flatMap_singleton', List.cons_append]

namespace AttributeClause

variable {x : AttributeClause}

/-- The parts of the written clause. The sign of equality is not repeated. -/
def written (x : AttributeClause) : ClauseText :=
  match x.test.comparison? with
  | none => ⟨x.name.toList, none, false, none, [], none⟩
  | some op =>
    ⟨x.name.toList, some op, op != .equals, some '"', x.test.literal.toList, some '"'⟩

namespace Writable

theorem wellFormed_written (h : x.Writable) : x.written.WellFormed := by
  have hname : x.name.toList ≠ [] := by simpa using h.name_ne_empty
  have hquote : ∀ q ∈ some '"', isQuote q := by simp [isQuote]
  obtain ⟨name, _ | op, literal⟩ := x
  · exact ⟨hname, h.name_chars, stops_cons.mpr rfl, fun _ => stops_cons.mpr rfl,
      fun _ => stops_cons.mpr rfl, by simp [written], by simp [written], by simp [written]⟩
  · have hvalue : ∀ c ∈ literal.toList, isValueChar c := by
      intro c hc
      obtain ⟨hbracket, hsingle, hdouble⟩ := h.literal
      simp only [isValueChar, isQuote, Bool.not_eq_true', Bool.or_eq_false_iff, beq_eq_false_iff_ne]
      exact ⟨ne_of_mem_of_not_mem hc hbracket, ne_of_mem_of_not_mem hc hsingle,
        ne_of_mem_of_not_mem hc hdouble⟩
    refine ⟨hname, h.name_chars, ?_, by simp [written], fun hequals => ?_, hquote, hvalue, hquote⟩
    · -- no operator belongs to the name
      cases op <;> exact stops_cons.mpr rfl
    · have hop : op = .equals := by simpa [written] using hequals
      subst hop
      exact stops_cons.mpr rfl

theorem toList_display (h : x.Writable) : x.display.toList = x.written.text := by
  obtain ⟨name, _ | op, literal⟩ := x
  · simp [display, AttributeTest.display, written, ClauseText.text, ClauseText.afterName,
      ClauseText.afterOp]
  · have hquoted : (quoted literal).toList = '"' :: (literal.toList ++ ['"']) :=
      toList_quoted h.printed
    cases op <;> simp [display, AttributeTest.display, hquoted, written, ClauseText.text,
      ClauseText.afterName, ClauseText.afterOp, Comparison.symbol]

theorem solid_written (h : x.Writable) : ∀ c ∈ x.written.value, isBlank c = false := by
  obtain ⟨name, _ | op, literal⟩ := x
  · simp [written]
  · exact h.solid

theorem clause_written (h : x.Writable) : x.written.clause = x := by
  obtain ⟨name, _ | op, literal⟩ := x
  · obtain rfl : literal = "" := h.bare rfl
    simp [written, ClauseText.clause, AttributeTest.present]
  · simp [written, ClauseText.clause, AttributeTest.compare]

end Writable

end AttributeClause

theorem Compound.toList_display {x : Compound} (h : ∀ clause ∈ x.clauses, clause.Writable) :
    x.display.toList =
      (x.tag.getD "").toList ++ (x.clauses.map AttributeClause.written).flatMap ClauseText.text := by
  have hclauses : x.clauses.map (·.display.toList) = x.clauses.map (·.written.text) :=
    List.map_congr_left fun clause hclause => (h clause hclause).toList_display
  rw [display, String.toList_append, String.toList_join, List.flatMap_def, List.flatMap_def,
    List.map_map, List.map_map]
  exact congrArg (fun parts => _ ++ parts.flatten) hclauses

/-- A written compound reads as that compound and nothing else, if its values can stand between
quotation marks as they are. -/
theorem parse_display {x : Compound} (hx : x.WellFormed)
    (hclauses : ∀ clause ∈ x.clauses, clause.Writable) :
    Alternative.parse x.display = .ok [.compound x] := by
  have hparts : ∀ t ∈ x.clauses.map AttributeClause.written,
      t.WellFormed ∧ ∀ c ∈ t.value, isBlank c = false := by
    intro t ht
    obtain ⟨clause, hclause, rfl⟩ := List.mem_map.mp ht
    exact ⟨(hclauses clause hclause).wellFormed_written, (hclauses clause hclause).solid_written⟩
  have hread : (x.clauses.map AttributeClause.written).map ClauseText.clause = x.clauses := by
    have hclause : ∀ clause ∈ x.clauses, clause.written.clause = id clause :=
      fun clause h => (hclauses clause h).clause_written
    rw [List.map_map, Function.comp_def, List.map_congr_left hclause, List.map_id]
  have htag : (∀ c ∈ (x.tag.getD "").toList, isTagChar c) ∧
      nonempty? (x.tag.getD "").toList = x.tag := by
    cases hsome : x.tag with
    | none => exact ⟨by simp, rfl⟩
    | some tag =>
      obtain ⟨hne, hchars⟩ := hx.tag tag hsome
      exact ⟨hchars, by simp [nonempty?, hne]⟩
  have hne : (x.tag.getD "").toList ≠ [] ∨ x.clauses.map AttributeClause.written ≠ [] := by
    refine hx.ne_empty.imp (fun hsome hnil => ?_) fun hclauses => by simpa using hclauses
    rw [← htag.2, hnil] at hsome
    cases hsome
  rw [Alternative.parse, Compound.toList_display hclauses, parseAt_clauseTexts hne htag.1 hparts,
    htag.2, hread]

/-- A link with a value that looks like the use of a filter and one that begins with a sign of
equality. -/
def trickyLink : Compound where
  tag := some "a_1"
  clauses := [⟨"href", .present⟩, ⟨"data-x", .compare .equals "p.q#r:not(s)"⟩,
    ⟨"rel", .compare .dashMatch "=~[,"⟩, ⟨"lang", .compare .endsWith ""⟩]

theorem parse_display_link :
    trickyLink.WellFormed ∧ (∀ clause ∈ trickyLink.clauses, clause.Writable) ∧
      trickyLink.display = "a_1[href][data-x=\"p.q#r:not(s)\"][rel|=\"=~[,\"][lang$=\"\"]" ∧
      Alternative.parse "a_1[href][data-x=\"p.q#r:not(s)\"][rel|=\"=~[,\"][lang$=\"\"]" =
        .ok [.compound trickyLink] := by
  have hwell : trickyLink.WellFormed := by
    refine ⟨.inl rfl, ?_, ?_⟩
    · rintro tag ⟨⟩
      exact ⟨by decide, List.all_eq_true.mp rfl⟩
    · simp only [trickyLink, List.forall_mem_cons]
      refine ⟨?_, ?_, ?_, ?_, by simp⟩ <;> constructor <;> decide
  have hclauses : ∀ clause ∈ trickyLink.clauses, clause.Writable := by
    intro clause hclause
    have hchecked := List.all_eq_true.mp (show trickyLink.clauses.all (fun x =>
      x.name.toList.all isNameChar && x.test.literal.toList.all fun c =>
        !isBlank c && Quoted.escape c == [c]) by decide +kernel) clause hclause
    simp only [Bool.and_eq_true, List.all_eq_true, Bool.not_eq_true', beq_iff_eq] at hchecked
    obtain ⟨hname, hvalue⟩ := hchecked
    exact ⟨hwell.clauses clause hclause, hname, fun c hc => (hvalue c hc).1,
      fun c hc => (hvalue c hc).2⟩
  have hdisplay : trickyLink.display =
      "a_1[href][data-x=\"p.q#r:not(s)\"][rel|=\"=~[,\"][lang$=\"\"]" := by decide +kernel
  exact ⟨hwell, hclauses, hdisplay, hdisplay ▸ parse_display hwell hclauses⟩

end MarkupQuery
