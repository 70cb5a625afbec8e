import MarkupQuery.Engine.Standard
import MarkupQuery.Proofs.Display
import MarkupQuery.Proofs.Joining
import MarkupQuery.Proofs.Narrowing

/-! Two ways to ask for classes. With dots after a name, one test asks for all of them; with a clause
for each of them, the clauses ask one after the other for a word of the attribute. Either way the
elements of the name are gone through once. An attribute has all of the classes if it has each of
them, so the same is found. -/

namespace MarkupQuery

open Grammar

/-- A class that stands after a dot and between quotes as it is. -/
structure IsClassName (text : List Char) : Prop where
  ne_nil : text ≠ []
  solid : ∀ c ∈ text, isBlank c = false
  plain : ∀ c ∈ text, c ∉ [',', '.', ':', '#', '\'', '"', '[', ']', '(', ')']

/-- Asks for the classes after a dot each. -/
def dottedQuery (tag : String) (classes : List String) : String :=
  tag ++ String.join (classes.map ("." ++ ·))

/-- Asks for the classes in a clause each. -/
def clauseQuery (tag : String) (classes : List String) : String :=
  tag ++ String.join (classes.map fun c => "[class~='" ++ c ++ "']")

/-- Whether the class is a word of the attribute. -/
def Node.hasClass (n : Node) (c : String) : Bool :=
  (n.attribute? "class").any fun value => (words value.toList).contains c.toList

/-- The elements of a name that have all of the classes, in document order below each root. -/
def classElements (tag : String) (classes : List String) (roots : List Place) : List Place :=
  (roots.flatMap Place.inclusive).filter fun p =>
    p.node.hasTag (some tag) && classes.all p.node.hasClass

/-! The two tests of an element. -/

theorem hasClasses_eq_all {classes : List String} (hne : classes ≠ []) (n : Node) :
    hasClasses classes (n.attribute? "class") = classes.all n.hasClass := by
  have hsome : ∃ c, c ∈ classes := List.exists_mem_of_ne_nil classes hne
  unfold Node.hasClass
  cases n.attribute? "class" with
  | none => simpa [hasClasses] using hsome
  | some value =>
    by_cases hvalue : value = ""
    · simpa [hasClasses, hvalue, words, wordsFrom] using hsome
    · simp [hasClasses, hvalue]

theorem accepts_includes (n : Node) (c : String) :
    (AttributeTest.compare .includes c).accepts (n.attribute? "class") = n.hasClass c := by
  unfold Node.hasClass
  cases n.attribute? "class" with
  | none => rfl
  | some value =>
    by_cases hvalue : value = ""
    · simp [AttributeTest.accepts, Comparison.accepts, hvalue, words, wordsFrom]
    · simp [AttributeTest.accepts, Comparison.accepts, hvalue]

/-! Reading the two queries. -/

theorem intercalate_cons_eq {α : Type} (sep x : List α) (xs : List (List α)) :
    sep.intercalate (x :: xs) = x ++ xs.flatMap (sep ++ ·) := by
  induction xs generalizing x with
  | nil => simp
  | cons y ys ih => simp [List.intercalate_cons_cons, ih]

/-- The clause that asks for one class. -/
def classText (c : String) : ClauseText :=
  ⟨"class".toList, some .includes, true, some '\'', c.toList, some '\''⟩

theorem IsClassName.classText {c : String} (h : IsClassName c.toList) :
    (classText c).WellFormed ∧ ∀ d ∈ (classText c).value, isBlank d = false := by
  have hquote : ∀ q ∈ some '\'', isQuote q := by simp [isQuote]
  have hvalue : ∀ d ∈ c.toList, isValueChar d := by
    intro d hd
    have hplain := h.plain d hd
    simp_all [isValueChar, isQuote]
  refine ⟨⟨?_, List.all_eq_true.mp rfl, stops_cons.mpr rfl, ?_, ?_, hquote, hvalue, hquote⟩, h.solid⟩
  all_goals simp [MarkupQuery.classText]

section
variable {tag : String} {classes : List String}

theorem toList_dottedQuery :
    (dottedQuery tag classes).toList = tag.toList ++ classes.flatMap fun c => '.' :: c.toList := by
  simp [dottedQuery, List.flatMap_map]

theorem toList_clauseQuery :
    (clauseQuery tag classes).toList =
      tag.toList ++ (classes.map classText).flatMap ClauseText.text := by
  simp [clauseQuery, List.flatMap_map, classText, ClauseText.text, ClauseText.afterName,
    ClauseText.afterOp, Comparison.symbol]

variable (hchars : ∀ c ∈ tag.toList, isTagChar c) (hclasses : ∀ c ∈ classes, IsClassName c.toList)

include hchars hclasses

/-- No blank and no bracket stands in the query, and nothing that ends a part or starts a filter or
an id. -/
theorem ordinary_of_mem_dottedQuery {c : Char} (hc : c ∈ (dottedQuery tag classes).toList) :
    isBlank c = false ∧ isBracket c = false ∧ c ∉ [',', ':', '#'] := by
  rw [toList_dottedQuery] at hc
  rcases List.mem_append.mp hc with hc | hc
  · have htag := hchars c hc
    have hname : isNameChar c := by simp [isNameChar, htag]
    refine ⟨isBlank_of_isNameChar hname, isBracket_of_isNameChar hname, fun hmem => ?_⟩
    simp only [List.mem_cons, List.not_mem_nil, or_false] at hmem
    rcases hmem with rfl | rfl | rfl <;> exact absurd htag (by decide)
  · obtain ⟨name, hname, hc⟩ := List.mem_flatMap.mp hc
    rcases List.mem_cons.mp hc with rfl | hc
    · decide
    · have hplain := (hclasses name hname).plain c hc
      refine ⟨(hclasses name hname).solid c hc, ?_, ?_⟩
      · simp_all [isBracket]
      · simp_all

variable (hne : classes ≠ [])

include hne

omit hclasses in
/-- After the name stands a dot, where a compound has a bracket. -/
theorem not_compoundForm_dottedQuery {x : Compound} :
    ¬ CompoundForm (dottedQuery tag classes).toList x := by
  obtain ⟨c, cs, rfl⟩ := List.exists_cons_of_ne_nil hne
  rintro ⟨name, parts, hname, -, htext, -⟩
  have hdot : Stops isTagChar ((c :: cs).flatMap fun c => '.' :: c.toList) := stops_cons.mpr rfl
  have hrest := (span_eq_iff.mpr ⟨toList_dottedQuery, hchars, hdot⟩).2
  have hclauses := (span_eq_iff.mpr ⟨htext, hname, stops_tag_clauses⟩).2
  rw [hrest] at hclauses
  cases parts <;> cases hclauses

theorem classForm_dottedQuery (htag : tag ≠ "") :
    ClassForm (dottedQuery tag classes).toList ⟨some tag, classes⟩ := by
  refine ⟨tag.toList, classes.map String.toList, by simpa using hne, ?_, ?_, ?_⟩
  · refine List.forall_mem_cons.mpr ⟨fun hdot => absurd (hchars _ hdot) (by decide), fun s hs hdot => ?_⟩
    obtain ⟨name, hname, rfl⟩ := List.mem_map.mp hs
    exact (hclasses name hname).plain '.' hdot (by simp)
  · rw [toList_dottedQuery, intercalate_cons_eq, List.flatMap_map]
    rfl
  · simp [nonempty?, htag]

theorem parse_dottedQuery (htag : tag ≠ "") :
    Alternative.parse (dottedQuery tag classes) = .ok [.classes ⟨some tag, classes⟩] := by
  have hchar := fun c => @ordinary_of_mem_dottedQuery tag classes hchars hclasses c
  have hform := classForm_dottedQuery hchars hclasses hne htag
  have hcompound : ¬ ∃ x, CompoundForm (dottedQuery tag classes).toList x :=
    fun ⟨x, hx⟩ => not_compoundForm_dottedQuery hchars hne hx
  have hword : IsWord (dottedQuery tag classes).toList := by
    refine ⟨?_, fun c hc => (hchar c hc).1⟩
    rw [toList_dottedQuery]
    simp [htag]
  have htail := isTail_of_no_bracket fun c hc => (hchar c hc).2.1
  have hstar : (dottedQuery tag classes).toList ≠ ['*'] := by
    obtain ⟨name, hname⟩ := List.exists_mem_of_ne_nil classes hne
    have hdot : '.' ∈ (dottedQuery tag classes).toList := by
      rw [toList_dottedQuery]
      exact List.mem_append_right _ (List.mem_flatMap.mpr ⟨name, hname, List.mem_cons_self⟩)
    intro hstar
    rw [hstar] at hdot
    exact absurd hdot (by decide)
  have hfilter : ¬ IsFilter (dottedQuery tag classes).toList := by
    rintro ⟨pre, name, body, hfilter⟩
    exact (hchar ':' (by simp [hfilter.text_eq])).2.2 (by simp)
  have hhash : '#' ∉ (dottedQuery tag classes).toList := fun hc => (hchar _ hc).2.2 (by simp)
  have hreads := Reads.classes (k := 0) hstar hfilter hcompound hhash hform
  rw [Alternative.parse, parseAt_of_isWord hword htail,
    parse_of_reads (unbroken_of_solid hword.solid) hreads]
  rfl

omit hne in
theorem parse_clauseQuery (htag : tag ≠ "") :
    Alternative.parse (clauseQuery tag classes) = .ok [.compound
      ⟨some tag, classes.map fun c => ⟨"class", .compare .includes c⟩⟩] := by
  have hparts : ∀ t ∈ classes.map classText, t.WellFormed ∧ ∀ c ∈ t.value, isBlank c = false := by
    intro t ht
    obtain ⟨name, hname, rfl⟩ := List.mem_map.mp ht
    exact (hclasses name hname).classText
  have hread : (classes.map classText).map ClauseText.clause =
      classes.map fun c => ⟨"class", .compare .includes c⟩ := by
    simp [classText, ClauseText.clause]
  have hname : nonempty? tag.toList = some tag := by simp [nonempty?, htag]
  rw [Alternative.parse, toList_clauseQuery,
    parseAt_clauseTexts (.inl (by simpa using htag)) hchars hparts, hread, hname]

end

theorem comma_not_mem_clauseQuery {tag : String} (hchars : ∀ c ∈ tag.toList, isTagChar c)
    {classes : List String} (hclasses : ∀ c ∈ classes, IsClassName c.toList) :
    ',' ∉ (clauseQuery tag classes).toList := by
  intro hcomma
  rw [toList_clauseQuery] at hcomma
  rcases List.mem_append.mp hcomma with hcomma | hcomma
  · exact absurd (hchars _ hcomma) (by decide)
  · obtain ⟨t, ht, hcomma⟩ := List.mem_flatMap.mp hcomma
    obtain ⟨name, hname, rfl⟩ := List.mem_map.mp ht
    have hplain : ',' ∉ name.toList := fun hmem => (hclasses name hname).plain _ hmem (by simp)
    simp [ClauseText.text, ClauseText.afterName, ClauseText.afterOp, classText, Comparison.symbol,
      hplain] at hcomma

/-- With a name and at least one class, each of which can stand in both queries, the two find the same
places in the same order, as often as each other: for every root, the elements of the name in its tree
that have all of the classes. -/
theorem select_classes_eq_clauses {e : Engine} (hw : e.walker = .document) {tag : String}
    (htag : tag ≠ "") (hchars : ∀ c ∈ tag.toList, isTagChar c) {classes : List String}
    (hne : classes ≠ []) (hclasses : ∀ c ∈ classes, IsClassName c.toList) (roots : List Place) :
    e.select roots (dottedQuery tag classes) = e.select roots (clauseQuery tag classes) ∧
      e.select roots (dottedQuery tag classes) = .ok (classElements tag classes roots) := by
  have hdotted : e.select roots (dottedQuery tag classes) = .ok (classElements tag classes roots) := by
    have hcomma : ',' ∉ (dottedQuery tag classes).toList := fun hc =>
      (ordinary_of_mem_dottedQuery hchars hclasses hc).2.2 (by simp)
    rw [Engine.select, Scope.select_of_parse hcomma (parse_dottedQuery hchars hclasses hne htag),
      Scope.selectAlternative_of_classes hw, ClassList.search_eq]
    simp only [ClassList.accepts, hasClasses_eq_all hne, classElements]
  have hclauses : e.select roots (clauseQuery tag classes) = .ok (classElements tag classes roots) := by
    have hcomma := comma_not_mem_clauseQuery hchars hclasses
    rw [Engine.select, Scope.select_of_parse hcomma (parse_clauseQuery hchars hclasses htag),
      Scope.selectAlternative_of_compound hw, Compound.search_eq (.inl rfl)]
    simp only [Compound.accepts, List.all_map, Function.comp_def, accepts_includes, classElements]
  exact ⟨hdotted.trans hclauses.symm, hdotted⟩

/-- A paragraph with two others in it, and the last of these again. -/
def nestedParagraphs : List Place :=
  let outer := ((Node.tag "p").withAttribute "class" "b-1\u00a0a").withChildren
    [(Node.tag "p").withAttribute "class" "a b", (Node.tag "p").withAttribute "class" " b-1\ta c"]
  Place.inclusive ⟨0, outer⟩ |>.filter (·.number ≠ 1)

/-- A class is asked for twice, and other blanks than spaces stand between the words of the
attributes. -/
theorem select_classes_eq_clauses_nested :
    (Engine.withOptions {}).walker = .document ∧ (∀ c ∈ "p".toList, isTagChar c) ∧
      (∀ c ∈ ["a", "b-1", "a"], IsClassName c.toList) ∧
      dottedQuery "p" ["a", "b-1", "a"] = "p.a.b-1.a" ∧
      clauseQuery "p" ["a", "b-1", "a"] = "p[class~='a'][class~='b-1'][class~='a']" ∧
      (Engine.withOptions {}).select nestedParagraphs "p.a.b-1.a" =
        (Engine.withOptions {}).select nestedParagraphs "p[class~='a'][class~='b-1'][class~='a']" ∧
      ((Engine.withOptions {}).select nestedParagraphs "p.a.b-1.a").map (·.map Place.number) =
        .ok [0, 2, 2] := by
  have hchars : ∀ c ∈ "p".toList, isTagChar c := List.all_eq_true.mp rfl
  have hclasses : ∀ c ∈ ["a", "b-1", "a"], IsClassName c.toList := by
    simp only [List.forall_mem_cons]
    refine ⟨?_, ?_, ?_, by simp⟩ <;> constructor <;> simp [isBlank]
  have hdotted : dottedQuery "p" ["a", "b-1", "a"] = "p.a.b-1.a" := by decide +kernel
  have hclauses : clauseQuery "p" ["a", "b-1", "a"] = "p[class~='a'][class~='b-1'][class~='a']" := by
    decide +kernel
  obtain ⟨hsame, hfound⟩ := select_classes_eq_clauses (e := .withOptions {}) rfl (by decide) hchars
    (by decide) hclasses nestedParagraphs
  rw [hdotted, hclauses] at hsame
  rw [hdotted] at hfound
  refine ⟨rfl, hchars, hclasses, hdotted, hclauses, hsame, ?_⟩
  rw [hfound, Outcome.map_ok]
  decide +kernel

end MarkupQuery
