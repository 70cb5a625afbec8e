import MarkupQuery.Proofs.Grammar
import MarkupQuery.Proofs.Pieces

/-! How a token reads. `Reads` gives every text the reading of the first form that it has, and with
it the error of a preselector or of an argument in its turn. The parser gives exactly this reading
of every text without a line break. -/

namespace MarkupQuery

open Grammar

/-- What stands before a filter's colon is nothing or an alternative. -/
def readPreselector (pre : List Char) (k : Nat) : Except ParseError (Option Alternative) :=
  if pre = [] then .ok none else (Alternative.parseAt pre k).map some

def IsFilter (text : List Char) : Prop := ∃ pre name body, FilterForm text pre name body

/-- The reading of a text of the filter form that begins at byte `k`. -/
inductive ReadsFilter : List Char → Nat → Except ParseError FilterCall → Prop where
  | plain {text pre name : List Char} {body : Option (List Char)} {k : Nat} :
      FilterForm text pre name body → ¬ IsFilter (argumentOf pre name body).text →
      ReadsFilter text k ((readPreselector pre k).map fun preselector =>
        { preselector, name := .ofList name, argument := nonempty? (argumentOf pre name body).text })
  | chained {text pre name : List Char} {body : Option (List Char)} {k : Nat}
      {r : Except ParseError FilterCall} :
      FilterForm text pre name body →
      ReadsFilter (argumentOf pre name body).text (k + (argumentOf pre name body).start) r →
      ReadsFilter text k do
        let preselector ← readPreselector pre k
        let next ← r
        return { preselector, name := .ofList name,
                 argument := nonempty? (argumentOf pre name body).text, next := some next }

/-- The reading of a token that begins at byte `k`, by the first form that its text has. -/
inductive Reads : List Char → Nat → Except ParseError Token → Prop where
  | universal {k : Nat} : Reads ['*'] k (.ok .universal)
  | filter {text : List Char} {k : Nat} {r : Except ParseError FilterCall} :
      text ≠ ['*'] → ReadsFilter text k r → Reads text k (r.map .filter)
  | compound {text : List Char} {k : Nat} {c : Compound} :
      text ≠ ['*'] → ¬ IsFilter text → CompoundForm text c → Reads text k (.ok (.compound c))
  | id {text value : List Char} {k : Nat} :
      text ≠ ['*'] → ¬ IsFilter text → (¬ ∃ c, CompoundForm text c) → IdForm text value →
      Reads text k (.ok (.id (.ofList value)))
  | classes {text : List Char} {k : Nat} {c : ClassList} :
      text ≠ ['*'] → ¬ IsFilter text → (¬ ∃ c, CompoundForm text c) → '#' ∉ text →
      ClassForm text c → Reads text k (.ok (.classes c))
  | unrecognized {text : List Char} {k : Nat} :
      text ≠ ['*'] → ¬ IsFilter text → (¬ ∃ c, CompoundForm text c) → '#' ∉ text → '.' ∉ text →
      Reads text k (.ok (.unrecognized (.ofList text)))

theorem parse?_of_no_colon {text : List Char} (h : ':' ∉ text) (k : Nat) :
    FilterCall.parse? text k = none := by
  rw [FilterCall.parse?]
  split
  · rfl
  · rename_i p hp
    obtain ⟨rest, htext, -⟩ := filterParts?_eq_some_iff.mp hp
    exact absurd (by simp [htext]) h

/-- Where no colon is, all tokens are plain. -/
theorem parseAt_of_preselector {pre : List Char} (hpre : ∀ c ∈ pre, isPreselectorChar c) (k : Nat) :
    Alternative.parseAt pre k = (pieces pre k).map fun ps => ps.map fun p => plainToken p.text := by
  unfold Alternative.parseAt
  cases hps : pieces pre k with
  | error e => rfl
  | ok ps =>
    have htokens : ∀ p ∈ ps, Token.parse p.text p.span.start = .ok (plainToken p.text) := by
      intro p hp
      have hcolon : ':' ∉ p.text := by
        intro hc
        rcases mem_of_mem_piece hps hp hc with hmem | h
        · exact absurd (hpre _ hmem) (by decide)
        · cases h
      rw [Token.parse, parse?_of_no_colon hcolon]
    rw [Outcome.ok_bind, Outcome.mapM_of_forall_ok htokens]
    rfl

/-- The tokens of a preselector are read like those of any alternative. -/
theorem parsePreselector_eq {pre : List Char} (hpre : ∀ c ∈ pre, isPreselectorChar c) (k : Nat) :
    FilterCall.parsePreselector pre k = readPreselector pre k := by
  rw [FilterCall.parsePreselector, readPreselector, parseAt_of_preselector hpre]
  cases pieces pre k <;> rfl

/-- A filter is read in three steps: its parts, the argument once more, and the preselector, whose
error comes first. -/
theorem parse?_eq (text : List Char) (k : Nat) :
    FilterCall.parse? text k = (filterParts? text).map fun p =>
      match FilterCall.parse? p.argument.text (k + p.argument.start) with
      | none => (readPreselector p.preselector k).map fun preselector =>
          { preselector, name := .ofList p.name, argument := nonempty? p.argument.text }
      | some next => do
          let preselector ← readPreselector p.preselector k
          let next ← next
          return { preselector, name := .ofList p.name, argument := nonempty? p.argument.text,
                   next := some next } := by
  rw [FilterCall.parse?]
  split
  · rename_i hp
    rw [hp]
    rfl
  · rename_i p hp
    obtain ⟨_, -, hpre, -⟩ := filterParts?_eq_some_iff.mp hp
    rw [hp, parsePreselector_eq hpre, Option.map_some]
    by_cases harg : p.argument.text = []
    · rw [harg, parse?_of_no_colon (by simp)]
      cases readPreselector p.preselector k <;> simp [nonempty?]
    · cases FilterCall.parse? p.argument.text (k + p.argument.start) <;>
        cases readPreselector p.preselector k <;> simp [nonempty?, harg]

variable {text : List Char}

/-- What was read, in its parts. -/
theorem parse?_eq_ok {k : Nat} {f : FilterCall} (h : FilterCall.parse? text k = some (.ok f)) :
    ∃ p, filterParts? text = some p ∧ readPreselector p.preselector k = .ok f.preselector ∧
      f.name = .ofList p.name ∧ f.argument = nonempty? p.argument.text ∧
      ∀ g ∈ f.next, FilterCall.parse? p.argument.text (k + p.argument.start) = some (.ok g) := by
  rw [parse?_eq] at h
  obtain ⟨p, hp, hr⟩ := Option.map_eq_some_iff.mp h
  refine ⟨p, hp, ?_⟩
  cases hnext : FilterCall.parse? p.argument.text (k + p.argument.start) with
  | none =>
    rw [hnext] at hr
    obtain ⟨preselector, hpre, rfl⟩ := Outcome.map_eq_ok_iff.mp hr
    exact ⟨hpre, rfl, rfl, by simp⟩
  | some next =>
    rw [hnext] at hr
    obtain ⟨preselector, hpre, hr⟩ := Outcome.bind_eq_ok_iff.mp hr
    obtain ⟨g, rfl, hr⟩ := Outcome.bind_eq_ok_iff.mp hr
    cases hr
    exact ⟨hpre, rfl, rfl, by simp⟩

/-- What was refused: the preselector, or else the argument. -/
theorem parse?_eq_error_iff {k : Nat} {e : ParseError} :
    FilterCall.parse? text k = some (.error e) ↔
      ∃ p, filterParts? text = some p ∧ (readPreselector p.preselector k = .error e ∨
        (∃ x, readPreselector p.preselector k = .ok x) ∧
          FilterCall.parse? p.argument.text (k + p.argument.start) = some (.error e)) := by
  rw [parse?_eq, Option.map_eq_some_iff]
  refine exists_congr fun p => and_congr_right fun _ => ?_
  cases FilterCall.parse? p.argument.text (k + p.argument.start) with
  | none => cases readPreselector p.preselector k <;> simp
  | some next => cases readPreselector p.preselector k <;> cases next <;> simp

theorem Grammar.FilterForm.filterParts?_eq {pre name : List Char} {body : Option (List Char)}
    (h : FilterForm text pre name body) (hb : ∀ c ∈ text, isLineBreak c = false) :
    filterParts? text = some ⟨pre, name, argumentOf pre name body⟩ :=
  (filterParts?_eq_some_iff_form hb).mpr ⟨body, h, rfl⟩

theorem parse?_eq_none_iff (hb : ∀ c ∈ text, isLineBreak c = false) {k : Nat} :
    FilterCall.parse? text k = none ↔ ¬ IsFilter text := by
  rw [parse?_eq, Option.map_eq_none_iff, Option.eq_none_iff_forall_ne_some]
  constructor
  · rintro h ⟨pre, name, body, hform⟩
    exact h _ (hform.filterParts?_eq hb)
  · intro h p hp
    obtain ⟨body, hform, -⟩ := (filterParts?_eq_some_iff_form hb).mp hp
    exact h ⟨_, _, body, hform⟩

theorem Grammar.FilterForm.argument_unbroken {pre name : List Char} {body : Option (List Char)}
    (h : FilterForm text pre name body) (hb : ∀ c ∈ text, isLineBreak c = false) :
    ∀ c ∈ (argumentOf pre name body).text, isLineBreak c = false := by
  intro c hc
  cases body with
  | none => cases hc
  | some b =>
    have hmem : c ∈ b := mem_of_mem_unquoted hc
    exact hb c (by simp [h.text_eq, hmem])

theorem parse?_eq_some_iff (hb : ∀ c ∈ text, isLineBreak c = false) {k : Nat}
    {r : Except ParseError FilterCall} :
    FilterCall.parse? text k = some r ↔ ReadsFilter text k r := by
  induction h : text.length using Nat.strongRecOn generalizing text k r with
  | _ n ih =>
    subst h
    constructor
    · intro hr
      rw [parse?_eq] at hr
      obtain ⟨p, hp, rfl⟩ := Option.map_eq_some_iff.mp hr
      have hlen := length_argument_lt hp
      obtain ⟨body, hform, harg⟩ := (filterParts?_eq_some_iff_form hb).mp hp
      obtain ⟨pre, name, _⟩ := p
      dsimp only at hform harg hlen ⊢
      subst harg
      have hb' := hform.argument_unbroken hb
      cases hnext : FilterCall.parse? (argumentOf pre name body).text
          (k + (argumentOf pre name body).start) with
      | none => exact .plain hform ((parse?_eq_none_iff hb').mp hnext)
      | some next => exact .chained hform ((ih _ hlen hb' rfl).mp hnext)
    · intro hr
      cases hr with
      | plain hform hno =>
        rw [parse?_eq, hform.filterParts?_eq hb, Option.map_some]
        simp only [(parse?_eq_none_iff (hform.argument_unbroken hb)).mpr hno]
      | chained hform hnext =>
        have hparts := hform.filterParts?_eq hb
        have hlen := length_argument_lt hparts
        rw [parse?_eq, hparts, Option.map_some]
        simp only [(ih _ hlen (hform.argument_unbroken hb) rfl).mpr hnext]

theorem parse_of_not_isFilter (hb : ∀ c ∈ text, isLineBreak c = false) (h : ¬ IsFilter text)
    (k : Nat) : Token.parse text k = .ok (plainToken text) := by
  rw [Token.parse, (parse?_eq_none_iff hb).mpr h]

theorem reads_parse (hb : ∀ c ∈ text, isLineBreak c = false) (k : Nat) :
    Reads text k (Token.parse text k) := by
  by_cases hstar : text = ['*']
  · subst hstar
    rw [Token.parse, parse?_of_no_colon (by decide)]
    exact .universal
  cases hcall : FilterCall.parse? text k with
  | some call =>
    rw [Token.parse, hcall]
    exact .filter hstar ((parse?_eq_some_iff hb).mp hcall)
  | none =>
    have hfilter := (parse?_eq_none_iff hb).mp hcall
    rw [parse_of_not_isFilter hb hfilter, plainToken, if_neg hstar]
    cases hcompound : compound? text with
    | some c => exact .compound hstar hfilter (compound?_eq_some_iff.mp hcompound)
    | none =>
      have hno := compound?_eq_none_iff.mp hcompound
      cases hid : id? text with
      | some value => exact .id hstar hfilter hno (id?_eq_some_iff.mp hid)
      | none =>
        have hhash := id?_eq_none_iff.mp hid
        cases hclasses : classes? text with
        | some c => exact .classes hstar hfilter hno hhash (classes?_eq_some_iff.mp hclasses)
        | none => exact .unrecognized hstar hfilter hno hhash (classes?_eq_none_iff.mp hclasses)

theorem parse_of_reads (hb : ∀ c ∈ text, isLineBreak c = false) {k : Nat}
    {r : Except ParseError Token} (h : Reads text k r) : Token.parse text k = r := by
  cases h with
  | universal =>
    rw [Token.parse, parse?_of_no_colon (by decide)]
    rfl
  | filter hstar hr => rw [Token.parse, (parse?_eq_some_iff hb).mpr hr]
  | compound hstar hfilter hc =>
    rw [parse_of_not_isFilter hb hfilter, plainToken, if_neg hstar, compound?_eq_some_iff.mpr hc]
  | id hstar hfilter hno hid =>
    rw [parse_of_not_isFilter hb hfilter, plainToken, if_neg hstar, compound?_eq_none_iff.mpr hno,
      id?_eq_some_iff.mpr hid]
  | classes hstar hfilter hno hhash hc =>
    rw [parse_of_not_isFilter hb hfilter, plainToken, if_neg hstar, compound?_eq_none_iff.mpr hno,
      id?_eq_none_iff.mpr hhash, classes?_eq_some_iff.mpr hc]
  | unrecognized hstar hfilter hno hhash hdot =>
    rw [parse_of_not_isFilter hb hfilter, plainToken, if_neg hstar, compound?_eq_none_iff.mpr hno,
      id?_eq_none_iff.mpr hhash, classes?_eq_none_iff.mpr hdot]

/-- Nothing but the use of a filter is refused. -/
theorem Token.parse_eq_error_iff {k : Nat} {e : ParseError} :
    Token.parse text k = .error e ↔ FilterCall.parse? text k = some (.error e) := by
  unfold Token.parse
  cases FilterCall.parse? text k with
  | none => simp
  | some call => simp [Outcome.map_eq_error_iff]

theorem Alternative.mem_parseAt {k : Nat} {ts : Alternative} (h : Alternative.parseAt text k = .ok ts)
    {t : Token} (ht : t ∈ ts) :
    ∃ ps, pieces text k = .ok ps ∧ ∃ p ∈ ps, Token.parse p.text p.span.start = .ok t := by
  obtain ⟨ps, hps, hmap⟩ := Outcome.bind_eq_ok_iff.mp h
  exact ⟨ps, hps, Outcome.mem_of_mapM_eq_ok hmap ht⟩

/-- The parser gives every token without a line break its reading. -/
theorem parse_eq_iff_reads (hb : ∀ c ∈ text, isLineBreak c = false) {k : Nat}
    {r : Except ParseError Token} : Token.parse text k = r ↔ Reads text k r :=
  ⟨fun h => h ▸ reads_parse hb k, parse_of_reads hb⟩

/-- A quoted argument that is itself the use of a filter. -/
theorem parse_eq_iff_reads_quoted :
    (∀ c ∈ "p:not(':eq(2)')".toList, isLineBreak c = false) ∧
      Reads "p:not(':eq(2)')".toList 0 (.ok (.filter
        { preselector := some [.compound { tag := some "p" }], name := "not",
          argument := some ":eq(2)", next := some { name := "eq", argument := some "2" } })) :=
  have hb : ∀ c ∈ "p:not(':eq(2)')".toList, isLineBreak c = false := by simp [isLineBreak]
  ⟨hb, (parse_eq_iff_reads hb).mp (by with_unfolding_all rfl)⟩

end MarkupQuery
