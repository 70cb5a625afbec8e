import MarkupQuery.Engine.Basic
import MarkupQuery.Proofs.Reading
import MarkupQuery.Proofs.Uses

/-! Where the names of filters come from. A selector uses only filters whose names stand in its text
after a colon, and what it reads as their arguments stands there too, up to the blanks between
words. So a text that does not mention a name has no argument that does, and as every argument is
shorter than the text, a filter selects by its own argument as if it were not limited. -/

namespace MarkupQuery

open Grammar

/-- The first text is no longer than the second, which has every stretch of it without a blank. -/
structure Within (a text : List Char) : Prop where
  length_le : a.length ≤ text.length
  stretch : ∀ w, (∀ c ∈ w, isBlank c = false) → w <:+: a → w <:+: text

/-- The name has no blank and stands in the text after a colon. -/
def Mentions (text : List Char) (name : String) : Prop :=
  (∀ c ∈ name.toList, isBlank c = false) ∧ ':' :: name.toList <:+: text

theorem Within.of_part {a text : List Char} (h : a <:+: text) : Within a text :=
  ⟨h.length_le, fun _ _ hw => hw.trans h⟩

theorem Within.trans {a b text : List Char} (hab : Within a b) (hb : Within b text) : Within a text :=
  ⟨Nat.le_trans hab.length_le hb.length_le, fun w hw h => hb.stretch w hw (hab.stretch w hw h)⟩

theorem Within.mentions {a text : List Char} {name : String} (h : Within a text)
    (hname : Mentions a name) : Mentions text name :=
  ⟨hname.1, h.stretch _ (List.forall_mem_cons.mpr ⟨rfl, hname.1⟩) hname.2⟩

/-- A stretch without a blank lies on one side of every blank. -/
theorem infix_of_infix_append_blank {w a b : List Char} {c : Char} (hc : isBlank c)
    (hw : ∀ d ∈ w, isBlank d = false) (h : w <:+: a ++ c :: b) : w <:+: a ∨ w <:+: b := by
  have hcw : c ∉ w := fun hmem => by simp [hw c hmem] at hc
  obtain ⟨s, t, hst⟩ := h
  rcases List.append_eq_append_iff.mp hst with ⟨r, rfl, -⟩ | ⟨r, hsw, hrest⟩
  · exact .inl ⟨s, r, rfl⟩
  -- the stretch ends after the blank, so it begins after it
  rcases List.append_eq_append_iff.mp hsw with ⟨r', rfl, rfl⟩ | ⟨r', rfl, rfl⟩
  · cases r with
    | nil => exact .inl ⟨s, [], by simp⟩
    | cons d r =>
      obtain ⟨rfl, -⟩ := List.cons.inj hrest
      exact absurd (by simp) hcw
  · cases r' with
    | nil =>
      cases w with
      | nil => exact .inl List.nil_infix
      | cons d w =>
        obtain ⟨rfl, -⟩ := List.cons.inj hrest
        exact absurd (by simp) hcw
    | cons d r' =>
      obtain ⟨-, rfl⟩ := List.cons.inj hrest
      exact .inr ⟨r', t, by simp⟩

/-- A stretch of a joined text without a blank stands in every text that has the words. -/
theorem infix_of_infix_joined {w v text : List Char} {ts : List Slice}
    (hw : ∀ c ∈ w, isBlank c = false) (h : w <:+: joined v ts) (hv : v <:+: text)
    (hts : ∀ t ∈ ts, t.text <:+: text) : w <:+: text := by
  induction ts generalizing v with
  | nil =>
    rw [joined_nil] at h
    exact h.trans hv
  | cons t ts ih =>
    obtain ⟨ht, hts⟩ := List.forall_mem_cons.mp hts
    have hjoin : joined v (t :: ts) = v ++ ' ' :: joined t.text ts := by simp [joined]
    rw [hjoin] at h
    rcases infix_of_infix_append_blank rfl hw h with h | h
    · exact h.trans hv
    · exact ih h ht hts

theorem within_of_pieces {text : List Char} {k : Nat} {ps : List Piece} {p : Piece}
    (h : pieces text k = .ok ps) (hp : p ∈ ps) : Within p.text text := by
  refine ⟨length_piece_le h hp, fun v hv hin => ?_⟩
  obtain ⟨us, w, ts, vs, hws, -, -, rfl⟩ := (grouped_of_pieces h).mem hp
  have hwords : ∀ v ∈ us ++ w :: (ts ++ vs), v.text <:+: text := by
    intro v hv
    rw [← hws] at hv
    exact (isWord_of_mem hv).2
  exact infix_of_infix_joined hv hin (hwords w (by simp)) fun t ht => hwords t (by simp [ht])

theorem infix_of_mem_splitCommas {text : List Char} {k : Nat} {s : Slice} (h : s ∈ splitCommasFrom k text) :
    s.text <:+: text := by
  obtain ⟨before, after, rfl, -⟩ := mem_splitCommasFrom h
  exact ⟨before, after, rfl⟩

theorem isBlank_of_isNameChar {c : Char} (h : isNameChar c) : isBlank c = false := by
  have hn : (97 ≤ c.toNat ∧ c.toNat ≤ 122) ∨ (48 ≤ c.toNat ∧ c.toNat ≤ 57) ∨ c.toNat = 95 ∨
      c.toNat = 45 := by
    have hlower : c.isLower = (c.val ≥ 97 && c.val ≤ 122) := rfl
    simp only [isNameChar, isTagChar, hlower, Char.isDigit, Bool.or_eq_true, Bool.and_eq_true,
      decide_eq_true_eq, beq_iff_eq, ge_iff_le, UInt32.le_iff_toNat_le] at h
    rcases h with ((h | h) | rfl) | rfl
    · exact .inl h
    · exact .inr (.inl h)
    · exact .inr (.inr (.inl rfl))
    · exact .inr (.inr (.inr rfl))
  simp only [isBlank, Bool.or_eq_false_iff, Bool.and_eq_false_iff, decide_eq_false_iff_not,
    beq_eq_false_iff_ne]
  omega

theorem infix_of_filterParts? {text : List Char} {p : FilterParts} (h : filterParts? text = some p) :
    ':' :: p.name <:+: text ∧ p.argument.text <:+: text := by
  obtain ⟨rest, htext, -, -, -, harg⟩ := filterParts?_eq_some_iff.mp h
  refine ⟨⟨p.preselector, rest, by simp [htext]⟩, ?_⟩
  rcases harg with ⟨-, harg⟩ | harg
  · rw [harg]
    exact List.nil_infix
  · obtain ⟨q, q', -, -, rfl, -⟩ := argument?_eq_some harg
    exact ⟨p.preselector ++ ':' :: (p.name ++ '(' :: q.toList), q'.toList ++ [')'], by simp [htext]⟩

theorem uses_plainToken (text : List Char) : (plainToken text).uses = [] := by
  unfold plainToken
  split
  · rfl
  · split
    · rfl
    · split
      · rfl
      · split <;> rfl

/-- A preselector uses no filters. -/
theorem uses_of_parseAt_preselector {pre : List Char} (hpre : ∀ c ∈ pre, isPreselectorChar c) {k : Nat}
    {ts : Alternative} (h : Alternative.parseAt pre k = .ok ts) : Alternative.uses ts = [] := by
  rw [parseAt_of_preselector hpre] at h
  obtain ⟨ps, -, rfl⟩ := Outcome.map_eq_ok_iff.mp h
  rw [List.eq_nil_iff_forall_not_mem]
  intro u hu
  obtain ⟨t, ht, hu⟩ := Alternative.mem_uses.mp hu
  obtain ⟨p, -, rfl⟩ := List.mem_map.mp ht
  rw [uses_plainToken] at hu
  cases hu

theorem uses_of_readPreselector {pre : List Char} (hpre : ∀ c ∈ pre, isPreselectorChar c) {k : Nat}
    {x : Option Alternative} (h : readPreselector pre k = .ok x) :
    ∀ ts ∈ x, Alternative.uses ts = [] := by
  intro ts hts
  unfold readPreselector at h
  split at h
  · cases h
    cases hts
  · obtain ⟨ts', hpre', rfl⟩ := Outcome.map_eq_ok_iff.mp h
    obtain rfl := Option.mem_some_iff.mp hts
    exact uses_of_parseAt_preselector hpre hpre'

/-- The text mentions the filter, and has its argument up to blanks, besides other characters. -/
structure Names (text : List Char) (u : FilterUse) : Prop where
  name : Mentions text u.name
  argument : ∀ a ∈ u.argument, Within a.toList text
  shorter : ∀ a ∈ u.argument, a.toList.length < text.length

theorem Names.mono {a text : List Char} {u : FilterUse} (h : Names a u) (ha : Within a text) :
    Names text u :=
  ⟨ha.mentions h.name, fun b hb => (h.argument b hb).trans ha,
    fun b hb => Nat.lt_of_lt_of_le (h.shorter b hb) ha.length_le⟩

/-- The filter's name stands in the text of the token, and so does the argument, in which the next
filter is read. -/
theorem names_of_parse? {text : List Char} {k : Nat} {f : FilterCall}
    (h : FilterCall.parse? text k = some (.ok f)) : ∀ u ∈ f.uses, Names text u := by
  induction hn : text.length using Nat.strongRecOn generalizing text k f with
  | _ n ih =>
    subst hn
    intro u hu
    obtain ⟨p, hp, hpre, hname, harg, hnext⟩ := parse?_eq_ok h
    obtain ⟨_, -, hchars, -, hnamechars, -⟩ := filterParts?_eq_some_iff.mp hp
    obtain ⟨hnamein, hargin⟩ := infix_of_filterParts? hp
    rcases FilterCall.mem_uses.mp hu with ⟨ts, hts, hu⟩ | rfl | ⟨g, hg, hu⟩
    · rw [uses_of_readPreselector hchars hpre ts hts] at hu
      cases hu
    · have htext : ∀ a ∈ f.argument, a.toList = p.argument.text := by
        intro a ha
        rw [harg] at ha
        exact eq_of_mem_nonempty? ha
      refine ⟨⟨?_, ?_⟩, fun a ha => ?_, fun a ha => ?_⟩
      · simpa [hname] using fun c hc => isBlank_of_isNameChar (hnamechars c hc)
      · simpa [hname] using hnamein
      · rw [htext a ha]
        exact .of_part hargin
      · rw [htext a ha]
        exact length_argument_lt hp
    · exact (ih _ (length_argument_lt hp) (hnext g hg) rfl u hu).mono (.of_part hargin)

theorem names_of_parse {text : List Char} {k : Nat} {t : Token} (h : Token.parse text k = .ok t) :
    ∀ u ∈ t.uses, Names text u := by
  intro u hu
  unfold Token.parse at h
  split at h
  · rename_i call hcall
    obtain ⟨f, rfl, rfl⟩ := Outcome.map_eq_ok_iff.mp h
    rw [Token.uses] at hu
    exact names_of_parse? hcall u hu
  · cases h
    rw [uses_plainToken] at hu
    cases hu

theorem names_of_parseAt {text : List Char} {k : Nat} {ts : Alternative}
    (h : Alternative.parseAt text k = .ok ts) : ∀ u ∈ Alternative.uses ts, Names text u := by
  intro u hu
  obtain ⟨t, ht, hu⟩ := Alternative.mem_uses.mp hu
  obtain ⟨ps, hps, p, hp, htoken⟩ := Alternative.mem_parseAt h ht
  exact (names_of_parse htoken u hu).mono (within_of_pieces hps hp)

/-- A selector mentions all filters that it uses, and has all their arguments up to blanks. -/
theorem Selector.names_of_parse {query : String} {x : Selector} (h : Selector.parse query = .ok x) :
    ∀ u ∈ x.uses, Names query.toList u := by
  intro u hu
  obtain ⟨ts, hts, hu⟩ := List.mem_flatMap.mp hu
  obtain ⟨s, hs, hpart⟩ := Outcome.mem_of_mapM_eq_ok h hts
  exact (names_of_parseAt hpart u hu).mono (.of_part (infix_of_mem_splitCommas hs))

theorem Selector.argumentSize_lt {query : String} {x : Selector} (h : Selector.parse query = .ok x)
    {u : FilterUse} (hu : u ∈ x.uses) : argumentSize u.argument < argumentSize (some query) := by
  have hshorter := (Selector.names_of_parse h u hu).shorter
  cases harg : u.argument with
  | none => exact Nat.succ_pos _
  | some a =>
    rw [harg] at hshorter
    exact Nat.succ_lt_succ (hshorter a rfl)

/-- By its own argument a filter selects as if it were not limited. -/
theorem Scope.select_limit (s : Scope) (roots : List Place) (query : String) :
    (s.limit (argumentSize (some query))).select roots query = s.select roots query := by
  have hagree : ∀ x, Selector.parse query = .ok x →
      AgreeOn x.uses (s.limit (argumentSize (some query))) s :=
    fun x hx => ⟨rfl, fun u hu => if_pos (Selector.argumentSize_lt hx hu)⟩
  exact select_agree hagree roots

end MarkupQuery
