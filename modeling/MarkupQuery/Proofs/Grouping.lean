import MarkupQuery.Engine.Scope
import MarkupQuery.Proofs.Outcome
import MarkupQuery.Proofs.Traversal

/-! Which steps see groups. A search of a document finds the same whether it goes group by group or
over all places at once, so of the steps that change a context only a filter with a preselector
depends on its groups. -/

namespace MarkupQuery

open Walker

theorem Context.eq_ofPlaces {c d : Context} {ps qs : List Place} (hc : c = .ofPlaces ps)
    (hd : d = .ofPlaces qs) (h : c.places = d.places) : c = d := by
  subst hc hd
  rw [places_ofPlaces, places_ofPlaces] at h
  rw [h]

/-- What a compound finds in a document, from all places at once. -/
def Compound.search (x : Compound) (ps : List Place) : List Place :=
  x.clauses.foldl
    (fun ps clause =>
      collectMatching (.single (.attribute clause.name) clause.test.accepts) ps x.tag.isNone)
    (match x.tag with
      | some tag => collectMatching (.single .tagName (· == some tag)) ps true
      | none => ps)

/-- What classes find in a document, from all places at once. -/
def ClassList.search (x : ClassList) (ps : List Place) : List Place :=
  match x.tag with
  | some tag =>
    collectMatching (.single (.attribute "class") (hasClasses x.classes))
      (collectMatching (.single .tagName (· == some tag)) ps true) false
  | none => collectMatching (.single (.attribute "class") (hasClasses x.classes)) ps true

namespace Scope

variable {s : Scope}

/-- Clauses sift the places of a context, whatever its groups. -/
theorem places_foldl_clauses (deep : Bool) (clauses : List AttributeClause) (c : Context) :
    (clauses.foldl
      (fun c clause => Context.ofPlaces (c.groups.flatMap fun g => collectMatching
        (.single (.attribute clause.name) clause.test.accepts) g deep)) c).places =
    clauses.foldl
      (fun ps clause => collectMatching (.single (.attribute clause.name) clause.test.accepts) ps deep)
      c.places := by
  induction clauses generalizing c with
  | nil => rfl
  | cons clause clauses ih =>
    rw [List.foldl_cons, List.foldl_cons, ih, Context.places_ofPlaces, collectMatching_flatten]
    rfl

theorem places_findCompound (hw : s.walker = .document) (c : Context) (x : Compound) :
    (s.findCompound c x).places = x.search c.places := by
  unfold findCompound Compound.search
  rw [hw]
  refine (places_foldl_clauses _ _ _).trans ?_
  cases x.tag with
  | none => rfl
  | some tag =>
    rw [Context.places_ofPlaces]
    exact congrArg (List.foldl _ · x.clauses) (collectMatching_flatten _ _ _)

theorem places_findClasses (hw : s.walker = .document) (c : Context) (x : ClassList) :
    (s.findClasses c x).places = x.search c.places := by
  unfold findClasses ClassList.search
  rw [hw, Context.places_ofPlaces]
  cases x.tag with
  | none => exact collectMatching_flatten _ _ _
  | some tag =>
    refine (collectMatching_flatMap _ _ _ _).trans ?_
    exact congrArg (collectMatching _ · false) (collectMatching_flatten _ _ _)

theorem findId_eq (hw : s.walker = .document) (c : Context) (id : String) :
    s.findId c id =
      .ofPlaces ((c.places.flatMap Place.inclusive).find? (·.node.attribute? "id" = some id)).toList := by
  have hfirst : s.walker.findById id c.places true =
      (c.places.flatMap Place.inclusive).find? (·.node.attribute? "id" = some id) := by
    rw [hw]
    exact firstWithId_eq id c.places true
  rw [findId, hfirst]
  cases (c.places.flatMap Place.inclusive).find? (·.node.attribute? "id" = some id) <;> rfl

end Scope

/-- A filter with a preselector, which is evaluated on every group by itself. -/
def Token.SeesGroups : Token → Prop
  | .filter f => f.preselector.isSome
  | _ => False

/-- The first token that is not the universal one sees no groups. -/
def Alternative.StartsBlind : Alternative → Prop
  | [] => True
  | .universal :: ts => StartsBlind ts
  | t :: _ => ¬ t.SeesGroups

namespace Scope

variable {s : Scope} {c d : Context}

theorem findCompound_eq_ofPlaces {x : Compound} (hx : x ≠ {}) (c : Context) :
    ∃ ps, s.findCompound c x = .ofPlaces ps := by
  obtain ⟨tag, clauses⟩ := x
  rcases List.eq_nil_or_concat clauses with rfl | ⟨clauses, clause, rfl⟩
  · cases tag with
    | none => exact absurd rfl hx
    | some tag => exact ⟨_, rfl⟩
  · unfold findCompound
    rw [List.concat_eq_append, List.foldl_append]
    exact ⟨_, rfl⟩

/-- Where two contexts have the same places, a step that sees no groups makes them one. -/
theorem applyToken_congr (hw : s.walker = .document) (h : c.places = d.places) {t : Token}
    (hstar : t ≠ .universal) (hempty : t ≠ .compound {}) (ht : ¬ t.SeesGroups) :
    s.applyToken c t = s.applyToken d t := by
  cases t with
  | universal => exact absurd rfl hstar
  | compound x =>
    have hx : x ≠ {} := fun hx => hempty (congrArg _ hx)
    obtain ⟨ps, hps⟩ := findCompound_eq_ofPlaces (s := s) hx c
    obtain ⟨qs, hqs⟩ := findCompound_eq_ofPlaces (s := s) hx d
    rw [applyToken, applyToken]
    refine congrArg _ (Context.eq_ofPlaces hps hqs ?_)
    rw [places_findCompound hw, places_findCompound hw, h]
  | id value => rw [applyToken, applyToken, findId_eq hw, findId_eq hw, h]
  | classes x =>
    rw [applyToken, applyToken]
    refine congrArg _ (Context.eq_ofPlaces rfl rfl ?_)
    rw [places_findClasses hw, places_findClasses hw, h]
  | filter f =>
    obtain ⟨preselector, name, argument, next⟩ := f
    cases preselector with
    | none => rw [applyToken, applyToken, applyFilter, applyFilter, h]
    | some tokens => exact absurd rfl ht
  | unrecognized text => rw [applyToken, applyToken]

/-- What an alternative finds depends on groups only if its first effective token does. -/
theorem applyTokens_congr (hw : s.walker = .document) {ts : List Token} (h : c.places = d.places)
    (hblind : Alternative.StartsBlind ts) (hempty : .compound {} ∉ ts) :
    (s.applyTokens c ts).map Context.places = (s.applyTokens d ts).map Context.places := by
  induction ts with
  | nil =>
    rw [applyTokens, applyTokens]
    exact congrArg Except.ok h
  | cons t ts ih =>
    obtain ⟨hne, hrest⟩ := not_or.mp (mt List.mem_cons.mpr hempty)
    rw [applyTokens, applyTokens]
    by_cases hstar : t = .universal
    · subst hstar
      have hcd : c.isEmpty = d.isEmpty := by
        rw [Bool.eq_iff_iff, Context.isEmpty_iff, Context.isEmpty_iff, h]
      rw [applyToken, applyToken, Outcome.ok_bind, Outcome.ok_bind, hcd]
      split
      · rfl
      · exact ih hblind hrest
    · have ht : ¬ t.SeesGroups := by
        cases t <;> first | exact absurd rfl hstar | exact hblind
      rw [applyToken_congr hw h hstar (Ne.symm hne) ht]

/-- One list of tokens after another, where the first leaves something. -/
theorem applyTokens_append {ts us : List Token} (h : s.applyTokens c ts = .ok d)
    (hd : d.isEmpty = false) : s.applyTokens c (ts ++ us) = s.applyTokens d us := by
  induction ts generalizing c with
  | nil =>
    rw [applyTokens] at h
    cases h
    rfl
  | cons t ts ih =>
    rw [applyTokens] at h
    rw [List.cons_append, applyTokens]
    cases hc : s.applyToken c t with
    | error e => rw [hc] at h; cases h
    | ok c' =>
      rw [hc, Outcome.ok_bind] at h
      rw [Outcome.ok_bind]
      split at h
      · cases h
        cases hd
      · rename_i hc'
        rw [if_neg hc']
        exact ih h

/-- After a single token it makes no difference whether anything is left. -/
theorem selectAlternative_singleton (roots : List Place) (t : Token) :
    s.selectAlternative roots [t] = (s.applyToken (.single roots) t).map Context.places := by
  rw [selectAlternative, applyTokens]
  cases s.applyToken (.single roots) t with
  | error err => rfl
  | ok c =>
    rw [Outcome.ok_bind, applyTokens]
    split
    · rename_i hempty
      rw [Context.isEmpty_iff] at hempty
      exact congrArg Except.ok hempty.symm
    · rfl

theorem selectAlternative_of_compound (hw : s.walker = .document) (x : Compound)
    (roots : List Place) : s.selectAlternative roots [.compound x] = .ok (x.search roots) := by
  rw [selectAlternative_singleton, applyToken, Outcome.map_ok, places_findCompound hw,
    Context.places_single]

theorem selectAlternative_of_classes (hw : s.walker = .document) (x : ClassList)
    (roots : List Place) : s.selectAlternative roots [.classes x] = .ok (x.search roots) := by
  rw [selectAlternative_singleton, applyToken, Outcome.map_ok, places_findClasses hw,
    Context.places_single]

end Scope

end MarkupQuery
