import Mathlib.Data.Set.Card
import MarkupQuery.Engine.Basic
import MarkupQuery.Proofs.Grouping

/-! What an alternative without filters finds in a document. Every token narrows the list of places
that the tokens before it have left, and a place is found as often as there are chains of places
that lead to it from a root, one for each token. -/

namespace MarkupQuery

open Walker

/-- Whether the node is an element of that name, if one is asked for. -/
def Node.hasTag (n : Node) (tag : Option String) : Bool :=
  tag.all fun name => n.isElement && n.name == some name

namespace Compound

/-- No clause is passed by a node without the attribute. -/
def accepts (x : Compound) (n : Node) : Bool :=
  n.hasTag x.tag && x.clauses.all fun clause => clause.test.accepts (n.attribute? clause.name)

end Compound

namespace ClassList

def accepts (x : ClassList) (n : Node) : Bool :=
  n.hasTag x.tag && hasClasses x.classes (n.attribute? "class")

end ClassList

namespace Token

/-- The tokens without filters whose clauses are all tests of one node. -/
def IsPlain : Token → Prop
  | .compound x => x.tag.isSome ∨ x.clauses.length = 1
  | .filter _ => False
  | _ => True

def IsId : Token → Prop
  | .id _ => True
  | _ => False

/-- What a token leaves of a list of places and of all that is below them. -/
def narrow (t : Token) (ps : List Place) : List Place :=
  match t with
  | .universal => ps
  | .compound x => (ps.flatMap Place.inclusive).filter (x.accepts ·.node)
  | .classes x => (ps.flatMap Place.inclusive).filter (x.accepts ·.node)
  | .id value => ((ps.flatMap Place.inclusive).find? (·.node.attribute? "id" = some value)).toList
  | .filter _ => []
  | .unrecognized _ => []

/-- Whether a token leads from a place to another. -/
def Leads : Token → Place → Place → Prop
  | .universal, p, q => q = p
  | .compound x, p, q => q ∈ p.inclusive ∧ x.accepts q.node
  | .classes x, p, q => q ∈ p.inclusive ∧ x.accepts q.node
  | _, _, _ => False

end Token

/-- What an alternative leaves of a list of places. -/
def Alternative.narrow (x : Alternative) (ps : List Place) : List Place :=
  x.foldl (fun ps t => t.narrow ps) ps

/-- The places that the tokens lead to in turn, from one place to the last. -/
inductive Chain : Place → List Token → List Place → Place → Prop where
  | nil {p : Place} : Chain p [] [] p
  | cons {p q r : Place} {t : Token} {ts : List Token} {ps : List Place} :
      t.Leads p q → Chain q ts ps r → Chain p (t :: ts) (q :: ps) r

/-! The searches of the document, as filters by the tests of a token. -/

theorem collectMatching_tag (tag : String) (ps : List Place) :
    collectMatching (.single .tagName (· == some tag)) ps true =
      (ps.flatMap Place.inclusive).filter (·.node.hasTag (some tag)) := by
  rw [collectMatching_eq]
  simp [PredicateMap.single, PredicateMap.accepts, PredicateKey.accepts, Node.hasTag, Place.reached]

theorem foldl_filter_clauses (clauses : List AttributeClause) (ps : List Place) :
    clauses.foldl
      (fun ps clause => collectMatching (.single (.attribute clause.name) clause.test.accepts) ps false)
      ps = ps.filter fun p =>
        clauses.all fun clause => clause.test.accepts (p.node.attribute? clause.name) := by
  induction clauses generalizing ps with
  | nil => simp
  | cons clause clauses ih =>
    rw [List.foldl_cons, ih, collectMatching_attribute clause.test.accepts_none]
    simp [Place.reached, List.filter_filter, Bool.and_comm]

/-- A tag is searched for below, and the clauses sift what was found; a single clause without a tag
is searched for itself. -/
theorem Compound.search_eq {x : Compound} (hx : x.tag.isSome ∨ x.clauses.length = 1)
    (ps : List Place) : x.search ps = (ps.flatMap Place.inclusive).filter (x.accepts ·.node) := by
  obtain ⟨tag, clauses⟩ := x
  unfold search
  cases tag with
  | some tag =>
    refine (foldl_filter_clauses clauses _).trans ?_
    dsimp only
    rw [collectMatching_tag, List.filter_filter]
    simp only [accepts, Bool.and_comm]
  | none =>
    obtain ⟨clause, rfl⟩ := List.length_eq_one_iff.mp (hx.resolve_left (by simp))
    refine (collectMatching_attribute clause.test.accepts_none _ _ _).trans ?_
    simp [accepts, Node.hasTag, Place.reached]

theorem ClassList.search_eq (x : ClassList) (ps : List Place) :
    x.search ps = (ps.flatMap Place.inclusive).filter (x.accepts ·.node) := by
  have hnone : hasClasses x.classes none = false := rfl
  obtain ⟨tag, classes⟩ := x
  unfold search
  cases tag with
  | some tag =>
    dsimp only
    rw [collectMatching_attribute hnone, collectMatching_tag]
    simp [Place.reached, accepts, List.filter_filter, Bool.and_comm]
  | none =>
    dsimp only
    rw [collectMatching_attribute hnone]
    simp [Place.reached, accepts, Node.hasTag]

namespace Scope

variable {s : Scope}

/-- One token leaves the places that its test accepts. -/
theorem applyToken_plain (hw : s.walker = .document) {t : Token} (ht : t.IsPlain) (c : Context) :
    ∃ d, s.applyToken c t = .ok d ∧ d.places = t.narrow c.places := by
  cases t with
  | universal => exact ⟨c, by rw [applyToken], rfl⟩
  | compound x =>
    refine ⟨_, by rw [applyToken], ?_⟩
    rw [places_findCompound hw]
    exact Compound.search_eq ht c.places
  | id value =>
    refine ⟨_, by rw [applyToken], ?_⟩
    rw [findId_eq hw, Context.places_ofPlaces]
    rfl
  | classes x =>
    refine ⟨_, by rw [applyToken], ?_⟩
    rw [places_findClasses hw]
    exact x.search_eq c.places
  | filter f => exact absurd ht id
  | unrecognized text => exact ⟨{}, by rw [applyToken], rfl⟩

theorem narrow_nil (x : Alternative) : x.narrow [] = [] := by
  induction x with
  | nil => rfl
  | cons t ts ih =>
    have ht : t.narrow [] = [] := by cases t <;> rfl
    exact (congrArg (Alternative.narrow ts) ht).trans ih

theorem applyTokens_plain (hw : s.walker = .document) {ts : List Token} (ht : ∀ t ∈ ts, t.IsPlain)
    (c : Context) :
    ∃ d, s.applyTokens c ts = .ok d ∧ d.places = Alternative.narrow ts c.places := by
  induction ts generalizing c with
  | nil => exact ⟨c, by rw [applyTokens], rfl⟩
  | cons t ts ih =>
    obtain ⟨ht, hts⟩ := List.forall_mem_cons.mp ht
    obtain ⟨d, hd, hplaces⟩ := applyToken_plain hw ht c
    rw [applyTokens, hd, Outcome.ok_bind]
    by_cases hempty : d.isEmpty
    · rw [if_pos hempty]
      rw [Context.isEmpty_iff] at hempty
      refine ⟨{}, rfl, ?_⟩
      rw [Alternative.narrow, List.foldl_cons, ← hplaces, hempty]
      exact (narrow_nil ts).symm
    · rw [if_neg hempty]
      obtain ⟨d', hd', hplaces'⟩ := ih hts d
      exact ⟨d', hd', by rw [hplaces', hplaces]; rfl⟩

end Scope

/-! Without ids a token narrows every place by itself, and chains can be counted. -/

namespace Token

variable {t : Token}

theorem mem_narrow_singleton (ht : ¬ t.IsId) {p q : Place} : q ∈ t.narrow [p] ↔ t.Leads p q := by
  cases t with
  | id value => exact absurd trivial ht
  | _ => simp [narrow, Leads]

theorem nodup_narrow_singleton (ht : ¬ t.IsId) (p : Place) : (t.narrow [p]).Nodup := by
  have hfilter (f : Place → Bool) : (([p].flatMap Place.inclusive).filter f).Nodup := by
    rw [List.flatMap_singleton]
    exact p.nodup_inclusive.filter f
  cases t with
  | universal => exact List.nodup_singleton p
  | compound x => exact hfilter _
  | classes x => exact hfilter _
  | id value => exact absurd trivial ht
  | filter f => exact List.nodup_nil
  | unrecognized text => exact List.nodup_nil

theorem narrow_eq_flatMap (ht : ¬ t.IsId) (ps : List Place) :
    t.narrow ps = ps.flatMap fun p => t.narrow [p] := by
  cases t with
  | id value => exact absurd trivial ht
  | _ => simp [narrow, List.filter_flatMap]

end Token

/-- All chains from one place to another. -/
def chains : Place → List Token → Place → List (List Place)
  | p, [], r => if p = r then [[]] else []
  | p, t :: ts, r => (t.narrow [p]).flatMap fun q => (chains q ts r).map (q :: ·)

section
variable {ts : List Token} (hid : ∀ t ∈ ts, ¬ t.IsId)

include hid

theorem mem_chains {p r : Place} {ps : List Place} : ps ∈ chains p ts r ↔ Chain p ts ps r := by
  induction ts generalizing p ps with
  | nil =>
    rw [chains]
    constructor
    · intro h
      split at h
      · rename_i hpr
        obtain rfl := List.mem_singleton.mp h
        exact hpr ▸ .nil
      · cases h
    · rintro ⟨⟩
      simp
  | cons t ts ih =>
    obtain ⟨ht, hts⟩ := List.forall_mem_cons.mp hid
    simp only [chains, List.mem_flatMap, List.mem_map, Token.mem_narrow_singleton ht, ih hts]
    constructor
    · rintro ⟨q, hq, ps, hps, rfl⟩
      exact .cons hq hps
    · intro h
      cases h with
      | @cons _ q _ _ _ ps hq hps => exact ⟨q, hq, ps, hps, rfl⟩

theorem nodup_chains (p r : Place) : (chains p ts r).Nodup := by
  induction ts generalizing p with
  | nil =>
    rw [chains]
    split
    · exact List.nodup_singleton _
    · exact List.nodup_nil
  | cons t ts ih =>
    obtain ⟨ht, hts⟩ := List.forall_mem_cons.mp hid
    rw [chains, List.nodup_flatMap]
    constructor
    · intro q _
      exact (ih hts q).map fun _ _ h => (List.cons.inj h).2
    · refine (Token.nodup_narrow_singleton ht p).imp ?_
      -- the chains through two places differ in their heads
      intro q q' hne ps hps hps'
      obtain ⟨_, -, rfl⟩ := List.mem_map.mp hps
      obtain ⟨_, -, h⟩ := List.mem_map.mp hps'
      exact hne (List.cons.inj h).1.symm

theorem ncard_chain (p r : Place) : Set.ncard {ps | Chain p ts ps r} = (chains p ts r).length := by
  have hset : {ps | Chain p ts ps r} = ((chains p ts r).toFinset : Set (List Place)) := by
    ext ps
    simp [mem_chains hid]
  rw [hset, Set.ncard_coe_finset, List.toFinset_card_of_nodup (nodup_chains hid p r)]

theorem count_narrow (roots : List Place) (r : Place) :
    (Alternative.narrow ts roots).count r = (roots.map fun p => (chains p ts r).length).sum := by
  induction ts generalizing roots with
  | nil =>
    simp only [Alternative.narrow, List.foldl_nil, chains]
    induction roots with
    | nil => rfl
    | cons p ps ih =>
      rw [List.count_cons, ih, List.map_cons, List.sum_cons, Nat.add_comm]
      by_cases hp : p = r <;> simp [hp]
  | cons t ts ih =>
    obtain ⟨ht, hts⟩ := List.forall_mem_cons.mp hid
    rw [Alternative.narrow, List.foldl_cons, Token.narrow_eq_flatMap ht]
    refine (ih hts _).trans ?_
    induction roots with
    | nil => rfl
    | cons p ps ihp =>
      rw [List.flatMap_cons, List.map_append, List.sum_append, ihp, List.map_cons, List.sum_cons,
        chains, List.length_flatMap]
      simp only [List.length_map]

end

/-- Tokens without filters narrow the roots one after the other, and if there are no ids among them
every place is found once for each chain from a root to it. -/
theorem selectAlternative_plain {e : Engine} (hw : e.walker = .document) {ts : Alternative}
    (hts : ∀ t ∈ ts, t.IsPlain) (roots : List Place) :
    e.selectAlternative roots ts = .ok (ts.narrow roots) ∧
      ((∀ t ∈ ts, ¬ t.IsId) → ∀ q, (ts.narrow roots).count q =
        (roots.map fun p => Set.ncard {ps | Chain p ts ps q}).sum) := by
  constructor
  · obtain ⟨d, hd, hplaces⟩ := e.scope.applyTokens_plain hw hts (.single roots)
    rw [Context.places_single] at hplaces
    rw [Engine.selectAlternative, Scope.selectAlternative, hd, Outcome.map_ok, hplaces]
  · intro hid q
    rw [count_narrow hid]
    simp only [ncard_chain hid]

/-- Of two nested elements the inner one is found twice, once below each. -/
theorem selectAlternative_plain_nested :
    (∀ t ∈ List.replicate 2 (Token.compound { tag := some "p" }), t.IsPlain ∧ ¬ t.IsId) ∧
      (⟨{}, {}, .document⟩ : Engine).selectAlternative
        [⟨0, (Node.tag "p").withChildren [.tag "p"]⟩]
        (List.replicate 2 (.compound { tag := some "p" })) =
      .ok [⟨0, (Node.tag "p").withChildren [.tag "p"]⟩, ⟨1, .tag "p"⟩, ⟨1, .tag "p"⟩] ∧
      ([⟨0, (Node.tag "p").withChildren [.tag "p"]⟩].map fun p : Place => Set.ncard
        {ps | Chain p (List.replicate 2 (.compound { tag := some "p" })) ps ⟨1, .tag "p"⟩}).sum = 2 :=
  have hplain : ∀ t ∈ List.replicate 2 (Token.compound { tag := some "p" }), t.IsPlain ∧ ¬ t.IsId := by
    simp [Token.IsPlain, Token.IsId]
  ⟨hplain, (selectAlternative_plain rfl (fun t ht => (hplain t ht).1) _).1.trans (by decide),
    ((selectAlternative_plain (e := ⟨{}, {}, .document⟩) rfl (fun t ht => (hplain t ht).1) _).2
      (fun t ht => (hplain t ht).2) _).symm.trans (by decide)⟩

/-- A tag alone does not ask for attributes. -/
theorem selectAlternative_without_attributes :
    (⟨{}, {}, .document⟩ : Engine).selectAlternative
      [⟨0, { kind := .tag, name := some "p" }⟩] [.compound { tag := some "p" }] =
        .ok [⟨0, { kind := .tag, name := some "p" }⟩] ∧
      ({ kind := .tag, name := some "p" } : Node).attributes = none :=
  ⟨by with_unfolding_all rfl, rfl⟩

end MarkupQuery
