import Mathlib.Control.Monad.Basic
import Mathlib.Data.List.Nodup
import MarkupQuery.Proofs.BuiltinFilters
import MarkupQuery.Proofs.Grouping

/-! Where selections end up. No token and no built-in filter leads out of the trees that it is
given: all that is found is one of the given places or lies below one of them. The filters that do
not just pick from their context are the searches, `:not`, which goes on below it, and `:contains`,
which may give a place in between. A region is a set of places that has with each all that is below
it, such as a forest; what does not lead out of trees does not lead out of a region either. -/

namespace MarkupQuery

/-! Places below others. -/

theorem Node.size_le_sizeList {n : Node} {ns : List Node} (h : n ∈ ns) : n.size ≤ sizeList ns := by
  obtain ⟨before, after, rfl⟩ := List.append_of_mem h
  rw [sizeList_append, sizeList]
  omega

namespace Place

theorem mem_inclusive_self (p : Place) : p ∈ p.inclusive := by
  rw [inclusive_eq]
  exact List.mem_cons_self

theorem mem_inclusive_iff {p r : Place} :
    p ∈ r.inclusive ↔ p = r ∨ ∃ q ∈ r.children, p ∈ q.inclusive := by
  rw [inclusive_eq, below_eq_flatMap, List.mem_cons, List.mem_flatMap]

theorem mem_inclusive_of_mem_children {p r : Place} (h : p ∈ r.children) : p ∈ r.inclusive :=
  mem_inclusive_iff.mpr (.inr ⟨p, h, p.mem_inclusive_self⟩)

theorem size_lt_of_mem_children {p r : Place} (h : p ∈ r.children) : p.node.size < r.node.size := by
  have hmem : p.node ∈ r.node.childList := by
    rw [← map_node_children]
    exact List.mem_map_of_mem h
  have hle := Node.size_le_sizeList hmem
  rw [Node.size_eq r.node]
  omega

theorem mem_inclusive_trans {p q r : Place} (hp : p ∈ q.inclusive) (hq : q ∈ r.inclusive) :
    p ∈ r.inclusive := by
  induction hn : r.node.size using Nat.strongRecOn generalizing r with
  | _ n ih =>
    subst hn
    rcases mem_inclusive_iff.mp hq with rfl | ⟨r', hr', hq⟩
    · exact hp
    · have hp' := ih _ (size_lt_of_mem_children hr') hq rfl
      exact mem_inclusive_iff.mpr (.inr ⟨r', hr', hp'⟩)

/-- Each of the first places is one of the second or below one of them. -/
def Under (ps qs : List Place) : Prop := ∀ p ∈ ps, ∃ q ∈ qs, p ∈ q.inclusive

namespace Under

variable {ps qs rs : List Place}

theorem of_subset (h : ps ⊆ qs) : Under ps qs := fun p hp => ⟨p, h hp, p.mem_inclusive_self⟩

theorem trans (h : Under ps qs) (h' : Under qs rs) : Under ps rs := by
  intro p hp
  obtain ⟨q, hq, hpq⟩ := h p hp
  obtain ⟨r, hr, hqr⟩ := h' q hq
  exact ⟨r, hr, mem_inclusive_trans hpq hqr⟩

theorem flatten {gs : List (List Place)} (h : ∀ g ∈ gs, Under g qs) : Under gs.flatten qs := by
  intro p hp
  obtain ⟨g, hg, hp⟩ := List.mem_flatten.mp hp
  exact h g hg p hp

end Under

theorem under_reached (deep : Bool) (ps : List Place) : Under (reached deep ps) ps := by
  cases deep with
  | false => exact .of_subset (List.Subset.refl _)
  | true =>
    intro p hp
    obtain ⟨q, hq, hpq⟩ := List.mem_flatMap.mp hp
    exact ⟨q, hq, hpq⟩

/-- A set of places that has with each all that is below it. -/
def IsRegion (region : Place → Prop) : Prop := ∀ p, region p → ∀ q ∈ p.inclusive, region q

variable {region : Place → Prop}

theorem Under.in_region {ps qs : List Place} (h : Under ps qs) (hregion : IsRegion region)
    (hqs : ∀ q ∈ qs, region q) : ∀ p ∈ ps, region p := by
  intro p hp
  obtain ⟨q, hq, hpq⟩ := h p hp
  exact hregion q (hqs q hq) p hpq

/-- All that is below the given places is a region, the smallest that has them. -/
theorem isRegion_under (qs : List Place) : IsRegion fun p => ∃ q ∈ qs, p ∈ q.inclusive := by
  rintro p ⟨q, hq, hpq⟩ r hr
  exact ⟨q, hq, mem_inclusive_trans hr hpq⟩

theorem mem_allPlaces_iff {forest : List Node} {p : Place} :
    p ∈ allPlaces forest ↔ ∃ r ∈ roots forest, p ∈ r.inclusive := by
  rw [allPlaces, preorderList_eq_flatMap, List.mem_flatMap]
  rfl

theorem isRegion_allPlaces (forest : List Node) : IsRegion (· ∈ allPlaces forest) := by
  simp only [mem_allPlaces_iff]
  exact isRegion_under (roots forest)

/-- In a forest a place is known by its number. -/
theorem eq_of_number_eq {forest : List Node} {p q : Place} (hp : p ∈ allPlaces forest)
    (hq : q ∈ allPlaces forest) (h : p.number = q.number) : p = q := by
  have hnodup : ((allPlaces forest).map number).Nodup := by
    rw [allPlaces, numbers_preorderList]
    exact List.nodup_range'
  exact List.inj_on_of_nodup_map hnodup hp hq h

theorem number_mem_map_iff {forest : List Node} {p : Place} {ps : List Place}
    (hp : p ∈ allPlaces forest) (hps : ∀ q ∈ ps, q ∈ allPlaces forest) :
    p.number ∈ ps.map number ↔ p ∈ ps := by
  constructor
  · intro hnumber
    obtain ⟨q, hq, heq⟩ := List.mem_map.mp hnumber
    exact eq_of_number_eq (hps q hq) hp heq ▸ hq
  · exact List.mem_map_of_mem

end Place

open Place Walker

variable {region : Place → Prop}

theorem Context.subset_places {c : Context} {g : List Place} (hg : g ∈ c.groups) : g ⊆ c.places :=
  fun _ hp => List.mem_flatten.mpr ⟨g, hg, hp⟩

/-! Searches. -/

/-- The walker finds nothing outside the region, if it is given nothing outside. -/
structure Walker.Keeps (w : Walker) (region : Place → Prop) : Prop where
  findMatching : ∀ m ps deep, (∀ p ∈ ps, region p) → ∀ q ∈ w.findMatching m ps deep, region q
  findByTag : ∀ name ps deep, (∀ p ∈ ps, region p) → ∀ q ∈ w.findByTag name ps deep, region q
  findById : ∀ id ps deep, (∀ p ∈ ps, region p) → ∀ q ∈ w.findById id ps deep, region q

theorem under_collectMatching (m : PredicateMap) (ps : List Place) (deep : Bool) :
    Under (collectMatching m ps deep) ps := by
  rw [collectMatching_eq]
  exact (Under.of_subset List.filter_sublist.subset).trans (under_reached deep ps)

theorem Walker.document_keeps (hregion : IsRegion region) : Walker.document.Keeps region where
  findMatching m ps deep hps := (under_collectMatching m ps deep).in_region hregion hps
  findByTag name ps deep hps := (under_collectMatching _ ps deep).in_region hregion hps
  findById id ps deep hps q hq := by
    have hfirst : firstWithId id ps deep = some q := hq
    rw [firstWithId_eq] at hfirst
    exact (under_reached deep ps).in_region hregion hps q (List.mem_of_find?_eq_some hfirst)

/-! Filters. -/

/-- The filter finds nothing outside the region, if it is given nothing outside. -/
def Filter.Keeps (f : Filter) (region : Place → Prop) : Prop :=
  ∀ s c a ps, s.walker.Keeps region → (∀ p ∈ c.places, region p) → f s c a = .ok ps →
    ∀ p ∈ ps, region p

/-- Whatever the walker, the filter finds nothing that is not below its context. -/
def Filter.Descends (f : Filter) : Prop := ∀ s c a ps, f s c a = .ok ps → Under ps c.places

theorem Filter.Descends.keeps {f : Filter} (h : f.Descends) (hregion : IsRegion region) :
    f.Keeps region := fun s c a ps _ hc hps => (h s c a ps hps).in_region hregion hc

/-- A filter that picks from the places of its context. -/
theorem Filter.Descends.of_subset {find : Scope → Context → Option String → List Place}
    (h : ∀ s c a, find s c a ⊆ c.places) : Filter.Descends fun s c a => .ok (find s c a) := by
  intro s c a ps hps
  cases hps
  exact .of_subset (h s c a)

namespace Builtin

theorem mem_openAll {r : Place} {ps : List (Place × Place)}
    (h : ∀ x ∈ ps, x.1 ∈ r.inclusive ∧ x.2 ∈ r.inclusive) :
    ∀ x ∈ openAll ps, x.1 ∈ r.inclusive ∧ x.2 ∈ r.inclusive := by
  fun_induction openAll ps with
  | case1 => exact h
  | case2 parent p rest cs hcs ih =>
    obtain ⟨hp, hrest⟩ := List.forall_mem_cons.mp h
    refine ih fun x hx => ?_
    rcases List.mem_append.mp hx with hx | hx
    · obtain ⟨q, hq, rfl⟩ := List.mem_map.mp hx
      exact ⟨hp.2, mem_inclusive_trans (mem_inclusive_of_mem_children hq) hp.2⟩
    · exact hrest x hx
  | case3 parent p rest hnone ih =>
    obtain ⟨hp, hrest⟩ := List.forall_mem_cons.mp h
    exact List.forall_mem_cons.mpr ⟨hp, ih hrest⟩

/-- The parent of a leaf below a place is that place or lies below it. -/
theorem parent_mem_inclusive {p : Place} {x : Place × Place} (hx : x ∈ leaves p) :
    x.1 ∈ p.inclusive := by
  refine (mem_openAll (fun y hy => ?_) x hx).1
  obtain ⟨q, hq, rfl⟩ := List.mem_map.mp hy
  exact ⟨p.mem_inclusive_self, mem_inclusive_of_mem_children hq⟩

theorem containsBy_descends (patterns : Patterns) : Filter.Descends (containsBy patterns) := by
  intro s c a ps h
  unfold containsBy at h
  dsimp only at h
  split at h
  · cases h
  · obtain ⟨found, hfound, rfl⟩ := Outcome.map_eq_ok_iff.mp h
    refine .flatten fun g hg => ?_
    obtain ⟨p, hp, hg⟩ := Outcome.mem_of_mapM_eq_ok hfound hg
    intro q hq
    obtain ⟨x, hleaf, hvisit⟩ := Outcome.mem_of_filterMapM_eq_ok hg hq
    refine ⟨p, hp, ?_⟩
    rw [eq_textPlace_of_visit hvisit]
    cases s.options.filterSemantics with
    | legacy => exact parent_mem_inclusive hleaf
    | conventional => exact mem_inclusive_self p

/-- The one filter that searches. -/
theorem header_keeps : Filter.Keeps header region := by
  intro s c a ps hw hc h
  cases h
  intro p hp
  obtain ⟨g, hg, hp⟩ := List.mem_flatMap.mp hp
  exact hw.findMatching _ g true (fun q hq => hc q (Context.subset_places hg hq)) p hp

theorem under_outsideText (ps : List Place) : Under (outsideText ps) ps := by
  fun_induction outsideText ps with
  | case1 => exact .of_subset (List.Subset.refl _)
  | case2 p ps ih =>
    intro q hq
    rcases List.mem_cons.mp hq with rfl | hq
    · exact ⟨q, List.mem_cons_self, q.mem_inclusive_self⟩
    · obtain ⟨r, hr, hqr⟩ := ih q hq
      rcases List.mem_append.mp hr with hr | hr
      · have hchild : r ∈ p.children := (List.mem_filter.mp hr).1
        exact ⟨p, List.mem_cons_self,
          mem_inclusive_trans hqr (mem_inclusive_of_mem_children hchild)⟩
      · exact ⟨r, List.mem_cons_of_mem _ hr, hqr⟩

theorem not_descends : Filter.Descends not := by
  intro s c a ps h
  rw [not_eq] at h
  obtain ⟨excluded, -, rfl⟩ := Outcome.map_eq_ok_iff.mp h
  exact (Under.of_subset List.filter_sublist.subset).trans (under_outsideText c.places)

theorem withIndex_descends {find : Scope → List Place → Nat → List Place}
    (h : ∀ s ps n, find s ps n ⊆ ps) : Filter.Descends (withIndex find) := by
  intro s c a ps hps
  unfold withIndex at hps
  split at hps
  · cases hps
    exact .of_subset (h s c.places _)
  · cases hps
    exact .of_subset (List.nil_subset _)

theorem evens_odds_subset {α : Type} (xs : List α) : evens xs ⊆ xs ∧ odds xs ⊆ xs := by
  induction xs with
  | nil => exact ⟨List.Subset.refl _, List.Subset.refl _⟩
  | cons x xs ih =>
    rw [evens, odds]
    exact ⟨List.cons_subset_cons x ih.2, fun y hy => List.mem_cons_of_mem x (ih.1 hy)⟩

theorem flatMap_groups_subset {c : Context} {pick : List Place → List Place} (h : ∀ g, pick g ⊆ g) :
    c.groups.flatMap pick ⊆ c.places := by
  intro p hp
  obtain ⟨g, hg, hp⟩ := List.mem_flatMap.mp hp
  exact Context.subset_places hg (h g hp)

theorem even_descends : Filter.Descends even := by
  intro s c a ps h
  unfold even at h
  split at h
  · cases h
    exact .of_subset (flatMap_groups_subset fun g => (evens_odds_subset g).2)
  · cases h
    exact .of_subset (flatMap_groups_subset fun g => (evens_odds_subset g).1)

theorem odd_descends : Filter.Descends odd := by
  intro s c a ps h
  unfold odd at h
  split at h
  · cases h
    exact .of_subset (flatMap_groups_subset fun g => (evens_odds_subset g).1)
  · cases h
    exact .of_subset (flatMap_groups_subset fun g => (evens_odds_subset g).2)

theorem gt_descends : Filter.Descends gt := by
  refine withIndex_descends fun s ps n => ?_
  split <;> exact List.drop_subset _ _

theorem last_subset (c : Context) :
    (c.groups.getLastD []).drop ((c.groups.getLastD []).length - 1) ⊆ c.places := by
  intro p hp
  have hp := List.drop_subset _ _ hp
  cases hgs : c.groups.getLast? with
  | none => simp [List.getLastD_eq_getLast?, hgs] at hp
  | some g =>
    rw [List.getLastD_eq_getLast?, hgs] at hp
    exact Context.subset_places (List.mem_of_getLast? hgs) hp

theorem keeps_of_mem {patterns : Patterns} {name : String} {f : Filter}
    (h : (name, f) ∈ all patterns) (hregion : IsRegion region) : f.Keeps region := by
  induction h using all_cases with
  | contains => exact (containsBy_descends patterns).keeps hregion
  | header => exact header_keeps
  | not => exact not_descends.keeps hregion
  | empty => exact Filter.Descends.keeps (.of_subset fun _ _ _ => List.filter_sublist.subset) hregion
  | eq =>
    have hfind (ps : List Place) (n : Nat) : (ps.drop n).take 1 ⊆ ps :=
      List.Subset.trans (List.take_subset _ _) (List.drop_subset _ _)
    exact Filter.Descends.keeps (withIndex_descends fun _ => hfind) hregion
  | gt => exact gt_descends.keeps hregion
  | lt => exact Filter.Descends.keeps (withIndex_descends fun _ _ n => List.take_subset _ _) hregion
  | even => exact even_descends.keeps hregion
  | odd => exact odd_descends.keeps hregion
  | first => exact Filter.Descends.keeps (.of_subset fun _ _ _ => List.take_subset _ _) hregion
  | last => exact Filter.Descends.keeps (.of_subset fun _ c _ => last_subset c) hregion

end Builtin

/-! Evaluation. -/

namespace Scope

/-- A scope over a document in which no filter leads out of what it is given. -/
structure Inward (s : Scope) : Prop where
  walker : s.walker = .document
  runFilter : ∀ u input ps, s.runFilter u input = .ok ps → Under ps input.places

/-- A scope in which neither a search nor a filter leads out of the region. -/
structure Keeps (s : Scope) (region : Place → Prop) : Prop where
  walker : s.walker.Keeps region
  runFilter : ∀ u input ps, (∀ p ∈ input.places, region p) → s.runFilter u input = .ok ps →
    ∀ p ∈ ps, region p

variable {s : Scope} {c d : Context}

/-- A search group by group. -/
theorem keeps_groups {search : List Place → List Place}
    (h : ∀ g, (∀ p ∈ g, region p) → ∀ q ∈ search g, region q) (hc : ∀ p ∈ c.places, region p) :
    ∀ q ∈ (Context.ofPlaces (c.groups.flatMap search)).places, region q := by
  rw [Context.places_ofPlaces]
  intro q hq
  obtain ⟨g, hg, hq⟩ := List.mem_flatMap.mp hq
  exact h g (fun p hp => hc p (Context.subset_places hg hp)) q hq

namespace Keeps

variable (hs : s.Keeps region)

include hs

theorem foldl_clauses (deep : Bool) (clauses : List AttributeClause) (hc : ∀ p ∈ c.places, region p) :
    ∀ q ∈ (clauses.foldl
      (fun c clause => Context.ofPlaces (c.groups.flatMap fun g =>
        s.walker.findMatching (.single (.attribute clause.name) clause.test.accepts) g deep)) c).places,
      region q := by
  induction clauses generalizing c with
  | nil => exact hc
  | cons clause clauses ih => exact ih (keeps_groups (fun g => hs.walker.findMatching _ g deep) hc)

theorem findCompound (x : Compound) (hc : ∀ p ∈ c.places, region p) :
    ∀ q ∈ (s.findCompound c x).places, region q := by
  unfold Scope.findCompound
  refine hs.foldl_clauses x.tag.isNone x.clauses ?_
  split
  · exact keeps_groups (fun g => hs.walker.findByTag _ g true) hc
  · exact hc

theorem findId (id : String) (hc : ∀ p ∈ c.places, region p) :
    ∀ q ∈ (s.findId c id).places, region q := by
  unfold Scope.findId
  split
  · rename_i p hp
    rw [Context.places_ofPlaces]
    exact List.forall_mem_singleton.mpr (hs.walker.findById id c.places true hc p hp)
  · intro q hq
    cases hq

theorem findClasses (x : ClassList) (hc : ∀ p ∈ c.places, region p) :
    ∀ q ∈ (s.findClasses c x).places, region q := by
  unfold Scope.findClasses
  refine keeps_groups (fun g hg => ?_) hc
  split
  · exact hs.walker.findMatching _ _ false (hs.walker.findByTag _ g true hg)
  · exact hs.walker.findMatching _ g true hg

end Keeps

mutual

/-- What a token leaves is in the region if that was there before. -/
theorem Keeps.applyToken (hs : s.Keeps region) {c d : Context} (hc : ∀ p ∈ c.places, region p) :
    ∀ t : Token, s.applyToken c t = .ok d → ∀ p ∈ d.places, region p
  | .universal, h => by
    rw [Scope.applyToken] at h
    cases h
    exact hc
  | .compound x, h => by
    rw [Scope.applyToken] at h
    cases h
    exact hs.findCompound x hc
  | .id value, h => by
    rw [Scope.applyToken] at h
    cases h
    exact hs.findId value hc
  | .classes x, h => by
    rw [Scope.applyToken] at h
    cases h
    exact hs.findClasses x hc
  | .filter f, h => by
    rw [Scope.applyToken] at h
    exact hs.applyFilter hc f h
  | .unrecognized text, h => by
    rw [Scope.applyToken] at h
    cases h
    intro p hp
    cases hp

theorem Keeps.applyFilter (hs : s.Keeps region) {c d : Context} (hc : ∀ p ∈ c.places, region p) :
    ∀ f : FilterCall, s.applyFilter c f = .ok d → ∀ p ∈ d.places, region p
  | ⟨preselector, name, argument, next⟩, h => by
    rw [applyFilter_eq] at h
    obtain ⟨input, hinput, h⟩ := Outcome.bind_eq_ok_iff.mp h
    obtain ⟨found, hfound, h⟩ := Outcome.bind_eq_ok_iff.mp h
    have hpre : ∀ p ∈ input.places, region p := by
      cases preselector with
      | none =>
        cases hinput
        simpa using hc
      | some ts =>
        obtain ⟨gs, hgs, rfl⟩ := Outcome.map_eq_ok_iff.mp hinput
        intro p hp
        obtain ⟨g, hg, hp⟩ := List.mem_flatten.mp hp
        obtain ⟨g', hg', hg⟩ := Outcome.mem_of_mapM_eq_ok hgs hg
        obtain ⟨d', hd', rfl⟩ := Outcome.map_eq_ok_iff.mp hg
        have hgroup : ∀ p ∈ (Context.single g').places, region p := by
          rw [Context.places_single]
          exact fun p hp => hc p (Context.subset_places hg' hp)
        exact hs.applyTokens hgroup ts hd' p hp
    have hrun : ∀ p ∈ (Context.ofPlaces found).places, region p := by
      rw [Context.places_ofPlaces]
      exact hs.runFilter _ _ _ hpre hfound
    cases next with
    | none =>
      cases h
      exact hrun
    | some g => exact hs.applyFilter hrun g h

theorem Keeps.applyTokens (hs : s.Keeps region) {c d : Context} (hc : ∀ p ∈ c.places, region p) :
    ∀ ts : List Token, s.applyTokens c ts = .ok d → ∀ p ∈ d.places, region p
  | [], h => by
    rw [Scope.applyTokens] at h
    cases h
    exact hc
  | t :: ts, h => by
    rw [Scope.applyTokens] at h
    obtain ⟨c', hc', h⟩ := Outcome.bind_eq_ok_iff.mp h
    split at h
    · cases h
      intro p hp
      cases hp
    · exact hs.applyTokens (hs.applyToken hc t hc') ts h

end

theorem Keeps.selectParsed (hs : s.Keeps region) {roots ps : List Place} (hroots : ∀ p ∈ roots, region p)
    {x : Selector} (h : s.selectParsed roots x = .ok ps) : ∀ p ∈ ps, region p := by
  obtain ⟨gs, hgs, rfl⟩ := Outcome.map_eq_ok_iff.mp h
  intro p hp
  obtain ⟨g, hg, hp⟩ := List.mem_flatten.mp hp
  obtain ⟨ts, -, hts⟩ := Outcome.mem_of_mapM_eq_ok hgs hg
  obtain ⟨d, hd, rfl⟩ := Outcome.map_eq_ok_iff.mp hts
  exact hs.applyTokens (by simpa using hroots) ts hd p hp

theorem Keeps.select (hs : s.Keeps region) {roots ps : List Place} (hroots : ∀ p ∈ roots, region p)
    {query : String} (h : s.select roots query = .ok ps) : ∀ p ∈ ps, region p := by
  unfold Scope.select at h
  split at h
  · exact hs.selectParsed hroots h
  · cases h

/-- What does not lead out of trees does not lead out of a region. -/
theorem Inward.keeps (hs : s.Inward) (hregion : IsRegion region) : s.Keeps region where
  walker := hs.walker ▸ document_keeps hregion
  runFilter u input ps hinput h := (hs.runFilter u input ps h).in_region hregion hinput

/-- What a token leaves lies below what was there before. -/
theorem Inward.applyToken (hs : s.Inward) (t : Token) (h : s.applyToken c t = .ok d) :
    Under d.places c.places :=
  (hs.keeps (isRegion_under c.places)).applyToken (fun p hp => ⟨p, hp, p.mem_inclusive_self⟩) t h

theorem Inward.selectParsed (hs : s.Inward) {roots ps : List Place} {x : Selector}
    (h : s.selectParsed roots x = .ok ps) : Under ps roots :=
  (hs.keeps (isRegion_under roots)).selectParsed (fun p hp => ⟨p, hp, p.mem_inclusive_self⟩) h

end Scope

namespace Engine.OnlyBuiltin

variable {e : Engine} {patterns : Patterns}

theorem keeps (he : e.OnlyBuiltin patterns) (hregion : IsRegion region) (hw : e.walker.Keeps region) :
    e.scope.Keeps region := by
  refine ⟨hw, fun u input ps hinput h => ?_⟩
  rw [Scope.runFilter, Engine.scope_filter?] at h
  cases hf : e.filters.get? u.name with
  | none =>
    rw [hf] at h
    cases h
    intro p hp
    cases hp
  | some f =>
    rw [hf] at h
    exact Builtin.keeps_of_mem (he u.name f hf) hregion _ input _ ps hw hinput h

theorem inward (he : e.OnlyBuiltin patterns) (hw : e.walker = .document) : e.scope.Inward := by
  refine ⟨hw, fun u input ps h => ?_⟩
  have hkeeps := he.keeps (isRegion_under input.places) (hw ▸ document_keeps (isRegion_under _))
  exact hkeeps.runFilter u input ps (fun p hp => ⟨p, hp, p.mem_inclusive_self⟩) h

end Engine.OnlyBuiltin

/-- With the built-in filters all that is selected in a document is one of the roots or below one of
them, by whatever text or selector. -/
theorem select_under_roots {e : Engine} {patterns : Patterns} (he : e.OnlyBuiltin patterns)
    (hw : e.walker = .document) (roots : List Place) :
    (∀ query ps, e.select roots query = .ok ps → ∀ p ∈ ps, ∃ r ∈ roots, p ∈ r.inclusive) ∧
      ∀ x ps, e.selectParsed roots x = .ok ps → ∀ p ∈ ps, ∃ r ∈ roots, p ∈ r.inclusive := by
  have hparsed : ∀ x ps, e.selectParsed roots x = .ok ps → Under ps roots :=
    fun x ps h => (he.inward hw).selectParsed h
  refine ⟨fun query ps h => ?_, hparsed⟩
  rw [Engine.select, Scope.select] at h
  cases hx : Selector.parse query with
  | error err =>
    rw [hx] at h
    cases h
  | ok x =>
    rw [hx] at h
    exact hparsed x ps h

/-- The paragraph with the text is found by the filter that follows `:not`. It lies between the
root and the text. -/
theorem select_under_roots_between :
    (Engine.withOptions {}).OnlyBuiltin Pattern.patterns ∧ (Engine.withOptions {}).walker = .document ∧
      (Engine.withOptions {}).select
        [⟨0, (Node.tag "div").withChildren [(Node.tag "p").withChildren [.text "ab"]]⟩]
        "div:not(p:contains(b))" = .ok [⟨1, (Node.tag "p").withChildren [.text "ab"]⟩] ∧
      ∀ p ∈ [(⟨1, (Node.tag "p").withChildren [.text "ab"]⟩ : Place)],
        ∃ r ∈ [(⟨0, (Node.tag "div").withChildren [(Node.tag "p").withChildren [.text "ab"]]⟩ : Place)],
          p ∈ r.inclusive :=
  have hbuiltin := Engine.onlyBuiltin_withOptions {}
  have hselect : (Engine.withOptions {}).select
      [⟨0, (Node.tag "div").withChildren [(Node.tag "p").withChildren [.text "ab"]]⟩]
      "div:not(p:contains(b))" = .ok [⟨1, (Node.tag "p").withChildren [.text "ab"]⟩] := by
    decide +kernel
  ⟨hbuiltin, rfl, hselect, (select_under_roots hbuiltin rfl _).1 _ _ hselect⟩

end MarkupQuery
