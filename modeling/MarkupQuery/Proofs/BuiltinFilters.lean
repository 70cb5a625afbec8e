import MarkupQuery.Engine.Standard
import MarkupQuery.Proofs.Leaves
import MarkupQuery.Proofs.Mentions

/-! What the built-in filters depend on, and how they fail. Of a scope they look at the options, the
walker and what it selects by their own argument. Only `:contains` fails by itself, with its
pattern; `:not` passes on what its selection fails with. -/

namespace MarkupQuery

/-- Every filter of the engine is the built-in one of that name, `:contains` with these patterns. -/
def Engine.OnlyBuiltin (e : Engine) (patterns : Patterns) : Prop :=
  ∀ name f, e.filters.get? name = some f → (name, f) ∈ Builtin.all patterns

theorem Engine.get?_filters_withPatterns (patterns : Patterns) (o : Options) (name : String) :
    (Engine.withPatterns patterns o).filters.get? name = (Builtin.all patterns).lookup name :=
  Dictionary.get?_ofList (by simp [Builtin.all]) name

theorem Engine.onlyBuiltin_withPatterns (patterns : Patterns) (o : Options) :
    (Engine.withPatterns patterns o).OnlyBuiltin patterns := by
  intro name f h
  rw [get?_filters_withPatterns, List.lookup_eq_some_iff] at h
  obtain ⟨before, after, hall, -⟩ := h
  simp [hall]

theorem Engine.onlyBuiltin_withOptions (o : Options) :
    (Engine.withOptions o).OnlyBuiltin Pattern.patterns :=
  onlyBuiltin_withPatterns Pattern.patterns o

/-- Two scopes that search alike and, by the argument of a filter, select alike. -/
structure Scope.Alike (s s' : Scope) (argument : Option String) : Prop where
  walker : s.walker = s'.walker
  select : ∀ query ∈ argument, ∀ roots, s.select roots query = s'.select roots query

/-- The filter finds the same under either of the options, wherever it selects alike. -/
def Filter.SameUnder (f : Filter) (o o' : Options) : Prop :=
  ∀ s s' c a, s.options = o → s'.options = o' → s.Alike s' a → f s c a = f s' c a

/-- The filter never fails, and it selects nothing by its argument. -/
structure Filter.Direct (f : Filter) : Prop where
  ok : ∀ s c a, ∃ ps, f s c a = .ok ps
  congr : ∀ s s' c a, s.options = s'.options → s.walker = s'.walker → f s c a = f s' c a

/-- A filter that looks at no option. -/
theorem Filter.SameUnder.of_walker {f : Filter} (h : ∀ s s' : Scope, s.walker = s'.walker → f s = f s')
    (o o' : Options) : f.SameUnder o o' := by
  intro s s' c a _ _ halike
  rw [h s s' halike.walker]

/-- A filter that looks at the semantics only. -/
theorem Filter.SameUnder.of_semantics {f : Filter}
    (h : ∀ s s' : Scope, s.options.filterSemantics = s'.options.filterSemantics → f s = f s')
    {o o' : Options} (ho : o.filterSemantics = o'.filterSemantics) : f.SameUnder o o' := by
  intro s s' c a hs hs' _
  rw [h s s' (by rw [hs, hs', ho])]

theorem Filter.Direct.ofContext (find : Context → List Place) :
    Filter.Direct fun _ c _ => .ok (find c) :=
  ⟨fun _ _ _ => ⟨_, rfl⟩, fun _ _ _ _ _ _ => rfl⟩

namespace Builtin

theorem header_congr {s s' : Scope} (h : s.walker = s'.walker) : header s = header s' := by
  unfold header
  rw [h]

theorem header_direct : Filter.Direct header := by
  refine ⟨fun s c a => ⟨_, rfl⟩, fun s s' c a _ hw => ?_⟩
  rw [header_congr hw]

theorem withIndex_congr {find : Scope → List Place → Nat → List Place} {s s' : Scope}
    (h : find s = find s') : withIndex find s = withIndex find s' := by
  unfold withIndex
  rw [h]

theorem withIndex_direct {find : Scope → List Place → Nat → List Place}
    (h : ∀ s s' : Scope, s.options = s'.options → find s = find s') : Filter.Direct (withIndex find) := by
  constructor
  · intro s c a
    unfold withIndex
    split <;> exact ⟨_, rfl⟩
  · intro s s' c a ho _
    rw [withIndex_congr (h s s' ho)]

theorem eq_direct : Filter.Direct eq := withIndex_direct fun _ _ _ => rfl

theorem gt_direct : Filter.Direct gt := by
  refine withIndex_direct fun s s' h => ?_
  rw [h]

theorem gt_congr {s s' : Scope} (h : s.options.filterSemantics = s'.options.filterSemantics) :
    gt s = gt s' := by
  refine withIndex_congr ?_
  rw [h]

theorem lt_direct : Filter.Direct lt := withIndex_direct fun _ _ _ => rfl

theorem even_congr {s s' : Scope} (h : s.options.filterSemantics = s'.options.filterSemantics) :
    even s = even s' := by
  unfold even
  rw [h]

theorem even_direct : Filter.Direct even := by
  constructor
  · intro s c a
    unfold even
    split <;> exact ⟨_, rfl⟩
  · intro s s' c a ho _
    rw [even_congr (congrArg _ ho)]

theorem odd_congr {s s' : Scope} (h : s.options.filterSemantics = s'.options.filterSemantics) :
    odd s = odd s' := by
  unfold odd
  rw [h]

theorem odd_direct : Filter.Direct odd := by
  constructor
  · intro s c a
    unfold odd
    split <;> exact ⟨_, rfl⟩
  · intro s s' c a ho _
    rw [odd_congr (congrArg _ ho)]

section
variable {patterns : Patterns}

/-- The built-in filters one by one, each case under the name of its filter. -/
theorem all_cases {motive : ∀ (name : String) (f : Filter), (name, f) ∈ all patterns → Prop}
    (contains : motive "contains" (containsBy patterns) (by simp [all]))
    (header : motive "header" header (by simp [all]))
    (not : motive "not" not (by simp [all]))
    (empty : motive "empty" empty (by simp [all]))
    (eq : motive "eq" eq (by simp [all]))
    (gt : motive "gt" gt (by simp [all]))
    (lt : motive "lt" lt (by simp [all]))
    (even : motive "even" even (by simp [all]))
    (odd : motive "odd" odd (by simp [all]))
    (first : motive "first" first (by simp [all]))
    (last : motive "last" last (by simp [all])) {name : String} {f : Filter}
    (h : (name, f) ∈ all patterns) : motive name f h := by
  have hcases := h
  simp only [all, List.mem_cons, Prod.mk.injEq, List.not_mem_nil, or_false] at hcases
  rcases hcases with ⟨rfl, rfl⟩ | ⟨rfl, rfl⟩ | ⟨rfl, rfl⟩ | ⟨rfl, rfl⟩ | ⟨rfl, rfl⟩ | ⟨rfl, rfl⟩ |
    ⟨rfl, rfl⟩ | ⟨rfl, rfl⟩ | ⟨rfl, rfl⟩ | ⟨rfl, rfl⟩ | ⟨rfl, rfl⟩
  all_goals assumption

/-- All of them but two are direct. -/
theorem mem_all_cases {name : String} {f : Filter} (h : (name, f) ∈ all patterns) :
    (name = "contains" ∧ f = containsBy patterns) ∨ (name = "not" ∧ f = not) ∨ f.Direct := by
  induction h using all_cases with
  | contains => exact .inl ⟨rfl, rfl⟩
  | header => exact .inr (.inr header_direct)
  | not => exact .inr (.inl ⟨rfl, rfl⟩)
  | empty | first | last => exact .inr (.inr (.ofContext _))
  | eq => exact .inr (.inr eq_direct)
  | gt => exact .inr (.inr gt_direct)
  | lt => exact .inr (.inr lt_direct)
  | even => exact .inr (.inr even_direct)
  | odd => exact .inr (.inr odd_direct)

theorem containsBy_congr {s s' : Scope}
    (h : s.options.filterSemantics = s'.options.filterSemantics) :
    containsBy patterns s = containsBy patterns s' := by
  unfold containsBy
  rw [h]

end

/-- What is left of some places by a comparison with the excluded ones. -/
def remaining (x : NotComparison) (excluded ps : List Place) : List Place :=
  ps.filter fun p => !excluded.any fun member => isSame x member p

/-- What `:not` leaves out is what its argument selects from the places that it sees. -/
theorem not_eq (s : Scope) (c : Context) (a : Option String) :
    not s c a = (match a with
      | some query => s.select c.places query
      | none => .ok []).map fun excluded =>
        remaining s.options.notComparison excluded (outsideText c.places) := by
  cases a with
  | none => rfl
  | some query => cases h : s.select c.places query <;> simp [not, remaining, h]

theorem not_sameUnder {o o' : Options} (h : o.notComparison = o'.notComparison) :
    Filter.SameUnder not o o' := by
  intro s s' c a ho ho' halike
  rw [not_eq, not_eq, ho, ho', h]
  cases a with
  | none => rfl
  | some query => simp only [halike.select query rfl]

theorem not_error {s : Scope} {c : Context} {a : Option String} {err : SelectError}
    (h : not s c a = .error err) : ∃ query ∈ a, s.select c.places query = .error err := by
  rw [not_eq, Outcome.map_eq_error_iff] at h
  cases a with
  | none => cases h
  | some query => exact ⟨query, rfl, h⟩

/-- Which filters look at which option: four of them at the semantics, and `:not` at the
comparison. -/
theorem sameUnder_of_mem {patterns : Patterns} {name : String} {f : Filter}
    (hf : (name, f) ∈ all patterns) {o o' : Options}
    (hsemantics : name ∈ ["even", "odd", "gt", "contains"] → o.filterSemantics = o'.filterSemantics)
    (hcomparison : name = "not" → o.notComparison = o'.notComparison) : f.SameUnder o o' := by
  induction hf using all_cases with
  | contains => exact .of_semantics (fun _ _ => containsBy_congr) (hsemantics (by simp))
  | header => exact .of_walker (fun _ _ => header_congr) o o'
  | not => exact not_sameUnder (hcomparison rfl)
  | empty | eq | lt | first | last => exact .of_walker (fun _ _ _ => rfl) o o'
  | gt => exact .of_semantics (fun _ _ => gt_congr) (hsemantics (by simp))
  | even => exact .of_semantics (fun _ _ => even_congr) (hsemantics (by simp))
  | odd => exact .of_semantics (fun _ _ => odd_congr) (hsemantics (by simp))

theorem error_of_mem {patterns : Patterns} {name : String} {f : Filter}
    (hf : (name, f) ∈ all patterns) {s : Scope} {c : Context} {a : Option String} {err : SelectError}
    (h : f s c a = .error err) :
    (name = "contains" ∧ err = .pattern (a.getD "")) ∨
      (name = "not" ∧ ∃ query ∈ a, s.select c.places query = .error err) := by
  rcases mem_all_cases hf with ⟨rfl, rfl⟩ | ⟨rfl, rfl⟩ | hdirect
  · exact .inl ⟨rfl, containsBy_error h⟩
  · exact .inr ⟨rfl, not_error h⟩
  · obtain ⟨ps, hps⟩ := hdirect.ok s c a
    rw [hps] at h
    cases h

end Builtin

namespace Engine

/-- What a filter finds when the engine runs it, in a scope limited by the argument. -/
def run (e : Engine) (f : Filter) (c : Context) (a : Option String) : Found :=
  f (e.scope.limit (argumentSize a)) c a

/-- The engine with the filters under another semantics. -/
def withSemantics (e : Engine) (x : FilterSemantics) : Engine :=
  { e with options := { e.options with filterSemantics := x } }

/-- What an argument selects from the places of a context, if there is one. -/
def selectArgument (e : Engine) (c : Context) (a : Option String) : Found :=
  match a with
  | some query => e.select c.places query
  | none => .ok []

theorem runFilter_eq_run {e : Engine} {name : String} {f : Filter}
    (hf : e.filters.get? name = some f) (c : Context) (a : Option String) :
    e.scope.runFilter ⟨name, a⟩ c = e.run f c a := by
  rw [Scope.runFilter, scope_filter?, hf]
  rfl

/-- By its argument `:not` selects as the engine does. -/
theorem run_not (e : Engine) (c : Context) (a : Option String) :
    e.run Builtin.not c a = (e.selectArgument c a).map fun excluded =>
      Builtin.remaining e.options.notComparison excluded (Builtin.outsideText c.places) := by
  rw [run, Builtin.not_eq]
  cases a with
  | none => rfl
  | some query =>
    dsimp only
    rw [Scope.select_limit]
    rfl

end Engine

theorem Engine.OnlyBuiltin.runFilter_error {e : Engine} {patterns : Patterns}
    (he : e.OnlyBuiltin patterns) {u : FilterUse} {input : Context} {err : SelectError}
    (h : e.scope.runFilter u input = .error err) :
    (u.name = "contains" ∧ err = .pattern (u.argument.getD "")) ∨
      (u.name = "not" ∧ ∃ query ∈ u.argument, e.select input.places query = .error err) := by
  rw [Scope.runFilter, Engine.scope_filter?] at h
  cases hf : e.filters.get? u.name with
  | none =>
    rw [hf] at h
    cases h
  | some f =>
    rw [hf] at h
    rcases Builtin.error_of_mem (he u.name f hf) h with hpattern | ⟨hname, query, hquery, hselect⟩
    · exact .inl hpattern
    · rw [Option.mem_def.mp hquery, Scope.select_limit] at hselect
      exact .inr ⟨hname, query, hquery, hselect⟩

end MarkupQuery
