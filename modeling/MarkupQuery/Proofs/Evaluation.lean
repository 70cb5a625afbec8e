import Mathlib.Control.Monad.Basic
import Mathlib.Data.Prod.Lex
import MarkupQuery.Proofs.BuiltinFilters

/-! Evaluation as a recursion that nothing holds back. The rules below say call by call what the
evaluation of a selector consists of; `:not` selects by its argument in the engine itself, whatever
text that is. As every call leads only to calls with shorter arguments or to a part of what it is
about, the rules have exactly one outcome for each, and it is what the engine gives. -/

namespace MarkupQuery

namespace Engine

mutual

/-- A text is read first, and what was read is run. -/
inductive Selects (e : Engine) : List Place → String → Found → Prop where
  | malformed {roots : List Place} {query : String} {err : ParseError} :
      Selector.parse query = .error err → Selects e roots query (.error (.malformed query err))
  | parsed {roots : List Place} {query : String} {x : Selector} {r : Found} :
      Selector.parse query = .ok x → SelectsParsed e roots x r → Selects e roots query r

/-- The alternatives are run one after the other, up to the first that fails. -/
inductive SelectsParsed (e : Engine) : List Place → Selector → Found → Prop where
  | nil {roots : List Place} : SelectsParsed e roots [] (.ok [])
  | fail {roots : List Place} {ts : Alternative} {x : Selector} {err : SelectError} :
      SelectsAlternative e roots ts (.error err) → SelectsParsed e roots (ts :: x) (.error err)
  | cons {roots ps : List Place} {ts : Alternative} {x : Selector} {r : Found} :
      SelectsAlternative e roots ts (.ok ps) → SelectsParsed e roots x r →
      SelectsParsed e roots (ts :: x) (r.map (ps ++ ·))

inductive SelectsAlternative (e : Engine) : List Place → Alternative → Found → Prop where
  | tokens {roots : List Place} {ts : Alternative} {r : Except SelectError Context} :
      AppliesTokens e (.single roots) ts r → SelectsAlternative e roots ts (r.map Context.places)

/-- The tokens are applied in turn as long as something is left. -/
inductive AppliesTokens (e : Engine) :
    Context → List Token → Except SelectError Context → Prop where
  | nil {c : Context} : AppliesTokens e c [] (.ok c)
  | fail {c : Context} {t : Token} {ts : List Token} {err : SelectError} :
      AppliesToken e c t (.error err) → AppliesTokens e c (t :: ts) (.error err)
  | stop {c d : Context} {t : Token} {ts : List Token} :
      AppliesToken e c t (.ok d) → d.isEmpty = true → AppliesTokens e c (t :: ts) (.ok {})
  | cons {c d : Context} {t : Token} {ts : List Token} {r : Except SelectError Context} :
      AppliesToken e c t (.ok d) → d.isEmpty = false → AppliesTokens e d ts r →
      AppliesTokens e c (t :: ts) r

inductive AppliesToken (e : Engine) : Context → Token → Except SelectError Context → Prop where
  | universal {c : Context} : AppliesToken e c .universal (.ok c)
  | compound {c : Context} {x : Compound} :
      AppliesToken e c (.compound x) (.ok (e.scope.findCompound c x))
  | id {c : Context} {value : String} : AppliesToken e c (.id value) (.ok (e.scope.findId c value))
  | classes {c : Context} {x : ClassList} :
      AppliesToken e c (.classes x) (.ok (e.scope.findClasses c x))
  | filter {c : Context} {f : FilterCall} {r : Except SelectError Context} :
      AppliesFilter e c f r → AppliesToken e c (.filter f) r
  | unrecognized {c : Context} {text : String} : AppliesToken e c (.unrecognized text) (.ok {})

/-- First the preselector, then the filter, and then the next filter on what this one found. -/
inductive AppliesFilter (e : Engine) :
    Context → FilterCall → Except SelectError Context → Prop where
  | preselectorFails {c : Context} {f : FilterCall} {err : SelectError} :
      Preselects e c f.preselector (.error err) → AppliesFilter e c f (.error err)
  | filterFails {c input : Context} {f : FilterCall} {err : SelectError} :
      Preselects e c f.preselector (.ok input) →
      RunsFilter e ⟨f.name, f.argument⟩ input (.error err) → AppliesFilter e c f (.error err)
  | last {c input : Context} {f : FilterCall} {found : List Place} :
      Preselects e c f.preselector (.ok input) →
      RunsFilter e ⟨f.name, f.argument⟩ input (.ok found) → f.next = none →
      AppliesFilter e c f (.ok (.ofPlaces found))
  | chained {c input : Context} {f g : FilterCall} {found : List Place}
      {r : Except SelectError Context} :
      Preselects e c f.preselector (.ok input) →
      RunsFilter e ⟨f.name, f.argument⟩ input (.ok found) → f.next = some g →
      AppliesFilter e (.ofPlaces found) g r → AppliesFilter e c f r

inductive Preselects (e : Engine) :
    Context → Option (List Token) → Except SelectError Context → Prop where
  | none {c : Context} : Preselects e c none (.ok (.single c.places))
  | some {c : Context} {ts : List Token} {r : Except SelectError (List (List Place))} :
      SelectsInGroups e c.groups ts r → Preselects e c (some ts) (r.map Context.mk)

/-- A preselector is run on every group by itself. -/
inductive SelectsInGroups (e : Engine) :
    List (List Place) → List Token → Except SelectError (List (List Place)) → Prop where
  | nil {ts : List Token} : SelectsInGroups e [] ts (.ok [])
  | fail {g : List Place} {gs : List (List Place)} {ts : List Token} {err : SelectError} :
      SelectsAlternative e g ts (.error err) → SelectsInGroups e (g :: gs) ts (.error err)
  | cons {g ps : List Place} {gs : List (List Place)} {ts : List Token}
      {r : Except SelectError (List (List Place))} :
      SelectsAlternative e g ts (.ok ps) → SelectsInGroups e gs ts r →
      SelectsInGroups e (g :: gs) ts (r.map (ps :: ·))

/-- Only `:not` with an argument selects again; the other filters need no engine to select in. -/
inductive RunsFilter (e : Engine) : FilterUse → Context → Found → Prop where
  | unknown {u : FilterUse} {input : Context} :
      e.filters.get? u.name = none → RunsFilter e u input (.ok [])
  | alone {u : FilterUse} {input : Context} {f : Filter} {r : Found} :
      e.filters.get? u.name = some f → u.name ≠ "not" ∨ u.argument = none →
      f (e.scopeBelow 0) input u.argument = r → RunsFilter e u input r
  | not {input : Context} {query : String} {f : Filter} {r : Found} :
      e.filters.get? "not" = some f → Selects e input.places query r →
      RunsFilter e ⟨"not", query⟩ input (r.map fun excluded =>
        (Builtin.outsideText input.places).filter fun p =>
          !excluded.any fun member => Builtin.isSame e.options.notComparison member p)

end

end Engine

/-! Which call leads to which, and why this comes to an end. -/

/-- A call of the evaluation, whatever places it is about. -/
inductive Call where
  | select (query : String)
  | parsed (x : Selector)
  | alternative (ts : Alternative)
  | filter (f : FilterCall)
  | run (u : FilterUse)

/-- The calls that the first one makes. The engine is entered again by `:not`, with its argument. -/
inductive Call.Makes : Call → Call → Prop where
  | parsed {query : String} {x : Selector} :
      Selector.parse query = .ok x → Makes (.select query) (.parsed x)
  | alternative {x : Selector} {ts : Alternative} : ts ∈ x → Makes (.parsed x) (.alternative ts)
  | filter {ts : Alternative} {f : FilterCall} :
      .filter f ∈ ts → Makes (.alternative ts) (.filter f)
  | preselector {f : FilterCall} {ts : Alternative} :
      f.preselector = some ts → Makes (.filter f) (.alternative ts)
  | run {f : FilterCall} : Makes (.filter f) (.run ⟨f.name, f.argument⟩)
  | next {f g : FilterCall} : f.next = some g → Makes (.filter f) (.filter g)
  | not {query : String} : Makes (.run ⟨"not", query⟩) (.select query)

/-- The size of the longest argument. -/
def longestArgument (us : List FilterUse) : Nat :=
  (us.map fun u => argumentSize u.argument).foldr max 0

theorem longestArgument_le_iff {us : List FilterUse} {n : Nat} :
    longestArgument us ≤ n ↔ ∀ u ∈ us, argumentSize u.argument ≤ n := by
  induction us with
  | nil => simp [longestArgument]
  | cons u us ih => simpa [longestArgument] using fun _ => ih

theorem longestArgument_mono {us vs : List FilterUse} (h : ∀ u ∈ us, u ∈ vs) :
    longestArgument us ≤ longestArgument vs :=
  longestArgument_le_iff.mpr fun u hu => longestArgument_le_iff.mp (Nat.le_refl _) u (h u hu)

theorem FilterCall.sizeOf_next_lt {f g : FilterCall} (h : f.next = some g) :
    sizeOf g < sizeOf f := by
  obtain ⟨preselector, name, argument, next⟩ := f
  cases h
  simp only [FilterCall.mk.sizeOf_spec, Option.some.sizeOf_spec]
  omega

theorem FilterCall.sizeOf_preselector_lt {f : FilterCall} {ts : Alternative}
    (h : f.preselector = some ts) : sizeOf ts < sizeOf f := by
  obtain ⟨preselector, name, argument, next⟩ := f
  cases h
  simp only [FilterCall.mk.sizeOf_spec, Option.some.sizeOf_spec]
  omega

namespace Call

/-- The longest argument that a call may still get to. -/
def reach : Call → Nat
  | .select query => argumentSize (some query)
  | .parsed x => longestArgument x.uses
  | .alternative ts => longestArgument (Alternative.uses ts)
  | .filter f => longestArgument f.uses
  | .run u => argumentSize u.argument

/-- How much of a selector is left. Reading a text is put below all of it. -/
noncomputable def size : Call → Nat
  | .select _ => 0
  | .parsed x => sizeOf x + 1
  | .alternative ts => sizeOf ts + 1
  | .filter f => sizeOf f + 1
  | .run _ => 1

/-- To read a text leaves only shorter arguments; every other step keeps to the arguments and goes
to a smaller part. -/
theorem Makes.lt {a b : Call} (h : a.Makes b) :
    toLex (b.reach, b.size) < toLex (a.reach, a.size) := by
  rw [Prod.Lex.toLex_lt_toLex']
  cases h with
  | @parsed query x hx =>
    have hlt : longestArgument x.uses ≤ query.length :=
      longestArgument_le_iff.mpr fun u hu => Nat.le_of_lt_succ (Selector.argumentSize_lt hx hu)
    exact ⟨Nat.le_succ_of_le hlt, fun heq => absurd heq (Nat.ne_of_lt (Nat.lt_succ_of_le hlt))⟩
  | alternative hts =>
    refine ⟨longestArgument_mono fun u hu => List.mem_flatMap.mpr ⟨_, hts, hu⟩, fun _ => ?_⟩
    exact Nat.succ_lt_succ (List.sizeOf_lt_of_mem hts)
  | @filter ts f hf =>
    have hsize : sizeOf f < sizeOf ts := by
      have := List.sizeOf_lt_of_mem hf
      simp only [Token.filter.sizeOf_spec] at this
      omega
    exact ⟨longestArgument_mono fun u hu => Alternative.mem_uses.mpr ⟨_, hf, by rwa [Token.uses]⟩,
      fun _ => Nat.succ_lt_succ hsize⟩
  | preselector hts =>
    exact ⟨longestArgument_mono fun u hu => FilterCall.mem_uses.mpr (.inl ⟨_, hts, hu⟩),
      fun _ => Nat.succ_lt_succ (FilterCall.sizeOf_preselector_lt hts)⟩
  | @run f =>
    have hown : ⟨f.name, f.argument⟩ ∈ f.uses := FilterCall.mem_uses.mpr (.inr (.inl rfl))
    have hpos : 0 < sizeOf f := by
      cases f
      simp only [FilterCall.mk.sizeOf_spec]
      omega
    exact ⟨longestArgument_le_iff.mp (Nat.le_refl _) _ hown, fun _ => Nat.succ_lt_succ hpos⟩
  | next hg =>
    exact ⟨longestArgument_mono fun u hu => FilterCall.mem_uses.mpr (.inr (.inr ⟨_, hg, hu⟩)),
      fun _ => Nat.succ_lt_succ (FilterCall.sizeOf_next_lt hg)⟩
  | not => exact ⟨Nat.le_refl _, fun _ => Nat.one_pos⟩

theorem makes_wellFounded : WellFounded fun b a : Call => a.Makes b :=
  Subrelation.wf Makes.lt (InvImage.wf (fun a : Call => toLex (a.reach, a.size)) wellFounded_lt)

end Call

/-! What the rules give is what the engine gives. -/

namespace Builtin

theorem eq_not_of_mem {patterns : Patterns} {f : Filter} (h : ("not", f) ∈ all patterns) : f = not := by
  simpa [all] using h

/-- A filter that is given nothing to select by finds the same wherever the options are the same. -/
theorem congr_of_mem {patterns : Patterns} {name : String} {f : Filter}
    (hf : (name, f) ∈ all patterns) {s s' : Scope} (ho : s.options = s'.options)
    (hw : s.walker = s'.walker) {a : Option String} (ha : name ≠ "not" ∨ a = none) (c : Context) :
    f s c a = f s' c a := by
  rcases mem_all_cases hf with ⟨-, rfl⟩ | ⟨rfl, rfl⟩ | hdirect
  · rw [containsBy_congr (congrArg _ ho)]
  · obtain rfl := ha.resolve_left (not_not_intro rfl)
    rw [not_eq, not_eq, ho]
  · exact hdirect.congr s s' c a ho hw

end Builtin

namespace Engine

variable {e : Engine} {patterns : Patterns}

theorem selectParsed_cons (e : Engine) (roots : List Place) (ts : Alternative) (x : Selector) :
    e.selectParsed roots (ts :: x) =
      (e.selectAlternative roots ts >>= fun ps => (e.selectParsed roots x).map (ps ++ ·)) := by
  simp only [selectParsed, selectAlternative, Scope.selectParsed, List.mapM_cons]
  cases e.scope.selectAlternative roots ts with
  | error err => rfl
  | ok ps => cases x.mapM (e.scope.selectAlternative roots) <;> simp

theorem runFilter_of_unknown {u : FilterUse} (h : e.filters.get? u.name = none) (input : Context) :
    e.scope.runFilter u input = .ok [] := by
  rw [Scope.runFilter, scope_filter?, h]
  rfl

namespace OnlyBuiltin

theorem runFilter_alone (he : e.OnlyBuiltin patterns) {u : FilterUse} {f : Filter}
    (hf : e.filters.get? u.name = some f) (ha : u.name ≠ "not" ∨ u.argument = none)
    (input : Context) : e.scope.runFilter u input = f (e.scopeBelow 0) input u.argument := by
  rw [Scope.runFilter, scope_filter?, hf]
  refine Builtin.congr_of_mem (he u.name f hf) ?_ ?_ ha input
  · rfl
  · rfl

theorem runFilter_not (he : e.OnlyBuiltin patterns) {f : Filter} (hf : e.filters.get? "not" = some f)
    (input : Context) (query : String) :
    e.scope.runFilter ⟨"not", query⟩ input =
      (e.select input.places query).map fun excluded : List Place =>
        (Builtin.outsideText input.places).filter fun p =>
          !excluded.any fun member => Builtin.isSame e.options.notComparison member p := by
  rw [runFilter_eq_run hf]
  obtain rfl := Builtin.eq_not_of_mem (he "not" f hf)
  exact e.run_not input (some query)

end OnlyBuiltin

mutual

theorem Selects.eq (he : e.OnlyBuiltin patterns) {roots : List Place} {query : String} {r : Found} :
    e.Selects roots query r → e.select roots query = r
  | .malformed h => by rw [select, Scope.select, h]
  | .parsed h hx => by
    rw [select, Scope.select, h]
    exact hx.eq he

theorem SelectsParsed.eq (he : e.OnlyBuiltin patterns) {roots : List Place} {x : Selector} {r : Found} :
    e.SelectsParsed roots x r → e.selectParsed roots x = r
  | .nil => rfl
  | .fail hts => by rw [selectParsed_cons, hts.eq he, Outcome.error_bind]
  | .cons hts hx => by rw [selectParsed_cons, hts.eq he, Outcome.ok_bind, hx.eq he]

theorem SelectsAlternative.eq (he : e.OnlyBuiltin patterns) {roots : List Place} {ts : Alternative}
    {r : Found} : e.SelectsAlternative roots ts r → e.selectAlternative roots ts = r
  | .tokens hts => by rw [selectAlternative, Scope.selectAlternative, hts.eq he]

theorem AppliesTokens.eq (he : e.OnlyBuiltin patterns) {c : Context} {ts : List Token}
    {r : Except SelectError Context} : e.AppliesTokens c ts r → e.scope.applyTokens c ts = r
  | .nil => by rw [Scope.applyTokens]
  | .fail ht => by rw [Scope.applyTokens, ht.eq he, Outcome.error_bind]
  | .stop ht hd => by rw [Scope.applyTokens, ht.eq he, Outcome.ok_bind, if_pos hd]
  | .cons ht hd hts => by
    rw [Scope.applyTokens, ht.eq he, Outcome.ok_bind, if_neg (Bool.eq_false_iff.mp hd), hts.eq he]

theorem AppliesToken.eq (he : e.OnlyBuiltin patterns) {c : Context} {t : Token}
    {r : Except SelectError Context} : e.AppliesToken c t r → e.scope.applyToken c t = r
  | .universal => by rw [Scope.applyToken]
  | .compound => by rw [Scope.applyToken]
  | .id => by rw [Scope.applyToken]
  | .classes => by rw [Scope.applyToken]
  | .filter hf => by rw [Scope.applyToken, hf.eq he]
  | .unrecognized => by rw [Scope.applyToken]

theorem AppliesFilter.eq (he : e.OnlyBuiltin patterns) {c : Context} {f : FilterCall}
    {r : Except SelectError Context} : e.AppliesFilter c f r → e.scope.applyFilter c f = r
  | .preselectorFails hpre => by rw [Scope.applyFilter_eq, hpre.eq he, Outcome.error_bind]
  | .filterFails hpre hrun => by
    rw [Scope.applyFilter_eq, hpre.eq he, Outcome.ok_bind, hrun.eq he, Outcome.error_bind]
  | .last hpre hrun hnext => by
    rw [Scope.applyFilter_eq, hpre.eq he, Outcome.ok_bind, hrun.eq he, Outcome.ok_bind, hnext]
  | .chained hpre hrun hnext hg => by
    rw [Scope.applyFilter_eq, hpre.eq he, Outcome.ok_bind, hrun.eq he, Outcome.ok_bind, hnext]
    exact hg.eq he

theorem Preselects.eq (he : e.OnlyBuiltin patterns) {c : Context} {ts : Option (List Token)}
    {r : Except SelectError Context} : e.Preselects c ts r → e.scope.preselected c ts = r
  | .none => rfl
  | .some hgs => congrArg (Except.map Context.mk) (hgs.eq he)

theorem SelectsInGroups.eq (he : e.OnlyBuiltin patterns) {gs : List (List Place)} {ts : List Token}
    {r : Except SelectError (List (List Place))} : e.SelectsInGroups gs ts r →
      gs.mapM (fun g => e.selectAlternative g ts) = r
  | .nil => rfl
  | .fail hg => by rw [List.mapM_cons, hg.eq he, Outcome.error_bind]
  | .cons hg hgs => by
    rw [List.mapM_cons, hg.eq he, Outcome.ok_bind, hgs.eq he]
    rfl

theorem RunsFilter.eq (he : e.OnlyBuiltin patterns) {u : FilterUse} {input : Context} {r : Found} :
    e.RunsFilter u input r → e.scope.runFilter u input = r
  | .unknown h => runFilter_of_unknown h input
  | .alone hf ha hr => (he.runFilter_alone hf ha input).trans hr
  | .not hf hquery => by rw [he.runFilter_not hf, hquery.eq he]

end

/-- Wherever it is made, the call comes to an end, and with the engine's own result. -/
def Completes (e : Engine) : Call → Prop
  | .select query => ∀ roots, e.Selects roots query (e.select roots query)
  | .parsed x => ∀ roots, e.SelectsParsed roots x (e.selectParsed roots x)
  | .alternative ts => ∀ roots, e.SelectsAlternative roots ts (e.selectAlternative roots ts)
  | .filter f => ∀ c, e.AppliesFilter c f (e.scope.applyFilter c f)
  | .run u => ∀ input, e.RunsFilter u input (e.scope.runFilter u input)

theorem completes_select {query : String}
    (h : ∀ x, Selector.parse query = .ok x → e.Completes (.parsed x)) :
    e.Completes (.select query) := by
  intro roots
  rw [select, Scope.select]
  cases hx : Selector.parse query with
  | error err => exact .malformed hx
  | ok x => exact .parsed hx (h x hx roots)

theorem completes_parsed {x : Selector} (h : ∀ ts ∈ x, e.Completes (.alternative ts)) :
    e.Completes (.parsed x) := by
  intro roots
  induction x with
  | nil => exact .nil
  | cons ts x ih =>
    obtain ⟨hts, hx⟩ := List.forall_mem_cons.mp h
    have hfirst := hts roots
    rw [selectParsed_cons]
    cases hps : e.selectAlternative roots ts with
    | error err =>
      rw [hps] at hfirst
      exact .fail hfirst
    | ok ps =>
      rw [hps] at hfirst
      exact .cons hfirst (ih hx)

theorem appliesToken {t : Token} (h : ∀ f, t = .filter f → e.Completes (.filter f)) (c : Context) :
    e.AppliesToken c t (e.scope.applyToken c t) := by
  cases t <;> rw [Scope.applyToken]
  case filter f => exact .filter (h f rfl c)
  all_goals constructor

theorem appliesTokens {ts : List Token} (h : ∀ f, .filter f ∈ ts → e.Completes (.filter f))
    (c : Context) : e.AppliesTokens c ts (e.scope.applyTokens c ts) := by
  induction ts generalizing c with
  | nil =>
    rw [Scope.applyTokens]
    exact .nil
  | cons t ts ih =>
    have ht : e.AppliesToken c t (e.scope.applyToken c t) :=
      appliesToken (fun f hf => h f (hf ▸ List.mem_cons_self)) c
    rw [Scope.applyTokens]
    cases hd : e.scope.applyToken c t with
    | error err =>
      rw [hd] at ht
      exact .fail ht
    | ok d =>
      rw [hd] at ht
      rw [Outcome.ok_bind]
      split
      · exact .stop ht ‹_›
      · exact .cons ht (Bool.eq_false_iff.mpr ‹_›)
          (ih (fun f hf => h f (List.mem_cons_of_mem t hf)) d)

theorem completes_alternative {ts : Alternative}
    (h : ∀ f, .filter f ∈ ts → e.Completes (.filter f)) : e.Completes (.alternative ts) :=
  fun roots => .tokens (appliesTokens h (.single roots))

theorem preselects {ts : Option (List Token)} (h : ∀ ts' ∈ ts, e.Completes (.alternative ts'))
    (c : Context) : e.Preselects c ts (e.scope.preselected c ts) := by
  cases ts with
  | none => exact .none
  | some ts =>
    have hgroups : ∀ gs, e.SelectsInGroups gs ts (gs.mapM fun g => e.selectAlternative g ts) := by
      intro gs
      induction gs with
      | nil => exact .nil
      | cons g gs ih =>
        have hg := h ts rfl g
        rw [List.mapM_cons]
        cases hps : e.selectAlternative g ts with
        | error err =>
          rw [hps] at hg
          exact .fail hg
        | ok ps =>
          rw [hps] at hg
          exact .cons hg ih
    exact .some (hgroups c.groups)

theorem completes_filter {f : FilterCall}
    (hpre : ∀ ts ∈ f.preselector, e.Completes (.alternative ts))
    (hrun : e.Completes (.run ⟨f.name, f.argument⟩))
    (hnext : ∀ g ∈ f.next, e.Completes (.filter g)) : e.Completes (.filter f) := by
  intro c
  have hinput := preselects hpre c
  rw [Scope.applyFilter_eq]
  cases hi : e.scope.preselected c f.preselector with
  | error err =>
    rw [hi] at hinput
    exact .preselectorFails hinput
  | ok input =>
    rw [hi] at hinput
    have hfound := hrun input
    rw [Outcome.ok_bind]
    cases hps : e.scope.runFilter ⟨f.name, f.argument⟩ input with
    | error err =>
      rw [hps] at hfound
      exact .filterFails hinput hfound
    | ok ps =>
      rw [hps] at hfound
      rw [Outcome.ok_bind]
      cases hg : f.next with
      | none => exact .last hinput hfound hg
      | some g => exact .chained hinput hfound hg (hnext g hg (.ofPlaces ps))

theorem completes_run (he : e.OnlyBuiltin patterns) {u : FilterUse}
    (h : ∀ query, u = ⟨"not", some query⟩ → e.Completes (.select query)) :
    e.Completes (.run u) := by
  intro input
  cases hf : e.filters.get? u.name with
  | none =>
    rw [runFilter_of_unknown hf]
    exact .unknown hf
  | some f =>
    by_cases ha : u.name ≠ "not" ∨ u.argument = none
    · exact .alone hf ha (he.runFilter_alone hf ha input).symm
    · obtain ⟨name, argument⟩ := u
      obtain ⟨hname, hargument⟩ := not_or.mp ha
      obtain rfl := not_not.mp hname
      obtain ⟨query, rfl⟩ := Option.ne_none_iff_exists'.mp hargument
      rw [he.runFilter_not hf]
      exact .not hf (h query rfl input.places)

/-- By induction on the calls, as each of them only leads to lower ones. -/
theorem OnlyBuiltin.completes (he : e.OnlyBuiltin patterns) (a : Call) : e.Completes a := by
  induction a using Call.makes_wellFounded.induction with
  | _ a ih =>
    cases a with
    | select query => exact completes_select fun x hx => ih _ (.parsed hx)
    | parsed x => exact completes_parsed fun ts hts => ih _ (.alternative hts)
    | alternative ts => exact completes_alternative fun f hf => ih _ (.filter hf)
    | filter f =>
      exact completes_filter (fun ts hts => ih _ (.preselector hts)) (ih _ .run)
        fun g hg => ih _ (.next hg)
    | run u =>
      refine completes_run he fun query hu => ?_
      subst hu
      exact ih _ .not

end Engine

/-! Reading. -/

/-- The texts that are read as tokens while the first one is. -/
inductive Rereads : List Char → List Char → Prop where
  | preselector {text : List Char} {p : Grammar.FilterParts} {k : Nat} {ps : List Piece}
      {q : Piece} :
      Grammar.filterParts? text = some p → pieces p.preselector k = .ok ps → q ∈ ps →
      Rereads text q.text
  | argument {text : List Char} {p : Grammar.FilterParts} :
      Grammar.filterParts? text = some p → Rereads text p.argument.text

theorem Rereads.length_lt {a b : List Char} (h : Rereads a b) : b.length < a.length := by
  cases h with
  | preselector hp hps hq =>
    obtain ⟨rest, rfl, -⟩ := Grammar.filterParts?_eq_some_iff.mp hp
    have := length_piece_le hps hq
    simp only [List.length_append, List.length_cons]
    omega
  | argument hp => exact Grammar.length_argument_lt hp

theorem rereads_wellFounded : WellFounded fun b a : List Char => Rereads a b :=
  Subrelation.wf Rereads.length_lt (InvImage.wf List.length wellFounded_lt)

/-- With the built-in filters every evaluation comes to an end, by the rules in one way and with the
result that the engine gives, as no call leads back to itself: the next filter is a part of the one
before it, and a text has only arguments that are shorter. The same holds of reading. -/
theorem evaluation_terminates {e : Engine} {patterns : Patterns} (he : e.OnlyBuiltin patterns) :
    (∀ roots query r, e.Selects roots query r ↔ e.select roots query = r) ∧
      (∀ roots x r, e.SelectsParsed roots x r ↔ e.selectParsed roots x = r) ∧
      (∀ roots ts r, e.SelectsAlternative roots ts r ↔ e.selectAlternative roots ts = r) ∧
      (WellFounded fun b a : Call => a.Makes b) ∧
      (∀ f g : FilterCall, f.next = some g → sizeOf g < sizeOf f) ∧
      (∀ query x, Selector.parse query = .ok x →
        ∀ u ∈ x.uses, ∀ a ∈ u.argument, a.toList.length < query.toList.length) ∧
      WellFounded fun b a : List Char => Rereads a b := by
  refine ⟨fun roots query r => ⟨fun h => h.eq he, ?_⟩, fun roots x r => ⟨fun h => h.eq he, ?_⟩,
    fun roots ts r => ⟨fun h => h.eq he, ?_⟩, Call.makes_wellFounded,
    fun _ _ => FilterCall.sizeOf_next_lt,
    fun _ _ hx u hu => (Selector.names_of_parse hx u hu).shorter, rereads_wellFounded⟩
  · rintro rfl
    exact he.completes (.select query) roots
  · rintro rfl
    exact he.completes (.parsed x) roots
  · rintro rfl
    exact he.completes (.alternative ts) roots

/-- No text reads as this selector, as its argument has a comma. The argument selects by an argument
of its own. -/
theorem evaluation_terminates_nested :
    (Engine.withOptions {}).OnlyBuiltin Pattern.patterns ∧
      (Engine.withOptions {}).SelectsParsed
        [⟨0, (Node.tag "div").withChildren [.tag "p", .tag "q"]⟩]
        [[.filter { name := "not", argument := some ":not(p), div" }]] (.ok [⟨1, .tag "p"⟩]) :=
  have hbuiltin := Engine.onlyBuiltin_withOptions {}
  ⟨hbuiltin, ((evaluation_terminates hbuiltin).2.1 _ _ _).mpr (by decide +kernel)⟩

end MarkupQuery
