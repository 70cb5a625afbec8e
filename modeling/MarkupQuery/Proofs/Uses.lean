import MarkupQuery.Engine.Scope
import MarkupQuery.Proofs.Outcome

/-! Which filters a selector uses, each with its argument. Evaluation asks its scope for these and
no others, so scopes that agree on them evaluate alike, and as only filters fail, every error is
that of a filter in use. -/

namespace MarkupQuery

structure FilterUse where
  name : String
  argument : Option String
deriving DecidableEq

mutual

def Token.uses : Token → List FilterUse
  | .filter f => FilterCall.uses f
  | _ => []

/-- The filters of the preselector, the filter itself and those that run on what it finds. -/
def FilterCall.uses : FilterCall → List FilterUse
  | ⟨preselector, name, argument, next⟩ =>
    (match preselector with
      | some ts => Alternative.uses ts
      | none => []) ++ ⟨name, argument⟩ ::
    (match next with
      | some f => FilterCall.uses f
      | none => [])

def Alternative.uses : List Token → List FilterUse
  | [] => []
  | t :: ts => Token.uses t ++ Alternative.uses ts

end

def Selector.uses (x : Selector) : List FilterUse := x.flatMap Alternative.uses

theorem Alternative.mem_uses {ts : List Token} {u : FilterUse} :
    u ∈ Alternative.uses ts ↔ ∃ t ∈ ts, u ∈ t.uses := by
  induction ts with
  | nil => simp [Alternative.uses]
  | cons t ts ih => simp [Alternative.uses, ih]

theorem FilterCall.mem_uses {f : FilterCall} {u : FilterUse} :
    u ∈ f.uses ↔ (∃ ts ∈ f.preselector, u ∈ Alternative.uses ts) ∨ u = ⟨f.name, f.argument⟩ ∨
      ∃ g ∈ f.next, u ∈ g.uses := by
  obtain ⟨preselector, name, argument, next⟩ := f
  cases preselector <;> cases next <;> simp [FilterCall.uses]

namespace Scope

/-- What a filter sees: what its preselector finds in each group, or else all places as one group. -/
def preselected (s : Scope) (c : Context) : Option (List Token) → Except SelectError Context
  | some ts => (c.groups.mapM fun g => s.selectAlternative g ts).map Context.mk
  | none => .ok (.single c.places)

/-- A filter of no known name finds nothing. -/
def runFilter (s : Scope) (u : FilterUse) (input : Context) : Found :=
  match s.filter? u.name u.argument with
  | some run => run input
  | none => .ok []

theorem applyFilter_eq (s : Scope) (c : Context) (f : FilterCall) :
    s.applyFilter c f = (do
      let input ← s.preselected c f.preselector
      let found ← s.runFilter ⟨f.name, f.argument⟩ input
      match f.next with
      | some g => s.applyFilter (.ofPlaces found) g
      | none => .ok (.ofPlaces found)) := by
  obtain ⟨preselector, name, argument, next⟩ := f
  cases preselector <;> cases next <;> simp only [applyFilter, runFilter] <;>
    cases s.filter? name argument <;> rfl

/-- The same walker, and the same filters as far as they are used. -/
structure AgreeOn (us : List FilterUse) (s s' : Scope) : Prop where
  walker : s.walker = s'.walker
  filter? : ∀ u ∈ us, s.filter? u.name u.argument = s'.filter? u.name u.argument

variable {s s' : Scope}

theorem AgreeOn.mono {us vs : List FilterUse} (h : AgreeOn us s s') (hsub : ∀ u ∈ vs, u ∈ us) :
    AgreeOn vs s s' := ⟨h.walker, fun u hu => h.filter? u (hsub u hu)⟩

theorem AgreeOn.runFilter_eq {us : List FilterUse} {u : FilterUse} (h : AgreeOn us s s') (hu : u ∈ us) :
    s.runFilter u = s'.runFilter u := by
  unfold runFilter
  rw [h.filter? u hu]

mutual

theorem applyToken_agree (c : Context) : ∀ t : Token, AgreeOn t.uses s s' →
    s.applyToken c t = s'.applyToken c t
  | .universal, _ => by rw [applyToken, applyToken]
  | .compound x, h => by rw [applyToken, applyToken, findCompound, findCompound, h.walker]
  | .id value, h => by rw [applyToken, applyToken, findId, findId, h.walker]
  | .classes x, h => by rw [applyToken, applyToken, findClasses, findClasses, h.walker]
  | .filter f, h => by
    rw [Token.uses] at h
    rw [applyToken, applyToken, applyFilter_agree c f h]
  | .unrecognized text, _ => by rw [applyToken, applyToken]

theorem applyFilter_agree (c : Context) : ∀ f : FilterCall, AgreeOn f.uses s s' →
    s.applyFilter c f = s'.applyFilter c f
  | ⟨preselector, name, argument, next⟩, h => by
    have hpre : s.preselected c preselector = s'.preselected c preselector := by
      cases preselector with
      | none => rfl
      | some ts =>
        have hts : AgreeOn (Alternative.uses ts) s s' :=
          h.mono fun u hu => FilterCall.mem_uses.mpr (.inl ⟨ts, rfl, hu⟩)
        simp only [preselected, selectAlternative, applyTokens_agree _ ts hts]
    have hrun : s.runFilter ⟨name, argument⟩ = s'.runFilter ⟨name, argument⟩ :=
      h.runFilter_eq (FilterCall.mem_uses.mpr (.inr (.inl rfl)))
    rw [applyFilter_eq, applyFilter_eq, hpre, hrun]
    cases next with
    | none => rfl
    | some g =>
      have hg : AgreeOn g.uses s s' :=
        h.mono fun u hu => FilterCall.mem_uses.mpr (.inr (.inr ⟨g, rfl, hu⟩))
      simp only [applyFilter_agree _ g hg]

theorem applyTokens_agree (c : Context) : ∀ ts : List Token, AgreeOn (Alternative.uses ts) s s' →
    s.applyTokens c ts = s'.applyTokens c ts
  | [], _ => by rw [applyTokens, applyTokens]
  | t :: ts, h => by
    rw [Alternative.uses] at h
    have ht : AgreeOn t.uses s s' := h.mono fun u hu => List.mem_append_left _ hu
    have hts : AgreeOn (Alternative.uses ts) s s' := h.mono fun u hu => List.mem_append_right _ hu
    rw [applyTokens, applyTokens, applyToken_agree c t ht]
    simp only [applyTokens_agree _ ts hts]

end

theorem selectParsed_agree {x : Selector} (h : AgreeOn x.uses s s') (roots : List Place) :
    s.selectParsed roots x = s'.selectParsed roots x := by
  have hx : ∀ ts ∈ x, s.selectAlternative roots ts = s'.selectAlternative roots ts := by
    intro ts hts
    have hagree : AgreeOn (Alternative.uses ts) s s' :=
      h.mono fun u hu => List.mem_flatMap.mpr ⟨ts, hts, hu⟩
    rw [selectAlternative, selectAlternative, applyTokens_agree _ ts hagree]
  rw [selectParsed, selectParsed, Outcome.mapM_congr hx]

/-- A text selects the same where the filters that its selector uses are the same. -/
theorem select_agree {query : String}
    (h : ∀ x, Selector.parse query = .ok x → AgreeOn x.uses s s') (roots : List Place) :
    s.select roots query = s'.select roots query := by
  unfold select
  cases hx : Selector.parse query with
  | error e => rfl
  | ok x => exact selectParsed_agree (h x hx) roots

mutual

theorem applyToken_error {c : Context} {err : SelectError} : ∀ t : Token,
    s.applyToken c t = .error err → ∃ u ∈ t.uses, ∃ input, s.runFilter u input = .error err
  | .universal, h => by rw [applyToken] at h; cases h
  | .compound x, h => by rw [applyToken] at h; cases h
  | .id value, h => by rw [applyToken] at h; cases h
  | .classes x, h => by rw [applyToken] at h; cases h
  | .filter f, h => by
    rw [applyToken] at h
    rw [Token.uses]
    exact applyFilter_error f h
  | .unrecognized text, h => by rw [applyToken] at h; cases h

/-- The preselector, the filter and the next filter may fail, in this order. -/
theorem applyFilter_error {c : Context} {err : SelectError} : ∀ f : FilterCall,
    s.applyFilter c f = .error err → ∃ u ∈ f.uses, ∃ input, s.runFilter u input = .error err
  | ⟨preselector, name, argument, next⟩, h => by
    rw [applyFilter_eq, Outcome.bind_eq_error_iff] at h
    rcases h with hpre | ⟨input, -, h⟩
    · cases preselector with
      | none => cases hpre
      | some ts =>
        obtain ⟨_, g, _, -, -, hg⟩ := Outcome.mapM_eq_error_iff.mp (Outcome.map_eq_error_iff.mp hpre)
        obtain ⟨u, hu, hrun⟩ := applyTokens_error ts (Outcome.map_eq_error_iff.mp hg)
        exact ⟨u, FilterCall.mem_uses.mpr (.inl ⟨ts, rfl, hu⟩), hrun⟩
    rcases Outcome.bind_eq_error_iff.mp h with hrun | ⟨found, -, hnext⟩
    · exact ⟨_, FilterCall.mem_uses.mpr (.inr (.inl rfl)), input, hrun⟩
    · cases next with
      | none => cases hnext
      | some g =>
        obtain ⟨u, hu, hrun⟩ := applyFilter_error g hnext
        exact ⟨u, FilterCall.mem_uses.mpr (.inr (.inr ⟨g, rfl, hu⟩)), hrun⟩

theorem applyTokens_error {c : Context} {err : SelectError} : ∀ ts : List Token,
    s.applyTokens c ts = .error err →
      ∃ u ∈ Alternative.uses ts, ∃ input, s.runFilter u input = .error err
  | [], h => by rw [applyTokens] at h; cases h
  | t :: ts, h => by
    rw [applyTokens, Outcome.bind_eq_error_iff] at h
    rw [Alternative.uses]
    rcases h with ht | ⟨d, -, hd⟩
    · obtain ⟨u, hu, hrun⟩ := applyToken_error t ht
      exact ⟨u, List.mem_append_left _ hu, hrun⟩
    · split at hd
      · cases hd
      · obtain ⟨u, hu, hrun⟩ := applyTokens_error ts hd
        exact ⟨u, List.mem_append_right _ hu, hrun⟩

end

theorem selectParsed_error {roots : List Place} {x : Selector} {err : SelectError}
    (h : s.selectParsed roots x = .error err) :
    ∃ u ∈ x.uses, ∃ input, s.runFilter u input = .error err := by
  obtain ⟨_, ts, _, rfl, -, hts⟩ := Outcome.mapM_eq_error_iff.mp (Outcome.map_eq_error_iff.mp h)
  obtain ⟨u, hu, hrun⟩ := applyTokens_error ts (Outcome.map_eq_error_iff.mp hts)
  exact ⟨u, List.mem_flatMap.mpr ⟨ts, by simp, hu⟩, hrun⟩

/-- A text that selects nothing but an error cannot be read, or uses a filter that fails so. -/
theorem select_error {roots : List Place} {query : String} {err : SelectError}
    (h : s.select roots query = .error err) :
    (∃ e, Selector.parse query = .error e ∧ err = .malformed query e) ∨
      ∃ x, Selector.parse query = .ok x ∧
        ∃ u ∈ x.uses, ∃ input, s.runFilter u input = .error err := by
  unfold select at h
  cases hx : Selector.parse query with
  | error e =>
    rw [hx] at h
    cases h
    exact .inl ⟨e, rfl, rfl⟩
  | ok x =>
    rw [hx] at h
    exact .inr ⟨x, rfl, selectParsed_error h⟩

end Scope

end MarkupQuery
