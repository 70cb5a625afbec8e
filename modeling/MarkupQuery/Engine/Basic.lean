import MarkupQuery.Engine.Scope

/-! Engines. A filter may evaluate selectors of its own, and these may name filters again. That
comes to an end because a filter sees only uses of filters whose argument is shorter than its own:
whatever selector is read from its argument has no others. Filters that select by other selectors
are functions that need no scope any more, and every engine with such filters is among these. -/

namespace MarkupQuery

/-- A filter finds places from a context, given its argument, if it has one. In its scope it sees only
uses with a shorter argument: one without an argument that selects by `:first` itself finds nothing
there. -/
abbrev Filter := Scope → Context → (argument : Option String) → Found

/-- No argument counts less than the empty one. -/
def argumentSize : Option String → Nat
  | none => 0
  | some a => a.length + 1

/-- The scope without the filters whose argument is of size `n` or more. -/
def Scope.limit (s : Scope) (n : Nat) : Scope :=
  { s with filter? := fun name a => if argumentSize a < n then s.filter? name a else none }

structure Engine where
  filters : Dictionary Filter
  options : Options := {}
  walker : Walker := .document

namespace Engine

/-- The engine as seen by a filter with an argument of size `n`. -/
def scopeBelow (e : Engine) : Nat → Scope
  | 0 => ⟨e.options, e.walker, fun _ _ => none⟩
  | n + 1 =>
    ⟨e.options, e.walker, fun name a =>
      if argumentSize a ≤ n then
        (e.filters.get? name).map fun f c => f ((scopeBelow e n).limit (argumentSize a)) c a
      else none⟩

/-- The engine as seen from outside. -/
def scope (e : Engine) : Scope :=
  ⟨e.options, e.walker, fun name a =>
    (e.filters.get? name).map fun f c => f (e.scopeBelow (argumentSize a)) c a⟩

theorem limit_scopeBelow (e : Engine) (n : Nat) :
    ∀ m ≤ n, (e.scopeBelow n).limit m = e.scopeBelow m := by
  induction n using Nat.strongRecOn with
  | _ n ih =>
    intro m h
    cases m with
    | zero => cases n <;> simp [Scope.limit, scopeBelow]
    | succ m =>
      obtain ⟨n, rfl⟩ : ∃ k, n = k + 1 := ⟨n - 1, by omega⟩
      rw [Scope.limit, scopeBelow, scopeBelow]
      congr 1
      funext name a
      by_cases ha : argumentSize a ≤ m
      · simp only [Nat.lt_succ_iff, if_pos ha, if_pos (show argumentSize a ≤ n by omega),
          ih n (by omega) _ (show argumentSize a ≤ n by omega), ih m (by omega) _ ha]
      · simp only [Nat.lt_succ_iff, if_neg ha]

theorem scopeBelow_eq (e : Engine) (n : Nat) : e.scopeBelow n = e.scope.limit n := by
  cases n with
  | zero => simp [Scope.limit, scopeBelow, scope]
  | succ n =>
    rw [Scope.limit, scopeBelow, scope]
    congr 1
    funext name a
    by_cases ha : argumentSize a ≤ n
    · simp only [Nat.lt_succ_iff, if_pos ha, limit_scopeBelow e n _ ha]
    · simp only [Nat.lt_succ_iff, if_neg ha]

/-- A filter runs in the engine's own scope, limited by its argument. -/
theorem scope_filter? (e : Engine) (name : String) (a : Option String) :
    e.scope.filter? name a =
      (e.filters.get? name).map fun f c => f (e.scope.limit (argumentSize a)) c a := by
  simp only [← scopeBelow_eq]
  rfl

/-- Filters that see all of the scope they make up, and so may select by whatever selectors they like,
are no more than the filters of an engine: as functions of the context and the argument they need not
see it. What holds of the scope of every engine holds of theirs. -/
theorem exists_scope_eq {s : Scope} {filters : Dictionary Filter}
    (h : ∀ name a, s.filter? name a = (filters.get? name).map fun f c => f s c a) :
    ∃ e : Engine, e.scope = s := by
  refine ⟨⟨filters.map fun f _ => f s, s.options, s.walker⟩, ?_⟩
  rw [scope]
  congr 1
  funext name a
  rw [h, Dictionary.get?_map, Option.map_map]
  rfl

def select (e : Engine) (roots : List Place) (query : String) : Found := e.scope.select roots query

def selectParsed (e : Engine) (roots : List Place) (x : Selector) : Found :=
  e.scope.selectParsed roots x

def selectAlternative (e : Engine) (roots : List Place) (x : Alternative) : Found :=
  e.scope.selectAlternative roots x

end Engine

end MarkupQuery
