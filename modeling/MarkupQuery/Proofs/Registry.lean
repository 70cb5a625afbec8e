import Mathlib.Control.Monad.Basic
import MarkupQuery.Proofs.BuiltinFilters

/-! Which filters matter to a selection. Two engines that differ only in filters of certain names
select the same by every text that mentions none of them: the names that are looked up, also by the
selectors in arguments, all stand in that text. -/

namespace MarkupQuery

namespace Engine

/-- Apart from the filters of certain names, the engines search alike and their filters find the
same. -/
structure AgreeApart (e e' : Engine) (differs : String → Prop) : Prop where
  walker : e.walker = e'.walker
  filters : ∀ name, ¬ differs name → e.filters.get? name = e'.filters.get? name
  sameUnder : ∀ name f, ¬ differs name → e.filters.get? name = some f → f.SameUnder e.options e'.options

variable {e e' : Engine} {patterns : Patterns} {differs : String → Prop}

/-- The induction is on the text: what a filter selects by is an argument in it, which is shorter
and mentions none of the names either. -/
theorem AgreeApart.select_eq (h : e.AgreeApart e' differs) {query : String}
    (hquery : ∀ n, differs n → ¬ Mentions query.toList n) (roots : List Place) :
    e.select roots query = e'.select roots query := by
  induction hn : query.toList.length using Nat.strongRecOn generalizing query roots with
  | _ n ih =>
    subst hn
    refine Scope.select_agree (fun x hx => ⟨h.walker, fun u hu => ?_⟩) roots
    have hnames := Selector.names_of_parse hx u hu
    have hsame : ¬ differs u.name := fun hu => hquery _ hu hnames.name
    rw [Engine.scope_filter?, Engine.scope_filter?, ← h.filters u.name hsame]
    cases hf : e.filters.get? u.name with
    | none => rfl
    | some f =>
      refine congrArg some (funext fun c => h.sameUnder u.name f hsame hf _ _ c _ rfl rfl ?_)
      refine ⟨h.walker, fun text htext roots => ?_⟩
      have hargument : ∀ n, differs n → ¬ Mentions text.toList n :=
        fun n hn hmention => hquery n hn ((hnames.argument text htext).mentions hmention)
      rw [Option.mem_def.mp htext, Scope.select_limit, Scope.select_limit]
      exact ih _ (hnames.shorter text htext) hargument roots rfl

/-- Engines with built-in filters and the same options that differ in the filter of one name. -/
theorem OnlyBuiltin.agreeApart (he : e.OnlyBuiltin patterns) {name : String} {filters : Dictionary Filter}
    (h : ∀ other ≠ name, filters.get? other = e.filters.get? other) :
    e.AgreeApart { e with filters } (· = name) :=
  ⟨rfl, fun other hne => (h other hne).symm,
    fun other f _ hf => Builtin.sameUnder_of_mem (he other f hf) (fun _ => rfl) fun _ => rfl⟩

end Engine

/-- To register or to remove a filter changes no selection by a text in which its name does not
stand after a colon. -/
theorem select_of_not_mentioned {e : Engine} {patterns : Patterns} (he : e.OnlyBuiltin patterns)
    {name query : String}
    (h : ¬ ':' :: name.toList <:+: query.toList) (f : Filter) (roots : List Place) :
    { e with filters := e.filters.insert name f }.select roots query = e.select roots query ∧
      { e with filters := e.filters.erase name }.select roots query = e.select roots query := by
  have hquery : ∀ n, n = name → ¬ Mentions query.toList n := by
    rintro n rfl hmention
    exact h hmention.2
  constructor
  · have hagree : e.AgreeApart { e with filters := e.filters.insert name f } (· = name) :=
      he.agreeApart fun other hne => Dictionary.get?_insert_of_ne hne e.filters f
    exact (hagree.select_eq hquery roots).symm
  · have hagree : e.AgreeApart { e with filters := e.filters.erase name } (· = name) :=
      he.agreeApart fun other hne => Dictionary.get?_erase_of_ne hne e.filters
    exact (hagree.select_eq hquery roots).symm

/-- The text has the name as that of elements, and uses other filters inside an argument. -/
theorem select_of_not_mentioned_nested :
    (Engine.withOptions {}).OnlyBuiltin Pattern.patterns ∧
      ¬ ':' :: "last".toList <:+: "last:not(last :first)".toList ∧
      { Engine.withOptions {} with
          filters := (Engine.withOptions {}).filters.insert "last" fun _ _ _ =>
            .error (.filter "last" "") }.select
        [⟨0, (Node.tag "ul").withChildren [.tag "last", .tag "last"]⟩] "last:not(last :first)" =
        .ok [⟨2, .tag "last"⟩] ∧
      { Engine.withOptions {} with filters := (Engine.withOptions {}).filters.erase "last" }.select
        [⟨0, (Node.tag "ul").withChildren [.tag "last", .tag "last"]⟩] "last:not(last :first)" =
        .ok [⟨2, .tag "last"⟩] :=
  have hbuiltin := Engine.onlyBuiltin_withOptions {}
  have habsent : ¬ ':' :: "last".toList <:+: "last:not(last :first)".toList := by
    decide +kernel
  have hselect : (Engine.withOptions {}).select
      [⟨0, (Node.tag "ul").withChildren [.tag "last", .tag "last"]⟩] "last:not(last :first)" =
      .ok [⟨2, .tag "last"⟩] := by decide +kernel
  have hboth := select_of_not_mentioned hbuiltin habsent (fun _ _ _ => .error (.filter "last" ""))
    [⟨0, (Node.tag "ul").withChildren [.tag "last", .tag "last"]⟩]
  ⟨hbuiltin, habsent, hboth.1.trans hselect, hboth.2.trans hselect⟩

end MarkupQuery
