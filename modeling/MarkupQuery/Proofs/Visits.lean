import MarkupQuery.Proofs.Traversal

/-! The visits of a walk. A walk goes through the places that it may reach, in order, up to the first
at which the visitor stops it. It keeps the places still to be visited on a stack, whose top is the
next of them; the children of a visited place are put on it last first. What is on the stack, read
from its top and each with all places below it, is at any time the rest of the places to visit. -/

namespace MarkupQuery

open Place

section

variable {σ : Type u} (visit : σ → Place → ForInStep σ)

/-- The state after visits to all of these places, whatever the visitor says about stopping. -/
def stateAfter (s : σ) (ps : List Place) : σ := ps.foldl (fun s p => (visit s p).value) s

/-- At the last of these places, the visitor stops the walk. -/
def StopsAt (s : σ) (ps : List Place) : Prop :=
  ∃ before p s', ps = before ++ [p] ∧ visit (stateAfter visit s before) p = .done s'

/-- The shortest front of the places at whose end the visitor stops the walk, or all of them if there
is none. -/
structure IsVisited (s : σ) (places visited : List Place) : Prop where
  front : visited <+: places
  shortest : ∀ ps, ps <+: places → StopsAt visit s ps → visited.length ≤ ps.length
  complete : StopsAt visit s visited ∨ visited = places

/-- The places up to the first at which the visitor stops. -/
def upToStop (s : σ) : List Place → List Place
  | [] => []
  | p :: ps =>
    match visit s p with
    | .done _ => [p]
    | .yield s => p :: upToStop s ps

/-- The visitor with a record of the places that it has visited. -/
def recording : σ × List Place → Place → ForInStep (σ × List Place)
  | (s, record), p =>
    match visit s p with
    | .done s => .done (s, record ++ [p])
    | .yield s => .yield (s, record ++ [p])

/-- A whole run of the loop over a stack, whose top is its last member: the state and the stack that
it starts from, the places that it visits and the state that it ends in. -/
inductive Loop (deep : Bool) : σ → List Place → List Place → σ → Prop where
  | empty (s : σ) : Loop deep s [] [] s
  | stop {s s' : σ} {p : Place} (stack : List Place) :
      visit s p = .done s' → Loop deep s (stack ++ [p]) [p] s'
  | next {s s' s'' : σ} {p : Place} {stack visited : List Place} :
      visit s p = .yield s' →
      Loop deep s' (stack ++ if deep then p.children.reverse else []) visited s'' →
      Loop deep s (stack ++ [p]) (p :: visited) s''

end

section

variable {σ : Type u} {visit : σ → Place → ForInStep σ} {s s' : σ} {p : Place}

theorem stateAfter_cons (p : Place) (ps : List Place) :
    stateAfter visit s (p :: ps) = stateAfter visit (visit s p).value ps := rfl

theorem upToStop_of_done (h : visit s p = .done s') (ps : List Place) :
    upToStop visit s (p :: ps) = [p] := by
  rw [upToStop, h]

theorem upToStop_of_yield (h : visit s p = .yield s') (ps : List Place) :
    upToStop visit s (p :: ps) = p :: upToStop visit s' ps := by
  rw [upToStop, h]

theorem recording_of_done (h : visit s p = .done s') (record : List Place) :
    recording visit (s, record) p = .done (s', record ++ [p]) := by
  rw [recording, h]

theorem recording_of_yield (h : visit s p = .yield s') (record : List Place) :
    recording visit (s, record) p = .yield (s', record ++ [p]) := by
  rw [recording, h]

theorem not_stopsAt_nil : ¬ StopsAt visit s [] := by
  rintro ⟨before, p, s', h, -⟩
  cases before <;> cases h

theorem stopsAt_cons {p : Place} {ps : List Place} :
    StopsAt visit s (p :: ps) ↔
      (ps = [] ∧ ∃ s', visit s p = .done s') ∨ StopsAt visit (visit s p).value ps := by
  constructor
  · rintro ⟨before, q, s', heq, hstop⟩
    cases before with
    | nil =>
      obtain ⟨rfl, rfl⟩ := List.cons.inj heq
      exact .inl ⟨rfl, s', hstop⟩
    | cons first before =>
      obtain ⟨rfl, rfl⟩ := List.cons.inj heq
      exact .inr ⟨before, q, s', rfl, hstop⟩
  · rintro (⟨rfl, s', hstop⟩ | ⟨before, q, s', rfl, hstop⟩)
    · exact ⟨[], p, s', rfl, hstop⟩
    · exact ⟨p :: before, q, s', rfl, hstop⟩

/-- There is only one such front. -/
theorem IsVisited.unique {places visited visited' : List Place}
    (h : IsVisited visit s places visited) (h' : IsVisited visit s places visited') :
    visited' = visited := by
  have hle : ∀ {a b : List Place}, IsVisited visit s places a → IsVisited visit s places b →
      a.length ≤ b.length := by
    intro a b ha hb
    rcases hb.complete with hstop | rfl
    · exact ha.shortest b hb.front hstop
    · exact ha.front.length_le
  exact (List.prefix_of_prefix_length_le h'.front h.front (hle h' h)).eq_of_length
    (Nat.le_antisymm (hle h' h) (hle h h'))

theorem isVisited_upToStop (visit : σ → Place → ForInStep σ) (s : σ) (ps : List Place) :
    IsVisited visit s ps (upToStop visit s ps) := by
  induction ps generalizing s with
  | nil => exact ⟨List.prefix_rfl, fun qs _ _ => Nat.zero_le _, .inr rfl⟩
  | cons p ps ih =>
    cases hvisit : visit s p with
    | done s' =>
      rw [upToStop_of_done hvisit]
      refine ⟨⟨ps, rfl⟩, fun qs _ hstop => ?_, .inl ⟨[], p, s', rfl, hvisit⟩⟩
      cases qs with
      | nil => exact absurd hstop not_stopsAt_nil
      | cons q qs => simp
    | yield s' =>
      have hrest := ih s'
      have hstops : ∀ qs, StopsAt visit s (p :: qs) ↔ StopsAt visit s' qs := by
        intro qs
        simp [stopsAt_cons, hvisit, ForInStep.value]
      rw [upToStop_of_yield hvisit]
      refine ⟨List.cons_prefix_cons.mpr ⟨rfl, hrest.front⟩, fun qs hqs hstop => ?_, ?_⟩
      · cases qs with
        | nil => exact absurd hstop not_stopsAt_nil
        | cons q qs =>
          obtain ⟨rfl, hfront⟩ := List.cons_prefix_cons.mp hqs
          exact Nat.succ_le_succ (hrest.shortest qs hfront ((hstops qs).mp hstop))
      · exact hrest.complete.imp (hstops _).mpr (congrArg (p :: ·))

/-! A walk through a list, and a walk with a stack. -/

theorem walk_false_eq (s : σ) (ps : List Place) :
    walk false visit s ps = stateAfter visit s (upToStop visit s ps) := by
  induction ps generalizing s with
  | nil => rw [walk]; rfl
  | cons p ps ih =>
    rw [walk]
    cases hvisit : visit s p with
    | done s' =>
      rw [upToStop_of_done hvisit, stateAfter_cons, hvisit]
      rfl
    | yield s' =>
      rw [upToStop_of_yield hvisit, stateAfter_cons, hvisit]
      exact ih s'

/-- The visitor with a record stops where the visitor does. -/
theorem upToStop_recording (visit : σ → Place → ForInStep σ) (s : σ) (record ps : List Place) :
    upToStop (recording visit) (s, record) ps = upToStop visit s ps ∧
      stateAfter (recording visit) (s, record) (upToStop visit s ps) =
        (stateAfter visit s (upToStop visit s ps), record ++ upToStop visit s ps) := by
  induction ps generalizing s record with
  | nil => simp [upToStop, stateAfter]
  | cons p ps ih =>
    cases hvisit : visit s p with
    | done s' =>
      have hrecord := recording_of_done hvisit record
      rw [upToStop_of_done hvisit, upToStop_of_done hrecord, stateAfter_cons,
        stateAfter_cons, hvisit, hrecord]
      exact ⟨rfl, rfl⟩
    | yield s' =>
      have hrecord := recording_of_yield hvisit record
      obtain ⟨hvisits, hstate⟩ := ih s' (record ++ [p])
      rw [upToStop_of_yield hvisit, upToStop_of_yield hrecord, stateAfter_cons,
        stateAfter_cons, hvisit, hrecord, hvisits]
      simpa [ForInStep.value] using hstate

/-- The record of a walk is what it has visited. -/
theorem walk_recording (deep : Bool) (s : σ) (ps : List Place) :
    walk deep (recording visit) (s, []) ps =
      (stateAfter visit s (upToStop visit s (reached deep ps)),
        upToStop visit s (reached deep ps)) := by
  obtain ⟨hvisits, hstate⟩ := upToStop_recording visit s [] (reached deep ps)
  rw [walk_reached, walk_false_eq, hvisits, hstate, List.nil_append]

theorem reached_cons (deep : Bool) (p : Place) (ps : List Place) :
    reached deep (p :: ps) = p :: reached deep ((if deep then p.children else []) ++ ps) := by
  cases deep <;> simp [reached, inclusive_eq, below_eq_flatMap]

theorem measure_next_lt (deep : Bool) (p : Place) (ps : List Place) :
    Place.measure ((if deep then p.children else []) ++ ps) < Place.measure (p :: ps) := by
  have hnil : Place.measure [] = 0 := rfl
  rw [measure_append, measure_cons]
  cases deep
  · rw [if_neg Bool.false_ne_true, hnil]
    omega
  · rw [if_pos rfl]
    omega

/-- The loop ends after finitely many turns. The invariant is that the places on the stack, from its
top, reach just what is still to be visited; a turn takes one place away from that. -/
theorem loop_of_stack (visit : σ → Place → ForInStep σ) (deep : Bool) (s : σ) (ps : List Place) :
    Loop visit deep s ps.reverse (upToStop visit s (reached deep ps))
      (stateAfter visit s (upToStop visit s (reached deep ps))) := by
  induction hn : Place.measure ps using Nat.strongRecOn generalizing s ps with
  | _ n ih =>
    subst hn
    cases ps with
    | nil =>
      have hnone : reached deep [] = [] := by cases deep <;> rfl
      rw [hnone]
      exact .empty s
    | cons p ps =>
      rw [reached_cons, List.reverse_cons]
      cases hvisit : visit s p with
      | done s' =>
        rw [upToStop_of_done hvisit, stateAfter_cons, hvisit]
        exact .stop ps.reverse hvisit
      | yield s' =>
        have hrest := ih _ (measure_next_lt deep p ps) s' _ rfl
        have hstack : ((if deep then p.children else []) ++ ps).reverse =
            ps.reverse ++ if deep then p.children.reverse else [] := by
          cases deep <;> simp
        rw [hstack] at hrest
        rw [upToStop_of_yield hvisit, stateAfter_cons, hvisit]
        exact .next hvisit hrest

theorem Loop.unique {deep : Bool} {stack visited visited' : List Place} {s s' s'' : σ}
    (h : Loop visit deep s stack visited s') (h' : Loop visit deep s stack visited' s'') :
    visited' = visited ∧ s'' = s' := by
  induction h generalizing visited' s'' with
  | empty s =>
    generalize hstack : ([] : List Place) = stack at h'
    cases h' with
    | empty => exact ⟨rfl, rfl⟩
    | stop => simp at hstack
    | next => simp at hstack
  | @stop s s' p stack hvisit =>
    generalize hstack : stack ++ [p] = stack' at h'
    cases h' with
    | empty => simp at hstack
    | stop _ hvisit' =>
      obtain ⟨rfl, rfl⟩ := List.append_singleton_inj.mp hstack
      cases hvisit.symm.trans hvisit'
      exact ⟨rfl, rfl⟩
    | next hvisit' =>
      obtain ⟨rfl, rfl⟩ := List.append_singleton_inj.mp hstack
      cases hvisit.symm.trans hvisit'
  | @next s s₁ s' p stack visited hvisit _ ih =>
    generalize hstack : stack ++ [p] = stack' at h'
    cases h' with
    | empty => simp at hstack
    | stop _ hvisit' =>
      obtain ⟨rfl, rfl⟩ := List.append_singleton_inj.mp hstack
      cases hvisit.symm.trans hvisit'
    | next hvisit' hrest =>
      obtain ⟨rfl, rfl⟩ := List.append_singleton_inj.mp hstack
      cases hvisit.symm.trans hvisit'
      obtain ⟨rfl, rfl⟩ := ih hrest
      exact ⟨rfl, rfl⟩

end

/-- A walk visits the places that it may reach up to the first stop, and ends in the state that these
visits leave. Its loop comes to an end, in no other way. What it may reach from places is what it may
reach from each of them: that place itself, and in a deep walk all below it. -/
theorem walk_visits {σ : Type u} (deep : Bool) (visit : σ → Place → ForInStep σ) (s : σ)
    (ps : List Place) :
    (∃ visited, IsVisited visit s (reached deep ps) visited ∧
      (∀ visited', IsVisited visit s (reached deep ps) visited' → visited' = visited) ∧
      walk deep visit s ps = stateAfter visit s visited ∧
      walk deep (recording visit) (s, []) ps = (stateAfter visit s visited, visited) ∧
      Loop visit deep s ps.reverse visited (stateAfter visit s visited) ∧
      ∀ visited' s', Loop visit deep s ps.reverse visited' s' →
        visited' = visited ∧ s' = stateAfter visit s visited) ∧
    reached false ps = ps ∧ reached true ps = ps.flatMap inclusive ∧
    (∀ p : Place, p.inclusive = p :: p.children.flatMap inclusive) ∧
    ∀ qs, reached deep (ps ++ qs) = reached deep ps ++ reached deep qs := by
  have hvisited := isVisited_upToStop visit s (reached deep ps)
  have hloop := loop_of_stack visit deep s ps
  refine ⟨⟨upToStop visit s (reached deep ps), hvisited, fun _ => hvisited.unique, ?_,
    walk_recording deep s ps, hloop, fun _ _ => hloop.unique⟩, rfl, rfl, fun p => ?_,
    reached_append deep ps⟩
  · rw [walk_reached, walk_false_eq]
  · rw [inclusive_eq, below_eq_flatMap]

end MarkupQuery
