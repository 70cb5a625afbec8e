/-! Computations that end in a value or in an error. A list of them gives all of its values or the
first error in it. -/

namespace MarkupQuery.Outcome

universe u v w x

variable {ε : Type u} {ε' : Type v} {α : Type w} {β : Type x}

@[simp] theorem ok_bind {α β : Type w} (a : α) (f : α → Except ε β) : (Except.ok a >>= f) = f a := rfl

@[simp] theorem error_bind {α β : Type w} (e : ε) (f : α → Except ε β) :
    (Except.error e >>= f) = .error e := rfl

@[simp] theorem pure_eq_ok (a : α) : (pure a : Except ε α) = .ok a := rfl

@[simp] theorem map_ok (a : α) (f : α → β) : (Except.ok a : Except ε α).map f = .ok (f a) := rfl

@[simp] theorem map_error (e : ε) (f : α → β) : (Except.error e : Except ε α).map f = .error e := rfl

@[simp] theorem mapError_ok (a : α) (f : ε → ε') : (Except.ok a).mapError f = .ok a := rfl

@[simp] theorem mapError_error (e : ε) (f : ε → ε') :
    (Except.error e : Except ε α).mapError f = .error (f e) := rfl

theorem map_eq_ok_iff {r : Except ε α} {f : α → β} {b : β} :
    r.map f = .ok b ↔ ∃ a, r = .ok a ∧ f a = b := by
  cases r <;> simp

theorem map_eq_error_iff {r : Except ε α} {f : α → β} {e : ε} :
    r.map f = .error e ↔ r = .error e := by
  cases r <;> simp

/-- Up to what is made of their errors, two computations are the same. -/
theorem mapError_eq_mapError_iff {r s : Except ε α} {f : ε → ε'} :
    r.mapError f = s.mapError f ↔ (∃ a, r = .ok a ∧ s = .ok a) ∨
      ∃ e e', r = .error e ∧ s = .error e' ∧ f e = f e' := by
  cases r <;> cases s <;> simp [eq_comm]

theorem bind_eq_ok_iff {α β : Type w} {r : Except ε α} {f : α → Except ε β} {b : β} :
    (r >>= f) = .ok b ↔ ∃ a, r = .ok a ∧ f a = .ok b := by
  cases r <;> simp

theorem bind_eq_error_iff {α β : Type w} {r : Except ε α} {f : α → Except ε β} {e : ε} :
    (r >>= f) = .error e ↔ r = .error e ∨ ∃ a, r = .ok a ∧ f a = .error e := by
  cases r <;> simp

theorem mapM_of_forall_ok {α β : Type w} {f : α → Except ε β} {g : α → β} {xs : List α}
    (h : ∀ x ∈ xs, f x = .ok (g x)) : xs.mapM f = .ok (xs.map g) := by
  induction xs with
  | nil => rfl
  | cons x xs ih =>
    obtain ⟨hx, hxs⟩ := List.forall_mem_cons.mp h
    simp [hx, ih hxs]

theorem filterMapM_of_forall_ok {α β : Type w} {f : α → Except ε (Option β)} {g : α → Option β}
    {xs : List α} (h : ∀ x ∈ xs, f x = .ok (g x)) : xs.filterMapM f = .ok (xs.filterMap g) := by
  induction xs with
  | nil => rfl
  | cons x xs ih =>
    obtain ⟨hx, hxs⟩ := List.forall_mem_cons.mp h
    rw [List.filterMapM_cons, hx, ih hxs, List.filterMap_cons]
    cases g x <;> rfl

theorem mapM_congr {α β : Type w} {f g : α → Except ε β} {xs : List α} (h : ∀ x ∈ xs, f x = g x) :
    xs.mapM f = xs.mapM g := by
  induction xs with
  | nil => rfl
  | cons x xs ih =>
    obtain ⟨hx, hxs⟩ := List.forall_mem_cons.mp h
    rw [List.mapM_cons, List.mapM_cons, hx, ih hxs]

/-- A list fails with the first error in it. -/
theorem mapM_eq_error_iff {α β : Type w} {f : α → Except ε β} {xs : List α} {e : ε} :
    xs.mapM f = .error e ↔
      ∃ us y vs, xs = us ++ y :: vs ∧ (∀ u ∈ us, ∃ b, f u = .ok b) ∧ f y = .error e := by
  induction xs with
  | nil => simp
  | cons x xs ih =>
    rw [List.mapM_cons, bind_eq_error_iff]
    constructor
    · rintro (hx | ⟨b, hx, h⟩)
      · exact ⟨[], x, xs, rfl, by simp, hx⟩
      · have hxs : xs.mapM f = .error e := (bind_eq_error_iff.mp h).resolve_right (by simp)
        obtain ⟨us, y, vs, rfl, hus, hy⟩ := ih.mp hxs
        exact ⟨x :: us, y, vs, rfl, List.forall_mem_cons.mpr ⟨⟨b, hx⟩, hus⟩, hy⟩
    · rintro ⟨us, y, vs, hsplit, hus, hy⟩
      cases us with
      | nil =>
        obtain ⟨rfl, rfl⟩ := List.cons_eq_cons.mp hsplit
        exact .inl hy
      | cons u us =>
        obtain ⟨rfl, hxs⟩ := List.cons_eq_cons.mp hsplit
        obtain ⟨⟨b, hb⟩, hus⟩ := List.forall_mem_cons.mp hus
        exact .inr ⟨b, hb, bind_eq_error_iff.mpr (.inl (ih.mpr ⟨us, y, vs, hxs, hus, hy⟩))⟩

/-- A list fails wherever one of its members does. -/
theorem exists_mapM_eq_error_iff {α β : Type w} {f : α → Except ε β} {xs : List α} :
    (∃ e, xs.mapM f = .error e) ↔ ∃ x ∈ xs, ∃ e, f x = .error e := by
  induction xs with
  | nil => simp
  | cons x xs ih =>
    simp only [List.mem_cons, exists_eq_or_imp, ← ih, List.mapM_cons]
    cases f x with
    | error e => simp
    | ok b => cases xs.mapM f <;> simp

theorem filterMapM_error {α β : Type w} {f : α → Except ε (Option β)} {xs : List α} {e : ε}
    (h : xs.filterMapM f = .error e) : ∃ x ∈ xs, f x = .error e := by
  induction xs with
  | nil => cases h
  | cons x xs ih =>
    rw [List.filterMapM_cons] at h
    rcases bind_eq_error_iff.mp h with hx | ⟨y, -, h⟩
    · exact ⟨x, List.mem_cons_self, hx⟩
    · have hxs : xs.filterMapM f = .error e := by
        cases y with
        | none => exact h
        | some y => exact (bind_eq_error_iff.mp h).resolve_right (by simp)
      obtain ⟨z, hz, hfz⟩ := ih hxs
      exact ⟨z, List.mem_cons_of_mem _ hz, hfz⟩

theorem exists_filterMapM_eq_error_iff {α β : Type w} {f : α → Except ε (Option β)} {xs : List α} :
    (∃ e, xs.filterMapM f = .error e) ↔ ∃ x ∈ xs, ∃ e, f x = .error e := by
  induction xs with
  | nil => simp
  | cons x xs ih =>
    simp only [List.mem_cons, exists_eq_or_imp, ← ih, List.filterMapM_cons]
    cases f x with
    | error e => simp
    | ok y => cases y <;> cases xs.filterMapM f <;> simp

theorem mem_of_mapM_eq_ok {α β : Type w} {f : α → Except ε β} {xs : List α} {ys : List β}
    (h : xs.mapM f = .ok ys) {y : β} (hy : y ∈ ys) : ∃ x ∈ xs, f x = .ok y := by
  induction xs generalizing ys with
  | nil => cases h; cases hy
  | cons x xs ih =>
    rw [List.mapM_cons] at h
    obtain ⟨z, hx, h⟩ := bind_eq_ok_iff.mp h
    obtain ⟨zs, hxs, h⟩ := bind_eq_ok_iff.mp h
    cases h
    rcases List.mem_cons.mp hy with rfl | hy
    · exact ⟨x, List.mem_cons_self, hx⟩
    · obtain ⟨x', hx', hfx⟩ := ih hxs hy
      exact ⟨x', List.mem_cons_of_mem _ hx', hfx⟩

theorem mem_of_filterMapM_eq_ok {α β : Type w} {f : α → Except ε (Option β)} {xs : List α}
    {ys : List β} (h : xs.filterMapM f = .ok ys) {y : β} (hy : y ∈ ys) :
    ∃ x ∈ xs, f x = .ok (some y) := by
  induction xs generalizing ys with
  | nil => cases h; cases hy
  | cons x xs ih =>
    rw [List.filterMapM_cons] at h
    obtain ⟨z, hx, h⟩ := bind_eq_ok_iff.mp h
    cases z with
    | none =>
      obtain ⟨x', hx', hfx⟩ := ih h hy
      exact ⟨x', List.mem_cons_of_mem _ hx', hfx⟩
    | some z =>
      obtain ⟨zs, hxs, h⟩ := bind_eq_ok_iff.mp h
      cases h
      rcases List.mem_cons.mp hy with rfl | hy
      · exact ⟨x, List.mem_cons_self, hx⟩
      · obtain ⟨x', hx', hfx⟩ := ih hxs hy
        exact ⟨x', List.mem_cons_of_mem _ hx', hfx⟩

theorem mapM_mapError {ε : Type u} {ε' : Type u} {α β : Type w} {f : α → Except ε β}
    {g : α → Except ε' β} {h : ε → ε'} {xs : List α} (hg : ∀ x ∈ xs, g x = (f x).mapError h) :
    xs.mapM g = (xs.mapM f).mapError h := by
  induction xs with
  | nil => rfl
  | cons x xs ih =>
    obtain ⟨hx, hxs⟩ := List.forall_mem_cons.mp hg
    rw [List.mapM_cons, List.mapM_cons, hx, ih hxs]
    cases f x with
    | error e => rfl
    | ok b => cases xs.mapM f <;> rfl

end MarkupQuery.Outcome
