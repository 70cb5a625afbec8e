/-! Values under names, each name once and the names in order. -/

namespace MarkupQuery

structure Dictionary (β : Type u) where
  entries : List (String × β) := []
  sorted : entries.Pairwise (fun a b => a.1 < b.1) := by exact .nil
deriving DecidableEq

namespace Dictionary

variable {β : Type u}

instance : Inhabited (Dictionary β) := ⟨{}⟩

def insertEntry (name : String) (value : β) : List (String × β) → List (String × β)
  | [] => [(name, value)]
  | e :: es =>
    if name < e.1 then (name, value) :: e :: es
    else if name = e.1 then (name, value) :: es
    else e :: insertEntry name value es

theorem mem_insertEntry {name : String} {value : β} {es : List (String × β)} {e : String × β}
    (h : e ∈ insertEntry name value es) : e = (name, value) ∨ e ∈ es := by
  induction es with
  | nil => simpa [insertEntry] using h
  | cons d es ih =>
    rw [insertEntry] at h
    split at h
    · simpa using h
    · split at h
      · rcases List.mem_cons.mp h with h | h
        · exact .inl h
        · exact .inr (List.mem_cons_of_mem _ h)
      · rcases List.mem_cons.mp h with h | h
        · exact .inr (h ▸ List.mem_cons_self)
        · exact (ih h).imp_right (List.mem_cons_of_mem _)

theorem pairwise_insertEntry (name : String) (value : β) {es : List (String × β)}
    (h : es.Pairwise (fun a b => a.1 < b.1)) :
    (insertEntry name value es).Pairwise (fun a b => a.1 < b.1) := by
  induction es with
  | nil => simp [insertEntry]
  | cons d es ih =>
    obtain ⟨hd, hes⟩ := List.pairwise_cons.mp h
    rw [insertEntry]
    split
    · rename_i hlt
      refine List.pairwise_cons.mpr ⟨fun a ha => ?_, h⟩
      rcases List.mem_cons.mp ha with rfl | ha
      · exact hlt
      · exact String.lt_trans hlt (hd a ha)
    · split
      · rename_i heq
        exact List.pairwise_cons.mpr ⟨fun a ha => heq ▸ hd a ha, hes⟩
      · rename_i hlt hne
        refine List.pairwise_cons.mpr ⟨fun a ha => ?_, ih hes⟩
        rcases mem_insertEntry ha with rfl | ha
        · exact Std.lt_of_le_of_ne (String.not_lt.mp hlt) (Ne.symm hne)
        · exact hd a ha

/-- Sets a value; an earlier value of that name is lost. -/
def insert (d : Dictionary β) (name : String) (value : β) : Dictionary β :=
  ⟨insertEntry name value d.entries, pairwise_insertEntry name value d.sorted⟩

def erase (d : Dictionary β) (name : String) : Dictionary β :=
  ⟨d.entries.filter (fun e => decide (e.1 ≠ name)), d.sorted.filter _⟩

def get? (d : Dictionary β) (name : String) : Option β := d.entries.lookup name

def contains (d : Dictionary β) (name : String) : Bool := (d.get? name).isSome

def names (d : Dictionary β) : List String := d.entries.map Prod.fst

theorem nodup_names (d : Dictionary β) : d.names.Nodup :=
  List.pairwise_map.mpr (d.sorted.imp String.ne_of_lt)

def ofList (es : List (String × β)) : Dictionary β :=
  es.foldl (fun d e => d.insert e.1 e.2) {}

def map {γ : Type v} (f : β → γ) (d : Dictionary β) : Dictionary γ :=
  ⟨d.entries.map fun e => (e.1, f e.2), List.pairwise_map.mpr d.sorted⟩

theorem get?_map {γ : Type v} (f : β → γ) (d : Dictionary β) (name : String) :
    (d.map f).get? name = (d.get? name).map f := by
  unfold get? map
  dsimp only
  induction d.entries with
  | nil => rfl
  | cons e es ih =>
    rw [List.map_cons, List.lookup_cons, List.lookup_cons, ih]
    cases name == e.1 <;> rfl

theorem lookup_insertEntry_of_ne {name other : String} (h : other ≠ name) (value : β)
    (es : List (String × β)) : (insertEntry name value es).lookup other = es.lookup other := by
  have hne : (other == name) = false := beq_false_of_ne h
  induction es with
  | nil => simp [insertEntry, List.lookup_cons, hne]
  | cons e es ih =>
    obtain ⟨k, v⟩ := e
    rw [insertEntry]
    dsimp only
    split
    · simp [List.lookup_cons, hne]
    · split
      · rename_i heq
        simp [List.lookup_cons, ← heq, hne]
      · simp [List.lookup_cons, ih]

theorem get?_insert_self (d : Dictionary β) (name : String) (value : β) :
    (d.insert name value).get? name = some value := by
  unfold get? insert
  dsimp only
  induction d.entries with
  | nil => simp [insertEntry]
  | cons e es ih =>
    obtain ⟨k, v⟩ := e
    rw [insertEntry]
    dsimp only
    split
    · simp
    · split
      · simp
      · rename_i hne
        rw [List.lookup_cons, beq_false_of_ne hne]
        exact ih

/-- Other names keep their values. -/
theorem get?_insert_of_ne {name other : String} (h : other ≠ name) (d : Dictionary β) (value : β) :
    (d.insert name value).get? other = d.get? other := lookup_insertEntry_of_ne h value d.entries

theorem get?_erase_of_ne {name other : String} (h : other ≠ name) (d : Dictionary β) :
    (d.erase name).get? other = d.get? other := by
  unfold get? erase
  dsimp only
  induction d.entries with
  | nil => rfl
  | cons e es ih =>
    obtain ⟨k, v⟩ := e
    by_cases hk : k = name
    · rw [List.filter_cons_of_neg (by simpa using hk), ih, List.lookup_cons, hk, beq_false_of_ne h]
    · rw [List.filter_cons_of_pos (by simpa using hk), List.lookup_cons, List.lookup_cons, ih]

theorem get?_foldl_insert {es : List (String × β)} (h : (es.map Prod.fst).Nodup) (d : Dictionary β)
    (name : String) :
    (es.foldl (fun d e => d.insert e.1 e.2) d).get? name = (es.lookup name).or (d.get? name) := by
  induction es generalizing d with
  | nil => rfl
  | cons e es ih =>
    obtain ⟨k, v⟩ := e
    obtain ⟨hk, hes⟩ := List.nodup_cons.mp h
    rw [List.foldl_cons, ih hes, List.lookup_cons]
    by_cases hname : name = k
    · subst hname
      have hlookup : es.lookup name = none := by
        refine List.lookup_eq_none_iff.mpr fun e he => bne_iff_ne.mpr ?_
        rintro rfl
        exact hk (List.mem_map.mpr ⟨e, he, rfl⟩)
      simp [hlookup, get?_insert_self]
    · simp [beq_false_of_ne hname, get?_insert_of_ne hname]

/-- Of distinct names each has the value that is listed for it. -/
theorem get?_ofList {es : List (String × β)} (h : (es.map Prod.fst).Nodup) (name : String) :
    (ofList es).get? name = es.lookup name := by
  rw [ofList, get?_foldl_insert h]
  exact Option.or_none

theorem insertEntry_of_forall_lt {name : String} {es : List (String × β)}
    (h : ∀ e ∈ es, e.1 < name) (value : β) : insertEntry name value es = es ++ [(name, value)] := by
  induction es with
  | nil => rfl
  | cons e es ih =>
    obtain ⟨he, hes⟩ := List.forall_mem_cons.mp h
    rw [insertEntry, if_neg (String.lt_asymm he), if_neg (String.ne_of_lt he).symm, ih hes]
    rfl

/-- What is in order already is added at the end. -/
theorem entries_foldl_insert {es : List (String × β)} {d : Dictionary β}
    (h : (d.entries ++ es).Pairwise (fun a b => a.1 < b.1)) :
    (es.foldl (fun d e => d.insert e.1 e.2) d).entries = d.entries ++ es := by
  induction es generalizing d with
  | nil => simp
  | cons e es ih =>
    have hlast : ∀ a ∈ d.entries, a.1 < e.1 :=
      fun a ha => (List.pairwise_append.mp h).2.2 a ha e List.mem_cons_self
    have hinsert : (d.insert e.1 e.2).entries = d.entries ++ [e] := insertEntry_of_forall_lt hlast e.2
    have hassoc : (d.insert e.1 e.2).entries ++ es = d.entries ++ e :: es := by
      rw [hinsert, List.append_assoc, List.singleton_append]
    rw [List.foldl_cons, ih (hassoc ▸ h), hassoc]

theorem eq_of_entries {d d' : Dictionary β} (h : d.entries = d'.entries) : d = d' := by
  obtain ⟨es, hes⟩ := d
  obtain ⟨es', hes'⟩ := d'
  obtain rfl : es = es' := h
  rfl

theorem ofList_entries (d : Dictionary β) : ofList d.entries = d :=
  eq_of_entries (entries_foldl_insert (d := {}) d.sorted)

end Dictionary

end MarkupQuery
