import Mathlib.Data.List.Induction
import Mathlib.Data.List.Nodup
import Mathlib.Data.List.Perm.Basic
import MarkupQuery.Node.Predicate

/-! Tests that are inserted into a map one after the other. An insertion takes the place of an earlier
one of its key, so the map holds the last insertion of each key, in the order in which these were
made, and a node has to pass all of them. To exchange insertions of different keys changes the order
of the entries only. -/

namespace MarkupQuery

/-- A key and the test to be kept under it. -/
abbrev Insertion := PredicateKey × (Option String → Bool)

namespace PredicateMap

/-- The empty map after these insertions. -/
def ofList (calls : List Insertion) : PredicateMap :=
  calls.foldl (fun m c => m.insert c.1 c.2) {}

/-- The insertion at this position is the last one of its key. -/
structure IsLastAt (calls : List Insertion) (i : Nat) (c : Insertion) : Prop where
  call : calls[i]? = some c
  last : ∀ j d, i < j → calls[j]? = some d → d.1 ≠ c.1

/-- Each key that was inserted stands once among the entries, with its last insertion, and the
entries are in the order of these. -/
structure Latest (calls entries : List Insertion) : Prop where
  once : ∀ key, (entries.map Prod.fst).count key = if key ∈ calls.map Prod.fst then 1 else 0
  last : ∀ e ∈ entries, ∃ i, IsLastAt calls i e
  ordered : entries.Pairwise fun e e' => ∀ i j, IsLastAt calls i e → IsLastAt calls j e' → i < j

/-- One list of insertions comes from the other by exchanges of neighbours with different keys. -/
inductive Reordered : List Insertion → List Insertion → Prop where
  | nil : Reordered [] []
  | cons (c : Insertion) {calls calls' : List Insertion} :
      Reordered calls calls' → Reordered (c :: calls) (c :: calls')
  | swap {c d : Insertion} (h : c.1 ≠ d.1) (calls : List Insertion) :
      Reordered (c :: d :: calls) (d :: c :: calls)
  | trans {calls calls' calls'' : List Insertion} :
      Reordered calls calls' → Reordered calls' calls'' → Reordered calls calls''

/-- The insertions of one key. -/
def ofKey (key : PredicateKey) (calls : List Insertion) : List Insertion :=
  calls.filter fun c => decide (c.1 = key)

variable {calls calls' entries entries' : List Insertion} {c d e : Insertion} {i j : Nat}

theorem ofList_concat (calls : List Insertion) (c : Insertion) :
    ofList (calls ++ [c]) = (ofList calls).insert c.1 c.2 := by
  rw [ofList, List.foldl_append]
  rfl

/-! The last insertions. -/

theorem getElem?_concat_eq_some_iff :
    (calls ++ [c])[i]? = some d ↔ calls[i]? = some d ∨ (i = calls.length ∧ d = c) := by
  rcases Nat.lt_trichotomy i calls.length with hlt | rfl | hgt
  · rw [List.getElem?_append_left hlt, or_iff_left]
    rintro ⟨rfl, -⟩
    exact Nat.lt_irrefl _ hlt
  · simp [eq_comm]
  · have hlength : (calls ++ [c]).length ≤ i := by
      rw [List.length_append]
      exact hgt
    rw [List.getElem?_eq_none hlength, List.getElem?_eq_none (Nat.le_of_lt hgt), or_iff_left]
    rintro ⟨rfl, -⟩
    exact Nat.lt_irrefl _ hgt

theorem IsLastAt.lt_length (h : IsLastAt calls i c) : i < calls.length :=
  (List.getElem?_eq_some_iff.mp h.call).1

theorem IsLastAt.key_mem (h : IsLastAt calls i c) : c.1 ∈ calls.map Prod.fst :=
  List.mem_map_of_mem (List.mem_of_getElem? h.call)

theorem IsLastAt.unique (h : IsLastAt calls i c) (h' : IsLastAt calls j d) (hkey : c.1 = d.1) :
    i = j ∧ c = d := by
  rcases Nat.lt_trichotomy i j with hlt | rfl | hlt
  · exact absurd hkey.symm (h.last j d hlt h'.call)
  · exact ⟨rfl, Option.some.inj (h.call.symm.trans h'.call)⟩
  · exact absurd hkey (h'.last i c hlt h.call)

/-- One more insertion is the last of its key, and leaves the last ones of other keys as they are. -/
theorem isLastAt_concat :
    IsLastAt (calls ++ [c]) i e ↔ (i = calls.length ∧ e = c) ∨ (IsLastAt calls i e ∧ e.1 ≠ c.1) := by
  have hold {j : Nat} {d : Insertion} (hd : calls[j]? = some d) : (calls ++ [c])[j]? = some d :=
    getElem?_concat_eq_some_iff.mpr (.inl hd)
  have hnew : (calls ++ [c])[calls.length]? = some c :=
    getElem?_concat_eq_some_iff.mpr (.inr ⟨rfl, rfl⟩)
  constructor
  · rintro ⟨hcall, hlast⟩
    rcases getElem?_concat_eq_some_iff.mp hcall with hcall | ⟨rfl, rfl⟩
    · have hlt : i < calls.length := (List.getElem?_eq_some_iff.mp hcall).1
      refine .inr ⟨⟨hcall, fun j d hij hd => hlast j d hij (hold hd)⟩, ?_⟩
      exact (hlast _ c hlt hnew).symm
    · exact .inl ⟨rfl, rfl⟩
  · rintro (⟨rfl, rfl⟩ | ⟨h, hne⟩)
    · refine ⟨hnew, fun j d hj hd => ?_⟩
      rcases getElem?_concat_eq_some_iff.mp hd with hd | ⟨rfl, -⟩
      · exact absurd (List.getElem?_eq_some_iff.mp hd).1 (Nat.lt_asymm hj)
      · exact absurd hj (Nat.lt_irrefl _)
    · refine ⟨hold h.call, fun j d hij hd => ?_⟩
      rcases getElem?_concat_eq_some_iff.mp hd with hd | ⟨-, rfl⟩
      · exact h.last j d hij hd
      · exact hne.symm

/-- An insertion of another key stays the last one, at its old position. -/
theorem isLastAt_concat_of_ne (hne : e.1 ≠ c.1) :
    IsLastAt (calls ++ [c]) i e ↔ IsLastAt calls i e := by
  rw [isLastAt_concat, and_iff_left hne, or_iff_right]
  rintro ⟨-, rfl⟩
  exact hne rfl

theorem exists_isLastAt_iff : (∃ i, IsLastAt calls i e) ↔ (ofKey e.1 calls).getLast? = some e := by
  induction calls using List.reverseRecOn with
  | nil =>
    refine iff_of_false ?_ (by simp [ofKey])
    rintro ⟨i, h⟩
    exact absurd h.lt_length (Nat.not_lt_zero i)
  | append_singleton calls c ih =>
    have hfilter : ofKey e.1 (calls ++ [c]) =
        ofKey e.1 calls ++ if c.1 = e.1 then [c] else [] := by
      rw [ofKey, List.filter_append, List.filter_singleton]
      simp [ofKey]
    simp only [isLastAt_concat, exists_or, exists_and_right, exists_eq, true_and, ih, hfilter]
    by_cases hkey : c.1 = e.1
    · simp [hkey, eq_comm]
    · have hne : e ≠ c := fun h => hkey (h ▸ rfl)
      simp [hkey, hne, Ne.symm hkey]

/-! The entries of the map. -/

theorem Latest.mem_iff (h : Latest calls entries) : e ∈ entries ↔ ∃ i, IsLastAt calls i e := by
  refine ⟨h.last e, ?_⟩
  rintro ⟨i, hi⟩
  have hcount : (entries.map Prod.fst).count e.1 = 1 := by
    rw [h.once, if_pos hi.key_mem]
  have hmem : e.1 ∈ entries.map Prod.fst := List.count_pos_iff.mp (by omega)
  obtain ⟨e', he', hkey⟩ := List.mem_map.mp hmem
  obtain ⟨j, hj⟩ := h.last e' he'
  exact (hj.unique hi hkey).2 ▸ he'

theorem Latest.nodup (h : Latest calls entries) : entries.Nodup := by
  refine List.Nodup.of_map Prod.fst (List.nodup_iff_count_le_one.mpr fun key => ?_)
  rw [h.once]
  split <;> omega

theorem Latest.unique (h : Latest calls entries) (h' : Latest calls entries') :
    entries = entries' := by
  have hperm : entries.Perm entries' := by
    rw [List.perm_ext_iff_of_nodup h.nodup h'.nodup]
    intro e
    rw [h.mem_iff, h'.mem_iff]
  refine hperm.eq_of_pairwise (fun e e' he he' hlt hgt => ?_) h.ordered h'.ordered
  obtain ⟨i, hi⟩ := h.last e he
  obtain ⟨j, hj⟩ := h'.last e' he'
  exact absurd (hlt i j hi hj) (Nat.lt_asymm (hgt j i hj hi))

theorem Latest.nil : Latest [] [] := ⟨fun _ => rfl, by simp, .nil⟩

theorem mem_entries_insert {m : PredicateMap} :
    e ∈ (m.insert c.1 c.2).entries ↔ (e ∈ m.entries ∧ e.1 ≠ c.1) ∨ e = c := by
  simp [insert]

theorem count_keys_insert (m : PredicateMap) (c : Insertion) (key : PredicateKey) :
    (m.insert c.1 c.2).keys.count key = if key = c.1 then 1 else m.keys.count key := by
  have hkeys : (m.insert c.1 c.2).keys =
      (m.keys.filter fun key => decide (key ≠ c.1)) ++ [c.1] := by
    simp only [keys, insert, List.map_append, List.filter_map]
    rfl
  rw [hkeys, List.count_append]
  split
  · rename_i hkey
    subst hkey
    rw [List.count_singleton_self, List.count_eq_zero.mpr (by simp)]
  · rename_i hkey
    rw [List.count_filter (by simpa using hkey), List.count_singleton,
      beq_false_of_ne (Ne.symm hkey)]
    rfl

theorem Latest.insert {m : PredicateMap} (h : Latest calls m.entries) (c : Insertion) :
    Latest (calls ++ [c]) (m.insert c.1 c.2).entries := by
  have hnew : IsLastAt (calls ++ [c]) calls.length c := isLastAt_concat.mpr (.inl ⟨rfl, rfl⟩)
  refine ⟨fun key => ?_, fun e he => ?_, List.pairwise_append.mpr ⟨?_, ?_, ?_⟩⟩
  · have hmem : key ∈ (calls ++ [c]).map Prod.fst ↔ key ∈ calls.map Prod.fst ∨ key = c.1 := by
      rw [List.map_append, List.mem_append, List.map_singleton, List.mem_singleton]
    refine (count_keys_insert m c key).trans ?_
    rw [keys, h.once]
    by_cases hkey : key = c.1
    · rw [if_pos hkey, if_pos (hmem.mpr (.inr hkey))]
    · simp only [hmem, hkey, if_false, or_false]
  · rcases mem_entries_insert.mp he with ⟨hmem, hne⟩ | rfl
    · obtain ⟨i, hi⟩ := h.last e hmem
      exact ⟨i, (isLastAt_concat_of_ne hne).mpr hi⟩
    · exact ⟨calls.length, hnew⟩
  · refine (h.ordered.filter _).imp_of_mem fun he he' hlt i j hi hj => ?_
    have hne := of_decide_eq_true (List.mem_filter.mp he).2
    have hne' := of_decide_eq_true (List.mem_filter.mp he').2
    exact hlt i j ((isLastAt_concat_of_ne hne).mp hi) ((isLastAt_concat_of_ne hne').mp hj)
  · exact List.pairwise_singleton _ _
  · intro e he e' he' i j hi hj
    obtain rfl := List.mem_singleton.mp he'
    have hne := of_decide_eq_true (List.mem_filter.mp he).2
    have hlt := ((isLastAt_concat_of_ne hne).mp hi).lt_length
    rwa [(hj.unique hnew rfl).1]

theorem latest_ofList (calls : List Insertion) : Latest calls (ofList calls).entries := by
  induction calls using List.reverseRecOn with
  | nil => exact .nil
  | append_singleton calls c ih =>
    rw [ofList_concat]
    exact ih.insert c

/-! What the map accepts. -/

theorem accepts_tagName_iff {test : Option String → Bool} {n : Node} :
    PredicateKey.tagName.accepts test n = true ↔
      (n.kind = .tag ∨ n.kind = .script ∨ n.kind = .style) ∧ test n.name = true := by
  simp [PredicateKey.accepts, Node.isElement, or_assoc]

theorem accepts_attribute_iff {name : String} {test : Option String → Bool} {n : Node} :
    (PredicateKey.attribute name).accepts test n = true ↔
      ∃ a, n.attributes = some a ∧ test (a.get? name) = true := by
  cases h : n.attributes <;> simp [PredicateKey.accepts, h]

theorem accepts_ofList_iff {n : Node} :
    (ofList calls).accepts n = true ↔ ∀ i c, IsLastAt calls i c → c.1.accepts c.2 n = true := by
  rw [accepts, List.all_eq_true]
  constructor
  · intro h i c hc
    exact h c ((latest_ofList calls).mem_iff.mpr ⟨i, hc⟩)
  · intro h c hc
    obtain ⟨i, hi⟩ := (latest_ofList calls).last c hc
    exact h i c hi

/-! Insertions in another order. -/

theorem Reordered.refl : ∀ calls : List Insertion, Reordered calls calls
  | [] => .nil
  | c :: calls => .cons c (.refl calls)

/-- An insertion may be moved in front of insertions of other keys. -/
theorem Reordered.to_front {before : List Insertion} (h : ∀ d ∈ before, d.1 ≠ c.1)
    (after : List Insertion) : Reordered (c :: (before ++ after)) (before ++ c :: after) := by
  induction before with
  | nil => exact .refl _
  | cons d before ih =>
    obtain ⟨hd, hbefore⟩ := List.forall_mem_cons.mp h
    exact .trans (.swap hd.symm _) (.cons d (ih hbefore))

theorem Reordered.ofKey_eq (h : Reordered calls calls') (key : PredicateKey) :
    ofKey key calls = ofKey key calls' := by
  induction h with
  | nil => rfl
  | cons c _ ih => simp only [ofKey, List.filter_cons] at ih ⊢; rw [ih]
  | @swap c d hne calls =>
    by_cases hc : c.1 = key
    · have hd : d.1 ≠ key := fun hd => hne (hc.trans hd.symm)
      simp [ofKey, hc, hd]
    · simp [ofKey, List.filter_cons, hc]
  | trans _ _ ih ih' => exact ih.trans ih'

/-- The lists of insertions that may be made of one by such exchanges are those that have the same
insertions of each key, in the same order. -/
theorem reordered_iff : Reordered calls calls' ↔ ∀ key, ofKey key calls = ofKey key calls' := by
  refine ⟨Reordered.ofKey_eq, fun h => ?_⟩
  induction calls generalizing calls' with
  | nil =>
    cases calls' with
    | nil => exact .nil
    | cons d calls' => simpa [ofKey] using h d.1
  | cons c calls ih =>
    have hfirst : ofKey c.1 calls' = c :: ofKey c.1 calls := by
      rw [← h c.1]
      simp [ofKey]
    obtain ⟨before, after, rfl, hbefore, -, hafter⟩ := List.filter_eq_cons_iff.mp hfirst
    have hother : ∀ d ∈ before, d.1 ≠ c.1 := by simpa using hbefore
    have hfront := Reordered.to_front hother after
    refine .trans (.cons c (ih fun key => ?_)) hfront
    have hkey := (h key).trans (hfront.ofKey_eq key).symm
    by_cases hc : c.1 = key
    · simpa [ofKey, List.filter_cons, hc] using hkey
    · simpa [ofKey, List.filter_cons, hc] using hkey

theorem Reordered.perm_entries (h : Reordered calls calls') :
    (ofList calls').entries.Perm (ofList calls).entries := by
  have hcalls := latest_ofList calls
  have hcalls' := latest_ofList calls'
  rw [List.perm_ext_iff_of_nodup hcalls'.nodup hcalls.nodup]
  intro e
  rw [hcalls'.mem_iff, hcalls.mem_iff, exists_isLastAt_iff, exists_isLastAt_iff,
    reordered_iff.mp h e.1]

/-- After any insertions the entries are the last ones of the keys that were inserted, and these alone
say which nodes are accepted. In another order of different keys they are the same but for their
order, so the same nodes are accepted. -/
theorem ofList_keeps_last (calls : List Insertion) :
    (∀ entries, (ofList calls).entries = entries ↔ Latest calls entries) ∧
    (∀ n : Node, (ofList calls).accepts n = true ↔
      (∀ i test, IsLastAt calls i (.tagName, test) →
        (n.kind = .tag ∨ n.kind = .script ∨ n.kind = .style) ∧ test n.name = true) ∧
      ∀ i name test, IsLastAt calls i (.attribute name, test) →
        ∃ a, n.attributes = some a ∧ test (a.get? name) = true) ∧
    ∀ calls', Reordered calls calls' →
      (ofList calls').entries.Perm (ofList calls).entries ∧
      ∀ n : Node, (ofList calls').accepts n = (ofList calls).accepts n := by
  have hlatest := latest_ofList calls
  refine ⟨fun entries => ⟨fun h => h ▸ hlatest, hlatest.unique⟩, fun n => ?_, fun calls' h => ?_⟩
  · rw [accepts_ofList_iff]
    constructor
    · intro h
      refine ⟨fun i test hi => ?_, fun i name test hi => ?_⟩
      · exact accepts_tagName_iff.mp (h i _ hi)
      · exact accepts_attribute_iff.mp (h i _ hi)
    · rintro ⟨htag, hattribute⟩ i ⟨key, test⟩ hi
      match key with
      | .tagName => exact accepts_tagName_iff.mpr (htag i test hi)
      | .attribute name => exact accepts_attribute_iff.mpr (hattribute i name test hi)
  · exact ⟨h.perm_entries, fun n => h.perm_entries.all_eq⟩

/-- Two keys are inserted a second time, one with another key in between. -/
def inserted : List Insertion :=
  [(.tagName, (· == some "p")), (.attribute "id", (· == some "a")), (.tagName, Option.isSome),
    (.attribute "class", Option.isSome), (.attribute "id", Option.isNone)]

/-- The same insertions with the last one of the name moved to the end. -/
def exchanged : List Insertion :=
  [(.tagName, (· == some "p")), (.attribute "id", (· == some "a")),
    (.attribute "class", Option.isSome), (.attribute "id", Option.isNone), (.tagName, Option.isSome)]

theorem ofList_keeps_last_interleaved :
    Latest inserted [(.tagName, Option.isSome), (.attribute "class", Option.isSome),
      (.attribute "id", Option.isNone)] ∧
    (ofList exchanged).keys = [.attribute "class", .attribute "id", .tagName] ∧
    IsLastAt inserted 3 (.attribute "class", Option.isSome) ∧
    (ofList inserted).accepts (Node.tag "p") = false ∧
    Reordered inserted exchanged ∧
    (ofList exchanged).accepts ((Node.tag "i").withAttribute "class" "x") = true := by
  obtain ⟨hentries, haccepts, hreordered⟩ := ofList_keeps_last inserted
  have hlast : IsLastAt inserted 3 (.attribute "class", Option.isSome) := by
    refine ⟨rfl, fun j d hj hd => ?_⟩
    obtain rfl : j = 4 := by
      have hlt : j < 5 := (List.getElem?_eq_some_iff.mp hd).1
      omega
    cases hd
    decide
  have hexchanged : Reordered inserted exchanged :=
    .cons _ (.cons _ (.trans (.swap (by decide) _) (.cons _ (.swap (by decide) _))))
  refine ⟨(hentries _).mp rfl, by decide, hlast, ?_, hexchanged, ?_⟩
  · refine Bool.eq_false_iff.mpr fun h => ?_
    obtain ⟨a, ha, hclass⟩ := ((haccepts _).mp h).2 3 "class" _ hlast
    cases ha
    cases hclass
  · rw [(hreordered exchanged hexchanged).2]
    decide

end PredicateMap

end MarkupQuery
