import MarkupQuery.Node.Json
import MarkupQuery.Proofs.JsonText

/-! Forests as text. The compact text of a list of nodes, or of a single node, reads back as these
nodes, down to what is absent and what is only empty, unless its arrays and objects are nested too
deep. How deep that is depends on the levels of nodes, each of which is an object in an array. -/

namespace MarkupQuery

namespace Node

open JsonValue (NoNumberItems NoNumberMembers depthItems depthMembers)

/-- The member for a field, if there is one. -/
def field (key : String) (v : Option JsonValue) : List (String × JsonValue) :=
  v.toList.map fun x => (key, x)

def attributesJson (a : Attributes) : JsonValue :=
  .object (a.entries.map fun (k, v) => (k, .string v))

def listJson (ns : List Node) : JsonValue := .array (toItems ns)

/-- The members for the fields that may be absent. -/
def fields (n : Node) : List (String × JsonValue) :=
  field "name" (n.name.map .string) ++ (field "attribs" (n.attributes.map attributesJson) ++
    (field "children" (n.children.map listJson) ++ field "data" (n.data.map .string)))

theorem toJson_eq (n : Node) :
    n.toJson = .object (("type", .string n.kind.toText) :: n.fields) := by
  obtain ⟨kind, name, attributes, children, data⟩ := n
  cases name <;> cases attributes <;> cases children <;> cases data <;> rfl

/-! Looking up. -/

theorem lookup_field_self (key : String) (v : Option JsonValue) : (field key v).lookup key = v := by
  cases v <;> simp [field]

theorem lookup_field_of_ne {key other : String} (h : other ≠ key) (v : Option JsonValue) :
    (field key v).lookup other = none := by
  cases v <;> simp [field, List.lookup_cons, beq_false_of_ne h]

theorem lookup_fields (n : Node) :
    n.fields.lookup "name" = n.name.map .string ∧
      n.fields.lookup "attribs" = n.attributes.map attributesJson ∧
      n.fields.lookup "children" = n.children.map listJson ∧
      n.fields.lookup "data" = n.data.map .string := by
  refine ⟨?_, ?_, ?_, ?_⟩ <;>
    simp [fields, List.lookup_append, lookup_field_self, lookup_field_of_ne]

theorem filter_field_of_ne {key other : String} (h : key ≠ other) (v : Option JsonValue) :
    (field key v).filter (fun m => m.1 == other) = [] := by
  cases v <;> simp [field, h]

theorem length_filter_field_le (key other : String) (v : Option JsonValue) :
    ((field key v).filter fun m => m.1 == other).length ≤ 1 :=
  Nat.le_trans (List.length_filter_le _ _) (by cases v <;> simp [field])

theorem repeats_written (kind : JsonValue) (n : Node) :
    repeats (("type", kind) :: n.fields) = false := by
  have hle : ∀ f ∈ fieldNames,
      ((("type", kind) :: n.fields).filter fun m => m.1 == f).length ≤ 1 := by
    simp [fieldNames, fields, filter_field_of_ne, length_filter_field_le]
  rw [repeats, List.any_eq_false]
  intro f hf
  simpa using hle f hf

/-! Reading. -/

/-- A field is read back unless it is written as if it were absent. -/
theorem optional?_map {α : Type} {read : JsonValue → Option α} {write : α → JsonValue}
    (h : ∀ a, read (write a) = some a ∧ write a ≠ .null) (x : Option α) :
    optional? read (x.map write) = some x := by
  cases x with
  | none => rfl
  | some a =>
    obtain ⟨hread, hne⟩ := h a
    rw [Option.map_some, optional?, hread]
    · rfl
    · exact hne

theorem optional?_string (x : Option String) : optional? string? (x.map .string) = some x := by
  apply optional?_map
  intro s
  exact ⟨rfl, nofun⟩

theorem attributes?_written (a : Attributes) : attributes? (attributesJson a) = some a := by
  have hentries : (a.entries.map fun (k, v) => (k, JsonValue.string v)).mapM
      (fun m : String × JsonValue => (string? m.2).map fun s => (m.1, s)) = some a.entries := by
    induction a.entries with
    | nil => rfl
    | cons e es ih =>
      rw [List.map_cons, List.mapM_cons, ih]
      rfl
  rw [attributesJson, attributes?, hentries, Option.map_some, Dictionary.ofList_entries]

theorem optional?_attributes (x : Option Attributes) :
    optional? attributes? (x.map attributesJson) = some x := by
  apply optional?_map
  intro a
  exact ⟨attributes?_written a, nofun⟩

theorem childrenMember?_eq (members : List (String × JsonValue)) :
    childrenMember? members = match members.lookup "children" with
      | some v => childList? v
      | none => some none := by
  induction members with
  | nil => rfl
  | cons m members ih =>
    obtain ⟨name, v⟩ := m
    rw [childrenMember?, List.lookup_cons]
    split
    · rename_i h
      rw [h]
      rfl
    · rename_i h
      rw [ih, beq_false_of_ne (Ne.symm h)]

/-- A node is read back as soon as its children are. -/
theorem ofJson?_written {n : Node} (h : ∀ ns ∈ n.children, ofItems? (toItems ns) = some ns) :
    ofJson? n.toJson = some n := by
  obtain ⟨hname, hattributes, hchildren, hdata⟩ := n.lookup_fields
  have htype : (("type", JsonValue.string n.kind.toText) :: n.fields).lookup "type" =
      some (.string n.kind.toText) := rfl
  have hkind : NodeKind.ofJson? (.string n.kind.toText) = some n.kind :=
    congrArg some (NodeKind.ofText_toText n.kind)
  have hskip : ∀ key ≠ "type",
      (("type", JsonValue.string n.kind.toText) :: n.fields).lookup key = n.fields.lookup key :=
    fun key hkey => by rw [List.lookup_cons, beq_false_of_ne hkey]
  have hmembers : childrenMember? (("type", .string n.kind.toText) :: n.fields) =
      some n.children := by
    rw [childrenMember?_eq, hskip "children" (by decide), hchildren]
    cases hns : n.children with
    | none => rfl
    | some ns => exact congrArg (Option.map some) (h ns hns)
  rw [toJson_eq, ofJson?, repeats_written, if_neg Bool.false_ne_true, htype,
    hskip "name" (by decide), hskip "attribs" (by decide), hskip "data" (by decide), hname,
    hattributes, hdata, hmembers, optional?_string, optional?_string, optional?_attributes,
    Option.bind_some, hkind]
  cases n
  rfl

mutual

theorem ofJson?_toJson : ∀ n : Node, ofJson? n.toJson = some n
  | ⟨kind, name, attributes, none, data⟩ => ofJson?_written (by simp)
  | ⟨kind, name, attributes, some ns, data⟩ => ofJson?_written (by simp [ofItems?_toItems ns])

theorem ofItems?_toItems : ∀ ns : List Node, ofItems? (toItems ns) = some ns
  | [] => rfl
  | n :: ns => by simp [toItems, ofItems?, ofJson?_toJson n, ofItems?_toItems ns]

end

theorem forest?_listJson (ns : List Node) : forest? (listJson ns) = some ns := by
  rw [listJson, forest?, ofItems?_toItems]

theorem forest?_toJson (n : Node) : forest? n.toJson = some [n] := by
  have h := ofJson?_toJson n
  rw [toJson_eq] at h ⊢
  rw [forest?, h]
  · rfl
  · exact nofun

/-! There are no numbers in the text of nodes. -/

theorem noNumberMembers_field (key : String) {v : Option JsonValue} (h : ∀ x ∈ v, x.NoNumber) :
    NoNumberMembers (field key v) := by
  cases v with
  | none => trivial
  | some x => exact ⟨h x rfl, trivial⟩

theorem noNumber_attributesJson (a : Attributes) : (attributesJson a).NoNumber := by
  have h : NoNumberMembers (a.entries.map fun (k, v) => (k, .string v)) := by
    induction a.entries with
    | nil => trivial
    | cons e es ih => exact ⟨trivial, ih⟩
  exact h

theorem noNumber_written {n : Node} (h : ∀ ns ∈ n.children, NoNumberItems (toItems ns)) :
    n.toJson.NoNumber := by
  have hfield : ∀ {α : Type} (key : String) (write : α → JsonValue) (x : Option α),
      (∀ a ∈ x, (write a).NoNumber) → NoNumberMembers (field key (x.map write)) := by
    intro α key write x hx
    refine noNumberMembers_field key fun v hv => ?_
    obtain ⟨a, ha, rfl⟩ := Option.map_eq_some_iff.mp hv
    exact hx a ha
  have hname := hfield "name" .string n.name fun _ _ => trivial
  have hattributes := hfield "attribs" attributesJson n.attributes fun a _ => noNumber_attributesJson a
  have hchildren := hfield "children" listJson n.children h
  have hdata := hfield "data" .string n.data fun _ _ => trivial
  rw [toJson_eq]
  exact ⟨trivial, hname.append (hattributes.append (hchildren.append hdata))⟩

mutual

theorem noNumber_toJson : ∀ n : Node, n.toJson.NoNumber
  | ⟨kind, name, attributes, none, data⟩ => noNumber_written nofun
  | ⟨kind, name, attributes, some ns, data⟩ => noNumber_written (by simp [noNumberItems_toItems ns])

theorem noNumberItems_toItems : ∀ ns : List Node, NoNumberItems (toItems ns)
  | [] => trivial
  | n :: ns => ⟨noNumber_toJson n, noNumberItems_toItems ns⟩

end

theorem noNumber_listJson (ns : List Node) : (listJson ns).NoNumber := noNumberItems_toItems ns

end Node

/-- What the text of a value gives that stands for a forest. -/
theorem readForest_write {v : JsonValue} (hv : v.NoNumber) {ns : List Node}
    (h : Node.forest? v = some ns) :
    readForest (.ofList v.write) =
      if v.depth ≤ 127 then .ok ns else .error (.text .malformed) := by
  have hread : JsonValue.readOne v.write = JsonValue.within v.depth 127 (v, []) :=
    JsonValue.readOne_write hv
  rw [readForest, String.toList_ofList, hread]
  rcases Nat.lt_or_ge 127 v.depth with hdepth | hdepth
  · rw [JsonValue.within_of_lt hdepth, if_neg (Nat.not_le_of_lt hdepth)]
    rfl
  · rw [JsonValue.within_of_le hdepth, if_pos hdepth]
    simp [h, JsonValue.endOfText, JsonReader.skip]

/-- The text of a list of nodes reads back as the list, and that of a node as a list of this node,
as long as arrays and objects are not nested more than 127 deep; otherwise it is refused. -/
theorem readForest_written :
    (∀ ns : List Node, readForest (.ofList (Node.listJson ns).write) =
      if (Node.listJson ns).depth ≤ 127 then .ok ns else .error (.text .malformed)) ∧
    ∀ n : Node, readForest (.ofList n.toJson.write) =
      if n.toJson.depth ≤ 127 then .ok [n] else .error (.text .malformed) :=
  ⟨fun ns => readForest_write (Node.noNumber_listJson ns) (Node.forest?_listJson ns),
    fun n => readForest_write n.noNumber_toJson n.forest?_toJson⟩

example :
    String.ofList (Node.listJson [.text "a\"b", { kind := .cdata, children := some [] }]).write =
      "[\x7b\"type\":\"text\",\"data\":\"a\\\"b\"\x7d,\x7b\"type\":\"cdata\",\"children\":[]\x7d]" := by
  decide +kernel

/-! How deep the text of nodes is nested. Every level of nodes adds an array and an object, and the
lowest one perhaps another container, of attributes or of no children. -/

namespace Node

open JsonValue (depthItems depthMembers)

mutual

/-- The number of levels of the tree. -/
def height : Node → Nat
  | ⟨_, _, _, none, _⟩ => 1
  | ⟨_, _, _, some ns, _⟩ => heightList ns + 1

def heightList : List Node → Nat
  | [] => 0
  | n :: ns => max n.height (heightList ns)

end

theorem depthMembers_field (key : String) (v : Option JsonValue) :
    depthMembers (field key v) = v.elim 0 JsonValue.depth := by
  cases v with
  | none => rfl
  | some x => exact Nat.max_zero _

theorem depth_attributesJson (a : Attributes) : (attributesJson a).depth = 1 := by
  have h : depthMembers (a.entries.map fun (k, v) => (k, .string v)) = 0 := by
    induction a.entries with
    | nil => rfl
    | cons e es ih => exact (Nat.zero_max _).trans ih
  exact congrArg (· + 1) h

/-- Attributes are one container and children are one more than the deepest child needs. -/
theorem depth_toJson (n : Node) :
    n.toJson.depth = max (n.attributes.elim 0 fun _ => 1)
      (n.children.elim 0 fun ns => depthItems (toItems ns) + 1) + 1 := by
  have hstring : ∀ (key : String) (x : Option String),
      depthMembers (field key (x.map .string)) = 0 := by
    intro key x
    cases x <;> rfl
  have hattributes : depthMembers (field "attribs" (n.attributes.map attributesJson)) =
      n.attributes.elim 0 fun _ => 1 := by
    rw [depthMembers_field]
    cases n.attributes with
    | none => rfl
    | some a => exact depth_attributesJson a
  have hchildren : depthMembers (field "children" (n.children.map listJson)) =
      n.children.elim 0 fun ns => depthItems (toItems ns) + 1 := by
    rw [depthMembers_field]
    cases n.children <;> rfl
  have hfields : depthMembers n.fields = max (n.attributes.elim 0 fun _ => 1)
      (n.children.elim 0 fun ns => depthItems (toItems ns) + 1) := by
    simp only [fields, JsonValue.depthMembers_append, hstring, hattributes, hchildren, Nat.zero_max,
      Nat.max_zero]
  rw [toJson_eq]
  exact congrArg (· + 1) ((Nat.zero_max _).trans hfields)

mutual

theorem depth_toJson_bounds : ∀ n : Node,
    2 * n.height ≤ n.toJson.depth + 1 ∧ n.toJson.depth ≤ 2 * n.height
  | ⟨kind, name, attributes, none, data⟩ => by
    rw [depth_toJson, height]
    cases attributes <;> simp
  | ⟨kind, name, attributes, some ns, data⟩ => by
    have hns := depthItems_toItems_bounds ns
    have hattributes : (attributes.elim 0 fun _ => 1) ≤ 1 := by cases attributes <;> simp
    rw [depth_toJson, height]
    dsimp only [Option.elim_some]
    omega

theorem depthItems_toItems_bounds : ∀ ns : List Node,
    2 * heightList ns ≤ depthItems (toItems ns) + 1 ∧ depthItems (toItems ns) ≤ 2 * heightList ns
  | [] => ⟨Nat.zero_le _, Nat.le_refl _⟩
  | n :: ns => by
    have hn := depth_toJson_bounds n
    have hns := depthItems_toItems_bounds ns
    rw [heightList, toItems, depthItems]
    omega

end

theorem depth_listJson_le_iff (ns : List Node) : (listJson ns).depth ≤ 127 ↔ heightList ns ≤ 63 := by
  have hbounds := depthItems_toItems_bounds ns
  have hdepth : (listJson ns).depth = depthItems (toItems ns) + 1 := rfl
  omega

end Node

/-- A list of nodes survives being written exactly if there are no more than 63 levels of them. -/
theorem readForest_written_iff_height (ns : List Node) :
    readForest (.ofList (Node.listJson ns).write) = .ok ns ↔ Node.heightList ns ≤ 63 := by
  rw [readForest_write (Node.noNumber_listJson ns) (Node.forest?_listJson ns),
    ← Node.depth_listJson_le_iff]
  split
  · exact iff_of_true rfl ‹_›
  · exact iff_of_false nofun ‹_›

end MarkupQuery
