import MarkupQuery.Node.Place

/-! What a selection has found so far, in groups. Most steps put every place into a group of its
own; a filter with a preselector sees one group for each group before it. -/

namespace MarkupQuery

structure Context where
  groups : List (List Place) := []
deriving DecidableEq, Inhabited

namespace Context

def single (places : List Place) : Context := ⟨[places]⟩

def ofPlaces (places : List Place) : Context := ⟨places.map fun p => [p]⟩

def places (c : Context) : List Place := c.groups.flatten

def size (c : Context) : Nat := c.places.length

/-- Groups without places do not count. -/
def isEmpty (c : Context) : Bool := c.groups.all List.isEmpty

/-- The nodes alone, without their places. -/
def nodes (c : Context) : List (List Node) := c.groups.map (·.map Place.node)

/-- Equal up to places: the same groups of equal nodes. -/
def looksLike (c d : Context) : Bool := c.nodes == d.nodes

@[simp] theorem places_single (ps : List Place) : (single ps).places = ps := by simp [single, places]

@[simp] theorem places_ofPlaces (ps : List Place) : (ofPlaces ps).places = ps := by
  induction ps with
  | nil => rfl
  | cons p ps ih => simpa [ofPlaces, places] using ih

theorem isEmpty_iff (c : Context) : c.isEmpty = true ↔ c.places = [] := by
  simp [isEmpty, places, List.flatten_eq_nil_iff]

end Context

end MarkupQuery
