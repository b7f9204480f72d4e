/-!
# Coordinates

A coordinate names a slot in the registry: an artifact with versions, in a group. Which schema a
coordinate stands for may change, unlike the schema an id stands for.

Coordinates are ordered by group and then by name, both by code point.
-/

namespace FramedAvro

/-- A named slot of the registry. -/
structure Coordinate where
  group : String
  name : String
deriving DecidableEq, Repr

namespace Coordinate

/-- The text of a coordinate. Different coordinates may have the same text. -/
def describe (c : Coordinate) : String :=
  c.group ++ "/" ++ c.name

instance : Ord Coordinate :=
  ⟨compareLex (compareOn group) (compareOn name)⟩

instance : Std.TransOrd Coordinate :=
  inferInstanceAs (Std.TransCmp (compareLex (compareOn group) (compareOn name)))

instance : Std.LawfulEqOrd Coordinate where
  eq_of_compare := by
    intro a b h
    have h' : (compare a.group b.group).then (compare a.name b.name) = .eq := h
    rw [Ordering.then_eq_eq] at h'
    cases a
    cases b
    simp only [Std.LawfulEqOrd.compare_eq_iff_eq] at h'
    simp only [Coordinate.mk.injEq]
    exact h'

/-- Whether a group is one that a search with the given filter looks at. -/
def inGroup (filter : Option String) (c : Coordinate) : Bool :=
  match filter with
  | some group => c.group == group
  | none => true

end Coordinate

end FramedAvro
