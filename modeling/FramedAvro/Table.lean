/-!
# Tables

A table maps keys to values and lists its entries in ascending order of the keys, so that two tables
with the same entries are equal and a search through a table has a first hit.

`Entries` holds the operations on plain lists of pairs, which nested types need, and `Table` packs
such a list with the proof of its order.

## Main results

* `Entries.ascending_insert`: inserting keeps the order.
* `Entries.get?_insert`: what is found after inserting.
-/

namespace FramedAvro

variable {κ α : Type} [Ord κ]

/-! ### Lists of entries -/

namespace Entries

/-- The keys come in strictly ascending order. -/
def Ascending (entries : List (κ × α)) : Prop :=
  entries.Pairwise fun a b => compare a.1 b.1 = .lt

/-- The value of the first entry with the key. -/
def get? (key : κ) : List (κ × α) → Option α
  | [] => none
  | (k, a) :: rest => if compare key k = .eq then some a else get? key rest

/-- The entries with one more, in its place by order, or instead of the one with the same key. -/
def insert (key : κ) (a : α) : List (κ × α) → List (κ × α)
  | [] => [(key, a)]
  | (k, b) :: rest =>
    match compare key k with
    | .lt => (key, a) :: (k, b) :: rest
    | .eq => (key, a) :: rest
    | .gt => (k, b) :: insert key a rest

/-- The entries of a list in order of their keys, the last of equal keys counting. -/
def ofList (entries : List (κ × α)) : List (κ × α) :=
  entries.foldl (fun sorted entry => insert entry.1 entry.2 sorted) []

/-- An entry of the new table is the new one or was there before. -/
theorem mem_insert {key : κ} {a : α} {entries : List (κ × α)} {entry : κ × α}
    (h : entry ∈ insert key a entries) : entry = (key, a) ∨ entry ∈ entries := by
  induction entries with
  | nil => simpa [insert] using h
  | cons head rest ih =>
    obtain ⟨k, b⟩ := head
    rw [insert] at h
    split at h
    · simpa using h
    · simp only [List.mem_cons] at h ⊢
      exact h.imp id fun h => Or.inr h
    · simp only [List.mem_cons] at h ⊢
      rcases h with h | h
      · exact Or.inr (Or.inl h)
      · exact (ih h).imp id Or.inr

/-- Inserting an entry keeps the keys in order. -/
theorem ascending_insert [Std.TransOrd κ] [Std.LawfulEqOrd κ] (key : κ) (a : α)
    {entries : List (κ × α)} (h : Ascending entries) : Ascending (insert key a entries) := by
  induction entries with
  | nil => simp [insert, Ascending]
  | cons head rest ih =>
    obtain ⟨k, b⟩ := head
    obtain ⟨hk, hrest⟩ := List.pairwise_cons.1 h
    rw [insert]
    split
    · next hlt =>
      refine List.pairwise_cons.2 ⟨fun entry hentry => ?_, h⟩
      rcases List.mem_cons.1 hentry with rfl | hentry
      · exact hlt
      · exact Std.TransCmp.lt_trans hlt (hk entry hentry)
    · next heq =>
      obtain rfl := Std.LawfulEqOrd.compare_eq_iff_eq.1 heq
      exact List.pairwise_cons.2 ⟨hk, hrest⟩
    · next hgt =>
      refine List.pairwise_cons.2 ⟨fun entry hentry => ?_, ih hrest⟩
      rcases mem_insert hentry with rfl | hentry
      · exact Std.OrientedCmp.lt_of_gt hgt
      · exact hk entry hentry

/-- The new entry is found under its key, and the others under theirs. -/
theorem get?_insert [Std.TransOrd κ] [Std.LawfulEqOrd κ] [DecidableEq κ] (key other : κ) (a : α)
    (entries : List (κ × α)) :
    get? other (insert key a entries) = if other = key then some a else get? other entries := by
  induction entries with
  | nil => simp [insert, get?]
  | cons head rest ih =>
    obtain ⟨k, b⟩ := head
    rw [insert]
    split
    · simp only [get?, Std.LawfulEqOrd.compare_eq_iff_eq]
    · next heq =>
      obtain rfl := Std.LawfulEqOrd.compare_eq_iff_eq.1 heq
      simp only [get?, Std.LawfulEqOrd.compare_eq_iff_eq]
      by_cases h : other = key <;> simp [h]
    · next hgt =>
      have hne : key ≠ k := fun h => by simp [h] at hgt
      simp only [get?, Std.LawfulEqOrd.compare_eq_iff_eq, ih]
      by_cases h : other = k
      · simp [h, Ne.symm hne]
      · simp [h]

end Entries

/-! ### Tables -/

/-- Entries in ascending order of their keys. -/
structure Table (κ α : Type) [Ord κ] where
  entries : List (κ × α)
  ascending : Entries.Ascending entries

namespace Table

/-- The table without entries. -/
def empty : Table κ α :=
  ⟨[], List.Pairwise.nil⟩

instance : Inhabited (Table κ α) :=
  ⟨empty⟩

/-- The value of a key. -/
def get? (table : Table κ α) (key : κ) : Option α :=
  Entries.get? key table.entries

/-- Whether the key has a value. -/
def contains (table : Table κ α) (key : κ) : Bool :=
  (table.get? key).isSome

/-- The table in which `key` has the value `a`. -/
def insert [Std.TransOrd κ] [Std.LawfulEqOrd κ] (table : Table κ α) (key : κ) (a : α) : Table κ α :=
  ⟨Entries.insert key a table.entries, Entries.ascending_insert key a table.ascending⟩

/-- How many keys have a value. -/
def size (table : Table κ α) : Nat :=
  table.entries.length

/-- The greatest key. -/
def greatest? (table : Table κ α) : Option κ :=
  table.entries.getLast?.map (·.1)

/-- The keys in ascending order. -/
def keys (table : Table κ α) : List κ :=
  table.entries.map (·.1)

/-- Nothing is found in the empty table. -/
@[simp] theorem get?_empty (key : κ) : (empty : Table κ α).get? key = none := rfl

/-- The empty table has no entries. -/
@[simp] theorem size_empty : (empty : Table κ α).size = 0 := rfl

/-- What was put into a table is found under its key, and everything else as before. -/
theorem get?_insert [Std.TransOrd κ] [Std.LawfulEqOrd κ] [DecidableEq κ] (table : Table κ α)
    (key other : κ) (a : α) :
    (table.insert key a).get? other = if other = key then some a else table.get? other :=
  Entries.get?_insert key other a table.entries

end Table

end FramedAvro
