import Mathlib.Data.List.Forall2

/-!
# Lists that are related item by item

Where the outcome of a pass over a list depends on each item alone, the outcome is a second list
that is related to the first item by item.

## Main results

* `exists_forall₂`: such a list exists when there is an outcome for each item.
* `exists_of_mem_forall₂`: every outcome is that of an item.
-/

namespace FramedAvro

/-- What stands in the second list is related to something in the first. -/
theorem exists_of_mem_forall₂ {α β : Type} {R : α → β → Prop} {xs : List α} {ys : List β}
    (h : List.Forall₂ R xs ys) {b : β} (hb : b ∈ ys) : ∃ a ∈ xs, R a b := by
  induction h with
  | nil => contradiction
  | cons hab _ ih =>
      rcases List.mem_cons.1 hb with rfl | hb
      · exact ⟨_, List.mem_cons_self, hab⟩
      · obtain ⟨a, ha, hR⟩ := ih hb
        exact ⟨a, List.mem_cons_of_mem _ ha, hR⟩

/-- Where everything in a list is related to something, the list is related to another. -/
theorem exists_forall₂ {α β : Type} {R : α → β → Prop} {xs : List α}
    (h : ∀ a ∈ xs, ∃ b, R a b) : ∃ ys, List.Forall₂ R xs ys := by
  induction xs with
  | nil => exact ⟨[], .nil⟩
  | cons a rest ih =>
      obtain ⟨hfirst, hrest⟩ := List.forall_mem_cons.1 h
      obtain ⟨b, hab⟩ := hfirst
      obtain ⟨ys, hys⟩ := ih hrest
      exact ⟨b :: ys, .cons hab hys⟩

/-- What stands at the same place is related. -/
theorem rel_getElem?_of_forall₂ {α β : Type} {R : α → β → Prop} {xs : List α} {ys : List β}
    (h : List.Forall₂ R xs ys) (place : Nat) : Option.Rel R xs[place]? ys[place]? := by
  induction h generalizing place with
  | nil => exact .none
  | cons hab _ ih =>
      cases place with
      | zero => exact .some hab
      | succ place => exact ih place

end FramedAvro
