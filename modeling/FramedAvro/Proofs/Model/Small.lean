import FramedAvro.Model.Samples
import FramedAvro.Proofs.Model.Flat

/-!
# The small records

The small sample models and the two that evolved from others are models of flat records. Their texts
are all that can keep an item from being read back: numbers always fit.

## Main definitions

* `Small`: the models, with `Small.flat`: that their items are flat records.
* `Small.texts`: the texts of an item.

## Main results

* `Small.legible`: an item is read back when none of its texts is too long.
-/

namespace FramedAvro

open Avro

namespace Sample

/-- Items are flat records. -/
def Item.flat : Item.model.Flat where
  name := "R"
  space := none
  own := ⟨none, "R"⟩
  columns := [⟨"id", .int, none⟩, ⟨"name", .string, none⟩]
  contents item := [("id", .int item.id), ("name", .string item.name)]
  schema_eq := Json.parseSorted?_of_sorted? (by cbv) (by cbv)
  holds _ := .cons ⟨rfl, .int _⟩ (.cons ⟨rfl, .string _⟩ .nil)
  toValue_eq _ := rfl
  ofValue_eq _ := by simp [Item.model, Value.asRecord]

/-- Items with an address are flat records. -/
def ItemWithEmail.flat : ItemWithEmail.model.Flat where
  name := "R"
  space := none
  own := ⟨none, "R"⟩
  columns := [⟨"id", .int, none⟩, ⟨"name", .string, none⟩,
    ⟨"email", .string, some (.string "unknown")⟩]
  contents item :=
    [("id", .int item.id), ("name", .string item.name), ("email", .string item.email)]
  schema_eq := Json.parseSorted?_of_sorted? (by cbv) (by cbv)
  holds _ := .cons ⟨rfl, .int _⟩ (.cons ⟨rfl, .string _⟩ (.cons ⟨rfl, .string _⟩ .nil))
  toValue_eq _ := rfl
  ofValue_eq _ := by simp [ItemWithEmail.model, Value.asRecord]

/-- Numbers of items are flat records. -/
def ItemId.flat : ItemId.model.Flat where
  name := "R"
  space := none
  own := ⟨none, "R"⟩
  columns := [⟨"id", .int, none⟩]
  contents item := [("id", .int item.id)]
  schema_eq := Json.parseSorted?_of_sorted? (by cbv) (by cbv)
  holds _ := .cons ⟨rfl, .int _⟩ .nil
  toValue_eq _ := rfl
  ofValue_eq _ := by simp [ItemId.model, Value.asRecord]

/-- Signs of life are flat records. -/
def Heartbeat.flat : Heartbeat.model.Flat where
  name := "Heartbeat"
  space := some "nl.openweb.data"
  own := ⟨some "nl.openweb.data", "Heartbeat"⟩
  columns := [⟨"beat", .long, none⟩]
  contents item := [("beat", .long item.beat)]
  schema_eq := Json.parseSorted?_of_sorted? (by cbv) (by cbv)
  holds _ := .cons ⟨rfl, .long _⟩ .nil
  toValue_eq _ := rfl
  ofValue_eq _ := by simp [Heartbeat.model, Value.asRecord]

/-- Orders are flat records. -/
def Order.flat : Order.model.Flat where
  name := "Order"
  space := some "shop"
  own := ⟨some "shop", "Order"⟩
  columns := [⟨"id", .long, none⟩, ⟨"product", .string, none⟩]
  contents item := [("id", .long item.id), ("product", .string item.product)]
  schema_eq := Json.parseSorted?_of_sorted? (by cbv) (by cbv)
  holds _ := .cons ⟨rfl, .long _⟩ (.cons ⟨rfl, .string _⟩ .nil)
  toValue_eq _ := rfl
  ofValue_eq _ := by simp [Order.model, Value.asRecord]

/-- Orders with a quantity are flat records. -/
def OrderV2.flat : OrderV2.model.Flat where
  name := "Order"
  space := some "shop"
  own := ⟨some "shop", "Order"⟩
  columns := [⟨"id", .long, none⟩, ⟨"product", .string, none⟩, ⟨"quantity", .int, some (.ofInt 1)⟩]
  contents item :=
    [("id", .long item.id), ("product", .string item.product), ("quantity", .int item.quantity)]
  schema_eq := Json.parseSorted?_of_sorted? (by cbv) (by cbv)
  holds _ := .cons ⟨rfl, .long _⟩ (.cons ⟨rfl, .string _⟩ (.cons ⟨rfl, .int _⟩ .nil))
  toValue_eq _ := rfl
  ofValue_eq _ := by simp [OrderV2.model, Value.asRecord]

/-- A model of small records. -/
inductive Small where
  | item
  | itemWithEmail
  | itemId
  | heartbeat
  | order
  | orderV2

namespace Small

/-- The type of the items. -/
def Item : Small → Type
  | item => Sample.Item
  | itemWithEmail => ItemWithEmail
  | itemId => ItemId
  | heartbeat => Heartbeat
  | order => Order
  | orderV2 => OrderV2

/-- The model itself. -/
def model : (small : Small) → Model small.Item
  | item => Item.model
  | itemWithEmail => ItemWithEmail.model
  | itemId => ItemId.model
  | heartbeat => Heartbeat.model
  | order => Order.model
  | orderV2 => OrderV2.model

/-- The texts of an item. -/
def texts : (small : Small) → small.Item → List String
  | item, x => [x.name]
  | itemWithEmail, x => [x.name, x.email]
  | itemId, _ => []
  | heartbeat, _ => []
  | order, x => [x.product]
  | orderV2, x => [x.product]

/-- The items of every model are flat records. -/
def flat : (small : Small) → small.model.Flat
  | item => Item.flat
  | itemWithEmail => ItemWithEmail.flat
  | itemId => ItemId.flat
  | heartbeat => Heartbeat.flat
  | order => Order.flat
  | orderV2 => OrderV2.flat

/-- An item is read back when none of its texts is too long. -/
theorem legible {small : Small} {x : small.Item}
    (h : ∀ text ∈ small.texts x, (Utf8.encode text).length ≤ Varint.maxSize) :
    (Value.record (small.flat.contents x)).Legible := by
  cases small with
  | item | itemWithEmail | order | orderV2 =>
      simpa [texts, flat, Item.flat, ItemWithEmail.flat, Order.flat, OrderV2.flat, Value.Legible,
        Value.LegibleFields] using h
  | itemId | heartbeat =>
      simp [flat, ItemId.flat, Heartbeat.flat, Value.Legible, Value.LegibleFields]

end Small

end Sample

end FramedAvro
