import FramedAvro.Proofs.Avro.Parse
import FramedAvro.Proofs.Avro.Partless

/-!
# Flat records

A flat record has columns of types without parts, some of them with a default. A value that has what
the columns ask for resolves to itself and is written, so that it is read back as it is.

## Main definitions

* `Column`: a field of a flat record.
* `Schema.flat`, `Column.document`: the schema of a flat record, and the document of that schema.
* `Primitive.Holds`, `Column.Holds`: the contents of a flat record.

## Main results

* `Column.ofJson?_document`: the document is read as the schema.
* `Schema.flat_resolve?`: contents are resolved to themselves.
* `Schema.flat_decode?_encode?`: they are written, and what is written is read back.
-/

namespace FramedAvro.Avro

/-- A field of a flat record: its name, its type and the default if there is one. -/
structure Column where
  name : String
  type : Primitive
  fallback : Option Json

/-- The word for a type. -/
def Primitive.word : Primitive → String
  | null => "null"
  | boolean => "boolean"
  | int => "int"
  | long => "long"
  | float => "float"
  | double => "double"
  | bytes => "bytes"
  | string => "string"

namespace Column

/-- The field of a schema. -/
def field (column : Column) : Field :=
  .mk ⟨column.name, column.fallback, [], []⟩ (.primitive column.type)

/-- The members of the document of a field, in order. -/
def members (column : Column) : List (String × Json) :=
  (column.fallback.map fun fallback => ("default", fallback)).toList ++
    [("name", .string column.name), ("type", .string column.type.word)]

/-- Whether a field is accepted: its name is an identifier, and its default has a value that
resolves to its type. -/
def isReadable (column : Column) : Bool :=
  Name.isIdentifier column.name.toList && column.fallback.all fun fallback =>
    ((Value.ofJson? fallback).bind fun v => v.unwrapped.resolvePrimitive column.type).isSome

end Column

/-- The schema of a flat record. -/
def Schema.flat (name : Name) (columns : List Column) : Schema :=
  .named (.record ⟨name, []⟩ (columns.map Column.field))

/-- The members of the document of a flat record, in order. -/
def Column.recordMembers (name : String) (space : Option String) (columns : List Column) :
    List (String × Json) :=
  [("fields", .array (columns.map fun column => .object column.members)), ("name", .string name)] ++
    (space.map fun space => ("namespace", Json.string space)).toList ++ [("type", .string "record")]

/-- The document of a flat record. -/
def Column.document (name : String) (space : Option String) (columns : List Column) : Json :=
  .object (recordMembers name space columns)

/-! ### Reading the schema -/

/-- A primitive type is read from the word for it. -/
theorem Primitive.lookup_word (type : Primitive) :
    SchemaJson.primitives.lookup type.word = some type := by
  cases type <;> rfl

namespace Column

open SchemaJson

/-- The word for a type is read as the type. -/
theorem run_read_word (space : Option String) (type : Primitive) (known : Known) :
    (SchemaJson.read space (.string type.word)).run known = .ok (.primitive type, known) := by
  rw [SchemaJson.read, readWord, type.lookup_word]
  rfl

/-- A default is accepted for a type without parts when its value resolves to it. -/
theorem run_checkFallback_primitive {type : Primitive} {fallback : Option Json} (known : Known)
    (h : (fallback.all fun fallback =>
      ((Value.ofJson? fallback).bind fun v => v.unwrapped.resolvePrimitive type).isSome) = true) :
    (checkFallback (.primitive type) fallback).run known = .ok ((), known) := by
  cases fallback with
  | none => rfl
  | some fallback =>
      obtain ⟨r, hr⟩ := Option.isSome_iff_exists.1 h
      obtain ⟨v, hvalue, hresolved⟩ := Option.bind_eq_some_iff.1 hr
      simp [checkFallback, resolveFallback, hvalue, Checked.orCrash, Value.resolve, hresolved,
        Checked.ofOption]

/-- The document of a column is read as its field. -/
theorem run_readField_members {column : Column} (h : column.isReadable = true)
    (space : Option String) (known : Known) :
    (readField space column.members).run known = .ok (column.field, known) := by
  obtain ⟨name, type, fallback⟩ := column
  obtain ⟨hidentifier, hresolves⟩ := Bool.and_eq_true_iff.1 h
  have hother : isCompound (.string type.word) = false := by cases type <;> rfl
  have hfallback : Entries.get? "default" (members ⟨name, type, fallback⟩) = fallback := by
    cases fallback <;> rfl
  have hfits : (checkFallback (.primitive type)
      (Entries.get? "default" (members ⟨name, type, fallback⟩))).run known = .ok ((), known) := by
    rw [hfallback]
    exact run_checkFallback_primitive known hresolves
  have hrun := run_readField (run_read_word space type known) (by cases fallback <;> rfl)
    hidentifier (by cases fallback <;> rfl) (by cases fallback <;> rfl) hother hfits
  rw [hrun, hfallback]
  cases fallback <;> simp [members, field, fieldAliasesOf, attributesBut, inlineKeys, fieldKeys,
    Entries.get?]

/-- Columns that can be read are read as their fields, and add nothing to what is known. -/
theorem run_readFields_members {columns : List Column} (h : columns.all isReadable = true)
    (space : Option String) (known : Known) :
    (readFields space (columns.map fun column => .object column.members)).run known =
      .ok (columns.map field, known) := by
  induction columns with
  | nil => exact run_readFields_nil
  | cons column rest ih =>
      obtain ⟨hcolumn, hrest⟩ := Bool.and_eq_true_iff.1 (List.all_cons ▸ h)
      exact run_readFields_cons (run_readField_members hcolumn space known) (ih hrest)

/-- The document of a flat record is read as its schema. -/
theorem ofJson?_document {name : String} {space : Option String} {own : Name}
    {columns : List Column} (hname : nameOf none (recordMembers name space columns) = .ok own)
    (h : columns.all isReadable = true)
    (hdistinct : distinctFields [] (columns.map field) = true) :
    Schema.ofJson? (document name space columns) = .ok (.flat own columns) := by
  have haliases : aliasesOf own.space (recordMembers name space columns) = .ok [] := by
    cases space <;> rfl
  have hattributes : attributesBut ("fields" :: commonKeys) (recordMembers name space columns) =
      [] := by
    cases space <;> simp [attributesBut, recordMembers, commonKeys]
  have hfields := run_readFields_members h own.space (Known.empty.start own [])
  have hrun : (SchemaJson.read none (document name space columns)).run Known.empty =
      .ok (.flat own columns, (Known.empty.start own []).finish
        (.record ⟨own, []⟩ (columns.map field)) []) := by
    rw [document, SchemaJson.read, readObject_record (by cases space <;> rfl)
      (by cases space <;> rfl), run_readRecord (by cases space <;> rfl) hname haliases hfields
      hdistinct, hattributes]
    rfl
  exact Schema.ofJson?_of_run hrun

end Column

/-! ### Contents -/

/-- The values of a type that an item gives as they are. -/
inductive Primitive.Holds : Primitive → Value → Prop
  | int (i : Int32) : Holds .int (.int i)
  | long (i : Int64) : Holds .long (.long i)
  | string (text : String) : Holds .string (.string text)

/-- The entry of a column: its name and a value of its type. -/
structure Column.Holds (column : Column) (entry : String × Value) : Prop where
  name : entry.1 = column.name
  value : column.type.Holds entry.2

/-- An item gives values of the types of the columns. -/
theorem Primitive.Holds.admits {type : Primitive} {v : Value} (h : type.Holds v) :
    type.Admits v := by
  cases h with
  | int i => exact .int i
  | long i => exact .long i
  | string text => exact .string text

/-- An entry that a column holds is one that its field admits. -/
theorem Column.Holds.admits {column : Column} {entry : String × Value} (h : column.Holds entry) :
    column.field.Admits entry := by
  obtain ⟨name, v⟩ := entry
  obtain ⟨rfl, hvalue⟩ := h
  exact .mk _ _ _ hvalue.admits

section Contents

variable {columns : List Column} {contents : List (String × Value)}

/-- The fields of the columns admit what the columns hold. -/
theorem admitted_of_holds (h : List.Forall₂ Column.Holds columns contents) :
    List.Forall₂ Field.Admits (columns.map Column.field) contents :=
  List.forall₂_map_left_iff.2 (h.imp fun _ _ => Column.Holds.admits)

/-- The fields of columns have the names of the columns. -/
theorem map_name_field (columns : List Column) :
    (columns.map Column.field).map Field.name = columns.map Column.name := by
  rw [List.map_map]
  rfl

/-- The fields of columns with different names are told apart by their names. -/
theorem partless_columns (hdistinct : (columns.map Column.name).Nodup) :
    Partless (columns.map Column.field) where
  distinct := map_name_field columns ▸ hdistinct
  unaliased := List.forall_mem_map.2 fun _ _ => rfl
  typed := List.forall_mem_map.2 fun column _ => ⟨column.type, rfl⟩

end Contents

/-! ### Flat records -/

namespace Schema

variable {name : Name} {columns : List Column} {contents : List (String × Value)}

/-- What a flat record holds resolves to itself. -/
theorem flat_resolve? (h : List.Forall₂ Column.Holds columns contents)
    (hdistinct : (columns.map Column.name).Nodup) :
    (flat name columns).resolve? (.record contents) = .ok (.record contents) :=
  (partless_columns hdistinct).resolve?_admitted ⟨name, []⟩ (admitted_of_holds h)

/-- What a flat record holds is written, and read back when its texts are not too long. -/
theorem flat_decode?_encode? (h : List.Forall₂ Column.Holds columns contents)
    (hdistinct : (columns.map Column.name).Nodup) (hlegible : (Value.record contents).Legible) :
    ∃ payload, (flat name columns).encode? (.record contents) = .ok payload ∧
      (flat name columns).decode? payload = some (.record contents) := by
  have hfields := partless_columns hdistinct
  have hadmitted := admitted_of_holds h
  obtain ⟨payload, hpayload⟩ := hfields.exists_encode? ⟨name, []⟩ hadmitted
  exact ⟨payload, hpayload, hfields.decode?_legible ⟨name, []⟩ hadmitted hpayload hlegible⟩

end Schema

end FramedAvro.Avro
