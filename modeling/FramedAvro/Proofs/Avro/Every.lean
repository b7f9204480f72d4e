import FramedAvro.Avro.Schema

/-!
# Everywhere in a schema

`Schema.Every` says of a schema and of all schemas in it, each with the namespace that surrounds it,
that they have a property. The properties of interest here make a schema `Regular`: it has no
logical types, its references read as themselves where they stand, and the fields of its records
have names of their own, which are no aliases of later fields either.

## Main results

* `Schema.Every.and`, `Schema.Every.mono`: putting such properties together.
* `Definitions.ofSchema?_regular`: what the names in a regular schema stand for is regular.
-/

namespace FramedAvro.Avro

mutual

/-- Whether a schema and all schemas in it have a property, each where a namespace surrounds it. The
fields of a record are surrounded by the namespace of its name. -/
def Schema.Every (p : Option String → Schema → Prop) (enclosing : Option String) : Schema → Prop
  | .array items attributes => p enclosing (.array items attributes) ∧ items.Every p enclosing
  | .map values attributes => p enclosing (.map values attributes) ∧ values.Every p enclosing
  | .union variants => p enclosing (.union variants) ∧ EveryVariant p enclosing variants
  | .named definition => p enclosing (.named definition) ∧ definition.Every p enclosing
  | other => p enclosing other

/-- Whether all schemas in a definition have a property. -/
def Definition.Every (p : Option String → Schema → Prop) (enclosing : Option String) :
    Definition → Prop
  | .record label fields => EveryField p (label.name.within enclosing).space fields
  | .enum _ _ _ => True
  | .fixed _ => True

/-- Whether all schemas in variants have a property. -/
def EveryVariant (p : Option String → Schema → Prop) (enclosing : Option String) :
    List Schema → Prop
  | [] => True
  | variant :: rest => variant.Every p enclosing ∧ EveryVariant p enclosing rest

/-- Whether all schemas in the types of fields have a property. -/
def EveryField (p : Option String → Schema → Prop) (enclosing : Option String) :
    List Field → Prop
  | [] => True
  | .mk _ type :: rest => type.Every p enclosing ∧ EveryField p enclosing rest

end

variable {p q : Option String → Schema → Prop} {enclosing : Option String}

/-- A property of all variants is one of each of them. -/
theorem everyVariant_iff {variants : List Schema} :
    EveryVariant p enclosing variants ↔ ∀ variant ∈ variants, variant.Every p enclosing := by
  induction variants with
  | nil => simp [EveryVariant]
  | cons variant rest ih => simp [EveryVariant, ih]

/-- A property of the types of all fields is one of each of them. -/
theorem everyField_iff {fields : List Field} :
    EveryField p enclosing fields ↔ ∀ field ∈ fields, field.type.Every p enclosing := by
  induction fields with
  | nil => simp [EveryField]
  | cons field rest ih =>
      cases field
      simp [EveryField, ih, Field.type]

/-- What holds everywhere in a schema holds of the schema. -/
theorem Schema.Every.self {schema : Schema} (h : schema.Every p enclosing) :
    p enclosing schema := by
  cases schema with
  | array items attributes => exact h.1
  | map values attributes => exact h.1
  | union variants => exact h.1
  | named definition => exact h.1
  | _ => exact h

/-! ### From property to property -/

section Transfer

variable {p q r : Option String → Schema → Prop} {R : Option String → Option String → Prop}

mutual

/-- What follows from two properties, also where another namespace surrounds the schema that is
related to the first, holds everywhere in a schema when they do. -/
theorem Schema.Every.transfer {enclosing other : Option String}
    (hname : ∀ {e e'} (name : Name), R e e' →
      R (name.within e).space (name.within e').space)
    (hstep : ∀ {e e'} (schema : Schema), R e e' → p e schema → q e schema → r e' schema)
    (hrelated : R enclosing other) :
    {schema : Schema} → schema.Every p enclosing → schema.Every q enclosing → schema.Every r other
  | .array _ _, h, h' =>
      ⟨hstep _ hrelated h.1 h'.1, Schema.Every.transfer hname hstep hrelated h.2 h'.2⟩
  | .map _ _, h, h' =>
      ⟨hstep _ hrelated h.1 h'.1, Schema.Every.transfer hname hstep hrelated h.2 h'.2⟩
  | .union _, h, h' =>
      ⟨hstep _ hrelated h.1 h'.1, EveryVariant.transfer hname hstep hrelated h.2 h'.2⟩
  | .named _, h, h' =>
      ⟨hstep _ hrelated h.1 h'.1, Definition.Every.transfer hname hstep hrelated h.2 h'.2⟩
  | .primitive _, h, h' => hstep _ hrelated h h'
  | .intTime _, h, h' => hstep _ hrelated h h'
  | .longTime _, h, h' => hstep _ hrelated h h'
  | .decimal _ _ _, h, h' => hstep _ hrelated h h'
  | .bigDecimal, h, h' => hstep _ hrelated h h'
  | .uuid, h, h' => hstep _ hrelated h h'
  | .duration, h, h' => hstep _ hrelated h h'
  | .reference _, h, h' => hstep _ hrelated h h'

/-- What holds everywhere in a definition is transferred as for schemas, through its fields. -/
theorem Definition.Every.transfer {enclosing other : Option String}
    (hname : ∀ {e e'} (name : Name), R e e' →
      R (name.within e).space (name.within e').space)
    (hstep : ∀ {e e'} (schema : Schema), R e e' → p e schema → q e schema → r e' schema)
    (hrelated : R enclosing other) :
    {definition : Definition} → definition.Every p enclosing → definition.Every q enclosing →
      definition.Every r other
  | .record label _, h, h' => EveryField.transfer hname hstep (hname label.name hrelated) h h'
  | .enum _ _ _, _, _ => trivial
  | .fixed _, _, _ => trivial

/-- What holds everywhere in variants is transferred as for schemas, one by one. -/
theorem EveryVariant.transfer {enclosing other : Option String}
    (hname : ∀ {e e'} (name : Name), R e e' →
      R (name.within e).space (name.within e').space)
    (hstep : ∀ {e e'} (schema : Schema), R e e' → p e schema → q e schema → r e' schema)
    (hrelated : R enclosing other) :
    {variants : List Schema} → EveryVariant p enclosing variants →
      EveryVariant q enclosing variants → EveryVariant r other variants
  | [], _, _ => trivial
  | _ :: _, h, h' => ⟨Schema.Every.transfer hname hstep hrelated h.1 h'.1,
      EveryVariant.transfer hname hstep hrelated h.2 h'.2⟩

/-- What holds everywhere in fields is transferred as for schemas, one by one. -/
theorem EveryField.transfer {enclosing other : Option String}
    (hname : ∀ {e e'} (name : Name), R e e' →
      R (name.within e).space (name.within e').space)
    (hstep : ∀ {e e'} (schema : Schema), R e e' → p e schema → q e schema → r e' schema)
    (hrelated : R enclosing other) :
    {fields : List Field} → EveryField p enclosing fields → EveryField q enclosing fields →
      EveryField r other fields
  | [], _, _ => trivial
  | .mk _ _ :: _, h, h' => ⟨Schema.Every.transfer hname hstep hrelated h.1 h'.1,
      EveryField.transfer hname hstep hrelated h.2 h'.2⟩

end

end Transfer

/-- Two properties that hold everywhere hold everywhere together. -/
theorem Schema.Every.and {schema : Schema} (h : schema.Every p enclosing)
    (h' : schema.Every q enclosing) :
    schema.Every (fun e s => p e s ∧ q e s) enclosing := by
  refine transfer (R := Eq) ?_ ?_ rfl h h'
  · rintro e _ name rfl
    rfl
  · rintro e _ s rfl hp hq
    exact ⟨hp, hq⟩

/-- What follows from a property that holds everywhere holds everywhere. -/
theorem Schema.Every.mono {schema : Schema} (h : schema.Every p enclosing)
    (himp : ∀ e s, p e s → q e s) : schema.Every q enclosing := by
  refine transfer (R := Eq) ?_ ?_ rfl h h
  · rintro e _ name rfl
    rfl
  · rintro e _ s rfl hp _
    exact himp e s hp

/-! ### Regular schemas -/

namespace Schema

/-- Whether a schema is no logical type. -/
def IsPlain : Schema → Prop
  | intTime _ => False
  | longTime _ => False
  | decimal _ _ _ => False
  | bigDecimal => False
  | uuid => False
  | duration => False
  | _ => True

/-- Whether a reference reads as itself where a namespace surrounds it, which it does unless its
name has no namespace of its own. -/
def ReadsAsItself (enclosing : Option String) : Schema → Prop
  | reference name => name.within enclosing = name
  | _ => True

/-- Whether the fields of a record have different names. -/
def HasDistinctFields : Schema → Prop
  | named (.record _ fields) => (fields.map Field.name).Nodup
  | _ => True

/-- Whether no field of a record has the name of one before it as an alias. -/
def HasOwnAliases : Schema → Prop
  | named (.record _ fields) =>
    fields.Pairwise fun field later => field.name ∉ later.label.aliases
  | _ => True

/-- Schemas of which a value is read with the types it was written with. -/
structure Regular (enclosing : Option String) (schema : Schema) : Prop where
  plain : schema.IsPlain
  settled : schema.ReadsAsItself enclosing
  distinct : schema.HasDistinctFields
  aliased : schema.HasOwnAliases

end Schema

/-- A name stays what it is in a namespace if it has one of its own, or if there is none around it.
-/
theorem Name.within_eq_self_iff {enclosing : Option String} {name : Name} :
    name.within enclosing = name ↔ name.space = none → enclosing = none := by
  obtain ⟨space, base⟩ := name
  cases space <;> simp [Name.within]

/-- A name has no namespace only where there is none around it either. -/
theorem Name.space_within_eq_none_iff {enclosing : Option String} {name : Name} :
    (name.within enclosing).space = none ↔ name.space = none ∧ enclosing = none :=
  Option.or_eq_none_iff

/-- A regular schema stays regular under another namespace, and under none if there was none. -/
theorem Schema.Every.relocate {enclosing other : Option String} {schema : Schema}
    (h : schema.Every Regular enclosing) (hother : enclosing = none → other = none) :
    schema.Every Regular other := by
  refine transfer (R := fun e e' => e = none → e' = none) ?_ ?_ hother h h
  · intro e e' name hspace hnone
    rw [Name.space_within_eq_none_iff] at hnone ⊢
    exact ⟨hnone.1, hspace hnone.2⟩
  · rintro e e' s hspace hp -
    refine ⟨hp.plain, ?_, hp.distinct, hp.aliased⟩
    have hsettled := hp.settled
    cases s with
    | reference name =>
        rw [ReadsAsItself, Name.within_eq_self_iff] at hsettled ⊢
        exact fun hnone => hspace (hsettled hnone)
    | _ => trivial

/-- Whether the fields of a definition, if it has any, are regular where a namespace surrounds them
and have names of their own. -/
def Definition.RegularIn (inner : Option String) : Definition → Prop
  | .record _ fields =>
    (fields.map Field.name).Nodup ∧
      (fields.Pairwise fun field later => field.name ∉ later.label.aliases) ∧
      EveryField Schema.Regular inner fields
  | .enum _ _ _ => True
  | .fixed _ => True

/-- A definition that is regular in a namespace is so in another, as long as having none stays
having none. -/
theorem Definition.RegularIn.relocate {inner other : Option String} {definition : Definition}
    (h : definition.RegularIn inner) (hother : inner = none → other = none) :
    definition.RegularIn other := by
  cases definition with
  | record label fields =>
      obtain ⟨hdistinct, haliased, hfields⟩ := h
      refine ⟨hdistinct, haliased, everyField_iff.2 fun field hfield => ?_⟩
      exact (everyField_iff.1 hfields field hfield).relocate hother
  | enum label symbols fallback => trivial
  | fixed type => trivial

/-- A regular schema that is a definition has regular fields. -/
theorem Schema.Every.regularIn {enclosing : Option String} {definition : Definition}
    (h : (named definition).Every Regular enclosing) :
    definition.RegularIn (definition.name.within enclosing).space := by
  cases definition with
  | record label fields => exact ⟨h.self.distinct, h.self.aliased, h.2⟩
  | enum label symbols fallback => trivial
  | fixed type => trivial

/-! ### Definitions in regular schemas -/

namespace Definitions

/-- Whether every name stands for a definition that is regular under its namespace, and that has no
namespace of its own either if the name has none. -/
def AreRegular (definitions : Definitions) : Prop :=
  ∀ entry ∈ definitions,
    entry.2.RegularIn entry.1.space ∧ (entry.1.space = none → entry.2.name.space = none)

/-- Where no names are defined, all are regular. -/
theorem areRegular_nil : AreRegular [] :=
  fun _ hentry => absurd hentry List.not_mem_nil

/-- One more definition that is regular everywhere keeps a table regular. -/
theorem AreRegular.cons {before : Definitions} (h : before.AreRegular) {definition : Definition}
    {enclosing : Option String}
    (hdefinition : (Schema.named definition).Every Schema.Regular enclosing) :
    AreRegular ((definition.name.within enclosing, definition) :: before) :=
  List.forall_mem_cons.2
    ⟨⟨hdefinition.regularIn, fun hnone => (Name.space_within_eq_none_iff.1 hnone).1⟩, h⟩

/-- What a name stands for among regular definitions, under the namespace of the name. -/
theorem AreRegular.get? {definitions : Definitions} (h : definitions.AreRegular) {name : Name}
    {definition : Definition} (hget : definitions.get? name = some definition) :
    definition.RegularIn name.space ∧ (name.space = none → definition.name.space = none) := by
  obtain ⟨entry, hfind, rfl⟩ := Option.map_eq_some_iff.1 hget
  have hname : entry.1 = name := by simpa using List.find?_some hfind
  rw [← hname]
  exact h entry (List.mem_of_find?_eq_some hfind)

mutual

/-- Regular schemas have regular definitions in them. -/
theorem addSchema?_regular {outside before after : Definitions} {enclosing : Option String} :
    {schema : Schema} → addSchema? outside before enclosing schema = some after →
      schema.Every Schema.Regular enclosing → before.AreRegular → after.AreRegular
  | .array items _, hadd, h, hbefore => by
      rw [addSchema?] at hadd
      exact addSchema?_regular hadd h.2 hbefore
  | .map values _, hadd, h, hbefore => by
      rw [addSchema?] at hadd
      exact addSchema?_regular hadd h.2 hbefore
  | .union _, hadd, h, hbefore => addVariants?_regular hadd h.2 hbefore
  | .named _, hadd, h, hbefore => addDefinition?_regular hadd h hbefore
  | .reference name, hadd, _, hbefore => by
      rw [addSchema?] at hadd
      split at hadd
      · obtain rfl := Option.some.inj hadd
        exact hbefore
      · contradiction
  | .primitive _, hadd, _, hbefore => Option.some.inj hadd ▸ hbefore
  | .intTime _, hadd, _, hbefore => Option.some.inj hadd ▸ hbefore
  | .longTime _, hadd, _, hbefore => Option.some.inj hadd ▸ hbefore
  | .decimal _ _ _, hadd, _, hbefore => Option.some.inj hadd ▸ hbefore
  | .bigDecimal, hadd, _, hbefore => Option.some.inj hadd ▸ hbefore
  | .uuid, hadd, _, hbefore => Option.some.inj hadd ▸ hbefore
  | .duration, hadd, _, hbefore => Option.some.inj hadd ▸ hbefore

/-- Collecting the names in a regular definition keeps a table regular. -/
theorem addDefinition?_regular {outside before after : Definitions} {enclosing : Option String} :
    {definition : Definition} →
      addDefinition? outside before enclosing definition = some after →
      (Schema.named definition).Every Schema.Regular enclosing → before.AreRegular →
      after.AreRegular
  | .record label fields, hadd, h, hbefore => by
      have hcons := hbefore.cons h
      rw [addDefinition?] at hadd
      split at hadd
      · contradiction
      · exact addFields?_regular hadd h.2 hcons
  | .enum label symbols fallback, hadd, h, hbefore => by
      have hcons := hbefore.cons h
      rw [addDefinition?] at hadd
      split at hadd
      · contradiction
      · obtain rfl := Option.some.inj hadd
        exact hcons
  | .fixed type, hadd, h, hbefore => by
      have hcons := hbefore.cons h
      rw [addDefinition?] at hadd
      split at hadd
      · contradiction
      · obtain rfl := Option.some.inj hadd
        exact hcons

/-- Collecting the names in regular variants keeps a table regular. -/
theorem addVariants?_regular {outside before after : Definitions} {enclosing : Option String} :
    {variants : List Schema} → addVariants? outside before enclosing variants = some after →
      EveryVariant Schema.Regular enclosing variants → before.AreRegular → after.AreRegular
  | [], hadd, _, hbefore => Option.some.inj hadd ▸ hbefore
  | variant :: rest, hadd, h, hbefore => by
      rw [addVariants?] at hadd
      split at hadd
      · next middle hvariant =>
          exact addVariants?_regular hadd h.2 (addSchema?_regular hvariant h.1 hbefore)
      · contradiction

/-- Collecting the names in the types of regular fields keeps a table regular. -/
theorem addFields?_regular {outside before after : Definitions} {enclosing : Option String} :
    {fields : List Field} → addFields? outside before enclosing fields = some after →
      EveryField Schema.Regular enclosing fields → before.AreRegular → after.AreRegular
  | [], hadd, _, hbefore => Option.some.inj hadd ▸ hbefore
  | .mk label type :: rest, hadd, h, hbefore => by
      rw [addFields?] at hadd
      split at hadd
      · next middle htype =>
          exact addFields?_regular hadd h.2 (addSchema?_regular htype h.1 hbefore)
      · contradiction

end

/-- The names in a regular schema stand for regular definitions. -/
theorem ofSchema?_regular {schema : Schema} {definitions : Definitions}
    (h : ofSchema? schema = some definitions) (hschema : schema.Every Schema.Regular none) :
    definitions.AreRegular :=
  addSchema?_regular h hschema areRegular_nil

/-- The definition that a schema gives or refers to. -/
def opened? (definitions : Definitions) : Schema → Option Definition
  | .named definition => some definition
  | .reference name => definitions.get? name
  | _ => none

/-- What a name stands for among regular definitions, under the namespace of its own name. -/
theorem AreRegular.get?_within {definitions : Definitions} (h : definitions.AreRegular)
    {name : Name} {definition : Definition} (hget : definitions.get? name = some definition) :
    definition.RegularIn (definition.name.within name.space).space := by
  obtain ⟨hregular, hspace⟩ := h.get? hget
  exact hregular.relocate fun hnone => Name.space_within_eq_none_iff.2 ⟨hspace hnone, hnone⟩

/-- The definition of a regular schema is regular under the namespace that surrounds the schema, and
under the one of its own name there. -/
theorem AreRegular.opened? {definitions : Definitions} (h : definitions.AreRegular)
    {enclosing : Option String} {schema : Schema} (hschema : schema.Every Schema.Regular enclosing)
    {definition : Definition} (hopened : definitions.opened? schema = some definition) :
    definition.RegularIn enclosing ∧
      definition.RegularIn (definition.name.within enclosing).space := by
  cases schema with
  | named own =>
      obtain rfl := Option.some.inj hopened
      have hregular := hschema.regularIn
      exact ⟨hregular.relocate fun hnone => (Name.space_within_eq_none_iff.1 hnone).2, hregular⟩
  | reference name =>
      obtain ⟨hregular, hspace⟩ := h.get? hopened
      have hsettled : name.space = none → enclosing = none :=
        Name.within_eq_self_iff.1 hschema.settled
      exact ⟨hregular.relocate hsettled, hregular.relocate fun hnone =>
        Name.space_within_eq_none_iff.2 ⟨hspace hnone, hsettled hnone⟩⟩
  | _ => contradiction

end Definitions

end FramedAvro.Avro
