import FramedAvro.Avro.SchemaJson
import FramedAvro.Proofs.Avro.Every

/-!
# What is read as a schema

Reading a schema refuses a record when a field has the name of one before it. A definition that is
read may be taken from the names that are known, so that this holds of the schema because it holds
of those: `Reading.Ensures` says of a step what it gives and that it keeps the known definitions as
they should be.

## Main results

* `Schema.parse?_distinct`: the fields of all records in a schema have different names.
-/

namespace FramedAvro.Avro

/-- Whether the fields of all records in a schema have different names, wherever it stands. -/
def Schema.Distinct (schema : Schema) : Prop :=
  ∀ enclosing, schema.Every (fun _ s => s.HasDistinctFields) enclosing

/-- Whether the fields of all records in the finished definitions have different names. -/
def Known.Distinct (known : Known) : Prop :=
  ∀ entry ∈ known.finished, (Schema.named entry.2).Distinct

/-- An enum has no fields whose names could be the same. -/
theorem distinct_enum (label : Label) (symbols : List String) (fallback : Option String) :
    (Schema.named (.enum label symbols fallback)).Distinct :=
  fun _ => ⟨trivial, trivial⟩

/-- A fixed type has no fields whose names could be the same. -/
theorem distinct_fixed (type : FixedSize) : (Schema.named (.fixed type)).Distinct :=
  fun _ => ⟨trivial, trivial⟩

/-! ### Steps -/

namespace Reading

variable {α β : Type}

/-- Whether a step keeps the known definitions distinct, and what holds of that which it reads. -/
def Ensures (p : α → Prop) (step : Reading α) : Prop :=
  ∀ known : Known, known.Distinct → ∀ result, step.run known = .ok result →
    result.2.Distinct ∧ p result.1

namespace Ensures

variable {p : α → Prop} {q : β → Prop}

/-- A step that only gives a value ensures what holds of the value. -/
theorem pure {a : α} (h : p a) : Ensures p (Pure.pure a) := by
  rintro known hknown _ hresult
  obtain rfl := Except.ok.inj hresult
  exact ⟨hknown, h⟩

/-- A step that refuses ensures anything, since nothing comes of it. -/
theorem refuse : Ensures p Avro.refuse := by
  intro known _ result hresult
  contradiction

/-- What the first step ensures the second may rely on. -/
theorem bind {first : Reading α} {next : α → Reading β} (h : Ensures p first)
    (hnext : ∀ a, p a → Ensures q (next a)) : Ensures q (first >>= next) := by
  intro known hknown result hresult
  rw [StateT.run_bind] at hresult
  cases hfirst : first.run known with
  | error obstacle =>
      rw [hfirst] at hresult
      contradiction
  | ok middle =>
      rw [hfirst] at hresult
      obtain ⟨hmiddle, hp⟩ := h known hknown middle hfirst
      exact hnext middle.1 hp middle.2 hmiddle result hresult

/-- A part that does not look at what is known. -/
theorem lift {part : Checked α} (h : ∀ a, part = .ok a → p a) :
    Ensures p (liftM part : Reading α) := by
  intro known hknown result hresult
  cases hpart : part with
  | error obstacle =>
      rw [hpart] at hresult
      contradiction
  | ok a =>
      rw [hpart] at hresult
      obtain rfl := Except.ok.inj hresult
      exact ⟨hknown, h a hpart⟩

/-- What is known may be looked at. -/
theorem get : Ensures Known.Distinct (MonadState.get : Reading Known) := by
  intro known hknown result hresult
  obtain rfl := Except.ok.inj hresult
  exact ⟨hknown, hknown⟩

/-- What is known may be changed as long as its definitions stay distinct. -/
theorem modify {change : Known → Known}
    (h : ∀ known : Known, known.Distinct → (change known).Distinct) :
    Ensures (fun _ => True) (modify change : Reading PUnit) := by
  intro known hknown result hresult
  obtain rfl := Except.ok.inj hresult
  exact ⟨h known hknown, trivial⟩

/-- What is required holds of what is read afterwards. -/
theorem require (ok : Bool) : Ensures (fun _ => ok = true) (Avro.require ok) := by
  rw [Avro.require]
  split
  · next h => exact pure h
  · exact refuse

end Ensures

end Reading

/-! ### Definitions that are known -/

/-- A definition that is found among the finished ones is distinct. -/
theorem Known.Distinct.get? {known : Known} (h : known.Distinct) {name : Name}
    {definition : Definition} (hget : known.finished.get? name = some definition) :
    (Schema.named definition).Distinct := by
  obtain ⟨entry, hfind, rfl⟩ := Option.map_eq_some_iff.1 hget
  exact h entry (List.mem_of_find?_eq_some hfind)

/-- One more finished definition, under its name and its aliases, keeps what is known distinct. -/
theorem Known.Distinct.finish {known : Known} (h : known.Distinct) {definition : Definition}
    (hdefinition : (Schema.named definition).Distinct) (aliases : List Name) :
    (known.finish definition aliases).Distinct := by
  intro entry hentry
  rcases List.mem_append.1 hentry with hnew | hold
  · obtain ⟨name, -, rfl⟩ := List.mem_map.1 hnew
    exact hdefinition
  · exact h entry hold

/-- What a name stands for, a definition or the reference to one that is being read, is distinct. -/
theorem Known.Distinct.seen? {known : Known} (h : known.Distinct) {name : Name} {schema : Schema}
    (hseen : known.seen? name = some schema) : schema.Distinct := by
  rw [Known.seen?] at hseen
  split at hseen
  · obtain rfl := Option.some.inj hseen
    exact fun _ => trivial
  · obtain ⟨definition, hget, rfl⟩ := Option.map_eq_some_iff.1 hseen
    exact h.get? hget

/-- A reference has no fields of its own, so that it is distinct whatever it refers to. -/
theorem Known.reference?_distinct {known : Known} {name : Name} {schema : Schema}
    (h : known.reference? name = some schema) : schema.Distinct := by
  rw [Known.reference?] at h
  split at h
  · obtain rfl := Option.some.inj h
    exact fun _ => trivial
  · obtain ⟨own, -, rfl⟩ := Option.map_eq_some_iff.1 h
    exact fun _ => trivial

/-- A logical type leaves out what it stands on, or is left out itself. -/
theorem LogicalType.onTopOf_distinct (logicalType : LogicalType) {base : Schema}
    (h : base.Distinct) (members : List (String × Json)) :
    (logicalType.onTopOf base members).Distinct := by
  rw [LogicalType.onTopOf.eq_def]
  split
  · split <;> dsimp only
    · split
      · exact fun _ => trivial
      · exact h
    · split
      · exact fun _ => trivial
      · exact h
    · exact h
  · split
    · exact fun _ => trivial
    · exact h
  · split
    · exact fun _ => trivial
    · split
      · exact fun _ => trivial
      · exact h
    · exact h
  all_goals
    split
    · exact fun _ => trivial
    · exact h

namespace SchemaJson

open Reading

/-! ### Parts of schemas -/

/-- A name gives a reference or a definition that is known. -/
theorem readReference_ensures (space : Option String) (word : String) :
    Ensures Schema.Distinct (readReference space word) :=
  (Ensures.lift fun _ _ => trivial).bind fun _ _ =>
    Ensures.get.bind fun _ _ => Ensures.lift fun _ h =>
      Known.reference?_distinct (Checked.ofOption_eq_ok_iff.1 h)

/-- A word is a primitive type or a name, and distinct in either case. -/
theorem readWord_ensures (space : Option String) (word : String) :
    Ensures Schema.Distinct (readWord space word) := by
  rw [readWord]
  split
  · exact Ensures.pure fun _ => trivial
  · exact readReference_ensures space word

/-- The name and the aliases of a definition are read without a look at what is known. -/
theorem readHead_ensures (space : Option String) (members : List (String × Json)) :
    Ensures (fun _ => True) (readHead space members) :=
  (Ensures.lift fun _ _ => trivial).bind fun _ _ =>
    (Ensures.lift fun _ _ => trivial).bind fun _ _ => Ensures.pure trivial

/-- A word that stands for what was read before, wherever it may stand, gives something distinct. -/
theorem readSeen_ensures (space : Option String) (word : String) (named : Bool)
    (members : List (String × Json)) :
    Ensures Schema.Distinct (readSeen space word named members) := by
  refine Ensures.get.bind fun known hknown => ?_
  split
  · next schema hseen => exact Ensures.pure (hknown.seen? hseen)
  · split
    · exact (readHead_ensures space members).bind fun _ _ => Ensures.refuse
    · exact Ensures.refuse

/-- A definition that is distinct is finished and given. -/
theorem readEnd_ensures {definition : Definition} (h : (Schema.named definition).Distinct)
    (aliases : List Name) : Ensures Schema.Distinct (readEnd definition aliases) :=
  (Ensures.modify fun _ hknown => hknown.finish h aliases).bind fun _ _ => Ensures.pure h

/-- What is read as an enum is distinct. -/
theorem readEnum_ensures (space : Option String) (members : List (String × Json)) :
    Ensures Schema.Distinct (readEnum space members) := by
  rw [readEnum]
  split
  · exact readSeen_ensures space "enum" true members
  · exact (readHead_ensures space members).bind fun _ _ =>
      (Ensures.lift fun _ _ => trivial).bind fun _ _ =>
      (Ensures.lift fun _ _ => trivial).bind fun _ _ => readEnd_ensures (distinct_enum _ _ _) _

/-- What is read as a fixed type is distinct. -/
theorem readFixed_ensures (space : Option String) (members : List (String × Json)) :
    Ensures Schema.Distinct (readFixed space members) := by
  rw [readFixed]
  split
  · exact readSeen_ensures space "fixed" false members
  · exact (Ensures.lift fun _ _ => trivial).bind fun _ _ =>
      (Ensures.require _).bind fun _ _ => (Ensures.require _).bind fun _ _ =>
      (readHead_ensures space members).bind fun _ _ => readEnd_ensures (distinct_fixed _) _

/-- Checking a default changes nothing that is known. -/
theorem checkFallback_ensures (type : Schema) (fallback : Option Json) :
    Ensures (fun _ => True) (checkFallback type fallback) := by
  rw [checkFallback.eq_def]
  split
  · exact Ensures.pure trivial
  · exact Ensures.get.bind fun _ _ =>
      (Ensures.lift fun _ _ => trivial).bind fun _ _ => Ensures.pure trivial

/-- The names of distinct fields are different, and none of them is taken. -/
theorem nodup_of_distinctFields {taken : List String} {fields : List Field}
    (h : distinctFields taken fields = true) :
    (fields.map Field.name).Nodup ∧ ∀ name ∈ fields.map Field.name, name ∉ taken := by
  induction fields generalizing taken with
  | nil => simp
  | cons field rest ih =>
      obtain ⟨label, type⟩ := field
      simp only [distinctFields, Bool.and_eq_true, Bool.not_eq_true', List.contains_eq_mem,
        decide_eq_false_iff_not] at h
      obtain ⟨hfree, hrest⟩ := h
      obtain ⟨hnodup, htaken⟩ := ih hrest
      rw [List.map_cons, List.nodup_cons]
      refine ⟨⟨fun hmem => htaken _ hmem ?_, hnodup⟩, ?_⟩
      · exact List.mem_append_left _ List.mem_cons_self
      · intro name hname
        rcases List.mem_cons.1 hname with rfl | hname
        · exact hfree
        · exact fun hmem => htaken name hname (List.mem_append_right _ hmem)

/-! ### Schemas -/

/-- A record is distinct when no field has the name of one before it and the types of its fields are
distinct. -/
theorem distinct_record {label : Label} {fields : List Field}
    (h : distinctFields [] fields = true) (htypes : ∀ field ∈ fields, field.type.Distinct) :
    (Schema.named (.record label fields)).Distinct :=
  fun _ => ⟨(nodup_of_distinctFields h).1,
    everyField_iff.2 fun field hfield => htypes field hfield _⟩

/-- A union is distinct when its variants are. -/
theorem distinct_union {variants : List Schema} (h : ∀ variant ∈ variants, variant.Distinct) :
    (Schema.union variants).Distinct :=
  fun _ => ⟨trivial, everyVariant_iff.2 fun variant hvariant => h variant hvariant _⟩

mutual

/-- What is read has fields with different names, by the sizes of what it is read from. -/
theorem read_ensures (space : Option String) (j : Json) :
    Ensures Schema.Distinct (read space j) := by
  rw [read.eq_def]
  split
  · exact readWord_ensures space _
  · exact readObject_ensures space false _
  · next items =>
      exact (readVariants_ensures space items).bind fun variants hvariants =>
        (Ensures.require _).bind fun _ _ => Ensures.pure (distinct_union hvariants)
  · exact Ensures.refuse
termination_by (sizeOf j, 0)

/-- What is read from an object is distinct, whichever kind of type it describes. -/
theorem readObject_ensures (space : Option String) (inField : Bool)
    (members : List (String × Json)) :
    Ensures Schema.Distinct (readObject space inField members) := by
  rw [readObject]
  split
  · exact readType_ensures space inField members
  · split
    · next logicalType _ =>
        exact (readBase_ensures space members).bind fun base hbase =>
          Ensures.pure (logicalType.onTopOf_distinct hbase members)
    · exact readType_ensures space inField members
  · exact Ensures.refuse
termination_by (sizeOf members, 3)

/-- The schema below a logical type is distinct. -/
theorem readBase_ensures (space : Option String) (members : List (String × Json)) :
    Ensures Schema.Distinct (readBase space members) := by
  rw [readBase]
  split
  · exact Ensures.refuse
  · next type htype =>
      split
      · exact readFixed_ensures space members
      · exact read_ensures space type
termination_by (sizeOf members, 2)
decreasing_by
  exact Prod.Lex.left _ _ (sizeOf_get?_lt ‹_›)

/-- What is read from the type that an object names is distinct. -/
theorem readType_ensures (space : Option String) (inField : Bool)
    (members : List (String × Json)) :
    Ensures Schema.Distinct (readType space inField members) := by
  rw [readType]
  split
  · exact Ensures.refuse
  · next type htype =>
      split
      · split
        · exact readReference_ensures space "record"
        · exact readRecord_ensures space members
      · exact readEnum_ensures space members
      · exact readFixed_ensures space members
      · split
        · next items hitems =>
            exact (read_ensures space items).bind fun _ h => Ensures.pure fun e => ⟨trivial, h e⟩
        · exact Ensures.refuse
      · split
        · next values hvalues =>
            exact (read_ensures space values).bind fun _ h => Ensures.pure fun e => ⟨trivial, h e⟩
        · exact Ensures.refuse
      · exact read_ensures space type
termination_by (sizeOf members, 2)
decreasing_by
  · exact Prod.Lex.right _ (by decide)
  all_goals exact Prod.Lex.left _ _ (sizeOf_get?_lt ‹_›)

/-- What is read as a record is distinct: the names of its fields are compared, and their types are
read in turn. -/
theorem readRecord_ensures (space : Option String) (members : List (String × Json)) :
    Ensures Schema.Distinct (readRecord space members) := by
  rw [readRecord]
  split
  · exact readSeen_ensures space "record" true members
  · next items hitems =>
      refine (readHead_ensures space members).bind fun ⟨name, aliases⟩ _ => ?_
      have hstart : Ensures (fun _ => True) (modify (·.start name aliases) : Reading PUnit) :=
        Ensures.modify fun _ hknown => hknown
      exact hstart.bind fun _ _ => (readFields_ensures name.space items).bind fun fields hfields =>
        (Ensures.require _).bind fun _ hdistinct =>
          readEnd_ensures (distinct_record hdistinct hfields) aliases
  · exact (readHead_ensures space members).bind fun _ _ => Ensures.refuse
termination_by (sizeOf members, 1)
decreasing_by
  have := sizeOf_get?_lt ‹_›
  simp only [Json.array.sizeOf_spec] at this
  exact Prod.Lex.left _ _ (by omega)

/-- All variants that are read for a union are distinct. -/
theorem readVariants_ensures (space : Option String) (items : List Json) :
    Ensures (fun variants => ∀ variant ∈ variants, Schema.Distinct variant)
      (readVariants space items) := by
  rw [readVariants.eq_def]
  split
  · exact Ensures.pure fun _ hmem => absurd hmem List.not_mem_nil
  · next item rest =>
      exact (read_ensures space item).bind fun _ h => (readVariants_ensures space rest).bind
        fun _ hrest => Ensures.pure (List.forall_mem_cons.2 ⟨h, hrest⟩)
termination_by (sizeOf items, 1)

/-- The types of all fields that are read for a record are distinct. -/
theorem readFields_ensures (space : Option String) (items : List Json) :
    Ensures (fun fields => ∀ field ∈ fields, Schema.Distinct (Field.type field))
      (readFields space items) := by
  rw [readFields.eq_def]
  split
  · exact Ensures.pure fun _ hmem => absurd hmem List.not_mem_nil
  · next members rest =>
      exact (readField_ensures space members).bind fun _ h => (readFields_ensures space rest).bind
        fun _ hrest => Ensures.pure (List.forall_mem_cons.2 ⟨h, hrest⟩)
  · next rest _ => exact readFields_ensures space rest
termination_by (sizeOf items, 1)

/-- The type of a field that is read is distinct. -/
theorem readField_ensures (space : Option String) (members : List (String × Json)) :
    Ensures (fun field => Schema.Distinct (Field.type field)) (readField space members) := by
  rw [readField]
  exact (Ensures.lift fun _ _ => trivial).bind fun _ _ =>
    (Ensures.require _).bind fun _ _ =>
    (readObject_ensures space true members).bind fun _ h =>
    (checkFallback_ensures _ _).bind fun _ _ => Ensures.pure h
termination_by (sizeOf members, 4)

end

/-! ### Objects that are definitions -/

/-- Whether a type is one of the words for a type with parts. -/
def isCompound (type : Json) : Bool :=
  type.string?.any ["record", "enum", "fixed", "array", "map"].contains

section Objects

variable {space : Option String} {inField : Bool} {members : List (String × Json)}

/-- An object without a logical type is what its type asks for. -/
theorem readObject_eq {type : Json} (hlogical : Entries.get? "logicalType" members = none)
    (htype : Entries.get? "type" members = some type) :
    readObject space inField members =
      match type.string? with
      | some "record" =>
        if inField then readReference space "record" else readRecord space members
      | some "enum" => readEnum space members
      | some "fixed" => readFixed space members
      | some "array" =>
        match _h : Entries.get? "items" members with
        | some items => do
          return .array (← read space items) (attributesBut ("items" :: commonKeys) members)
        | none => refuse
      | some "map" =>
        match _h : Entries.get? "values" members with
        | some values => do
          return .map (← read space values) (attributesBut ("values" :: commonKeys) members)
        | none => refuse
      | _ => read space type := by
  rw [readObject, hlogical]
  dsimp only
  rw [readType.eq_def]
  split
  · next hnone => exact absurd (htype.symm.trans hnone) (by simp)
  · next own hown =>
      obtain rfl := Option.some.inj (htype.symm.trans hown)
      rfl

/-- An object that says it is a record, with no logical type, is read as one. -/
theorem readObject_record (hlogical : Entries.get? "logicalType" members = none)
    (htype : Entries.get? "type" members = some (.string "record")) :
    readObject space false members = readRecord space members :=
  readObject_eq hlogical htype

/-- An object that says it is an enum, with no logical type, is read as one. -/
theorem readObject_enum (hlogical : Entries.get? "logicalType" members = none)
    (htype : Entries.get? "type" members = some (.string "enum")) :
    readObject space inField members = readEnum space members :=
  readObject_eq hlogical htype

/-- An object that says it is a fixed type, with no logical type, is read as one. -/
theorem readObject_fixed (hlogical : Entries.get? "logicalType" members = none)
    (htype : Entries.get? "type" members = some (.string "fixed")) :
    readObject space inField members = readFixed space members :=
  readObject_eq hlogical htype

/-- A type that is no word for a type with parts is read by itself. -/
theorem readObject_other {type : Json} (hlogical : Entries.get? "logicalType" members = none)
    (htype : Entries.get? "type" members = some type) (hother : isCompound type = false) :
    readObject space inField members = read space type := by
  rw [readObject_eq hlogical htype]
  split
  all_goals first
    | rfl
    | next hword =>
        rw [isCompound, hword] at hother
        contradiction

/-- A record is read when its name and its fields are, and no two fields share a name. -/
theorem run_readRecord {items : List Json} {name : Name} {aliases : List Name}
    {fields : List Field} {known after : Known}
    (hitems : Entries.get? "fields" members = some (.array items))
    (hname : nameOf space members = .ok name)
    (haliases : aliasesOf name.space members = .ok aliases)
    (hfields : (readFields name.space items).run (known.start name aliases) = .ok (fields, after))
    (hdistinct : distinctFields [] fields = true) :
    (readRecord space members).run known =
      .ok (.named (.record ⟨name, attributesBut ("fields" :: commonKeys) members⟩ fields),
        after.finish (.record ⟨name, attributesBut ("fields" :: commonKeys) members⟩ fields)
          aliases) := by
  rw [readRecord.eq_def]
  split
  · next hnone => exact absurd (hitems.symm.trans hnone) (by simp)
  · next own hown =>
      obtain rfl := Json.array.inj (Option.some.inj (hitems.symm.trans hown))
      simp [readHead, hname, haliases, hfields, hdistinct, require, readEnd]
  · next other hother hown =>
      exact absurd (Option.some.inj (hitems.symm.trans hown)).symm (hother items)

/-- A field is read when its type is, which is no word for a type with parts, and its default fits
the type. -/
theorem run_readField {type : Json} {schema : Schema} {known after : Known}
    (hread : (read space type).run known = .ok (schema, after)) {name : String}
    (hname : textOf "name" members = some name) (hidentifier : Name.isIdentifier name.toList = true)
    (hlogical : Entries.get? "logicalType" members = none)
    (htype : Entries.get? "type" members = some type)
    (hother : isCompound type = false)
    (hfits : (checkFallback schema (Entries.get? "default" members)).run after = .ok ((), after)) :
    (readField space members).run known =
      .ok (.mk ⟨name, Entries.get? "default" members, fieldAliasesOf members,
        attributesBut (inlineKeys schema ++ fieldKeys) members⟩ schema, after) := by
  rw [readField, readObject_other hlogical htype hother]
  simp [hname, hidentifier, hread, hfits, require, Checked.ofOption]

/-- Fields are read one after the other, each with the names that are known after those before it.
-/
theorem run_readFields_cons {rest : List Json} {field : Field} {fields : List Field}
    {known middle after : Known}
    (hfield : (readField space members).run known = .ok (field, middle))
    (hrest : (readFields space rest).run middle = .ok (fields, after)) :
    (readFields space (.object members :: rest)).run known = .ok (field :: fields, after) := by
  rw [readFields]
  simp [hfield, hrest]

/-- Where there are no fields left, none are read. -/
theorem run_readFields_nil {known : Known} :
    (readFields space []).run known = .ok ([], known) := by
  rw [readFields]
  rfl

end Objects

/-! ### Documents of records -/

/-- The members of a field, with its name, its aliases and its type. -/
def fieldMembers (name : String) (aliases : List String) (type : Json) : List (String × Json) :=
  [("aliases", .array (aliases.map .string)), ("name", .string name), ("type", type)]

/-- The document of a record, with its name and the members of its fields. -/
def recordJson (name : String) (fields : List (List (String × Json))) : Json :=
  .object [("fields", .array (fields.map .object)), ("name", .string name),
    ("type", .string "record")]

section Records

variable {space : Option String} {known after : Known}

/-- The aliases that were written for a field are read from it. -/
theorem fieldAliasesOf_fieldMembers (name : String) (aliases : List String) (type : Json) :
    fieldAliasesOf (fieldMembers name aliases type) = aliases := by
  show (aliases.map Json.string).filterMap Json.string? = aliases
  induction aliases with
  | nil => rfl
  | cons first rest ih => rw [List.map_cons, List.filterMap_cons, Json.string?, ih]

/-- Fields are read one after the other when the type of each of them is. -/
theorem run_readFields_fieldMembers {name : String} {aliases : List String} {type : Json}
    {schema : Schema} {middle : Known} {rest : List Json} {fields : List Field}
    (hidentifier : Name.isIdentifier name.toList = true)
    (hother : isCompound type = false)
    (hread : (read space type).run known = .ok (schema, middle))
    (hrest : (readFields space rest).run middle = .ok (fields, after)) :
    (readFields space (.object (fieldMembers name aliases type) :: rest)).run known =
      .ok (.mk ⟨name, none, aliases, []⟩ schema :: fields, after) := by
  have hname : textOf "name" (fieldMembers name aliases type) = some name := rfl
  have hfallback : Entries.get? "default" (fieldMembers name aliases type) = none := rfl
  have hfield := run_readField hread hname hidentifier rfl rfl hother rfl
  rw [run_readFields_cons hfield hrest, fieldAliasesOf_fieldMembers, hfallback]
  simp [attributesBut, fieldMembers, fieldKeys]

/-- A word is read as the reference to a known name. -/
theorem run_read_reference {word : String} {name : Name} {schema : Schema}
    (hword : primitives.lookup word = none) (hname : Name.referred? space word = some name)
    (hknown : known.reference? name = some schema) :
    (read space (.string word)).run known = .ok (schema, known) := by
  rw [read, readWord, hword]
  simp [readReference, hname, hknown, Checked.ofOption]

/-- A record is read when its fields are. -/
theorem run_read_recordJson {name : String} {own : Name} {fields : List Field}
    {members : List (List (String × Json))}
    (hname : nameOf space [("name", .string name)] = .ok own)
    (hfields : (readFields own.space (members.map .object)).run (known.start own []) =
      .ok (fields, after)) (hdistinct : distinctFields [] fields = true) :
    (read space (recordJson name members)).run known =
      .ok (.named (.record ⟨own, []⟩ fields), after.finish (.record ⟨own, []⟩ fields) []) := by
  have hown : nameOf space [("fields", .array (members.map .object)), ("name", .string name),
      ("type", .string "record")] = .ok own := hname
  rw [recordJson, read, readObject_record rfl rfl,
    run_readRecord rfl hown rfl hfields hdistinct]
  simp [attributesBut, commonKeys]

end Records

end SchemaJson

/-- What is read of a document when nothing is known yet is its schema. -/
theorem Schema.ofJson?_of_run {j : Json} {schema : Schema} {after : Known}
    (h : (SchemaJson.read none j).run Known.empty = .ok (schema, after)) :
    Schema.ofJson? j = .ok schema := by
  rw [Schema.ofJson?, h]
  rfl

/-- In the schema of a text the fields of every record have different names. -/
theorem Schema.parse?_distinct {text : String} {schema : Schema}
    (h : Schema.parse? text = .ok schema) : schema.Distinct := by
  obtain ⟨j, -, hj⟩ := Schema.parse?_eq_ok_iff.1 h
  obtain ⟨result, hresult, rfl⟩ := Checked.map_eq_ok_iff.1 hj
  exact (SchemaJson.read_ensures none j Known.empty
    (fun _ hentry => absurd hentry List.not_mem_nil) result hresult).2

end FramedAvro.Avro
