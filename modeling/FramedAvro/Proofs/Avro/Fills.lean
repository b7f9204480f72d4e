import FramedAvro.Avro.Encode
import FramedAvro.Proofs.Avro.Every

/-!
# Values of a schema

`Fills` holds of a schema and of the values that are read for it: every part has exactly the kind
that its place asks for. Resolving gives such a value except that it leaves the size of fixed values
open, which is looked at before a value is written.

## Main results

* `Value.resolve_fills`: a value that was resolved against a regular schema fills it, fixed values
  of other sizes included.
* `Fills.sized`: with the right sizes too when it may be written.
-/

namespace FramedAvro.Avro

/-- A value is one of those that are read for a schema, where fixed values need to have their size
only if `sized` says so. -/
inductive Fills (definitions : Definitions) (sized : Bool) : Schema → Value → Prop
  | null : Fills definitions sized (.primitive .null) .null
  | boolean (b : Bool) : Fills definitions sized (.primitive .boolean) (.boolean b)
  | int (i : Int32) : Fills definitions sized (.primitive .int) (.int i)
  | long (i : Int64) : Fills definitions sized (.primitive .long) (.long i)
  | float (bits : UInt32) : Fills definitions sized (.primitive .float) (.float bits)
  | double (bits : UInt64) : Fills definitions sized (.primitive .double) (.double bits)
  | bytes (content : Bytes) : Fills definitions sized (.primitive .bytes) (.bytes content)
  | string (text : String) : Fills definitions sized (.primitive .string) (.string text)
  | array {items : Schema} {attributes : Attributes} {contents : List Value}
      (each : ∀ v ∈ contents, Fills definitions sized items v) :
      Fills definitions sized (.array items attributes) (.array contents)
  | map {values : Schema} {attributes : Attributes} {entries : List (String × Value)}
      (each : ∀ entry ∈ entries, Fills definitions sized values entry.2) :
      Fills definitions sized (.map values attributes) (.map entries)
  | union {variants : List Schema} {index : Nat} {variant : Schema} {content : Value}
      (found : variants[index]? = some variant) (inner : Fills definitions sized variant content) :
      Fills definitions sized (.union variants) (.union index content)
  | record {schema : Schema} {label : Label} {fields : List Field}
      {contents : List (String × Value)}
      (opened : definitions.opened? schema = some (.record label fields))
      (names : contents.map (·.1) = fields.map Field.name)
      (each : ∀ part ∈ fields.zip contents, Fills definitions sized part.1.type part.2.2) :
      Fills definitions sized schema (.record contents)
  | enum {schema : Schema} {label : Label} {symbols : List String} {fallback : Option String}
      {index : Nat} {symbol : String}
      (opened : definitions.opened? schema = some (.enum label symbols fallback))
      (found : symbols[index]? = some symbol) : Fills definitions sized schema (.enum index symbol)
  | fixed {schema : Schema} {type : FixedSize} {own : Nat} {content : Bytes}
      (opened : definitions.opened? schema = some (.fixed type))
      (size : sized = true → own = type.size) :
      Fills definitions sized schema (.fixed own content)

namespace Value

variable {definitions : Definitions}

/-! ### Resolved values -/

/-- What a value is resolved to by a type without parts is of this type. -/
theorem resolvePrimitive_fills {v r : Value} {type : Primitive}
    (h : v.resolvePrimitive type = some r) : Fills definitions false (.primitive type) r := by
  cases type with
  | null =>
      cases v <;> first | contradiction | exact Option.some.inj h ▸ .null
  | boolean =>
      cases v <;> first | contradiction | exact Option.some.inj h ▸ .boolean _
  | int =>
      obtain ⟨i, -, rfl⟩ := Option.map_eq_some_iff.1 h
      exact .int i
  | long =>
      cases v <;> first | contradiction | exact Option.some.inj h ▸ .long _
  | float =>
      obtain ⟨bits, -, rfl⟩ := Option.map_eq_some_iff.1 h
      exact .float _
  | double =>
      obtain ⟨bits, -, rfl⟩ := Option.map_eq_some_iff.1 h
      exact .double _
  | bytes =>
      obtain ⟨content, -, rfl⟩ := Option.map_eq_some_iff.1 h
      exact .bytes content
  | string =>
      obtain ⟨text, -, rfl⟩ := Option.map_eq_some_iff.1 h
      exact .string text

/-- An enum value has the symbol of its index. -/
theorem getElem?_of_resolveEnum {symbols : List String} {fallback : Option String} {v r : Value}
    (h : v.resolveEnum symbols fallback = some r) :
    ∃ index symbol, r = enum index symbol ∧ symbols[index]? = some symbol := by
  have hat (symbol : String) (r : Value)
      (h : (symbols.findIdx? (· = symbol)).map (fun index => enum index symbol) = some r) :
      ∃ index symbol, r = enum index symbol ∧ symbols[index]? = some symbol := by
    obtain ⟨index, hindex, rfl⟩ := Option.map_eq_some_iff.1 h
    refine ⟨index, symbol, rfl, ?_⟩
    obtain ⟨hlt, hsymbol, -⟩ := List.findIdx?_eq_some_iff_getElem.1 hindex
    rw [List.getElem?_eq_getElem hlt, of_decide_eq_true hsymbol]
  have hor (symbol : String)
      (h : ((symbols.findIdx? (· = symbol)).map fun index => enum index symbol).or
        (fallback.bind fun symbol =>
          (symbols.findIdx? (· = symbol)).map fun index => enum index symbol) = some r) :
      ∃ index symbol, r = enum index symbol ∧ symbols[index]? = some symbol := by
    rcases Option.or_eq_some_iff.1 h with hown | ⟨-, hfallback⟩
    · exact hat symbol r hown
    · obtain ⟨other, -, hother⟩ := Option.bind_eq_some_iff.1 hfallback
      exact hat other r hother
  cases v with
  | enum _ symbol => exact hor symbol h
  | string text => exact hor text h
  | _ => contradiction

/-- What is resolved to fixed bytes is fixed bytes, whatever their number. -/
theorem exists_of_resolveFixed {size : Nat} {v r : Value} (h : v.resolveFixed size = some r) :
    ∃ own content, r = fixed own content := by
  rw [resolveFixed.eq_def] at h
  split at h
  · split at h
    · exact ⟨_, _, (Option.some.inj h).symm⟩
    · contradiction
  · split at h
    · exact ⟨_, _, (Option.some.inj h).symm⟩
    · contradiction
  · exact ⟨_, _, (Option.some.inj h).symm⟩
  · contradiction

/-- What is resolved against a regular record has the fields of the record, each with a value of its
type. -/
theorem fills_record {schema : Schema} {label : Label} {fields : List Field}
    {contents : List (String × Value)}
    (opened : definitions.opened? schema = some (.record label fields))
    (h : contents.map (·.1) = fields.map Field.name ∧
      ∀ part ∈ fields.zip contents, Fills definitions false part.1.type part.2.2) :
    Fills definitions false schema (record contents) :=
  .record opened h.1 h.2

/-- A field has the value that is resolved for it, or one for which less is left to default. -/
theorem resolve_of_resolveField {budget : Nat} {enclosing : Option String}
    {contents : List (String × Value)} {label : FieldLabel} {type : Schema} {r : Value}
    (h : resolveField definitions budget enclosing contents label type = .ok r) :
    (∃ v, lastOf label.name contents = some v ∧
      resolve definitions budget enclosing v type = .ok r) ∨
    ∃ left v, budget = left + 1 ∧ resolve definitions left enclosing v type = .ok r := by
  rw [resolveField.eq_def] at h
  split at h
  · next v hv => exact .inl ⟨v, hv, h⟩
  · split at h
    · contradiction
    · split at h
      · contradiction
      · next left =>
          split at h
          · contradiction
          · exact .inr ⟨left, _, rfl, h⟩
          · split at h
            · split at h
              · exact .inr ⟨left, _, rfl, h⟩
              · contradiction
            · contradiction
          · split at h
            · exact .inr ⟨left, _, rfl, h⟩
            · contradiction

mutual

/-- A value that was resolved against a regular schema fills it, by the measure that resolving ends
by. -/
theorem resolve_fills (hdefinitions : definitions.AreRegular) (budget : Nat)
    (enclosing : Option String) (v : Value) :
    (schema : Schema) → {r : Value} → schema.Every Schema.Regular enclosing →
      resolve definitions budget enclosing v schema = .ok r → Fills definitions false schema r
  | .primitive type, r, _, h => by
      rw [resolve] at h
      exact resolvePrimitive_fills (Checked.ofOption_eq_ok_iff.1 h)
  | .intTime _, _, hschema, _ => hschema.self.plain.elim
  | .longTime _, _, hschema, _ => hschema.self.plain.elim
  | .decimal _ _ _, _, hschema, _ => hschema.self.plain.elim
  | .bigDecimal, _, hschema, _ => hschema.self.plain.elim
  | .uuid, _, hschema, _ => hschema.self.plain.elim
  | .duration, _, hschema, _ => hschema.self.plain.elim
  | .array items attributes, r, hschema, h => by
      rw [resolve.eq_def] at h
      dsimp only at h
      split at h
      · next contents hcontents =>
          obtain ⟨rs, hrs, rfl⟩ := Checked.map_eq_ok_iff.1 h
          exact .array
            (resolveItems_fill hdefinitions budget enclosing items hschema.2 contents hrs)
      · contradiction
  | .map values attributes, r, hschema, h => by
      rw [resolve.eq_def] at h
      dsimp only at h
      split at h
      · next entries hentries =>
          obtain ⟨rs, hrs, rfl⟩ := Checked.map_eq_ok_iff.1 h
          exact .map
            (resolveEntries_fill hdefinitions budget enclosing values hschema.2 entries hrs)
      · contradiction
  | .union variants, r, hschema, h => by
      rw [resolve.eq_def] at h
      dsimp only at h
      split at h
      · next index _ =>
          split at h
          · next variant hvariant =>
              obtain ⟨content, hcontent, rfl⟩ := Checked.map_eq_ok_iff.1 h
              have hregular := everyVariant_iff.1 hschema.2 variant (List.mem_of_getElem? hvariant)
              exact .union hvariant
                (resolve_fills hdefinitions budget enclosing v.unwrapped variant hregular hcontent)
          · contradiction
      · contradiction
  | .named definition, r, hschema, h => by
      rw [resolve] at h
      obtain ⟨hregular, -⟩ := hdefinitions.opened? hschema rfl
      exact resolveDefinition_fills hdefinitions budget enclosing v.unwrapped definition rfl
        hregular h
  | .reference name, r, hschema, h => by
      have hsettled : name.within enclosing = name := hschema.settled
      rw [resolve, hsettled] at h
      split at h
      · next definition hget =>
          obtain ⟨hregular, -⟩ := hdefinitions.get? hget
          exact resolveDefinition_fills hdefinitions budget name.space v.unwrapped.unwrapped
            definition hget hregular h
      · contradiction
termination_by schema => (budget, sizeOf v, 2 * sizeOf schema)
decreasing_by
  all_goals have hv := sizeOf_unwrapped_le v
  · rw [‹v.unwrapped = _›] at hv
    simp only [Value.array.sizeOf_spec] at hv
    exact Prod.Lex.right _ (Prod.Lex.left _ _ (by omega))
  · rw [‹v.unwrapped = _›] at hv
    simp only [Value.map.sizeOf_spec] at hv
    exact Prod.Lex.right _ (Prod.Lex.left _ _ (by omega))
  · refine Prod.Lex.right _ (lex_of_le hv ?_)
    have := List.sizeOf_lt_of_mem (List.mem_of_getElem? ‹variants[_]? = some _›)
    simp only [Schema.union.sizeOf_spec]
    omega
  · exact Prod.Lex.right _ (lex_of_le hv (by simp only [Schema.named.sizeOf_spec]; omega))
  · exact Prod.Lex.right _ (lex_of_le (Nat.le_trans (sizeOf_unwrapped_le v.unwrapped) hv)
      (by simp only [Schema.reference.sizeOf_spec]; omega))

/-- The items of an array are resolved one by one to what the type of the items admits. -/
theorem resolveItems_fill (hdefinitions : definitions.AreRegular) (budget : Nat)
    (enclosing : Option String) (items : Schema) (hitems : items.Every Schema.Regular enclosing) :
    (contents : List Value) → {rs : List Value} →
      resolveItems definitions budget enclosing contents items = .ok rs →
      ∀ r ∈ rs, Fills definitions false items r
  | [], rs, h => by
      rw [resolveItems] at h
      obtain rfl := Except.ok.inj h
      exact fun _ hmem => absurd hmem List.not_mem_nil
  | v :: rest, rs, h => by
      rw [resolveItems] at h
      split at h
      · next r hr =>
          obtain ⟨more, hmore, rfl⟩ := Checked.map_eq_ok_iff.1 h
          exact List.forall_mem_cons.2
            ⟨resolve_fills hdefinitions budget enclosing v items hitems hr,
              resolveItems_fill hdefinitions budget enclosing items hitems rest hmore⟩
      · contradiction
termination_by contents => (budget, sizeOf contents, 0)

/-- The entries of a map are resolved one by one to what the type of the values admits. -/
theorem resolveEntries_fill (hdefinitions : definitions.AreRegular) (budget : Nat)
    (enclosing : Option String) (values : Schema)
    (hvalues : values.Every Schema.Regular enclosing) :
    (entries : List (String × Value)) → {rs : List (String × Value)} →
      resolveEntries definitions budget enclosing entries values = .ok rs →
      ∀ r ∈ rs, Fills definitions false values r.2
  | [], rs, h => by
      rw [resolveEntries] at h
      obtain rfl := Except.ok.inj h
      exact fun _ hmem => absurd hmem List.not_mem_nil
  | (key, v) :: rest, rs, h => by
      rw [resolveEntries] at h
      split at h
      · next r hr =>
          obtain ⟨more, hmore, rfl⟩ := Checked.map_eq_ok_iff.1 h
          exact List.forall_mem_cons.2
            ⟨resolve_fills hdefinitions budget enclosing v values hvalues hr,
              resolveEntries_fill hdefinitions budget enclosing values hvalues rest hmore⟩
      · contradiction
termination_by entries => (budget, sizeOf entries, 0)

/-- What a value is resolved to by a definition fills every schema that opens to the definition. -/
theorem resolveDefinition_fills (hdefinitions : definitions.AreRegular) (budget : Nat)
    (enclosing : Option String) (v : Value) {schema : Schema} :
    (definition : Definition) → {r : Value} →
      definitions.opened? schema = some definition →
      definition.RegularIn enclosing →
      resolveDefinition definitions budget enclosing v definition = .ok r →
      Fills definitions false schema r
  | .record label fields, r, opened, hregular, h => by
      rw [resolveDefinition.eq_def] at h
      dsimp only at h
      split at h
      · next contents hcontents =>
          obtain ⟨rs, hrs, rfl⟩ := Checked.map_eq_ok_iff.1 h
          obtain ⟨-, -, hfields⟩ := hregular
          exact fills_record opened
            (resolveFields_fill hdefinitions budget enclosing contents fields hfields hrs)
      · contradiction
  | .enum label symbols fallback, r, opened, _, h => by
      rw [resolveDefinition] at h
      obtain ⟨index, symbol, rfl, hsymbol⟩ :=
        getElem?_of_resolveEnum (Checked.ofOption_eq_ok_iff.1 h)
      exact .enum opened hsymbol
  | .fixed type, r, opened, _, h => by
      rw [resolveDefinition] at h
      obtain ⟨own, content, rfl⟩ := exists_of_resolveFixed (Checked.ofOption_eq_ok_iff.1 h)
      exact .fixed opened fun hsized => absurd hsized Bool.false_ne_true
termination_by (budget, sizeOf v, 0)
decreasing_by
  exact Prod.Lex.right _ (Prod.Lex.left _ _ (sizeOf_fields?_lt ‹_›))

/-- What is resolved for the fields of a record has their names in their order, and each value fills
the type of its field. -/
theorem resolveFields_fill (hdefinitions : definitions.AreRegular) (budget : Nat)
    (enclosing : Option String) (contents : List (String × Value)) :
    (fields : List Field) → {rs : List (String × Value)} →
      EveryField Schema.Regular enclosing fields →
      resolveFields definitions budget enclosing contents fields = .ok rs →
      rs.map (·.1) = fields.map Field.name ∧
        ∀ part ∈ fields.zip rs, Fills definitions false part.1.type part.2.2
  | [], rs, _, h => by
      rw [resolveFields] at h
      obtain rfl := Except.ok.inj h
      exact ⟨rfl, fun _ hmem => absurd hmem List.not_mem_nil⟩
  | .mk label type :: rest, rs, hfields, h => by
      rw [resolveFields] at h
      split at h
      · next r hr =>
          obtain ⟨more, hmore, rfl⟩ := Checked.map_eq_ok_iff.1 h
          obtain ⟨hnames, heach⟩ :=
            resolveFields_fill hdefinitions budget enclosing contents rest hfields.2 hmore
          have htype : Fills definitions false type r := by
            rcases resolve_of_resolveField hr with ⟨v, hv, hown⟩ | ⟨left, v, hleft, hdefault⟩
            · exact resolve_fills hdefinitions budget enclosing v type hfields.1 hown
            · exact resolve_fills hdefinitions left enclosing v type hfields.1 hdefault
          refine ⟨?_, ?_⟩
          · rw [List.map_cons, List.map_cons, hnames]
            rfl
          · rw [List.zip_cons_cons]
            exact List.forall_mem_cons.2 ⟨htype, heach⟩
      · contradiction
termination_by fields => (budget, sizeOf contents, sizeOf fields)
decreasing_by
  · refine Prod.Lex.right _ (Prod.Lex.right _ ?_)
    simp only [List.cons.sizeOf_spec]
    omega
  · exact Prod.Lex.right _ (Prod.Lex.left _ _ (sizeOf_lastOf_lt ‹_›))
  · rw [‹budget = _›]
    exact Prod.Lex.left _ _ (Nat.lt_succ_self _)

end

/-! ### Values that may be written -/

/-- A name that no field has, also not as an alias, has no type. -/
theorem typeOfField_eq_none {name : String} {fields : List Field}
    (h : ∀ field ∈ fields, field.name ≠ name ∧ name ∉ field.label.aliases) :
    typeOfField name fields = none := by
  induction fields with
  | nil => rfl
  | cons field rest ih =>
      obtain ⟨label, type⟩ := field
      obtain ⟨hown, hrest⟩ := List.forall_mem_cons.1 h
      have hother : ¬(label.name = name ∨ name ∈ label.aliases) :=
        fun hfound => hfound.elim hown.1 hown.2
      rw [typeOfField, ih hrest, if_neg hother]
      rfl

/-- A field is found under its name when no other has the name and none after it has it as an
alias. -/
theorem typeOfField_name {fields : List Field} (hdistinct : (fields.map Field.name).Nodup)
    (haliased : fields.Pairwise fun field later => field.name ∉ later.label.aliases) :
    ∀ field ∈ fields, typeOfField field.name fields = some field.type := by
  induction fields with
  | nil => exact fun _ hmem => absurd hmem List.not_mem_nil
  | cons first rest ih =>
      rw [List.map_cons, List.nodup_cons] at hdistinct
      rw [List.pairwise_cons] at haliased
      refine List.forall_mem_cons.2 ⟨?_, fun field hfield => ?_⟩
      · have hnone : typeOfField first.name rest = none :=
          typeOfField_eq_none fun field hfield =>
            ⟨fun hsame => hdistinct.1 (hsame ▸ List.mem_map_of_mem hfield), haliased.1 field hfield⟩
        obtain ⟨label, type⟩ := first
        rw [typeOfField, hnone]
        exact if_pos (Or.inl rfl)
      · obtain ⟨label, type⟩ := first
        rw [typeOfField, ih hdistinct.2 haliased.2 field hfield]
        rfl

/-- Two parts fit together when each of them does. -/
theorem both_fit {first others : Option Bool}
    (h : (do return (← first) && (← others) : Option Bool) = some true) :
    first = some true ∧ others = some true := by
  cases first <;> cases others <;> simp_all

/-- When the entries of a record fit, each of them has a field and fits the type of it. -/
theorem fits_of_fieldsFit {enclosing : Option String} {contents : List (String × Value)}
    {fields : List Field} (h : fieldsFit? definitions enclosing contents fields = some true) :
    ∀ entry ∈ contents, ∃ type, typeOfField entry.1 fields = some type ∧
      fits? definitions enclosing entry.2 type = some true := by
  induction contents with
  | nil => exact fun _ hmem => absurd hmem List.not_mem_nil
  | cons entry rest ih =>
      rw [fieldsFit?] at h
      split at h
      · next type htype =>
          obtain ⟨hfirst, hrest⟩ := both_fit h
          exact List.forall_mem_cons.2 ⟨⟨type, htype, hfirst⟩, ih hrest⟩
      · cases hrest : fieldsFit? definitions enclosing rest fields <;> simp [hrest] at h

/-- When the items of an array fit, each of them does. -/
theorem fits_of_allFit {enclosing : Option String} {contents : List Value} {items : Schema}
    (h : allFit? definitions enclosing contents items = some true) :
    ∀ v ∈ contents, fits? definitions enclosing v items = some true := by
  induction contents with
  | nil => exact fun _ hmem => absurd hmem List.not_mem_nil
  | cons v rest ih =>
      rw [allFit?] at h
      obtain ⟨hfirst, hrest⟩ := both_fit h
      exact List.forall_mem_cons.2 ⟨hfirst, ih hrest⟩

/-- When the entries of a map fit, the value of each does. -/
theorem fits_of_entriesFit {enclosing : Option String} {entries : List (String × Value)}
    {values : Schema} (h : entriesFit? definitions enclosing entries values = some true) :
    ∀ entry ∈ entries, fits? definitions enclosing entry.2 values = some true := by
  induction entries with
  | nil => exact fun _ hmem => absurd hmem List.not_mem_nil
  | cons entry rest ih =>
      rw [entriesFit?] at h
      obtain ⟨hfirst, hrest⟩ := both_fit h
      exact List.forall_mem_cons.2 ⟨hfirst, ih hrest⟩

/-- Whether a value fits a regular schema with a definition is settled by the definition, in a place
where its fields are regular. -/
theorem fits_opened (hdefinitions : definitions.AreRegular) {enclosing : Option String}
    {schema : Schema} (hschema : schema.Every Schema.Regular enclosing) {definition : Definition}
    (opened : definitions.opened? schema = some definition) (v : Value) :
    ∃ own, definition.RegularIn (definition.name.within own).space ∧
      fits? definitions enclosing v schema = fitsDefinition? definitions own v definition := by
  obtain ⟨-, hregular⟩ := hdefinitions.opened? hschema opened
  cases schema with
  | named own =>
      obtain rfl := Option.some.inj opened
      exact ⟨enclosing, hregular, by rw [fits?]⟩
  | reference name =>
      have hsettled : name.within enclosing = name := hschema.settled
      have hget : definitions.get? name = some definition := opened
      refine ⟨name.space, hdefinitions.get?_within hget, ?_⟩
      rw [fits?, hsettled]
      simp only [hget]
  | _ => contradiction

end Value

/-- The entries of a record are those of its fields, in order. -/
theorem name_of_mem_zip {fields : List Field} {contents : List (String × Value)}
    (h : contents.map (·.1) = fields.map Field.name) :
    ∀ part ∈ fields.zip contents, part.2.1 = part.1.name := by
  induction fields generalizing contents with
  | nil => exact fun _ hmem => absurd hmem (by simp)
  | cons field rest ih =>
      cases contents with
      | nil => exact fun _ hmem => absurd hmem (by simp)
      | cons entry more =>
          obtain ⟨hname, hrest⟩ := List.cons.inj h
          rw [List.zip_cons_cons]
          exact List.forall_mem_cons.2 ⟨hname, ih hrest⟩

namespace Fills

variable {definitions : Definitions}

/-- What fills a regular schema has fixed values of the right size when it may be written. -/
theorem sized (hdefinitions : definitions.AreRegular) {schema : Schema} {v : Value}
    (h : Fills definitions false schema v) {enclosing : Option String}
    (hschema : schema.Every Schema.Regular enclosing)
    (hfits : v.fits? definitions enclosing schema = some true) :
    Fills definitions true schema v := by
  induction h generalizing enclosing with
  | null => exact .null
  | boolean b => exact .boolean b
  | int i => exact .int i
  | long i => exact .long i
  | float bits => exact .float bits
  | double bits => exact .double bits
  | bytes content => exact .bytes content
  | string text => exact .string text
  | array each ih =>
      rw [Value.fits?] at hfits
      exact .array fun v hv => ih v hv hschema.2 (Value.fits_of_allFit hfits v hv)
  | map each ih =>
      rw [Value.fits?] at hfits
      exact .map fun entry hentry =>
        ih entry hentry hschema.2 (Value.fits_of_entriesFit hfits entry hentry)
  | union found inner ih =>
      rw [Value.fits?] at hfits
      simp only [found] at hfits
      exact .union found
        (ih (everyVariant_iff.1 hschema.2 _ (List.mem_of_getElem? found)) hfits)
  | @record schema label fields contents opened names each ih =>
      obtain ⟨own, ⟨hdistinct, haliased, hinner⟩, heq⟩ :=
        Value.fits_opened hdefinitions hschema opened (.record contents)
      rw [heq, Value.fitsDefinition?] at hfits
      have hfits : Value.fieldsFit? definitions (label.name.within own).space contents fields =
          some true := by
        split at hfits
        · exact hfits
        · contradiction
      refine .record opened names fun part hpart => ?_
      obtain ⟨hfield, hentry⟩ := List.of_mem_zip hpart
      obtain ⟨type, htype, hpartfits⟩ := Value.fits_of_fieldsFit hfits part.2 hentry
      rw [name_of_mem_zip names part hpart, Value.typeOfField_name hdistinct haliased part.1
        hfield] at htype
      obtain rfl := Option.some.inj htype
      exact ih part hpart (everyField_iff.1 hinner part.1 hfield) hpartfits
  | enum opened found => exact .enum opened found
  | @fixed schema type own content opened size =>
      obtain ⟨other, -, heq⟩ := Value.fits_opened hdefinitions hschema opened (.fixed own content)
      rw [heq, Value.fitsDefinition?] at hfits
      exact .fixed opened fun _ => of_decide_eq_true (Option.some.inj hfits)

end Fills

end FramedAvro.Avro
