import FramedAvro.Avro.Checked
import FramedAvro.Avro.Value
import FramedAvro.Avro.Uuid
import FramedAvro.Text.Utf8

/-!
# Resolving values

Resolving a value against a schema gives the value of that schema which stands for it: numbers are
widened, texts and bytes change into each other, fields that are missing get their defaults and
fields that are not asked for are dropped. A value that has no counterpart does not resolve.

A union value stands for its content wherever no union is asked for. Where one is, the variant of
exactly the kind of the value is taken, and if there is none the first that the value resolves to.

A name is looked up as it reads where it stands: a name without a namespace takes that of the last
reference that was followed, or else that of the schema itself.

A default may itself need defaults. Each default that is taken comes out of a budget, since a
default which needs itself would be looked up forever; a budget of all the fields there are is
enough for every other.

Resolving may also break: on a fixed value with fewer bytes than its size says, where a duration is
asked for, on a union in which a name stands for nothing, and on a default that has no value. A
search through the variants of a union does not get over that, as it does over a variant that
refuses.

## Main definitions

* `Value.resolve`: resolving against a schema whose names are known.
* `Schema.resolve?`: resolving against a schema by itself.
-/

namespace FramedAvro.Avro

namespace Value

/-! ### Types without parts -/

/-- The low 32 bits of a long. -/
def toInt? : Value → Option Int32
  | int i => some i
  | long i => some i.toInt32
  | _ => none

/-- The byte an integer stands for. -/
def toOctet? (v : Value) : Option UInt8 := do
  let i ← v.unwrapped.toInt?
  if 0 ≤ i.toInt ∧ i.toInt < 256 then return UInt8.ofNat i.toInt.toNat else none

/-- The numbers that are spelled as words, in 32 bits. -/
def specialFloat? (text : String) : Option Nat :=
  let format := BinaryFloat.single
  if text = "NaN" then some format.notANumber
  else if text = "INF" ∨ text = "Infinity" then some format.infinity
  else if text = "-INF" ∨ text = "-Infinity" then some (format.signed true format.infinity)
  else none

/-- The bits of a number in a format. -/
def toBits? (target : BinaryFloat.Format) : Value → Option Nat
  | int i => some (target.ofInt i.toInt)
  | long i => some (target.ofInt i.toInt)
  | float bits =>
    some (BinaryFloat.single.convert target bits.toNat)
  | double bits =>
    some (BinaryFloat.double.convert target bits.toNat)
  | string text =>
    (specialFloat? text).map fun bits =>
      BinaryFloat.single.convert target bits
  | _ => none

/-- The bytes of a value: its own, those of a text, or those that a list of integers spells. -/
def toBytes? : Value → Option Bytes
  | bytes content => some content
  | string text => some (Utf8.encode text)
  | array items => items.mapM toOctet?
  | _ => none

/-- The text of a value. -/
def toText? : Value → Option String
  | string text => some text
  | bytes content => Utf8.decode? content
  | fixed _ content => Utf8.decode? content
  | _ => none

/-- The value of a type without parts. -/
def resolvePrimitive (v : Value) : Primitive → Option Value
  | .null =>
    match v with
    | null => some null
    | _ => none
  | .boolean =>
    match v with
    | boolean b => some (boolean b)
    | _ => none
  | .int => v.toInt?.map int
  | .long =>
    match v with
    | int i => some (long i.toInt64)
    | long i => some (long i)
    | _ => none
  | .float => (v.toBits? BinaryFloat.single).map fun bits => float (UInt32.ofNat bits)
  | .double => (v.toBits? BinaryFloat.double).map fun bits => double (UInt64.ofNat bits)
  | .bytes => v.toBytes?.map bytes
  | .string => v.toText?.map string

/-- The value of a time in 32 bits. -/
def resolveIntTime (time : IntTime) : Value → Option Value
  | intTime own i => if own = time then some (intTime time i) else none
  | int i => some (intTime time i)
  | _ => none

/-- The value of a time in 64 bits. -/
def resolveLongTime (time : LongTime) : Value → Option Value
  | longTime own i => if own = time then some (longTime time i) else none
  | long i => some (longTime time i)
  | int i => some (longTime time i.toInt64)
  | _ => none

/-- How many decimal digits every number of that many digits has room for in so many bits. -/
def decimalRoom (bits : Nat) : Nat :=
  (Nat.toDigits 10 ((1 <<< bits) - 1)).length - 1

/-- From this many bits on there is room for any number of digits. -/
def boundlessBits : Nat := 1024

/-- The bits of a two's complement number of `length` bytes besides its sign, as a count that is
kept in 32 bits. -/
def bitsWithoutSign (length : Nat) : Int :=
  (Int32.ofInt (8 * (length : Int) - 1)).toInt

/-- Whether numbers of `precision` digits have room in `length` bytes, a count that has to fit 32
bits itself. -/
def hasRoom (precision length : Nat) : Bool :=
  let bits := bitsWithoutSign length
  decide ((length : Int) ≤ Int32.maxValue.toInt) &&
    (decide ((boundlessBits : Int) ≤ bits) || decide (precision ≤ decimalRoom bits.toNat))

/-- The value of a decimal. -/
def resolveDecimal (precision scale : Nat) (carrier : DecimalCarrier) (v : Value) : Option Value :=
  let carries :=
    match carrier with
    | .bytes => true
    | .fixed type => hasRoom precision type.size
  let content? :=
    match v with
    | decimal content => some content
    | fixed _ content => some content
    | bytes content => some content
    | _ => none
  match content? with
  | some content =>
    if scale ≤ precision ∧ carries ∧ hasRoom precision content.length then some (decimal content)
    else none
  | none => none

/-- The value of a UUID. -/
def resolveUuid : Value → Option Value
  | uuid content => some (uuid content)
  | string text => (Uuid.parse? text).map uuid
  | _ => none

/-- The value of a duration. Of a fixed value only the size is looked at before its bytes are
taken. -/
def resolveDuration : Value → Checked Value
  | duration months days millis => .ok (duration months days millis)
  | fixed size content =>
    let word (start : Nat) : UInt32 :=
      UInt32.ofNat (Bytes.toNatLittle ((content.drop start).take 4))
    if size ≠ 12 then .error .refused
    else if content.length < 12 then .error .crash
    else .ok (duration (word 0) (word 4) (word 8))
  | _ => .error .refused

/-! ### Definitions without fields -/

/-- The value of an enum: the symbol of the value, or the default where the enum lacks it. -/
def resolveEnum (symbols : List String) (fallback : Option String) (v : Value) : Option Value :=
  let symbol? :=
    match v with
    | enum _ symbol => some symbol
    | string text => some text
    | _ => none
  let at? (symbol : String) : Option Value :=
    (symbols.findIdx? (· = symbol)).map fun index => enum index symbol
  match symbol? with
  | some symbol => (at? symbol).or (fallback.bind at?)
  | none => none

/-- The value of a fixed type. Of a fixed value the size is looked at, of bytes their number, and of
a text neither. -/
def resolveFixed (size : Nat) : Value → Option Value
  | fixed own content => if own = size then some (fixed own content) else none
  | bytes content => if content.length = size then some (fixed size content) else none
  | string text =>
    let content := Utf8.encode text
    some (fixed content.length content)
  | _ => none

/-- The value of a field, of repeated ones the last. -/
def lastOf (name : String) : List (String × Value) → Option Value
  | [] => none
  | (key, v) :: rest => (lastOf name rest).or (if key = name then some v else none)

/-- The fields of a record, or the entries of a map as fields. -/
def fields? : Value → Option (List (String × Value))
  | record fields => some fields
  | map entries => some entries
  | _ => none

/-! ### All schemas -/

/-- The content of a union is no larger than the union. -/
theorem sizeOf_unwrapped_le (v : Value) : sizeOf v.unwrapped ≤ sizeOf v := by
  cases v <;> simp [unwrapped]

/-- The fields of a record are smaller than the record. -/
theorem sizeOf_fields?_lt {v : Value} {fields : List (String × Value)}
    (h : v.fields? = some fields) : sizeOf fields < sizeOf v := by
  cases v <;> simp [fields?] at h <;> subst h <;> simp

/-- A value that is found among fields is smaller than they are. -/
theorem sizeOf_lastOf_lt {name : String} {fields : List (String × Value)} {v : Value}
    (h : lastOf name fields = some v) : sizeOf v < sizeOf fields := by
  induction fields with
  | nil => simp [lastOf] at h
  | cons head rest ih =>
    obtain ⟨key, w⟩ := head
    rw [lastOf, Option.or_eq_some_iff] at h
    rcases h with h | ⟨_, h⟩
    · have := ih h
      simp only [List.cons.sizeOf_spec]
      omega
    · split at h
      · cases h
        simp only [List.cons.sizeOf_spec, Prod.mk.sizeOf_spec]
        omega
      · contradiction

/-- What is not greater in the first place and smaller in the second is smaller. -/
theorem lex_of_le {a b c d : Nat} (h : a ≤ b) (h' : c < d) :
    Prod.Lex (· < ·) (· < ·) (a, c) (b, d) := by
  rcases Nat.lt_or_eq_of_le h with h | rfl
  · exact Prod.Lex.left _ _ h
  · exact Prod.Lex.right _ h'

mutual

/-- The value of a schema that a value stands for, where a namespace surrounds the schema. -/
def resolve (definitions : Definitions) (budget : Nat) (enclosing : Option String) (v : Value)
    (schema : Schema) : Checked Value :=
  match schema with
  | .primitive type => .ofOption (v.unwrapped.resolvePrimitive type)
  | .intTime time => .ofOption (v.unwrapped.resolveIntTime time)
  | .longTime time => .ofOption (v.unwrapped.resolveLongTime time)
  | .decimal precision scale carrier =>
    .ofOption (v.unwrapped.resolveDecimal precision scale carrier)
  | .bigDecimal => .error .refused
  | .uuid => .ofOption v.unwrapped.resolveUuid
  | .duration => v.unwrapped.resolveDuration
  | .array items _ =>
    match _h : v.unwrapped with
    | .array contents => (resolveItems definitions budget enclosing contents items).map array
    | _ => .error .refused
  | .map values _ =>
    match _h : v.unwrapped with
    | .map entries => (resolveEntries definitions budget enclosing entries values).map map
    | _ => .error .refused
  | .union variants =>
    match variantOf definitions budget enclosing v.unwrapped variants with
    | .ok index =>
      match _h : variants[index]? with
      | some variant =>
        (resolve definitions budget enclosing v.unwrapped variant).map (union index)
      | none => .error .refused
    | .error obstacle => .error obstacle
  | .named definition => resolveDefinition definitions budget enclosing v.unwrapped definition
  | .reference name =>
    let name := name.within enclosing
    match definitions.get? name with
    | some definition =>
      resolveDefinition definitions budget name.space v.unwrapped.unwrapped definition
    | none => .error .refused
termination_by (budget, sizeOf v, 2 * sizeOf schema)
decreasing_by
  all_goals have hv := sizeOf_unwrapped_le v
  · rw [_h] at hv
    simp only [Value.array.sizeOf_spec] at hv
    exact Prod.Lex.right _ (Prod.Lex.left _ _ (by omega))
  · rw [_h] at hv
    simp only [Value.map.sizeOf_spec] at hv
    exact Prod.Lex.right _ (Prod.Lex.left _ _ (by omega))
  · refine Prod.Lex.right _ (lex_of_le hv ?_)
    simp only [Schema.union.sizeOf_spec]
    omega
  · refine Prod.Lex.right _ (lex_of_le hv ?_)
    have := List.sizeOf_lt_of_mem (List.mem_of_getElem? _h)
    simp only [Schema.union.sizeOf_spec]
    omega
  · exact Prod.Lex.right _ (lex_of_le hv (by simp only [Schema.named.sizeOf_spec]; omega))
  · exact Prod.Lex.right _ (lex_of_le (Nat.le_trans (sizeOf_unwrapped_le v.unwrapped) hv)
      (by simp only [Schema.reference.sizeOf_spec]; omega))

/-- The index of the variant that a value belongs to: of the one of its own kind, and if there is
none, of the first that the value resolves to. -/
def variantOf (definitions : Definitions) (budget : Nat) (enclosing : Option String) (v : Value)
    (variants : List Schema) : Checked Nat :=
  match v.kind?.bind fun kind => variants.findIdx? (·.kind? = some kind) with
  | some index => .ok index
  | none => resolvedVariant definitions budget enclosing v 0 variants
termination_by (budget, sizeOf v, 2 * sizeOf variants + 1)
decreasing_by
  exact Prod.Lex.right _ (Prod.Lex.right _ (Nat.lt_succ_self _))

/-- The index of the first variant that a value resolves to, when the first of them has the given
index. A variant is surrounded by the namespace of its own name if it has one, and the definitions
in it count for those after it as well. -/
def resolvedVariant (definitions : Definitions) (budget : Nat) (enclosing : Option String)
    (v : Value) (index : Nat) (variants : List Schema) : Checked Nat :=
  match variants with
  | [] => .error .refused
  | variant :: rest =>
    match definitions.extend? enclosing variant with
    | none => .error .crash
    | some definitions =>
      match resolve definitions budget (variant.space?.or enclosing) v variant with
      | .ok _ => .ok index
      | .error .crash => .error .crash
      | .error .refused => resolvedVariant definitions budget enclosing v (index + 1) rest
termination_by (budget, sizeOf v, 2 * sizeOf variants)
decreasing_by
  all_goals exact Prod.Lex.right _ (Prod.Lex.right _ (by simp only [List.cons.sizeOf_spec]; omega))

/-- The values of the items of an array. -/
def resolveItems (definitions : Definitions) (budget : Nat) (enclosing : Option String)
    (contents : List Value) (items : Schema) : Checked (List Value) :=
  match contents with
  | [] => .ok []
  | v :: rest =>
    match resolve definitions budget enclosing v items with
    | .ok r => (resolveItems definitions budget enclosing rest items).map (r :: ·)
    | .error obstacle => .error obstacle
termination_by (budget, sizeOf contents, 0)

/-- The values of the entries of a map. -/
def resolveEntries (definitions : Definitions) (budget : Nat) (enclosing : Option String)
    (entries : List (String × Value)) (values : Schema) : Checked (List (String × Value)) :=
  match entries with
  | [] => .ok []
  | (key, v) :: rest =>
    match resolve definitions budget enclosing v values with
    | .ok r => (resolveEntries definitions budget enclosing rest values).map ((key, r) :: ·)
    | .error obstacle => .error obstacle
termination_by (budget, sizeOf entries, 0)

/-- The value of a definition. The namespace that surrounds a record surrounds its fields. -/
def resolveDefinition (definitions : Definitions) (budget : Nat) (enclosing : Option String)
    (v : Value) (definition : Definition) : Checked Value :=
  match definition with
  | .record _ fields =>
    match _h : v.fields? with
    | some contents => (resolveFields definitions budget enclosing contents fields).map record
    | none => .error .refused
  | .enum _ symbols fallback => .ofOption (v.resolveEnum symbols fallback)
  | .fixed type => .ofOption (v.resolveFixed type.size)
termination_by (budget, sizeOf v, 0)
decreasing_by
  exact Prod.Lex.right _ (Prod.Lex.left _ _ (sizeOf_fields?_lt _h))

/-- The fields of a record, in its order. -/
def resolveFields (definitions : Definitions) (budget : Nat) (enclosing : Option String)
    (contents : List (String × Value)) (fields : List Field) : Checked (List (String × Value)) :=
  match fields with
  | [] => .ok []
  | .mk label type :: rest =>
    match resolveField definitions budget enclosing contents label type with
    | .ok r =>
      (resolveFields definitions budget enclosing contents rest).map ((label.name, r) :: ·)
    | .error obstacle => .error obstacle
termination_by (budget, sizeOf contents, sizeOf fields)
decreasing_by
  all_goals
    refine Prod.Lex.right _ (Prod.Lex.right _ ?_)
    simp only [List.cons.sizeOf_spec, Field.mk.sizeOf_spec]
    omega

/-- One field of a record. When it is missing it takes its default, which for a union is a value of
the first variant. -/
def resolveField (definitions : Definitions) (budget : Nat) (enclosing : Option String)
    (contents : List (String × Value)) (label : FieldLabel) (type : Schema) : Checked Value :=
  match _h : lastOf label.name contents with
  | some v => resolve definitions budget enclosing v type
  | none =>
    match label.fallback with
    | none => .error .refused
    | some fallback =>
      match budget with
      | 0 => .error .crash
      | budget + 1 =>
        match type with
        | .union [] => .error .crash
        | .union (.primitive .null :: _) =>
          resolve definitions budget enclosing (union 0 null) type
        | .union (first :: _) =>
          match ofJson? fallback with
          | some v =>
            match resolve definitions budget enclosing v first with
            | .ok r => resolve definitions budget enclosing (union 0 r) type
            | .error obstacle => .error obstacle
          | none => .error .crash
        | _ =>
          match ofJson? fallback with
          | some v => resolve definitions budget enclosing v type
          | none => .error .crash
termination_by (budget, sizeOf contents, sizeOf type)
decreasing_by
  · exact Prod.Lex.right _ (Prod.Lex.left _ _ (sizeOf_lastOf_lt _h))
  all_goals exact Prod.Lex.left _ _ (Nat.lt_succ_self _)

end

end Value

/-! ### Schemas by themselves -/

mutual

/-- How many fields the records in a schema have. -/
def Schema.fieldCount : Schema → Nat
  | .array items _ => items.fieldCount
  | .map values _ => values.fieldCount
  | .union variants => fieldCountOfVariants variants
  | .named definition => definition.fieldCount
  | _ => 0

/-- How many fields there are in a definition. -/
def Definition.fieldCount : Definition → Nat
  | .record _ fields => fieldCountOfFields fields
  | _ => 0

/-- How many fields there are in variants. -/
def fieldCountOfVariants : List Schema → Nat
  | [] => 0
  | variant :: rest => variant.fieldCount + fieldCountOfVariants rest

/-- How many fields there are, and in their types. -/
def fieldCountOfFields : List Field → Nat
  | [] => 0
  | .mk _ type :: rest => 1 + type.fieldCount + fieldCountOfFields rest

end

/-- How many fields there are in all definitions. -/
def Definitions.fieldCount (definitions : Definitions) : Nat :=
  definitions.foldr (fun entry count => entry.2.fieldCount + count) 0

/-- The value of a schema that a value stands for. -/
def Schema.resolve? (schema : Schema) (v : Value) : Checked Value :=
  match Definitions.ofSchema? schema with
  | some definitions => v.resolve definitions definitions.fieldCount schema.space? schema
  | none => .error .refused

end FramedAvro.Avro
