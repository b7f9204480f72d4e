import FramedAvro.Avro.Value
import FramedAvro.Avro.Uuid
import FramedAvro.Avro.Varint
import FramedAvro.Text.Utf8

/-!
# Decoding

Reading a value of a schema off the front of bytes. Where the bytes end early some values are read
nevertheless: a missing truth value or text is null, and a missing union is null as its first
variant.

A record that contains itself without a union, an array or a map in between has no values, and
nothing is read for it. That is found out by counting: a name can be entered once until a union, an
array or a map has taken some bytes.

## Main definitions

* `Value.decode`: reading a value of a schema whose names are known.
* `Schema.decode?`: reading a value of a schema by itself.
-/

namespace FramedAvro.Avro

namespace Value

/-- Reads bytes after their length. -/
def decodeSized (bytes : Bytes) : Option (Bytes × Bytes) :=
  match Varint.decodeLength? bytes with
  | some (length, rest) => Bytes.takeExactly? length rest
  | none => none

/-- Reads a text, or null where the bytes end within it. -/
def decodeText (bytes : Bytes) : Option (Value × Bytes) :=
  match Varint.decodeLength? bytes with
  | some (length, rest) =>
    match Bytes.takeExactly? length rest with
    | some (content, rest) => (Utf8.decode? content).map fun text => (string text, rest)
    | none => some (null, [])
  | none => none

/-- Reads a value of a type without parts. -/
def decodePrimitive (type : Primitive) (bytes : Bytes) : Option (Value × Bytes) :=
  match type with
  | .null => some (null, bytes)
  | .boolean =>
    match bytes with
    | [] => some (null, [])
    | b :: rest =>
      if b = 0 then some (boolean false, rest)
      else if b = 1 then some (boolean true, rest)
      else none
  | .int => (Varint.decodeInt? bytes).map fun (i, rest) => (int (Int32.ofInt i), rest)
  | .long => (Varint.decode? bytes).map fun (i, rest) => (long (Int64.ofInt i), rest)
  | .float =>
    (Bytes.takeExactly? 4 bytes).map fun (content, rest) =>
      (float (UInt32.ofNat (Bytes.toNatLittle content)), rest)
  | .double =>
    (Bytes.takeExactly? 8 bytes).map fun (content, rest) =>
      (double (UInt64.ofNat (Bytes.toNatLittle content)), rest)
  | .bytes => (decodeSized bytes).map fun (content, rest) => (Value.bytes content, rest)
  | .string => decodeText bytes

/-- Reads a UUID: sixteen bytes, or its text. -/
def decodeUuid (bytes : Bytes) : Option (Value × Bytes) :=
  match decodeSized bytes with
  | some (content, rest) =>
    if content.length = Uuid.size then some (uuid content, rest)
    else ((Utf8.decode? content).bind Uuid.parse?).map fun own => (uuid own, rest)
  | none => none

/-- Reads a duration. -/
def decodeDuration (bytes : Bytes) : Option (Value × Bytes) :=
  match Bytes.takeExactly? 12 bytes with
  | some (content, rest) =>
    let word (start : Nat) : UInt32 :=
      UInt32.ofNat (Bytes.toNatLittle ((content.drop start).take 4))
    some (duration (word 0) (word 4) (word 8), rest)
  | none => none

/-- Reads an enum. -/
def decodeEnum (symbols : List String) (bytes : Bytes) : Option (Value × Bytes) :=
  match Varint.decodeInt? bytes with
  | some (i, rest) =>
    if 0 ≤ i then
      match symbols[i.toNat]? with
      | some symbol => some (enum i.toNat symbol, rest)
      | none => none
    else none
  | none => none

/-- Reads a decimal. -/
def decodeDecimal (carrier : DecimalCarrier) (bytes : Bytes) : Option (Value × Bytes) :=
  match carrier with
  | .bytes => (decodeSized bytes).map fun (content, rest) => (decimal content, rest)
  | .fixed type =>
    (Bytes.takeExactly? type.size bytes).map fun (content, rest) => (decimal content, rest)

/-- The names that can be entered at the start. -/
def allNames (definitions : Definitions) : List Name :=
  definitions.map (·.1)

mutual

/-- Reads a value of a schema that a namespace surrounds, entering only the `available` names before
bytes are taken. -/
def decode (definitions : Definitions) (available : List Name) (enclosing : Option String)
    (schema : Schema) (bytes : Bytes) : Option (Value × Bytes) :=
  match schema with
  | .primitive type => decodePrimitive type bytes
  | .intTime time =>
    (Varint.decodeInt? bytes).map fun (i, rest) => (intTime time (Int32.ofInt i), rest)
  | .longTime time =>
    (Varint.decode? bytes).map fun (i, rest) => (longTime time (Int64.ofInt i), rest)
  | .decimal _ _ carrier => decodeDecimal carrier bytes
  | .bigDecimal => none
  | .uuid => decodeUuid bytes
  | .duration => decodeDuration bytes
  | .array items _ =>
    (decodeBlocks definitions enclosing items bytes).map fun (contents, rest) =>
      (array contents, rest)
  | .map values _ =>
    (decodeEntryBlocks definitions enclosing values bytes).map fun (entries, rest) =>
      (map (Entries.ofList entries), rest)
  | .union variants =>
    match Varint.read bytes with
    | .truncated => some (union 0 null, [])
    | .tooLong => none
    | .number n rest =>
      let i := Varint.unfold n
      if 0 ≤ i ∧ rest.length < bytes.length then
        match _h : variants[i.toNat]? with
        | some variant =>
          (decode definitions (allNames definitions) enclosing variant rest).map
            fun (content, rest) => (union i.toNat content, rest)
        | none => none
      else none
  | .named definition => decodeDefinition definitions available enclosing definition bytes
  | .reference name =>
    let name := name.within enclosing
    if name ∈ available then
      match definitions.get? name with
      | some definition =>
        decodeDefinition definitions (available.erase name) name.space definition bytes
      | none => none
    else none
termination_by (bytes.length, available.length, sizeOf schema)
decreasing_by
  · rcases Nat.eq_zero_or_pos available.length with h | h
    · rw [h]
      exact Prod.Lex.right _ (Prod.Lex.right _ (by simp only [Schema.array.sizeOf_spec]; omega))
    · exact Prod.Lex.right _ (Prod.Lex.left _ _ h)
  · rcases Nat.eq_zero_or_pos available.length with h | h
    · rw [h]
      exact Prod.Lex.right _ (Prod.Lex.right _ (by simp only [Schema.map.sizeOf_spec]; omega))
    · exact Prod.Lex.right _ (Prod.Lex.left _ _ h)
  · next h => exact Prod.Lex.left _ _ h.2
  · exact Prod.Lex.right _ (Prod.Lex.right _ (by simp))
  · next h =>
    refine Prod.Lex.right _ (Prod.Lex.left _ _ ?_)
    rw [List.length_erase_of_mem h]
    have := List.length_pos_of_mem h
    omega

/-- Reads a value of a definition. The fields of a record are surrounded by the namespace of its
name. -/
def decodeDefinition (definitions : Definitions) (available : List Name)
    (enclosing : Option String) (definition : Definition) (bytes : Bytes) :
    Option (Value × Bytes) :=
  match definition with
  | .record label fields =>
    (decodeFields definitions available (label.name.within enclosing).space fields bytes).map
      fun (contents, rest) => (record contents, rest)
  | .enum _ symbols _ => decodeEnum symbols bytes
  | .fixed type =>
    (Bytes.takeExactly? type.size bytes).map fun (content, rest) =>
      (fixed type.size content, rest)
termination_by (bytes.length, available.length, sizeOf definition)

/-- Reads the fields of a record. -/
def decodeFields (definitions : Definitions) (available : List Name) (enclosing : Option String)
    (fields : List Field) (bytes : Bytes) : Option (List (String × Value) × Bytes) :=
  match fields with
  | [] => some ([], bytes)
  | .mk label type :: others =>
    match decode definitions available enclosing type bytes with
    | some (v, rest) =>
      if rest.length ≤ bytes.length then
        (decodeFields definitions available enclosing others rest).map fun (contents, rest) =>
          ((label.name, v) :: contents, rest)
      else none
    | none => none
termination_by (bytes.length, available.length, sizeOf fields)
decreasing_by
  · refine Prod.Lex.right _ (Prod.Lex.right _ ?_)
    simp only [List.cons.sizeOf_spec, Field.mk.sizeOf_spec]
    omega
  · next h =>
    rcases Nat.lt_or_eq_of_le h with h | h
    · exact Prod.Lex.left _ _ h
    · rw [h]
      exact Prod.Lex.right _ (Prod.Lex.right _ (by simp only [List.cons.sizeOf_spec]; omega))

/-- Reads the blocks of an array up to an empty one. -/
def decodeBlocks (definitions : Definitions) (enclosing : Option String) (items : Schema)
    (bytes : Bytes) :
    Option (List Value × Bytes) :=
  match Varint.decodeCount? bytes with
  | none => none
  | some (0, rest) => some ([], rest)
  | some (count, rest) =>
    if rest.length < bytes.length then
      match decodeItems definitions enclosing items count rest with
      | some (contents, rest) =>
        if rest.length < bytes.length then
          (decodeBlocks definitions enclosing items rest).map fun (more, rest) =>
            (contents ++ more, rest)
        else none
      | none => none
    else none
termination_by (bytes.length, 0, 0)
decreasing_by
  all_goals next h => exact Prod.Lex.left _ _ h

/-- Reads items. -/
def decodeItems (definitions : Definitions) (enclosing : Option String) (items : Schema)
    (count : Nat) (bytes : Bytes) :
    Option (List Value × Bytes) :=
  match count with
  | 0 => some ([], bytes)
  | count + 1 =>
    match decode definitions (allNames definitions) enclosing items bytes with
    | some (v, rest) =>
      if rest.length ≤ bytes.length then
        (decodeItems definitions enclosing items count rest).map fun (contents, rest) =>
          (v :: contents, rest)
      else none
    | none => none
termination_by (bytes.length, definitions.length + 1, count)
decreasing_by
  · exact Prod.Lex.right _ (Prod.Lex.left _ _ (by simp [allNames]))
  · next h =>
    rcases Nat.lt_or_eq_of_le h with h | h
    · exact Prod.Lex.left _ _ h
    · rw [h]
      exact Prod.Lex.right _ (Prod.Lex.right _ (Nat.lt_succ_self _))

/-- Reads the blocks of a map up to an empty one. -/
def decodeEntryBlocks (definitions : Definitions) (enclosing : Option String) (values : Schema)
    (bytes : Bytes) :
    Option (List (String × Value) × Bytes) :=
  match Varint.decodeCount? bytes with
  | none => none
  | some (0, rest) => some ([], rest)
  | some (count, rest) =>
    if rest.length < bytes.length then
      match decodeEntries definitions enclosing values count rest with
      | some (entries, rest) =>
        if rest.length < bytes.length then
          (decodeEntryBlocks definitions enclosing values rest).map fun (more, rest) =>
            (entries ++ more, rest)
        else none
      | none => none
    else none
termination_by (bytes.length, 0, 0)
decreasing_by
  all_goals next h => exact Prod.Lex.left _ _ h

/-- Reads entries, each the key and then the value. -/
def decodeEntries (definitions : Definitions) (enclosing : Option String) (values : Schema)
    (count : Nat) (bytes : Bytes) :
    Option (List (String × Value) × Bytes) :=
  match count with
  | 0 => some ([], bytes)
  | count + 1 =>
    match decodeText bytes with
    | some (string key, rest) =>
      if rest.length < bytes.length then
        match decode definitions (allNames definitions) enclosing values rest with
        | some (v, rest) =>
          if rest.length < bytes.length then
            (decodeEntries definitions enclosing values count rest).map fun (entries, rest) =>
              ((key, v) :: entries, rest)
          else none
        | none => none
      else none
    | _ => none
termination_by (bytes.length, definitions.length + 1, count)
decreasing_by
  all_goals next h => exact Prod.Lex.left _ _ h

end

end Value

/-- Reads a value of a schema off the front of bytes. -/
def Schema.decode? (schema : Schema) (bytes : Bytes) : Option Value :=
  match Definitions.ofSchema? schema with
  | some definitions =>
    (Value.decode definitions (Value.allNames definitions) none schema bytes).map (·.1)
  | none => none

end FramedAvro.Avro
