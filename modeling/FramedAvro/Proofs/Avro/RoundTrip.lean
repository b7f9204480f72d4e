import FramedAvro.Avro.Decode
import FramedAvro.Proofs.Avro.Fills
import FramedAvro.Proofs.Avro.Varint
import FramedAvro.Proofs.Bytes
import FramedAvro.Proofs.Table

/-!
# Reading written values back

A value that fills a regular schema is read back from its bytes, whatever stands after them, up to
the order in which the entries of maps are written. The reader enters a name once until it has taken
bytes for a union, an array or a map. That is no loss: a record that leads to itself through records
only would have values within values without end, so that nothing fills it.

## Main definitions

* `Value.sorted`: a value with its maps in order.
* `Value.Legible`: what keeps a value within the limits of the reader.
* `Value.IsWhole`: what keeps the bytes of a value those that its schema says.

## Main results

* `Value.exists_sorted_map`: maps are in order as finite maps.
* `Fills.not_enters`: a record with values does not lead to itself through records only.
* `Fills.readsBack`: what fills a regular schema is read back.
* `Schema.decode?_encode?`: so is what was resolved against one.
-/

namespace FramedAvro.Avro

/-! ### Names that are entered -/

/-- A name is entered for every value of a schema before anything else than records is. -/
inductive Definitions.Enters (definitions : Definitions) : Schema → Name → Prop
  | reference (name : Name) : Enters definitions (.reference name) name
  | field {schema : Schema} {label : Label} {fields : List Field} {field : Field} {name : Name}
      (opened : definitions.opened? schema = some (.record label fields)) (mem : field ∈ fields)
      (inner : Enters definitions field.type name) : Enters definitions schema name

namespace Fills

variable {definitions : Definitions} {sized : Bool}

/-- The values of a record are records. -/
theorem exists_record {schema : Schema} {v : Value} (h : Fills definitions sized schema v)
    {label : Label} {fields : List Field}
    (opened : definitions.opened? schema = some (.record label fields)) :
    ∃ contents, v = .record contents ∧ contents.map (·.1) = fields.map Field.name ∧
      ∀ part ∈ fields.zip contents, Fills definitions sized part.1.type part.2.2 := by
  cases h with
  | record own names each =>
      obtain ⟨rfl, rfl⟩ := Definition.record.inj (Option.some.inj (own.symm.trans opened))
      exact ⟨_, rfl, names, each⟩
  | enum own found => rw [opened] at own; cases own
  | fixed own size => rw [opened] at own; cases own
  | _ => contradiction

/-- A field of a record has a smaller value than the record. -/
theorem exists_field {schema : Schema} {v : Value} (h : Fills definitions sized schema v)
    {label : Label} {fields : List Field}
    (opened : definitions.opened? schema = some (.record label fields)) {field : Field}
    (hfield : field ∈ fields) :
    ∃ w, Fills definitions sized field.type w ∧ sizeOf w < sizeOf v := by
  obtain ⟨contents, rfl, names, each⟩ := h.exists_record opened
  have hlength : contents.length = fields.length := by
    simpa using congrArg List.length names
  obtain ⟨index, hlt, rfl⟩ := List.getElem_of_mem hfield
  have hzip : (fields[index], contents[index]) ∈ fields.zip contents := by
    rw [← List.getElem_zip (h := by simp [hlength, hlt])]
    exact List.getElem_mem _
  refine ⟨contents[index].2, each _ hzip, ?_⟩
  have hmem := List.sizeOf_lt_of_mem (List.getElem_mem (h := by omega) : contents[index] ∈ contents)
  have hpart : sizeOf contents[index].2 < sizeOf contents[index] := by
    obtain ⟨name, w⟩ := contents[index]
    simp only [Prod.mk.sizeOf_spec]
    omega
  simp only [Value.record.sizeOf_spec]
  omega

/-- A name that is entered has a value no greater than the one it is entered for. -/
theorem exists_entered {schema : Schema} {name : Name} (h : definitions.Enters schema name)
    {v : Value} (hv : Fills definitions sized schema v) :
    ∃ w, Fills definitions sized (.reference name) w ∧ sizeOf w ≤ sizeOf v := by
  induction h generalizing v with
  | reference name => exact ⟨v, hv, Nat.le_refl _⟩
  | field opened mem inner ih =>
      obtain ⟨w, hw, hlt⟩ := hv.exists_field opened mem
      obtain ⟨entered, hentered, hle⟩ := ih hw
      exact ⟨entered, hentered, by omega⟩

/-- A record that has values does not lead to itself through records only, by descent from value to
value. -/
theorem not_enters {name : Name} {v : Value} (h : Fills definitions sized (.reference name) v)
    {label : Label} {fields : List Field}
    (hget : definitions.get? name = some (.record label fields)) {field : Field}
    (hfield : field ∈ fields) : ¬definitions.Enters field.type name := by
  intro henters
  induction hsize : sizeOf v using Nat.strongRecOn generalizing v with
  | ind size ih =>
      obtain ⟨w, hw, hlt⟩ := h.exists_field hget hfield
      obtain ⟨smaller, hsmaller, hle⟩ := exists_entered henters hw
      exact ih (sizeOf smaller) (by omega) hsmaller rfl

/-- A name that is entered for a value is one of the names that are defined. -/
theorem mem_allNames {schema : Schema} {v : Value} (h : Fills definitions sized schema v)
    {name : Name} (henters : definitions.Enters schema name) :
    name ∈ Value.allNames definitions := by
  obtain ⟨w, hw, -⟩ := exists_entered henters h
  have hopened : ∃ definition, definitions.get? name = some definition := by
    cases hw with
    | record opened => exact ⟨_, opened⟩
    | enum opened => exact ⟨_, opened⟩
    | fixed opened => exact ⟨_, opened⟩
  obtain ⟨definition, hget⟩ := hopened
  obtain ⟨entry, hfind, -⟩ := Option.map_eq_some_iff.1 hget
  have hname : entry.1 = name := by simpa using List.find?_some hfind
  exact hname ▸ List.mem_map_of_mem (List.mem_of_find?_eq_some hfind)

end Fills

/-! ### Values up to the order of maps -/

namespace Value

mutual

/-- The value with the entries of its maps in order, of equal keys the last. -/
def sorted : Value → Value
  | union index content => union index content.sorted
  | array contents => array (sortedItems contents)
  | map entries => map (Entries.ofList (sortedEntries entries))
  | record fields => record (sortedEntries fields)
  | v => v

/-- The items with the entries of their maps in order. -/
def sortedItems : List Value → List Value
  | [] => []
  | v :: rest => v.sorted :: sortedItems rest

/-- The entries with the entries of their own maps in order. -/
def sortedEntries : List (String × Value) → List (String × Value)
  | [] => []
  | (name, v) :: rest => (name, v.sorted) :: sortedEntries rest

end

/-- Putting the values of entries in order does not change which one is the last of its key. -/
theorem lastOf_sortedEntries (key : String) (entries : List (String × Value)) :
    lastOf key (sortedEntries entries) = (lastOf key entries).map sorted := by
  induction entries with
  | nil => rfl
  | cons entry rest ih =>
      obtain ⟨name, v⟩ := entry
      rw [sortedEntries, lastOf, ih, lastOf, Option.map_or]
      split <;> rfl

/-- In a list that is put in order a key has its last value. -/
theorem get?_ofList (key : String) (entries : List (String × Value)) :
    Entries.get? key (Entries.ofList entries) = lastOf key entries := by
  rw [Entries.get?_ofList]
  induction entries with
  | nil => rfl
  | cons entry rest ih =>
      obtain ⟨k, v⟩ := entry
      rw [List.reverse_cons, Entries.get?_append, ih, lastOf, Entries.get?, Entries.get?,
        if_congr Std.LawfulEqOrd.compare_eq_iff_eq rfl rfl, if_congr eq_comm rfl rfl]

/-- A map that is put in order has ascending keys, and under each key the last value it had, put in
order too. -/
theorem exists_sorted_map (entries : List (String × Value)) :
    ∃ ordered, (map entries).sorted = map ordered ∧ Entries.Ascending ordered ∧
      ∀ key, Entries.get? key ordered = (lastOf key entries).map sorted := by
  refine ⟨_, rfl, Entries.ascending_ofList _, fun key => ?_⟩
  rw [get?_ofList, lastOf_sortedEntries]

mutual

/-- Whether every text, every list of bytes, items or entries and every index in a value is small
enough to be read. -/
def Legible : Value → Prop
  | bytes content => content.length ≤ Varint.maxSize
  | string text => (Utf8.encode text).length ≤ Varint.maxSize
  | enum index _ => (index : Int) ≤ Int32.maxValue.toInt
  | union index content => (index : Int) ≤ Int64.maxValue.toInt ∧ content.Legible
  | array contents => contents.length ≤ Varint.maxSize ∧ LegibleItems contents
  | map entries => entries.length ≤ Varint.maxSize ∧ LegibleEntries entries
  | record fields => LegibleFields fields
  | _ => True

/-- Whether all items are small enough to be read. -/
def LegibleItems : List Value → Prop
  | [] => True
  | v :: rest => v.Legible ∧ LegibleItems rest

/-- Whether the keys and the values of all entries are small enough to be read. -/
def LegibleEntries : List (String × Value) → Prop
  | [] => True
  | (key, v) :: rest =>
    (Utf8.encode key).length ≤ Varint.maxSize ∧ v.Legible ∧ LegibleEntries rest

/-- Whether the values of all fields are small enough to be read. -/
def LegibleFields : List (String × Value) → Prop
  | [] => True
  | (_, v) :: rest => v.Legible ∧ LegibleFields rest

end

/-- Items are legible if each of them is. -/
theorem legibleItems_iff {contents : List Value} :
    LegibleItems contents ↔ ∀ v ∈ contents, v.Legible := by
  induction contents with
  | nil => simp [LegibleItems]
  | cons v rest ih => simp [LegibleItems, ih]

/-- Entries are legible if each key is short enough and each value is legible. -/
theorem legibleEntries_iff {entries : List (String × Value)} :
    LegibleEntries entries ↔ ∀ entry ∈ entries,
      (Utf8.encode entry.1).length ≤ Varint.maxSize ∧ entry.2.Legible := by
  induction entries with
  | nil => simp [LegibleEntries]
  | cons entry rest ih =>
      obtain ⟨key, v⟩ := entry
      simp only [LegibleEntries, List.forall_mem_cons, ih, and_assoc]

/-- Fields are legible if the value of each is. Their names are not written. -/
theorem legibleFields_iff {fields : List (String × Value)} :
    LegibleFields fields ↔ ∀ entry ∈ fields, entry.2.Legible := by
  induction fields with
  | nil => simp [LegibleFields]
  | cons entry rest ih =>
      obtain ⟨key, v⟩ := entry
      simp only [LegibleFields, List.forall_mem_cons, ih]

mutual

/-- Whether every fixed value in a value has as many bytes as its size says. -/
def IsWhole : Value → Prop
  | fixed size content => content.length = size
  | union _ content => content.IsWhole
  | array contents => AreWhole contents
  | map entries => WholeEntries entries
  | record fields => WholeEntries fields
  | _ => True

/-- Whether all items have fixed values of their size only. -/
def AreWhole : List Value → Prop
  | [] => True
  | v :: rest => v.IsWhole ∧ AreWhole rest

/-- Whether the values of all entries or fields have fixed values of their size only. -/
def WholeEntries : List (String × Value) → Prop
  | [] => True
  | (_, v) :: rest => v.IsWhole ∧ WholeEntries rest

end

/-- Items are whole if each of them is. -/
theorem areWhole_iff {contents : List Value} : AreWhole contents ↔ ∀ v ∈ contents, v.IsWhole := by
  induction contents with
  | nil => simp [AreWhole]
  | cons v rest ih => simp [AreWhole, ih]

/-- Entries are whole if the value of each is. -/
theorem wholeEntries_iff {entries : List (String × Value)} :
    WholeEntries entries ↔ ∀ entry ∈ entries, entry.2.IsWhole := by
  induction entries with
  | nil => simp [WholeEntries]
  | cons entry rest ih =>
      obtain ⟨key, v⟩ := entry
      simp only [WholeEntries, List.forall_mem_cons, ih]

/-! ### Reading back -/

/-- Whether a value is read back from its bytes as a schema, in whatever place that lets the names
be entered which the schema enters. One namespace surrounds the schema in writing, and one in
reading. -/
def ReadsBack (definitions : Definitions) (writing reading : Option String) (schema : Schema)
    (v : Value) : Prop :=
  ∀ payload, v.encode definitions writing schema = some payload →
    ∀ available, (∀ name, definitions.Enters schema name → name ∈ available) →
      ∀ rest, decode definitions available reading schema (payload ++ rest) =
        some (v.sorted, rest)

variable {definitions : Definitions} {enclosing writing reading : Option String}

/-- Bytes after their number are read back, whatever comes after them. -/
theorem decodeSized_encodeSized {content : Bytes} (h : content.length ≤ Varint.maxSize)
    (rest : Bytes) : decodeSized (encodeSized content ++ rest) = some (content, rest) := by
  rw [encodeSized, List.append_assoc, decodeSized, Varint.decodeLength?_encode h]
  exact Bytes.takeExactly?_append content rest

/-- Even no bytes take a byte that says so. -/
theorem length_encodeSized_pos (content : Bytes) : 0 < (encodeSized content).length := by
  have hpos := Varint.length_encode_pos (content.length : Int)
  rw [encodeSized, List.length_append]
  omega

/-- A text after the number of its bytes is read back, whatever comes after it. -/
theorem decodeText_encodeSized {text : String} (h : (Utf8.encode text).length ≤ Varint.maxSize)
    (rest : Bytes) :
    decodeText (encodeSized (Utf8.encode text) ++ rest) = some (string text, rest) := by
  rw [encodeSized, List.append_assoc, decodeText, Varint.decodeLength?_encode h]
  simp only [Bytes.takeExactly?_append, Utf8.decode?_encode]
  rfl

/-- A value without parts is read back when its bytes are. -/
theorem readsBack_primitive {type : Primitive} {v : Value} {content : Bytes}
    (hencode : v.encodePartless (.primitive type) = some content) (hsorted : v.sorted = v)
    (hdecode : ∀ rest, decodePrimitive type (content ++ rest) = some (v, rest)) :
    ReadsBack definitions writing reading (.primitive type) v := by
  rintro payload hpayload available - rest
  rw [encode.eq_def] at hpayload
  obtain rfl := Option.some.inj (hencode.symm.trans hpayload)
  rw [decode, hsorted]
  exact hdecode rest

/-- Null is read back from no bytes at all. -/
theorem readsBack_null : ReadsBack definitions writing reading (.primitive .null) null :=
  readsBack_primitive rfl rfl fun _ => rfl

/-- A truth value is read back from its byte. -/
theorem readsBack_boolean (b : Bool) :
    ReadsBack definitions writing reading (.primitive .boolean) (boolean b) := by
  cases b
  · exact readsBack_primitive rfl rfl fun _ => rfl
  · exact readsBack_primitive rfl rfl fun _ => rfl

/-- An integer of 32 bits is read back from the bytes that a long one would have. -/
theorem readsBack_int (i : Int32) :
    ReadsBack definitions writing reading (.primitive .int) (int i) := by
  refine readsBack_primitive rfl rfl fun rest => ?_
  have hread := Varint.decodeInt?_encode i.minValue_le_toInt i.toInt_le rest
  rw [decodePrimitive, hread, Option.map_some]
  dsimp only
  rw [Int32.ofInt_toInt]

/-- An integer of 64 bits is read back from its bytes. -/
theorem readsBack_long (i : Int64) :
    ReadsBack definitions writing reading (.primitive .long) (long i) := by
  refine readsBack_primitive rfl rfl fun rest => ?_
  have hread := Varint.decode?_encode i.minValue_le_toInt i.toInt_le rest
  rw [decodePrimitive, hread, Option.map_some]
  dsimp only
  rw [Int64.ofInt_toInt]

/-- A float is read back from its four bytes, with all its bits. -/
theorem readsBack_float (bits : UInt32) :
    ReadsBack definitions writing reading (.primitive .float) (float bits) := by
  refine readsBack_primitive rfl rfl fun rest => ?_
  have htake := Bytes.takeExactly?_append (Bytes.ofNatLittle 4 bits.toNat) rest
  rw [Bytes.length_ofNatLittle] at htake
  rw [decodePrimitive, htake, Option.map_some]
  dsimp only
  rw [Bytes.toNatLittle_ofNatLittle (Nat.lt_of_lt_of_le bits.toNat_lt (by decide)),
    UInt32.ofNat_toNat]

/-- A double is read back from its eight bytes, with all its bits. -/
theorem readsBack_double (bits : UInt64) :
    ReadsBack definitions writing reading (.primitive .double) (double bits) := by
  refine readsBack_primitive rfl rfl fun rest => ?_
  have htake := Bytes.takeExactly?_append (Bytes.ofNatLittle 8 bits.toNat) rest
  rw [Bytes.length_ofNatLittle] at htake
  rw [decodePrimitive, htake, Option.map_some]
  dsimp only
  rw [Bytes.toNatLittle_ofNatLittle (Nat.lt_of_lt_of_le bits.toNat_lt (by decide)),
    UInt64.ofNat_toNat]

/-- Bytes are read back unless they are too many. -/
theorem readsBack_bytes {content : Bytes} (h : content.length ≤ Varint.maxSize) :
    ReadsBack definitions writing reading (.primitive .bytes) (bytes content) := by
  refine readsBack_primitive rfl rfl fun rest => ?_
  rw [decodePrimitive, decodeSized_encodeSized h, Option.map_some]

/-- A text is read back unless it has too many bytes. -/
theorem readsBack_string {text : String} (h : (Utf8.encode text).length ≤ Varint.maxSize) :
    ReadsBack definitions writing reading (.primitive .string) (string text) := by
  refine readsBack_primitive rfl rfl fun rest => ?_
  rw [decodePrimitive, decodeText_encodeSized h]

/-! ### Blocks -/

/-- Items are read back one after the other when each of them is. -/
theorem decodeItems_encodeItems {items : Schema} {contents : List Value}
    (each : ∀ v ∈ contents, ReadsBack definitions writing reading items v)
    (hnames : ∀ v ∈ contents, ∀ name, definitions.Enters items name → name ∈ allNames definitions)
    {payload : Bytes} (hencode : encodeItems definitions writing contents items = some payload)
    (rest : Bytes) :
    decodeItems definitions reading items contents.length (payload ++ rest) =
      some (sortedItems contents, rest) := by
  induction contents generalizing payload with
  | nil =>
      rw [encodeItems] at hencode
      obtain rfl := Option.some.inj hencode
      rw [List.length_nil, decodeItems]
      rfl
  | cons v more ih =>
      obtain ⟨hv, hmore⟩ := List.forall_mem_cons.1 each
      obtain ⟨hvnames, hmorenames⟩ := List.forall_mem_cons.1 hnames
      rw [encodeItems] at hencode
      split at hencode
      · next first hfirst =>
          obtain ⟨others, hothers, rfl⟩ := Option.map_eq_some_iff.1 hencode
          rw [List.length_cons, List.append_assoc, decodeItems, hv first hfirst _ hvnames]
          simp only [List.length_append]
          rw [if_pos (by omega), ih hmore hmorenames hothers]
          rfl
      · contradiction

/-- The end of a list is a block without items. -/
theorem decodeCount?_end (rest : Bytes) : Varint.decodeCount? (0 :: rest) = some (0, rest) := by
  have hzero : Varint.encode (0 : Nat) = [0] := by
    rw [Varint.encode, Varint.encodeNat]
    rfl
  have hread := Varint.decodeCount?_encode (Nat.zero_le Varint.maxSize) rest
  rw [hzero] at hread
  exact hread

/-- A zero ends the blocks of an array. -/
theorem decodeBlocks_end (items : Schema) (rest : Bytes) :
    decodeBlocks definitions enclosing items (0 :: rest) = some ([], rest) := by
  rw [decodeBlocks, decodeCount?_end]
  rfl

/-- A block with items is read when they are, and then the blocks behind it. -/
theorem decodeBlocks_block {items : Schema} {count : Nat} {bytes after rest : Bytes}
    {contents : List Value} (hcount : Varint.decodeCount? bytes = some (count + 1, after))
    (hafter : after.length < bytes.length)
    (hitems : decodeItems definitions enclosing items (count + 1) after = some (contents, rest))
    (hrest : rest.length < bytes.length) :
    decodeBlocks definitions enclosing items bytes =
      (decodeBlocks definitions enclosing items rest).map fun (more, rest) =>
        (contents ++ more, rest) := by
  rw [decodeBlocks, hcount]
  simp only [if_pos hafter, hitems, if_pos hrest]

/-- A list is read from its block when its items are. -/
theorem decodeBlocks_encodeBlock {items : Schema} {count : Nat} (hcount : count ≤ Varint.maxSize)
    {payload : Bytes} {contents : List Value}
    (h : ∀ rest, decodeItems definitions enclosing items count (payload ++ rest) =
      some (contents, rest)) (rest : Bytes) :
    decodeBlocks definitions enclosing items (encodeBlock count payload ++ rest) =
      some (contents, rest) := by
  cases count with
  | zero =>
      have hnone := h rest
      rw [decodeItems] at hnone
      obtain ⟨rfl, -⟩ := Prod.mk.inj (Option.some.inj hnone)
      exact decodeBlocks_end items rest
  | succ count =>
      have hpos := Varint.length_encode_pos ((count + 1 : Nat) : Int)
      rw [encodeBlock, if_neg (Nat.succ_ne_zero count), List.append_assoc, List.append_assoc,
        List.singleton_append,
        decodeBlocks_block (Varint.decodeCount?_encode hcount _)
          (by simp only [List.length_append]; omega) (h (0 :: rest))
          (by simp only [List.length_append]; omega),
        decodeBlocks_end, Option.map_some]
      dsimp only
      rw [List.append_nil]

/-- An array is read back when its items are. -/
theorem readsBack_array {items : Schema} {attributes : Attributes} {contents : List Value}
    (hlength : contents.length ≤ Varint.maxSize)
    (each : ∀ v ∈ contents, ReadsBack definitions writing reading items v)
    (hnames : ∀ v ∈ contents, ∀ name, definitions.Enters items name → name ∈ allNames definitions) :
    ReadsBack definitions writing reading (.array items attributes) (array contents) := by
  rintro payload hpayload available - rest
  rw [encode] at hpayload
  obtain ⟨inner, hinner, rfl⟩ := Option.map_eq_some_iff.1 hpayload
  rw [decode, decodeBlocks_encodeBlock hlength (decodeItems_encodeItems each hnames hinner),
    Option.map_some, sorted]

/-- Entries are read back one after the other when the value of each of them is. -/
theorem decodeEntries_encodeEntries {values : Schema} {entries : List (String × Value)}
    (hkeys : ∀ entry ∈ entries, (Utf8.encode entry.1).length ≤ Varint.maxSize)
    (each : ∀ entry ∈ entries, ReadsBack definitions writing reading values entry.2)
    (hnames : ∀ entry ∈ entries, ∀ name, definitions.Enters values name →
      name ∈ allNames definitions)
    {payload : Bytes} (hencode : encodeEntries definitions writing entries values = some payload)
    (rest : Bytes) :
    decodeEntries definitions reading values entries.length (payload ++ rest) =
      some (sortedEntries entries, rest) := by
  induction entries generalizing payload with
  | nil =>
      rw [encodeEntries] at hencode
      obtain rfl := Option.some.inj hencode
      rw [List.length_nil, decodeEntries]
      rfl
  | cons entry more ih =>
      obtain ⟨key, v⟩ := entry
      obtain ⟨hkey, hmorekeys⟩ := List.forall_mem_cons.1 hkeys
      obtain ⟨hv, hmore⟩ := List.forall_mem_cons.1 each
      obtain ⟨hvnames, hmorenames⟩ := List.forall_mem_cons.1 hnames
      rw [encodeEntries] at hencode
      split at hencode
      · next first hfirst =>
          obtain ⟨others, hothers, rfl⟩ := Option.map_eq_some_iff.1 hencode
          have hpos : 0 < (encodeSized (Utf8.encode key)).length :=
            length_encodeSized_pos (Utf8.encode key)
          rw [List.length_cons, List.append_assoc, List.append_assoc, decodeEntries,
            decodeText_encodeSized hkey]
          simp only [List.length_append]
          rw [if_pos (by omega), hv first hfirst _ hvnames]
          simp only [List.length_append]
          rw [if_pos (by omega), ih hmorekeys hmore hmorenames hothers]
          rfl
      · contradiction

/-- A zero ends the blocks of a map. -/
theorem decodeEntryBlocks_end (values : Schema) (rest : Bytes) :
    decodeEntryBlocks definitions enclosing values (0 :: rest) = some ([], rest) := by
  rw [decodeEntryBlocks, decodeCount?_end]
  rfl

/-- A block with entries is read when they are, and then the blocks behind it. -/
theorem decodeEntryBlocks_block {values : Schema} {count : Nat} {bytes after rest : Bytes}
    {entries : List (String × Value)}
    (hcount : Varint.decodeCount? bytes = some (count + 1, after))
    (hafter : after.length < bytes.length)
    (hentries : decodeEntries definitions enclosing values (count + 1) after = some (entries, rest))
    (hrest : rest.length < bytes.length) :
    decodeEntryBlocks definitions enclosing values bytes =
      (decodeEntryBlocks definitions enclosing values rest).map fun (more, rest) =>
        (entries ++ more, rest) := by
  rw [decodeEntryBlocks, hcount]
  simp only [if_pos hafter, hentries, if_pos hrest]

/-- Entries are read from their block when they are read one after the other. -/
theorem decodeEntryBlocks_encodeBlock {values : Schema} {count : Nat}
    (hcount : count ≤ Varint.maxSize) {payload : Bytes} {entries : List (String × Value)}
    (h : ∀ rest, decodeEntries definitions enclosing values count (payload ++ rest) =
      some (entries, rest)) (rest : Bytes) :
    decodeEntryBlocks definitions enclosing values (encodeBlock count payload ++ rest) =
      some (entries, rest) := by
  cases count with
  | zero =>
      have hnone := h rest
      rw [decodeEntries] at hnone
      obtain ⟨rfl, -⟩ := Prod.mk.inj (Option.some.inj hnone)
      exact decodeEntryBlocks_end values rest
  | succ count =>
      have hpos := Varint.length_encode_pos ((count + 1 : Nat) : Int)
      rw [encodeBlock, if_neg (Nat.succ_ne_zero count), List.append_assoc, List.append_assoc,
        List.singleton_append,
        decodeEntryBlocks_block (Varint.decodeCount?_encode hcount _)
          (by simp only [List.length_append]; omega) (h (0 :: rest))
          (by simp only [List.length_append]; omega),
        decodeEntryBlocks_end, Option.map_some]
      dsimp only
      rw [List.append_nil]

/-- A map is read back when the values of its entries are. -/
theorem readsBack_map {values : Schema} {attributes : Attributes}
    {entries : List (String × Value)} (hlength : entries.length ≤ Varint.maxSize)
    (hkeys : ∀ entry ∈ entries, (Utf8.encode entry.1).length ≤ Varint.maxSize)
    (each : ∀ entry ∈ entries, ReadsBack definitions writing reading values entry.2)
    (hnames : ∀ entry ∈ entries, ∀ name, definitions.Enters values name →
      name ∈ allNames definitions) :
    ReadsBack definitions writing reading (.map values attributes) (map entries) := by
  rintro payload hpayload available - rest
  rw [encode] at hpayload
  obtain ⟨inner, hinner, rfl⟩ := Option.map_eq_some_iff.1 hpayload
  rw [decode, decodeEntryBlocks_encodeBlock hlength
    (decodeEntries_encodeEntries hkeys each hnames hinner), Option.map_some, sorted]

/-- The content of a union is read back behind its index. -/
theorem readsBack_union {variants : List Schema} {index : Nat} {variant : Schema} {content : Value}
    (found : variants[index]? = some variant) (hindex : (index : Int) ≤ Int64.maxValue.toInt)
    (inner : ReadsBack definitions writing reading variant content)
    (hnames : ∀ name, definitions.Enters variant name → name ∈ allNames definitions) :
    ReadsBack definitions writing reading (.union variants) (union index content) := by
  rintro payload hpayload available - rest
  rw [encode, found] at hpayload
  obtain ⟨first, hfirst, rfl⟩ := Option.map_eq_some_iff.1 hpayload
  have hmin : Int64.minValue.toInt ≤ (index : Int) :=
    Int.le_trans (by decide) (Int.natCast_nonneg index)
  have hpos := Varint.length_encode_pos (index : Int)
  rw [List.append_assoc, decode, Varint.read_encode hmin hindex]
  dsimp only
  rw [Varint.unfold_fold, if_pos ⟨Int.natCast_nonneg index, by
    simp only [List.length_append]; omega⟩]
  simp only [Int.toNat_natCast]
  split
  · next own hown =>
      obtain rfl := Option.some.inj (found.symm.trans hown)
      rw [inner first hfirst _ hnames, Option.map_some, sorted]
  · next hnone => exact absurd (found.symm.trans hnone) (by simp)

/-! ### Definitions -/

/-- A schema that gives or refers to a definition is written as it. -/
theorem encode_opened {schema : Schema}
    (hschema : schema.Every Schema.Regular enclosing) {definition : Definition}
    (opened : definitions.opened? schema = some definition) (v : Value) :
    encode definitions enclosing v schema =
      encodeDefinition definitions enclosing v definition := by
  cases schema with
  | named own =>
      obtain rfl := Option.some.inj opened
      rw [encode]
  | reference name =>
      have hget : definitions.get? name = some definition := opened
      have hsettled : name.within enclosing = name := hschema.self.settled
      rw [encode, hsettled]
      simp only [hget]
  | _ => contradiction

/-- A schema that gives or refers to a definition is read as it, in a place where its fields are
regular, with what they enter left to be entered. -/
theorem decode_opened (hdefinitions : definitions.AreRegular) {schema : Schema}
    (hschema : schema.Every Schema.Regular enclosing) {definition : Definition}
    (opened : definitions.opened? schema = some definition) {sized : Bool} {v : Value}
    (hfills : Fills definitions sized schema v) {available : List Name}
    (havailable : ∀ name, definitions.Enters schema name → name ∈ available) :
    ∃ own left, definition.RegularIn (definition.name.within own).space ∧
      (∀ label fields, definition = .record label fields → ∀ field ∈ fields, ∀ name,
        definitions.Enters field.type name → name ∈ left) ∧
      ∀ bytes, decode definitions available enclosing schema bytes =
        decodeDefinition definitions left own definition bytes := by
  obtain ⟨-, hregular⟩ := hdefinitions.opened? hschema opened
  cases schema with
  | named own =>
      obtain rfl := Option.some.inj opened
      refine ⟨enclosing, available, hregular, ?_, fun bytes => by rw [decode]⟩
      rintro label fields rfl field hfield name henters
      exact havailable name (.field opened hfield henters)
  | reference name =>
      have hget : definitions.get? name = some definition := opened
      have hsettled : name.within enclosing = name := hschema.self.settled
      have hentered : name ∈ available := havailable name (.reference name)
      refine ⟨name.space, available.erase name, hdefinitions.get?_within hget, ?_, fun bytes => ?_⟩
      · rintro label fields rfl field hfield other henters
        have hne : other ≠ name := by
          rintro rfl
          exact hfills.not_enters hget hfield henters
        exact (List.mem_erase_of_ne hne).2 (havailable other (.field opened hfield henters))
      · rw [decode, hsettled, if_pos hentered]
        simp only [hget]
  | _ => contradiction

/-- An enum is read back from the index of its symbol. -/
theorem readsBack_enum (hdefinitions : definitions.AreRegular) {schema : Schema}
    (hwriting : schema.Every Schema.Regular writing)
    (hreading : schema.Every Schema.Regular reading) {label : Label} {symbols : List String}
    {fallback : Option String}
    (opened : definitions.opened? schema = some (.enum label symbols fallback)) {index : Nat}
    {symbol : String} (found : symbols[index]? = some symbol)
    (hindex : (index : Int) ≤ Int32.maxValue.toInt) :
    ReadsBack definitions writing reading schema (enum index symbol) := by
  intro payload hpayload available havailable rest
  have hfills : Fills definitions true schema (enum index symbol) := .enum opened found
  obtain ⟨own, left, -, -, hdecode⟩ :=
    decode_opened hdefinitions hreading opened hfills havailable
  rw [encode_opened hwriting opened, encodeDefinition.eq_def] at hpayload
  obtain rfl := Option.some.inj hpayload
  have hmin : Int32.minValue.toInt ≤ (index : Int) :=
    Int.le_trans (by decide) (Int.natCast_nonneg index)
  rw [hdecode, decodeDefinition, decodeEnum, Varint.decodeInt?_encode hmin hindex]
  dsimp only
  rw [if_pos (Int.natCast_nonneg index), Int.toNat_natCast, found]
  rfl

/-- A fixed value is read back when it has the size of its type. -/
theorem readsBack_fixed (hdefinitions : definitions.AreRegular) {schema : Schema}
    (hwriting : schema.Every Schema.Regular writing)
    (hreading : schema.Every Schema.Regular reading) {type : FixedSize}
    (opened : definitions.opened? schema = some (.fixed type)) {content : Bytes}
    (size : content.length = type.size) :
    ReadsBack definitions writing reading schema (fixed type.size content) := by
  intro payload hpayload available havailable rest
  have hfills : Fills definitions true schema (fixed type.size content) :=
    .fixed opened fun _ => rfl
  obtain ⟨own, left, -, -, hdecode⟩ :=
    decode_opened hdefinitions hreading opened hfills havailable
  rw [encode_opened hwriting opened, encodeDefinition.eq_def] at hpayload
  obtain rfl := Option.some.inj hpayload
  rw [hdecode, decodeDefinition, ← size, Bytes.takeExactly?_append]
  rfl

/-! ### Records -/

/-- A name that no field has has no last value. -/
theorem lastOf_eq_none {name : String} {contents : List (String × Value)}
    (h : name ∉ contents.map (·.1)) : lastOf name contents = none := by
  induction contents with
  | nil => rfl
  | cons entry rest ih =>
      obtain ⟨key, v⟩ := entry
      rw [List.map_cons, List.mem_cons, not_or] at h
      rw [lastOf, ih h.2, if_neg (Ne.symm h.1), Option.or_none]

/-- Of different keys each has the value beside it. -/
theorem lastOf_of_mem {contents : List (String × Value)} (hdistinct : (contents.map (·.1)).Nodup) :
    ∀ entry ∈ contents, lastOf entry.1 contents = some entry.2 := by
  induction contents with
  | nil => exact fun _ hmem => absurd hmem List.not_mem_nil
  | cons first rest ih =>
      obtain ⟨key, v⟩ := first
      rw [List.map_cons, List.nodup_cons] at hdistinct
      refine List.forall_mem_cons.2 ⟨?_, fun entry hentry => ?_⟩
      · rw [lastOf, lastOf_eq_none hdistinct.1, if_pos rfl, Option.none_or]
      · rw [lastOf, ih hdistinct.2 entry hentry, Option.some_or]

/-- A field has the value under its own name. -/
theorem valueOf_of_lastOf {label : FieldLabel} {contents : List (String × Value)} {v : Value}
    (h : lastOf label.name contents = some v) : valueOf label contents = some v := by
  rw [valueOf, List.findSome?_cons, h]

/-- The fields of a record are read back when the value of each of them is, and is the one that was
written for it. -/
theorem decodeFields_encodeFields {all contents : List (String × Value)} {fields : List Field}
    (names : contents.map (·.1) = fields.map Field.name)
    (hvalues : ∀ part ∈ fields.zip contents, valueOf part.1.label all = some part.2.2)
    (each : ∀ part ∈ fields.zip contents,
      ReadsBack definitions writing reading part.1.type part.2.2)
    {available : List Name} (havailable : ∀ field ∈ fields, ∀ name,
      definitions.Enters field.type name → name ∈ available)
    {payload : Bytes} (hencode : encodeFields definitions writing all fields = some payload)
    (rest : Bytes) :
    decodeFields definitions available reading fields (payload ++ rest) =
      some (sortedEntries contents, rest) := by
  induction fields generalizing contents payload with
  | nil =>
      obtain rfl := List.map_eq_nil_iff.1 names
      rw [encodeFields] at hencode
      obtain rfl := Option.some.inj hencode
      rw [decodeFields]
      rfl
  | cons field others ih =>
      obtain ⟨label, type⟩ := field
      cases contents with
      | nil => contradiction
      | cons entry more =>
          obtain ⟨key, v⟩ := entry
          obtain ⟨hkey, hnames⟩ := List.cons.inj names
          have hkey : key = label.name := hkey
          rw [List.zip_cons_cons] at hvalues each
          obtain ⟨hvalue, hmorevalues⟩ := List.forall_mem_cons.1 hvalues
          obtain ⟨hv, hmore⟩ := List.forall_mem_cons.1 each
          obtain ⟨hown, hothers⟩ := List.forall_mem_cons.1 havailable
          have hvalue : valueOf label all = some v := hvalue
          have hv : ReadsBack definitions writing reading type v := hv
          rw [encodeFields, hvalue] at hencode
          dsimp only at hencode
          split at hencode
          · next first hfirst =>
              obtain ⟨second, hsecond, rfl⟩ := Option.map_eq_some_iff.1 hencode
              rw [List.append_assoc, decodeFields, hv first hfirst available hown]
              simp only [List.length_append]
              rw [if_pos (by omega), ih hnames hmorevalues hmore hothers hsecond, hkey]
              rfl
          · contradiction

/-- A record is read back when its fields are, in every place where they are regular. -/
theorem readsBack_record (hdefinitions : definitions.AreRegular) {schema : Schema}
    (hwriting : schema.Every Schema.Regular writing)
    (hreading : schema.Every Schema.Regular reading) {label : Label} {fields : List Field}
    (opened : definitions.opened? schema = some (.record label fields))
    {contents : List (String × Value)} (names : contents.map (·.1) = fields.map Field.name)
    {sized : Bool} (hfills : Fills definitions sized schema (record contents))
    (each : ∀ part ∈ fields.zip contents, ∀ writing reading,
      part.1.type.Every Schema.Regular writing → part.1.type.Every Schema.Regular reading →
      ReadsBack definitions writing reading part.1.type part.2.2) :
    ReadsBack definitions writing reading schema (record contents) := by
  intro payload hpayload available havailable rest
  obtain ⟨-, hdistinct, -, hwritten⟩ := hdefinitions.opened? hwriting opened
  obtain ⟨own, left, ⟨-, -, hread⟩, hleft, hdecode⟩ :=
    decode_opened hdefinitions hreading opened hfills havailable
  rw [← names] at hdistinct
  have hvalues : ∀ part ∈ fields.zip contents, valueOf part.1.label contents = some part.2.2 := by
    intro part hpart
    have hlast := lastOf_of_mem hdistinct part.2 (List.of_mem_zip hpart).2
    rw [name_of_mem_zip names part hpart] at hlast
    exact valueOf_of_lastOf hlast
  have heach : ∀ part ∈ fields.zip contents,
      ReadsBack definitions (label.name.within writing).space (label.name.within own).space
        part.1.type part.2.2 := by
    intro part hpart
    have hfield := (List.of_mem_zip hpart).1
    exact each part hpart _ _ (everyField_iff.1 hwritten part.1 hfield)
      (everyField_iff.1 hread part.1 hfield)
  rw [encode_opened hwriting opened, encodeDefinition] at hpayload
  rw [hdecode, decodeDefinition,
    decodeFields_encodeFields names hvalues heach (hleft label fields rfl) hpayload,
    Option.map_some, sorted]

end Value

/-! ### All schemas -/

/-- What fills a regular schema is read back, by induction over its parts. -/
theorem Fills.readsBack {definitions : Definitions} (hdefinitions : definitions.AreRegular)
    {schema : Schema} {v : Value} (h : Fills definitions true schema v)
    {writing reading : Option String} (hwriting : schema.Every Schema.Regular writing)
    (hreading : schema.Every Schema.Regular reading) (hlegible : v.Legible) (hwhole : v.IsWhole) :
    v.ReadsBack definitions writing reading schema := by
  induction h generalizing writing reading with
  | null => exact Value.readsBack_null
  | boolean b => exact Value.readsBack_boolean b
  | int i => exact Value.readsBack_int i
  | long i => exact Value.readsBack_long i
  | float bits => exact Value.readsBack_float bits
  | double bits => exact Value.readsBack_double bits
  | bytes content => exact Value.readsBack_bytes hlegible
  | string text => exact Value.readsBack_string hlegible
  | array each ih =>
      obtain ⟨hlength, hitems⟩ := hlegible
      rw [Value.legibleItems_iff] at hitems
      have hwhole := Value.areWhole_iff.1 hwhole
      exact Value.readsBack_array hlength
        (fun v hv => ih v hv hwriting.2 hreading.2 (hitems v hv) (hwhole v hv))
        fun v hv _ => (each v hv).mem_allNames
  | map each ih =>
      obtain ⟨hlength, hentries⟩ := hlegible
      rw [Value.legibleEntries_iff] at hentries
      have hwhole := Value.wholeEntries_iff.1 hwhole
      exact Value.readsBack_map hlength (fun entry hentry => (hentries entry hentry).1)
        (fun entry hentry =>
          ih entry hentry hwriting.2 hreading.2 (hentries entry hentry).2 (hwhole entry hentry))
        fun entry hentry _ => (each entry hentry).mem_allNames
  | union found inner ih =>
      obtain ⟨hindex, hcontent⟩ := hlegible
      have hmem := List.mem_of_getElem? found
      exact Value.readsBack_union found hindex
        (ih (everyVariant_iff.1 hwriting.2 _ hmem) (everyVariant_iff.1 hreading.2 _ hmem) hcontent
          hwhole)
        fun _ => inner.mem_allNames
  | @record schema label fields contents opened names each ih =>
      have hfields : Value.LegibleFields contents := hlegible
      rw [Value.legibleFields_iff] at hfields
      have hwhole := Value.wholeEntries_iff.1 hwhole
      refine Value.readsBack_record hdefinitions hwriting hreading opened names
        (.record opened names each) fun part hpart _ _ hwritten hread => ?_
      have hpartof := (List.of_mem_zip hpart).2
      exact ih part hpart hwritten hread (hfields part.2 hpartof) (hwhole part.2 hpartof)
  | enum opened found =>
      exact Value.readsBack_enum hdefinitions hwriting hreading opened found hlegible
  | fixed opened size =>
      obtain rfl := size rfl
      exact Value.readsBack_fixed hdefinitions hwriting hreading opened hwhole

namespace Schema

/-- A regular schema is regular under its own namespace. -/
theorem Every.own {schema : Schema} (h : schema.Every Regular none) :
    schema.Every Regular schema.space? := by
  cases schema with
  | named definition =>
      obtain ⟨⟨hplain, -, hdistinct, haliased⟩, hinner⟩ := h
      refine ⟨⟨hplain, trivial, hdistinct, haliased⟩, ?_⟩
      cases definition with
      | record label fields =>
          have hspace : (label.name.within none).space =
              (label.name.within label.name.space).space := by simp [Name.within]
          rw [Definition.Every, hspace] at hinner
          exact hinner
      | enum label symbols fallback => trivial
      | fixed type => trivial
  | reference name => exact ⟨trivial, Name.within_eq_self_iff.2 id, trivial, trivial⟩
  | _ => exact h

/-- What is written fits, and has the bytes of its schema. -/
theorem encode?_eq_ok {schema : Schema} {definitions : Definitions}
    (hof : Definitions.ofSchema? schema = some definitions) {v : Value} {payload : Bytes}
    (h : schema.encode? v = .ok payload) :
    v.fits? definitions schema.space? schema = some true ∧
      v.encode definitions none schema = some payload := by
  rw [encode?, hof] at h
  dsimp only at h
  split at h
  · next hfits => exact ⟨hfits, Checked.ofOption_eq_ok_iff.1 h⟩
  · contradiction
  · contradiction

/-- A value that was resolved against a regular schema is read back when it could be written, is
within the limits of the reader and has no fixed values with more or fewer bytes than their size
says. -/
theorem decode?_encode? {schema : Schema} (hschema : schema.Every Regular none) {v resolved : Value}
    (hresolve : schema.resolve? v = .ok resolved) {payload : Bytes}
    (hencode : schema.encode? resolved = .ok payload) (hlegible : resolved.Legible)
    (hwhole : resolved.IsWhole) : schema.decode? payload = some resolved.sorted := by
  rw [resolve?] at hresolve
  rw [decode?]
  cases hof : Definitions.ofSchema? schema with
  | none =>
      rw [hof] at hresolve
      contradiction
  | some definitions =>
      simp only [hof] at hresolve ⊢
      obtain ⟨hfits, hencode⟩ := encode?_eq_ok hof hencode
      have hdefinitions := Definitions.ofSchema?_regular hof hschema
      have hfills : Fills definitions true schema resolved :=
        (Value.resolve_fills hdefinitions _ _ v schema hschema.own hresolve).sized hdefinitions
          hschema.own hfits
      have hread := hfills.readsBack hdefinitions hschema hschema hlegible hwhole payload hencode
        (Value.allNames definitions) (fun _ => hfills.mem_allNames) []
      rw [List.append_nil] at hread
      rw [hread, Option.map_some]

end Schema

end FramedAvro.Avro
