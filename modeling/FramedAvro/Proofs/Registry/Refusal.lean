import FramedAvro.Proofs.Json.Canonical
import FramedAvro.Proofs.Json.Depth
import FramedAvro.Proofs.Registry.Registration

/-!
# Registrations that are refused

A registration reads its text twice, asks for an id between its checks and its writes, and fills
three tables one after the other. That it changes all of them or none is a matter of the order of
these steps: everything that can fail comes before the first write. `Memory.register` has the writes
in one step, so the steps are spelled out beside it (`Registration.stepwise`), each with the tables
that the one before it left.

A text is refused when it is no JSON, and also when the reader cannot take it: arrays and objects
may stand too deep inside each other, and an object may be taken for a number that it does not
spell. Anything else is refused by the state of the tables. When the text is read again, it was read
before, so this does not fail.

## Main definitions

* `Memory.storing`, `Registration.stepwise`: the steps of a registration.
* `Registration.Atomic`: when a registration is refused, and what it leaves behind.

## Main results

* `Registration.perform_atomic`: in every state a registration does all it has to or nothing.
* `Registration.perform_refused_json`: JSON that is refused.
-/

namespace FramedAvro

namespace Memory

/-! ### Step by step -/

/-- Stores a text whose canonical text is known, which reads the text again and fills the tables one
after the other. -/
def storing (coordinate : Coordinate) (schema canonical : String) : Action Memory UInt32 := do
  let memory ← get
  match memory.contents.get? canonical with
  | some id =>
    if (memory.versions coordinate).any (·.id == id) then return id
    else
      modify fun memory => memory.addVersion coordinate id schema
      return id
  | none =>
    let content ← Action.ofExcept (schemaJson schema)
    let id ← Action.ofExcept memory.nextId
    modify fun memory => { memory with documents := memory.documents.insert id content }
    modify fun memory => { memory with contents := memory.contents.insert canonical id }
    modify fun memory => memory.addVersion coordinate id schema
    return id

/-- The steps store what is stored at once, and nothing when that fails. -/
theorem perform_storing {schema : String} {content : Json} (h : schemaJson schema = .ok content)
    (coordinate : Coordinate) (memory : Memory) :
    (storing coordinate schema content.text).perform memory =
      (Action.update fun memory => memory.store coordinate schema content).perform memory := by
  rw [storing, Action.perform_bind, Action.perform_get, Action.perform_update]
  cases hknown : memory.contents.get? content.text with
  | some id =>
      by_cases hthere : (memory.versions coordinate).any (·.id == id) = true
      · simp only [store, hknown, if_pos hthere]
        rfl
      · simp only [store, hknown, if_neg hthere]
        rfl
  | none =>
      simp only [store, hknown, h, Action.perform_bind, Action.perform_ofExcept]
      cases memory.nextId <;> rfl

end Memory

namespace Registration

/-- The steps of a call: the text is read, the artifact looked for if there has to be one, and the
content stored. -/
def stepwise : Registration → Action Memory UInt32
  | register coordinate schema _ => do
    let canonical ← Action.ofExcept (canonicalText schema)
    Memory.storing coordinate schema canonical
  | registerVersion coordinate schema => do
    let canonical ← Action.ofExcept (canonicalText schema)
    let memory ← get
    if memory.artifacts.contains coordinate then Memory.storing coordinate schema canonical
    else Action.fail (Memory.noArtifact coordinate)

/-- A call is its steps. -/
theorem perform_stepwise (call : Registration) (memory : Memory) :
    call.stepwise.perform memory = call.action.perform memory := by
  cases hcontent : schemaJson call.schema with
  | error failure =>
      obtain rfl := eq_notJson hcontent
      have hcanonical := canonicalText_of_error hcontent
      rw [perform_of_notJson hcontent]
      cases call <;> (simp only [stepwise, schema] at hcanonical ⊢; rw [hcanonical]; rfl)
  | ok content =>
      have hcanonical := canonicalText_of_schemaJson hcontent
      cases call with
      | register coordinate schema type =>
          simp only [Registration.schema] at hcontent hcanonical
          rw [perform_register hcontent, stepwise, hcanonical, Action.perform_bind]
          exact Memory.perform_storing hcontent coordinate memory
      | registerVersion coordinate schema =>
          simp only [Registration.schema] at hcontent hcanonical
          rw [perform_registerVersion hcontent, stepwise, hcanonical, Action.perform_bind]
          simp only [Action.perform_ofExcept, Outcome.ofExcept_ok, Action.perform_bind,
            Action.perform_get]
          split
          · exact Memory.perform_storing hcontent coordinate memory
          · rfl

/-- A text that has a canonical text is read again without a failure, so storing it can only lack an
id. -/
theorem eq_noIdLeft_of_perform_storing {schema canonical : String}
    (h : canonicalText schema = .ok canonical) {coordinate : Coordinate} {memory : Memory}
    {stop : Stop}
    (hstop : ((Memory.storing coordinate schema canonical).perform memory).1 = .error stop) :
    stop = .failed Memory.noIdLeft := by
  obtain ⟨content, hcontent, rfl⟩ := exists_schemaJson_of_canonicalText h
  rw [Memory.perform_storing hcontent, Action.perform_update] at hstop
  cases hstore : memory.store coordinate schema content with
  | ok stored =>
      rw [hstore] at hstop
      contradiction
  | error own =>
      rw [hstore] at hstop
      obtain rfl := Except.error.inj hstop
      rw [Memory.eq_noIdLeft (Memory.store_eq_error_iff.1 hstore).2]

/-! ### When a call is refused -/

/-- A text has no JSON value when it is no JSON, or too deep, or has in it what is taken for a
number and spells none. -/
theorem schemaJson_eq_error_iff {schema : String} :
    schemaJson schema = .error (notJson schema) ↔
      ¬∃ j, Json.Reads schema j ∧ j.depth ≤ Json.maxDepth ∧ j.Spelled := by
  rw [← Json.exists_parseSorted?_iff, schemaJson]
  cases Json.parseSorted? schema <;> simp

/-- The tables do not take content with the given canonical text: there is no artifact where there
has to be one, or the content is new and the greatest id is in use. -/
def Blocked (call : Registration) (memory : Memory) (canonical : String) : Prop :=
  call.makesArtifact = false ∧ memory.artifacts.contains call.coordinate = false ∨
    memory.contents.get? canonical = none ∧
      ∃ document, memory.documents.get? Memory.lastId = some document

namespace Performs

variable {call : Registration} {memory after : Memory} {stop : Stop}

/-- A call that fails leaves the tables as they are. -/
theorem eq_of_error (h : call.Performs memory (.error stop) after) : after = memory := by
  cases h <;> rfl

/-- A call fails because of its text or because of the tables. -/
theorem error_cases (h : call.Performs memory (.error stop) after) :
    stop = .failed (FramedAvro.notJson call.schema) ∧
        schemaJson call.schema = .error (FramedAvro.notJson call.schema) ∨
      (stop = .failed (Memory.noArtifact call.coordinate) ∨ stop = .failed Memory.noIdLeft) ∧
        ∃ canonical, canonicalText call.schema = .ok canonical ∧
          call.Blocked memory canonical := by
  cases h with
  | notJson hcontent => exact .inl ⟨rfl, hcontent⟩
  | noArtifact hcontent version missing =>
      exact .inr ⟨.inl rfl, _, canonicalText_of_schemaJson hcontent, .inl ⟨version, missing⟩⟩
  | noIdLeft hcontent unknown full =>
      exact .inr ⟨.inr rfl, _, canonicalText_of_schemaJson hcontent,
        .inr ⟨unknown, Memory.nextId_eq_error_iff.1 full⟩⟩

/-- The tables are not in the way of a call that succeeds. -/
theorem not_blocked {id : UInt32} (h : call.Performs memory (.ok id) after) {canonical : String}
    (hcanonical : canonicalText call.schema = .ok canonical) : ¬call.Blocked memory canonical := by
  cases h with
  | stored hcontent reached stores =>
      obtain rfl := Except.ok.inj ((canonicalText_of_schemaJson hcontent).symm.trans hcanonical)
      rintro (⟨version, missing⟩ | ⟨unknown, used⟩)
      · simp [version, missing] at reached
      · have full := Memory.nextId_eq_error_iff.2 used
        cases stores with
        | present known there => simp [unknown] at known
        | linked known missing => simp [unknown] at known
        | fresh _ next => simp [full] at next

/-- Content that is new takes an id that no document has. -/
theorem get?_of_unknown {id : UInt32} (h : call.Performs memory (.ok id) after)
    {canonical : String} (hcanonical : canonicalText call.schema = .ok canonical)
    (hunknown : memory.contents.get? canonical = none) : memory.documents.get? id = none := by
  cases h with
  | stored hcontent reached stores =>
      obtain rfl := Except.ok.inj ((canonicalText_of_schemaJson hcontent).symm.trans hcanonical)
      cases stores with
      | present known there => simp [hunknown] at known
      | linked known missing => simp [hunknown] at known
      | fresh _ next => exact Memory.get?_nextId next

end Performs

/-! ### All or nothing -/

/-- What a call does to the tables, whatever they are. -/
structure Atomic (call : Registration) (memory : Memory) : Prop where
  /-- The call does what its steps do one after the other. -/
  steps : call.stepwise.perform memory = call.action.perform memory
  /-- A call that fails leaves all tables as they are. -/
  unchanged : ∀ stop, (call.action.perform memory).1 = .error stop →
    (call.action.perform memory).2 = memory
  /-- A call that does not succeed fails, in three ways, which are of two kinds. -/
  fails : ∀ stop, (call.action.perform memory).1 = .error stop →
    ∃ failure, stop = .failed failure ∧
      (failure = notJson call.schema ∧ failure.kind = .invalidSchema ∨
        (failure = Memory.noArtifact call.coordinate ∨ failure = Memory.noIdLeft) ∧
          failure.kind = .registry)
  /-- The text is to blame exactly when it is no JSON that the reader takes. -/
  invalid :
    (∃ failure, (call.action.perform memory).1 = .error (.failed failure) ∧
        failure.kind = .invalidSchema) ↔
      ¬∃ j, Json.Reads call.schema j ∧ j.depth ≤ Json.maxDepth ∧ j.Spelled
  /-- The registry is to blame exactly when its tables do not take the content. -/
  blocked :
    (∃ failure, (call.action.perform memory).1 = .error (.failed failure) ∧
        failure.kind = .registry) ↔
      ∃ canonical, canonicalText call.schema = .ok canonical ∧ call.Blocked memory canonical
  /-- Reading the text for the second time does not fail, whatever the tables are by then. -/
  reread : ∀ canonical, canonicalText call.schema = .ok canonical →
    ∀ (coordinate : Coordinate) (state : Memory) (stop : Stop),
      ((Memory.storing coordinate call.schema canonical).perform state).1 = .error stop →
        stop = .failed Memory.noIdLeft
  /-- New content gets an id that was not in use. -/
  fresh : ∀ canonical id, canonicalText call.schema = .ok canonical →
    memory.contents.get? canonical = none → (call.action.perform memory).1 = .ok id →
      memory.documents.get? id = none
  /-- No document is overwritten. -/
  kept : Memory.Grows memory (call.action.perform memory).2

/-- A registration does all it has to or nothing, for any tables. -/
theorem perform_atomic (call : Registration) (memory : Memory) : call.Atomic memory := by
  have hperforms := call.performs memory
  have hkept := call.grows memory
  -- What is left is about the answer and the tables after it, whatever call they came from.
  refine ⟨call.perform_stepwise memory, ?unchanged, ?fails, ?invalid, ?blocked,
    fun _ hcanonical _ _ _ => eq_noIdLeft_of_perform_storing hcanonical, ?fresh, hkept⟩ <;>
    generalize (call.action.perform memory).1 = answer at hperforms ⊢ <;>
    generalize (call.action.perform memory).2 = after at hperforms ⊢
  case unchanged =>
    rintro stop rfl
    exact hperforms.eq_of_error
  case fails =>
    rintro stop rfl
    rcases hperforms.error_cases with ⟨rfl, -⟩ | ⟨rfl | rfl, -⟩
    · exact ⟨_, rfl, .inl ⟨rfl, rfl⟩⟩
    · exact ⟨_, rfl, .inr ⟨.inl rfl, rfl⟩⟩
    · exact ⟨_, rfl, .inr ⟨.inr rfl, rfl⟩⟩
  case invalid =>
    rw [← schemaJson_eq_error_iff]
    constructor
    · rintro ⟨failure, rfl, hkind⟩
      rcases hperforms.error_cases with ⟨-, hcontent⟩ | ⟨hfailure | hfailure, -⟩
      · exact hcontent
      · obtain rfl := Stop.failed.inj hfailure
        contradiction
      · obtain rfl := Stop.failed.inj hfailure
        contradiction
    · intro hcontent
      cases hperforms with
      | notJson _ => exact ⟨_, rfl, rfl⟩
      | noArtifact hown _ _ | noIdLeft hown _ _ | stored hown _ _ =>
          rw [hcontent] at hown
          contradiction
  case blocked =>
    constructor
    · rintro ⟨failure, rfl, hkind⟩
      rcases hperforms.error_cases with ⟨hfailure, -⟩ | ⟨-, hblocked⟩
      · obtain rfl := Stop.failed.inj hfailure
        contradiction
      · exact hblocked
    · rintro ⟨canonical, hcanonical, hblocked⟩
      cases answer with
      | ok id => exact absurd hblocked (hperforms.not_blocked hcanonical)
      | error stop =>
          rcases hperforms.error_cases with ⟨-, hcontent⟩ | ⟨rfl | rfl, -⟩
          · rw [canonicalText_of_error hcontent] at hcanonical
            contradiction
          · exact ⟨_, rfl, rfl⟩
          · exact ⟨_, rfl, rfl⟩
  case fresh =>
    rintro canonical id hcanonical hunknown rfl
    exact hperforms.get?_of_unknown hcanonical hunknown

/-! ### JSON that is refused -/

/-- JSON that is too deep is refused everywhere. -/
theorem perform_of_maxDepth_lt {j : Json} (h : Json.maxDepth < j.depth) (coordinate : Coordinate)
    (type : ArtifactType) (memory : Memory) :
    (register coordinate j.text type).action.perform memory =
      (.error (.failed (notJson j.text)), memory) := by
  refine perform_of_notJson ?_ memory
  rw [schema, schemaJson, Json.parseSorted?, Json.parse?_text_eq_none h]
  rfl

/-- Arrays inside each other. -/
def nested : Nat → Json
  | 0 => .null
  | depth + 1 => .array [nested depth]

/-- Arrays in each other are nested as deep as they are many. -/
theorem depth_nested (depth : Nat) : (nested depth).depth = depth := by
  induction depth with
  | zero => rfl
  | succ depth ih =>
      have hitems : (nested (depth + 1)).depth = max (nested depth).depth 0 + 1 := rfl
      rw [hitems, ih, Nat.max_zero]

/-- A text that is JSON is refused as if it was none when 128 arrays stand inside each other, and
when an object starts with the key of numbers and has another member. -/
theorem perform_refused_json :
    (∃ j failure, Json.Reads (nested 128).text j ∧
      ((register ⟨"shop", "order"⟩ (nested 128).text .avro).action.perform .empty).1 =
        .error (.failed failure) ∧ failure.kind = .invalidSchema) ∧
    ∃ j failure, Json.Reads "\x7b\"$serde_json::private::Number\":\"1\",\"z\":1\x7d" j ∧
      ((register ⟨"shop", "order"⟩ "\x7b\"$serde_json::private::Number\":\"1\",\"z\":1\x7d"
        .avro).action.perform .empty).1 = .error (.failed failure) ∧
          failure.kind = .invalidSchema := by
  constructor
  · have hdepth : Json.maxDepth < (nested 128).depth := by
      rw [depth_nested, Json.maxDepth]
      decide
    exact ⟨_, _, Json.reads_text _,
      congrArg Prod.fst (perform_of_maxDepth_lt hdepth _ _ .empty), rfl⟩
  · have hparse : Json.parse? "\x7b\"$serde_json::private::Number\":\"1\",\"z\":1\x7d" =
        some (.object [(Json.numberKey, .string "1"), ("z", .number (.ofInt 1))]) := by cbv
    exact ⟨_, _, (Json.parse?_eq_some_iff.1 hparse).1, by cbv, rfl⟩

end Registration

end FramedAvro
