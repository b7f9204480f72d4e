import FramedAvro.Registry.Basic

/-!
# Observed registries

A registry around another one that notes which questions it is asked, and that can be told to answer
some of them itself. It shows what a serializer asks for, and how it takes answers that the registry
would not give.

## Main definitions

* `Call`: a question.
* `Observed`: the state of the registry around a registry.
* `Registry.observed`: the registry around a registry.
-/

namespace FramedAvro

/-- A question to a registry. -/
inductive Call where
  | fetchById (id : UInt32)
  | fetchLatest (coordinate : Coordinate)
  | findByContent (group : Option String)
  | findByFingerprint (group : Option String)
deriving DecidableEq, Repr

namespace Call

/-- The text of a group filter. -/
def describeGroup : Option String → String
  | some group => "group=" ++ group
  | none => "-"

/-- The text of a question. -/
def describe : Call → String
  | fetchById id => "fetch_by_id " ++ toString id
  | fetchLatest coordinate => "fetch_latest " ++ coordinate.describe
  | findByContent group => "find_by_content " ++ describeGroup group
  | findByFingerprint group => "find_by_fingerprint " ++ describeGroup group

end Call

/-- The answers that are given instead of asking the registry. -/
structure Preset where
  fetchById : Option (Except Failure Document)
  fetchLatest : Option (Except Failure (UInt32 × Document))
  findByContent : Option (Except Failure (Option Coordinate))
  findByFingerprint : Option (Except Failure (Option Coordinate))

/-- No answers. -/
def Preset.none : Preset := ⟨.none, .none, .none, .none⟩

/-- The state of a registry, the questions that were asked so far, and the preset answers. -/
structure Observed (σ : Type) where
  inner : σ
  calls : List Call
  preset : Preset

namespace Observed

variable {σ α : Type}

/-- A registry that was asked nothing yet. -/
def start (inner : σ) : Observed σ :=
  ⟨inner, [], .none⟩

/-- An action of the registry inside. -/
def lift (action : Action σ α) : Action (Observed σ) α :=
  action.onPart inner fun part observed => { observed with inner := part }

/-- Notes a question, and answers it as preset or else by the action. -/
def ask (call : Call) (preset : Preset → Option (Except Failure α)) (action : Action σ α) :
    Action (Observed σ) α := do
  let observed ← get
  set { observed with calls := observed.calls ++ [call] }
  match preset observed.preset with
  | some result => Action.ofExcept result
  | none => lift action

end Observed

/-- The registry around a registry. -/
def Registry.observed {σ : Type} (registry : Registry σ) : Registry (Observed σ) where
  fetchById id := Observed.ask (.fetchById id) Preset.fetchById (registry.fetchById id)
  fetchLatest coordinate :=
    Observed.ask (.fetchLatest coordinate) Preset.fetchLatest (registry.fetchLatest coordinate)
  findByContent schema group :=
    Observed.ask (.findByContent group) Preset.findByContent (registry.findByContent schema group)
  findByFingerprint schema group :=
    Observed.ask (.findByFingerprint group) Preset.findByFingerprint
      (registry.findByFingerprint schema group)
  register coordinate schema type := Observed.lift (registry.register coordinate schema type)
  checkExists coordinate := Observed.lift (registry.checkExists coordinate)

end FramedAvro
