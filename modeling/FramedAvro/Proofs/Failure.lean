import Mathlib
import FramedAvro.Failure

/-!
# Wrapped failures

A boundary lets failures of its own kind and of the kinds that pass through as they are, and wraps
all others. So behind it there are only these kinds, and nobody takes for lasting what may pass.

Boundaries can lie one behind another. A second time the same boundary does nothing, but a chain may
still wrap a failure more than once: two boundaries of different kinds that take turns wrap it at
every turn, unless they let each other's kind pass. Which boundaries wrap depends on kinds alone,
and each puts its text around the text it finds. So however long the chain, the text of the first
failure is still in there.

## Main definitions

* `Boundary`: what `Failure.wrapUnless` is told.
* `Failure.crossAll`: a failure behind a chain of boundaries.
* `Boundary.wrappers`: the boundaries of a chain that wrap a failure.

## Main results

* `Failure.kind_wrapUnless`: the kinds there are behind a boundary.
* `Failure.retriable_wrapUnless`: a boundary keeps whether a failure may pass.
* `Failure.describe_crossAll`: the text of a failure behind a chain of boundaries.
* `Failure.crossAll_encloses`: what a chain keeps, and which of its boundaries change anything.
-/

namespace FramedAvro

namespace Failure

variable {failure : Failure} {kind : FailureKind} {pass : List FailureKind}

/-- What is of the kind of the boundary, or passes through it, is the same behind it. -/
theorem wrapUnless_of_mem (h : failure.kind ∈ kind :: pass) (message : String) :
    failure.wrapUnless kind pass message = failure := by
  rw [wrapUnless, if_pos (List.mem_cons.1 h)]

/-- Anything else is the cause of a failure of the boundary. -/
theorem wrapUnless_of_not_mem (h : failure.kind ∉ kind :: pass) (message : String) :
    failure.wrapUnless kind pass message =
      ⟨kind, message, some failure.describe, failure.retriable⟩ := by
  rw [wrapUnless, if_neg fun hmem => h (List.mem_cons.2 hmem)]

/-- A boundary gives a failure its own kind, or lets one of the kinds through that it passes. -/
theorem kind_wrapUnless (failure : Failure) (kind : FailureKind) (pass : List FailureKind)
    (message : String) : (failure.wrapUnless kind pass message).kind ∈ kind :: pass := by
  by_cases h : failure.kind ∈ kind :: pass
  · rwa [wrapUnless_of_mem h]
  · rw [wrapUnless_of_not_mem h]
    exact List.mem_cons_self

/-- A boundary leaves it open whether a failure may pass. -/
theorem retriable_wrapUnless (failure : Failure) (kind : FailureKind) (pass : List FailureKind)
    (message : String) : (failure.wrapUnless kind pass message).retriable = failure.retriable := by
  by_cases h : failure.kind ∈ kind :: pass
  · rw [wrapUnless_of_mem h]
  · rw [wrapUnless_of_not_mem h]

/-- A boundary changes every failure it wraps, for it gives it a kind that it did not have. -/
theorem wrapUnless_eq_self_iff {message : String} :
    failure.wrapUnless kind pass message = failure ↔ failure.kind ∈ kind :: pass := by
  constructor
  · intro hsame
    have hkind := failure.kind_wrapUnless kind pass message
    rwa [hsame] at hkind
  · intro h
    exact wrapUnless_of_mem h message

end Failure

/-! ### Chains of boundaries -/

/-- A boundary: the kind it gives to failures, the kinds that pass through it besides, and what it
says of the failures that do not. -/
structure Boundary where
  kind : FailureKind
  passThrough : List FailureKind
  message : String

namespace Boundary

/-- The kinds of failure that a boundary lets through as they are. -/
def kinds (boundary : Boundary) : List FailureKind :=
  boundary.kind :: boundary.passThrough

/-- The text of a failure of the boundary, given the text of its cause. -/
def enclose (retriable : Bool) (cause : String) (boundary : Boundary) : String :=
  Failure.describe ⟨boundary.kind, boundary.message, some cause, retriable⟩

/-- The boundaries of a chain at which a failure of a kind is wrapped. Each of them gives its own
kind to the failure, and the next ones go by that. -/
def wrappers (kind : FailureKind) : List Boundary → List Boundary
  | [] => []
  | boundary :: chain =>
    if kind ∈ boundary.kinds then wrappers kind chain
    else boundary :: wrappers boundary.kind chain

/-- The text of the cause is a part of the text. -/
theorem infix_enclose (retriable : Bool) (cause : String) (boundary : Boundary) :
    cause.toList <:+: (boundary.enclose retriable cause).toList := by
  simp only [enclose, Failure.describe, String.toList_append]
  exact (List.infix_append_right.trans List.infix_append_left).trans List.infix_append_left

/-- What was enclosed first is a part of what is enclosed last. -/
theorem infix_foldl_enclose (retriable : Bool) (chain : List Boundary) (text : String) :
    text.toList <:+: (chain.foldl (enclose retriable) text).toList := by
  induction chain generalizing text with
  | nil => exact List.infix_rfl
  | cons boundary chain ih => exact (boundary.infix_enclose retriable text).trans (ih _)

end Boundary

namespace Failure

/-- The failure as seen from outside a boundary. -/
def cross (failure : Failure) (boundary : Boundary) : Failure :=
  failure.wrapUnless boundary.kind boundary.passThrough boundary.message

/-- The failure as seen from outside a chain of boundaries, the innermost of which comes first. -/
def crossAll (failure : Failure) (chain : List Boundary) : Failure :=
  chain.foldl cross failure

/-- The boundaries of a chain are crossed one after the other, the inner ones first. -/
theorem crossAll_append (failure : Failure) (inner outer : List Boundary) :
    failure.crossAll (inner ++ outer) = (failure.crossAll inner).crossAll outer :=
  List.foldl_append

/-- What a boundary made of a failure is let through by the same boundary, whatever it says. -/
theorem cross_cross (failure : Failure) (boundary : Boundary) (message : String) :
    (failure.cross boundary).cross { boundary with message := message } =
      failure.cross boundary :=
  wrapUnless_of_mem (failure.kind_wrapUnless _ _ _) message

/-- No chain of boundaries changes whether a failure may pass. -/
theorem retriable_crossAll (failure : Failure) (chain : List Boundary) :
    (failure.crossAll chain).retriable = failure.retriable := by
  induction chain generalizing failure with
  | nil => rfl
  | cons boundary chain ih => exact (ih _).trans (failure.retriable_wrapUnless _ _ _)

/-- The text of a failure behind a chain is its own, enclosed by each boundary that wrapped it, the
innermost one first. -/
theorem describe_crossAll (failure : Failure) (chain : List Boundary) :
    (failure.crossAll chain).describe =
      (Boundary.wrappers failure.kind chain).foldl (Boundary.enclose failure.retriable)
        failure.describe := by
  induction chain generalizing failure with
  | nil => rfl
  | cons boundary chain ih =>
      have houter : (failure.crossAll (boundary :: chain)).describe =
          (Boundary.wrappers (failure.cross boundary).kind chain).foldl
            (Boundary.enclose (failure.cross boundary).retriable)
            (failure.cross boundary).describe := ih _
      rw [houter, Boundary.wrappers]
      by_cases h : failure.kind ∈ boundary.kinds
      · rw [if_pos h, cross, wrapUnless_of_mem h]
      · rw [if_neg h, cross, wrapUnless_of_not_mem h, List.foldl_cons, Boundary.enclose]

/-- Behind a chain of boundaries a failure may pass exactly if it could before, and its text is
there, enclosed once by each boundary that wrapped it and so a part of the text. A boundary that
lies directly behind itself does nothing, whatever it says there. And a boundary leaves the failure
that reaches it entirely as it is exactly if the failure is of its kind or of one that passes. -/
theorem crossAll_encloses (failure : Failure) :
    (∀ chain, (failure.crossAll chain).retriable = failure.retriable) ∧
      (∀ chain, (failure.crossAll chain).describe =
        (Boundary.wrappers failure.kind chain).foldl (Boundary.enclose failure.retriable)
          failure.describe) ∧
      (∀ chain, failure.describe.toList <:+: (failure.crossAll chain).describe.toList) ∧
      (∀ inner (boundary : Boundary) message outer,
        failure.crossAll (inner ++ boundary :: { boundary with message := message } :: outer) =
          failure.crossAll (inner ++ boundary :: outer)) ∧
      ∀ inner (boundary : Boundary),
        failure.crossAll (inner ++ [boundary]) = failure.crossAll inner ↔
          (failure.crossAll inner).kind = boundary.kind ∨
            (failure.crossAll inner).kind ∈ boundary.passThrough := by
  refine ⟨failure.retriable_crossAll, failure.describe_crossAll, fun chain => ?_,
    fun inner boundary message outer => ?_, fun inner boundary => ?_⟩
  · rw [describe_crossAll]
    exact Boundary.infix_foldl_enclose _ _ _
  · rw [crossAll_append, crossAll_append]
    exact congrArg (crossAll · outer) ((failure.crossAll inner).cross_cross boundary message)
  · rw [crossAll_append, ← List.mem_cons]
    exact wrapUnless_eq_self_iff

/-- The second reading boundary does nothing, and the writing one wraps again. -/
example :
    ((retriableRegistry "timeout" "call failed").crossAll
      [⟨.deserialization, [], "reading"⟩, ⟨.deserialization, [], "reading again"⟩,
        ⟨.serialization, [.schemaMatch], "writing"⟩]).describe =
      "Serialization error: writing, was caused by " ++
        "Deserialization error: reading, was caused by " ++
          "Registry error: call failed, was caused by timeout, it's retriable: true" ++
        ", it's retriable: true" ++
      ", it's retriable: true" := by
  cbv

end Failure

end FramedAvro
