import TxDraft.Action.Step
import TxDraft.Failure

/-!
# Builders

A builder stages the parts of a transaction and completes it.  Nothing is assumed of a builder but
that it can be asked for operations by name and that they can be called; what a look and a call do
to the world they are made in is a function of that world.  So a call may change what the builder
exposes, and a look may fail.  A call may give back another builder to go on with, or a value that
exposes nothing at all.
-/

namespace TxDraft

/-- What a builder is asked to do. -/
inductive Operation where
  | step (s : Step)
  | complete

namespace Operation

/-- The capability that an operation needs. -/
def capability : Operation → Capability
  | step s => s.capability
  | complete => .complete

def arguments : Operation → List Argument
  | step s => s.arguments
  | complete => []

end Operation

/-- What a call gives back. -/
inductive Outcome (η : Type) where
  /-- Nothing: the same builder goes on. -/
  | nothing
  /-- Another builder. -/
  | handle (h : η)
  /-- A value of a document. -/
  | value (v : Json)
  /-- Bytes. -/
  | bytes (b : Bytes)
  /-- The call failed. -/
  | failed (f : Failure)

/-- Builders with handles of type `η` in a world of type `ω`. -/
structure Builder (η ω : Type) where
  /-- Does the builder behind a handle expose an operation with this name now? -/
  exposes : η → String → Work ω Bool
  /-- Calls an operation by its name. -/
  call : η → String → Operation → StateM ω (Outcome η)

namespace Builder

variable {η ω : Type}

/-- The first of some names that a handle exposes; the names behind it are not looked up. -/
def firstExposed (b : Builder η ω) (h : η) : List String → Work ω (Option String)
  | [] => return none
  | name :: rest => do
    if ← b.exposes h name then return some name
    else firstExposed b h rest

/-- The first of some names that the current builder exposes; a value that is no builder exposes
nothing. -/
def find? (b : Builder η ω) (current : Option η) (names : List String) :
    Work ω (Option (η × String)) :=
  match current with
  | none => return none
  | some h => do return (← b.firstExposed h names).map fun name => (h, name)

/-- The first operation that the current builder exposes for a capability, asked for by name. -/
def resolve (b : Builder η ω) (current : Option η) (capability : String) (place : Place) :
    Work ω (η × String) := do
  match ← b.find? current (Capability.candidatesFor capability) with
  | some found => return found
  | none =>
    let named :=
      match place.action with
      | some action => if action = "" then capability else action
      | none => capability
    throw (.unsupported named (Capability.candidatesFor capability) { place with action := named })

/-- The builder that goes on after a call. -/
def next (current : Option η) : Outcome η → Option η
  | .handle h => some h
  | .nothing => current
  | _ => none

/-- The builder in a larger world that holds its own. -/
def within {δ : Type} (b : Builder η δ) (get : ω → δ) (put : δ → ω → ω) : Builder η ω where
  exposes h name := (b.exposes h name).within get put
  call h name operation := fun world =>
    let (outcome, inner) := (b.call h name operation).run (get world)
    (outcome, put inner world)

end Builder

end TxDraft
