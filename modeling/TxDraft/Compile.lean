import TxDraft.Builder

/-!
# Compiling

A sequence of actions becomes an unsigned transaction: the steps of all actions are applied to a
builder in order, each by the first operation that the builder exposes for it, and the builder is
completed at the end.  The first failure ends the work; a failure of a step is attributed to its
action unless it already carries a place of its own.
-/

namespace TxDraft

/-- A transaction that nobody has signed yet. -/
structure UnsignedTransaction where
  /-- The transaction in hexadecimal text; a builder of another kind may give another value. -/
  content : Json
  /-- The operations that were applied, in order. -/
  operations : List String

namespace UnsignedTransaction

/-- The transaction as an answer. -/
def report (tx : UnsignedTransaction) : Json :=
  .obj [("success", .bool true), ("unsignedCbor", tx.content)]

end UnsignedTransaction

namespace Compile

variable {η ω : Type}

/-- A failure of a step, attributed to its action: a failure without a place gets one, a failure
that is not worded gets words, and all others keep what they say. -/
def locate (index : Int) (tag : String) : Failure → Failure
  | .compilation cause place =>
    .compilation cause (if place.index.isNone then ⟨some index, some tag⟩ else place)
  | .unsupported operation candidates place =>
    .unsupported operation candidates (if place.index.isNone then ⟨some index, some tag⟩ else place)
  | .unexpected why => .compilation (.stepFailed tag why) ⟨some index, some tag⟩
  | f => f

/-- A failure of completion: it belongs to no action. -/
def wordFinish : Failure → Failure
  | .unexpected why => .compilation (.finishFailed why) .unknown
  | f => f

/-- Applies one step; gives the builder that goes on and the name of the operation. -/
def applyStep (b : Builder η ω) (index : Int) (tag : String) (current : Option η) (step : Step) :
    Work ω (Option η × String) := do
  let (h, name) ← b.resolve current step.capability.name ⟨some index, some tag⟩
  match ← ExceptT.lift (b.call h name (.step step)) with
  | .failed f => throw (locate index tag f)
  | outcome => return (Builder.next current outcome, name)

/-- Applies steps in order; gives the builder that goes on and the names of the operations. -/
def applySteps (b : Builder η ω) (index : Int) (tag : String) :
    Option η → List Step → Work ω (Option η × List String)
  | current, [] => return (current, [])
  | current, step :: rest => do
    let (current, name) ← applyStep b index tag current step
    let (current, names) ← applySteps b index tag current rest
    return (current, name :: names)

/-- Applies the steps of actions in order, the first action at the given position. -/
def applyActions (b : Builder η ω) :
    Int → Option η → List Action → Work ω (Option η × List String)
  | _, current, [] => return (current, [])
  | index, current, action :: rest => do
    let (current, names) ← applySteps b index action.tag current action.steps
    let (current, more) ← applyActions b (index + 1) current rest
    return (current, names ++ more)

/-- The transaction in what completion gave back.  Something that counts as false is no
transaction, and something without a length cannot be measured. -/
def content : Outcome η → Attempt Json
  | .nothing => .error (.compilation .emptyTransaction .unknown)
  | .handle _ => .error (.unexpected .unsized)
  | .bytes [] => .error (.compilation .emptyTransaction .unknown)
  | .bytes b => .ok (.str (Hex.encode b))
  | .value v =>
    if !v.isTruthy then .error (.compilation .emptyTransaction .unknown)
    else
      match v with
      | .str _ | .arr _ | .obj _ => .ok v
      | _ => .error (.unexpected .unsized)
  | .failed f => .error (wordFinish f)

/-- Completes the builder; gives the transaction. -/
def finish (b : Builder η ω) (current : Option η) : Work ω Json := do
  let (h, name) ← b.resolve current Capability.complete.name .unknown
  ExceptT.mk ((b.call h name .complete).map content)

/-- Compiles actions with a builder. -/
def run (b : Builder η ω) (start : η) (actions : List Action) : Work ω UnsignedTransaction := do
  if actions.isEmpty then throw (.single "actions" "at least one action is required")
  let (current, operations) ← applyActions b 0 (some start) actions
  let content ← finish b current
  return ⟨content, operations⟩

end Compile

end TxDraft
