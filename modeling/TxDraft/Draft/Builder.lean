import TxDraft.Builder
import TxDraft.Draft.Balance

/-!
# Drafts as builders

A draft exposes every capability by its own name, whatever was staged.  The handle of a draft is the
chain that it sees, and the world that it lives in is the draft itself.
-/

namespace TxDraft

open Ledger

namespace Draft

/-- What becomes of an operation. -/
def outcome (chain : Chain) : Operation → Work Draft (Outcome Chain)
  | .step s => do
    apply chain s
    return .nothing
  | .complete => return .value (.str (Hex.encode (← complete chain)))

/-- The builder of drafts. -/
def builder : Builder Chain Draft where
  exposes _ name := return (Capability.ofName? name).isSome
  call chain _ operation := do
    match ← (outcome chain operation).run with
    | .ok o => return o
    | .error f => return .failed f

end Draft

end TxDraft
