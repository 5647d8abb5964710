import TxDraft.Action.Step
import TxDraft.Failure
import TxDraft.Ledger.Certificate
import TxDraft.Ledger.Output
import TxDraft.Ledger.Script

/-!
# What a draft holds

A draft is a transaction in the making, for one source address: everything that the steps have
staged so far, and what the draft remembers of the chain.
-/

namespace TxDraft

open Ledger

/-- An output that a transaction only reads: by its name alone, or with what it holds. -/
inductive ReferenceInput where
  | named (name : OutputName)
  | resolved (output : Unspent)
  deriving DecidableEq

namespace ReferenceInput

/-- The name of the output. -/
def name : ReferenceInput → OutputName
  | named n => n
  | resolved u => u.name

end ReferenceInput

/-- A transaction in the making. -/
structure Draft where
  /-- The address that pays, and that gets the change unless another one is set. -/
  source : Address
  outputs : List Output
  metadata : Entries Int Json
  validFrom : Option Int
  validTo : Option Int
  requiredSigners : List Bytes
  changeAddress : Option Address
  /-- What the fee is to exceed the estimate by, as the last policy says. -/
  feeBuffer : Option Int
  inputs : List Unspent
  collaterals : List Unspent
  referenceInputs : List ReferenceInput
  /-- What is minted, burned assets being negative. -/
  mint : Option Assets
  nativeScripts : List NativeScript
  /-- The Plutus script that redeemers take. -/
  plutusScript : Option PlutusScript
  /-- The redeemers for minting, each with its script. -/
  mintRedeemers : List (PlutusScript × Bytes)
  /-- The redeemers for outputs that are spent. -/
  spendRedeemers : Entries Unspent Bytes
  /-- The scripts for outputs that are spent. -/
  spendScripts : Entries Unspent PlutusScript
  certificates : List Certificate
  withdrawals : Entries Address Int
  /-- The fee, zero until it is reckoned. -/
  fee : Int
  /-- What the fee exceeds the estimate by. -/
  surcharge : Int
  /-- The outputs at the source that names are looked up in. -/
  snapshot : Option (List Unspent)
  /-- How often the chain was asked for the outputs at the source. -/
  questions : Nat

namespace Draft

/-- A draft with nothing in it. -/
def empty (source : Address) : Draft where
  source := source
  outputs := []
  metadata := []
  validFrom := none
  validTo := none
  requiredSigners := []
  changeAddress := none
  feeBuffer := none
  inputs := []
  collaterals := []
  referenceInputs := []
  mint := none
  nativeScripts := []
  plutusScript := none
  mintRedeemers := []
  spendRedeemers := []
  spendScripts := []
  certificates := []
  withdrawals := []
  fee := 0
  surcharge := 0
  snapshot := none
  questions := 0

end Draft

end TxDraft
