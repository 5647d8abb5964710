import TxDraft.Draft.Basic

/-!
# The chain as a draft sees it

The numbers by which the ledger reckons fees and deposits, the last slot, and the outputs at the
source address.  The chain moves on, so the outputs are given question by question.

A transaction with redeemers cannot be completed without running its scripts, and only the chain
can do that.  Nothing is assumed of how it does.
-/

namespace TxDraft

namespace Ledger

/-- The numbers by which the ledger reckons. -/
structure Parameters where
  /-- The fee of an empty transaction. -/
  feeConstant : Int
  /-- The fee of every byte. -/
  feePerByte : Int
  /-- The lovelace that an output must hold for every byte. -/
  coinsPerByte : Int
  /-- The most bytes of a transaction. -/
  maxSize : Int
  /-- The deposit for the registration of a stake credential. -/
  keyDeposit : Int
  deriving DecidableEq

/-- What a draft sees of the chain. -/
structure Chain where
  parameters : Parameters
  lastSlot : Int
  /-- The outputs at the source address, as the `n`-th question finds them. -/
  atSource : Nat → List Unspent
  /-- Completes the transaction of a draft with redeemers, and gives it. -/
  runScripts : Work Draft Bytes

end Ledger

end TxDraft
