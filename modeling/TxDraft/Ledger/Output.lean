import TxDraft.Ledger.Address
import TxDraft.Ledger.Assets
import TxDraft.Utxo

/-!
# Outputs of the ledger

Outputs and references to them.  An output with a datum in full is written as a map, any other one
as an array.  The least amount of lovelace of an output grows with its size; the size is that of the
written map, taken with a coin of a million where the output has none yet.
-/

namespace TxDraft

namespace Ledger

/-- Which output of which transaction. -/
structure OutputName where
  transaction : Bytes
  index : Int
  deriving DecidableEq

namespace OutputName

/-- The length of the hash of a transaction. -/
def hashLength : Nat := 32

/-- Reads a name from the text of a hash. -/
def ofText? (hash : String) (index : Int) : Option OutputName := do
  let transaction ← Hex.decode? hash
  if transaction.length = hashLength then return ⟨transaction, index⟩ else none

def cbor (n : OutputName) : Cbor :=
  .array [.bytes n.transaction, .int n.index]

def text (n : OutputName) : String :=
  s!"{Hex.encode n.transaction}#{n.index}"

/-- Does the first name come before the second, by transaction and then by position? -/
def precedes (a b : OutputName) : Bool :=
  a.transaction.precedes b.transaction || (a.transaction = b.transaction && a.index < b.index)

end OutputName

/-- What an output carries besides its amount. -/
inductive Datum where
  | none
  | hash (h : Bytes)
  | inline (data : Bytes)
  deriving DecidableEq

structure Output where
  address : Address
  amount : Amount
  datum : Datum
  deriving DecidableEq

namespace Output

/-- An output with nothing but an amount. -/
def plain (address : Address) (amount : Amount) : Output :=
  ⟨address, amount, .none⟩

/-- The datum of a map: one that is given in full. -/
def inlineItem (data : Bytes) : Cbor :=
  .array [.int 1, .tag 24 (.bytes data)]

/-- The output as it is written in a transaction. -/
def cbor (o : Output) : Cbor :=
  match o.datum with
  | .none => .array [.bytes o.address.bytes, o.amount.cbor]
  | .hash h => .array [.bytes o.address.bytes, o.amount.cbor, .bytes h]
  | .inline data =>
    .map [(.int 0, .bytes o.address.bytes), (.int 1, o.amount.cbor), (.int 2, inlineItem data)]

/-- The coin that stands for none when an output is measured. -/
def assumedCoin : Int := 1000000

/-- The bytes that the ledger counts for an output besides its own. -/
def overhead : Nat := 160

/-- The map by which a payment is measured, with its address and its amount. -/
def measured (address : Bytes) (amount : Amount) : Cbor :=
  let coin := if amount.coin = 0 then assumedCoin else amount.coin
  .map [(.int 0, .bytes address), (.int 1, { amount with coin }.cbor)]

/-- The least lovelace of a payment of an amount to an address of these bytes. -/
def leastCoinAt (coinsPerByte : Int) (address : Bytes) (amount : Amount) : Int :=
  ((overhead + (measured address amount).size : Nat) : Int) * coinsPerByte

/-- The least lovelace of a payment. -/
def leastCoin (coinsPerByte : Int) (address : Address) (amount : Amount) : Int :=
  leastCoinAt coinsPerByte address.bytes amount

end Output

/-- An output that can be spent, under its name. -/
structure Unspent where
  name : OutputName
  output : Output
  deriving DecidableEq

end Ledger

end TxDraft
