import TxDraft.Backend

/-!
# Looking up addresses

The unspent outputs at an address, and what they hold together, from whichever provider is usable.
Every record that the provider gives is read, and the first that cannot be read fails the lookup.
-/

namespace TxDraft

/-- What lies at an address. -/
structure AddressBalance where
  address : String
  lovelace : Int
  assets : Entries String Int
  /-- Who said so. -/
  provider : Option Provider
  deriving DecidableEq

namespace AddressBalance

/-- The balance as an answer. -/
def report (b : AddressBalance) : Json :=
  .obj [("success", .bool true), ("address", .str b.address),
    ("lovelace", .str (Quantity.print b.lovelace)), ("assets", Value.assetsJson b.assets),
    ("provider", .ofText? (b.provider.map Provider.name))]

end AddressBalance

namespace Lookup

variable {ω : Type} (backend : Backend ω)

/-- The provider to ask, by what is known already or is found out now. -/
def provider (known : Option Readiness) : Work ω Provider := do
  let readiness ← match known with
    | some r => pure r
    | none => backend.resolve
  .ofAttempt readiness.provider

/-- Reads a record of a provider.  A record of a wrong form is the provider's fault; a unit or a map
of assets of a wrong kind is reported as it is. -/
def readRecord (p : Provider) (record : Json) : Attempt Utxo :=
  (Utxo.ofRecord record).mapError fun fault =>
    if fault.message?.isSome then .provider (.unreadableRecord p fault)
    else .unexpected (.record fault)

/-- The records at an address, and the outputs that they describe. -/
def records (known : Option Readiness) (address : String) :
    Work ω (Provider × List Json × List Utxo) := do
  let p ← provider backend known
  let client ← backend.client p
  let records ← client.unspentAt address
  let utxos ← .ofAttempt (records.mapM (readRecord p))
  return (p, records, utxos)

/-- The unspent outputs at an address. -/
def unspentAt (known : Option Readiness) (address : String) : Work ω (List Utxo) := do
  let (_, _, utxos) ← records backend known address
  return utxos

/-- What the unspent outputs at an address hold together. -/
def balanceAt (known : Option Readiness) (address : String) : Work ω AddressBalance := do
  let (p, records, utxos) ← records backend known address
  let lovelace ← .ofAttempt ((Utxo.totalLovelace records).mapError fun fault =>
    .unexpected (.value fault))
  return ⟨address, lovelace, Utxo.totalAssets utxos, some p⟩

end Lookup

end TxDraft
