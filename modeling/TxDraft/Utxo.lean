import TxDraft.Value

/-!
# Unspent outputs

An unspent output in one form, whatever the provider that reported it: where it was made, at which
address it lies, its value, and its datums and script by hash or in full.  `Utxo.ofRecord` reads the
records of providers, who spell the fields differently, and `Utxo.toJson` writes the one form, which
is again a record.
-/

namespace TxDraft

/-- An unspent transaction output. -/
structure Utxo where
  txHash : String
  outputIndex : Int
  address : String
  lovelace : Int
  assets : Entries String Int
  /-- The hash of the datum as the provider gave it. -/
  datumHash : Json
  inlineDatum : Option String
  /-- The hash of the reference script as the provider gave it. -/
  scriptHash : Json

namespace Utxo

/-- Why a record cannot be read. -/
inductive Fault where
  /-- It is not an object. -/
  | notObject (kind : String)
  /-- It does not say which output it is. -/
  | noReference
  /-- Its output index is not a quantity. -/
  | index (fault : Quantity.Fault)
  /-- Its value cannot be read. -/
  | value (fault : Value.Fault)
  deriving DecidableEq

/-- What is said about a record that cannot be read, if the fault is a fault of the record's form.
A unit or a map of assets of the wrong kind is not: such a record is taken for a broken reply. -/
def Fault.message? : Fault → Option String
  | notObject kind => some s!"UTxO record must be an object, got {kind}"
  | noReference => some "UTxO record has no transaction reference"
  | index fault | value (.quantity fault) => some fault.message
  | value .unitNotText | value .assetsNotMap | value .notRecord => none

/-- The first value under the names that is not null. -/
def firstPresent (record : Json.Fields) : List String → Json
  | [] => .null
  | name :: names =>
    match Json.field record name with
    | .null => firstPresent record names
    | v => v

/-- The hash of the transaction that made the output. -/
def hashField (record : Json.Fields) : Json :=
  match firstPresent record ["tx_hash", "transaction_id", "txHash", "transactionId"] with
  | .null =>
    match Json.field record "transaction" with
    | .obj transaction => Json.field transaction "id"
    | _ => .null
  | v => v

/-- The position of the output in its transaction. -/
def indexField (record : Json.Fields) : Json :=
  firstPresent record ["output_index", "outputIndex", "index", "tx_index"]

/-- The address, empty if the record has none. -/
def addressField (record : Json.Fields) : String :=
  match Json.field? record "address" with
  | some v => v.wording
  | none => ""

/-- The datum, if it is given in full. -/
def inlineDatumField (record : Json.Fields) : Option String :=
  match firstPresent record ["inline_datum", "datum"] with
  | .str s => some s.string
  | _ => none

/-- Reads a record of any provider. -/
def ofFields (record : Json.Fields) : Except Fault Utxo :=
  let hash := hashField record
  let index := indexField record
  if !hash.isPresent || !index.isPresent then .error .noReference
  else do
    let value ← (Value.ofRecord record).mapError .value
    let outputIndex ← (Quantity.read index).mapError .index
    return {
      txHash := hash.wording
      outputIndex
      address := addressField record
      lovelace := value.lovelace
      assets := value.assets
      datumHash := firstPresent record ["data_hash", "datum_hash", "datumHash"]
      inlineDatum := inlineDatumField record
      scriptHash := firstPresent record ["reference_script_hash", "script_hash", "scriptHash"] }

/-- Reads a record of any provider; only objects are records. -/
def ofRecord : Json → Except Fault Utxo
  | .obj record => ofFields record
  | v => .error (.notObject v.kindName)

/-- The output's name: its transaction and its position. -/
def reference (u : Utxo) : String :=
  s!"{u.txHash}#{u.outputIndex}"

/-- The output as a record. -/
def toJson (u : Utxo) : Json :=
  .obj [
    ("txHash", .str u.txHash),
    ("outputIndex", .int u.outputIndex),
    ("address", .str u.address),
    ("lovelace", .str (Quantity.print u.lovelace)),
    ("assets", Value.assetsJson u.assets),
    ("datumHash", u.datumHash),
    ("inlineDatum", .ofText? u.inlineDatum),
    ("scriptHash", u.scriptHash)]

/-! ### Totals -/

/-- The lovelace of the records, one after the other. -/
def totalLovelace (records : List Json) : Except Value.Fault Int :=
  records.foldlM (fun total record => do return total + (← Value.ofJson record).lovelace) 0

/-- The quantities of the second map added to the first. -/
def addAssets (totals assets : Entries String Int) : Entries String Int :=
  assets.foldl (fun totals e => totals.put e.1 ((totals.get? e.1).getD 0 + e.2)) totals

/-- The assets of the outputs, unit by unit. -/
def totalAssets (utxos : List Utxo) : Entries String Int :=
  utxos.foldl (fun totals u => addAssets totals u.assets) []

end Utxo

end TxDraft
