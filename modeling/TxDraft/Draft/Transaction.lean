import TxDraft.Draft

/-!
# The transaction of a draft

How a draft is written: a body, whose parts stand under numbers, the native scripts as witnesses,
and the metadata.  Parts that are not staged are left out.  Sets hold every element once;
withdrawals and the labels of metadata stand in the order of their written keys.
-/

namespace TxDraft

open Ledger

namespace Draft

/-! ### Metadata -/

mutual

/-- A metadatum as an item; maps keep their order. -/
def metadatumCbor : Json → Cbor
  | .null => .null
  | .bool b => .bool b
  | .int n => .int n
  | .float x => .other 27 x.bits.toNat
  | .str s => .text s.string
  | .arr items => .array (metadatumItems items)
  | .obj fields => .map (metadatumFields fields)

/-- Metadata in a list as items. -/
def metadatumItems : List Json → List Cbor
  | [] => []
  | v :: rest => metadatumCbor v :: metadatumItems rest

/-- Metadata under keys as entries. -/
def metadatumFields : List (Json.Str × Json) → List (Cbor × Cbor)
  | [] => []
  | (k, v) :: rest => (.text k.string, metadatumCbor v) :: metadatumFields rest

end

/-- The tag of what a transaction carries along. -/
def auxiliaryTag : Nat := 259

/-- What the transaction carries along: its metadata, if there is any. -/
def auxiliary? (d : Draft) : Option Cbor :=
  if d.metadata.isEmpty then none
  else
    let labels := d.metadata.map fun e => (Cbor.int e.1, metadatumCbor e.2)
    some (.tag auxiliaryTag (.map [(.int 0, .sortedMap labels)]))

/-- The hash of what the transaction carries along. -/
def auxiliaryHash? (d : Draft) : Option Bytes :=
  d.auxiliary?.map fun item => Blake2b.hash 32 item.encode

/-! ### The body -/

/-- The names of outputs as a set. -/
def namesCbor (names : List OutputName) : Cbor :=
  .set (names.eraseDups.map OutputName.cbor)

/-- The withdrawals as an item. -/
def withdrawalsCbor (d : Draft) : Cbor :=
  .sortedMap (d.withdrawals.map fun e => (.bytes e.1.bytes, .int e.2))

/-- A part of the body under its number, if there is anything to write. -/
def part (number : Int) (isEmpty : Bool) (item : Cbor) : List (Cbor × Cbor) :=
  if isEmpty then [] else [(.int number, item)]

/-- A part of the body that may be missing. -/
def part? (number : Int) (item : Option Cbor) : List (Cbor × Cbor) :=
  (item.map fun item => (Cbor.int number, item)).toList

/-- The body of the transaction, with the given fee. -/
def bodyCbor (d : Draft) (fee : Int) : Cbor :=
  .map (
    [(.int 0, namesCbor (d.inputs.map Unspent.name)),
     (.int 1, .array (d.outputs.map Output.cbor)),
     (.int 2, .int fee)] ++
    part? 3 (d.validTo.map .int) ++
    part 4 d.certificates.isEmpty (.array (d.certificates.filterMap Certificate.cbor?)) ++
    part 5 d.withdrawals.isEmpty d.withdrawalsCbor ++
    part? 7 (d.auxiliaryHash?.map .bytes) ++
    part? 8 (d.validFrom.map .int) ++
    part? 9 (d.mint.map Assets.cbor) ++
    part 13 d.collaterals.isEmpty (namesCbor (d.collaterals.map Unspent.name)) ++
    part 14 d.requiredSigners.isEmpty (.set (d.requiredSigners.eraseDups.map .bytes)) ++
    part 18 d.referenceInputs.isEmpty (namesCbor (d.referenceInputs.map ReferenceInput.name)))

/-! ### Witnesses -/

/-- The native scripts, each once. -/
def scripts (d : Draft) : List NativeScript :=
  let add (kept : Entries Bytes NativeScript) (s : NativeScript) :=
    if kept.has s.hash then kept else kept ++ [(s.hash, s)]
  (d.nativeScripts.foldl add []).map Prod.snd

/-- The keys that are to sign: those at whose addresses inputs and collaterals lie, the required
signers, those that native scripts count, and those of certificates and withdrawals. -/
def signers (d : Draft) : List Bytes :=
  let payment (u : Unspent) : Option Bytes := do (← u.output.address.payment?).keyHash?
  let stake (s : StakePart) : Option Bytes := do (← s.credential?).keyHash?
  ((d.inputs ++ d.collaterals).filterMap payment ++ d.requiredSigners ++
    NativeScript.keyHashesList d.nativeScripts ++
    d.certificates.filterMap (fun c => stake c.stake) ++
    d.withdrawals.filterMap (fun e => e.1.stake?.bind stake)).eraseDups

/-- A signature that only takes up its place, with its key. -/
def blankSignature : Cbor :=
  .array [.bytes (List.replicate 32 0), .bytes (List.replicate 64 0)]

/-- The witnesses: signatures that take up the places of later ones, and the native scripts. -/
def witnessesCbor (d : Draft) (signatures : Nat) : Cbor :=
  let scripts := d.scripts
  .map (part 0 (signatures = 0) (.set (List.replicate signatures blankSignature)) ++
    part 1 scripts.isEmpty (.set (scripts.map NativeScript.cbor)))

/-- The transaction with a fee and some places for signatures. -/
def transactionCbor (d : Draft) (fee : Int) (signatures : Nat) : Cbor :=
  .array [d.bodyCbor fee, d.witnessesCbor signatures, .bool true, d.auxiliary?.getD .null]

/-- The transaction that nobody has signed yet. -/
def unsigned (d : Draft) : Bytes :=
  (d.transactionCbor d.fee 0).encode

/-- A fee that takes as many bytes as any fee may take. -/
def widestFee : Int := Nat.pow 2 32 - 1

/-- The number of bytes of the signed transaction.  A fee that is not reckoned yet is taken to be
wide. -/
def signedSize (d : Draft) : Nat :=
  (d.transactionCbor (if d.fee = 0 then widestFee else d.fee) d.signers.length).size

end Draft

end TxDraft
