import TxDraft.Action
import TxDraft.Encoding.Blake2b
import TxDraft.Encoding.Cbor

/-!
# Scripts of the ledger

Native scripts are conditions on signatures and slots; they are read from CBOR and written back in
one form.  Plutus scripts are bytes in one of three languages.  A script is known by the hash of its
bytes behind a byte for its language.
-/

namespace TxDraft

namespace Ledger

inductive NativeScript where
  | signature (keyHash : Bytes)
  | all (scripts : List NativeScript)
  | any (scripts : List NativeScript)
  | atLeast (count : Int) (scripts : List NativeScript)
  | from (slot : Int)
  | until (slot : Int)

namespace NativeScript

mutual

def cbor : NativeScript → Cbor
  | signature keyHash => .array [.int 0, .bytes keyHash]
  | all scripts => .array [.int 1, .array (cborList scripts)]
  | any scripts => .array [.int 2, .array (cborList scripts)]
  | atLeast count scripts => .array [.int 3, .int count, .array (cborList scripts)]
  | .from slot => .array [.int 4, .int slot]
  | .until slot => .array [.int 5, .int slot]

def cborList : List NativeScript → List Cbor
  | [] => []
  | s :: rest => cbor s :: cborList rest

end

mutual

def ofCbor? : Cbor → Option NativeScript
  | .array [.int 0, .bytes keyHash] =>
    if keyHash.length = 28 then some (signature keyHash) else none
  | .array [.int 1, .array scripts] => (ofCborList? scripts).map all
  | .array [.int 2, .array scripts] => (ofCborList? scripts).map any
  | .array [.int 3, .int count, .array scripts] => (ofCborList? scripts).map (atLeast count)
  | .array [.int 4, .int slot] => some (.from slot)
  | .array [.int 5, .int slot] => some (.until slot)
  | _ => none

def ofCborList? : List Cbor → Option (List NativeScript)
  | [] => some []
  | item :: rest => do
    let s ← ofCbor? item
    return s :: (← ofCborList? rest)

end

/-- Reads a script from bytes; what follows it is not looked at. -/
def ofBytes? (b : Bytes) : Option NativeScript := do
  ofCbor? (← Cbor.decode? b).1

def hash (s : NativeScript) : Bytes :=
  Blake2b.hash 28 (0 :: s.cbor.encode)

mutual

/-- The keys whose signatures a script counts: those of its signature conditions, found through
conditions of which all or any must hold. -/
def keyHashes : NativeScript → List Bytes
  | signature keyHash => [keyHash]
  | all scripts | any scripts => keyHashesList scripts
  | atLeast _ _ | .from _ | .until _ => []

/-- The keys of scripts. -/
def keyHashesList : List NativeScript → List Bytes
  | [] => []
  | s :: rest => keyHashes s ++ keyHashesList rest

end

end NativeScript

/-- The language of a Plutus script. -/
inductive PlutusVersion where
  | v1
  | v2
  | v3
  deriving DecidableEq

namespace PlutusVersion

/-- The byte in front of a script when it is hashed. -/
def byte : PlutusVersion → UInt8
  | v1 => 1
  | v2 => 2
  | v3 => 3

/-- The Plutus language among all languages of scripts. -/
def ofKind? : ScriptKind → Option PlutusVersion
  | .native => none
  | .plutusV1 => some v1
  | .plutusV2 => some v2
  | .plutusV3 => some v3

end PlutusVersion

structure PlutusScript where
  version : PlutusVersion
  bytes : Bytes
  deriving DecidableEq

namespace PlutusScript

def hash (s : PlutusScript) : Bytes :=
  Blake2b.hash 28 (s.version.byte :: s.bytes)

end PlutusScript

/-- Reads the bytes of a datum or redeemer, which are kept as they are written: an integer, bytes,
a list, a map, or a tagged item. -/
def plutusData? (b : Bytes) : Option Bytes := do
  let (item, rest) ← Cbor.decode? b
  match item with
  | .int _ | .bytes _ | .array _ | .map _ | .tag _ _ => return b.take (b.length - rest.length)
  | _ => none

end Ledger

end TxDraft
