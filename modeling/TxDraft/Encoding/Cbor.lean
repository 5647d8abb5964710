import TxDraft.Bytes

/-!
# CBOR

The binary form of ledger data.  `Cbor.encode` writes every item with definite lengths and the
shortest heads; integers beyond sixty-four bits become tagged byte strings.  `Cbor.decode?` reads
one well-formed item, of definite or indefinite length, and gives what follows it.
-/

namespace TxDraft

/-- An item. -/
inductive Cbor where
  | int (n : Int)
  | bytes (b : Bytes)
  | text (s : String)
  | array (items : List Cbor)
  | map (entries : List (Cbor × Cbor))
  | tag (n : Nat) (item : Cbor)
  | bool (b : Bool)
  | null
  /-- A simple value or a floating-point number: the low bits of its head, and its argument. -/
  | other (kind argument : Nat)
  /-- An item that is already written. -/
  | written (b : Bytes)

namespace Cbor

/-! ### Writing -/

/-- The head of an item: three bits for its kind, and its argument. -/
def head (major argument : Nat) : Bytes :=
  let top := major * 32
  if argument < 24 then [UInt8.ofNat (top + argument)]
  else if argument < Nat.pow 2 8 then UInt8.ofNat (top + 24) :: Bytes.bigEndian 1 argument
  else if argument < Nat.pow 2 16 then UInt8.ofNat (top + 25) :: Bytes.bigEndian 2 argument
  else if argument < Nat.pow 2 32 then UInt8.ofNat (top + 26) :: Bytes.bigEndian 4 argument
  else UInt8.ofNat (top + 27) :: Bytes.bigEndian 8 argument

/-- A byte string. -/
def encodeBytes (b : Bytes) : Bytes :=
  head 2 b.length ++ b

/-- A natural number, or the complement of a negative one, of any size. -/
def encodeNat (major bigTag n : Nat) : Bytes :=
  if n < Nat.pow 2 64 then head major n
  else head 6 bigTag ++ encodeBytes (Bytes.bigEndian (Bytes.widthOf n) n)

/-- An integer. -/
def encodeInt (n : Int) : Bytes :=
  if 0 ≤ n then encodeNat 0 2 n.toNat else encodeNat 1 3 (-1 - n).toNat

/-- A text. -/
def encodeText (s : String) : Bytes :=
  let b := Bytes.ofText s
  head 3 b.length ++ b

mutual

/-- The bytes of an item. -/
def encode : Cbor → Bytes
  | int n => encodeInt n
  | bytes b => encodeBytes b
  | text s => encodeText s
  | array items => head 4 items.length ++ encodeItems items
  | map entries => head 5 entries.length ++ encodeEntries entries
  | tag n item => head 6 n ++ encode item
  | bool b => [if b then 0xf5 else 0xf4]
  | null => [0xf6]
  | other kind argument =>
    UInt8.ofNat (0xe0 + kind) ::
      Bytes.bigEndian (if kind < 24 then 0 else Nat.pow 2 (kind - 24)) argument
  | written b => b

/-- The bytes of items. -/
def encodeItems : List Cbor → Bytes
  | [] => []
  | item :: rest => encode item ++ encodeItems rest

/-- The bytes of the entries of a map. -/
def encodeEntries : List (Cbor × Cbor) → Bytes
  | [] => []
  | (k, v) :: rest => encode k ++ (encode v ++ encodeEntries rest)

end

/-- The number of bytes of an item. -/
def size (item : Cbor) : Nat :=
  item.encode.length

/-- Does the first written key come before the second? The shorter one does, and of two of one
length the smaller. -/
def keyPrecedes (a b : Bytes) : Bool :=
  a.length < b.length || (a.length = b.length && a.precedes b)

/-- A map with its entries in the order of their written keys. -/
def sortedMap (entries : List (Cbor × Cbor)) : Cbor :=
  map (entries.mergeSort fun a b => !keyPrecedes b.1.encode a.1.encode)

/-- The tag of a set. -/
def setTag : Nat := 258

/-- Items as a set. -/
def set (items : List Cbor) : Cbor :=
  tag setTag (array items)

/-! ### Reading -/

/-- The argument of a head whose low bits are `info`; nothing for an indefinite length. -/
def argument? (info : Nat) (rest : Bytes) : Option (Option Nat × Bytes) :=
  if info < 24 then some (some info, rest)
  else if info ≤ 27 then
    let width := Nat.pow 2 (info - 24)
    if rest.length < width then none
    else some (some (Bytes.toNat (rest.take width)), rest.drop width)
  else if info = 31 then some (none, rest)
  else none

/-- The first bytes, if there are enough. -/
def take? (n : Nat) (b : Bytes) : Option (Bytes × Bytes) :=
  if b.length < n then none else some (b.take n, b.drop n)

/-- The chunks of a string of indefinite length, put together. -/
def decodeChunks? (major : Nat) : (fuel : Nat) → Bytes → Option (Bytes × Bytes)
  | 0, _ => none
  | _, [] => none
  | fuel + 1, first :: rest =>
    if first = 0xff then some ([], rest)
    else if first.toNat / 32 ≠ major then none
    else do
      let (length, rest) ← argument? (first.toNat % 32) rest
      let (chunk, rest) ← take? (← length) rest
      let (more, rest) ← decodeChunks? major fuel rest
      return (chunk ++ more, rest)

/-- The bytes of a string. -/
def decodeString? (fuel major : Nat) (length : Option Nat) (rest : Bytes) :
    Option (Bytes × Bytes) :=
  match length with
  | some n => take? n rest
  | none => decodeChunks? major fuel rest

mutual

/-- Reads one item. -/
def decodeItem? : (fuel : Nat) → Bytes → Option (Cbor × Bytes)
  | 0, _ => none
  | _, [] => none
  | fuel + 1, first :: rest => do
    let info := first.toNat % 32
    let (argument, rest) ← argument? info rest
    match first.toNat / 32 with
    | 0 => return (int (← argument), rest)
    | 1 => return (int (-1 - (← argument : Nat)), rest)
    | 2 => do
      let (b, rest) ← decodeString? fuel 2 argument rest
      return (bytes b, rest)
    | 3 => do
      let (b, rest) ← decodeString? fuel 3 argument rest
      return (text (← String.fromUTF8? ⟨b.toArray⟩), rest)
    | 4 => do
      let (items, rest) ← decodeItems? fuel argument rest
      return (array items, rest)
    | 5 => do
      let (entries, rest) ← decodeEntries? fuel argument rest
      return (map entries, rest)
    | 6 => do
      let n ← argument
      let (item, rest) ← decodeItem? fuel rest
      return (tag n item, rest)
    | _ =>
      match info with
      | 20 => return (bool false, rest)
      | 21 => return (bool true, rest)
      | 22 => return (null, rest)
      | _ => return (other info (← argument), rest)

/-- Reads items, as many as are given or up to a break. -/
def decodeItems? : (fuel : Nat) → (count : Option Nat) → Bytes → Option (List Cbor × Bytes)
  | 0, _, _ => none
  | _ + 1, some 0, rest => some ([], rest)
  | fuel + 1, count, b =>
    match count, b with
    | none, 0xff :: rest => some ([], rest)
    | _, _ => do
      let (item, rest) ← decodeItem? fuel b
      let (items, rest) ← decodeItems? fuel (count.map (· - 1)) rest
      return (item :: items, rest)

/-- Reads entries of a map, as many as are given or up to a break. -/
def decodeEntries? : (fuel : Nat) → (count : Option Nat) → Bytes →
    Option (List (Cbor × Cbor) × Bytes)
  | 0, _, _ => none
  | _ + 1, some 0, rest => some ([], rest)
  | fuel + 1, count, b =>
    match count, b with
    | none, 0xff :: rest => some ([], rest)
    | _, _ => do
      let (k, rest) ← decodeItem? fuel b
      let (v, rest) ← decodeItem? fuel rest
      let (entries, rest) ← decodeEntries? fuel (count.map (· - 1)) rest
      return ((k, v) :: entries, rest)

end

/-- Reads the item in front; every level of nesting and every item takes at least one byte, so the
length bounds the work. -/
def decode? (b : Bytes) : Option (Cbor × Bytes) :=
  decodeItem? (2 * b.length + 2) b

end Cbor

end TxDraft
