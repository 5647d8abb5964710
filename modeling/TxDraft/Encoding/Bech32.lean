import TxDraft.Bytes

/-!
# Bech32 text

A word, the character `1`, and data in thirty-two characters, the last six of which are a checksum
over the word and the data.  Two constants are in use for the checksum; both are accepted, and the
first is written.  Texts are all in lower case or all in upper case.
-/

namespace TxDraft.Bech32

/-- The thirty-two characters. -/
def alphabet : List Char :=
  "qpzry9x8gf2tvdw0s3jn54khce6mua7l".toList

/-- The generator of the checksum. -/
def generator : List Nat :=
  [0x3b6a57b2, 0x26508e6d, 0x1ea119fa, 0x3d4233dd, 0x2a1462b3]

/-- One more value in the checksum. -/
def absorb (sum value : Nat) : Nat :=
  let top := sum >>> 25
  let sum := ((sum &&& 0x1ffffff) <<< 5) ^^^ value
  (generator.zipIdx).foldl (fun s g => if (top >>> g.2) &&& 1 = 1 then s ^^^ g.1 else s) sum

/-- The checksum of a row of five-bit values. -/
def polymod (values : List Nat) : Nat :=
  values.foldl absorb 1

/-- The word as the checksum sees it. -/
def expandWord (word : List Char) : List Nat :=
  word.map (fun c => c.toNat >>> 5) ++ [0] ++ word.map (fun c => c.toNat &&& 31)

/-- The constant of the checksum that is written. -/
def constant : Nat := 1

/-- The other constant that is accepted. -/
def constantM : Nat := 0x2bc830a3

/-- The longest text that is read. -/
def maxLength : Nat := 108

/-- The six values of the checksum. -/
def checksum (word : List Char) (data : List Nat) : List Nat :=
  let sum := polymod (expandWord word ++ data ++ [0, 0, 0, 0, 0, 0]) ^^^ constant
  (List.range 6).map fun i => (sum >>> (5 * (5 - i))) &&& 31

/-! ### Regrouping bits -/

/-- Regroups five-bit values into bytes.  Bits that are left over must be zero and fewer than
five. -/
def toBytes? (pending bits : Nat) : List Nat → Option Bytes
  | [] => if bits < 5 && pending % Nat.pow 2 bits = 0 then some [] else none
  | v :: rest =>
    let pending := pending * 32 + v
    let bits := bits + 5
    if 8 ≤ bits then
      (toBytes? (pending % Nat.pow 2 (bits - 8)) (bits - 8) rest).map
        (UInt8.ofNat (pending / Nat.pow 2 (bits - 8)) :: ·)
    else toBytes? pending bits rest

/-- The bits of a byte, the most significant first. -/
def byteBits (b : UInt8) : List Bool :=
  (List.range 8).map fun i => b.toNat.testBit (7 - i)

/-- The number that bits denote, the most significant first. -/
def bitsValue (bits : List Bool) : Nat :=
  bits.foldl (fun n b => 2 * n + b.toNat) 0

/-- Regroups bits into five-bit values, the last one padded with zeros.  The first argument is how
many values are needed. -/
def groupBits : (count : Nat) → List Bool → List Nat
  | 0, _ => []
  | count + 1, bits =>
    let group := bits.take 5
    bitsValue (group ++ List.replicate (5 - group.length) false) :: groupBits count (bits.drop 5)

/-- The five-bit values of bytes. -/
def ofBytes (bytes : Bytes) : List Nat :=
  groupBits ((bytes.length * 8 + 4) / 5) (bytes.flatMap byteBits)

/-! ### Texts -/

/-- The text with this word and these bytes. -/
def encode (word : String) (bytes : Bytes) : String :=
  let data := ofBytes bytes
  let values := data ++ checksum word.toList data
  word ++ "1" ++ String.ofList (values.map fun v => alphabet.getD v 'q')

/-- The word in front of the last `1`, and what follows it. -/
def splitWord? (cs : List Char) : Option (List Char × List Char) :=
  let data := (cs.reverse.takeWhile (· ≠ '1')).reverse
  let word := cs.take (cs.length - data.length - 1)
  if data.length < cs.length && !word.isEmpty then some (word, data) else none

/-- Does a text hold visible ASCII characters only, and letters of one case only? -/
def isPlain (cs : List Char) : Bool :=
  cs.all (fun c => 33 ≤ c.toNat && c.toNat ≤ 126) && !(cs.any Char.isLower && cs.any Char.isUpper)

/-- The bytes of a text, whatever its word. -/
def decode? (s : String) : Option Bytes := do
  let cs := s.toList
  if !isPlain cs || maxLength < cs.length then none
  else
    let (word, data) ← splitWord? (cs.map Char.toLower)
    let values ← data.mapM fun c => alphabet.findIdx? (· = c)
    let sum := polymod (expandWord word ++ values)
    if values.length < 6 || !(sum = constant || sum = constantM) then none
    else toBytes? 0 0 (values.take (values.length - 6))

end TxDraft.Bech32
