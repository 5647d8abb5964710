import TxDraft.Complaint
import TxDraft.Encoding.Hex
import TxDraft.Text.LowerCase
import TxDraft.Text.Blank

/-!
# Words of actions

The texts that actions are made of: addresses, hashes, hexadecimal data, asset ids and asset names.
A text is brought to its normal form first, without blanks at its ends and in lower case, and is
then tested for its shape alone; no checksum is computed here.
-/

namespace TxDraft.Lexicon

/-- The normal form of a text. -/
def normal (s : String) : String :=
  String.ofList (Text.lowerChars (Text.stripChars s.toList))

/-! ### Shapes -/

/-- Does the text hold an even number of lower-case hexadecimal digits and nothing else? -/
def isHexPairs (cs : List Char) : Bool :=
  cs.length % 2 = 0 && cs.all Hex.isLowerDigit

/-- Does the text hold exactly `n` lower-case hexadecimal digits? -/
def isHexOf (n : Nat) (cs : List Char) : Bool :=
  cs.length = n && cs.all Hex.isLowerDigit

/-- Is the character one of the thirty-two of the data part of an address? -/
def isDataChar (c : Char) : Bool :=
  "qpzry9x8gf2tvdw0s3jn54khce6mua7l".toList.contains c

/-- The least length of the data part of an address. -/
def leastData : Nat := 6

/-- Does the text begin with the word and a `1`, followed by enough data and nothing else? -/
def isAddressOf (cs : List Char) (word : String) : Bool :=
  let start := word.toList ++ ['1']
  let data := cs.drop start.length
  start.isPrefixOf cs && leastData ≤ data.length && data.all isDataChar

/-- The most digits of an asset name. -/
def nameDigits : Nat := 64

/-- The digits of a policy or of any other short hash. -/
def shortHashDigits : Nat := 56

/-- The digits of the hash of a transaction. -/
def longHashDigits : Nat := 64

/-- Is the text the name of an asset, at most thirty-two bytes? -/
def isAssetName (cs : List Char) : Bool :=
  cs.length ≤ nameDigits && isHexPairs cs

/-- Is the text a policy, a point and the name of an asset? -/
def isAssetId (cs : List Char) : Bool :=
  isHexOf shortHashDigits (cs.take shortHashDigits) &&
    match cs.drop shortHashDigits with
    | '.' :: name => isAssetName name
    | _ => false

/-! ### Readers -/

/-- A reader of words: the normal form, or what is wrong. -/
abbrev Reader := String → Except Complaint String

/-- A reader that accepts the normal forms of one shape. -/
def shaped (accepts : List Char → Bool) (complaint : Complaint) : Reader := fun s =>
  let word := normal s
  if accepts word.toList then .ok word else .error complaint

/-- An address whose first word the network allows. -/
def address (kind : AddressKind) (network : Option Network) : Reader := fun s =>
  let word := normal s
  if word = "" then .error (.emptyAddress kind)
  else if (kind.words network).any (isAddressOf word.toList) then .ok word
  else .error (.notAddress kind (kind.words network))

/-- The hash of a key, or a policy. -/
def shortHash : Reader :=
  shaped (isHexOf shortHashDigits) (.notHash shortHashDigits)

/-- The hash of a transaction. -/
def longHash : Reader :=
  shaped (isHexOf longHashDigits) (.notHash longHashDigits)

/-- Data in hexadecimal, at least one byte. -/
def hexData : Reader :=
  shaped (fun cs => !cs.isEmpty && isHexPairs cs) .notHex

def assetId : Reader :=
  shaped isAssetId .notAssetId

/-- The name of an asset under a policy that is given elsewhere. -/
def assetName : Reader :=
  shaped isAssetName .notAssetName

end TxDraft.Lexicon
