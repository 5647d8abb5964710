import TxDraft.Encoding.Hex
import TxDraft.Text.LowerCase

/-!
# Tokens and their unit texts

A native token is a minting policy and an asset name, both as hexadecimal text; the currency of the
chain has neither.  Units are written in three ways: the word `lovelace`, the dotted form
`policy.name`, and policy and name run together.  `Token.ofUnit` reads all three and `Token.unit`
writes the dotted one.
-/

namespace TxDraft

/-- A native token, or ADA if both texts are empty. -/
structure Token where
  policy : String
  name : String
  deriving DecidableEq

namespace Token

/-- The length of a policy in hexadecimal digits. -/
def policyLength : Nat := 56

/-- The currency of the chain. -/
def ada : Token := ⟨"", ""⟩

/-- Is the token the currency of the chain? -/
def isAda (t : Token) : Bool :=
  t.policy = "" && t.name = ""

/-- The first characters of a text. -/
def start (n : Nat) (s : String) : String :=
  String.ofList (s.toList.take n)

/-- The unit text of the token: dotted, or `lovelace` for ADA. -/
def unit (t : Token) : String :=
  if t.isAda then "lovelace" else t.policy ++ "." ++ t.name

/-- Policy and name of a dotted text, or of a text in which they run together. -/
def splitUnit (cs : List Char) : Token :=
  if cs.contains '.' then
    ⟨String.ofList (cs.takeWhile (· ≠ '.')), String.ofList ((cs.dropWhile (· ≠ '.')).drop 1)⟩
  else ⟨String.ofList (cs.take policyLength), String.ofList (cs.drop policyLength)⟩

/-- The token that a unit text denotes. -/
def ofUnit (unit : String) : Token :=
  if unit = "" || unit = "lovelace" || unit = "." then ada
  else splitUnit (Text.lowerChars unit.toList)

/-- The text that the name spells, if it is hexadecimal text of well-formed UTF-8. -/
def spelledName? (t : Token) : Option String := do
  let bytes ← Hex.decode? t.name
  String.fromUTF8? ⟨bytes.toArray⟩

/-- The token for a reader: the start of its policy, and its name spelled out where possible. -/
def label (t : Token) : String :=
  if t.isAda then "ADA"
  else start 8 t.policy ++ ".." ++ t.spelledName?.getD (start 8 t.name)

/-- The token in short: the start of its policy and of its name. -/
def summary (t : Token) : String :=
  if t.isAda then "Token(ADA)" else "Token(" ++ start 8 t.policy ++ ".." ++ start 8 t.name ++ ")"

end Token

end TxDraft
