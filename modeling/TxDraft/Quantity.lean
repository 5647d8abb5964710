import TxDraft.Json.Wording
import TxDraft.Text.Blank
import TxDraft.Text.DecimalDigit

/-!
# Quantities

Amounts are exact integers.  A document may give one as an integer or as a decimal text: blanks
around it, at most one sign, and ASCII digits, no more than `maxDigits` of them.  Floating-point
numbers and truth values are refused.
-/

namespace TxDraft.Quantity

/-- Why a value is not a quantity. -/
inductive Fault where
  | boolean
  | notInteger (text : Json.Str)
  | wrongKind (kind : String)
  | tooManyDigits (count : Nat)
  deriving DecidableEq

/-- The longest row of digits that is read. -/
def maxDigits : Nat := 4300

/-- Has the integer no more digits than are read?  Longer ones are not written either. -/
def isShort (n : Int) : Bool :=
  (Nat.toDigits 10 n.natAbs).length ≤ maxDigits

/-- What is said about a value that is not a quantity. -/
def Fault.message : Fault → String
  | boolean => "quantity must be an integer, not a boolean"
  | notInteger text => s!"quantity {text.quoted} is not an integer"
  | wrongKind kind => s!"quantity must be an integer or integer string, got {kind}"
  | tooManyDigits count =>
    s!"Exceeds the limit ({maxDigits} digits) for integer string conversion: value has {count} " ++
      "digits; use sys.set_int_max_str_digits() to increase the limit"

/-- The sign in front, if there is one, and the rest: `true` for a minus. -/
def spanSign : List Char → Bool × List Char
  | '+' :: digits => (false, digits)
  | '-' :: digits => (true, digits)
  | digits => (false, digits)

/-- The integer with this sign and these digits. -/
def signed (negative : Bool) (digits : List Char) : Int :=
  if negative then -(Text.decimalValue digits : Int) else Text.decimalValue digits

/-- Reads a decimal text. -/
def readText (text : Json.Str) : Except Fault Int :=
  let (negative, digits) := spanSign (Text.stripChars text.string.toList)
  if digits.isEmpty || !digits.all Text.isAsciiDigit then .error (.notInteger text)
  else if maxDigits < digits.length then .error (.tooManyDigits digits.length)
  else .ok (signed negative digits)

/-- Reads a value of a document. -/
def read : Json → Except Fault Int
  | .int n => .ok n
  | .str text => readText text
  | .bool _ => .error .boolean
  | v => .error (.wrongKind v.kindName)

/-- The decimal text of a quantity. -/
def print (n : Int) : String :=
  toString n

end TxDraft.Quantity
