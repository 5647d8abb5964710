import TxDraft.Binary64
import TxDraft.Text.Blank
import TxDraft.Text.DecimalDigit

/-!
# Reading a binary number

The text of a number: blanks around it, a sign, and either one of the words `inf`, `infinity` and
`nan` in any case, or decimal digits with an optional point and an optional exponent.  A single
underscore may stand between two digits.  `readNumber` is given the class of digits, since some
texts may use the digits of all scripts and others only those of ASCII.
-/

namespace TxDraft.Binary64

open Text

/-- The exponent at the end of a number; it must be all that is left. -/
def readExponent? (digit : DigitClass) : List Char → Option Int
  | [] => some 0
  | c :: rest =>
    if c = 'e' || c = 'E' then
      let (negative, rest) := spanSign rest
      match spanDigits digit 0 0 rest with
      | (value, _ + 1, []) => some (if negative then -value else value)
      | _ => none
    else none

/-- An unsigned decimal with an optional point and an optional exponent. -/
def readDecimal? (digit : DigitClass) (negative : Bool) (cs : List Char) : Option Binary64 := do
  let (whole, wholeCount, rest) := spanDigits digit 0 0 cs
  match rest with
  | '.' :: rest =>
    let (fraction, fractionCount, rest) := spanDigits digit 0 0 rest
    if wholeCount + fractionCount = 0 then none
    else
      let exponent ← readExponent? digit rest
      let digits := whole * Nat.pow 10 fractionCount + fraction
      return ofDecimal negative digits (exponent - fractionCount)
  | rest =>
    if wholeCount = 0 then none
    else return ofDecimal negative whole (← readExponent? digit rest)

/-- The number that the text denotes, if it denotes one. -/
def readNumber? (digit : DigitClass) (s : String) : Option Binary64 :=
  let (negative, cs) := spanSign (stripChars s.toList)
  let word := String.ofList (cs.map Char.toLower)
  if word = "inf" || word = "infinity" then some (infinity negative)
  else if word = "nan" then some (notANumber negative)
  else readDecimal? digit negative cs

end TxDraft.Binary64
