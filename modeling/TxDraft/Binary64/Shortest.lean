import TxDraft.Binary64

/-!
# The shortest decimal text of a binary number

The text of a finite number has the fewest digits that read back as the same number, and of those
the digits nearest to it.  It is positional for values from `10 ^ -4` up to below `10 ^ 16` and
scientific otherwise; a positional text always has a point, and an exponent at least two digits.
-/

namespace TxDraft.Binary64

/-- A decimal `digits · 10 ^ exponent`. -/
structure Decimal where
  digits : Nat
  exponent : Int

/-- The exact value of a finite number without its sign, as a numerator and a denominator. -/
def ratio (x : Binary64) : Nat × Nat :=
  (x.significand * Nat.pow 2 x.binaryExponent.toNat, Nat.pow 2 (-x.binaryExponent).toNat)

/-- The exponent of the leading decimal digit of a positive quotient. -/
def leadingExponent (num den : Nat) : Int :=
  if den ≤ num then (decimalLength (num / den) : Int) - 1
  else -(decimalLength ((den + num - 1) / num - 1) : Int)

/-- The decimals with at most `n` digits next to the quotient, the nearer one first; of two equally
near ones the even one.  Above `n` nines comes a power of ten, which is written with one digit. -/
def neighbours (num den : Nat) (n : Nat) : List Decimal :=
  let last := leadingExponent num den + 1 - n
  let num := num * Nat.pow 10 (-last).toNat
  let den := den * Nat.pow 10 last.toNat
  let q := num / den
  let r := num % den
  let below : Decimal := ⟨q, last⟩
  let above : Decimal := if q + 1 = Nat.pow 10 n then ⟨1, last + n⟩ else ⟨q + 1, last⟩
  if r = 0 then [below]
  else if 2 * r < den || (2 * r = den && q % 2 = 0) then [below, above]
  else [above, below]

/-- The shortest decimal that reads back as the finite positive number, and of those the nearest.
Seventeen digits are always enough. -/
def shortest (x : Binary64) : Decimal :=
  let (num, den) := x.ratio
  let candidates := (List.range 17).flatMap fun n => neighbours num den (n + 1)
  let found := candidates.find? fun d =>
    (ofDecimal false d.digits d.exponent).magnitude = x.magnitude
  found.getD ⟨0, 0⟩

/-- How an exponent is written: a sign and at least two digits. -/
def exponentText (e : Int) : String :=
  let digits := Nat.repr e.natAbs
  (if e < 0 then "-" else "+") ++ (if digits.length < 2 then "0" ++ digits else digits)

/-- A decimal written out, positional or scientific. -/
def Decimal.text (d : Decimal) : String :=
  let digits := (Nat.repr d.digits).toList
  let point := (digits.length : Int) + d.exponent
  if -4 < point && point ≤ 16 then
    if point ≤ 0 then
      "0." ++ String.ofList (List.replicate (-point).toNat '0' ++ digits)
    else if (digits.length : Int) ≤ point then
      String.ofList (digits ++ List.replicate (point.toNat - digits.length) '0') ++ ".0"
    else
      String.ofList (digits.take point.toNat) ++ "." ++ String.ofList (digits.drop point.toNat)
  else
    let mantissa :=
      match digits with
      | first :: next :: rest => String.ofList (first :: '.' :: next :: rest)
      | short => String.ofList short
    mantissa ++ "e" ++ exponentText (point - 1)

/-- The words for infinity and for a pattern that is not a number. -/
structure SpecialWords where
  infinity : String
  notANumber : String

/-- The text of a number. -/
def text (words : SpecialWords) (x : Binary64) : String :=
  if x.isNaN then words.notANumber
  else
    let size :=
      if x.isInfinite then words.infinity
      else if x.isZero then "0.0"
      else x.shortest.text
    if x.isNegative then "-" ++ size else size

end TxDraft.Binary64
