/-!
# Binary floating-point numbers of 64 bits

A number is its bit pattern: a sign, eleven bits of exponent and fifty-two of fraction.  All
arithmetic on it is exact arithmetic on integers.  A finite number is `± m · 2 ^ q`
(`significand`, `binaryExponent`), and `ofRatio` rounds a quotient of natural numbers to the nearest
such number, a tie to the even significand.
-/

namespace TxDraft

/-- A binary floating-point number, kept as its bit pattern. -/
structure Binary64 where
  bits : UInt64
  deriving DecidableEq

namespace Binary64

/-! ### The parts of a number -/

/-- Is the sign bit set? -/
def isNegative (x : Binary64) : Bool :=
  Nat.pow 2 63 ≤ x.bits.toNat

/-- The number without its sign. -/
def magnitude (x : Binary64) : Nat :=
  x.bits.toNat % Nat.pow 2 63

/-- The bit pattern of infinity; patterns above it are not numbers. -/
def infiniteMagnitude : Nat :=
  0x7FF * Nat.pow 2 52

/-- Is the pattern not a number? -/
def isNaN (x : Binary64) : Bool :=
  infiniteMagnitude < x.magnitude

/-- Is the number one of the two infinities? -/
def isInfinite (x : Binary64) : Bool :=
  x.magnitude = infiniteMagnitude

/-- Is the number one of the two zeros? -/
def isZero (x : Binary64) : Bool :=
  x.magnitude = 0

/-- The integer `m` of a finite number `± m · 2 ^ q`. -/
def significand (x : Binary64) : Nat :=
  let fraction := x.magnitude % Nat.pow 2 52
  if x.magnitude / Nat.pow 2 52 = 0 then fraction else fraction + Nat.pow 2 52

/-- The exponent `q` of a finite number `± m · 2 ^ q`. -/
def binaryExponent (x : Binary64) : Int :=
  max (x.magnitude / Nat.pow 2 52 : Nat) 1 - 1075

/-! ### Numbers from their parts -/

/-- The number with this sign and magnitude. -/
def ofMagnitude (negative : Bool) (magnitude : Nat) : Binary64 :=
  ⟨UInt64.ofNat (if negative then magnitude + Nat.pow 2 63 else magnitude)⟩

/-- Zero with a sign. -/
def zero (negative : Bool) : Binary64 :=
  ofMagnitude negative 0

/-- Infinity with a sign. -/
def infinity (negative : Bool) : Binary64 :=
  ofMagnitude negative infiniteMagnitude

/-- The quiet pattern that is not a number. -/
def notANumber (negative : Bool) : Binary64 :=
  ofMagnitude negative (infiniteMagnitude + Nat.pow 2 51)

/-! ### Rounding -/

/-- The integer nearest to `num / den`, a tie going to the even one. -/
def roundHalfEven (num den : Nat) : Nat :=
  let q := num / den
  let r := num % den
  if 2 * r < den then q
  else if den < 2 * r then q + 1
  else if q % 2 = 0 then q else q + 1

/-- The quotient `num / den · 2 ^ (-q)` rounded to the nearest integer. -/
def roundScaled (num den : Nat) (q : Int) : Nat :=
  roundHalfEven (num * Nat.pow 2 (-q).toNat) (den * Nat.pow 2 q.toNat)

/-- The exponent of the last bit kept of `num / den`: fifty-three bits, and none below the least
subnormal number. -/
def lastBit (num den : Nat) : Int :=
  let q : Int := (Nat.log2 num : Int) - (Nat.log2 den : Int) - 52
  let q :=
    if num * Nat.pow 2 (-q).toNat < den * Nat.pow 2 q.toNat * Nat.pow 2 52 then q - 1 else q
  max q (-1074)

/-- The number nearest to `± num / den`, a tie going to the even significand; infinity if the
quotient is too large.  The carry out of a significand of ones runs into the exponent, as it must.
-/
def ofRatio (negative : Bool) (num den : Nat) : Binary64 :=
  if num = 0 then zero negative
  else
    let q := lastBit num den
    let magnitude := (q + 1074).toNat * Nat.pow 2 52 + roundScaled num den q
    ofMagnitude negative (min magnitude infiniteMagnitude)

/-- The number of decimal digits of a natural number. -/
def decimalLength (n : Nat) : Nat :=
  (Nat.repr n).length

/-- The number nearest to `± digits · 10 ^ exponent`.  Exponents so large or so small that the
answer is infinity or zero are settled before any power is taken. -/
def ofDecimal (negative : Bool) (digits : Nat) (exponent : Int) : Binary64 :=
  if digits = 0 then zero negative
  else
    let top := exponent + decimalLength digits
    if 310 < top then infinity negative
    else if top < -330 then zero negative
    else ofRatio negative (digits * Nat.pow 10 exponent.toNat) (Nat.pow 10 (-exponent).toNat)

/-- The number nearest to an integer, if it does not round to infinity. -/
def ofInt? (n : Int) : Option Binary64 :=
  let x := ofRatio (n < 0) n.natAbs 1
  if x.isInfinite then none else some x

/-! ### Comparison with integers -/

/-- Is the number, not counting `NaN`, at least one? -/
def atLeastOne (x : Binary64) : Bool :=
  !x.isNegative && !x.isNaN && 0x3FF * Nat.pow 2 52 ≤ x.magnitude

/-- Is the number equal to one? -/
def isOne (x : Binary64) : Bool :=
  !x.isNegative && x.magnitude = 0x3FF * Nat.pow 2 52

end Binary64

end TxDraft
