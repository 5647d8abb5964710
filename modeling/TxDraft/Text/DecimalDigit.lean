/-!
# Decimal digits

Every script with decimal digits holds its ten digits in ten consecutive code points, so a table of
the zeros is enough.  `digitValue?` reads a digit of any script, `asciiDigitValue?` only `0` to
`9`, and `decimalValue` is the number that a row of ASCII digits denotes.  `spanDigits` reads the
digits in front of a text, between two of which a single underscore may stand.
-/

namespace TxDraft.Text

/-- The code points of the digit zero in each script. -/
def digitZeros : List Nat :=
  [0x30, 0x660, 0x6F0, 0x7C0, 0x966, 0x9E6, 0xA66, 0xAE6, 0xB66, 0xBE6, 0xC66, 0xCE6, 0xD66,
   0xDE6, 0xE50, 0xED0, 0xF20, 0x1040, 0x1090, 0x17E0, 0x1810, 0x1946, 0x19D0, 0x1A80, 0x1A90,
   0x1B50, 0x1BB0, 0x1C40, 0x1C50, 0xA620, 0xA8D0, 0xA900, 0xA9D0, 0xA9F0, 0xAA50, 0xABF0,
   0xFF10, 0x104A0, 0x10D30, 0x11066, 0x110F0, 0x11136, 0x111D0, 0x112F0, 0x11450, 0x114D0,
   0x11650, 0x116C0, 0x11730, 0x118E0, 0x11950, 0x11C50, 0x11D50, 0x11DA0, 0x16A60, 0x16AC0,
   0x16B50, 0x1D7CE, 0x1D7D8, 0x1D7E2, 0x1D7EC, 0x1D7F6, 0x1E140, 0x1E2F0, 0x1E950, 0x1FBF0]

/-- The value of a decimal digit of any script. -/
def digitValue? (c : Char) : Option Nat :=
  (digitZeros.find? fun z => z ≤ c.toNat && c.toNat < z + 10).map fun z => c.toNat - z

/-- Is the character one of the ASCII digits? -/
def isAsciiDigit (c : Char) : Bool :=
  0x30 ≤ c.toNat && c.toNat ≤ 0x39

/-- The value of an ASCII digit. -/
def asciiDigitValue? (c : Char) : Option Nat :=
  if isAsciiDigit c then some (c.toNat - 0x30) else none

/-- The natural number that a row of ASCII digits denotes. -/
def decimalValue (cs : List Char) : Nat :=
  cs.foldl (fun n c => n * 10 + (c.toNat - 0x30)) 0

/-- The value of a digit, for the class of digits that is allowed. -/
abbrev DigitClass := Char → Option Nat

/-- The digits in front, with their count and the value that they add to; an underscore is skipped
between two digits. -/
def spanDigits (digit : DigitClass) : (value count : Nat) → List Char → Nat × Nat × List Char
  | value, count, [] => (value, count, [])
  | value, count, c :: rest =>
    match digit c with
    | some d => spanDigits digit (value * 10 + d) (count + 1) rest
    | none =>
      match c, count, rest with
      | '_', _ + 1, next :: rest' =>
        match digit next with
        | some d => spanDigits digit (value * 10 + d) (count + 1) rest'
        | none => (value, count, c :: rest)
      | _, _, _ => (value, count, c :: rest)

/-- A sign in front: whether it is a minus, and what follows. -/
def spanSign : List Char → Bool × List Char
  | '+' :: rest => (false, rest)
  | '-' :: rest => (true, rest)
  | rest => (false, rest)

end TxDraft.Text
