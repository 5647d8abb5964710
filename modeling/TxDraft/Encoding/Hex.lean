import TxDraft.Bytes

/-!
# Hexadecimal text

Bytes as pairs of hexadecimal digits.  Writing uses lower case; reading takes either case and skips
ASCII blanks between the pairs, but not inside one.
-/

namespace TxDraft.Hex

/-- The hexadecimal digit of a number below sixteen. -/
def digit (n : Nat) : Char :=
  if n < 10 then Char.ofNat (0x30 + n) else Char.ofNat (0x57 + n)

/-- The value of a hexadecimal digit of either case. -/
def value? (c : Char) : Option Nat :=
  if '0' ≤ c && c ≤ '9' then some (c.toNat - 0x30)
  else if 'a' ≤ c && c ≤ 'f' then some (c.toNat - 0x57)
  else if 'A' ≤ c && c ≤ 'F' then some (c.toNat - 0x37)
  else none

/-- Is the character one of the six blanks of ASCII (space, tab, and the four line breaks)? -/
def isBlank (c : Char) : Bool :=
  c.toNat = 0x20 || (0x09 ≤ c.toNat && c.toNat ≤ 0x0D)

/-- The digits of the bytes. -/
def encodeChars : Bytes → List Char
  | [] => []
  | b :: rest => digit (b.toNat / 16) :: digit (b.toNat % 16) :: encodeChars rest

/-- The bytes in lower-case hexadecimal. -/
def encode (bytes : Bytes) : String :=
  String.ofList (encodeChars bytes)

/-- The bytes that the digits stand for. -/
def decodeChars? : List Char → Option Bytes
  | [] => some []
  | [c] => if isBlank c then some [] else none
  | c :: d :: rest =>
    if isBlank c then decodeChars? (d :: rest)
    else
      match value? c, value? d with
      | some high, some low => (decodeChars? rest).map (UInt8.ofNat (high * 16 + low) :: ·)
      | _, _ => none

/-- The bytes that the text stands for. -/
def decode? (s : String) : Option Bytes :=
  decodeChars? s.toList

/-- Is the character a lower-case hexadecimal digit? -/
def isLowerDigit (c : Char) : Bool :=
  ('0' ≤ c && c ≤ '9') || ('a' ≤ c && c ≤ 'f')

end TxDraft.Hex
