import TxDraft.Bytes

/-!
# Base64 text

Bytes as characters of a set of sixty-four, three bytes as four characters, padded at the end.
-/

namespace TxDraft.Base64

/-- The sixty-four characters. -/
def alphabet : List Char :=
  "ABCDEFGHIJKLMNOPQRSTUVWXYZabcdefghijklmnopqrstuvwxyz0123456789+/".toList

/-- The character for six bits. -/
def digit (n : Nat) : Char :=
  alphabet.getD (n % 64) '='

/-- The characters for the bytes. -/
def encodeChars : Bytes → List Char
  | [] => []
  | [a] =>
    let n := a.toNat * 16
    [digit (n / 64), digit n, '=', '=']
  | [a, b] =>
    let n := (a.toNat * 256 + b.toNat) * 4
    [digit (n / 4096), digit (n / 64), digit n, '=']
  | a :: b :: c :: rest =>
    let n := (a.toNat * 256 + b.toNat) * 256 + c.toNat
    digit (n / 262144) :: digit (n / 4096) :: digit (n / 64) :: digit n :: encodeChars rest

/-- The text for the bytes. -/
def encode (bytes : Bytes) : String :=
  String.ofList (encodeChars bytes)

end TxDraft.Base64
