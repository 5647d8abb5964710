/-!
# Bytes

Rows of bytes, and natural numbers written as rows of bytes.
-/

namespace TxDraft

/-- A row of bytes. -/
abbrev Bytes := List UInt8

namespace Bytes

/-- The bytes of a text in UTF-8. -/
def ofText (s : String) : Bytes :=
  s.toUTF8.toList

/-- A natural number in exactly `width` bytes, the most significant first; higher bytes are lost. -/
def bigEndian : (width : Nat) → Nat → Bytes
  | 0, _ => []
  | width + 1, n => bigEndian width (n / 256) ++ [UInt8.ofNat (n % 256)]

/-- The natural number that the bytes denote, the most significant first. -/
def toNat (bytes : Bytes) : Nat :=
  bytes.foldl (fun n b => n * 256 + b.toNat) 0

/-- How many bytes a natural number takes at least; none for zero. -/
def widthOf (n : Nat) : Nat :=
  if n = 0 then 0 else Nat.log2 n / 8 + 1

/-- Is the first row before the second in the order of dictionaries? -/
def precedes : Bytes → Bytes → Bool
  | _, [] => false
  | [], _ :: _ => true
  | a :: as, b :: bs => a < b || (a == b && precedes as bs)

@[simp] theorem length_bigEndian (width n : Nat) : (bigEndian width n).length = width := by
  induction width generalizing n with
  | zero => rfl
  | succ width ih => simp [bigEndian, ih]

end Bytes

end TxDraft
