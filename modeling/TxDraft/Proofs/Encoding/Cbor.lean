import Mathlib.Algebra.Group.Int.Defs
import Mathlib.Algebra.Group.Nat.Defs
import Mathlib.Tactic.SplitIfs
import TxDraft.Encoding.Cbor

/-!
# Sizes of items

A head takes one, two, three, five or nine bytes, as its argument asks for (`length_head`).  So an
integer that is not negative fits in five bytes exactly if it is below `2 ^ 32`
(`size_int_le_five_iff`): from there on its head takes nine, and one that is too large even for such
a head becomes a string of more than eight bytes.
-/

namespace TxDraft

/-- A number that is not below `256 ^ width` takes more bytes than that. -/
theorem Bytes.lt_widthOf {width n : Nat} (h : 2 ^ (8 * width) ≤ n) : width < widthOf n := by
  have hne : n ≠ 0 := by
    have hpos : 0 < 2 ^ (8 * width) := Nat.two_pow_pos _
    omega
  have hlog : 8 * width ≤ Nat.log2 n := (Nat.le_log2 hne).mpr h
  rw [widthOf, if_neg hne]
  omega

namespace Cbor

theorem length_head (major argument : Nat) :
    (head major argument).length =
      if argument < 24 then 1
      else if argument < 2 ^ 8 then 2
      else if argument < 2 ^ 16 then 3
      else if argument < 2 ^ 32 then 5
      else 9 := by
  unfold head
  simp only [Nat.pow_eq]
  split_ifs <;> simp

theorem length_encodeBytes (b : Bytes) :
    (encodeBytes b).length = (head 2 b.length).length + b.length := by
  rw [encodeBytes, List.length_append]

/-- Five bytes are enough below `2 ^ 32`, and not from there on. -/
theorem length_encodeNat_le_five_iff (major bigTag n : Nat) :
    (encodeNat major bigTag n).length ≤ 5 ↔ n < 2 ^ 32 := by
  unfold encodeNat
  simp only [Nat.pow_eq]
  split
  · rw [length_head]
    split_ifs <;> omega
  · next hlarge =>
    -- a byte string, of nine bytes or more
    have hwidth : 8 < Bytes.widthOf n := Bytes.lt_widthOf (Nat.not_lt.mp hlarge)
    rw [List.length_append, length_encodeBytes, Bytes.length_bigEndian]
    omega

theorem size_int_le_five_iff {n : Int} (h : 0 ≤ n) : (int n).size ≤ 5 ↔ n < 2 ^ 32 := by
  rw [size, encode, encodeInt, if_pos h, length_encodeNat_le_five_iff]
  omega

end Cbor

end TxDraft
