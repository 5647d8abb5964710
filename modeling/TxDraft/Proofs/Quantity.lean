import Mathlib.Tactic.IntervalCases
import TxDraft.Quantity

/-!
# Quantities read back

The decimal text of a quantity is read back exactly if it has no more digits than are read
(`read_print_eq_ok_iff`); a longer one is refused for its length.
-/

namespace TxDraft.Quantity

open Text (isAsciiDigit decimalValue)

/-- A quantity with no more digits than are read. -/
def Short (n : Int) : Prop :=
  n.natAbs < 10 ^ maxDigits

/-- The quantity that a value stands for, zero if it stands for none. -/
def amountOf (v : Json) : Int :=
  match read v with
  | .ok n => n
  | .error _ => 0

theorem amountOf_of_read {v : Json} {n : Int} (h : read v = .ok n) : amountOf v = n := by
  rw [amountOf, h]

/-- The digits of a quantity, without its sign. -/
def digits (n : Int) : List Char :=
  Nat.toDigits 10 n.natAbs

/-! ### Digits -/

theorem length_digits_le_iff {n : Int} : (digits n).length ≤ maxDigits ↔ Short n :=
  Nat.length_toDigits_le_iff (by decide) (by decide)

theorem isShort_iff {n : Int} : isShort n = true ↔ Short n := by
  rw [isShort, decide_eq_true_iff]
  exact length_digits_le_iff

theorem short_zero : Short 0 :=
  length_digits_le_iff.mp (by decide)

theorem isAsciiDigit_of_mem_digits {n : Int} {c : Char} (h : c ∈ digits n) :
    isAsciiDigit c = true := by
  have hdigit : c.isDigit = true := Nat.isDigit_of_mem_toDigits (by decide) (by decide) h
  simp only [Char.isDigit, Bool.and_eq_true, decide_eq_true_eq] at hdigit
  simp only [isAsciiDigit, Bool.and_eq_true, decide_eq_true_eq]
  exact hdigit

theorem isBlank_of_isAsciiDigit {c : Char} (h : isAsciiDigit c = true) :
    Text.isBlank c = false := by
  have hall : ∀ n, 0x30 ≤ n → n ≤ 0x39 → Text.inRanges Text.blankRanges n = false := by
    intro n h₁ h₂
    interval_cases n <;> decide
  simp only [isAsciiDigit, Bool.and_eq_true, decide_eq_true_eq] at h
  exact hall c.toNat h.1 h.2

theorem decimalValue_eq_ofDigitChars (cs : List Char) :
    decimalValue cs = Nat.ofDigitChars 10 cs 0 := by
  rw [decimalValue, Nat.ofDigitChars_eq_foldl]
  simp only [Nat.mul_comm]
  rfl

theorem decimalValue_digits (n : Int) : decimalValue (digits n) = n.natAbs := by
  rw [decimalValue_eq_ofDigitChars]
  exact Nat.ofDigitChars_ten_toDigits

/-! ### Reading what was printed -/

theorem toList_print (n : Int) :
    (print n).toList = if n < 0 then '-' :: digits n else digits n := by
  rw [print, Int.toString_eq_repr, Int.repr_eq_if]
  rcases Int.lt_or_le n 0 with h | h
  · rw [if_neg (Int.not_le.mpr h), if_pos h, digits, show n.natAbs = (-n).toNat by omega]
    simp
  · rw [if_pos h, if_neg (Int.not_lt.mpr h), digits, show n.natAbs = n.toNat by omega]
    simp

theorem stripChars_toList_print (n : Int) :
    Text.stripChars (print n).toList = (print n).toList := by
  apply Text.stripChars_eq_self
  intro c hc
  rw [toList_print] at hc
  -- a printed quantity is made of a minus and digits, none of which is blank
  split at hc
  · rcases List.mem_cons.mp hc with rfl | hc
    · decide
    · exact isBlank_of_isAsciiDigit (isAsciiDigit_of_mem_digits hc)
  · exact isBlank_of_isAsciiDigit (isAsciiDigit_of_mem_digits hc)

theorem spanSign_digits (n : Int) : spanSign (digits n) = (false, digits n) := by
  have hsign : ∀ {c : Char} {rest : List Char}, digits n = c :: rest → isAsciiDigit c = true := by
    intro c rest h
    exact isAsciiDigit_of_mem_digits (h ▸ List.mem_cons_self)
  unfold spanSign
  -- neither sign is a digit
  split
  · next h => exact absurd (hsign h) (by decide)
  · next h => exact absurd (hsign h) (by decide)
  · rfl

theorem spanSign_print (n : Int) :
    spanSign (print n).toList = (decide (n < 0), digits n) := by
  rw [toList_print]
  by_cases h : n < 0
  · rw [if_pos h, decide_eq_true h]
    rfl
  · rw [if_neg h, decide_eq_false h, spanSign_digits]

theorem signed_digits (n : Int) : signed (decide (n < 0)) (digits n) = n := by
  unfold signed
  rw [decimalValue_digits]
  split
  · next h =>
    have := of_decide_eq_true h
    omega
  · next h =>
    have : ¬ n < 0 := by simpa using h
    omega

/-- A printed quantity is read back if it is short, and else refused for its length. -/
theorem read_print (n : Int) :
    read (.str (print n)) =
      if (digits n).length ≤ maxDigits then .ok n
      else .error (.tooManyDigits (digits n).length) := by
  have hne : (digits n).isEmpty = false := by
    rw [List.isEmpty_eq_false_iff]
    exact Nat.toDigits_ne_nil
  have hall : (digits n).all isAsciiDigit = true :=
    List.all_eq_true.mpr fun c hc => isAsciiDigit_of_mem_digits hc
  rw [read, readText, Json.Str.string_plain, stripChars_toList_print, spanSign_print]
  simp only [hne, hall, signed_digits, Bool.not_true, Bool.or_self, Bool.false_eq_true, if_false]
  by_cases h : (digits n).length ≤ maxDigits
  · rw [if_neg (Nat.not_lt.mpr h), if_pos h]
  · rw [if_pos (Nat.not_le.mp h), if_neg h]

/-- A printed quantity is read back exactly if it is short. -/
theorem read_print_eq_ok_iff {n m : Int} :
    read (.str (print n)) = .ok m ↔ Short n ∧ n = m := by
  rw [read_print, ← length_digits_le_iff]
  split
  · next h => simp [h]
  · next h => simp [h]

end TxDraft.Quantity
