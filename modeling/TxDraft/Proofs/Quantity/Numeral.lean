import Mathlib.Data.Nat.Digits.Defs
import TxDraft.Proofs.Quantity
import TxDraft.Proofs.Text.Blank
import TxDraft.Proofs.Utxo.ReadBack

/-!
# Numerals

A numeral is at most one sign and between one and `maxDigits` ASCII digits, and it denotes an
integer.  The texts that are read as quantities are the numerals with blanks around them, and what
is read is what the numeral denotes (`readText_eq_ok_iff`).

The decimal text of a short integer is a numeral for it (`exists_numeral`).  So such an integer is
read back from its text, whatever blanks are put around it, and the amounts that the record of an
output shows are read as the amounts of the output (`read_numerals`).
-/

namespace TxDraft

namespace Quantity

open Text (isAsciiDigit isBlank decimalValue Padded Trimmed)

/-! ### What numerals are -/

/-- What may stand in front of the digits of a numeral. -/
inductive Sign where
  | none
  | plus
  | minus

namespace Sign

def chars : Sign → List Char
  | none => []
  | plus => ['+']
  | minus => ['-']

def isMinus : Sign → Bool
  | minus => true
  | _ => false

/-- The integer of this magnitude. -/
def apply : Sign → Nat → Int
  | minus, n => -n
  | _, n => n

end Sign

/-- A sign, if any, and digits, of which there are some, but no more than are read. -/
structure Numeral where
  sign : Sign
  /-- The digits, the most significant first. -/
  digits : List (Fin 10)
  ne_nil : digits ≠ []
  length_le : digits.length ≤ maxDigits

namespace Numeral

/-- The characters of digits. -/
def written (digits : List (Fin 10)) : List Char :=
  digits.map fun d : Fin 10 => Nat.digitChar d

/-- The characters of a numeral. -/
def chars (m : Numeral) : List Char :=
  m.sign.chars ++ written m.digits

/-- The number that the digits denote in the decimal system. -/
def magnitude (digits : List (Fin 10)) : Nat :=
  Nat.ofDigits 10 (digits.reverse.map Fin.val)

/-- The integer that a numeral denotes. -/
def value (m : Numeral) : Int :=
  m.sign.apply (magnitude m.digits)

end Numeral

open Numeral

/-! ### Digits and their characters -/

theorem toNat_digitChar (d : Fin 10) : (Nat.digitChar d).toNat = 0x30 + d := by
  revert d
  decide

theorem isAsciiDigit_digitChar (d : Fin 10) : isAsciiDigit (Nat.digitChar d) = true := by
  have hd : d.val < 10 := d.isLt
  simp only [isAsciiDigit, toNat_digitChar, Bool.and_eq_true, decide_eq_true_eq]
  omega

theorem exists_digitChar_eq {c : Char} (h : isAsciiDigit c = true) :
    ∃ d : Fin 10, Nat.digitChar d = c := by
  simp only [isAsciiDigit, Bool.and_eq_true, decide_eq_true_eq] at h
  refine ⟨⟨c.toNat - 0x30, by omega⟩, Char.toNat_inj.mp ?_⟩
  rw [toNat_digitChar]
  show 0x30 + (c.toNat - 0x30) = c.toNat
  omega

theorem isAsciiDigit_of_mem_written {digits : List (Fin 10)} {c : Char} (h : c ∈ written digits) :
    isAsciiDigit c = true := by
  obtain ⟨d, -, rfl⟩ := List.mem_map.mp h
  exact isAsciiDigit_digitChar d

/-- Every row of ASCII digits is written from digits. -/
theorem exists_written_eq {cs : List Char} (h : ∀ c ∈ cs, isAsciiDigit c = true) :
    ∃ digits, written digits = cs := by
  induction cs with
  | nil => exact ⟨[], rfl⟩
  | cons c rest ih =>
    obtain ⟨hc, hrest⟩ := List.forall_mem_cons.mp h
    obtain ⟨d, rfl⟩ := exists_digitChar_eq hc
    obtain ⟨digits, rfl⟩ := ih hrest
    exact ⟨d :: digits, rfl⟩

/-- Reading digit by digit from the left gives what the digits denote. -/
theorem decimalValue_written (digits : List (Fin 10)) :
    decimalValue (written digits) = magnitude digits := by
  induction digits using List.reverseRecOn with
  | nil => rfl
  | append_singleton digits d ih =>
    have hread : decimalValue (written (digits ++ [d])) =
        decimalValue (written digits) * 10 + ((Nat.digitChar d).toNat - 0x30) := by
      rw [decimalValue, written, List.map_append, List.foldl_append]
      rfl
    have hdenote : magnitude (digits ++ [d]) = d + 10 * magnitude digits := by
      rw [magnitude, List.reverse_append]
      exact Nat.ofDigits_cons
    rw [hread, hdenote, ih, toNat_digitChar]
    omega

/-! ### Signs -/

/-- A sign is cut off the front of digits. -/
theorem spanSign_append (sign : Sign) {digits : List (Fin 10)} (hne : digits ≠ []) :
    spanSign (sign.chars ++ written digits) = (sign.isMinus, written digits) := by
  cases sign with
  | plus => rfl
  | minus => rfl
  | none =>
    obtain ⟨d, rest, rfl⟩ := List.exists_cons_of_ne_nil hne
    have hdigit : isAsciiDigit (Nat.digitChar d) = true := isAsciiDigit_digitChar d
    show spanSign (Nat.digitChar d :: written rest) = (false, Nat.digitChar d :: written rest)
    unfold spanSign
    -- neither sign is a digit
    split
    · next h => exact absurd ((List.cons.inj h).1 ▸ hdigit) (by decide)
    · next h => exact absurd ((List.cons.inj h).1 ▸ hdigit) (by decide)
    · rfl

theorem exists_sign (cs : List Char) :
    ∃ sign : Sign, sign.isMinus = (spanSign cs).1 ∧ sign.chars ++ (spanSign cs).2 = cs := by
  unfold spanSign
  split
  · exact ⟨.plus, rfl, rfl⟩
  · exact ⟨.minus, rfl, rfl⟩
  · exact ⟨.none, rfl, rfl⟩

theorem isBlank_of_mem_sign {sign : Sign} {c : Char} (h : c ∈ sign.chars) : isBlank c = false := by
  cases sign with
  | none => cases h
  | plus =>
    obtain rfl := List.mem_singleton.mp h
    decide
  | minus =>
    obtain rfl := List.mem_singleton.mp h
    decide

theorem signed_written (sign : Sign) (digits : List (Fin 10)) :
    signed sign.isMinus (written digits) = sign.apply (magnitude digits) := by
  rw [signed, decimalValue_written]
  cases sign <;> rfl

/-! ### Reading numerals -/

/-- No character of a numeral is blank. -/
theorem Numeral.trimmed (m : Numeral) : Trimmed m.chars := by
  have hnone : ∀ c ∈ m.chars, isBlank c = false := by
    intro c hc
    rcases List.mem_append.mp hc with hsign | hdigit
    · exact isBlank_of_mem_sign hsign
    · exact isBlank_of_isAsciiDigit (isAsciiDigit_of_mem_written hdigit)
  exact ⟨fun c hc => hnone c (List.mem_of_head? hc), fun c hc => hnone c (List.mem_of_getLast? hc)⟩

/-- A text is read if behind its sign there are digits, neither none nor too many. -/
theorem readText_eq_ok_iff {s : Json.Str} {n : Int} :
    readText s = .ok n ↔
      (spanSign (Text.stripChars s.string.toList)).2 ≠ [] ∧
        (∀ c ∈ (spanSign (Text.stripChars s.string.toList)).2, isAsciiDigit c = true) ∧
        (spanSign (Text.stripChars s.string.toList)).2.length ≤ maxDigits ∧
        signed (spanSign (Text.stripChars s.string.toList)).1
          (spanSign (Text.stripChars s.string.toList)).2 = n := by
  rw [readText]
  rcases spanSign (Text.stripChars s.string.toList) with ⟨negative, digits⟩
  simp only
  split
  next hbad =>
    rw [Bool.or_eq_true, List.isEmpty_iff, Bool.not_eq_true', ← Bool.not_eq_true,
      List.all_eq_true] at hbad
    constructor
    · rintro ⟨⟩
    · rintro ⟨hne, hall, -, -⟩
      exact absurd hall (hbad.resolve_left hne)
  next hgood =>
    rw [Bool.or_eq_true, not_or, List.isEmpty_iff, Bool.not_eq_true', Bool.not_eq_false,
      List.all_eq_true] at hgood
    split
    next hlong =>
      constructor
      · rintro ⟨⟩
      · rintro ⟨-, -, hshort, -⟩
        exact absurd hlong (Nat.not_lt.mpr hshort)
    next hshort =>
      rw [Except.ok.injEq]
      exact ⟨fun hn => ⟨hgood.1, hgood.2, Nat.not_lt.mp hshort, hn⟩, fun h => h.2.2.2⟩

/-- A text is read as an integer if what stripping leaves of it is a numeral that denotes it. -/
theorem readText_eq_ok_iff_numeral {s : Json.Str} {n : Int} :
    readText s = .ok n ↔
      ∃ m : Numeral, m.value = n ∧ Text.stripChars s.string.toList = m.chars := by
  rw [readText_eq_ok_iff]
  constructor
  · rintro ⟨hne, hall, hshort, hvalue⟩
    obtain ⟨sign, hminus, happend⟩ := exists_sign (Text.stripChars s.string.toList)
    obtain ⟨digits, hwritten⟩ := exists_written_eq hall
    rw [← hwritten] at hne hshort hvalue happend
    rw [← hminus, signed_written] at hvalue
    have hsome : digits ≠ [] := by
      rintro rfl
      exact hne rfl
    have hfew : digits.length ≤ maxDigits := by
      rwa [written, List.length_map] at hshort
    exact ⟨⟨sign, digits, hsome, hfew⟩, hvalue, happend.symm⟩
  · rintro ⟨⟨sign, digits, hsome, hfew⟩, rfl, hstrip⟩
    have hspan : spanSign (Text.stripChars s.string.toList) = (sign.isMinus, written digits) := by
      rw [hstrip]
      exact spanSign_append sign hsome
    rw [hspan]
    refine ⟨?_, ?_, ?_, signed_written sign digits⟩
    · exact fun hnil => hsome (List.map_eq_nil_iff.mp hnil)
    · exact fun c hc => isAsciiDigit_of_mem_written hc
    · rwa [written, List.length_map]

theorem Numeral.isAsciiDigit_or_mem (m : Numeral) {c : Char} (h : c ∈ m.chars) :
    isAsciiDigit c = true ∨ c ∈ ['+', '-'] := by
  rcases List.mem_append.mp h with hsign | hdigit
  · refine .inr ?_
    cases hs : m.sign <;> simp_all [Sign.chars]
  · exact .inl (isAsciiDigit_of_mem_written hdigit)

/-- With blanks around it a numeral is plain text. -/
theorem Numeral.eq_plain_of_padded {m : Numeral} {s : Json.Str}
    (h : Padded m.chars s.string.toList) : s = .plain s.string := by
  apply Json.Str.eq_plain
  obtain ⟨before, after, hbefore, hafter, hs⟩ := h
  rw [hs, List.mem_append, List.mem_append]
  rintro ((hc | hc) | hc)
  · exact absurd (hbefore _ hc) (by decide)
  · exact absurd (m.isAsciiDigit_or_mem hc) (by decide)
  · exact absurd (hafter _ hc) (by decide)

/-- The strings that are read are the numerals with blanks around them. -/
theorem readText_eq_ok_iff_padded {s : Json.Str} {n : Int} :
    readText s = .ok n ↔
      ∃ (m : Numeral) (t : String), m.value = n ∧ s = t ∧ Padded m.chars t.toList := by
  rw [readText_eq_ok_iff_numeral]
  simp only [Text.stripChars_eq_iff (trimmed _)]
  constructor
  · rintro ⟨m, hvalue, hpadded⟩
    exact ⟨m, s.string, hvalue, m.eq_plain_of_padded hpadded, hpadded⟩
  · rintro ⟨m, t, hvalue, rfl, hpadded⟩
    exact ⟨m, hvalue, hpadded⟩

/-! ### Numerals of integers -/

/-- The decimal text of a short integer is a numeral, which denotes the integer. -/
theorem exists_numeral {n : Int} (h : Short n) :
    ∃ m : Numeral, m.value = n ∧ m.chars = (print n).toList := by
  obtain ⟨fs, hfs⟩ := exists_written_eq fun c hc => isAsciiDigit_of_mem_digits (n := n) hc
  have hsome : fs ≠ [] := by
    rintro rfl
    exact Nat.toDigits_ne_nil hfs.symm
  have hfew : fs.length ≤ maxDigits := by
    rw [← length_digits_le_iff, ← hfs, written, List.length_map] at h
    exact h
  have hvalue : magnitude fs = n.natAbs := by
    rw [← decimalValue_written, hfs, decimalValue_digits]
  rw [toList_print, ← hfs]
  by_cases hn : n < 0
  · refine ⟨⟨.minus, fs, hsome, hfew⟩, ?_, (if_pos hn).symm⟩
    show -(magnitude fs : Int) = n
    omega
  · refine ⟨⟨.none, fs, hsome, hfew⟩, ?_, (if_neg hn).symm⟩
    show (magnitude fs : Int) = n
    omega

/-- A short integer is read from its decimal text, whatever blanks are put around it. -/
theorem readText_of_padded {n : Int} (h : Short n) {s : String}
    (hs : Padded (print n).toList s.toList) : readText s = .ok n := by
  obtain ⟨m, hvalue, hchars⟩ := exists_numeral h
  exact readText_eq_ok_iff_padded.mpr ⟨m, s, hvalue, rfl, hchars ▸ hs⟩

/-! ### Amounts of outputs -/

/-- A field of a record shows a quantity under its key. -/
def Shows (e : String × Int) (shown : Json.Str × Json) : Prop :=
  shown.1 = e.1 ∧ read shown.2 = .ok e.2

/-- The amounts that a record shows are read as the amounts of the output: its lovelace, and
quantities for the same assets in the same order. -/
def ShowsAmounts (u : Utxo) : Json → Prop
  | .obj fields =>
    read (Json.field fields "lovelace") = .ok u.lovelace ∧
      ∃ assets, Json.field fields "assets" = .obj assets ∧ List.Forall₂ Shows u.assets assets
  | _ => False

theorem read_str_print {n : Int} (h : Short n) : read (.str (print n)) = .ok n :=
  read_print_eq_ok_iff.mpr ⟨h, rfl⟩

theorem shows_printed {assets : Entries String Int} (h : ∀ e ∈ assets, Short e.2) :
    List.Forall₂ Shows assets (Json.plainFields (assets.mapValues fun n => .str (print n))) := by
  induction assets with
  | nil => exact .nil
  | cons e rest ih =>
    obtain ⟨he, hrest⟩ := List.forall_mem_cons.mp h
    exact .cons ⟨rfl, read_str_print he⟩ (ih hrest)

theorem showsAmounts_toJson {u : Utxo} (h : u.Legible) : ShowsAmounts u u.toJson :=
  ⟨read_str_print h.lovelace, _, rfl, shows_printed h.assets⟩

/-- A string is read as a quantity exactly if it is a numeral with blanks around it, and then as
what the numeral denotes.  So a short integer is read from its decimal text with any blanks around
it, and the amounts in the record of an output are read as its amounts. -/
theorem read_numerals :
    (∀ (s : Json.Str) (n : Int),
      read (.str s) = .ok n ↔
        ∃ (m : Numeral) (t : String), m.value = n ∧ s = t ∧ Padded m.chars t.toList) ∧
    (∀ n, Short n → ∀ s : String, Padded (print n).toList s.toList → read (.str s) = .ok n) ∧
    (∀ u : Utxo, u.Legible → ShowsAmounts u u.toJson) := by
  refine ⟨?_, ?_, ?_⟩
  · intro s n
    exact readText_eq_ok_iff_padded
  · intro n hshort s hpadded
    exact readText_of_padded hshort hpadded
  · intro u hlegible
    exact showsAmounts_toJson hlegible

/-- Leading zeros and blanks of other scripts do not matter. -/
theorem read_numerals_spaced :
    read (.str "\t-007\u3000") = .ok (-7) ∧
      Short (-15) ∧ read (.str " -15\n") = .ok (-15) ∧
      Utxo.fundedUtxo.Legible ∧ ShowsAmounts Utxo.fundedUtxo Utxo.fundedUtxo.toJson := by
  obtain ⟨hread, hback, hshows⟩ := read_numerals
  have hseven : read (.str "\t-007\u3000") = .ok (-7) := by
    refine (hread _ _).mpr ⟨⟨.minus, [0, 0, 7], by decide, by decide⟩, _, by decide, rfl, ?_⟩
    exact ⟨['\t'], ['\u3000'], List.forall_mem_singleton.mpr (by decide),
      List.forall_mem_singleton.mpr (by decide), by decide⟩
  have hshort : ∀ n : Int, (digits n).length ≤ maxDigits → Short n :=
    fun n => length_digits_le_iff.mp
  have hfifteen : read (.str " -15\n") = .ok (-15) := by
    refine hback (-15) (hshort _ (by decide)) _ ?_
    exact ⟨[' '], ['\n'], List.forall_mem_singleton.mpr (by decide),
      List.forall_mem_singleton.mpr (by decide), by decide⟩
  have hlegible : Utxo.fundedUtxo.Legible :=
    ⟨hshort 5000000 (by decide), List.forall_mem_singleton.mpr (hshort 7 (by decide))⟩
  exact ⟨hseven, hshort _ (by decide), hfifteen, hlegible, hshows _ hlegible⟩

end Quantity

end TxDraft
