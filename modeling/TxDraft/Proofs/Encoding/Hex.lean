import TxDraft.Encoding.Hex
import TxDraft.Proofs.Lexicon

/-!
# Bytes and their hexadecimal text

Reading the text of bytes gives the bytes back (`decode?_encode`), and every text of whole bytes in
lower case is the text of some (`exists_encode_eq`).
-/

namespace TxDraft.Hex

open Lexicon

/-! ### Digits -/

theorem value?_digit {n : Nat} (h : n < 16) : value? (digit n) = some n := by
  have hall : ∀ n < 16, value? (digit n) = some n := by decide
  exact hall n h

theorem isBlank_digit {n : Nat} (h : n < 16) : isBlank (digit n) = false := by
  have hall : ∀ n < 16, isBlank (digit n) = false := by decide
  exact hall n h

theorem hexDigit_digit {n : Nat} (h : n < 16) : HexDigit (digit n) := by
  have hall : ∀ n < 16, isLowerDigit (digit n) = true := by decide
  exact (isLowerDigit_iff _).mp (hall n h)

/-- Every digit in lower case is the digit of a number. -/
theorem exists_digit_eq {c : Char} (h : HexDigit c) : ∃ n < 16, digit n = c := by
  refine h.of_ascii (P := fun c => ∃ n < 16, digit n = c) ?_
  decide +kernel

/-! ### Bytes -/

theorem hexDigit_of_mem_encodeChars {bytes : Bytes} {c : Char} (h : c ∈ encodeChars bytes) :
    HexDigit c := by
  induction bytes with
  | nil => cases h
  | cons b rest ih =>
    have hbyte := b.toNat_lt
    rw [encodeChars, List.mem_cons, List.mem_cons] at h
    rcases h with rfl | rfl | h
    · exact hexDigit_digit (by omega)
    · exact hexDigit_digit (by omega)
    · exact ih h

theorem length_encodeChars (bytes : Bytes) : (encodeChars bytes).length = 2 * bytes.length := by
  induction bytes with
  | nil => rfl
  | cons b rest ih =>
    rw [encodeChars, List.length_cons, List.length_cons, ih, List.length_cons]
    omega

theorem decodeChars?_encodeChars (bytes : Bytes) :
    decodeChars? (encodeChars bytes) = some bytes := by
  induction bytes with
  | nil => rfl
  | cons b rest ih =>
    have hhigh : b.toNat / 16 < 16 := by
      have := b.toNat_lt
      omega
    have hlow : b.toNat % 16 < 16 := Nat.mod_lt _ (by decide)
    have hbyte : UInt8.ofNat (b.toNat / 16 * 16 + b.toNat % 16) = b := by
      rw [Nat.div_add_mod', UInt8.ofNat_toNat]
    rw [encodeChars, decodeChars?, isBlank_digit hhigh, value?_digit hhigh, value?_digit hlow, ih]
    simp only [Bool.false_eq_true, if_false, Option.map_some, hbyte]

theorem encodeChars_cons_ofNat {high low : Nat} (hhigh : high < 16) (hlow : low < 16)
    (bytes : Bytes) :
    encodeChars (UInt8.ofNat (high * 16 + low) :: bytes) =
      digit high :: digit low :: encodeChars bytes := by
  have hbyte : (UInt8.ofNat (high * 16 + low)).toNat = high * 16 + low := by
    rw [UInt8.toNat_ofNat', Nat.mod_eq_of_lt (by omega)]
  have hdiv : (high * 16 + low) / 16 = high := by omega
  have hmod : (high * 16 + low) % 16 = low := by omega
  rw [encodeChars, hbyte, hdiv, hmod]

/-- Whole bytes in lower case are the text of some bytes. -/
theorem exists_encodeChars_eq : ∀ {cs : List Char}, HexBytes cs → ∃ bytes, encodeChars bytes = cs
  | [], _ => ⟨[], rfl⟩
  | [_], h => absurd h.1 (show ¬ 2 ∣ 1 by decide)
  | c :: d :: rest, ⟨heven, hdigits⟩ => by
    obtain ⟨hc, hd, hrest⟩ : HexDigit c ∧ HexDigit d ∧ ∀ e ∈ rest, HexDigit e := by
      simpa only [List.forall_mem_cons] using hdigits
    have hrestEven : 2 ∣ rest.length := (Nat.dvd_add_left (Nat.dvd_refl 2)).mp heven
    obtain ⟨bytes, rfl⟩ := exists_encodeChars_eq ⟨hrestEven, hrest⟩
    obtain ⟨high, hhigh, rfl⟩ := exists_digit_eq hc
    obtain ⟨low, hlow, rfl⟩ := exists_digit_eq hd
    exact ⟨_, encodeChars_cons_ofNat hhigh hlow bytes⟩

/-! ### Texts -/

theorem decode?_encode (bytes : Bytes) : decode? (encode bytes) = some bytes := by
  rw [decode?, encode, String.toList_ofList, decodeChars?_encodeChars]

theorem encode_injective {bytes bytes' : Bytes} (h : encode bytes = encode bytes') :
    bytes = bytes' := by
  have hread := decode?_encode bytes
  rw [h, decode?_encode] at hread
  exact (Option.some.inj hread).symm

/-- Whole bytes in lower case are the text of some bytes, half as many as there are digits. -/
theorem exists_encode_eq {s : String} (h : HexBytes s.toList) :
    ∃ bytes, encode bytes = s ∧ s.toList.length = 2 * bytes.length := by
  obtain ⟨bytes, hbytes⟩ := exists_encodeChars_eq h
  exact ⟨bytes, by rw [encode, hbytes, String.ofList_toList], hbytes ▸ length_encodeChars bytes⟩

end TxDraft.Hex
