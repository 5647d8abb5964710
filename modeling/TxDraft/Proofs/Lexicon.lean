import TxDraft.Json.Str
import TxDraft.Lexicon
import TxDraft.Proofs.Text.Blank

/-!
# The shapes of words

The shapes that the words of actions may have, stated on their characters, and that the tests of
the lexicon accept exactly these (`isAddressOf_iff`, `isAssetId_iff` and the like).  A normal form
is its own normal form (`normal_normal`), so the word that a reader gives is read as itself.  All
shapes are of ASCII alone (`Ascii`), so a string with such a normal form has no surrogate
(`eq_plain_of_normal`).
-/

namespace TxDraft.Lexicon

/-! ### Shapes -/

/-- A lower-case hexadecimal digit. -/
def HexDigit (c : Char) : Prop :=
  '0' ≤ c ∧ c ≤ '9' ∨ 'a' ≤ c ∧ c ≤ 'f'

/-- Whole bytes, two digits each. -/
def HexBytes (cs : List Char) : Prop :=
  2 ∣ cs.length ∧ ∀ c ∈ cs, HexDigit c

/-- A hash of so many digits. -/
def HexHash (digits : Nat) (cs : List Char) : Prop :=
  cs.length = digits ∧ ∀ c ∈ cs, HexDigit c

/-- At least one byte. -/
def HexData (cs : List Char) : Prop :=
  cs ≠ [] ∧ HexBytes cs

/-- The name of an asset: at most thirty-two bytes. -/
def AssetName (cs : List Char) : Prop :=
  cs.length ≤ 64 ∧ HexBytes cs

/-- A policy of twenty-eight bytes, a point, and the name of an asset. -/
def AssetId (cs : List Char) : Prop :=
  ∃ policy name, cs = policy ++ '.' :: name ∧ HexHash 56 policy ∧ AssetName name

/-- A character of the data part of an address: a digit but `1`, or a letter but `b`, `i` and
`o`. -/
def DataChar (c : Char) : Prop :=
  (c = '0' ∨ '2' ≤ c ∧ c ≤ '9') ∨
    (c = 'a' ∨ 'c' ≤ c ∧ c ≤ 'h') ∨ ('j' ≤ c ∧ c ≤ 'n') ∨ ('p' ≤ c ∧ c ≤ 'z')

/-- An address of a kind on a network: one of the words that may begin it there, a `1`, and at
least six characters of data. -/
def Address (kind : AddressKind) (network : Option Network) (cs : List Char) : Prop :=
  ∃ word ∈ kind.words network, ∃ data, cs = word.toList ++ '1' :: data ∧
    6 ≤ data.length ∧ ∀ c ∈ data, DataChar c

/-! ### What the tests accept -/

theorem isLowerDigit_iff (c : Char) : Hex.isLowerDigit c = true ↔ HexDigit c := by
  simp [Hex.isLowerDigit, HexDigit]

theorem HexDigit.lt {c : Char} (h : HexDigit c) : c.toNat < 0x80 := by
  rcases h with ⟨-, h⟩ | ⟨-, h⟩
  · exact Nat.lt_of_le_of_lt h (by decide)
  · exact Nat.lt_of_le_of_lt h (by decide)

/-- What holds of the digits among the characters of ASCII holds of every digit. -/
theorem HexDigit.of_ascii {P : Char → Prop} {c : Char} (h : HexDigit c)
    (hall : ∀ n < 0x80, Hex.isLowerDigit (Char.ofNat n) = true → P (Char.ofNat n)) : P c := by
  have hc := hall c.toNat h.lt
  rw [Char.ofNat_toNat] at hc
  exact hc ((isLowerDigit_iff c).mpr h)

theorem isHexOf_iff (n : Nat) (cs : List Char) : isHexOf n cs = true ↔ HexHash n cs := by
  simp [isHexOf, HexHash, isLowerDigit_iff]

theorem isHexPairs_iff (cs : List Char) : isHexPairs cs = true ↔ HexBytes cs := by
  simp [isHexPairs, HexBytes, isLowerDigit_iff, Nat.dvd_iff_mod_eq_zero]

theorem isHexData_iff (cs : List Char) :
    (!cs.isEmpty && isHexPairs cs) = true ↔ HexData cs := by
  simp [HexData, isHexPairs_iff]

theorem isAssetName_iff (cs : List Char) : isAssetName cs = true ↔ AssetName cs := by
  rw [isAssetName, Bool.and_eq_true, isHexPairs_iff, decide_eq_true_iff]; rfl

theorem isAssetId_iff (cs : List Char) : isAssetId cs = true ↔ AssetId cs := by
  unfold isAssetId AssetId
  rw [Bool.and_eq_true, isHexOf_iff]
  constructor
  -- the policy is what the test takes, and the name what it finds behind the point
  · rintro ⟨hpolicy, hname⟩
    refine ⟨cs.take shortHashDigits, (cs.drop shortHashDigits).drop 1, ?_, hpolicy, ?_⟩
    · split at hname
      · next name hdrop =>
        rw [hdrop, List.drop_one, List.tail_cons, ← hdrop, List.take_append_drop]
      · cases hname
    · split at hname
      · next name hdrop => rw [hdrop]; exact (isAssetName_iff _).mp hname
      · cases hname
  · rintro ⟨policy, name, rfl, hpolicy, hname⟩
    have hlen : policy.length = shortHashDigits := hpolicy.1
    rw [← hlen, List.take_left, List.drop_left]
    exact ⟨hlen ▸ hpolicy, (isAssetName_iff name).mpr hname⟩

theorem DataChar.lt {c : Char} (h : DataChar c) : c.toNat < 0x80 := by
  have hz : c ≤ 'z' := by
    rcases h with (rfl | ⟨-, h⟩) | (rfl | ⟨-, h⟩) | ⟨-, h⟩ | ⟨-, h⟩
    · decide
    · exact Char.le_trans h (by decide)
    · decide
    · exact Char.le_trans h (by decide)
    · exact Char.le_trans h (by decide)
    · exact h
  exact Nat.lt_of_le_of_lt hz (by decide)

instance (c : Char) : Decidable (DataChar c) :=
  inferInstanceAs (Decidable (_ ∨ _))

/-- The characters that the test of a data part knows are the ones of the ranges. -/
theorem isDataChar_iff (c : Char) : isDataChar c = true ↔ DataChar c := by
  -- in ASCII the two are compared character by character
  have hascii : ∀ n : Fin 128, isDataChar (Char.ofNat n) = decide (DataChar (Char.ofNat n)) := by
    decide +kernel
  by_cases hc : c.toNat < 128
  · have h := hascii ⟨c.toNat, hc⟩
    simp only [Char.ofNat_toNat] at h
    rw [h, decide_eq_true_iff]
  · -- beyond ASCII there are none on either side
    constructor
    · intro h
      have hmem : c ∈ "qpzry9x8gf2tvdw0s3jn54khce6mua7l".toList := List.contains_iff_mem.mp h
      have hall : ("qpzry9x8gf2tvdw0s3jn54khce6mua7l".toList.all fun d => d.toNat < 128) = true :=
        by decide
      exact absurd (of_decide_eq_true (List.all_eq_true.mp hall c hmem)) hc
    · exact fun h => absurd h.lt hc

theorem isAddressOf_iff (cs : List Char) (word : String) :
    isAddressOf cs word = true ↔
      ∃ data, cs = word.toList ++ '1' :: data ∧ 6 ≤ data.length ∧ ∀ c ∈ data, DataChar c := by
  simp only [isAddressOf, Bool.and_eq_true, decide_eq_true_iff, List.all_eq_true, isDataChar_iff,
    List.isPrefixOf_iff_prefix]
  constructor
  · rintro ⟨⟨⟨data, rfl⟩, hlen⟩, hdata⟩
    rw [List.drop_left] at hlen hdata
    exact ⟨data, by simp, hlen, hdata⟩
  · rintro ⟨data, rfl, hlen, hdata⟩
    have hsplit : word.toList ++ '1' :: data = (word.toList ++ ['1']) ++ data := by simp
    rw [hsplit, List.drop_left]
    exact ⟨⟨List.prefix_append _ _, hlen⟩, hdata⟩

/-- No address is empty. -/
theorem Address.ne_nil {kind : AddressKind} {network : Option Network} {cs : List Char}
    (h : Address kind network cs) : cs ≠ [] := by
  obtain ⟨word, -, data, rfl, -⟩ := h
  simp

/-! ### ASCII -/

/-- The texts of a shape are written in ASCII. -/
def Ascii (shape : List Char → Prop) : Prop :=
  ∀ cs, shape cs → ∀ c ∈ cs, c.toNat < 0x80

theorem ascii_hexHash (digits : Nat) : Ascii (HexHash digits) :=
  fun _ h c hc => (h.2 c hc).lt

theorem ascii_hexData : Ascii HexData :=
  fun _ h c hc => (h.2.2 c hc).lt

theorem ascii_assetName : Ascii AssetName :=
  fun _ h c hc => (h.2.2 c hc).lt

theorem ascii_assetId : Ascii AssetId := by
  rintro _ ⟨policy, name, rfl, hpolicy, hname⟩ c hc
  rcases List.mem_append.mp hc with hc | hc
  · exact ascii_hexHash 56 policy hpolicy c hc
  · rcases List.mem_cons.mp hc with rfl | hc
    · decide
    · exact ascii_assetName name hname c hc

theorem ascii_address (kind : AddressKind) (network : Option Network) :
    Ascii (Address kind network) := by
  have hwords : ∀ word ∈ kind.words network, ∀ c ∈ word.toList, c.toNat < 0x80 := by
    rcases network with _ | _ | _ <;> cases kind <;>
      simp [AddressKind.words, AddressKind.word]
  rintro _ ⟨word, hword, data, rfl, -, hdata⟩ c hc
  rcases List.mem_append.mp hc with hc | hc
  · exact hwords word hword c hc
  · rcases List.mem_cons.mp hc with rfl | hc
    · decide
    · exact (hdata c hc).lt

/-! ### Normal forms -/

theorem toList_normal (s : String) :
    (normal s).toList = Text.lowerChars (Text.stripChars s.toList) :=
  String.toList_ofList

/-- A normal form is its own normal form. -/
theorem normal_normal (s : String) : normal (normal s) = normal s := by
  have htrimmed : Text.Trimmed (normal s).toList := by
    rw [toList_normal]
    exact (Text.trimmed_stripChars _).lowerChars
  have hlowered : Text.lowerChars (normal s).toList = (normal s).toList := by
    rw [toList_normal, Text.lowerChars_lowerChars]
  rw [normal, htrimmed.stripChars_eq, hlowered, String.ofList_toList]

/-- A string whose normal form is written in ASCII has no surrogate. -/
theorem eq_plain_of_normal {s : Json.Str} (h : ∀ c ∈ (normal s.string).toList, c.toNat < 0x80) :
    s = .plain s.string := by
  apply Json.Str.eq_plain
  intro hmem
  have hlowered : Text.Lowered Json.Point.replacement := by decide +kernel
  rw [toList_normal] at h
  exact absurd (h _ (Text.mem_lowerFrom hlowered (Text.mem_stripChars (by decide) hmem)))
    (by decide)

/-! ### What the readers accept -/

theorem shaped_eq_ok_iff {accepts : List Char → Bool} {complaint : Complaint} {s word : String} :
    shaped accepts complaint s = .ok word ↔ word = normal s ∧ accepts word.toList = true := by
  unfold shaped
  dsimp only
  split
  · next h =>
    simp only [Except.ok.injEq]
    constructor
    · rintro rfl
      exact ⟨rfl, h⟩
    · exact fun hw => hw.1.symm
  · next h =>
    simp only [reduceCtorEq, false_iff, not_and]
    rintro rfl
    exact h

theorem address_eq_ok_iff {kind : AddressKind} {network : Option Network} {s word : String} :
    address kind network s = .ok word ↔
      word = normal s ∧ Address kind network word.toList := by
  have hany : ((kind.words network).any (isAddressOf (normal s).toList)) = true ↔
      Address kind network (normal s).toList := by
    simp only [List.any_eq_true, isAddressOf_iff, Address]
  unfold address
  dsimp only
  split
  · next hempty =>
    simp only [reduceCtorEq, false_iff, not_and]
    rintro rfl h
    exact h.ne_nil (by rw [hempty]; rfl)
  · split
    · next h =>
      simp only [Except.ok.injEq]
      constructor
      · rintro rfl
        exact ⟨rfl, hany.mp h⟩
      · exact fun hw => hw.1.symm
    · next h =>
      simp only [reduceCtorEq, false_iff, not_and]
      rintro rfl
      exact fun ha => h (hany.mpr ha)

/-- Every word that the reader gives it reads as itself. -/
def Projects (read : Reader) : Prop :=
  ∀ s word, read s = .ok word → read word = .ok word

theorem projects_shaped (accepts : List Char → Bool) (complaint : Complaint) :
    Projects (shaped accepts complaint) := by
  intro s word h
  obtain ⟨rfl, haccepted⟩ := shaped_eq_ok_iff.mp h
  exact shaped_eq_ok_iff.mpr ⟨(normal_normal s).symm, haccepted⟩

theorem projects_shortHash : Projects shortHash :=
  projects_shaped _ _

theorem projects_longHash : Projects longHash :=
  projects_shaped _ _

theorem projects_hexData : Projects hexData :=
  projects_shaped _ _

theorem projects_assetId : Projects assetId :=
  projects_shaped _ _

theorem projects_assetName : Projects assetName :=
  projects_shaped _ _

theorem projects_address (kind : AddressKind) (network : Option Network) :
    Projects (address kind network) := by
  intro s word h
  obtain ⟨rfl, haddress⟩ := address_eq_ok_iff.mp h
  exact address_eq_ok_iff.mpr ⟨(normal_normal s).symm, haddress⟩

end TxDraft.Lexicon
