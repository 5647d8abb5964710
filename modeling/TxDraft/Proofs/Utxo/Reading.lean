import TxDraft.Proofs.Value
import TxDraft.Utxo

/-!
# Reading records of outputs

A record is read if it says which output it is and its value and its position can be read
(`ofFields_eq_ok_iff`).  A record is foreign if the first of its credits that cannot be read has a
unit that is no text, or is something else in the place of a map of assets; these are the records
about which the reader has nothing to say (`ofFields_unworded_iff`).
-/

namespace TxDraft

namespace Value

/-- The unit is a text, or counts as false and so stands for ADA. -/
def NamesUnit (unit : Json) : Prop :=
  (∃ s, unit = .str s) ∨ unit.isTruthy = false

/-- The credit has a unit and a quantity. -/
def Credit.Readable : Credit → Prop
  | .coin quantity => ∃ n, Quantity.read quantity = .ok n
  | .asset unit quantity => NamesUnit unit ∧ ∃ n, Quantity.read quantity = .ok n
  | .unreadable => False

/-- The credit has something else in the place of a unit or of a map of assets. -/
def Credit.Foreign : Credit → Prop
  | .coin _ => False
  | .asset unit _ => ¬ NamesUnit unit
  | .unreadable => True

/-- The fault is not one of a quantity: nothing is said about it. -/
def Fault.Unworded (fault : Fault) : Prop :=
  ∀ found, fault ≠ .quantity found

theorem readUnit_eq_error_iff {unit : Json} {fault : Fault} :
    readUnit unit = .error fault ↔ ¬ NamesUnit unit ∧ fault = .unitNotText := by
  cases unit with
  | str s => simp [readUnit, NamesUnit]
  | _ =>
    simp only [readUnit, NamesUnit, reduceCtorEq, exists_false, false_or]
    split
    · next htruthy => simp [htruthy, eq_comm (a := fault)]
    · next htruthy => simp [htruthy]

theorem readUnit_eq_ok_iff {unit : Json} :
    (∃ token, readUnit unit = .ok token) ↔ NamesUnit unit := by
  cases h : readUnit unit with
  | ok token =>
    have hnames : NamesUnit unit := by
      by_contra hnot
      rw [readUnit_eq_error_iff.mpr ⟨hnot, rfl⟩] at h
      cases h
    exact iff_of_true ⟨token, rfl⟩ hnames
  | error fault =>
    have hnot : ¬ NamesUnit unit := (readUnit_eq_error_iff.mp h).1
    exact iff_of_false (by simp) hnot

theorem readQuantity_isOk_iff {quantity : Json} :
    (∃ n, readQuantity quantity = .ok n) ↔ ∃ n, Quantity.read quantity = .ok n := by
  simp only [readQuantity, Traversal.mapError_eq_ok_iff]

theorem not_unworded_quantity {quantity : Json} {fault : Fault}
    (h : readQuantity quantity = .error fault) : ¬ fault.Unworded := by
  obtain ⟨found, -, rfl⟩ := Traversal.mapError_eq_error_iff.mp h
  exact fun hunworded => hunworded found rfl

/-- A credit is read exactly if it has a unit and a quantity. -/
theorem Credit.read_isOk_iff {credit : Credit} :
    (∃ gain, credit.read = .ok gain) ↔ credit.Readable := by
  cases credit with
  | coin quantity =>
    rw [Readable, ← readQuantity_isOk_iff]
    cases h : readQuantity quantity <;> simp [Credit.read, h, bind, Except.bind, pure, Except.pure]
  | asset unit quantity =>
    rw [Readable, ← readQuantity_isOk_iff, ← readUnit_eq_ok_iff]
    cases hunit : readUnit unit <;> cases h : readQuantity quantity <;>
      simp [Credit.read, hunit, h, bind, Except.bind, pure, Except.pure]
  | unreadable => simp [Credit.read, Readable]

/-- Nothing is said about a credit exactly if it is foreign. -/
theorem Credit.read_unworded_iff {credit : Credit} :
    (∃ fault, credit.read = .error fault ∧ fault.Unworded) ↔ credit.Foreign := by
  cases credit with
  | coin quantity =>
    simp only [Foreign, iff_false]
    rintro ⟨fault, hread, hunworded⟩
    rcases Traversal.bind_eq_error_iff.mp hread with hquantity | ⟨n, -, hpure⟩
    · exact not_unworded_quantity hquantity hunworded
    · cases hpure
  | asset unit quantity =>
    -- the unit is read before the quantity, so a bad unit hides a bad quantity
    constructor
    · rintro ⟨fault, hread, hunworded⟩
      rcases Traversal.bind_eq_error_iff.mp hread with hunit | ⟨token, -, hrest⟩
      · exact (readUnit_eq_error_iff.mp hunit).1
      · rcases Traversal.bind_eq_error_iff.mp hrest with hquantity | ⟨n, -, hpure⟩
        · exact absurd hunworded (not_unworded_quantity hquantity)
        · cases hpure
    · intro hforeign
      have hunit : readUnit unit = .error .unitNotText :=
        readUnit_eq_error_iff.mpr ⟨hforeign, rfl⟩
      exact ⟨.unitNotText, Traversal.bind_eq_error_iff.mpr (Or.inl hunit), nofun⟩
  | unreadable => exact ⟨fun _ => trivial, fun _ => ⟨_, rfl, nofun⟩⟩

/-- Nothing is said about a record exactly if the first of its credits that cannot be read is
foreign. -/
theorem ofRecord_unworded_iff {record : Json.Fields} :
    (∃ fault, ofRecord record = .error fault ∧ fault.Unworded) ↔
      ∃ before bad after, credits record = before ++ bad :: after ∧
        (∀ credit ∈ before, credit.Readable) ∧ bad.Foreign := by
  simp only [ofRecord_eq_error_iff, Traversal.mapM_eq_error_iff, Credit.read_isOk_iff,
    ← Credit.read_unworded_iff]
  constructor
  · rintro ⟨fault, ⟨before, bad, after, hcredits, hbefore, hbad⟩, hunworded⟩
    exact ⟨before, bad, after, hcredits, hbefore, fault, hbad, hunworded⟩
  · rintro ⟨before, bad, after, hcredits, hbefore, fault, hbad, hunworded⟩
    exact ⟨fault, ⟨before, bad, after, hcredits, hbefore, hbad⟩, hunworded⟩

end Value

namespace Utxo

/-- The record says which output it is. -/
def HasReference (record : Json.Fields) : Prop :=
  (hashField record).isPresent = true ∧ (indexField record).isPresent = true

/-- The record says which output it is, and the first of its credits that cannot be read has
something else in the place of a unit or of a map of assets. -/
def Foreign (record : Json.Fields) : Prop :=
  HasReference record ∧
    ∃ before bad after, Value.credits record = before ++ bad :: after ∧
      (∀ credit ∈ before, credit.Readable) ∧ bad.Foreign

/-- The output of a record, given its value and its position. -/
def ofParts (record : Json.Fields) (value : Value) (outputIndex : Int) : Utxo where
  txHash := (hashField record).wording
  outputIndex := outputIndex
  address := addressField record
  lovelace := value.lovelace
  assets := value.assets
  datumHash := firstPresent record ["data_hash", "datum_hash", "datumHash"]
  inlineDatum := inlineDatumField record
  scriptHash := firstPresent record ["reference_script_hash", "script_hash", "scriptHash"]

theorem ofFields_of_not_hasReference {record : Json.Fields} (h : ¬ HasReference record) :
    ofFields record = .error .noReference := by
  have hmissing : (!(hashField record).isPresent || !(indexField record).isPresent) = true := by
    simpa [HasReference, ← Bool.not_eq_true, ← not_and_or] using h
  rw [ofFields]
  simp only [hmissing, if_true]

theorem ofFields_of_hasReference {record : Json.Fields} (h : HasReference record) :
    ofFields record = do
      let value ← (Value.ofRecord record).mapError .value
      let outputIndex ← (Quantity.read (indexField record)).mapError .index
      return ofParts record value outputIndex := by
  have hpresent : (!(hashField record).isPresent || !(indexField record).isPresent) = false := by
    rw [h.1, h.2]
    rfl
  rw [ofFields]
  simp only [hpresent, Bool.false_eq_true, if_false]
  rfl

/-- A record is read if it says which output it is and its value and position can be read. -/
theorem ofFields_eq_ok_iff {record : Json.Fields} {u : Utxo} :
    ofFields record = .ok u ↔
      HasReference record ∧ ∃ value, Value.ofRecord record = .ok value ∧
        ∃ outputIndex, Quantity.read (indexField record) = .ok outputIndex ∧
          ofParts record value outputIndex = u := by
  by_cases h : HasReference record
  · rw [ofFields_of_hasReference h, Traversal.bind_eq_ok_iff]
    simp only [h, true_and, Traversal.bind_eq_ok_iff, Traversal.mapError_eq_ok_iff, pure,
      Except.pure, Except.ok.injEq]
  · simp [ofFields_of_not_hasReference h, h]

theorem ofRecord_eq_ok_iff {r : Json} {u : Utxo} :
    ofRecord r = .ok u ↔ ∃ record, r = .obj record ∧ ofFields record = .ok u := by
  cases r <;> simp [ofRecord]

theorem message?_value_eq_none_iff {fault : Value.Fault} :
    (Fault.value fault).message? = none ↔ fault.Unworded := by
  cases fault <;> simp [Fault.message?, Value.Fault.Unworded]

/-- Nothing is said about a record exactly if it is foreign. -/
theorem ofFields_unworded_iff {record : Json.Fields} :
    (∃ fault, ofFields record = .error fault ∧ fault.message? = none) ↔ Foreign record := by
  by_cases h : HasReference record
  · rw [ofFields_of_hasReference h]
    simp only [Foreign, h, true_and, ← Value.ofRecord_unworded_iff, Traversal.bind_eq_error_iff,
      Traversal.mapError_eq_error_iff]
    -- of the two things that are read only the value can fail without a word
    constructor
    · rintro ⟨_, ⟨fault, hvalue, rfl⟩ | ⟨value, -, ⟨fault, -, rfl⟩ | ⟨index, -, hpure⟩⟩, hmessage⟩
      · exact ⟨fault, hvalue, message?_value_eq_none_iff.mp hmessage⟩
      · cases hmessage
      · cases hpure
    · rintro ⟨fault, hvalue, hunworded⟩
      exact ⟨.value fault, Or.inl ⟨fault, hvalue, rfl⟩, message?_value_eq_none_iff.mpr hunworded⟩
  · simp only [ofFields_of_not_hasReference h, Foreign, h, false_and, iff_false]
    rintro ⟨fault, hfault, hmessage⟩
    cases hfault
    cases hmessage

end Utxo

end TxDraft
