import TxDraft.Proofs.Utxo.Reading

/-!
# Unspent outputs read back

An output that was read, printed as a record and read again keeps its reference, its address, its
assets, and the hashes of its datum and its script.  The record that is printed has fields for its
lovelace and for its datum in full that no reader looks at: the one is taken for zero and the other
for absent.  So an output is read back as it was exactly if it holds no lovelace and no datum in
full (`ofRecord_toJson`).
-/

namespace TxDraft.Utxo

/-- Every quantity of the output is short enough to be written out and read. -/
structure Legible (u : Utxo) : Prop where
  lovelace : Quantity.Short u.lovelace
  assets : ∀ e ∈ u.assets, Quantity.Short e.2

/-- The output without what its record does not carry over. -/
def bare (u : Utxo) : Utxo :=
  { u with lovelace := 0, inlineDatum := none }

theorem bare_eq_self_iff {u : Utxo} : u.bare = u ↔ u.lovelace = 0 ∧ u.inlineDatum = none := by
  cases u
  simp [bare, eq_comm]

theorem canonical_assets {r : Json} {u : Utxo} (h : ofRecord r = .ok u) :
    Value.Canonical u.assets := by
  obtain ⟨record, rfl, hfields⟩ := ofRecord_eq_ok_iff.mp h
  obtain ⟨-, value, hvalue, index, -, rfl⟩ := ofFields_eq_ok_iff.mp hfields
  exact Value.canonical_of_ofRecord hvalue

/-! ### Reading what was printed -/

/-- The fields of the record that `toJson` writes. -/
def printed (u : Utxo) : Json.Fields := [
  ("txHash", .str u.txHash),
  ("outputIndex", .int u.outputIndex),
  ("address", .str u.address),
  ("lovelace", .str (Quantity.print u.lovelace)),
  ("assets", Value.assetsJson u.assets),
  ("datumHash", u.datumHash),
  ("inlineDatum", .ofText? u.inlineDatum),
  ("scriptHash", u.scriptHash)]

/-- Of a printed value only the assets are found again. -/
theorem credits_printed (u : Utxo) :
    Value.credits u.printed =
      Value.unitCredits (Json.plainFields (u.assets.mapValues fun n => .str (Quantity.print n))) :=
  rfl

theorem ofParts_printed (u : Utxo) :
    ofParts u.printed ⟨0, u.assets⟩ u.outputIndex = u.bare := by
  -- the other spellings of the two hashes are not among the printed fields
  have hpresent : ∀ (record : Json.Fields) (name : String),
      firstPresent record [name] = Json.field record name := by
    intro record name
    rw [firstPresent]
    split
    · next h => rw [firstPresent, h]
    · rfl
  have hdatum : firstPresent u.printed ["data_hash", "datum_hash", "datumHash"] = u.datumHash :=
    hpresent u.printed "datumHash"
  have hscript : firstPresent u.printed
      ["reference_script_hash", "script_hash", "scriptHash"] = u.scriptHash :=
    hpresent u.printed "scriptHash"
  rw [ofParts, hdatum, hscript]
  rfl

/-- A printed output is read without its lovelace and its datum, if its assets are short. -/
theorem ofFields_printed_iff {u after : Utxo} (h : Value.Canonical u.assets) :
    ofFields u.printed = .ok after ↔ (∀ e ∈ u.assets, Quantity.Short e.2) ∧ u.bare = after := by
  have hvalue : ∀ value, Value.ofRecord u.printed = .ok value ↔
      (∀ e ∈ u.assets, Quantity.Short e.2) ∧ (⟨0, u.assets⟩ : Value) = value := by
    intro value
    rw [Value.ofRecord, credits_printed, Value.foldlM_add_printed_iff h (by simp [Value.zero])]
    rfl
  -- the position is printed as an integer, which is read whatever its length
  have hindex : ∀ n, Quantity.read (indexField u.printed) = .ok n ↔ u.outputIndex = n := by
    intro n
    show Quantity.read (.int u.outputIndex) = .ok n ↔ _
    rw [Quantity.read, Except.ok.injEq]
  rw [ofFields_eq_ok_iff]
  simp only [hvalue, hindex]
  constructor
  · rintro ⟨-, _, ⟨hshort, rfl⟩, _, rfl, rfl⟩
    exact ⟨hshort, (ofParts_printed u).symm⟩
  · rintro ⟨hshort, rfl⟩
    exact ⟨⟨rfl, rfl⟩, _, ⟨hshort, rfl⟩, _, rfl, ofParts_printed u⟩

/-- An output that was read, printed and read again comes back without its lovelace and its datum in
full.  It is the same output exactly if it has neither, and if its quantities can be written out. -/
theorem ofRecord_toJson {r : Json} {u : Utxo} (h : ofRecord r = .ok u) :
    (u.Legible → ofRecord u.toJson = .ok u.bare) ∧
      (ofRecord u.toJson = .ok u ↔ u.lovelace = 0 ∧ u.inlineDatum = none ∧ u.Legible) := by
  have hread : ∀ after, ofRecord u.toJson = .ok after ↔
      (∀ e ∈ u.assets, Quantity.Short e.2) ∧ u.bare = after :=
    fun after => ofFields_printed_iff (canonical_assets h)
  constructor
  · intro hlegible
    exact (hread u.bare).mpr ⟨hlegible.assets, rfl⟩
  · rw [hread, bare_eq_self_iff]
    constructor
    · rintro ⟨hassets, hlovelace, hdatum⟩
      exact ⟨hlovelace, hdatum, hlovelace ▸ Quantity.short_zero, hassets⟩
    · rintro ⟨hlovelace, hdatum, hlegible⟩
      exact ⟨hlegible.assets, hlovelace, hdatum⟩

/-- The record of an output with five ADA, seven pieces of a token, and a datum in full. -/
def funded : Json :=
  .obj [
    ("tx_hash", .str "aa"), ("output_index", .int 0), ("address", .str "addr1"),
    ("amount", .arr [
      .obj [("unit", .str "lovelace"), ("quantity", .int 5000000)],
      .obj [("unit", .str "AB.cd"), ("quantity", .int 7)]]),
    ("inline_datum", .str "d87980")]

/-- What the record says. -/
def fundedUtxo : Utxo where
  txHash := "aa"
  outputIndex := 0
  address := "addr1"
  lovelace := 5000000
  assets := [("ab.cd", 7)]
  datumHash := .null
  inlineDatum := some "d87980"
  scriptHash := .null

theorem ofRecord_toJson_funded :
    ofRecord funded = .ok fundedUtxo ∧ fundedUtxo.Legible ∧
      ofRecord fundedUtxo.toJson = .ok fundedUtxo.bare := by
  have hread : ofRecord funded = .ok fundedUtxo := rfl
  have hfive : Quantity.Short 5000000 := Quantity.length_digits_le_iff.mp (by decide)
  have hseven : Quantity.Short 7 := Quantity.length_digits_le_iff.mp (by decide)
  have hlegible : fundedUtxo.Legible := ⟨hfive, List.forall_mem_singleton.mpr hseven⟩
  exact ⟨hread, hlegible, (ofRecord_toJson hread).1 hlegible⟩

/-- The five ADA and the datum are lost on the way. -/
theorem funded_not_read_back :
    ofRecord funded = .ok fundedUtxo ∧ ofRecord fundedUtxo.toJson ≠ .ok fundedUtxo := by
  refine ⟨rfl, ?_⟩
  intro hread
  obtain ⟨after, hafter, hlovelace⟩ :
      ∃ after, ofRecord fundedUtxo.toJson = .ok after ∧ after.lovelace = 0 := ⟨_, rfl, rfl⟩
  rw [hread] at hafter
  cases hafter
  exact absurd hlovelace (by decide)

end TxDraft.Utxo
