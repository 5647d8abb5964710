import TxDraft.Proofs.Utxo.Reading

/-!
# Null and absent fields of records

All fields of a record but one are read by a value that is null for an absent field, so a field that
is null may as well be absent.  The address is the exception: it is read by whether it is there, and
null is then worded like any other value.  So a null field of a record can be taken away exactly if
it is not the address, or if there is no output to be read at all (`dispensable_iff`).
-/

namespace TxDraft

namespace Entries

variable {κ ν : Type} [DecidableEq κ]

/-- The map without what is under a key. -/
def without (k : κ) (entries : Entries κ ν) : Entries κ ν :=
  entries.filter fun e => e.1 ≠ k

/-- Nothing is read under a key that was taken away, and all other keys read as before. -/
theorem get?_without (k k' : κ) (entries : Entries κ ν) :
    get? k' (entries.without k) = if k = k' then none else get? k' entries := by
  induction entries with
  | nil => simp [without]
  | cons e rest ih =>
    obtain ⟨a, v⟩ := e
    have hcons : without k ((a, v) :: rest) =
        if a ≠ k then (a, v) :: without k rest else without k rest := by
      simp [without, List.filter_cons]
    rw [hcons]
    by_cases ha : a = k
    · subst ha
      rw [if_neg (not_not_intro rfl), ih]
      by_cases hk : a = k' <;> simp [get?, hk]
    · rw [if_pos ha, get?_cons, get?_cons, ih]
      by_cases hk : a = k'
      · subst hk
        simp [Ne.symm ha]
      · simp [hk]

end Entries

namespace Utxo

variable {record other : Json.Fields}

/-! ### Records that give the same values -/

/-- Under every name the two records give the same value, which is null for a field that is not
there. -/
def SameValues (record other : Json.Fields) : Prop :=
  ∀ name, Json.field other name = Json.field record name

theorem sameValues_without {key : Json.Str} (h : record.get? key = some .null) :
    SameValues record (record.without key) := by
  intro name
  unfold Json.field Json.field?
  rw [Entries.get?_without]
  by_cases hname : key = .plain name
  · subst hname
    rw [if_pos rfl, h]
    rfl
  · rw [if_neg hname]

namespace SameValues

theorem firstPresent (h : SameValues record other) (names : List String) :
    Utxo.firstPresent other names = Utxo.firstPresent record names := by
  induction names with
  | nil => rfl
  | cons name names ih => rw [Utxo.firstPresent, Utxo.firstPresent, h name, ih]

theorem hashField (h : SameValues record other) :
    Utxo.hashField other = Utxo.hashField record := by
  rw [Utxo.hashField, Utxo.hashField, h.firstPresent, h "transaction"]

theorem indexField (h : SameValues record other) :
    Utxo.indexField other = Utxo.indexField record :=
  h.firstPresent _

theorem hasReference_iff (h : SameValues record other) :
    HasReference other ↔ HasReference record := by
  rw [HasReference, HasReference, h.hashField, h.indexField]

theorem value (h : SameValues record other) : Value.ofRecord other = Value.ofRecord record := by
  have hcredits : Value.credits other = Value.credits record := by
    rw [Value.credits, Value.credits, h "amount", h "value", h "assets"]
  rw [Value.ofRecord, Value.ofRecord, hcredits]

/-- The outputs of the two records differ in their addresses at most. -/
theorem ofParts (h : SameValues record other) (value : Value) (outputIndex : Int) :
    Utxo.ofParts other value outputIndex =
      { Utxo.ofParts record value outputIndex with address := addressField other } := by
  rw [Utxo.ofParts, h.hashField, h.firstPresent, h.firstPresent, inlineDatumField, h.firstPresent]
  rfl

/-- So one of the records is read just when the other is. -/
theorem ofFields (h : SameValues record other) :
    Utxo.ofFields other =
      (Utxo.ofFields record).map fun u => { u with address := addressField other } := by
  by_cases href : HasReference record
  · rw [ofFields_of_hasReference href, ofFields_of_hasReference (h.hasReference_iff.mpr href),
      h.value, h.indexField]
    cases Value.ofRecord record with
    | error fault => rfl
    | ok value =>
      cases Quantity.read (Utxo.indexField record) with
      | error fault => rfl
      | ok outputIndex => exact congrArg Except.ok (h.ofParts value outputIndex)
  · rw [ofFields_of_not_hasReference href,
      ofFields_of_not_hasReference (mt h.hasReference_iff.mp href)]
    rfl

end SameValues

/-! ### Addresses -/

theorem addressField_without (record : Json.Fields) (key : Json.Str) :
    addressField (record.without key) =
      if key = .plain "address" then "" else addressField record := by
  unfold addressField Json.field?
  rw [Entries.get?_without]
  by_cases hkey : key = .plain "address"
  · rw [if_pos hkey, if_pos hkey]
  · rw [if_neg hkey, if_neg hkey]

theorem address_of_ofFields {u : Utxo} (h : Utxo.ofFields record = .ok u) :
    u.address = addressField record := by
  obtain ⟨-, value, -, outputIndex, -, rfl⟩ := ofFields_eq_ok_iff.mp h
  rfl

/-! ### Fields that can be taken away -/

/-- The record is read as an output with or without the field, and as the same one. -/
def Dispensable (record : Json.Fields) (key : Json.Str) : Prop :=
  ∀ u, ofRecord (.obj (record.without key)) = .ok u ↔ ofRecord (.obj record) = .ok u

/-- A null field can be taken away exactly if it is not the address, or if the record is not read at
all; and then the record is judged alike in every respect.  A null address is read as the word for
null, and an address that is taken away as an empty text. -/
theorem dispensable_iff {key : Json.Str} (h : record.get? key = some .null) :
    (Dispensable record key ↔ key ≠ "address" ∨ ∀ u, ofRecord (.obj record) ≠ .ok u) ∧
      (key ≠ "address" → ofRecord (.obj (record.without key)) = ofRecord (.obj record)) ∧
      (key = "address" → ∀ u, ofRecord (.obj record) = .ok u →
        u.address = "None" ∧
          ofRecord (.obj (record.without key)) = .ok { u with address := "" }) := by
  have hread : ofRecord (.obj (record.without key)) =
      (ofRecord (.obj record)).map fun u =>
        { u with address := if key = .plain "address" then "" else addressField record } := by
    rw [← addressField_without]
    exact (sameValues_without h).ofFields
  have hsame : key ≠ "address" →
      ofRecord (.obj (record.without key)) = ofRecord (.obj record) := by
    intro hkey
    rw [hread, if_neg hkey]
    cases hrecord : ofRecord (.obj record) with
    | error fault => rfl
    | ok u => rw [← address_of_ofFields hrecord]; rfl
  have haddress : key = "address" → ∀ u, ofRecord (.obj record) = .ok u →
      u.address = "None" ∧
        ofRecord (.obj (record.without key)) = .ok { u with address := "" } := by
    rintro rfl u hu
    refine ⟨?_, by rw [hread, hu]; rfl⟩
    rw [address_of_ofFields hu, addressField, Json.field?, h]
    rfl
  refine ⟨⟨fun hdispensable => ?_, ?_⟩, hsame, haddress⟩
  · by_contra hnot
    obtain ⟨hkey, hrefused⟩ := not_or.mp hnot
    obtain ⟨u, hu⟩ := not_forall_not.mp hrefused
    obtain ⟨hword, hempty⟩ := haddress (not_not.mp hkey) u hu
    -- what the record is read as would have two addresses
    have htwo : u = { u with address := "" } :=
      Except.ok.inj (((hdispensable u).mpr hu).symm.trans hempty)
    have hnone : u.address = "" := congrArg Utxo.address htwo
    rw [hword] at hnone
    exact absurd hnone (by decide)
  · rintro (hkey | hrefused) u
    · rw [hsame hkey]
    · refine iff_of_false (fun hu => ?_) (hrefused u)
      rw [hread] at hu
      obtain ⟨u', hu', -⟩ := Traversal.map_eq_ok_iff.mp hu
      exact hrefused u' hu'

/-- A record that names its output and gives null for its address and its datum. -/
def unaddressed : Json.Fields :=
  [("tx_hash", .str "aa"), ("output_index", .int 0), ("address", .null), ("datum", .null)]

/-- What the record says. -/
def unaddressedUtxo : Utxo where
  txHash := "aa"
  outputIndex := 0
  address := "None"
  lovelace := 0
  assets := []
  datumHash := .null
  inlineDatum := none
  scriptHash := .null

/-- The null datum can be taken away. -/
theorem dispensable_iff_datum :
    Json.field? unaddressed "datum" = some .null ∧ Dispensable unaddressed "datum" ∧
      ofRecord (.obj (unaddressed.without "datum")) = .ok unaddressedUtxo := by
  have hnull : unaddressed.get? (.plain "datum") = some .null := rfl
  obtain ⟨hiff, hsame, -⟩ := dispensable_iff hnull
  exact ⟨hnull, hiff.mpr (.inl (by decide)), hsame (by decide)⟩

/-- The null address cannot. -/
theorem nullAddress_not_dispensable :
    Json.field? unaddressed "address" = some .null ∧
      ofRecord (.obj unaddressed) = .ok unaddressedUtxo ∧
      ¬ Dispensable unaddressed "address" := by
  refine ⟨rfl, rfl, fun hdispensable => ?_⟩
  have hread : ofRecord (.obj (unaddressed.without "address")) = .ok unaddressedUtxo :=
    (hdispensable unaddressedUtxo).mpr rfl
  have hempty : ofRecord (.obj (unaddressed.without "address")) =
      .ok { unaddressedUtxo with address := "" } := rfl
  have haddress : unaddressedUtxo.address = "" :=
    congrArg Utxo.address (Except.ok.inj (hread.symm.trans hempty))
  exact absurd haddress (by decide)

end Utxo

end TxDraft
