import TxDraft.Proofs.Utxo.ReadBack

/-!
# Totals of outputs

The lovelace of a list of outputs is added up over the records that describe them, the assets over
the outputs themselves, one map into the other.  On records that can be read the two agree: the
lovelace comes to the sum of what the outputs hold (`totalLovelace_eq_sum`), and the assets to a map
that has the units of all outputs, each once, with the sum of its quantities (`totals`).
-/

namespace TxDraft

/-- The quantity of a unit, zero if the unit is not there. -/
def Entries.quantity (unit : String) (assets : Entries String Int) : Int :=
  (assets.get? unit).getD 0

namespace Entries

@[simp] theorem quantity_nil (unit : String) : quantity unit [] = 0 := rfl

theorem quantity_of_not_mem {unit : String} {assets : Entries String Int}
    (h : unit ∉ keys assets) : assets.quantity unit = 0 := by
  rw [quantity, get?_eq_none_iff.mpr h, Option.getD_none]

theorem quantity_of_mem {unit : String} {n : Int} {assets : Entries String Int}
    (h : (keys assets).Nodup) (hentry : (unit, n) ∈ assets) : assets.quantity unit = n := by
  rw [quantity, (mem_iff_get?_eq_some h).mp hentry, Option.getD_some]

theorem quantity_cons (unit : String) (e : String × Int) (rest : Entries String Int) :
    quantity unit (e :: rest) = if e.1 = unit then e.2 else rest.quantity unit := by
  by_cases h : e.1 = unit <;> simp [quantity, get?, h]

theorem quantity_put (unit unit' : String) (n : Int) (assets : Entries String Int) :
    quantity unit' (assets.put unit n) = if unit = unit' then n else assets.quantity unit' := by
  rw [quantity, get?_put]
  split <;> rfl

end Entries

namespace Utxo

/-! ### One map added to another -/

theorem mem_keys_addAssets {unit : String} {totals assets : Entries String Int} :
    unit ∈ Entries.keys (addAssets totals assets) ↔
      unit ∈ Entries.keys totals ∨ unit ∈ Entries.keys assets := by
  induction assets generalizing totals with
  | nil => simp [addAssets]
  | cons e rest ih =>
    show unit ∈ Entries.keys (addAssets (totals.put e.1 _) rest) ↔ _
    rw [ih, Entries.mem_keys_put, Entries.keys_cons, List.mem_cons, or_comm (a := unit = e.1),
      or_assoc]

theorem nodup_keys_addAssets {totals : Entries String Int} (h : (Entries.keys totals).Nodup)
    (assets : Entries String Int) : (Entries.keys (addAssets totals assets)).Nodup := by
  induction assets generalizing totals with
  | nil => exact h
  | cons e rest ih => exact ih (Entries.nodup_keys_put _ _ h)

/-- Every quantity of the second map is added once, since its units are distinct. -/
theorem quantity_addAssets {totals assets : Entries String Int} (h : (Entries.keys assets).Nodup)
    (unit : String) :
    (addAssets totals assets).quantity unit = totals.quantity unit + assets.quantity unit := by
  induction assets generalizing totals with
  | nil => simp [addAssets]
  | cons e rest ih =>
    obtain ⟨hnew, hrest⟩ := List.nodup_cons.mp h
    show (addAssets (totals.put e.1 (totals.quantity e.1 + e.2)) rest).quantity unit = _
    rw [ih hrest, Entries.quantity_put, Entries.quantity_cons]
    by_cases heq : e.1 = unit
    · subst heq
      rw [if_pos rfl, if_pos rfl, Entries.quantity_of_not_mem hnew, add_zero]
    · rw [if_neg heq, if_neg heq]

/-! ### The totals of many -/

/-- The map holds the units of all outputs, each once, with the sum of its quantities. -/
structure Totals (utxos : List Utxo) (assets : Entries String Int) : Prop where
  distinct : (Entries.keys assets).Nodup
  units : ∀ unit, unit ∈ Entries.keys assets ↔ ∃ u ∈ utxos, unit ∈ Entries.keys u.assets
  quantities : ∀ unit,
    assets.quantity unit = (utxos.map fun u => u.assets.quantity unit).sum

theorem totals_nil : Totals [] [] :=
  ⟨List.nodup_nil, by simp, fun _ => rfl⟩

/-- One more output, at the end. -/
theorem Totals.concat {utxos : List Utxo} {assets : Entries String Int} (h : Totals utxos assets)
    {u : Utxo} (hu : (Entries.keys u.assets).Nodup) :
    Totals (utxos ++ [u]) (addAssets assets u.assets) where
  distinct := nodup_keys_addAssets h.distinct u.assets
  units unit := by
    simp only [mem_keys_addAssets, h.units, List.mem_append, List.mem_singleton, or_and_right,
      exists_or, exists_eq_left]
  quantities unit := by
    rw [quantity_addAssets hu, h.quantities, List.map_append, List.sum_append]
    simp

/-- The totals of outputs whose own units are distinct. -/
theorem totals {utxos : List Utxo} (h : ∀ u ∈ utxos, (Entries.keys u.assets).Nodup) :
    Totals utxos (totalAssets utxos) := by
  -- what was added already is put before what is still to be added
  have hfold : ∀ (rest done : List Utxo) (assets : Entries String Int), Totals done assets →
      (∀ u ∈ rest, (Entries.keys u.assets).Nodup) →
      Totals (done ++ rest) (rest.foldl (fun totals u => addAssets totals u.assets) assets) := by
    intro rest
    induction rest with
    | nil =>
      intro done assets hdone _
      simpa using hdone
    | cons u rest ih =>
      intro done assets hdone hrest
      obtain ⟨hu, hrest⟩ := List.forall_mem_cons.mp hrest
      rw [List.append_cons]
      exact ih _ _ (hdone.concat hu) hrest
  exact hfold utxos [] [] totals_nil h

/-! ### Records -/

/-- The records are read as the outputs, one by one. -/
def Reads (records : List Json) (utxos : List Utxo) : Prop :=
  List.Forall₂ (fun r u => ofRecord r = .ok u) records utxos

/-- The value of a record that can be read is that of its output. -/
theorem value_of_ofRecord {r : Json} {u : Utxo} (h : ofRecord r = .ok u) :
    Value.ofJson r = .ok ⟨u.lovelace, u.assets⟩ := by
  obtain ⟨record, rfl, hfields⟩ := ofRecord_eq_ok_iff.mp h
  obtain ⟨-, value, hvalue, index, -, rfl⟩ := ofFields_eq_ok_iff.mp hfields
  exact hvalue

/-- The lovelace of the records is that of the outputs. -/
theorem totalLovelace_eq_sum {records : List Json} {utxos : List Utxo} (h : Reads records utxos) :
    totalLovelace records = .ok (utxos.map Utxo.lovelace).sum := by
  unfold Reads at h
  have hfold : ∀ total : Int,
      records.foldlM (fun total record => do return total + (← Value.ofJson record).lovelace)
        total = (.ok (total + (utxos.map Utxo.lovelace).sum) : Except Value.Fault Int) := by
    induction h with
    | nil =>
      intro total
      simp [pure, Except.pure]
    | @cons r u rest others hr _ ih =>
      intro total
      rw [List.foldlM_cons, value_of_ofRecord hr, List.map_cons, List.sum_cons, ← Int.add_assoc]
      exact ih (total + u.lovelace)
  rw [totalLovelace, hfold, zero_add]

/-- The assets of outputs that were read add up. -/
theorem Reads.totals {records : List Json} {utxos : List Utxo} (h : Reads records utxos) :
    Totals utxos (totalAssets utxos) := by
  apply Utxo.totals
  intro u hu
  obtain ⟨r, -, hr⟩ := Traversal.exists_of_mem_mapM (Traversal.mapM_eq_ok_iff.mpr h) u hu
  exact (canonical_assets hr).nodup

end Utxo

end TxDraft
