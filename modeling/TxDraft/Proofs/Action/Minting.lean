import TxDraft.Action.Step
import TxDraft.Proofs.Action.Acceptance
import TxDraft.Proofs.Value.Holding

/-!
# Minting steps

What the steps of an action that was validated promise to a builder: the assets that they mint or
burn are tokens of the ledger, each named once (`sound_of_validate`).
-/

namespace TxDraft

/-- What is minted or burned are tokens of the ledger, each named once. -/
def Step.Sound : Step → Prop
  | mintAssets policy assets _ | burnAssets policy assets _ =>
    (∀ name ∈ Entries.keys assets, Token.Minted ⟨policy, name⟩) ∧ (Entries.keys assets).Nodup
  | _ => True

namespace Part

/-- Every entry of a map of assets has a word for its key and a quantity above zero. -/
theorem words_of_entries {read : Lexicon.Reader} {fields : Json.Fields}
    {pairs : List (String × Int)} (h : entries read fields = .ok pairs) :
    ∀ e ∈ pairs, (∃ s, read s = .ok e.1) ∧ 0 < e.2 := by
  induction fields generalizing pairs with
  | nil =>
    cases h
    exact nofun
  | cons e rest ih =>
    obtain ⟨_, more, hfirst, hmore, rfl⟩ := Checked.both_eq_ok_iff.mp h
    obtain ⟨⟨key, n⟩, hentry, rfl⟩ := Traversal.map_eq_ok_iff.mp hfirst
    obtain ⟨hkey, hn⟩ := entry_eq_ok_iff.mp hentry
    obtain ⟨s, -, hs⟩ := word_eq_ok_iff.mp hkey
    have hpositive : 0 < n := by simpa using (amount_eq_ok_iff.mp hn).2
    exact List.forall_mem_cons.mpr ⟨⟨⟨s.string, hs⟩, hpositive⟩, ih hmore⟩

/-- A map of assets has every key once. -/
theorem entries_of_assets {read : Lexicon.Reader} {v : Json} {a : Entries String Int}
    (h : assets read v = .ok a) :
    (Entries.keys a).Nodup ∧ ∀ e ∈ a, (∃ s, read s = .ok e.1) ∧ 0 < e.2 := by
  cases v with
  | obj fields =>
    obtain ⟨pairs, hpairs, rfl⟩ := Traversal.map_eq_ok_iff.mp h
    exact ⟨(Entries.nodup_keys_ofPairs pairs).1,
      fun e he => words_of_entries hpairs e (Entries.mem_of_mem_ofPairs he)⟩
  | _ => simp [assets] at h

theorem assets_of_someAssets {read : Lexicon.Reader} {v : Json} {a : Entries String Int}
    (h : someAssets read v = .ok a) : assets read v = .ok a :=
  (someAssets_eq_ok_iff.mp h).1

end Part

namespace Action

open TxDraft.Part

variable {fields : Json.Fields}

theorem exists_read_of_fill {α : Type} {spellings : List String} {read : Reader α} {a : α}
    (h : (required spellings read).fill fields = .ok a) : ∃ v, read v = .ok a := by
  rcases Field.fill_eq_ok_iff.mp h with ⟨name, -, hread⟩ | ⟨-, habsent⟩
  · exact ⟨_, hread⟩
  · cases habsent

theorem minted_of_fill {policy : String} {assets : Entries String Int}
    (hpolicy : policyField.fill fields = .ok policy)
    (hassets : namesField.fill fields = .ok assets) :
    (∀ name ∈ Entries.keys assets, Token.Minted ⟨policy, name⟩) ∧
      (Entries.keys assets).Nodup := by
  obtain ⟨v, hv⟩ := exists_read_of_fill hpolicy
  obtain ⟨s, -, hs⟩ := word_eq_ok_iff.mp hv
  obtain ⟨w, hw⟩ := exists_read_of_fill hassets
  obtain ⟨hnodup, hentries⟩ := entries_of_assets (assets_of_someAssets hw)
  refine ⟨fun name hname => ?_, hnodup⟩
  obtain ⟨e, he, rfl⟩ := List.mem_map.mp hname
  obtain ⟨⟨t, ht⟩, -⟩ := hentries e he
  exact ⟨(Lexicon.isHexOf_iff _ _).mp (Lexicon.shaped_eq_ok_iff.mp hs).2,
    (Lexicon.isAssetName_iff _).mp (Lexicon.shaped_eq_ok_iff.mp ht).2⟩

/-- A form gives actions of its own kind. -/
theorem kind_of_fill {network : Option Network} {kind : ActionKind} {action : Action}
    (h : (form network kind).fill fields = .ok action) : action.kind = kind := by
  cases kind with
  | collateral | referenceInput =>
    obtain ⟨txHash, index, record, -, -, -, rfl⟩ := fill_withReference_eq_ok_iff.mp h
    rfl
  | spendUtxo =>
    obtain ⟨_, redeemer, hmake, -, rfl⟩ := Form.fill_and_eq_ok_iff.mp h
    obtain ⟨txHash, index, record, -, -, -, rfl⟩ := fill_withReference_eq_ok_iff.mp hmake
    rfl
  | payMany | requiredSigner | changeAddress | stakeRegister | stakeDeregister =>
    obtain ⟨_, -, rfl⟩ := Form.fill_one_iff.mp h
    rfl
  | payLovelace | metadata | attachScript | withdrawRewards | validity =>
    obtain ⟨_, _, -, -, rfl⟩ := Form.fill_two_iff.mp h
    rfl
  | payAssets | mint | burn | feePolicy =>
    obtain ⟨_, _, _, -, -, -, rfl⟩ := Form.fill_three_iff.mp h
    rfl

theorem sound_of_kind {action : Action} (hmint : action.kind ≠ .mint)
    (hburn : action.kind ≠ .burn) : ∀ step ∈ action.steps, step.Sound := by
  cases action with
  | mint => exact absurd rfl hmint
  | burn => exact absurd rfl hburn
  | validity first last => cases first <;> cases last <;> simp [steps, Step.Sound]
  | _ => simp [steps, Step.Sound]

theorem sound_of_fill {network : Option Network} {kind : ActionKind} {action : Action}
    (h : (form network kind).fill fields = .ok action) : ∀ step ∈ action.steps, step.Sound := by
  by_cases hkind : kind = .mint ∨ kind = .burn
  · rcases hkind with rfl | rfl
    all_goals
      obtain ⟨policy, assets, redeemer, hpolicy, hassets, -, rfl⟩ := Form.fill_three_iff.mp h
      intro step hstep
      obtain rfl := List.mem_singleton.mp hstep
      exact minted_of_fill hpolicy hassets
  · rw [← kind_of_fill h, not_or] at hkind
    exact sound_of_kind hkind.1 hkind.2

/-- The steps of an action that was validated are sound. -/
theorem sound_of_validate {network : Option Network} {v : Json} {action : Action}
    (h : validate network v = .ok action) : ∀ step ∈ action.steps, step.Sound := by
  rw [validate_eq_ok_iff, judge_eq_accepted_iff] at h
  obtain ⟨kind, fields, -, hread⟩ := h
  rw [readKind_eq_accepted_iff, readFields_eq_ok_iff] at hread
  exact sound_of_fill hread.1.1

end Action

end TxDraft
