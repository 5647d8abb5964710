import TxDraft.Proofs.Ledger.Assets
import TxDraft.Proofs.Value.Shapes

/-!
# Assets under validated units

Actions that were validated give quantities under asset ids, or under names of a policy, and a map
of assets is read from these texts by cutting them at their points and reading hexadecimal digits.
Such a text and the pair of bytes that it spells determine each other (`Spells.unit_eq`,
`exists_spells`), so no two of them meet in one place of the map, and nothing is lost
(`ofUnits?_of_valid`).
-/

namespace TxDraft.Ledger

open Value (samePolicy)

/-- A text that a map of assets is read from, out of actions that were validated: the id of an
asset, or the name of an asset behind its policy and a point. -/
inductive ValidUnit : String → Prop
  | id {text unit : String} (h : Lexicon.assetId text = .ok unit) : ValidUnit unit
  | named {policyText nameText policy name : String}
    (hpolicy : Lexicon.shortHash policyText = .ok policy)
    (hname : Lexicon.assetName nameText = .ok name) : ValidUnit (policy ++ "." ++ name)

/-- The text has the policy of the key in hexadecimal, a point, and the name of the key. -/
structure Spells (unit : String) (k : AssetKey) : Prop where
  decoded : ∃ policy name, unit = policy ++ "." ++ name ∧
    Hex.decode? policy = some k.policy ∧ Hex.decode? name = some k.name
  policy : k.policy.length = 28
  name : k.name.length ≤ 32

/-- The map has each quantity, taken so many times, under the key that its text spells, and nothing
else; zero is not kept. -/
structure Faithful (sign : Int) (units : Entries String Int) (m : Assets) : Prop where
  each : ∀ unit n, (unit, n) ∈ units → ∃ k, Spells unit k ∧
    Entries.get? k m = if sign * n = 0 then none else some (sign * n)
  only : ∀ k n, (k, n) ∈ m → ∃ unit n', (unit, n') ∈ units ∧ Spells unit k ∧ n = sign * n'
  apart : ∀ unit ∈ Entries.keys units, ∀ unit' ∈ Entries.keys units, ∀ k,
    Spells unit k → Spells unit' k → unit = unit'
  once : (Entries.keys m).Nodup

/-! ### What a unit spells -/

theorem ValidUnit.isUnit {unit : String} (h : ValidUnit unit) : Assets.IsUnit unit := by
  cases h with
  | id h =>
    obtain ⟨-, haccepted⟩ := Lexicon.shaped_eq_ok_iff.mp h
    obtain ⟨policy, name, hunit, hpolicy, hname⟩ := (Lexicon.isAssetId_iff _).mp haccepted
    have hminted : Token.Minted ⟨String.ofList policy, String.ofList name⟩ :=
      ⟨by rwa [String.toList_ofList], by rwa [String.toList_ofList]⟩
    refine ⟨_, hminted, String.toList_inj.mp ?_⟩
    rw [Token.toList_unit hminted.isAda_eq_false, String.toList_ofList, String.toList_ofList, hunit]
  | named hpolicy hname =>
    obtain ⟨-, hpolicy⟩ := Lexicon.shaped_eq_ok_iff.mp hpolicy
    obtain ⟨-, hname⟩ := Lexicon.shaped_eq_ok_iff.mp hname
    have hminted : Token.Minted ⟨_, _⟩ :=
      ⟨(Lexicon.isHexOf_iff _ _).mp hpolicy, (Lexicon.isAssetName_iff _).mp hname⟩
    exact ⟨_, hminted, hminted.unit_eq⟩

/-- A unit spells the one key whose unit it is. -/
theorem exists_spells {unit : String} (h : Assets.IsUnit unit) :
    ∃ k, Spells unit k ∧ k.unit = unit := by
  obtain ⟨t, hminted, rfl⟩ := h
  obtain ⟨k, hk, hunit⟩ := Assets.key?_of_minted hminted
  obtain ⟨hpolicy, hname⟩ := Assets.lengths_of_key? hk
  obtain ⟨hpolicyText, hnameText⟩ := AssetKey.unit_eq_iff.mp (hunit.trans hminted.unit_eq)
  refine ⟨k, ⟨⟨t.policy, t.name, hminted.unit_eq, ?_, ?_⟩, hpolicy, hname⟩, hunit⟩
  · rw [← hpolicyText, Hex.decode?_encode]
  · rw [← hnameText, Hex.decode?_encode]

theorem Spells.unit_eq {unit : String} {k : AssetKey} (h : Spells unit k)
    (hunit : Assets.IsUnit unit) : k.unit = unit := by
  obtain ⟨policy, name, rfl, hpolicy, hname⟩ := h.decoded
  obtain ⟨k', -, hk'⟩ := exists_spells hunit
  -- there is only one point to cut at, and the digits on either side are those of one key
  obtain ⟨rfl, rfl⟩ := AssetKey.unit_eq_iff.mp hk'
  rw [Hex.decode?_encode, Option.some.injEq] at hpolicy hname
  rw [AssetKey.unit, ← hpolicy, ← hname]

/-! ### The map of the units -/

variable {units : Entries String Int}

/-- From distinct units that were validated a map of assets is always read, with every quantity,
taken so many times, under the bytes that its unit spells, and with nothing else. -/
theorem ofUnits?_of_valid (sign : Int) (hvalid : ∀ unit ∈ Entries.keys units, ValidUnit unit)
    (hdistinct : (Entries.keys units).Nodup) :
    ∃ m, Assets.ofUnits? sign units = some m ∧ Faithful sign units m := by
  have hunits : ∀ unit ∈ Entries.keys units, Assets.IsUnit unit :=
    fun unit hunit => (hvalid unit hunit).isUnit
  obtain ⟨m, hm, hcanonical, hquantity⟩ := Assets.ofUnits?_of_isUnit sign hunits hdistinct
  refine ⟨m, hm, ⟨?_, ?_, ?_, hcanonical.nodup_keys⟩⟩
  · intro unit n hentry
    obtain ⟨k, hspells, rfl⟩ := exists_spells (hunits unit (List.mem_map_of_mem hentry))
    refine ⟨k, hspells, ?_⟩
    rw [hcanonical.get?_eq, hquantity, Entries.quantity_of_mem hdistinct hentry]
  · intro k n hentry
    have hget := (Entries.mem_iff_get?_eq_some hcanonical.nodup_keys).mp hentry
    have hn : n = sign * units.quantity k.unit := by
      rw [← hquantity, Assets.quantity, hget, Option.getD_some]
    -- a quantity that is not zero is that of one of the units
    have hunit : k.unit ∈ Entries.keys units := by
      by_contra hnone
      rw [Entries.quantity_of_not_mem hnone, mul_zero] at hn
      exact hcanonical.nonzero _ hentry hn
    obtain ⟨⟨_, n'⟩, hmem, rfl⟩ := List.mem_map.mp hunit
    obtain ⟨k', hspells, hsame⟩ := exists_spells (hunits _ hunit)
    obtain rfl := AssetKey.unit_injective hsame
    exact ⟨_, n', hmem, hspells, by rw [hn, Entries.quantity_of_mem hdistinct hmem]⟩
  · intro unit hunit unit' hunit' k hspells hspells'
    rw [← hspells.unit_eq (hunits unit hunit), hspells'.unit_eq (hunits unit' hunit')]

/-- Two assets of one policy, one of them without a name, and one of another. -/
def severalUnits : Entries String Int :=
  [(samePolicy 'b' ++ ".", 5), (samePolicy 'a' ++ ".cafe", 3),
    (samePolicy 'a' ++ "." ++ "", 7)]

/-- The same quantities burned, under bytes and in order. -/
def severalBurned : Assets :=
  [(⟨List.replicate 28 0xAA, []⟩, -7), (⟨List.replicate 28 0xAA, [0xCA, 0xFE]⟩, -3),
    (⟨List.replicate 28 0xBB, []⟩, -5)]

theorem ofUnits?_of_valid_several :
    (∀ unit ∈ Entries.keys severalUnits, ValidUnit unit) ∧ (Entries.keys severalUnits).Nodup ∧
      Assets.ofUnits? (-1) severalUnits = some severalBurned ∧
      Faithful (-1) severalUnits severalBurned := by
  have hid : Lexicon.assetId (samePolicy 'B' ++ ". ") = .ok (samePolicy 'b' ++ ".") := by
    decide +kernel
  have hid' : Lexicon.assetId (samePolicy 'a' ++ ".CAFE") =
      .ok (samePolicy 'a' ++ ".cafe") := by
    decide +kernel
  have hpolicy : Lexicon.shortHash (samePolicy 'A') = .ok (samePolicy 'a') := by
    decide +kernel
  have hname : Lexicon.assetName " " = .ok "" := rfl
  have hvalid : ∀ unit ∈ Entries.keys severalUnits, ValidUnit unit := by
    simp only [severalUnits, Entries.keys_cons, Entries.keys_nil, List.forall_mem_cons,
      List.not_mem_nil, false_imp_iff, implies_true, and_true]
    exact ⟨.id hid, .id hid', .named hpolicy hname⟩
  have hdistinct : (Entries.keys severalUnits).Nodup := by decide +kernel
  have hread : Assets.ofUnits? (-1) severalUnits = some severalBurned := by decide +kernel
  obtain ⟨m, hm, hfaithful⟩ := ofUnits?_of_valid (-1) hvalid hdistinct
  obtain rfl : severalBurned = m := Option.some.inj (hread.symm.trans hm)
  exact ⟨hvalid, hdistinct, hread, hfaithful⟩

end TxDraft.Ledger
