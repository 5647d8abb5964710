import TxDraft.Proofs.Draft.Payments
import TxDraft.Proofs.Encoding.Cbor
import TxDraft.Proofs.Ledger.Units

/-!
# Payments without lovelace

A payment without an amount of lovelace gets the least one, measured while a coin of a million
stands in it; the coin that it then has is measured again by the ledger, and may be longer than the
one that stood for it.  What an output takes besides its coin does not depend on the coin
(`Output.exists_size_measured`), and a million takes five bytes, so the second measure exceeds the
first exactly if the coin takes more than five (`Output.leastCoinAt_le_iff`).  The one estimate is
enough below `2 ^ 32`, and from there on never (`Draft.payment_covers_least`).
-/

namespace TxDraft

open Ledger

namespace Ledger

variable (assets : Assets)

/-! ### The bytes of the coin -/

/-- The coin of an amount counts by its own bytes, whatever else there is. -/
theorem Amount.exists_size_cbor :
    ∃ rest, ∀ coin, (Amount.cbor ⟨coin, assets⟩).size = rest + (Cbor.int coin).size := by
  cases hassets : assets.isEmpty with
  | true =>
    refine ⟨0, fun coin => ?_⟩
    rw [Amount.cbor, if_pos hassets, Nat.zero_add]
  | false =>
    refine ⟨(Cbor.head 4 2).length + assets.cbor.size, fun coin => ?_⟩
    rw [Amount.cbor, if_neg (by simp [hassets])]
    show (Cbor.head 4 2 ++ ((Cbor.int coin).encode ++ (assets.cbor.encode ++ []))).length = _
    rw [List.append_nil, List.length_append, List.length_append, Cbor.size, Cbor.size]
    omega

namespace Output

variable (address : Bytes)

/-- So does the coin of an output, or what stands for it if there is none. -/
theorem exists_size_measured :
    ∃ rest, ∀ coin, (measured address ⟨coin, assets⟩).size =
      rest + (Cbor.int (if coin = 0 then assumedCoin else coin)).size := by
  obtain ⟨rest, hrest⟩ := Amount.exists_size_cbor assets
  let before := Cbor.head 5 2 ++ (Cbor.int 0).encode ++ (Cbor.bytes address).encode ++
    (Cbor.int 1).encode
  refine ⟨before.length + rest, fun coin => ?_⟩
  have hencode : (measured address ⟨coin, assets⟩).encode =
      before ++ (Amount.cbor ⟨if coin = 0 then assumedCoin else coin, assets⟩).encode := by
    simp [measured, before, Cbor.encode, Cbor.encodeEntries]
  rw [Cbor.size, hencode, List.length_append, ← Cbor.size, hrest, Nat.add_assoc]

/-- An output is no longer with its own coin than with a million, which takes five bytes, exactly
if its coin takes no more. -/
theorem size_measured_le_iff {coin : Int} (h : 0 ≤ coin) :
    (measured address ⟨coin, assets⟩).size ≤ (measured address ⟨assumedCoin, assets⟩).size ↔
      coin < 2 ^ 32 := by
  obtain ⟨rest, hrest⟩ := exists_size_measured assets address
  have hassumed : (Cbor.int assumedCoin).size = 5 := by decide
  have hmillion : (measured address ⟨assumedCoin, assets⟩).size = rest + 5 := by
    rw [hrest, ite_self, hassumed]
  rw [hmillion, hrest, Nat.add_le_add_iff_left]
  by_cases hzero : coin = 0
  · subst hzero
    rw [if_pos rfl, hassumed]
    decide
  · rw [if_neg hzero]
    exact Cbor.size_int_le_five_iff h

/-! ### Measuring twice -/

theorem leastCoinAt_zero (coinsPerByte : Int) :
    leastCoinAt coinsPerByte address ⟨0, assets⟩ =
      ((overhead + (measured address ⟨assumedCoin, assets⟩).size : Nat) : Int) * coinsPerByte :=
  rfl

/-- The least coin, once it stands in the output, is still the least if it is below `2 ^ 32`, and
too little if it is not. -/
theorem leastCoinAt_le_iff {coinsPerByte coin : Int} (hprice : 0 ≤ coinsPerByte)
    (hcoin : coin = leastCoinAt coinsPerByte address ⟨0, assets⟩) :
    leastCoinAt coinsPerByte address ⟨coin, assets⟩ ≤ coin ↔ coin < 2 ^ 32 := by
  rw [leastCoinAt_zero] at hcoin
  rcases hprice.eq_or_lt with rfl | hpositive
  · -- nothing is asked for, and nothing is there
    rw [hcoin, leastCoinAt, mul_zero, mul_zero]
    decide
  · have hnonneg : 0 ≤ coin := hcoin ▸ Int.mul_nonneg (Int.natCast_nonneg _) hprice
    calc leastCoinAt coinsPerByte address ⟨coin, assets⟩ ≤ coin
        ↔ ((overhead + (measured address ⟨coin, assets⟩).size : Nat) : Int) * coinsPerByte ≤
            ((overhead + (measured address ⟨assumedCoin, assets⟩).size : Nat) : Int) *
              coinsPerByte := by rw [← hcoin, leastCoinAt]
      _ ↔ (measured address ⟨coin, assets⟩).size ≤
            (measured address ⟨assumedCoin, assets⟩).size := by
          rw [Int.mul_le_mul_iff_of_pos_right hpositive, Int.ofNat_le, Nat.add_le_add_iff_left]
      _ ↔ coin < 2 ^ 32 := size_measured_le_iff assets address hnonneg

end Output

end Ledger

namespace Draft

/-! ### Payments -/

/-- A payment of validated assets without lovelace is always built.  Its coin is the least one of
the output with a coin of a million, and it is no less than the least one of the output itself
exactly if it is below `2 ^ 32`. -/
theorem payment_covers_least {coinsPerByte : Int} {toAddress : String} {lovelace : Option Int}
    {units : Entries String Int} {address : Address} (hprice : 0 ≤ coinsPerByte)
    (haddress : Address.ofText? toAddress = some address)
    (hvalid : ∀ unit ∈ Entries.keys units, ValidUnit unit)
    (hdistinct : (Entries.keys units).Nodup) (hnone : lovelace.getD 0 = 0) :
    ∃ coin assets, Assets.ofUnits? 1 units = some assets ∧
      payment coinsPerByte toAddress lovelace units = .ok (.plain address ⟨coin, assets⟩) ∧
      coin = ((Output.overhead + (Output.measured address.bytes ⟨1000000, assets⟩).size : Nat) :
        Int) * coinsPerByte ∧
      (coin < 2 ^ 32 ↔ Output.leastCoin coinsPerByte address ⟨coin, assets⟩ ≤ coin) := by
  obtain ⟨assets, hassets, -, -⟩ :=
    Assets.ofUnits?_of_isUnit 1 (fun unit hunit => (hvalid unit hunit).isUnit) hdistinct
  refine ⟨_, assets, hassets, ?_, rfl, ?_⟩
  · rw [payment, haddress, hassets, hnone]
    rfl
  · exact (Output.leastCoinAt_le_iff assets address.bytes hprice rfl).symm

/-- What the shared unit is read as, five of it. -/
def sharedAssets : Assets :=
  [(⟨List.replicate 28 0xAA, [0]⟩, 5)]

/-- The assets go to the holder of a key, at a usual price of a byte. -/
theorem payment_covers_least_shared :
    0 ≤ (4310 : Int) ∧ Address.ofText? keyedText = some keyed ∧
      (∀ unit ∈ Entries.keys [(sharedUnit, (5 : Int))], ValidUnit unit) ∧
      (Entries.keys [(sharedUnit, (5 : Int))]).Nodup ∧ (none : Option Int).getD 0 = 0 ∧
      Assets.ofUnits? 1 [(sharedUnit, 5)] = some sharedAssets ∧
      payment 4310 keyedText none [(sharedUnit, 5)] = .ok (.plain keyed ⟨1012850, sharedAssets⟩) ∧
      Output.leastCoin 4310 keyed ⟨1012850, sharedAssets⟩ ≤ 1012850 := by
  have hprice : 0 ≤ (4310 : Int) := by decide
  have haddress : Address.ofText? keyedText = some keyed := by decide +kernel
  have hid : Lexicon.assetId sharedUnit = .ok sharedUnit := by decide +kernel
  have hvalid : ∀ unit ∈ Entries.keys [(sharedUnit, (5 : Int))], ValidUnit unit := by
    rw [Entries.keys_cons, Entries.keys_nil, List.forall_mem_singleton]
    exact .id hid
  have hdistinct : (Entries.keys [(sharedUnit, (5 : Int))]).Nodup := List.nodup_singleton _
  have hnone : (none : Option Int).getD 0 = 0 := rfl
  have hread : Assets.ofUnits? 1 [(sharedUnit, 5)] = some sharedAssets := by decide +kernel
  have hsize : (Output.measured keyed.bytes ⟨1000000, sharedAssets⟩).size = 75 := by
    decide +kernel
  obtain ⟨coin, assets, hassets, hpayment, hcoin, hcovers⟩ :=
    payment_covers_least hprice haddress hvalid hdistinct hnone
  obtain rfl : sharedAssets = assets := Option.some.inj (hread.symm.trans hassets)
  obtain rfl : coin = 1012850 := by
    rw [hcoin, hsize]
    rfl
  exact ⟨hprice, haddress, hvalid, hdistinct, hnone, hread, hpayment, hcovers.mp (by decide)⟩

end Draft

end TxDraft
