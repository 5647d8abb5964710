import Mathlib.Algebra.BigOperators.Group.List.Basic
import Mathlib.Data.List.Perm.Basic
import TxDraft.Proofs.Lookup
import TxDraft.Proofs.Utxo.Total

/-!
# What lies at an address

The balance of an address and the list of its unspent outputs are two readings of the same records.
When the provider replies with records that can all be read, the balance is the exact total of the
list, unit by unit, although its lovelace is added up from the records; so it does not depend on the
order of the records, and the balances of two replies add up to that of the two in one
(`balanceAt_totals`).
-/

namespace TxDraft

namespace Entries

theorem get?_of_mem {unit : String} {assets : Entries String Int} (h : unit ∈ keys assets) :
    assets.get? unit = some (assets.quantity unit) := by
  rw [quantity]
  cases hget : assets.get? unit with
  | none => exact absurd h (get?_eq_none_iff.mp hget)
  | some n => rfl

end Entries

namespace AddressBalance

/-- As much lovelace and as much of every unit, with the same units. -/
structure SameHoldings (a b : AddressBalance) : Prop where
  lovelace : a.lovelace = b.lovelace
  assets : ∀ unit, a.assets.get? unit = b.assets.get? unit

/-- The balance is the sum of two, unit by unit. -/
structure IsSum (whole a b : AddressBalance) : Prop where
  lovelace : whole.lovelace = a.lovelace + b.lovelace
  units : ∀ unit, unit ∈ Entries.keys whole.assets ↔
    unit ∈ Entries.keys a.assets ∨ unit ∈ Entries.keys b.assets
  quantities : ∀ unit,
    whole.assets.quantity unit = a.assets.quantity unit + b.assets.quantity unit

/-- The balance is the total of the outputs. -/
structure TotalOf (b : AddressBalance) (utxos : List Utxo) : Prop where
  lovelace : b.lovelace = (utxos.map Utxo.lovelace).sum
  assets : Utxo.Totals utxos b.assets

theorem TotalOf.sameHoldings {a b : AddressBalance} {us vs : List Utxo} (ha : a.TotalOf us)
    (hb : b.TotalOf vs) (h : us.Perm vs) : a.SameHoldings b where
  lovelace := by
    rw [ha.lovelace, hb.lovelace]
    exact (h.map Utxo.lovelace).sum_eq
  assets unit := by
    have hunit : unit ∈ Entries.keys a.assets ↔ unit ∈ Entries.keys b.assets := by
      rw [ha.assets.units, hb.assets.units]
      simp only [h.mem_iff]
    have hquantity : a.assets.quantity unit = b.assets.quantity unit := by
      rw [ha.assets.quantities, hb.assets.quantities]
      exact (h.map fun u => u.assets.quantity unit).sum_eq
    by_cases hmem : unit ∈ Entries.keys a.assets
    · rw [Entries.get?_of_mem hmem, Entries.get?_of_mem (hunit.mp hmem), hquantity]
    · rw [Entries.get?_eq_none_iff.mpr hmem,
        Entries.get?_eq_none_iff.mpr (mt hunit.mpr hmem)]

theorem TotalOf.isSum {whole a b : AddressBalance} {us vs : List Utxo}
    (hwhole : whole.TotalOf (us ++ vs)) (ha : a.TotalOf us) (hb : b.TotalOf vs) :
    whole.IsSum a b where
  lovelace := by
    rw [hwhole.lovelace, ha.lovelace, hb.lovelace, List.map_append, List.sum_append]
  units unit := by
    rw [hwhole.assets.units, ha.assets.units, hb.assets.units]
    simp only [List.mem_append, or_and_right, exists_or]
  quantities unit := by
    rw [hwhole.assets.quantities, ha.assets.quantities, hb.assets.quantities, List.map_append,
      List.sum_append]

end AddressBalance

namespace Lookup

variable {ω α : Type}

/-! ### Queries -/

/-- An address, and whom to ask about it in which world. -/
structure Query (ω : Type) where
  backend : Backend ω
  /-- What is known already of the providers. -/
  known : Option Readiness
  address : String
  world : ω

namespace Query

/-- The unspent outputs at the address, and the world that the lookup leaves. -/
def utxos (q : Query ω) : Attempt (List Utxo) × ω :=
  (unspentAt q.backend q.known q.address).outcomeIn q.world

/-- The balance of the address, and the world that the lookup leaves. -/
def balance (q : Query ω) : Attempt AddressBalance × ω :=
  (balanceAt q.backend q.known q.address).outcomeIn q.world

/-- A provider is found and made a client of, and it replies with records. -/
def Replies (q : Query ω) (p : Provider) (records : List Json) (left : ω) : Prop :=
  (asked q.backend q.known q.address fun p records => .ok (p, records)).outcomeIn q.world =
    (.ok (p, records), left)

variable {q : Query ω} {p : Provider} {records : List Json} {left : ω}

/-- However they are read, it is the records of the reply that are read. -/
theorem Replies.outcomeIn_asked (h : q.Replies p records left)
    (read : Provider → List Json → Attempt α) :
    (asked q.backend q.known q.address read).outcomeIn q.world = (read p records, left) := by
  rw [asked_eq_bind, Work.outcomeIn_bind, h]
  exact Work.outcomeIn_ofAttempt (read p records) left

end Query

/-! ### Readable records -/

theorem mapM_readRecord (p : Provider) {records : List Json} {utxos : List Utxo}
    (h : Utxo.Reads records utxos) : records.mapM (readRecord p) = .ok utxos := by
  refine Traversal.mapM_eq_ok_iff.mpr (h.imp ?_)
  intro r u hr
  exact Traversal.mapError_eq_ok_iff.mpr hr

theorem balanceOf_of_reads (address : String) (p : Provider) {records : List Json}
    {utxos : List Utxo} (h : Utxo.Reads records utxos) :
    balanceOf address p records =
      .ok ⟨address, (utxos.map Utxo.lovelace).sum, Utxo.totalAssets utxos, some p⟩ := by
  rw [balanceOf, mapM_readRecord p h, Utxo.totalLovelace_eq_sum h]
  rfl

theorem Query.Replies.utxos_eq {q : Query ω} {p : Provider} {records : List Json} {left : ω}
    {utxos : List Utxo} (hreply : q.Replies p records left) (hread : Utxo.Reads records utxos) :
    q.utxos = (.ok utxos, left) := by
  rw [Query.utxos, unspentAt_eq_asked, hreply.outcomeIn_asked, mapM_readRecord p hread]

theorem Query.Replies.balance_eq {q : Query ω} {p : Provider} {records : List Json} {left : ω}
    {utxos : List Utxo} (hreply : q.Replies p records left) (hread : Utxo.Reads records utxos) :
    ∃ b, q.balance = (.ok b, left) ∧ b.address = q.address ∧ b.provider = some p ∧
      b.TotalOf utxos := by
  let b : AddressBalance :=
    ⟨q.address, (utxos.map Utxo.lovelace).sum, Utxo.totalAssets utxos, some p⟩
  refine ⟨b, ?_, rfl, rfl, ⟨rfl, hread.totals⟩⟩
  rw [Query.balance, balanceAt_eq_asked, hreply.outcomeIn_asked,
    balanceOf_of_reads q.address p hread]

/-- The balance of an address whose records can all be read is the total of its unspent outputs.
Whoever else is asked and replies with the records in another order makes the same of them; and if
the reply is the two lists of records of two replies, its balance is the sum of theirs. -/
theorem balanceAt_totals {q : Query ω} {p : Provider} {records : List Json} {left : ω}
    {utxos : List Utxo} (hreply : q.Replies p records left) (hread : Utxo.Reads records utxos) :
    q.utxos = (.ok utxos, left) ∧
    ∃ b, q.balance = (.ok b, left) ∧ b.address = q.address ∧ b.provider = some p ∧
      b.TotalOf utxos ∧
      (∀ (other : Query ω) (p' : Provider) (shuffled : List Json) (left' : ω),
        other.Replies p' shuffled left' → shuffled.Perm records →
        ∃ b', other.balance = (.ok b', left') ∧ b'.SameHoldings b) ∧
      ∀ (other joint : Query ω) (p₁ p₂ : Provider) (more : List Json) (others : List Utxo)
        (left₁ left₂ : ω),
        other.Replies p₁ more left₁ → joint.Replies p₂ (records ++ more) left₂ →
        Utxo.Reads more others →
        ∃ b₁ b₂, other.balance = (.ok b₁, left₁) ∧ joint.balance = (.ok b₂, left₂) ∧
          b₂.IsSum b b₁ := by
  obtain ⟨b, hb, haddress, hprovider, htotal⟩ := hreply.balance_eq hread
  refine ⟨hreply.utxos_eq hread, b, hb, haddress, hprovider, htotal, ?order, ?sum⟩
  case order =>
    intro other p' shuffled left' hother hperm
    obtain ⟨utxos', hread', hperm'⟩ := List.perm_comp_forall₂ hperm hread
    obtain ⟨b', hb', -, -, htotal'⟩ := hother.balance_eq hread'
    exact ⟨b', hb', htotal'.sameHoldings htotal hperm'⟩
  case sum =>
    intro other joint p₁ p₂ more others left₁ left₂ hother hjoint hothers
    obtain ⟨b₁, hb₁, -, -, htotal₁⟩ := hother.balance_eq hothers
    obtain ⟨b₂, hb₂, -, -, htotal₂⟩ := hjoint.balance_eq (List.rel_append hread hothers)
    exact ⟨b₁, b₂, hb₁, hb₂, htotal₂.isSum htotal htotal₁⟩

/-- A backend that has Kupmios reply with the records, whatever the address. -/
def serving (records : List Json) : Backend Unit where
  resolve := pure ⟨⟨true, true, false, false, false⟩, []⟩
  client _ := pure ⟨fun _ => pure records, pure .null⟩
  tip := .ofAttempt (.error (.unavailable .noneReachable))
  version := pure []
  health := pure .null

/-- What lies at an address, asked of such a backend. -/
def served (records : List Json) : Query Unit :=
  ⟨serving records, none, "addr1", ()⟩

/-- A record as Kupo writes it. -/
def coined : Json :=
  .obj [("transaction_id", .str "aa"), ("output_index", .int 0),
    ("value", .obj [("coins", .int 3000000), ("assets", .obj [("ab.cd", .int 7)])])]

/-- A record as Blockfrost writes it. -/
def itemized : Json :=
  .obj [("tx_hash", .str "bb"), ("output_index", .str "1"),
    ("amount", .arr [
      .obj [("unit", .str "lovelace"), ("quantity", .str "2000000")],
      .obj [("unit", .str "AB.cd"), ("quantity", .int 5)]])]

/-- Three million and two million lovelace, seven pieces and five of one token, from records of two
shapes: in the other order they come to the same, and in two replies to the sum. -/
theorem balanceAt_totals_served :
    (∃ b, (served [coined, itemized]).balance = (.ok b, ()) ∧ b.lovelace = 5000000 ∧
      b.assets.quantity "ab.cd" = 12 ∧
      ∃ b', (served [itemized, coined]).balance = (.ok b', ()) ∧ b'.SameHoldings b) ∧
    ∃ b b₁ b₂, (served [coined]).balance = (.ok b, ()) ∧
      (served [itemized]).balance = (.ok b₁, ()) ∧
      (served ([coined] ++ [itemized])).balance = (.ok b₂, ()) ∧ b₂.IsSum b b₁ := by
  have hreply : ∀ records, (served records).Replies .kupmios records () := fun _ => rfl
  have hcoined : ∃ u, Utxo.ofRecord coined = .ok u ∧ u.lovelace = 3000000 ∧
      u.assets.quantity "ab.cd" = 7 := ⟨_, rfl, rfl, rfl⟩
  have hitemized : ∃ u, Utxo.ofRecord itemized = .ok u ∧ u.lovelace = 2000000 ∧
      u.assets.quantity "ab.cd" = 5 := ⟨_, rfl, rfl, rfl⟩
  obtain ⟨u, hu, hulovelace, huassets⟩ := hcoined
  obtain ⟨v, hv, hvlovelace, hvassets⟩ := hitemized
  have hboth : Utxo.Reads [coined, itemized] [u, v] := .cons hu (.cons hv .nil)
  constructor
  · obtain ⟨-, b, hb, -, -, htotal, horder, -⟩ := balanceAt_totals (hreply _) hboth
    refine ⟨b, hb, ?_, ?_, horder _ _ _ _ (hreply _) (.swap _ _ _)⟩
    · rw [htotal.lovelace]
      simp [hulovelace, hvlovelace]
    · rw [htotal.assets.quantities]
      simp [huassets, hvassets]
  · obtain ⟨-, b, hb, -, -, -, -, hsum⟩ :=
      balanceAt_totals (hreply _) (.cons hu .nil : Utxo.Reads [coined] [u])
    obtain ⟨b₁, b₂, hb₁, hb₂, hwhole⟩ :=
      hsum _ _ _ _ _ _ _ _ (hreply [itemized]) (hreply _) (.cons hv .nil)
    exact ⟨b, b₁, b₂, hb, hb₁, hb₂, hwhole⟩

end Lookup

end TxDraft
