import Mathlib.Algebra.BigOperators.Group.List.Basic
import Mathlib.Algebra.Group.Int.Defs
import TxDraft.Proofs.Value.Holding

/-!
# The four shapes of values

`ofJson_of_describes`: in whatever shape a holding is written, and in whatever order, the record has
the value of the holding, with every token under its dotted unit.

In each shape the credits of the record are read as the gains of the holding, in the order of the
record; the rest is one argument for all shapes, since the units of the gains are distinct.
-/

namespace TxDraft

namespace Value

open Holding

/-! ### Reading what was written -/

theorem read_of_written {n : Int} {v : Json} (h : Quantity.Written n v) :
    readQuantity v = .ok n := by
  have hread : Quantity.read v = .ok n := by
    rcases h with rfl | ⟨hshort, rfl⟩
    · rfl
    · exact Quantity.read_print_eq_ok_iff.mpr ⟨hshort, rfl⟩
  rw [readQuantity, hread]
  rfl

theorem Credit.read_coin {n : Int} {v : Json} (h : Quantity.Written n v) :
    (coin v).read = .ok (.ada, n) := by
  rw [read, read_of_written h]
  rfl

theorem Credit.read_asset {unit : String} {n : Int} {v : Json} (h : Quantity.Written n v) :
    (asset (.str unit) v).read = .ok (Token.ofUnit unit, n) := by
  rw [read, readUnit, read_of_written h]
  rfl

/-- The credits are read as the gains, one by one. -/
def ReadAs (credits : List Credit) (gains : List (Token × Int)) : Prop :=
  List.Forall₂ (fun credit gain => credit.read = .ok gain) credits gains

theorem readAs_unitCredits {spell : Token → String} {fields : Json.Fields}
    {gains : List (Token × Int)} (h : Lists spell fields gains)
    (hspell : ∀ gain ∈ gains, Token.ofUnit (spell gain.1) = gain.1) :
    ReadAs (unitCredits fields) gains := by
  induction h with
  | nil => exact .nil
  | @cons e gain fields gains he _ ih =>
    obtain ⟨hunit, hn⟩ := he
    obtain ⟨hgain, hrest⟩ := List.forall_mem_cons.mp hspell
    refine .cons ?_ (ih hrest)
    dsimp only
    rw [hunit, Credit.read_asset hn, hgain]

theorem readAs_entryCredits {items : List Json} {gains : List (Token × Int)}
    (h : Itemizes items gains) (hheld : ∀ gain ∈ gains, gain.1.Held) :
    ReadAs (entryCredits items) gains := by
  induction h with
  | nil => exact .nil
  | @cons item gain items gains hitem _ ih =>
    obtain ⟨entry, quantity, rfl, hunit, hquantity, hn⟩ := hitem
    obtain ⟨hgain, hrest⟩ := List.forall_mem_cons.mp hheld
    refine .cons ?_ (ih hrest)
    rw [Json.field, hunit, hquantity, Option.getD_some, Option.getD_some, Credit.read_asset hn,
      Token.ofUnit_joinedUnit hgain]

theorem readAs_names {policy : String} (hpolicy : Lexicon.HexHash 56 policy.toList)
    {names : Json.Fields} {own : List (Token × Int)}
    (h : List.Forall₂ (fun e gain => gain.1.policy = policy ∧ e.1 = .plain gain.1.name ∧
      Quantity.Written gain.2 e.2) names own) (hheld : ∀ gain ∈ own, gain.1.Held) :
    ReadAs (names.map fun e => .asset (.str (.plain (policy ++ "." ++ e.1.string))) e.2) own := by
  induction h with
  | nil => exact .nil
  | @cons e gain names own he _ ih =>
    obtain ⟨htoken, hname, hn⟩ := he
    obtain ⟨hgain, hrest⟩ := List.forall_mem_cons.mp hheld
    refine .cons ?_ (ih hrest)
    have hada : gain.1.isAda = false := by
      rw [← Bool.not_eq_true, Token.isAda_iff]
      intro hada
      obtain rfl : policy = "" := htoken.symm.trans (congrArg Token.policy hada)
      exact absurd hpolicy.1 (by decide)
    have hunit : policy ++ "." ++ e.1.string = gain.1.unit := by
      rw [Token.unit, if_neg (by simp [hada]), htoken, hname, Json.Str.string_plain]
    rw [Credit.read_asset hn, hunit, Token.ofUnit_unit hgain.plain]

theorem ne_of_hexHash {policy : String} (h : Lexicon.HexHash 56 policy.toList) {s : String}
    (hs : s.toList.length ≠ 56) : Json.Str.plain policy ≠ .plain s := by
  rintro ⟨⟩
  exact hs h.1

theorem readAs_policyCredits {fields : Json.Fields} {gains : List (Token × Int)}
    (h : Nests fields gains) (hheld : ∀ gain ∈ gains, gain.1.Held) :
    ReadAs (policyCredits fields) gains := by
  induction h with
  | nil => exact .nil
  | ada hquantity hn _ ih =>
    rw [policyCredits, if_pos rfl, hquantity, Option.getD_some]
    exact .cons (Credit.read_coin hn) (ih (List.forall_mem_cons.mp hheld).2)
  | policy hpolicy hnames _ ih =>
    rw [policyCredits, if_neg (ne_of_hexHash hpolicy (by decide))]
    obtain ⟨hown, hrest⟩ := List.forall_mem_append.mp hheld
    exact List.rel_append (readAs_names hpolicy hnames hown) (ih hrest)

theorem field?_coins_of_nests {fields : Json.Fields} {gains : List (Token × Int)}
    (h : Nests fields gains) : Json.field? fields "coins" = none := by
  rw [Json.field?, Entries.get?_eq_none_iff]
  induction h with
  | nil => exact List.not_mem_nil
  | ada _ _ _ ih => simpa using ih
  | policy hpolicy _ _ ih =>
    have hcoins := ne_of_hexHash hpolicy (s := "coins") (by decide)
    rw [Entries.keys, List.map_cons, List.mem_cons, not_or]
    exact ⟨hcoins.symm, ih⟩

/-- Gains of a holding, in any order, come to its value. -/
theorem ofRecord_of_readAs {record : Json.Fields} {gains : List (Token × Int)} {h : Holding}
    (hread : ReadAs (credits record) gains) (hperm : gains.Perm h.gains) :
    ∃ assets, ofRecord record = .ok ⟨h.lovelace, assets⟩ ∧ assets.Perm h.assets := by
  have hcoins : coins gains = h.lovelace := by
    rw [← h.coins_gains]
    exact ((hperm.filter _).map Prod.snd).sum_eq
  have hpieces : (pieces gains).Perm h.assets := by
    rw [← h.pieces_gains]
    exact (hperm.filter _).map _
  have hnodup : (Entries.keys (zero.assets ++ pieces gains)).Nodup :=
    (hpieces.map Prod.fst).nodup_iff.mpr h.nodup_keys_assets
  refine ⟨pieces gains, ?_, hpieces⟩
  rw [ofRecord_eq_ok_iff]
  refine ⟨gains, Traversal.mapM_eq_ok_iff.mpr hread, ?_⟩
  rw [gained_of_nodup hnodup, hcoins]
  exact congrArg (Value.mk · _) (Int.zero_add h.lovelace)

/-- However a holding is written, the record has its value: the lovelace, and under the unit of
every token its quantity, with no other unit. -/
theorem ofJson_of_describes {h : Holding} {record : Json.Fields} (hrecord : h.Describes record) :
    ∃ assets, ofJson (.obj record) = .ok ⟨h.lovelace, assets⟩ ∧ assets.Perm h.assets := by
  rw [ofJson]
  cases hrecord with
  | @kupo fields entries counted tokens hamount hassets hvalue hcoins hn hentries hlists hperm =>
    have hminted : ∀ gain ∈ tokens, gain.1.Minted :=
      fun gain hgain => h.minted _ (List.mem_map_of_mem (hperm.mem_iff.mp hgain))
    have hcredits : credits record = .coin counted :: unitCredits entries := by
      rw [credits, hamount, hassets, hvalue, valueCredits, hcoins, hentries]
      simp [amountCredits, mapCredits, assetsCredits]
    have hread : ReadAs (credits record) ((.ada, h.lovelace) :: tokens) := by
      rw [hcredits]
      refine .cons (Credit.read_coin hn) (readAs_unitCredits hlists fun gain hgain => ?_)
      exact Token.ofUnit_shortUnit (hminted gain hgain)
    exact ofRecord_of_readAs hread (hperm.cons _)
  | @blockfrost items gains hamount hassets hvalue hitemizes hperm =>
    have hcredits : credits record = entryCredits items := by
      rw [credits, hamount, hassets, hvalue]
      simp [amountCredits, valueCredits, mapCredits]
    refine ofRecord_of_readAs ?_ hperm
    rw [hcredits]
    exact readAs_entryCredits hitemizes fun gain hgain =>
      Holding.held_of_mem_gains (hperm.mem_iff.mp hgain)
  | @sdk fields gains hamount hassets hvalue hlists hperm =>
    have hcredits : credits record = unitCredits fields := by
      rw [credits, hamount, hassets, hvalue]
      simp [amountCredits, valueCredits, mapCredits]
    refine ofRecord_of_readAs ?_ hperm
    rw [hcredits]
    refine readAs_unitCredits hlists fun gain hgain => ?_
    exact Token.ofUnit_unit (Holding.held_of_mem_gains (hperm.mem_iff.mp hgain)).plain
  | @ogmios fields gains hamount hassets hvalue hnests hperm =>
    have hcredits : credits record = policyCredits fields := by
      rw [credits, hamount, hassets, hvalue, valueCredits, field?_coins_of_nests hnests]
      simp [amountCredits, mapCredits]
    refine ofRecord_of_readAs ?_ hperm
    rw [hcredits]
    exact readAs_policyCredits hnests fun gain hgain =>
      Holding.held_of_mem_gains (hperm.mem_iff.mp hgain)

/-- The policy whose digits are all the same. -/
def samePolicy (digit : Char) : String :=
  String.ofList (List.replicate 56 digit)

theorem hexHash_samePolicy {digit : Char} (h : Hex.isLowerDigit digit = true) :
    Lexicon.HexHash 56 (samePolicy digit).toList := by
  rw [samePolicy, String.toList_ofList]
  refine ⟨List.length_replicate, ?_⟩
  intro c hc
  rw [List.eq_of_mem_replicate hc]
  exact (Lexicon.isLowerDigit_iff digit).mp h

/-- Five ADA, seven pieces of a token without a name, and a debt of three pieces of another. -/
def pair : Holding where
  lovelace := 5000000
  tokens := [(⟨samePolicy 'a', ""⟩, 7), (⟨samePolicy 'b', "cafe"⟩, -3)]
  nodup := by simp
  minted := by
    have hname : Lexicon.AssetName "".toList ∧ Lexicon.AssetName "cafe".toList :=
      ⟨(Lexicon.isAssetName_iff _).mp (by decide), (Lexicon.isAssetName_iff _).mp (by decide)⟩
    intro t ht
    rcases List.mem_pair.mp ht with rfl | rfl
    · exact ⟨hexHash_samePolicy (by decide), hname.1⟩
    · exact ⟨hexHash_samePolicy (by decide), hname.2⟩

/-- The units of the two tokens, in one of their spellings. -/
def pairUnit (separator name : String) (digit : Char) : String :=
  samePolicy digit ++ separator ++ name

/-- The pair as Kupo writes it. -/
def pairKupo : Json.Fields :=
  [("value", .obj [("coins", .int 5000000),
    ("assets", .obj [(pairUnit "" "" 'a', .str "7"), (pairUnit "." "cafe" 'b', .int (-3))])])]

/-- The pair as Blockfrost writes it. -/
def pairBlockfrost : Json.Fields :=
  [("amount", .arr [
    .obj [("unit", .str "lovelace"), ("quantity", .str "5000000")],
    .obj [("unit", .str (pairUnit "" "" 'a')), ("quantity", .str "7")],
    .obj [("unit", .str (pairUnit "" "cafe" 'b')), ("quantity", .str "-3")]])]

/-- The pair as SDKs write it. -/
def pairSdk : Json.Fields :=
  [("assets", .obj [(pairUnit "." "" 'a', .int 7), ("lovelace", .int 5000000),
    (pairUnit "." "cafe" 'b', .int (-3))])]

/-- The value of the pair as Ogmios writes it. -/
def pairNested : Json.Fields :=
  [("ada", .obj [("lovelace", .int 5000000)]),
    (samePolicy 'b', .obj [("cafe", .str "-3")]), (samePolicy 'a', .obj [("", .int 7)])]

/-- The pair as Ogmios writes it. -/
def pairOgmios : Json.Fields :=
  [("value", .obj pairNested)]

theorem ofJson_of_describes_pair :
    (pair.Describes pairKupo ∧ pair.Describes pairBlockfrost ∧ pair.Describes pairSdk ∧
      pair.Describes pairOgmios) ∧
    ∃ assets, ofJson (.obj pairOgmios) = .ok ⟨5000000, assets⟩ ∧ assets.Perm pair.assets := by
  have hshort : ∀ n ∈ [(5000000 : Int), 7, -3], Quantity.Short n := by
    intro n hn
    refine Quantity.length_digits_le_iff.mp ?_
    have hall : ∀ n ∈ [(5000000 : Int), 7, -3],
        (Quantity.digits n).length ≤ Quantity.maxDigits := by decide +kernel
    exact hall n hn
  have htext : ∀ n ∈ [(5000000 : Int), 7, -3], Quantity.Written n (.str (Quantity.print n)) :=
    fun n hn => Or.inr ⟨hshort n hn, rfl⟩
  have hkupo : pair.Describes pairKupo := by
    refine .kupo rfl rfl rfl rfl (Or.inl rfl) rfl ?_ (List.Perm.refl _)
    exact .cons ⟨rfl, htext 7 (by decide)⟩ (.cons ⟨rfl, Or.inl rfl⟩ .nil)
  have hblockfrost : pair.Describes pairBlockfrost := by
    refine .blockfrost rfl rfl rfl ?_ (List.Perm.refl _)
    exact .cons ⟨_, _, rfl, rfl, rfl, htext 5000000 (by decide)⟩
      (.cons ⟨_, _, rfl, rfl, rfl, htext 7 (by decide)⟩
        (.cons ⟨_, _, rfl, rfl, rfl, htext (-3) (by decide)⟩ .nil))
  have hsdk : pair.Describes pairSdk := by
    refine .sdk rfl rfl rfl ?_ (List.Perm.swap _ _ _)
    exact .cons ⟨rfl, Or.inl rfl⟩ (.cons ⟨rfl, Or.inl rfl⟩ (.cons ⟨rfl, Or.inl rfl⟩ .nil))
  have hogmios : pair.Describes pairOgmios := by
    have hnests : Nests pairNested
        [(.ada, 5000000), (⟨samePolicy 'b', "cafe"⟩, -3), (⟨samePolicy 'a', ""⟩, 7)] :=
      .ada rfl (Or.inl rfl) (.policy (hexHash_samePolicy (by decide))
        (.cons ⟨rfl, rfl, htext (-3) (by decide)⟩ .nil) (.policy (hexHash_samePolicy (by decide))
          (.cons ⟨rfl, rfl, Or.inl rfl⟩ .nil) .nil))
    exact .ogmios rfl rfl rfl hnests ((List.Perm.swap _ _ _).cons _)
  exact ⟨⟨hkupo, hblockfrost, hsdk, hogmios⟩, ofJson_of_describes hogmios⟩

end Value

end TxDraft
