import Mathlib.Data.List.Nodup
import TxDraft.Proofs.Lexicon
import TxDraft.Proofs.Value

/-!
# Holdings

A holding is an amount of lovelace with quantities of distinct tokens.  Providers write it in four
shapes (`Holding.Describes`), and each quantity as an integer or as its decimal text.  They spell
the unit of a token in different ways, but every spelling is read as the token
(`Token.ofUnit_joinedUnit`, `Token.ofUnit_shortUnit`), and the dotted units of what is held are
distinct (`Holding.nodup_keys_assets`).
-/

namespace TxDraft

/-! ### Holdings -/

/-- The token has a policy of twenty-eight bytes and a name of at most thirty-two. -/
structure Token.Minted (t : Token) : Prop where
  policy : Lexicon.HexHash 56 t.policy.toList
  name : Lexicon.AssetName t.name.toList

/-- An amount of lovelace and quantities of tokens, each token once. -/
structure Holding where
  lovelace : Int
  tokens : Entries Token Int
  nodup : (Entries.keys tokens).Nodup
  minted : ∀ t ∈ Entries.keys tokens, t.Minted

namespace Holding

/-- All that is held, the lovelace first. -/
def gains (h : Holding) : List (Token × Int) :=
  (.ada, h.lovelace) :: h.tokens

/-- The quantities of the tokens under `policy.name`. -/
def assets (h : Holding) : Entries String Int :=
  h.tokens.map fun e => (e.1.policy ++ "." ++ e.1.name, e.2)

end Holding

/-! ### Writing -/

/-- The value is the quantity, as an integer or as a decimal text with no more digits than are
read. -/
def Quantity.Written (n : Int) (v : Json) : Prop :=
  v = .int n ∨ Short n ∧ v = .str (print n)

/-- The unit with policy and name run together. -/
def Token.joinedUnit (t : Token) : String :=
  if t.isAda then "lovelace" else t.policy ++ t.name

/-- The unit with policy and name on either side of a point, or the policy alone if the name is
empty. -/
def Token.shortUnit (t : Token) : String :=
  if t.name = "" then t.policy else t.policy ++ "." ++ t.name

namespace Holding

/-- The fields of an object give quantities under units of some spelling. -/
def Lists (spell : Token → String) (fields : Json.Fields) (gains : List (Token × Int)) : Prop :=
  List.Forall₂ (fun e gain => e.1 = .plain (spell gain.1) ∧ Quantity.Written gain.2 e.2) fields
    gains

/-- The items of a list give quantities, each with its unit. -/
def Itemizes (items : List Json) (gains : List (Token × Int)) : Prop :=
  List.Forall₂ (fun item gain => ∃ entry quantity, item = .obj entry ∧
    Json.field? entry "unit" = some (.str gain.1.joinedUnit) ∧
    Json.field? entry "quantity" = some quantity ∧ Quantity.Written gain.2 quantity) items gains

/-- The fields of an object give lovelace under `ada`, and under policies quantities of names. -/
inductive Nests : Json.Fields → List (Token × Int) → Prop where
  | nil : Nests [] []
  | ada {entry rest : Json.Fields} {quantity : Json} {n : Int} {gains : List (Token × Int)}
    (hquantity : Json.field? entry "lovelace" = some quantity) (hn : Quantity.Written n quantity)
    (hrest : Nests rest gains) : Nests (("ada", .obj entry) :: rest) ((.ada, n) :: gains)
  | policy {policy : String} {names rest : Json.Fields} {own gains : List (Token × Int)}
    (hpolicy : Lexicon.HexHash 56 policy.toList)
    (hnames : List.Forall₂ (fun e gain => gain.1.policy = policy ∧ e.1 = .plain gain.1.name ∧
      Quantity.Written gain.2 e.2) names own)
    (hrest : Nests rest gains) : Nests ((policy, .obj names) :: rest) (own ++ gains)

/-- The record has the holding as its value, in one of the four shapes and in any order. -/
inductive Describes (h : Holding) (record : Json.Fields) : Prop where
  /-- As Kupo writes it: a count of coins and a map of assets, under `value`. -/
  | kupo {fields entries : Json.Fields} {coins : Json} {tokens : List (Token × Int)}
    (hamount : Json.field record "amount" = .null) (hassets : Json.field record "assets" = .null)
    (hvalue : Json.field record "value" = .obj fields)
    (hcoins : Json.field? fields "coins" = some coins) (hn : Quantity.Written h.lovelace coins)
    (hentries : Json.field fields "assets" = .obj entries)
    (hlists : Lists Token.shortUnit entries tokens) (hperm : tokens.Perm h.tokens)
  /-- As Blockfrost writes it: a list of units with their quantities, under `amount`. -/
  | blockfrost {items : List Json} {gains : List (Token × Int)}
    (hamount : Json.field record "amount" = .arr items)
    (hassets : Json.field record "assets" = .null) (hvalue : Json.field record "value" = .null)
    (hitemizes : Itemizes items gains) (hperm : gains.Perm h.gains)
  /-- As SDKs write it: one map from units to quantities, under `assets`. -/
  | sdk {fields : Json.Fields} {gains : List (Token × Int)}
    (hamount : Json.field record "amount" = .null)
    (hassets : Json.field record "assets" = .obj fields)
    (hvalue : Json.field record "value" = .null)
    (hlists : Lists Token.unit fields gains) (hperm : gains.Perm h.gains)
  /-- As Ogmios writes it: a map from policies to maps from names to quantities, under `value`. -/
  | ogmios {fields : Json.Fields} {gains : List (Token × Int)}
    (hamount : Json.field record "amount" = .null) (hassets : Json.field record "assets" = .null)
    (hvalue : Json.field record "value" = .obj fields) (hnests : Nests fields gains)
    (hperm : gains.Perm h.gains)

end Holding

/-! ### Units of minted tokens -/

namespace Token

theorem lowered_of_hexDigit {c : Char} (h : Lexicon.HexDigit c) : Text.Lowered c :=
  h.of_ascii (by decide +kernel)

theorem not_hexDigit_dot : ¬ Lexicon.HexDigit '.' := by
  rw [← Lexicon.isLowerDigit_iff]
  decide

variable {t : Token}

theorem Minted.plain (h : t.Minted) : t.Plain where
  undotted hdot := not_hexDigit_dot (h.policy.2 _ hdot)
  lowered c hc := by
    rcases List.mem_append.mp hc with hc | hc
    · exact lowered_of_hexDigit (h.policy.2 c hc)
    · exact lowered_of_hexDigit (h.name.2.2 c hc)

theorem Minted.isAda_eq_false (h : t.Minted) : t.isAda = false := by
  rw [← Bool.not_eq_true, isAda_iff]
  rintro rfl
  exact absurd h.policy.1 (by decide)

theorem Minted.unit_eq (h : t.Minted) : t.unit = t.policy ++ "." ++ t.name := by
  rw [unit, if_neg (by simp [h.isAda_eq_false])]

/-- A unit of a policy and a name run together is split behind the policy. -/
theorem ofUnit_joined {unit policy name : String}
    (hunit : unit.toList = policy.toList ++ name.toList)
    (hpolicy : Lexicon.HexHash 56 policy.toList) (hname : Lexicon.HexBytes name.toList) :
    ofUnit unit = ⟨policy, name⟩ := by
  have hdigit : ∀ c ∈ policy.toList ++ name.toList, Lexicon.HexDigit c := by
    intro c hc
    rcases List.mem_append.mp hc with hc | hc
    · exact hpolicy.2 c hc
    · exact hname.2 c hc
  obtain rfl : unit = policy ++ name :=
    String.toList_inj.mp (hunit.trans String.toList_append.symm)
  exact ofUnit_append hpolicy.1 (fun hdot => not_hexDigit_dot (hdigit _ hdot))
    fun c hc => lowered_of_hexDigit (hdigit c hc)

/-- A token that is minted, or ADA. -/
def Held (t : Token) : Prop :=
  t = ada ∨ t.Minted

theorem Held.plain (h : t.Held) : t.Plain := by
  rcases h with rfl | h
  · exact plain_ada
  · exact h.plain

theorem ofUnit_joinedUnit (h : t.Held) : ofUnit t.joinedUnit = t := by
  rcases h with rfl | h
  · rfl
  · rw [joinedUnit, if_neg (by simp [h.isAda_eq_false])]
    exact ofUnit_joined String.toList_append h.policy h.name.2

theorem ofUnit_shortUnit (h : t.Minted) : ofUnit t.shortUnit = t := by
  unfold shortUnit
  split
  · next hname =>
    have hempty : t.name.toList = [] := by rw [hname]; rfl
    refine ofUnit_joined ?_ h.policy h.name.2
    rw [hempty, List.append_nil]
  · rw [← h.unit_eq]
    exact ofUnit_unit h.plain

end Token

/-! ### What is held -/

namespace Holding

theorem held_of_mem_gains {h : Holding} {gain : Token × Int} (hgain : gain ∈ h.gains) :
    gain.1.Held := by
  rcases List.mem_cons.mp hgain with rfl | hgain
  · exact Or.inl rfl
  · exact Or.inr (h.minted _ (List.mem_map_of_mem hgain))

theorem pieces_gains (h : Holding) : Value.pieces h.gains = h.assets := by
  have htokens : ∀ gain ∈ h.tokens, gain.1.Minted :=
    fun gain hgain => h.minted _ (List.mem_map_of_mem hgain)
  have hfilter : h.gains.filter (fun gain => !gain.1.isAda) = h.tokens := by
    have hada : Token.ada.isAda = true := rfl
    rw [gains, List.filter_cons_of_neg (by simp [hada]), List.filter_eq_self]
    intro gain hgain
    rw [(htokens gain hgain).isAda_eq_false]
    rfl
  rw [Value.pieces, hfilter, assets]
  exact List.map_congr_left fun gain hgain => by rw [(htokens gain hgain).unit_eq]

theorem coins_gains (h : Holding) : Value.coins h.gains = h.lovelace := by
  have hfilter : h.gains.filter (fun gain => gain.1.isAda) = [(.ada, h.lovelace)] := by
    have hada : Token.ada.isAda = true := rfl
    rw [gains, List.filter_cons_of_pos (by simp [hada]), List.filter_eq_nil_iff.mpr]
    intro gain hgain
    rw [(h.minted _ (List.mem_map_of_mem hgain)).isAda_eq_false]
    exact Bool.false_ne_true
  rw [Value.coins, hfilter]
  exact Int.add_zero _

theorem nodup_keys_assets (h : Holding) : (Entries.keys h.assets).Nodup := by
  have hkeys : Entries.keys h.assets = (Entries.keys h.tokens).map Token.unit := by
    rw [Entries.keys, Entries.keys, assets, List.map_map, List.map_map]
    refine List.map_congr_left fun gain hgain => ?_
    exact (h.minted _ (List.mem_map_of_mem hgain)).unit_eq.symm
  rw [hkeys]
  refine List.Nodup.map_on (fun t ht t' ht' heq => ?_) h.nodup
  exact Token.unit_injective (h.minted t ht).plain (h.minted t' ht').plain heq

end Holding

end TxDraft
