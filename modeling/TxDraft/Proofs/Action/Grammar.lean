import TxDraft.Action
import TxDraft.Binary64.Reading
import TxDraft.Proofs.Lexicon
import TxDraft.Proofs.Metadatum
import TxDraft.Utxo

/-!
# The grammar of actions

Which documents are actions, said without reading them.  A `Language` is a set of values; a `Rule`
gives the spellings of a field, whether it must be there, and the language of its value; `rules`
lists the rules of every kind of action, `Exact` says that an object has no other fields and none
of them twice, and `CrossRule` ties the fields of one action together.  `IsAction` puts these
together.
-/

namespace TxDraft.Grammar

/-! ### Languages -/

/-- A set of values. -/
abbrev Language := Json → Prop

/-- The texts whose normal form, without blanks at the ends and in lower case, has a shape. -/
def Word (shape : List Char → Prop) : Language := fun v =>
  ∃ s : String, v = .str s ∧ shape (Text.lowerChars (Text.stripChars s.toList))

/-- The quantities with a property. -/
def Amount (holds : Int → Prop) : Language := fun v =>
  ∃ n, Quantity.read v = .ok n ∧ holds n

/-- One of some texts, letter by letter. -/
def OneOf (texts : List String) : Language := fun v =>
  ∃ s ∈ texts, v = .str s

/-- The objects. -/
def Record : Language := fun v =>
  ∃ fields, v = .obj fields

/-- A value and the number that it denotes: a number of either kind, a truth value as one or zero,
or the text of a number in ASCII digits. -/
inductive Denotes : Json → Binary64 → Prop
  | float (x : Binary64) : Denotes (.float x) x
  | int {n : Int} {x : Binary64} (finite : Binary64.ofInt? n = some x) : Denotes (.int n) x
  | bool (b : Bool) : Denotes (.bool b) (Binary64.ofRatio false b.toNat 1)
  | text {s : String} {x : Binary64}
    (reads : Binary64.readNumber? Text.asciiDigitValue? s = some x) : Denotes (.str s) x

/-- The values that denote a number of at least one. -/
def Factor : Language := fun v =>
  ∃ x, Denotes v x ∧ x.atLeastOne = true

/-- The maps from keys of a shape to quantities above zero. -/
def AssetMap (shape : List Char → Prop) : Language := fun v =>
  ∃ fields, v = .obj fields ∧ ∀ e ∈ fields, Word shape (.str e.1) ∧ Amount (0 < ·) e.2

/-- The maps of assets with at least one entry. -/
def SomeAssets (shape : List Char → Prop) : Language := fun v =>
  AssetMap shape v ∧ v ≠ .obj []

/-! ### Rules for fields -/

/-- The value of a field: the one under the first of its spellings that the object has. -/
def value? (spellings : List String) (fields : Json.Fields) : Option Json :=
  spellings.findSome? (Json.field? fields)

/-- The value of a field, null if the object does not have it. -/
def value (spellings : List String) (fields : Json.Fields) : Json :=
  (value? spellings fields).getD .null

/-- What is asked of one field. -/
structure Rule where
  spellings : List String
  required : Bool
  language : Language

namespace Rule

/-- A field that must be there. -/
def mandatory (spellings : List String) (language : Language) : Rule :=
  ⟨spellings, true, language⟩

/-- A field that may be left out. -/
def omissible (spellings : List String) (language : Language) : Rule :=
  ⟨spellings, false, language⟩

/-- A field that may be left out or null. -/
def nullable (spellings : List String) (language : Language) : Rule :=
  ⟨spellings, false, fun v => v = .null ∨ language v⟩

/-- An object keeps a rule if the value of the field is in the language, or if the object lacks the
field and may. -/
def Holds (r : Rule) (fields : Json.Fields) : Prop :=
  match value? r.spellings fields with
  | some v => r.language v
  | none => r.required = false

end Rule

/-- An object has no fields but those of the rules, each under one spelling at most, and those with
other names that are given. -/
structure Exact (others : List String) (rules : List Rule) (fields : Json.Fields) : Prop where
  known : ∀ e ∈ fields, ∃ name : String, e.1 = name ∧
    (name ∈ others ∨ ∃ r ∈ rules, name ∈ r.spellings)
  once : ∀ r ∈ rules, ∀ name ∈ r.spellings, ∀ name' ∈ r.spellings,
    fields.has (.plain name) = true → fields.has (.plain name') = true → name = name'

/-! ### Fields of actions -/

open Lexicon Rule

/-- The rules for one output of a payment to many. -/
def outputRules (network : Option Network) : List Rule :=
  [mandatory ["toAddress", "to_address"] (Word (Address .payment network)),
   nullable ["lovelace"] (Amount (0 < ·)),
   nullable ["assets"] (AssetMap AssetId)]

/-- The outputs of a payment to many. -/
def Output (network : Option Network) : Language := fun v =>
  ∃ fields, v = .obj fields ∧ (∀ r ∈ outputRules network, r.Holds fields) ∧
    Exact [] (outputRules network) fields

/-- The lists of at least one output. -/
def Outputs (network : Option Network) : Language := fun v =>
  ∃ items, v = .arr items ∧ items ≠ [] ∧ ∀ item ∈ items, Output network item

/-- The rules for a reference to an output. -/
def referenceRules : List Rule :=
  [nullable ["txHash", "tx_hash"] (Word (HexHash 64)),
   nullable ["index"] (Amount (0 ≤ ·)),
   nullable ["utxo"] Record]

/-- The rules for tokens that are made or destroyed under one policy. -/
def tokenRules : List Rule :=
  [mandatory ["policyId", "policy_id"] (Word (HexHash 56)),
   mandatory ["assets"] (SomeAssets AssetName),
   nullable ["redeemer"] (Word HexData)]

/-- The rule for the stake address that a certificate or a withdrawal is about. -/
def stakeAddressRule (network : Option Network) : Rule :=
  mandatory ["stakeAddress", "stake_address"] (Word (Address .stake network))

/-- The rules for the fields of a kind of action. -/
def rules (network : Option Network) : ActionKind → List Rule
  | .payLovelace =>
    [mandatory ["toAddress", "to_address"] (Word (Address .payment network)),
     mandatory ["lovelace"] (Amount (0 < ·))]
  | .payAssets =>
    [mandatory ["toAddress", "to_address"] (Word (Address .payment network)),
     mandatory ["assets"] (SomeAssets AssetId),
     nullable ["lovelace"] (Amount (0 < ·))]
  | .payMany => [mandatory ["outputs"] (Outputs network)]
  | .metadata =>
    [omissible ["label"] (Amount fun n => 0 ≤ n ∧ n ≤ 2 ^ 64 - 1),
     mandatory ["metadata"] Metadatum.WellFormed]
  | .validity =>
    [nullable ["validFrom", "valid_from"] (Amount (0 ≤ ·)),
     nullable ["validTo", "valid_to"] (Amount (0 ≤ ·))]
  | .requiredSigner => [mandatory ["keyHash", "pubKeyHash", "key_hash"] (Word (HexHash 56))]
  | .changeAddress =>
    [mandatory ["changeAddress", "address", "change_address"] (Word (Address .payment network))]
  | .collateral | .referenceInput => referenceRules
  | .spendUtxo => referenceRules ++ [nullable ["redeemer"] (Word HexData)]
  | .mint | .burn => tokenRules
  | .attachScript =>
    [mandatory ["scriptCbor", "script_cbor"] (Word HexData),
     omissible ["kind"] (OneOf ["native", "plutusV1", "plutusV2", "plutusV3"])]
  | .stakeRegister | .stakeDeregister => [stakeAddressRule network]
  | .withdrawRewards => [stakeAddressRule network, nullable ["amount"] (Amount (0 ≤ ·))]
  | .feePolicy =>
    [omissible ["strategy"] (OneOf ["default", "buffer"]),
     nullable ["multiplier"] Factor,
     nullable ["feeBuffer", "fee_buffer"] (Amount (0 ≤ ·))]

/-! ### Rules across fields -/

end TxDraft.Grammar
