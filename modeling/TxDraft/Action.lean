import TxDraft.Binary64
import TxDraft.Json

/-!
# Actions

The actions that a transaction is drafted from, after validation: texts are in normal form,
quantities are exact, and defaults are filled in.
-/

namespace TxDraft

/-- Which output an action means: by its transaction and position, or by a provider's record of
it. -/
structure OutputRef where
  txHash : Option String
  index : Option Int
  record : Option Json.Fields

/-- One output of a payment to many. -/
structure PaymentOutput where
  toAddress : String
  lovelace : Option Int
  assets : Option (Entries String Int)

/-- The language of a script. -/
inductive ScriptKind where
  | native
  | plutusV1
  | plutusV2
  | plutusV3
  deriving DecidableEq

namespace ScriptKind

def all : List ScriptKind := [native, plutusV1, plutusV2, plutusV3]

def name : ScriptKind → String
  | native => "native"
  | plutusV1 => "plutusV1"
  | plutusV2 => "plutusV2"
  | plutusV3 => "plutusV3"

end ScriptKind

/-- How the fee is to be reckoned. -/
inductive FeeStrategy where
  | default
  | buffer
  deriving DecidableEq

namespace FeeStrategy

def all : List FeeStrategy := [default, buffer]

def name : FeeStrategy → String
  | default => "default"
  | buffer => "buffer"

end FeeStrategy

/-- The kinds of actions. -/
inductive ActionKind where
  | payLovelace
  | payAssets
  | payMany
  | metadata
  | validity
  | requiredSigner
  | changeAddress
  | collateral
  | referenceInput
  | spendUtxo
  | mint
  | burn
  | attachScript
  | stakeRegister
  | stakeDeregister
  | withdrawRewards
  | feePolicy
  deriving DecidableEq

namespace ActionKind

def all : List ActionKind :=
  [payLovelace, payAssets, payMany, metadata, validity, requiredSigner, changeAddress, collateral,
   referenceInput, spendUtxo, mint, burn, attachScript, stakeRegister, stakeDeregister,
   withdrawRewards, feePolicy]

/-- The tag of a kind, as documents write it under `type`. -/
def tag : ActionKind → String
  | payLovelace => "payLovelace"
  | payAssets => "payAssets"
  | payMany => "payMany"
  | metadata => "metadata"
  | validity => "validity"
  | requiredSigner => "requiredSigner"
  | changeAddress => "changeAddress"
  | collateral => "collateral"
  | referenceInput => "referenceInput"
  | spendUtxo => "spendUtxo"
  | mint => "mint"
  | burn => "burn"
  | attachScript => "attachScript"
  | stakeRegister => "stakeRegister"
  | stakeDeregister => "stakeDeregister"
  | withdrawRewards => "withdrawRewards"
  | feePolicy => "feePolicy"

/-- The kind with a tag. -/
def ofTag? (tag : String) : Option ActionKind :=
  all.find? fun kind => kind.tag = tag

theorem ofTag?_tag (kind : ActionKind) : ofTag? kind.tag = some kind := by
  cases kind <;> decide

end ActionKind

inductive Action where
  | payLovelace (toAddress : String) (lovelace : Int)
  | payAssets (toAddress : String) (assets : Entries String Int) (lovelace : Option Int)
  | payMany (outputs : List PaymentOutput)
  | metadata (label : Int) (content : Json)
  | validity (validFrom validTo : Option Int)
  | requiredSigner (keyHash : String)
  | changeAddress (address : String)
  | collateral (ref : OutputRef)
  | referenceInput (ref : OutputRef)
  | spendUtxo (ref : OutputRef) (redeemer : Option String)
  | mint (policy : String) (assets : Entries String Int) (redeemer : Option String)
  | burn (policy : String) (assets : Entries String Int) (redeemer : Option String)
  | attachScript (script : String) (kind : ScriptKind)
  | stakeRegister (address : String)
  | stakeDeregister (address : String)
  | withdrawRewards (address : String) (amount : Option Int)
  | feePolicy (strategy : FeeStrategy) (multiplier : Option Binary64) (feeBuffer : Option Int)

namespace Action

def kind : Action → ActionKind
  | payLovelace _ _ => .payLovelace
  | payAssets _ _ _ => .payAssets
  | payMany _ => .payMany
  | metadata _ _ => .metadata
  | validity _ _ => .validity
  | requiredSigner _ => .requiredSigner
  | changeAddress _ => .changeAddress
  | collateral _ => .collateral
  | referenceInput _ => .referenceInput
  | spendUtxo _ _ => .spendUtxo
  | mint _ _ _ => .mint
  | burn _ _ _ => .burn
  | attachScript _ _ => .attachScript
  | stakeRegister _ => .stakeRegister
  | stakeDeregister _ => .stakeDeregister
  | withdrawRewards _ _ => .withdrawRewards
  | feePolicy _ _ _ => .feePolicy

def tag (a : Action) : String :=
  a.kind.tag

end Action

end TxDraft
