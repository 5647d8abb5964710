/-!
# Capabilities

What a builder must be able to do for an action.  Builders name their operations differently, so
every capability has an ordered list of candidate names; the first that a builder exposes is used.
-/

namespace TxDraft

/-- Something that a builder can do. -/
inductive Capability where
  | payLovelace
  | payAssets
  | payMany
  | addMetadata
  | validFrom
  | validTo
  | addRequiredSigner
  | setChangeAddress
  | addCollateral
  | addReferenceInput
  | spendUtxo
  | mintAssets
  | burnAssets
  | attachScript
  | registerStake
  | deregisterStake
  | withdrawRewards
  | setFeePolicy
  | complete
  deriving DecidableEq

namespace Capability

def all : List Capability :=
  [payLovelace, payAssets, payMany, addMetadata, validFrom, validTo, addRequiredSigner,
   setChangeAddress, addCollateral, addReferenceInput, spendUtxo, mintAssets, burnAssets,
   attachScript, registerStake, deregisterStake, withdrawRewards, setFeePolicy, complete]

def name : Capability → String
  | payLovelace => "pay_lovelace"
  | payAssets => "pay_assets"
  | payMany => "pay_many"
  | addMetadata => "add_metadata"
  | validFrom => "valid_from"
  | validTo => "valid_to"
  | addRequiredSigner => "add_required_signer"
  | setChangeAddress => "set_change_address"
  | addCollateral => "add_collateral"
  | addReferenceInput => "add_reference_input"
  | spendUtxo => "spend_utxo"
  | mintAssets => "mint_assets"
  | burnAssets => "burn_assets"
  | attachScript => "attach_script"
  | registerStake => "register_stake"
  | deregisterStake => "deregister_stake"
  | withdrawRewards => "withdraw_rewards"
  | setFeePolicy => "set_fee_policy"
  | complete => "complete"

/-- The names of operations that come up for a capability besides its own, in order. -/
def aliases : Capability → List String
  | payLovelace => ["payLovelace", "pay_to_address"]
  | payAssets => ["payAssets", "pay_tokens"]
  | payMany => ["payMany", "pay_outputs"]
  | addMetadata => ["addMetadata", "attach_metadata"]
  | validFrom => ["validFrom", "set_validity_start"]
  | validTo => ["validTo", "set_ttl"]
  | addRequiredSigner => ["addRequiredSigner", "required_signer"]
  | setChangeAddress => ["setChangeAddress", "change_address"]
  | addCollateral => ["collateral", "set_collateral"]
  | addReferenceInput => ["reference_input", "read_from"]
  | spendUtxo => ["spendUtxo", "collect_from"]
  | mintAssets => ["mintAssets"]
  | burnAssets => ["burnAssets"]
  | attachScript => ["attachScript", "attach_spending_validator", "attach_minting_policy"]
  | registerStake => ["registerStake", "add_stake_registration"]
  | deregisterStake => ["deregisterStake", "add_stake_deregistration"]
  | withdrawRewards => ["withdrawRewards", "add_withdrawal"]
  | setFeePolicy => ["setFeePolicy", "fee_policy"]
  | complete => ["build_unsigned"]

/-- The names of operations that are tried for a capability. -/
def candidates (c : Capability) : List String :=
  c.name :: c.aliases

def ofName? (name : String) : Option Capability :=
  all.find? fun c => c.name = name

/-- The names that are tried for a capability that is asked for by name: a name that no capability
has stands for itself. -/
def candidatesFor (name : String) : List String :=
  match ofName? name with
  | some c => c.candidates
  | none => [name]

theorem ofName?_name (c : Capability) : ofName? c.name = some c := by
  cases c <;> decide

/-- Asked for by its name, a capability has its own candidates. -/
theorem candidatesFor_name (c : Capability) : candidatesFor c.name = c.candidates := by
  simp [candidatesFor, ofName?_name]

end Capability

end TxDraft
