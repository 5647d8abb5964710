import TxDraft.Action
import TxDraft.Capability

/-!
# Steps

What an action asks of a builder, one operation after the other.  A step is a capability together
with its arguments; `Step.arguments` lists them for builders that are called by name.
-/

namespace TxDraft

/-- One thing asked of a builder. -/
inductive Step where
  | payLovelace (toAddress : String) (lovelace : Int)
  | payAssets (toAddress : String) (assets : Entries String Int) (lovelace : Option Int)
  | payMany (outputs : List PaymentOutput)
  | addMetadata (label : Int) (metadata : Json)
  | validFrom (slot : Int)
  | validTo (slot : Int)
  | addRequiredSigner (keyHash : String)
  | setChangeAddress (address : String)
  | addCollateral (ref : OutputRef)
  | addReferenceInput (ref : OutputRef)
  | spendUtxo (ref : OutputRef) (redeemer : Option String)
  | mintAssets (policy : String) (assets : Entries String Int) (redeemer : Option String)
  | burnAssets (policy : String) (assets : Entries String Int) (redeemer : Option String)
  | attachScript (script : String) (kind : ScriptKind)
  | registerStake (address : String)
  | deregisterStake (address : String)
  | withdrawRewards (address : String) (amount : Option Int)
  | setFeePolicy (strategy : FeeStrategy) (multiplier : Option Binary64) (feeBuffer : Option Int)

/-- An argument of an operation that is called by name. -/
inductive Argument where
  | value (v : Json)
  | outputs (outputs : List PaymentOutput)

namespace Argument

def text (s : String) : Argument := .value (.str s)

/-- A text that may be missing as an argument. -/
def text? (s : Option String) : Argument := .value (.ofText? s)

def int (n : Int) : Argument := .value (.int n)

/-- An integer that may be missing as an argument. -/
def int? : Option Int → Argument
  | some n => int n
  | none => .value .null

def assets (m : Entries String Int) : Argument :=
  .value (.ofEntries (m.mapValues Json.int))

end Argument

namespace Step

/-- The capability that a step needs. -/
def capability : Step → Capability
  | payLovelace _ _ => .payLovelace
  | payAssets _ _ _ => .payAssets
  | payMany _ => .payMany
  | addMetadata _ _ => .addMetadata
  | validFrom _ => .validFrom
  | validTo _ => .validTo
  | addRequiredSigner _ => .addRequiredSigner
  | setChangeAddress _ => .setChangeAddress
  | addCollateral _ => .addCollateral
  | addReferenceInput _ => .addReferenceInput
  | spendUtxo _ _ => .spendUtxo
  | mintAssets _ _ _ => .mintAssets
  | burnAssets _ _ _ => .burnAssets
  | attachScript _ _ => .attachScript
  | registerStake _ => .registerStake
  | deregisterStake _ => .deregisterStake
  | withdrawRewards _ _ => .withdrawRewards
  | setFeePolicy _ _ _ => .setFeePolicy

/-- The arguments that name an output. -/
def refArguments (ref : OutputRef) : List Argument :=
  [.text? ref.txHash, .int? ref.index,
    .value (match ref.record with | some fields => .obj fields | none => .null)]

/-- The arguments of a step, in order. -/
def arguments : Step → List Argument
  | payLovelace toAddress lovelace => [.text toAddress, .int lovelace]
  | payAssets toAddress assets lovelace => [.text toAddress, .assets assets, .int? lovelace]
  | payMany outputs => [.outputs outputs]
  | addMetadata label metadata => [.int label, .value metadata]
  | validFrom slot | validTo slot => [.int slot]
  | addRequiredSigner keyHash => [.text keyHash]
  | setChangeAddress address => [.text address]
  | addCollateral ref | addReferenceInput ref => refArguments ref
  | spendUtxo ref redeemer => refArguments ref ++ [.text? redeemer]
  | mintAssets policy assets redeemer | burnAssets policy assets redeemer =>
    [.text policy, .assets assets, .text? redeemer]
  | attachScript script kind => [.text script, .text kind.name]
  | registerStake address | deregisterStake address => [.text address]
  | withdrawRewards address amount => [.text address, .int? amount]
  | setFeePolicy strategy multiplier feeBuffer =>
    [.text strategy.name,
      .value (match multiplier with | some x => .float x | none => .null), .int? feeBuffer]

end Step

namespace Action

/-- The steps of an action, in order. -/
def steps : Action → List Step
  | payLovelace toAddress lovelace => [.payLovelace toAddress lovelace]
  | payAssets toAddress assets lovelace => [.payAssets toAddress assets lovelace]
  | payMany outputs => [.payMany outputs]
  | .metadata label content => [.addMetadata label content]
  | validity validFrom validTo =>
    (validFrom.map Step.validFrom).toList ++ (validTo.map Step.validTo).toList
  | requiredSigner keyHash => [.addRequiredSigner keyHash]
  | changeAddress address => [.setChangeAddress address]
  | collateral ref => [.addCollateral ref]
  | referenceInput ref => [.addReferenceInput ref]
  | spendUtxo ref redeemer => [.spendUtxo ref redeemer]
  | mint policy assets redeemer => [.mintAssets policy assets redeemer]
  | burn policy assets redeemer => [.burnAssets policy assets redeemer]
  | attachScript script kind => [.attachScript script kind]
  | stakeRegister address => [.registerStake address]
  | stakeDeregister address => [.deregisterStake address]
  | withdrawRewards address amount => [.withdrawRewards address amount]
  | feePolicy strategy multiplier feeBuffer => [.setFeePolicy strategy multiplier feeBuffer]

end Action

end TxDraft
