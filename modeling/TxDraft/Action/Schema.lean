import TxDraft.Action.Part
import TxDraft.Utxo

/-!
# The forms of actions

The fields of every kind of action, and the rules that tie the fields of one action together.
-/

namespace TxDraft

namespace Action

/-! ### Fields -/

/-- A field that must be there. -/
def required {α : Type} (spellings : List String) (read : Part.Reader α) : Field α :=
  ⟨spellings, none, read⟩

/-- A field that may be absent or null. -/
def optional {α : Type} (spellings : List String) (read : Part.Reader α) : Field (Option α) :=
  ⟨spellings, some none, Part.nullable read⟩

/-- A field with a value of its own where it is absent. -/
def defaulted {α : Type} (spellings : List String) (absent : α) (read : Part.Reader α) : Field α :=
  ⟨spellings, some absent, read⟩

/-- Where a payment goes. -/
def toAddressField (network : Option Network) : Field String :=
  required ["toAddress", "to_address"] (Part.word (Lexicon.address .payment network))

/-- The stake address that a certificate or a withdrawal is about. -/
def stakeAddressField (network : Option Network) : Field String :=
  required ["stakeAddress", "stake_address"] (Part.word (Lexicon.address .stake network))

/-- The policy under which tokens are made. -/
def policyField : Field String :=
  required ["policyId", "policy_id"] (Part.word Lexicon.shortHash)

/-- The tokens that are made, by name. -/
def namesField : Field (Entries String Int) :=
  required ["assets"] (Part.someAssets Lexicon.assetName)

/-- The redeemer that is passed to a script. -/
def redeemerField : Field (Option String) :=
  optional ["redeemer"] (Part.word Lexicon.hexData)

/-- A form for what comes after the fields of a reference to an output. -/
def withReference {α : Type} (make : OutputRef → α) : Form α :=
  (Form.done fun txHash index record => make ⟨txHash, index, record⟩).and
    (optional ["txHash", "tx_hash"] (Part.word Lexicon.longHash)) |>.and
    (optional ["index"] Part.natural) |>.and
    (optional ["utxo"] Part.record)

/-! ### Forms -/

/-- The form of a kind of action. -/
def form (network : Option Network) : ActionKind → Form Action
  | .payLovelace =>
    (Form.done payLovelace).and (toAddressField network) |>.and
      (required ["lovelace"] Part.positive)
  | .payAssets =>
    (Form.done payAssets).and (toAddressField network) |>.and
      (required ["assets"] (Part.someAssets Lexicon.assetId)) |>.and
      (optional ["lovelace"] Part.positive)
  | .payMany =>
    (Form.done payMany).and (required ["outputs"] (Part.outputs network))
  | .metadata =>
    (Form.done metadata).and (defaulted ["label"] 721 Part.label) |>.and
      (required ["metadata"] Part.metadata)
  | .validity =>
    (Form.done validity).and (optional ["validFrom", "valid_from"] Part.natural) |>.and
      (optional ["validTo", "valid_to"] Part.natural)
  | .requiredSigner =>
    (Form.done requiredSigner).and
      (required ["keyHash", "pubKeyHash", "key_hash"] (Part.word Lexicon.shortHash))
  | .changeAddress =>
    (Form.done changeAddress).and
      (required ["changeAddress", "address", "change_address"]
        (Part.word (Lexicon.address .payment network)))
  | .collateral => withReference collateral
  | .referenceInput => withReference referenceInput
  | .spendUtxo => (withReference spendUtxo).and redeemerField
  | .mint => (Form.done mint).and policyField |>.and namesField |>.and redeemerField
  | .burn => (Form.done burn).and policyField |>.and namesField |>.and redeemerField
  | .attachScript =>
    (Form.done attachScript).and
      (required ["scriptCbor", "script_cbor"] (Part.word Lexicon.hexData)) |>.and
      (defaulted ["kind"] .plutusV2 (Part.choice ScriptKind.all ScriptKind.name))
  | .stakeRegister => (Form.done stakeRegister).and (stakeAddressField network)
  | .stakeDeregister => (Form.done stakeDeregister).and (stakeAddressField network)
  | .withdrawRewards =>
    (Form.done withdrawRewards).and (stakeAddressField network) |>.and
      (optional ["amount"] Part.natural)
  | .feePolicy =>
    (Form.done feePolicy).and
      (defaulted ["strategy"] .default (Part.choice FeeStrategy.all FeeStrategy.name)) |>.and
      (optional ["multiplier"] Part.factor) |>.and
      (optional ["feeBuffer", "fee_buffer"] Part.natural)

/-- May an action of this kind have fields that its form does not know? -/
def ignoresExtras : ActionKind → Bool
  | .feePolicy => true
  | _ => false

/-! ### Rules across fields -/

/-- What a rule says of an action. -/
inductive Ruling where
  | kept
  | broken (complaint : Complaint)
  /-- The rule cannot be applied: a record in the action breaks its reader. -/
  | unruled (fault : Utxo.Fault)

/-- An output must be named in one of the two ways, and a record must be readable. -/
def referenceRule (ref : OutputRef) : Ruling :=
  match ref.record with
  | none => if ref.txHash.isSome && ref.index.isSome then .kept else .broken .noReference
  | some record =>
    match Utxo.ofFields record with
    | .ok _ => .kept
    | .error fault =>
      match fault.message? with
      | some text => .broken (.record text)
      | none => .unruled fault

/-- A window must have an end, and must not be empty if it has both. -/
def windowRule : Option Int → Option Int → Ruling
  | none, none => .broken .noBound
  | some first, some last => if first < last then .kept else .broken .emptyWindow
  | _, _ => .kept

/-- The rule that ties the fields of an action together. -/
def rule : Action → Ruling
  | collateral ref | referenceInput ref | spendUtxo ref _ => referenceRule ref
  | validity validFrom validTo => windowRule validFrom validTo
  | feePolicy .buffer _ none => .broken .noBuffer
  | _ => .kept

end Action

end TxDraft
