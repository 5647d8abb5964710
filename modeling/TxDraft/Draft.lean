import TxDraft.Ledger.Chain

/-!
# Drafts

`Draft.apply` says what each step stages.  A step that fails leaves what it had staged before the
failure.

* Lists grow at their end; of metadata under one label and of withdrawals from one address the last
  one counts, and so it is with the slots, the change address and the fee buffer.
* An output that is named by its transaction and position is looked up among the outputs at the
  source, as they were when the first such name came up: the draft asks the chain only once.
* A redeemer needs a Plutus script, and takes the one that was attached last.
-/

namespace TxDraft

open Ledger

namespace Draft

/-- The failure of a value that the ledger refuses. -/
def refusal : Failure := .unexpected .ledger

/-- A value, unless the ledger refuses it. -/
def accept {α : Type} (a : Option α) : Attempt α :=
  match a with
  | some a => .ok a
  | none => .error refusal

/-- A failure of a step that the draft words itself; its place is not known here. -/
def complaint (cause : CompilationCause) : Failure :=
  .compilation cause .unknown

/-! ### Payments -/

/-- The output of a payment.  Without an amount of lovelace it gets the least one. -/
def payment (coinsPerByte : Int) (toAddress : String) (lovelace : Option Int)
    (assets : Entries String Int) : Attempt Output := do
  let address ← accept (Address.ofText? toAddress)
  let assets ← accept (Assets.ofUnits? 1 assets)
  let coin := lovelace.getD 0
  let least := Output.leastCoin coinsPerByte address ⟨0, assets⟩
  return .plain address ⟨if coin = 0 then least else coin, assets⟩

/-- The draft with one more output. -/
def withOutput (d : Draft) (o : Output) : Draft :=
  { d with outputs := d.outputs ++ [o] }

/-- Stages a payment. -/
def pay (chain : Chain) (toAddress : String) (lovelace : Option Int)
    (assets : Entries String Int) : Work Draft Unit := do
  let o ← .ofAttempt (payment chain.parameters.coinsPerByte toAddress lovelace assets)
  .change fun d => d.withOutput o

/-- Stages a payment of lovelace alone, which may be any amount, even none. -/
def payLovelace (toAddress : String) (lovelace : Int) : Work Draft Unit := do
  let address ← .ofAttempt (accept (Address.ofText? toAddress))
  .change fun d => d.withOutput (.plain address (.ofCoin lovelace))

/-- Stages payments in order. -/
def payMany (chain : Chain) : List PaymentOutput → Work Draft Unit
  | [] => return
  | out :: rest => do
    pay chain out.toAddress out.lovelace (out.assets.getD [])
    payMany chain rest

/-! ### Outputs that are named -/

/-- The datum of a record: in full if the record has it so, else by its hash. -/
def datumOf (u : Utxo) : Option Datum :=
  let byHash : Option Datum :=
    match u.datumHash with
    | .str s => do
      let s := s.string
      if s = "" then return .none
      let h ← Hex.decode? s
      if h.length = OutputName.hashLength then return .hash h else none
    | v => if v.isTruthy then none else some .none
  match u.inlineDatum with
  | some s =>
    if s = "" then byHash else (Hex.decode? s).bind plutusData? |>.map Datum.inline
  | none => byHash

/-- The output that a record describes, in the terms of the ledger. -/
def unspentOf? (u : Utxo) : Option Unspent := do
  let address ← Address.ofText? u.address
  let assets ← Assets.ofUnits? 1 u.assets
  let datum ← datumOf u
  let name ← OutputName.ofText? u.txHash u.outputIndex
  return ⟨name, ⟨address, ⟨u.lovelace, assets⟩, datum⟩⟩

/-- The output that a provider's record describes. -/
def ofRecord (record : Json.Fields) : Attempt Unspent := do
  let u ← (Utxo.ofFields record).mapError fun fault => .unexpected (.record fault)
  if u.address = "" then throw (complaint (.recordWithoutAddress u.reference))
  accept (unspentOf? u)

/-- The outputs at the source, as the draft sees them: the chain is asked the first time only. -/
def sourceOutputs (chain : Chain) : Work Draft (List Unspent) := do
  let d ← get
  match d.snapshot with
  | some outputs => return outputs
  | none =>
    let outputs := chain.atSource d.questions
    set { d with snapshot := some outputs, questions := d.questions + 1 }
    return outputs

/-- Is this the output with the given transaction and position? -/
def isNamed (txHash : Option String) (index : Option Int) (u : Unspent) : Bool :=
  some (Hex.encode u.name.transaction) = txHash && some u.name.index = index

/-- A transaction and a position as a message shows them. -/
def nameText (txHash : Option String) (index : Option Int) : String :=
  txHash.getD Json.null.wording ++ "#" ++ ((index.map Json.int).getD .null).wording

/-- The output that is meant: the one of a record, or the first one at the source with the name. -/
def lookUp (chain : Chain) (ref : OutputRef) : Work Draft Unspent := do
  match ref.record with
  | some record => .ofAttempt (ofRecord record)
  | none =>
    match (← sourceOutputs chain).find? (isNamed ref.txHash ref.index) with
    | some u => return u
    | none => throw (complaint (.notAtSource (nameText ref.txHash ref.index)))

/-- The list with an element at its end, unless it is in the list. -/
def addOnce {α : Type} [DecidableEq α] (a : α) (l : List α) : List α :=
  if a ∈ l then l else l ++ [a]

/-- Stages a collateral. -/
def addCollateral (chain : Chain) (ref : OutputRef) : Work Draft Unit := do
  let u ← lookUp chain ref
  .change fun d => { d with collaterals := addOnce u d.collaterals }

/-- The reference input that is meant. -/
def referenceInput (ref : OutputRef) : Attempt ReferenceInput :=
  match ref.record with
  | some record => (ofRecord record).map .resolved
  | none => accept do return .named (← OutputName.ofText? (← ref.txHash) (← ref.index))

/-- Stages a reference input. -/
def addReferenceInput (ref : OutputRef) : Work Draft Unit := do
  let input ← .ofAttempt (referenceInput ref)
  .change fun d => { d with referenceInputs := addOnce input d.referenceInputs }

/-! ### Redeemers -/

/-- A redeemer that is given; an empty text is none. -/
def given (redeemer : Option String) : Option String :=
  redeemer.filter (· ≠ "")

/-- The Plutus script that a redeemer takes. -/
def scriptFor (action : String) : Work Draft PlutusScript := do
  match (← get).plutusScript with
  | some script => return script
  | none => throw (complaint (.scriptMissing action))

/-- The bytes of a redeemer. -/
def redeemerBytes (redeemer : String) : Attempt Bytes :=
  accept ((Hex.decode? redeemer).bind plutusData?)

/-- The draft with one more input. -/
def withInput (d : Draft) (u : Unspent) : Draft :=
  { d with inputs := d.inputs ++ [u] }

/-- The hash of the script at whose address an output lies. -/
def scriptAt? (u : Unspent) : Option Bytes :=
  match u.output.address.payment? with
  | some (.script h) => some h
  | _ => none

/-- Stages an output of a script to be spent.  The redeemer is kept before the script is compared
with the address. -/
def redeem (u : Unspent) (redeemer : String) : Work Draft Unit := do
  let script ← scriptFor "spendUtxo"
  let data ← .ofAttempt (redeemerBytes redeemer)
  let hash ← .ofAttempt (accept (scriptAt? u))
  .change fun d => { d with spendRedeemers := Entries.put u data d.spendRedeemers }
  if script.hash ≠ hash then throw refusal
  .change fun d =>
    { d with spendScripts := Entries.put u script d.spendScripts }.withInput u

/-- Stages an output to be spent. -/
def spend (chain : Chain) (ref : OutputRef) (redeemer : Option String) : Work Draft Unit := do
  let u ← lookUp chain ref
  match given redeemer with
  | some r => redeem u r
  | none => .change fun d => d.withInput u

/-- What is minted after adding assets. -/
def addMint (delta : Assets) : Option Assets → Assets
  | some minted => minted.add delta
  | none => delta

/-- Stages assets of a policy to be minted, or burned with `sign` minus one. -/
def mintOf (sign : Int) (action policy : String) (assets : Entries String Int)
    (redeemer : Option String) : Work Draft Unit := do
  let units := assets.map fun e => (policy ++ "." ++ e.1, e.2)
  let delta ← .ofAttempt (accept (Assets.ofUnits? sign units))
  .change fun d => { d with mint := some (addMint delta d.mint) }
  match given redeemer with
  | none => return
  | some r =>
    let script ← scriptFor action
    let data ← .ofAttempt (redeemerBytes r)
    .change fun d => { d with mintRedeemers := d.mintRedeemers ++ [(script, data)] }

/-! ### Scripts -/

/-- Stages a script.  A native script goes into the transaction; a Plutus script is kept for the
redeemers that follow. -/
def attach (script : String) (kind : ScriptKind) : Work Draft Unit := do
  let bytes ← .ofAttempt (accept (Hex.decode? script))
  match PlutusVersion.ofKind? kind with
  | some version => .change fun d => { d with plutusScript := some ⟨version, bytes⟩ }
  | none =>
    let native ← .ofAttempt (accept (NativeScript.ofBytes? bytes))
    .change fun d => { d with nativeScripts := d.nativeScripts ++ [native] }

/-! ### Staking -/

/-- What an address says about staking, in which it must say something. -/
def stakeOf (address : String) : Attempt StakePart := do
  match (← accept (Address.ofText? address)).stake? with
  | some stake => return stake
  | none => throw (complaint (.noStakeCredential address))

/-- Stages a certificate. -/
def certify (make : StakePart → Certificate) (address : String) : Work Draft Unit := do
  let stake ← .ofAttempt (stakeOf address)
  .change fun d => { d with certificates := d.certificates ++ [make stake] }

/-- Stages a withdrawal. -/
def withdraw (address : String) (amount : Option Int) : Work Draft Unit := do
  match amount with
  | none => throw (complaint .withdrawalWithoutAmount)
  | some amount =>
    let address ← .ofAttempt (accept (Address.ofText? address))
    .change fun d => { d with withdrawals := Entries.put address amount d.withdrawals }

/-! ### The rest -/

/-- Stages a required signer. -/
def addSigner (keyHash : String) : Work Draft Unit := do
  let bytes ← .ofAttempt (accept (Hex.decode? keyHash))
  let hash ← .ofAttempt (accept (Address.hash? bytes))
  .change fun d => { d with requiredSigners := d.requiredSigners ++ [hash] }

/-- Stages the change address. -/
def setChange (address : String) : Work Draft Unit := do
  let address ← .ofAttempt (accept (Address.ofText? address))
  .change fun d => { d with changeAddress := some address }

/-- Stages a fee policy: only a buffer can be had. -/
def setPolicy (strategy : FeeStrategy) (multiplier : Option Binary64) (feeBuffer : Option Int) :
    Work Draft Unit := do
  if multiplier.any (!·.isOne) then throw (complaint .multiplierUnsupported)
  .change fun d =>
    { d with feeBuffer := match strategy with | .buffer => feeBuffer | .default => none }

/-- Applies a step. -/
def apply (chain : Chain) : Step → Work Draft Unit
  | .payLovelace toAddress lovelace => payLovelace toAddress lovelace
  | .payAssets toAddress assets lovelace => pay chain toAddress lovelace assets
  | .payMany outputs => payMany chain outputs
  | .addMetadata label content =>
    .change fun d => { d with metadata := Entries.put label content d.metadata }
  | .validFrom slot => .change fun d => { d with validFrom := some slot }
  | .validTo slot => .change fun d => { d with validTo := some slot }
  | .addRequiredSigner keyHash => addSigner keyHash
  | .setChangeAddress address => setChange address
  | .addCollateral ref => addCollateral chain ref
  | .addReferenceInput ref => addReferenceInput ref
  | .spendUtxo ref redeemer => spend chain ref redeemer
  | .mintAssets policy assets redeemer => mintOf 1 "mint" policy assets redeemer
  | .burnAssets policy assets redeemer => mintOf (-1) "burn" policy assets redeemer
  | .attachScript script kind => attach script kind
  | .registerStake address => certify .register address
  | .deregisterStake address => certify .deregister address
  | .withdrawRewards address amount => withdraw address amount
  | .setFeePolicy strategy multiplier feeBuffer => setPolicy strategy multiplier feeBuffer

end Draft

end TxDraft
