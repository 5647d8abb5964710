import TxDraft.Draft.Transaction

/-!
# Balancing

Completing a draft.  What the outputs and the fee take must come from the inputs, from what is
minted and from withdrawals; if it does not, outputs at the source are added, the largest first,
and what is left over goes into a last output, the change.  The fee depends on the size of the
transaction, and so on the change, which depends on the fee: the change is reckoned twice.

A draft with redeemers is completed on the chain, which runs the scripts.
-/

namespace TxDraft

open Ledger

namespace Draft

/-! ### Supply and demand -/

/-- The amount of an output that can be spent. -/
def amountOf (u : Unspent) : Amount :=
  u.output.amount

/-- The deposits for the credentials that are registered, each once. -/
def deposit (chain : Chain) (d : Draft) : Int :=
  chain.parameters.keyDeposit * (d.certificates.filterMap Certificate.registered?).eraseDups.length

/-- The sum of all withdrawals. -/
def withdrawn (d : Draft) : Int :=
  (d.withdrawals.map Prod.snd).foldr (· + ·) 0

/-- What comes in besides assets that are minted. -/
def incoming (chain : Chain) (d : Draft) : Amount :=
  (Amount.sum (d.inputs.map amountOf)).add (.ofCoin (d.withdrawn - d.deposit chain))

/-- What is minted. -/
def minted (d : Draft) : Assets :=
  d.mint.getD []

/-- What goes out, with the fee. -/
def outgoing (d : Draft) (fee : Int) : Amount :=
  (Amount.sum (d.outputs.map Output.amount)).add (.ofCoin fee)

/-- Where the change goes. -/
def changeTo (d : Draft) : Address :=
  d.changeAddress.getD d.source

/-- The fee: so much for the transaction and for each of its bytes, and the surcharge.  A
transaction that is too long is refused. -/
def estimate (chain : Chain) (d : Draft) : Attempt Int :=
  let p := chain.parameters
  if p.maxSize < d.signedSize then .error refusal
  else .ok (p.feePerByte * d.signedSize + p.feeConstant + d.surcharge)

/-! ### Adding inputs -/

/-- The outputs that can be added, the largest first; of two with the same lovelace the one that the
chain gave later comes first.  Inputs and outputs with a datum cannot be added. -/
def pool (d : Draft) (atSource : List Unspent) : List Unspent :=
  let free := atSource.filter fun u => u ∉ d.inputs && u.output.datum = .none
  (free.mergeSort fun a b => a.output.amount.coin ≤ b.output.amount.coin).reverse

/-- Takes outputs from the front until what is held covers the target.  Gives the outputs that were
taken, what is then held, and the outputs that are left. -/
def gather (target : Amount) : Amount → List Unspent → Option (List Unspent × Amount × List Unspent)
  | held, [] => if target.coveredBy held then some ([], held, []) else none
  | held, u :: rest =>
    if target.coveredBy held then some ([], held, u :: rest)
    else (gather target (held.add (amountOf u)) rest).map fun (taken, held, left) =>
      (u :: taken, held, left)

/-- The bytes of an address by which the change is measured before it is known where it goes. -/
def measuringAddress : Bytes := List.replicate 57 0

/-- Chooses outputs for what is missing, and then more if the rest would be less than an output may
hold. -/
def choose (coinsPerByte : Int) (missing held : Amount) (pool : List Unspent) :
    Option (List Unspent) := do
  let (taken, held, left) ← gather missing held pool
  let rest := held.sub missing
  let least := Output.leastCoinAt coinsPerByte measuringAddress rest
  if least ≤ rest.coin then return taken
  let (more, _, _) ← gather (.ofCoin (least - rest.coin)) .zero left
  return taken ++ more

/-- What the inputs lack, and what they have over.  Assets that nobody asks for go into the change
and count for neither; the change must hold enough lovelace to carry them. -/
def shortage (chain : Chain) (d : Draft) (fee : Int) : Amount × Amount :=
  let minted := d.minted.positive
  let burned := d.minted.neg.positive
  let supply := (d.incoming chain).add ⟨0, minted⟩
  let demand := (d.outgoing fee).add ⟨0, burned⟩
  let trimmed : Amount := ⟨supply.coin, supply.assets.filter fun e => demand.assets.holds e.1⟩
  let missing := demand.sub trimmed
  let surplus := trimmed.sub demand
  let carried := supply.sub trimmed
  let coin :=
    if missing.coin < 0 then
      max 0 (missing.coin + Output.leastCoin chain.parameters.coinsPerByte d.changeTo carried)
    else missing.coin
  (⟨coin, missing.assets.positive⟩, ⟨max 0 surplus.coin, surplus.assets.positive⟩)

/-- Is nothing missing? -/
def isCovered (missing : Amount) : Bool :=
  missing.coin = 0 && missing.assets.isEmpty

/-- The draft with a window of slots, if it has native scripts: scripts may look at the slot. -/
def withWindow (chain : Chain) (d : Draft) : Draft :=
  if d.nativeScripts.isEmpty then d
  else
    { d with
      validFrom := some (d.validFrom.getD (max 0 (chain.lastSlot - 1000)))
      validTo := some (d.validTo.getD (max 0 (chain.lastSlot + 10000))) }

/-- The draft with its inputs in order. -/
def withInputs (d : Draft) (inputs : List Unspent) : Draft :=
  { d with inputs := inputs.mergeSort fun a b => !b.name.precedes a.name }

/-- The draft with required signers, if it has native scripts and no signers were asked for: the
keys at whose addresses inputs and collaterals lie. -/
def withSigners (d : Draft) : Draft :=
  if d.nativeScripts.isEmpty || !d.requiredSigners.isEmpty then d
  else
    let keys := (d.inputs ++ d.collaterals).filterMap fun u => do
      (← u.output.address.payment?).keyHash?
    { d with requiredSigners := keys.eraseDups }

/-- Adds the inputs that are missing. -/
def select (chain : Chain) : Work Draft Unit := do
  let d ← get
  let fee ← .ofAttempt (d.estimate chain)
  let (missing, held) := d.shortage chain fee
  if isCovered missing then .change fun d => d.withInputs d.inputs
  else
    let atSource := chain.atSource d.questions
    .change fun d => { d with questions := d.questions + 1 }
    let chosen := choose chain.parameters.coinsPerByte missing held (d.pool atSource)
    let more ← .ofAttempt (accept chosen)
    .change fun d => d.withInputs (d.inputs ++ more)

/-! ### The change -/

/-- The change that is left with a fee.  There must be enough for it to be an output. -/
def change? (chain : Chain) (d : Draft) (fee : Int) : Option Output :=
  let coinsPerByte := chain.parameters.coinsPerByte
  let provided := (d.incoming chain).add ⟨0, d.minted⟩
  let requested := d.outgoing fee
  let left := provided.sub requested
  let rest : Amount := ⟨left.coin, left.assets.positive⟩
  let measured : Amount := if rest.assets.isEmpty then rest else ⟨0, rest.assets⟩
  let least := Output.leastCoin coinsPerByte d.changeTo measured
  if requested.coveredBy provided && requested ≠ provided && 0 ≤ rest.coin && least ≤ rest.coin then
    some (.plain d.changeTo rest)
  else none

/-- Reckons the fee, and then the change. -/
def settle (chain : Chain) (outputs : List Output) : Work Draft Unit := do
  let fee ← .ofAttempt ((← get).estimate chain)
  .change fun d => { d with fee, outputs }
  let change ← .ofAttempt (accept ((← get).change? chain fee))
  .change fun d => d.withOutput change

/-! ### Completion -/

/-- Does the transaction run Plutus scripts? -/
def isScripted (d : Draft) : Bool :=
  !d.mintRedeemers.isEmpty || !d.spendRedeemers.isEmpty

/-- What a completion makes of the draft.  The chain works on the transaction; what the draft keeps
apart from it is as it was. -/
def keeping (completed d : Draft) : Draft :=
  { completed with
    source := d.source
    metadata := d.metadata
    changeAddress := d.changeAddress
    feeBuffer := d.feeBuffer
    plutusScript := d.plutusScript
    withdrawals := d.withdrawals
    snapshot := d.snapshot }

/-- Completes a draft without redeemers. -/
def balance (chain : Chain) : Work Draft Bytes := do
  if (← get).certificates.any (·.credential?.isNone) then throw refusal
  .change (withWindow chain)
  select chain
  .change withSigners
  let outputs := (← get).outputs
  settle chain outputs
  settle chain outputs
  return (← get).unsigned

/-- Completes the draft; gives the transaction. -/
def complete (chain : Chain) : Work Draft Bytes := do
  .change fun d => { d with surcharge := d.feeBuffer.getD d.surcharge }
  if (← get).isScripted then chain.runScripts.within id keeping
  else balance chain

end Draft

end TxDraft
