import TxDraft.Draft.Builder
import TxDraft.Proofs.Compile.Loop
import TxDraft.Proofs.Traversal

/-!
# Entries of a draft

What a step stages is a list of entries, which depends on the step and on the outputs that the chain
names first, but not on the draft (`entriesOf`).  Only steps that spend, mint or attach a script
have entries for that (`plain_of_entriesOf`); what these are is said for each of them.

Putting entries into a draft does not look at what the draft remembers of the chain, so the memory
is left aside when drafts are compared (`Replays`); it is never anything but the chain's first
answer (`Asked`).
-/

namespace TxDraft

/-- The step neither spends, mints, burns nor attaches a script. -/
def Step.Plain : Step → Prop
  | spendUtxo _ _ | mintAssets _ _ _ | burnAssets _ _ _ | attachScript _ _ => False
  | _ => True

namespace Draft

open Ledger

/-! ### Entries -/

/-- One thing that is put into a draft. -/
inductive Entry where
  | output (o : Output)
  | metadatum (label : Int) (content : Json)
  | validFrom (slot : Int)
  | validTo (slot : Int)
  | signer (hash : Bytes)
  | change (address : Address)
  | buffer (feeBuffer : Option Int)
  | collateral (u : Unspent)
  | reference (input : ReferenceInput)
  | spend (u : Unspent) (redeemer : Option Bytes)
  | mint (delta : Assets)
  | mintRedeemer (data : Bytes)
  | plutus (script : PlutusScript)
  | native (script : NativeScript)
  | certificate (c : Certificate)
  | withdrawal (address : Address) (amount : Int)

/-- The draft with an entry put in.  A redeemer takes the Plutus script that is there. -/
def put (d : Draft) : Entry → Draft
  | .output o => d.withOutput o
  | .metadatum label content => { d with metadata := Entries.put label content d.metadata }
  | .validFrom slot => { d with validFrom := some slot }
  | .validTo slot => { d with validTo := some slot }
  | .signer hash => { d with requiredSigners := d.requiredSigners ++ [hash] }
  | .change address => { d with changeAddress := some address }
  | .buffer feeBuffer => { d with feeBuffer := feeBuffer }
  | .collateral u => { d with collaterals := addOnce u d.collaterals }
  | .reference input => { d with referenceInputs := addOnce input d.referenceInputs }
  | .spend u redeemer =>
    { d with
      inputs := d.inputs ++ [u]
      spendRedeemers := match redeemer with
        | some data => Entries.put u data d.spendRedeemers
        | none => d.spendRedeemers
      spendScripts := match redeemer, d.plutusScript with
        | some _, some script => Entries.put u script d.spendScripts
        | _, _ => d.spendScripts }
  | .mint delta => { d with mint := some (addMint delta d.mint) }
  | .mintRedeemer data =>
    { d with mintRedeemers := match d.plutusScript with
        | some script => d.mintRedeemers ++ [(script, data)]
        | none => d.mintRedeemers }
  | .plutus script => { d with plutusScript := some script }
  | .native script => { d with nativeScripts := d.nativeScripts ++ [script] }
  | .certificate c => { d with certificates := d.certificates ++ [c] }
  | .withdrawal address amount =>
    { d with withdrawals := Entries.put address amount d.withdrawals }

def replay (d : Draft) (es : List Entry) : Draft :=
  es.foldl put d

/-! ### What steps put into a draft -/

/-- The output that is meant: the one of a record, or the first with the name that the chain named
at its first answer. -/
def meant (chain : Chain) (ref : OutputRef) : Attempt Unspent :=
  match ref.record with
  | some record => ofRecord record
  | none =>
    match (chain.atSource 0).find? (isNamed ref.txHash ref.index) with
    | some u => .ok u
    | none => .error (complaint (.notAtSource (nameText ref.txHash ref.index)))

def redeemerOf (redeemer : Option String) : Attempt (Option Bytes) :=
  (given redeemer).mapM redeemerBytes

def payEntries (chain : Chain) (outputs : List PaymentOutput) : Attempt (List Entry) :=
  outputs.mapM fun out =>
    (payment chain.parameters.coinsPerByte out.toAddress out.lovelace (out.assets.getD [])).map
      .output

def spendEntries (chain : Chain) (ref : OutputRef) (redeemer : Option String) :
    Attempt (List Entry) := do
  let u ← meant chain ref
  return [.spend u (← redeemerOf redeemer)]

def attachEntries (script : String) (kind : ScriptKind) : Attempt (List Entry) := do
  let bytes ← accept (Hex.decode? script)
  match PlutusVersion.ofKind? kind with
  | some version => return [.plutus ⟨version, bytes⟩]
  | none => return [.native (← accept (NativeScript.ofBytes? bytes))]

def mintEntries (sign : Int) (policy : String) (assets : Entries String Int)
    (redeemer : Option String) : Attempt (List Entry) := do
  let delta ← accept (Assets.ofUnits? sign (assets.map fun e => (policy ++ "." ++ e.1, e.2)))
  let data ← redeemerOf redeemer
  return .mint delta :: (data.map Entry.mintRedeemer).toList

/-- The entries of a step that can be applied.  Whether a script is there for a redeemer is left to
the draft. -/
def entriesOf (chain : Chain) : Step → Attempt (List Entry)
  | .payLovelace toAddress lovelace => do
    let address ← accept (Address.ofText? toAddress)
    return [.output (.plain address (.ofCoin lovelace))]
  | .payAssets toAddress assets lovelace => do
    return [.output (← payment chain.parameters.coinsPerByte toAddress lovelace assets)]
  | .payMany outputs => payEntries chain outputs
  | .addMetadata label content => return [.metadatum label content]
  | .validFrom slot => return [.validFrom slot]
  | .validTo slot => return [.validTo slot]
  | .addRequiredSigner keyHash => do
    let bytes ← accept (Hex.decode? keyHash)
    return [.signer (← accept (Address.hash? bytes))]
  | .setChangeAddress address => do
    return [.change (← accept (Address.ofText? address))]
  | .addCollateral ref => do
    return [.collateral (← meant chain ref)]
  | .addReferenceInput ref => do
    return [.reference (← referenceInput ref)]
  | .spendUtxo ref redeemer => spendEntries chain ref redeemer
  | .mintAssets policy assets redeemer => mintEntries 1 policy assets redeemer
  | .burnAssets policy assets redeemer => mintEntries (-1) policy assets redeemer
  | .attachScript script kind => attachEntries script kind
  | .registerStake address => do
    return [.certificate (.register (← stakeOf address))]
  | .deregisterStake address => do
    return [.certificate (.deregister (← stakeOf address))]
  | .withdrawRewards address amount =>
    match amount with
    | some amount => do return [.withdrawal (← accept (Address.ofText? address)) amount]
    | none => .error (complaint .withdrawalWithoutAmount)
  | .setFeePolicy strategy _ feeBuffer =>
    return [.buffer (match strategy with | .buffer => feeBuffer | .default => none)]

def allEntries (chain : Chain) (steps : List Step) : Attempt (List Entry) :=
  (steps.mapM (entriesOf chain)).map List.flatten

/-! ### Entries of a step -/

section Steps

variable {chain : Chain} {es : List Entry}

theorem accept_eq_ok_iff {α : Type} {o : Option α} {a : α} : accept o = .ok a ↔ o = some a := by
  cases o <;> simp [accept]

theorem eq_of_spendEntries {ref : OutputRef} {redeemer : Option String}
    (h : spendEntries chain ref redeemer = .ok es) :
    ∃ u data, meant chain ref = .ok u ∧ redeemerOf redeemer = .ok data ∧ es = [.spend u data] := by
  obtain ⟨u, hu, h⟩ := Traversal.bind_eq_ok_iff.mp h
  obtain ⟨data, hdata, h⟩ := Traversal.bind_eq_ok_iff.mp h
  cases h
  exact ⟨u, data, hu, hdata, rfl⟩

theorem eq_of_mintEntries {sign : Int} {policy : String} {assets : Entries String Int}
    {redeemer : Option String} (h : mintEntries sign policy assets redeemer = .ok es) :
    ∃ delta data, Assets.ofUnits? sign (assets.map fun e => (policy ++ "." ++ e.1, e.2)) =
        some delta ∧
      redeemerOf redeemer = .ok data ∧
      es = .mint delta :: (data.map Entry.mintRedeemer).toList := by
  obtain ⟨delta, hdelta, h⟩ := Traversal.bind_eq_ok_iff.mp h
  obtain ⟨data, hdata, h⟩ := Traversal.bind_eq_ok_iff.mp h
  cases h
  exact ⟨delta, data, accept_eq_ok_iff.mp hdelta, hdata, rfl⟩

/-- A script is kept for redeemers, or it is a native one. -/
theorem eq_of_attachEntries {script : String} {kind : ScriptKind}
    (h : attachEntries script kind = .ok es) :
    ∃ bytes, Hex.decode? script = some bytes ∧
      match PlutusVersion.ofKind? kind with
      | some version => es = [.plutus ⟨version, bytes⟩]
      | none => ∃ native, es = [.native native] := by
  obtain ⟨bytes, hbytes, h⟩ := Traversal.bind_eq_ok_iff.mp h
  refine ⟨bytes, accept_eq_ok_iff.mp hbytes, ?_⟩
  cases hversion : PlutusVersion.ofKind? kind with
  | some version =>
    rw [hversion] at h
    cases h
    rfl
  | none =>
    rw [hversion] at h
    obtain ⟨native, -, h⟩ := Traversal.bind_eq_ok_iff.mp h
    cases h
    exact ⟨native, rfl⟩

/-- The entry is not for spending, minting or a script. -/
def Entry.Plain : Entry → Prop
  | spend _ _ | mint _ | mintRedeemer _ | plutus _ | native _ => False
  | _ => True

theorem plain_read {α : Type} {a : Attempt α} {e : α → Entry}
    (h : (do return [e (← a)]) = .ok es) (he : ∀ x, (e x).Plain) : ∀ entry ∈ es, entry.Plain := by
  obtain ⟨x, -, h⟩ := Traversal.bind_eq_ok_iff.mp h
  cases h
  simpa using he x

/-- The entries of a plain step are plain. -/
theorem plain_of_entriesOf {step : Step} (h : entriesOf chain step = .ok es)
    (hplain : step.Plain) : ∀ entry ∈ es, entry.Plain := by
  cases step with
  | spendUtxo | mintAssets | burnAssets | attachScript => cases hplain
  | payLovelace toAddress lovelace => exact plain_read h fun _ => trivial
  | payAssets toAddress assets lovelace => exact plain_read h fun _ => trivial
  | payMany outputs =>
    intro entry hentry
    obtain ⟨out, -, hout⟩ := Traversal.exists_of_mem_mapM h entry hentry
    obtain ⟨o, -, rfl⟩ := Traversal.map_eq_ok_iff.mp hout
    trivial
  | addMetadata label content | validFrom slot | validTo slot | setFeePolicy strategy _ feeBuffer =>
    cases h
    simp [Entry.Plain]
  | addRequiredSigner keyHash =>
    obtain ⟨bytes, -, h⟩ := Traversal.bind_eq_ok_iff.mp h
    exact plain_read h fun _ => trivial
  | setChangeAddress address => exact plain_read h fun _ => trivial
  | addCollateral ref => exact plain_read h fun _ => trivial
  | addReferenceInput ref => exact plain_read h fun _ => trivial
  | registerStake address => exact plain_read h fun _ => trivial
  | deregisterStake address => exact plain_read h fun _ => trivial
  | withdrawRewards address amount =>
    cases amount with
    | none => cases h
    | some amount => exact plain_read h fun _ => trivial

end Steps

/-! ### What a draft knows of the chain -/

/-- The draft without its memory of the chain. -/
def unasked (d : Draft) : Draft :=
  { d with snapshot := none, questions := 0 }

/-- The chain was not asked yet, or its first answer is kept. -/
def Asked (chain : Chain) (d : Draft) : Prop :=
  d.snapshot = none ∧ d.questions = 0 ∨ d.snapshot = some (chain.atSource 0)

theorem asked_put {chain : Chain} {d : Draft} (h : Asked chain d) (e : Entry) :
    Asked chain (d.put e) := by
  cases e <;> exact h

theorem asked_replay {chain : Chain} {d : Draft} (h : Asked chain d) (es : List Entry) :
    Asked chain (d.replay es) := by
  induction es generalizing d with
  | nil => exact h
  | cons e rest ih => exact ih (asked_put h e)

/-- What is put into a draft does not depend on its memory of the chain. -/
theorem unasked_put (d : Draft) (e : Entry) : (d.put e).unasked = d.unasked.put e := by
  cases e <;> rfl

theorem unasked_replay (d : Draft) (es : List Entry) :
    (d.replay es).unasked = d.unasked.replay es := by
  induction es generalizing d with
  | nil => rfl
  | cons e rest ih =>
    show ((d.put e).replay rest).unasked = _
    rw [ih, unasked_put]
    rfl

/-- The second draft is the first one with entries put in, the memory of the chain aside. -/
structure Replays (chain : Chain) (d : Draft) (es : List Entry) (left : Draft) : Prop where
  staged : left.unasked = (d.replay es).unasked
  asked : Asked chain left

variable {chain : Chain} {d between left : Draft} {es fs : List Entry}

theorem Replays.of_asked (h : Asked chain d) (es : List Entry) :
    Replays chain d es (d.replay es) :=
  ⟨rfl, asked_replay h es⟩

theorem Replays.append (h : Replays chain d es between) (h' : Replays chain between fs left) :
    Replays chain d (es ++ fs) left where
  staged := by
    have hall : d.replay (es ++ fs) = (d.replay es).replay fs := List.foldl_append
    rw [hall, h'.staged, unasked_replay, h.staged, ← unasked_replay]
  asked := h'.asked

end Draft

end TxDraft
