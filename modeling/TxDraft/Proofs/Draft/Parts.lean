import TxDraft.Draft
import TxDraft.Proofs.Work

/-!
# What steps are put together from

A step reads its arguments, changes what is staged, and looks at two things that the draft keeps:
the outputs at the source and the Plutus script.  So a property of computations that holds of these
parts, and of one computation after another, holds of every step (`Compositional.apply`), whatever
becomes of the step.
-/

namespace TxDraft.Draft

open Ledger

/-- A change to what is staged.  It neither looks at the fee buffer and at what the draft remembers
of the chain, nor touches them. -/
def Staging (f : Draft → Draft) : Prop :=
  ∀ (d : Draft) snapshot questions feeBuffer,
    f { d with snapshot, questions, feeBuffer } = { f d with snapshot, questions, feeBuffer }

/-- What the draft remembers of the chain and its fee buffer are there as before. -/
theorem Staging.kept {f : Draft → Draft} (h : Staging f) (d : Draft) :
    f d = { f d with
      snapshot := d.snapshot, questions := d.questions, feeBuffer := d.feeBuffer } :=
  h d d.snapshot d.questions d.feeBuffer

/-- The property holds of the parts of steps, and of two computations if it holds of each. -/
structure Compositional (chain : Chain) (P : ∀ α : Type, Work Draft α → Prop) : Prop where
  ofAttempt : ∀ {α : Type} (a : Attempt α), P α (.ofAttempt a)
  bind : ∀ {α β : Type} {work : Work Draft α} {next : α → Work Draft β},
    P α work → (∀ a, P β (next a)) → P β (work >>= next)
  change : ∀ {f : Draft → Draft}, Staging f → P Unit (.change f)
  sourceOutputs : P (List Unspent) (sourceOutputs chain)
  scriptFor : ∀ action, P PlutusScript (scriptFor action)

namespace Compositional

variable {chain : Chain} {P : ∀ α : Type, Work Draft α → Prop}

/-- A step that reads its arguments and then stages something. -/
theorem read (h : Compositional chain P) {α : Type} (a : Attempt α) {f : α → Draft → Draft}
    (hf : ∀ x, Staging (f x)) : P Unit (Work.ofAttempt a >>= fun x => Work.change (f x)) :=
  h.bind (h.ofAttempt a) fun x => h.change (hf x)

theorem lookUp (h : Compositional chain P) (ref : OutputRef) : P Unspent (lookUp chain ref) := by
  unfold Draft.lookUp
  cases ref.record with
  | some record => exact h.ofAttempt _
  | none =>
    refine h.bind h.sourceOutputs fun outputs => ?_
    cases outputs.find? (isNamed ref.txHash ref.index) with
    | some u => exact h.ofAttempt (.ok u)
    | none => exact h.ofAttempt (.error _)

theorem redeem (h : Compositional chain P) (u : Unspent) (redeemer : String) :
    P Unit (redeem u redeemer) := by
  refine h.bind (h.scriptFor _) fun script => ?_
  refine h.bind (h.ofAttempt _) fun data => ?_
  refine h.bind (h.ofAttempt _) fun hash => ?_
  refine h.bind (h.change fun _ _ _ _ => rfl) fun _ => ?_
  by_cases hsame : script.hash ≠ hash
  · rw [if_pos hsame]
    exact h.ofAttempt (.error _)
  · rw [if_neg hsame]
    exact h.change fun _ _ _ _ => rfl

theorem spend (h : Compositional chain P) (ref : OutputRef) (redeemer : Option String) :
    P Unit (spend chain ref redeemer) := by
  refine h.bind (h.lookUp ref) fun u => ?_
  cases given redeemer with
  | none => exact h.change fun _ _ _ _ => rfl
  | some r => exact h.redeem u r

theorem payMany (h : Compositional chain P) (outputs : List PaymentOutput) :
    P Unit (payMany chain outputs) := by
  induction outputs with
  | nil => exact h.ofAttempt (.ok ())
  | cons out rest ih =>
    exact h.bind (h.read _ fun _ _ _ _ _ => rfl) fun _ => ih

theorem mintOf (h : Compositional chain P) (sign : Int) (action policy : String)
    (assets : Entries String Int) (redeemer : Option String) :
    P Unit (mintOf sign action policy assets redeemer) := by
  refine h.bind (h.ofAttempt _) fun delta => ?_
  refine h.bind (h.change fun _ _ _ _ => rfl) fun _ => ?_
  cases given redeemer with
  | none => exact h.ofAttempt (.ok ())
  | some r => exact h.bind (h.scriptFor _) fun script => h.read _ fun _ _ _ _ _ => rfl

theorem attach (h : Compositional chain P) (script : String) (kind : ScriptKind) :
    P Unit (attach script kind) := by
  refine h.bind (h.ofAttempt _) fun bytes => ?_
  cases PlutusVersion.ofKind? kind with
  | some version => exact h.change fun _ _ _ _ => rfl
  | none => exact h.read _ fun _ _ _ _ _ => rfl

/-- The property holds of every step, if it holds of fee policies, which set the buffer. -/
theorem apply (h : Compositional chain P) (step : Step)
    (hpolicy : ∀ strategy multiplier feeBuffer, step = .setFeePolicy strategy multiplier feeBuffer →
      P Unit (setPolicy strategy multiplier feeBuffer)) : P Unit (apply chain step) := by
  cases step with
  | payLovelace toAddress lovelace => exact h.read _ fun _ _ _ _ _ => rfl
  | payAssets toAddress assets lovelace => exact h.read _ fun _ _ _ _ _ => rfl
  | payMany outputs => exact h.payMany outputs
  | addMetadata label content => exact h.change fun _ _ _ _ => rfl
  | validFrom slot => exact h.change fun _ _ _ _ => rfl
  | validTo slot => exact h.change fun _ _ _ _ => rfl
  | addRequiredSigner keyHash => exact h.bind (h.ofAttempt _) fun _ => h.read _ fun _ _ _ _ _ => rfl
  | setChangeAddress address => exact h.read _ fun _ _ _ _ _ => rfl
  | addCollateral ref => exact h.bind (h.lookUp ref) fun u => h.change fun _ _ _ _ => rfl
  | addReferenceInput ref => exact h.read _ fun _ _ _ _ _ => rfl
  | spendUtxo ref redeemer => exact h.spend ref redeemer
  | mintAssets policy assets redeemer => exact h.mintOf 1 "mint" policy assets redeemer
  | burnAssets policy assets redeemer => exact h.mintOf (-1) "burn" policy assets redeemer
  | attachScript script kind => exact h.attach script kind
  | registerStake address => exact h.read _ fun _ _ _ _ _ => rfl
  | deregisterStake address => exact h.read _ fun _ _ _ _ _ => rfl
  | withdrawRewards address amount =>
    cases amount with
    | none => exact h.ofAttempt (.error _)
    | some amount => exact h.read _ fun _ _ _ _ _ => rfl
  | setFeePolicy strategy multiplier feeBuffer => exact hpolicy strategy multiplier feeBuffer rfl

end Compositional

end TxDraft.Draft
