import TxDraft.Proofs.Draft.Parts
import TxDraft.Proofs.Draft.Summary

/-!
# Fee policies wait

A fee policy is only staged.  No other step looks at the buffer that it leaves (`blind_apply`), so
in a sequence that is applied all policies may as well wait until everything else is staged
(`forM_eq_ok_iff_policies_last`).  Sequences with the same policies in the same order, and the same
other actions in the same order, therefore compile to the same transaction, wherever the policies
stand among the others (`run_policies_moved`).  This holds with redeemers too, however the chain
completes a draft that has some.
-/

namespace TxDraft

/-- Is this the step of a fee policy? -/
def Step.isPolicy : Step → Bool
  | setFeePolicy _ _ _ => true
  | _ => false

/-- Is this a fee policy? -/
def Action.isPolicy : Action → Bool
  | feePolicy _ _ _ => true
  | _ => false

namespace Draft

open Ledger

variable {chain : Chain} {α β : Type}

/-! ### Computations that do not look at the buffer -/

/-- The computation does not look at the fee buffer, and leaves it as it is. -/
def Blind (work : Work Draft α) : Prop :=
  ∀ feeBuffer, Work.Alike (fun d d' => d' = d.put (.buffer feeBuffer)) work work

namespace Blind

theorem ofAttempt (a : Attempt α) : Blind (Work.ofAttempt a) :=
  fun _ => .ofAttempt a

theorem pure (a : α) : Blind (pure a) :=
  fun _ => .pure a

theorem bind {work : Work Draft α} {next : α → Work Draft β} (h : Blind work)
    (hnext : ∀ a, Blind (next a)) : Blind (work >>= next) :=
  fun feeBuffer => (h feeBuffer).bind fun a => hnext a feeBuffer

/-- What is staged comes to the same before a new buffer and after it. -/
theorem change {f : Draft → Draft} (h : Staging f) : Blind (Work.change f) := by
  rintro feeBuffer d _ rfl
  have hset : f (d.put (.buffer feeBuffer)) = { f d with
      snapshot := d.snapshot, questions := d.questions, feeBuffer := feeBuffer } :=
    h d d.snapshot d.questions feeBuffer
  refine ⟨rfl, ?_⟩
  show f (d.put (.buffer feeBuffer)) = (f d).put (.buffer feeBuffer)
  rw [hset, h.kept d]
  rfl

theorem forM {steps : List Step} (h : ∀ step ∈ steps, Blind (apply chain step)) :
    Blind (steps.forM (apply chain)) := by
  induction steps with
  | nil => exact pure ()
  | cons step rest ih =>
    obtain ⟨hstep, hrest⟩ := List.forall_mem_cons.mp h
    exact hstep.bind fun _ => ih hrest

/-- With another buffer the computation does the same, and that buffer is left. -/
theorem eq_ok_iff {work : Work Draft α} (h : Blind work) {d left : Draft} {a : α}
    {feeBuffer : Option Int} :
    work.outcomeIn (d.put (.buffer feeBuffer)) = (.ok a, left) ↔
      ∃ between, work.outcomeIn d = (.ok a, between) ∧ between.put (.buffer feeBuffer) = left := by
  obtain ⟨hresult, hleft⟩ := h feeBuffer d (d.put (.buffer feeBuffer)) rfl
  rcases hd : work.outcomeIn d with ⟨result, between⟩
  rcases hd' : work.outcomeIn (d.put (.buffer feeBuffer)) with ⟨result', between'⟩
  rw [hd, hd'] at hresult hleft
  obtain rfl : result = result' := hresult
  obtain rfl : between' = between.put (.buffer feeBuffer) := hleft
  simp

end Blind

/-! ### Steps that are no policies -/

theorem blind_sourceOutputs : Blind (sourceOutputs chain) := by
  rintro feeBuffer d _ rfl
  have hsnapshot : (d.put (.buffer feeBuffer)).snapshot = d.snapshot := rfl
  rw [sourceOutputs, Work.outcomeIn_get_bind, Work.outcomeIn_get_bind, hsnapshot]
  cases d.snapshot <;> exact ⟨rfl, rfl⟩

theorem blind_scriptFor (action : String) : Blind (scriptFor action) := by
  rintro feeBuffer d _ rfl
  have hscript : (d.put (.buffer feeBuffer)).plutusScript = d.plutusScript := rfl
  rw [scriptFor, Work.outcomeIn_get_bind, Work.outcomeIn_get_bind, hscript]
  cases d.plutusScript <;> exact ⟨rfl, rfl⟩

/-- No step but that of a fee policy looks at the fee buffer. -/
theorem blind_apply {step : Step} (h : step.isPolicy = false) : Blind (apply chain step) := by
  have hparts : Compositional chain fun _ work => Blind work :=
    ⟨Blind.ofAttempt, Blind.bind, Blind.change, blind_sourceOutputs, blind_scriptFor⟩
  refine hparts.apply step ?_
  rintro strategy multiplier feeBuffer rfl
  cases h

/-! ### Policies after everything else -/

/-- A policy is refused by every draft, or it sets the buffer of every draft. -/
theorem apply_policy (chain : Chain) {policy : Step} (h : policy.isPolicy = true) :
    (∀ d left, (apply chain policy).outcomeIn d ≠ (.ok (), left)) ∨
      ∃ feeBuffer, ∀ d left, (apply chain policy).outcomeIn d = (.ok (), left) ↔
        d.put (.buffer feeBuffer) = left := by
  cases policy with
  | setFeePolicy strategy multiplier feeBuffer =>
    cases hfactor : multiplier.any (!·.isOne) with
    | true =>
      refine Or.inl fun d left hrun => ?_
      rw [(setPolicy_eq_ok_iff.mp hrun).1] at hfactor
      cases hfactor
    | false => exact Or.inr ⟨_, fun d left => setPolicy_eq_ok_iff.trans (and_iff_right hfactor)⟩
  | _ => cases h

/-- A policy may wait until a computation that does not look at the buffer is done. -/
theorem policy_waits {policy : Step} {work : Work Draft α} {d left : Draft} {a : α}
    (hpolicy : policy.isPolicy = true) (hwork : Blind work) :
    (∃ between, (apply chain policy).outcomeIn d = (.ok (), between) ∧
        work.outcomeIn between = (.ok a, left)) ↔
      ∃ between, work.outcomeIn d = (.ok a, between) ∧
        (apply chain policy).outcomeIn between = (.ok (), left) := by
  rcases apply_policy chain hpolicy with hrefused | ⟨feeBuffer, hset⟩
  · exact iff_of_false (fun ⟨_, h, _⟩ => hrefused _ _ h) fun ⟨_, _, h⟩ => hrefused _ _ h
  · simp only [hset, exists_eq_left', hwork.eq_ok_iff]

theorem forM_policy_cons_iff {policy : Step} {others : List Step} {d left : Draft}
    (hpolicy : policy.isPolicy = true) (hothers : ∀ other ∈ others, other.isPolicy = false) :
    ((policy :: others).forM (apply chain)).outcomeIn d = (.ok (), left) ↔
      ((others ++ [policy]).forM (apply chain)).outcomeIn d = (.ok (), left) := by
  rw [Work.forM_cons_eq_ok_iff, Work.forM_append_eq_ok_iff]
  simp only [Work.forM_singleton_eq_ok_iff]
  exact policy_waits hpolicy (.forM fun other hother => blind_apply (hothers other hother))

/-- Steps are applied exactly if all that are no policies are, and then the policies, each in their
order; they leave the same draft. -/
theorem forM_eq_ok_iff_policies_last {steps : List Step} {d left : Draft} :
    (steps.forM (apply chain)).outcomeIn d = (.ok (), left) ↔
      ((steps.filter (!·.isPolicy) ++ steps.filter Step.isPolicy).forM (apply chain)).outcomeIn d =
        (.ok (), left) := by
  induction steps generalizing d with
  | nil => rfl
  | cons step rest ih =>
    rw [Work.forM_cons_eq_ok_iff]
    simp only [ih]
    cases hstep : step.isPolicy with
    | false =>
      rw [List.filter_cons_of_pos (by simp [hstep]), List.filter_cons_of_neg (by simp [hstep]),
        List.cons_append, Work.forM_cons_eq_ok_iff]
    | true =>
      have hothers : ∀ other ∈ rest.filter (!·.isPolicy), other.isPolicy = false :=
        fun other hother => by simpa using (List.mem_filter.mp hother).2
      -- the step waits for all that are no policies, and still comes before the other policies
      rw [List.filter_cons_of_neg (by simp [hstep]), List.filter_cons_of_pos hstep,
        ← Work.forM_cons_eq_ok_iff, ← List.cons_append, Work.forM_append_eq_ok_iff]
      simp only [forM_policy_cons_iff hstep hothers]
      rw [← Work.forM_append_eq_ok_iff, List.append_assoc, List.singleton_append]

/-! ### Runs with policies elsewhere -/

theorem isPolicy_of_mem_steps {action : Action} {step : Step} (h : step ∈ action.steps) :
    step.isPolicy = action.isPolicy := by
  cases action with
  | validity validFrom validTo =>
    rcases List.mem_append.mp h with h | h
    all_goals
      obtain ⟨slot, -, rfl⟩ := Option.map_eq_some_iff.mp (Option.mem_toList.mp h)
      rfl
  | _ =>
    obtain rfl := List.mem_singleton.mp h
    rfl

/-- The steps that are policies, or that are none, are those of the actions that are. -/
theorem filter_steps (keep : Bool → Bool) (actions : List Action) :
    (actions.flatMap Action.steps).filter (fun step => keep step.isPolicy) =
      (actions.filter fun action => keep action.isPolicy).flatMap Action.steps := by
  induction actions with
  | nil => rfl
  | cons action rest ih =>
    rw [List.flatMap_cons, List.filter_append, ih, List.filter_cons]
    -- the steps of the action are all kept with it, or none is
    have hsteps : action.steps.filter (fun step => keep step.isPolicy) =
        action.steps.filter fun _ => keep action.isPolicy :=
      List.filter_congr fun step hstep => by rw [isPolicy_of_mem_steps hstep]
    rw [hsteps]
    cases keep action.isPolicy with
    | true => rw [List.filter_true, if_pos rfl, List.flatMap_cons]
    | false => rw [List.filter_false, if_neg Bool.false_ne_true, List.nil_append]

/-- What actions stage is what they stage with all policies at the end. -/
theorem forM_steps_eq_ok_iff {actions : List Action} {d left : Draft} :
    ((actions.flatMap Action.steps).forM (apply chain)).outcomeIn d = (.ok (), left) ↔
      (((actions.filter (!·.isPolicy) ++ actions.filter Action.isPolicy).flatMap
        Action.steps).forM (apply chain)).outcomeIn d = (.ok (), left) := by
  have hothers : (actions.flatMap Action.steps).filter (!·.isPolicy) =
      (actions.filter (!·.isPolicy)).flatMap Action.steps := filter_steps not actions
  have hpolicies : (actions.flatMap Action.steps).filter Step.isPolicy =
      (actions.filter Action.isPolicy).flatMap Action.steps := filter_steps id actions
  rw [forM_eq_ok_iff_policies_last, hothers, hpolicies, List.flatMap_append]

/-- Where the policies stand among the other actions does not matter: a sequence with the same
policies and the same other actions, each in the same order, compiles to the same transaction, and
leaves the same draft. -/
theorem run_policies_moved {actions moved : List Action} {d left : Draft}
    {tx : UnsignedTransaction}
    (hpolicies : moved.filter Action.isPolicy = actions.filter Action.isPolicy)
    (hothers : moved.filter (!·.isPolicy) = actions.filter (!·.isPolicy))
    (hrun : (Compile.run builder chain actions).outcomeIn d = (.ok tx, left)) :
    (Compile.run builder chain moved).outcomeIn d =
        (.ok ⟨tx.content, operationNames moved⟩, left) ∧
      tx.operations = operationNames actions ∧
      (operationNames moved).Perm (operationNames actions) := by
  obtain ⟨hne, hnames, between, hsteps, hfinish⟩ := outcomeIn_run_eq_ok_iff.mp hrun
  -- the two sequences are one, policies aside and apart
  have hperm : moved.Perm actions := by
    refine (List.filter_append_perm Action.isPolicy moved).symm.trans ?_
    rw [hpolicies, hothers]
    exact List.filter_append_perm Action.isPolicy actions
  have hmoved : ((moved.flatMap Action.steps).forM (apply chain)).outcomeIn d =
      (.ok (), between) := by
    rw [forM_steps_eq_ok_iff, hpolicies, hothers, ← forM_steps_eq_ok_iff]
    exact hsteps
  refine ⟨outcomeIn_run_eq_ok_iff.mpr ⟨?_, rfl, between, hmoved, hfinish⟩, hnames, ?_⟩
  · rintro rfl
    exact hne hperm.symm.eq_nil
  · exact (hperm.flatMap_right Action.steps).map _

/-! ### Policies around a redeemer -/

/-- What every script takes on the chain below: memory and steps. -/
def unitsCbor : Cbor :=
  .array [.int 14000000, .int 10000000000]

/-- The redeemers for minting, each under its tag and position. -/
def redeemersCbor (d : Draft) : Cbor :=
  .map (d.mintRedeemers.zipIdx.map fun (redeemer, i) =>
    (.array [.int 1, .int i], .array [.written redeemer.2, unitsCbor]))

/-- The redeemers and their scripts, as witnesses. -/
def scriptWitnesses (d : Draft) : Cbor :=
  let scripts := (d.mintRedeemers.map fun redeemer => redeemer.1.bytes).eraseDups
  .map [(.int 5, d.redeemersCbor), (.int 6, .set (scripts.map .bytes))]

/-- What the witnesses add to the fee: their bytes, and the price of their units. -/
def scriptFee (d : Draft) : Int :=
  44 * d.scriptWitnesses.size + 1528800 * d.mintRedeemers.length

/-- Runs the scripts of a draft: the fee grows, and the transaction carries the witnesses. -/
def runAtFixedUnits : Work Draft Bytes := do
  let staged ← get
  .change fun d => { d with surcharge := d.surcharge + d.scriptFee }
  let _ ← balance heldChain
  .change fun d => { d with surcharge := staged.surcharge }
  let d ← get
  return (Cbor.array [d.bodyCbor d.fee, d.scriptWitnesses, .bool true,
    d.auxiliary?.getD .null]).encode

/-- A chain on which every script takes the same. -/
def scriptChain : Chain :=
  { heldChain with runScripts := runAtFixedUnits }

/-- Two policies, the second of which counts, before and between actions that mint with a redeemer.
-/
def early : List Action :=
  [.feePolicy .buffer none (some 100), .collateral heldRef, .attachScript "01" .plutusV2,
    .feePolicy .buffer none (some 50000), .spendUtxo heldRef none,
    .mint (String.ofList (List.replicate 56 '1')) [("00", 5)] (some "d87980")]

/-- The same with the policies behind and between them. -/
def late : List Action :=
  [.collateral heldRef, .attachScript "01" .plutusV2, .feePolicy .buffer none (some 100),
    .spendUtxo heldRef none,
    .mint (String.ofList (List.replicate 56 '1')) [("00", 5)] (some "d87980"),
    .feePolicy .buffer none (some 50000)]

theorem run_policies_moved_late :
    late.filter Action.isPolicy = early.filter Action.isPolicy ∧
      late.filter (!·.isPolicy) = early.filter (!·.isPolicy) ∧
      ∃ tx left, left.isScripted = true ∧ left.surcharge = 50000 ∧
        (Compile.run builder scriptChain early).outcomeIn (empty keyed) = (.ok tx, left) ∧
        (Compile.run builder scriptChain late).outcomeIn (empty keyed) =
          (.ok ⟨tx.content, operationNames late⟩, left) ∧
        tx.operations = operationNames early ∧
        (operationNames late).Perm (operationNames early) := by
  have hcompiles :
      ((Compile.run builder scriptChain early).outcomeIn (empty keyed)).1.isOk = true ∧
        ((Compile.run builder scriptChain early).outcomeIn (empty keyed)).2.isScripted = true ∧
        ((Compile.run builder scriptChain early).outcomeIn (empty keyed)).2.surcharge = 50000 := by
    decide +kernel
  rcases hrun : (Compile.run builder scriptChain early).outcomeIn (empty keyed) with ⟨_ | tx, left⟩
  · rw [hrun] at hcompiles
    cases hcompiles.1
  · rw [hrun] at hcompiles
    obtain ⟨-, hscripted, hsurcharge⟩ := hcompiles
    exact ⟨rfl, rfl, tx, left, hscripted, hsurcharge, rfl, run_policies_moved rfl rfl hrun⟩

end Draft

end TxDraft
