import TxDraft.Proofs.Draft.Entry
import TxDraft.Proofs.Traversal

/-!
# Drafts replayed

Where a step succeeds, the draft that it leaves is the draft before it with the entries of the step
put in, one after the other (`stages_apply`).  So a whole sequence that succeeds leaves the replay
of all its entries (`replays_applyActions`), and every question about what it staged is one about a
fold.
-/

namespace TxDraft.Draft

open Ledger

variable {chain : Chain} {d between left : Draft} {es fs : List Entry}

/-! ### Outputs that are named -/

theorem outcomeIn_sourceOutputs (h : Asked chain d) :
    ∃ left, (sourceOutputs chain).outcomeIn d = (.ok (chain.atSource 0), left) ∧
      Replays chain d [] left := by
  rw [sourceOutputs, Work.outcomeIn_get_bind]
  -- either the chain is asked now, for the first time, or its first answer is there
  rcases h with ⟨hnone, hzero⟩ | hsome
  · rw [hnone, hzero]
    exact ⟨_, rfl, rfl, Or.inr rfl⟩
  · rw [hsome]
    exact ⟨d, rfl, .of_asked (Or.inr hsome) []⟩

/-- Looking up comes to what is meant, and stages nothing. -/
theorem outcomeIn_lookUp (h : Asked chain d) (ref : OutputRef) :
    ∃ left, (lookUp chain ref).outcomeIn d = (meant chain ref, left) ∧ Replays chain d [] left := by
  unfold lookUp meant
  cases ref.record with
  | some record => exact ⟨d, rfl, .of_asked h []⟩
  | none =>
    obtain ⟨left, hask, hleft⟩ := outcomeIn_sourceOutputs h
    refine ⟨left, ?_, hleft⟩
    simp only [Work.outcomeIn_bind, hask]
    cases (chain.atSource 0).find? (isNamed ref.txHash ref.index) <;> rfl

theorem lookUp_eq_ok {ref : OutputRef} {u : Unspent} (h : Asked chain d)
    (hrun : (lookUp chain ref).outcomeIn d = (.ok u, left)) :
    meant chain ref = .ok u ∧ Replays chain d [] left := by
  obtain ⟨between, hlookUp, hbetween⟩ := outcomeIn_lookUp h ref
  obtain ⟨hmeant, rfl⟩ := Prod.mk.inj (hlookUp.symm.trans hrun)
  exact ⟨hmeant, hbetween⟩

/-! ### What a step stages -/

theorem scriptFor_eq_ok_iff {action : String} {script : PlutusScript} :
    (scriptFor action).outcomeIn d = (.ok script, left) ↔
      d.plutusScript = some script ∧ d = left := by
  rw [scriptFor, Work.outcomeIn_get_bind]
  cases d.plutusScript with
  | none => exact iff_of_false nofun (fun h => nomatch h.1)
  | some attached =>
    constructor
    · rintro ⟨⟩
      exact ⟨rfl, rfl⟩
    · rintro ⟨⟨⟩, rfl⟩
      rfl

theorem redeem_eq_ok {u : Unspent} {redeemer : String}
    (hrun : (redeem u redeemer).outcomeIn d = (.ok (), left)) :
    ∃ data, redeemerBytes redeemer = .ok data ∧ d.put (.spend u (some data)) = left := by
  unfold redeem at hrun
  obtain ⟨script, found, hscript, hrun⟩ := Work.outcomeIn_bind_eq_ok_iff.mp hrun
  obtain ⟨hplutus, rfl⟩ := scriptFor_eq_ok_iff.mp hscript
  obtain ⟨data, hdata, hrun⟩ := Work.outcomeIn_ofAttempt_bind_eq_ok_iff.mp hrun
  obtain ⟨hash, -, hrun⟩ := Work.outcomeIn_ofAttempt_bind_eq_ok_iff.mp hrun
  obtain ⟨_, kept, hkeep, hrun⟩ := Work.outcomeIn_bind_eq_ok_iff.mp hrun
  cases hkeep
  refine ⟨data, hdata, ?_⟩
  by_cases hsame : script.hash = hash
  · rw [if_neg (not_not_intro hsame)] at hrun
    cases hrun
    simp only [put, hplutus]
    rfl
  · rw [if_pos hsame] at hrun
    cases hrun

/-- A run from one draft to another stages what it is said to stage. -/
def Stages (chain : Chain) (d : Draft) (said : Attempt (List Entry)) (left : Draft) : Prop :=
  ∃ es, said = .ok es ∧ Replays chain d es left

/-- A step that reads its arguments and then stages one thing. -/
theorem stages_read {α : Type} {a : Attempt α} {e : α → Entry} (h : Asked chain d)
    (hrun : (Work.ofAttempt a >>= fun x => Work.change fun d => d.put (e x)).outcomeIn d =
      (.ok (), left)) :
    Stages chain d (do return [e (← a)]) left := by
  obtain ⟨x, rfl, hchange⟩ := Work.outcomeIn_ofAttempt_bind_eq_ok_iff.mp hrun
  cases hchange
  exact ⟨[e x], rfl, .of_asked h [e x]⟩

theorem stages_payMany {outputs : List PaymentOutput} (h : Asked chain d)
    (hrun : (payMany chain outputs).outcomeIn d = (.ok (), left)) :
    Stages chain d (payEntries chain outputs) left := by
  induction outputs generalizing d with
  | nil =>
    cases hrun
    exact ⟨[], rfl, .of_asked h []⟩
  | cons out rest ih =>
    obtain ⟨_, between, hpay, hrest⟩ := Work.outcomeIn_bind_eq_ok_iff.mp hrun
    obtain ⟨o, ho, hchange⟩ := Work.outcomeIn_ofAttempt_bind_eq_ok_iff.mp hpay
    cases hchange
    have hone : Replays chain d [.output o] (d.withOutput o) := .of_asked h [.output o]
    obtain ⟨es, hes, hreplays⟩ := ih hone.asked hrest
    refine ⟨.output o :: es, ?_, hone.append hreplays⟩
    unfold payEntries at hes ⊢
    rw [List.mapM_cons, ho, hes]
    rfl

theorem stages_mintOf {sign : Int} {action policy : String} {assets : Entries String Int}
    {redeemer : Option String} (h : Asked chain d)
    (hrun : (mintOf sign action policy assets redeemer).outcomeIn d = (.ok (), left)) :
    Stages chain d (mintEntries sign policy assets redeemer) left := by
  unfold mintOf at hrun
  obtain ⟨delta, hdelta, hrun⟩ := Work.outcomeIn_ofAttempt_bind_eq_ok_iff.mp hrun
  obtain ⟨_, between, hchange, hrun⟩ := Work.outcomeIn_bind_eq_ok_iff.mp hrun
  cases hchange
  unfold mintEntries redeemerOf
  rw [hdelta]
  cases hgiven : given redeemer with
  | none =>
    rw [hgiven] at hrun
    cases hrun
    exact ⟨[.mint delta], rfl, .of_asked h _⟩
  | some r =>
    rw [hgiven] at hrun
    obtain ⟨script, found, hscript, hrun⟩ := Work.outcomeIn_bind_eq_ok_iff.mp hrun
    obtain ⟨hplutus, rfl⟩ := scriptFor_eq_ok_iff.mp hscript
    obtain ⟨data, hdata, hchange⟩ := Work.outcomeIn_ofAttempt_bind_eq_ok_iff.mp hrun
    cases hchange
    refine ⟨[.mint delta, .mintRedeemer data], ?_, ?_⟩
    · show (Except.map some (redeemerBytes r) >>= _) = _
      rw [hdata]
      rfl
    · have hput : (d.put (.mint delta)).put (.mintRedeemer data) =
          { d.put (.mint delta) with mintRedeemers := d.mintRedeemers ++ [(script, data)] } := by
        simp only [put] at hplutus ⊢
        rw [hplutus]
      show Replays chain d _ { d.put (.mint delta) with
        mintRedeemers := d.mintRedeemers ++ [(script, data)] }
      rw [← hput]
      exact .of_asked h _

theorem stages_spend {ref : OutputRef} {redeemer : Option String} (h : Asked chain d)
    (hrun : (spend chain ref redeemer).outcomeIn d = (.ok (), left)) :
    Stages chain d (spendEntries chain ref redeemer) left := by
  unfold spend at hrun
  obtain ⟨u, between, hlookUp, hrun⟩ := Work.outcomeIn_bind_eq_ok_iff.mp hrun
  obtain ⟨hmeant, hbetween⟩ := lookUp_eq_ok h hlookUp
  unfold spendEntries redeemerOf
  rw [hmeant]
  cases hgiven : given redeemer with
  | none =>
    rw [hgiven] at hrun
    cases hrun
    exact ⟨[.spend u none], rfl, hbetween.append (.of_asked hbetween.asked [.spend u none])⟩
  | some r =>
    rw [hgiven] at hrun
    obtain ⟨data, hdata, hput⟩ := redeem_eq_ok hrun
    refine ⟨[.spend u (some data)], ?_, ?_⟩
    · show (Except.map some (redeemerBytes r) >>= _) = _
      rw [hdata]
      rfl
    · rw [← hput]
      exact hbetween.append (.of_asked hbetween.asked [.spend u (some data)])

theorem stages_addCollateral {ref : OutputRef} (h : Asked chain d)
    (hrun : (addCollateral chain ref).outcomeIn d = (.ok (), left)) :
    Stages chain d (entriesOf chain (.addCollateral ref)) left := by
  obtain ⟨u, between, hlookUp, hchange⟩ := Work.outcomeIn_bind_eq_ok_iff.mp hrun
  obtain ⟨hmeant, hbetween⟩ := lookUp_eq_ok h hlookUp
  cases hchange
  refine ⟨[.collateral u], ?_, hbetween.append (.of_asked hbetween.asked [.collateral u])⟩
  rw [entriesOf, hmeant]
  rfl

theorem stages_addSigner {keyHash : String} (h : Asked chain d)
    (hrun : (addSigner keyHash).outcomeIn d = (.ok (), left)) :
    Stages chain d (entriesOf chain (.addRequiredSigner keyHash)) left := by
  obtain ⟨bytes, hbytes, hrun⟩ := Work.outcomeIn_ofAttempt_bind_eq_ok_iff.mp hrun
  rw [entriesOf, hbytes]
  exact stages_read h hrun

theorem stages_attach {script : String} {kind : ScriptKind} (h : Asked chain d)
    (hrun : (attach script kind).outcomeIn d = (.ok (), left)) :
    Stages chain d (attachEntries script kind) left := by
  obtain ⟨bytes, hbytes, hrun⟩ := Work.outcomeIn_ofAttempt_bind_eq_ok_iff.mp hrun
  unfold attachEntries
  rw [hbytes]
  cases hversion : PlutusVersion.ofKind? kind with
  | some version =>
    rw [hversion] at hrun
    cases hrun
    exact ⟨[.plutus ⟨version, bytes⟩], rfl, .of_asked h _⟩
  | none =>
    rw [hversion] at hrun
    exact stages_read h hrun

/-- A policy is staged unless it asks for a multiplier, and then the buffer is the one it gives. -/
theorem setPolicy_eq_ok_iff {strategy : FeeStrategy} {multiplier : Option Binary64}
    {feeBuffer : Option Int} :
    (setPolicy strategy multiplier feeBuffer).outcomeIn d = (.ok (), left) ↔
      multiplier.any (!·.isOne) = false ∧
        d.put (.buffer (match strategy with | .buffer => feeBuffer | .default => none)) = left := by
  unfold setPolicy
  cases multiplier.any (!·.isOne) with
  | true => exact iff_of_false nofun fun h => nomatch h.1
  | false =>
    constructor
    · rintro ⟨⟩
      exact ⟨rfl, rfl⟩
    · rintro ⟨-, rfl⟩
      rfl

theorem stages_setPolicy {strategy : FeeStrategy} {multiplier : Option Binary64}
    {feeBuffer : Option Int} (h : Asked chain d)
    (hrun : (setPolicy strategy multiplier feeBuffer).outcomeIn d = (.ok (), left)) :
    Stages chain d (entriesOf chain (.setFeePolicy strategy multiplier feeBuffer)) left := by
  obtain ⟨-, rfl⟩ := setPolicy_eq_ok_iff.mp hrun
  exact ⟨_, rfl, .of_asked h [.buffer _]⟩

/-- A step that succeeds stages its entries. -/
theorem stages_apply {step : Step} (h : Asked chain d)
    (hrun : (apply chain step).outcomeIn d = (.ok (), left)) :
    Stages chain d (entriesOf chain step) left := by
  cases step with
  | payLovelace toAddress lovelace => exact stages_read h hrun
  | payAssets toAddress assets lovelace => exact stages_read h hrun
  | payMany outputs => exact stages_payMany h hrun
  | addMetadata label content =>
    cases hrun
    exact ⟨[.metadatum label content], rfl, .of_asked h _⟩
  | validFrom slot =>
    cases hrun
    exact ⟨[.validFrom slot], rfl, .of_asked h _⟩
  | validTo slot =>
    cases hrun
    exact ⟨[.validTo slot], rfl, .of_asked h _⟩
  | addRequiredSigner keyHash => exact stages_addSigner h hrun
  | setChangeAddress address => exact stages_read h hrun
  | addCollateral ref => exact stages_addCollateral h hrun
  | addReferenceInput ref => exact stages_read h hrun
  | spendUtxo ref redeemer => exact stages_spend h hrun
  | mintAssets policy assets redeemer => exact stages_mintOf h hrun
  | burnAssets policy assets redeemer => exact stages_mintOf h hrun
  | attachScript script kind => exact stages_attach h hrun
  | registerStake address => exact stages_read h hrun
  | deregisterStake address => exact stages_read h hrun
  | withdrawRewards address amount =>
    cases amount with
    | none => cases hrun
    | some amount => exact stages_read h hrun
  | setFeePolicy strategy multiplier feeBuffer => exact stages_setPolicy h hrun

/-! ### What a sequence stages -/

/-- A draft has every operation under the capability's own name, and a look changes nothing. -/
theorem outcomeIn_resolve_builder (capability : Capability) (place : Place) :
    (builder.resolve (some chain) capability.name place).outcomeIn d =
      (.ok (chain, capability.name), d) := by
  have hexposes : builder.exposes chain capability.name = pure true := by
    show (pure (Capability.ofName? capability.name).isSome : Work Draft Bool) = _
    rw [Capability.ofName?_name]
    rfl
  rw [Builder.resolve, Builder.find?, Capability.candidatesFor_name, Capability.candidates,
    Builder.firstExposed, hexposes]
  rfl

theorem call_step (name : String) (step : Step) (d : Draft) :
    (builder.call chain name (.step step)).run d =
      match (apply chain step).outcomeIn d with
      | (.ok _, left) => (.nothing, left)
      | (.error f, left) => (.failed f, left) := by
  have hstep : (outcome chain (.step step)).run.run d =
      match (apply chain step).outcomeIn d with
      | (.ok _, left) => (.ok .nothing, left)
      | (.error f, left) => (.error f, left) := by
    show (apply chain step >>= fun _ => pure Outcome.nothing).outcomeIn d = _
    rw [Work.outcomeIn_bind]
    rcases (apply chain step).outcomeIn d with ⟨_ | _, left⟩ <;> rfl
  show StateT.run ((outcome chain (.step step)).run >>= _) d = _
  rw [StateT.run_bind, hstep]
  rcases (apply chain step).outcomeIn d with ⟨_ | _, left⟩ <;> rfl

/-- What applying a step does is what the draft does with it; a failure is attributed to the action.
-/
theorem outcomeIn_applyStep {index : Int} {tag : String} {step : Step} :
    (Compile.applyStep builder index tag (some chain) step).outcomeIn d =
      match (apply chain step).outcomeIn d with
      | (.ok _, left) => (.ok (some chain, step.capability.name), left)
      | (.error f, left) => (.error (Compile.locate index tag f), left) := by
  rw [Compile.outcomeIn_applyStep, outcomeIn_resolve_builder]
  simp only [call_step]
  rcases (apply chain step).outcomeIn d with ⟨_ | _, left⟩ <;> rfl

/-- A step is applied if the draft stages it; the draft goes on, and the operation goes by the name
of its capability. -/
theorem outcomeIn_applyStep_eq_ok_iff {index : Int} {tag : String} {step : Step}
    {went : Option Chain × String} :
    (Compile.applyStep builder index tag (some chain) step).outcomeIn d = (.ok went, left) ↔
      went = (some chain, step.capability.name) ∧
        (apply chain step).outcomeIn d = (.ok (), left) := by
  rw [outcomeIn_applyStep]
  rcases (apply chain step).outcomeIn d with ⟨_ | _, between⟩
  · simp
  · simp [eq_comm]

/-- So it is with steps in order. -/
theorem outcomeIn_applyPlaced_eq_ok_iff {steps : List Compile.PlacedStep}
    {went : Option Chain × List String} :
    (Compile.applyPlaced builder (some chain) steps).outcomeIn d = (.ok went, left) ↔
      went = (some chain, steps.map fun placed => placed.step.capability.name) ∧
        ((steps.map Compile.PlacedStep.step).forM (apply chain)).outcomeIn d = (.ok (), left) := by
  induction steps generalizing d went with
  | nil =>
    show (Except.ok (some chain, []), d) = _ ↔ _ ∧ (Except.ok (), d) = _
    simp [eq_comm]
  | cons placed rest ih =>
    rw [Compile.applyPlaced, Work.outcomeIn_bind_eq_ok_iff, List.map_cons, List.map_cons,
      Work.forM_cons_eq_ok_iff]
    constructor
    · rintro ⟨⟨current, name⟩, between, hstep, hrun⟩
      obtain ⟨⟨⟩, happly⟩ := outcomeIn_applyStep_eq_ok_iff.mp hstep
      obtain ⟨⟨current, names⟩, between', hplaced, hpure⟩ := Work.outcomeIn_bind_eq_ok_iff.mp hrun
      cases hpure
      obtain ⟨⟨⟩, hrest⟩ := ih.mp hplaced
      exact ⟨rfl, between, happly, hrest⟩
    · rintro ⟨rfl, between, happly, hrest⟩
      refine ⟨_, between, outcomeIn_applyStep_eq_ok_iff.mpr ⟨rfl, happly⟩, ?_⟩
      exact Work.outcomeIn_bind_eq_ok_iff.mpr ⟨_, left, ih.mpr ⟨rfl, hrest⟩, rfl⟩

/-- Applied or not, steps leave the draft that staging them leaves. -/
theorem left_applyPlaced {steps : List Compile.PlacedStep} :
    ((Compile.applyPlaced builder (some chain) steps).outcomeIn d).2 =
      (((steps.map Compile.PlacedStep.step).forM (apply chain)).outcomeIn d).2 := by
  induction steps generalizing d with
  | nil => rfl
  | cons placed rest ih =>
    rw [Compile.applyPlaced, Work.outcomeIn_bind, outcomeIn_applyStep, List.map_cons]
    show _ = (Work.outcomeIn (apply chain placed.step >>= fun _ => _) d).2
    rw [Work.outcomeIn_bind]
    rcases (apply chain placed.step).outcomeIn d with ⟨_ | _, between⟩
    · rfl
    · show (Work.outcomeIn (_ >>= _) between).2 = (Work.outcomeIn _ between).2
      rw [← ih, Work.outcomeIn_bind]
      rcases (Compile.applyPlaced builder (some chain) rest).outcomeIn between with
        ⟨_ | _, left⟩ <;> rfl

/-- Actions are applied if the draft stages all their steps. -/
theorem outcomeIn_applyActions_eq_ok_iff {actions : List Action} {index : Int}
    {went : Option Chain × List String} :
    (Compile.applyActions builder index (some chain) actions).outcomeIn d = (.ok went, left) ↔
      went = (some chain, (actions.flatMap Action.steps).map fun step => step.capability.name) ∧
        ((actions.flatMap Action.steps).forM (apply chain)).outcomeIn d = (.ok (), left) := by
  rw [Compile.applyActions_eq_applyPlaced, outcomeIn_applyPlaced_eq_ok_iff,
    ← Compile.map_step_placedSteps actions index, List.map_map]
  rfl

/-- The names under which the steps of actions are applied to a draft. -/
def operationNames (actions : List Action) : List String :=
  (actions.flatMap Action.steps).map fun step => step.capability.name

/-- Actions compile if the draft stages all their steps and can then be completed. -/
theorem outcomeIn_run_eq_ok_iff {actions : List Action} {tx : UnsignedTransaction} :
    (Compile.run builder chain actions).outcomeIn d = (.ok tx, left) ↔
      actions ≠ [] ∧ tx.operations = operationNames actions ∧
        ∃ between, ((actions.flatMap Action.steps).forM (apply chain)).outcomeIn d =
            (.ok (), between) ∧
          (Compile.finish builder (some chain)).outcomeIn between = (.ok tx.content, left) := by
  cases actions with
  | nil => exact iff_of_false nofun fun h => h.1 rfl
  | cons action rest =>
    rw [Compile.run, List.isEmpty_cons, if_neg Bool.false_ne_true]
    constructor
    · intro hrun
      obtain ⟨⟨current, names⟩, between, happly, hrun⟩ := Work.outcomeIn_bind_eq_ok_iff.mp hrun
      obtain ⟨⟨⟩, hsteps⟩ := outcomeIn_applyActions_eq_ok_iff.mp happly
      obtain ⟨content, between', hfinish, hpure⟩ := Work.outcomeIn_bind_eq_ok_iff.mp hrun
      cases hpure
      exact ⟨List.cons_ne_nil _ _, rfl, between, hsteps, hfinish⟩
    · rintro ⟨-, hnames, between, hsteps, hfinish⟩
      obtain ⟨content, names⟩ := tx
      obtain rfl : names = operationNames (action :: rest) := hnames
      refine Work.outcomeIn_bind_eq_ok_iff.mpr
        ⟨_, between, outcomeIn_applyActions_eq_ok_iff.mpr ⟨rfl, hsteps⟩, ?_⟩
      exact Work.outcomeIn_bind_eq_ok_iff.mpr ⟨content, left, hfinish, rfl⟩

theorem stages_forM {steps : List Step} (h : Asked chain d)
    (hrun : (steps.forM (apply chain)).outcomeIn d = (.ok (), left)) :
    Stages chain d (allEntries chain steps) left := by
  induction steps generalizing d with
  | nil =>
    cases hrun
    exact ⟨[], rfl, .of_asked h []⟩
  | cons step rest ih =>
    obtain ⟨between, hfirst, hrest⟩ := Work.forM_cons_eq_ok_iff.mp hrun
    obtain ⟨es, hes, hreplays⟩ := stages_apply h hfirst
    obtain ⟨fs, hfs, hreplays'⟩ := ih hreplays.asked hrest
    obtain ⟨given, hgiven, rfl⟩ := Traversal.map_eq_ok_iff.mp hfs
    refine ⟨es ++ given.flatten, ?_, hreplays.append hreplays'⟩
    unfold allEntries
    rw [List.mapM_cons, hes, hgiven]
    rfl

/-- Actions that are all applied leave the replay of their entries. -/
theorem replays_applyActions {source : Address} {actions : List Action} {index : Int}
    {went : Option Chain × List String}
    (hrun : (Compile.applyActions builder index (some chain) actions).outcomeIn (empty source) =
      (.ok went, left)) :
    ∃ es, allEntries chain (actions.flatMap Action.steps) = .ok es ∧
      left.unasked = (empty source).replay es := by
  have hasked : Asked chain (empty source) := Or.inl ⟨rfl, rfl⟩
  obtain ⟨es, hes, hreplays⟩ := stages_forM hasked (outcomeIn_applyActions_eq_ok_iff.mp hrun).2
  refine ⟨es, hes, ?_⟩
  rw [hreplays.staged, unasked_replay]
  rfl

end TxDraft.Draft
