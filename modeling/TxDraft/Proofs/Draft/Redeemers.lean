import TxDraft.Proofs.Action.Promises
import TxDraft.Proofs.Compile.Order
import TxDraft.Proofs.Draft.Mint

/-!
# Which script a redeemer is registered with

A Plutus script is kept until another one is attached, so a redeemer that is applied is registered
with the last Plutus script before it, whatever comes between them and behind
(`registers_of_applied`).  Without one the redeemer is refused: the compilation fails at its action,
if it gets as far, and is never completed (`run_of_unattached`).  Both follow from what one step
does with the script that is there (`registers_apply`, `refused_apply`).
-/

namespace TxDraft

open Ledger

namespace Ledger

/-- The Plutus script with this text, unless the script is a native one. -/
def PlutusScript.ofText? (script : String) (kind : ScriptKind) : Option PlutusScript :=
  (PlutusVersion.ofKind? kind).map fun version => ⟨version, (Hex.decode? script).getD []⟩

end Ledger

/-- The Plutus script that a step attaches. -/
def Step.plutus? : Step → Option PlutusScript
  | attachScript script kind => PlutusScript.ofText? script kind
  | _ => none

namespace Action

/-- The Plutus script that an action attaches. -/
def plutus? : Action → Option PlutusScript
  | attachScript script kind => PlutusScript.ofText? script kind
  | _ => none

/-- The Plutus script that was attached last. -/
def lastPlutus? (earlier : List Action) : Option PlutusScript :=
  (earlier.filterMap plutus?).getLast?

theorem filterMap_plutus?_steps (actions : List Action) :
    (actions.flatMap Action.steps).filterMap Step.plutus? = actions.filterMap plutus? := by
  induction actions with
  | nil => rfl
  | cons action rest ih =>
    have hsteps : action.steps.filterMap Step.plutus? = action.plutus?.toList := by
      cases action with
      | validity first last => cases first <;> cases last <;> rfl
      | attachScript script kind =>
        show [Step.attachScript script kind].filterMap Step.plutus? = _
        rw [List.filterMap_cons, List.filterMap_nil, Step.plutus?, plutus?]
        cases PlutusScript.ofText? script kind <;> rfl
      | _ => rfl
    rw [List.flatMap_cons, List.filterMap_append, hsteps, ih, List.filterMap_cons]
    cases action.plutus? <;> rfl

end Action

namespace Draft

variable {chain : Chain} {source : Address} {d left : Draft} {es : List Entry}
  {script : PlutusScript}

/-! ### The script that is there -/

def Entry.plutus? : Entry → Option PlutusScript
  | plutus script => some script
  | _ => none

theorem plutus?_of_plain {e : Entry} (h : e.Plain) : e.plutus? = none := by
  cases e with
  | plutus => cases h
  | _ => rfl

theorem plutus?_mintEntries {sign : Int} {policy : String} {assets : Entries String Int}
    {redeemer : Option String} (h : mintEntries sign policy assets redeemer = .ok es) :
    es.filterMap Entry.plutus? = [] := by
  obtain ⟨delta, data, -, -, rfl⟩ := eq_of_mintEntries h
  cases data <;> rfl

/-- The entries of a step attach the script that the step attaches, and no other. -/
theorem plutus?_entriesOf {step : Step} (h : entriesOf chain step = .ok es) :
    es.filterMap Entry.plutus? = step.plutus?.toList := by
  cases step with
  | attachScript script kind =>
    obtain ⟨bytes, hbytes, hes⟩ := eq_of_attachEntries h
    rw [Step.plutus?, PlutusScript.ofText?, hbytes]
    cases hversion : PlutusVersion.ofKind? kind with
    | some version =>
      rw [hversion] at hes
      rw [hes]
      rfl
    | none =>
      rw [hversion] at hes
      obtain ⟨native, rfl⟩ := hes
      rfl
  | spendUtxo ref redeemer =>
    obtain ⟨u, data, -, -, rfl⟩ := eq_of_spendEntries h
    rfl
  | mintAssets policy assets redeemer => exact plutus?_mintEntries h
  | burnAssets policy assets redeemer => exact plutus?_mintEntries h
  | _ =>
    exact List.filterMap_eq_nil_iff.mpr fun e he =>
      plutus?_of_plain (plain_of_entriesOf h trivial e he)

theorem plutus?_allEntries {steps : List Step} (h : allEntries chain steps = .ok es) :
    es.filterMap Entry.plutus? = steps.filterMap Step.plutus? := by
  obtain ⟨given, hgiven, rfl⟩ := Traversal.map_eq_ok_iff.mp h
  clear h
  induction steps generalizing given with
  | nil =>
    cases hgiven
    rfl
  | cons step rest ih =>
    rw [List.mapM_cons] at hgiven
    obtain ⟨first, hfirst, hgiven⟩ := Traversal.bind_eq_ok_iff.mp hgiven
    obtain ⟨others, hothers, hpure⟩ := Traversal.bind_eq_ok_iff.mp hgiven
    cases hpure
    rw [List.flatten_cons, List.filterMap_append, plutus?_entriesOf hfirst, ih others hothers,
      List.filterMap_cons]
    cases step.plutus? <;> rfl

/-- After actions that were applied the script that was attached last is there. -/
theorem plutusScript_of_applied {actions : List Action} {index : Int}
    {went : Option Chain × List String}
    (hrun : (Compile.applyActions builder index (some chain) actions).outcomeIn (empty source) =
      (.ok went, d)) : d.plutusScript = Action.lastPlutus? actions := by
  obtain ⟨es, hes, hstaged⟩ := replays_applyActions hrun
  have hkept : d.unasked.plutusScript = ((empty source).replay es).plutusScript :=
    congrArg plutusScript hstaged
  show d.unasked.plutusScript = _
  rw [hkept, some_replay plutusScript Entry.plutus? (by rintro d ⟨⟩ <;> rfl) rfl,
    plutus?_allEntries hes, Action.filterMap_plutus?_steps]
  rfl

/-! ### What is registered -/

/-- The redeemers of a draft and the scripts that they are registered with. -/
structure Bindings where
  spendScripts : Entries Unspent PlutusScript
  spendRedeemers : Entries Unspent Bytes
  mintRedeemers : List (PlutusScript × Bytes)

/-- One more output to be spent by a script. -/
def Bindings.spend (b : Bindings) (u : Unspent) (script : PlutusScript) (data : Bytes) : Bindings :=
  { b with
    spendScripts := Entries.put u script b.spendScripts
    spendRedeemers := Entries.put u data b.spendRedeemers }

/-- One more minting by a script. -/
def Bindings.mint (b : Bindings) (script : PlutusScript) (data : Bytes) : Bindings :=
  { b with mintRedeemers := b.mintRedeemers ++ [(script, data)] }

def bindings (d : Draft) : Bindings :=
  ⟨d.spendScripts, d.spendRedeemers, d.mintRedeemers⟩

/-- What an action registers if this script was attached last: its redeemer with that script, and
nothing if it has none. -/
inductive Registers (chain : Chain) (attached : Option PlutusScript) (b : Bindings) :
    Action → Bindings → Prop
  | spend {ref : OutputRef} {redeemer : String} {u : Unspent} {script : PlutusScript}
      {data : Bytes} (last : attached = some script) (meant : meant chain ref = .ok u)
      (read : redeemerBytes redeemer = .ok data) :
      Registers chain attached b (.spendUtxo ref (some redeemer)) (b.spend u script data)
  | mint {policy redeemer : String} {assets : Entries String Int} {script : PlutusScript}
      {data : Bytes} (last : attached = some script) (read : redeemerBytes redeemer = .ok data) :
      Registers chain attached b (.mint policy assets (some redeemer)) (b.mint script data)
  | burn {policy redeemer : String} {assets : Entries String Int} {script : PlutusScript}
      {data : Bytes} (last : attached = some script) (read : redeemerBytes redeemer = .ok data) :
      Registers chain attached b (.burn policy assets (some redeemer)) (b.mint script data)
  | nothing {action : Action} (without : action.redeemer? = none) :
      Registers chain attached b action b

theorem bindings_put_of_plain {e : Entry} (h : e.Plain) : (d.put e).bindings = d.bindings := by
  cases e with
  | spend | mint | mintRedeemer => cases h
  | _ => rfl

theorem bindings_replay_of_plain (h : ∀ e ∈ es, e.Plain) : (d.replay es).bindings = d.bindings := by
  induction es generalizing d with
  | nil => rfl
  | cons e rest ih =>
    obtain ⟨he, hrest⟩ := List.forall_mem_cons.mp h
    exact (ih hrest).trans (bindings_put_of_plain he)

/-! ### A redeemer without a script -/

theorem given_of_ne_empty {r : String} (h : r ≠ "") : given (some r) = some r := by
  simp [given, h]

theorem scriptFor_of_unattached (hnone : d.plutusScript = none) (action : String) :
    (scriptFor action).outcomeIn d = (.error (complaint (.scriptMissing action)), d) := by
  rw [scriptFor, Work.outcomeIn_get_bind, hnone]
  rfl

theorem spend_of_unattached (h : Asked chain d) (hnone : d.plutusScript = none) {r : String}
    (hr : r ≠ "") (ref : OutputRef) :
    ∃ f left, (spend chain ref (some r)).outcomeIn d = (.error f, left) ∧
      (f = complaint (.scriptMissing "spendUtxo") ∨ meant chain ref = .error f) := by
  obtain ⟨between, hlookUp, hbetween⟩ := outcomeIn_lookUp h ref
  rw [spend, Work.outcomeIn_bind, given_of_ne_empty hr, hlookUp]
  cases hmeant : meant chain ref with
  | error f => exact ⟨f, between, rfl, .inr rfl⟩
  | ok u =>
    -- looking up left the script as it was
    have hkept : between.unasked.plutusScript = d.unasked.plutusScript :=
      congrArg plutusScript hbetween.staged
    have hscript := scriptFor_of_unattached (d := between) (hkept.trans hnone) "spendUtxo"
    refine ⟨_, between, ?_, .inl rfl⟩
    show (redeem u r).outcomeIn between = _
    rw [redeem, Work.outcomeIn_bind, hscript]

theorem mintOf_of_unattached (hnone : d.plutusScript = none) {r : String} (hr : r ≠ "")
    {sign : Int} {policy : String} {assets : Entries String Int}
    (hassets : (∀ name ∈ Entries.keys assets, Token.Minted ⟨policy, name⟩) ∧
      (Entries.keys assets).Nodup) (action : String) :
    ∃ left, (mintOf sign action policy assets (some r)).outcomeIn d =
      (.error (complaint (.scriptMissing action)), left) := by
  obtain ⟨delta, hdelta, -, -⟩ := Assets.ofUnits?_of_minted sign hassets.1 hassets.2
  have hscript := scriptFor_of_unattached (d := d.put (.mint delta)) hnone action
  refine ⟨d.put (.mint delta), ?_⟩
  rw [mintOf, hdelta, given_of_ne_empty hr, Work.outcomeIn_bind]
  show Work.outcomeIn (scriptFor action >>= _) (d.put (.mint delta)) = _
  rw [Work.outcomeIn_bind, hscript]

/-- A redeemer without a script is refused, unless the output that it is for cannot be looked up. -/
theorem refused_apply {action : Action} (h : Asked chain d) (hnone : d.plutusScript = none)
    (hsound : ∀ step ∈ action.steps, step.Sound) (hsome : action.redeemer? ≠ none)
    (hne : action.redeemer? ≠ some "") :
    ∃ step f left, action.steps = [step] ∧ (apply chain step).outcomeIn d = (.error f, left) ∧
      (f = complaint (.scriptMissing action.tag) ∨
        ∃ ref redeemer, action = .spendUtxo ref redeemer ∧ meant chain ref = .error f) := by
  cases action with
  | spendUtxo ref redeemer =>
    obtain ⟨r, rfl⟩ := Option.ne_none_iff_exists'.mp hsome
    have hr : r ≠ "" := fun hempty => hne (congrArg some hempty)
    obtain ⟨f, left, hrun, hf⟩ := spend_of_unattached h hnone hr ref
    exact ⟨_, f, left, rfl, hrun, hf.imp_right fun hmeant => ⟨ref, some r, rfl, hmeant⟩⟩
  | mint policy assets redeemer | burn policy assets redeemer =>
    obtain ⟨r, rfl⟩ := Option.ne_none_iff_exists'.mp hsome
    have hr : r ≠ "" := fun hempty => hne (congrArg some hempty)
    have hassets := hsound _ List.mem_cons_self
    obtain ⟨left, hrun⟩ := mintOf_of_unattached hnone hr hassets _
    exact ⟨_, _, left, rfl, hrun, .inl rfl⟩
  | _ => exact absurd rfl hsome

/-! ### A redeemer with its script -/

theorem allEntries_singleton (chain : Chain) (step : Step) :
    allEntries chain [step] = entriesOf chain step := by
  rw [allEntries, List.mapM_cons, List.mapM_nil]
  cases entriesOf chain step with
  | error f => rfl
  | ok es =>
    show Except.ok [es].flatten = _
    simp

theorem redeemerOf_eq_ok {redeemer : Option String} {data : Option Bytes}
    (hne : redeemer ≠ some "") (h : redeemerOf redeemer = .ok data) :
    (redeemer = none ∧ data = none) ∨
      ∃ r bytes, redeemer = some r ∧ redeemerBytes r = .ok bytes ∧ data = some bytes := by
  cases redeemer with
  | none =>
    cases h
    exact .inl ⟨rfl, rfl⟩
  | some r =>
    rw [redeemerOf, given_of_ne_empty fun hempty => hne (congrArg some hempty)] at h
    obtain ⟨bytes, hbytes, rfl⟩ := Traversal.map_eq_ok_iff.mp h
    exact .inr ⟨r, bytes, rfl, hbytes, rfl⟩

theorem bindings_put_spend (hscript : d.plutusScript = some script) (u : Unspent) (data : Bytes) :
    (d.put (.spend u (some data))).bindings = d.bindings.spend u script data := by
  simp only [put, hscript]
  rfl

theorem bindings_replay_mint (hscript : d.plutusScript = some script) (delta : Assets)
    (data : Bytes) :
    (d.replay [.mint delta, .mintRedeemer data]).bindings = d.bindings.mint script data := by
  show ((d.put (.mint delta)).put (.mintRedeemer data)).bindings = _
  have hkept : (d.put (.mint delta)).plutusScript = some script := hscript
  simp only [put] at hkept ⊢
  rw [hkept]
  rfl

theorem plain_of_allEntries {steps : List Step} (h : allEntries chain steps = .ok es)
    (hplain : ∀ step ∈ steps, step.Plain) : ∀ e ∈ es, e.Plain := by
  obtain ⟨given, hgiven, rfl⟩ := Traversal.map_eq_ok_iff.mp h
  intro e he
  obtain ⟨own, hown, he⟩ := List.mem_flatten.mp he
  obtain ⟨step, hstep, hentries⟩ := Traversal.exists_of_mem_mapM hgiven own hown
  exact plain_of_entriesOf hentries (hplain step hstep) e he

theorem registers_mint {sign : Int} {policy : String} {assets : Entries String Int}
    {redeemer : Option String} (hne : redeemer ≠ some "")
    (hattached : redeemer ≠ none → ∃ script, d.plutusScript = some script)
    (h : mintEntries sign policy assets redeemer = .ok es) :
    (redeemer = none ∧ (d.replay es).bindings = d.bindings) ∨
      ∃ r script data, redeemer = some r ∧ d.plutusScript = some script ∧
        redeemerBytes r = .ok data ∧ (d.replay es).bindings = d.bindings.mint script data := by
  obtain ⟨delta, data, -, hdata, rfl⟩ := eq_of_mintEntries h
  rcases redeemerOf_eq_ok hne hdata with ⟨rfl, rfl⟩ | ⟨r, bytes, rfl, hread, rfl⟩
  · exact .inl ⟨rfl, rfl⟩
  · obtain ⟨script, hscript⟩ := hattached (Option.some_ne_none r)
    exact .inr ⟨r, script, bytes, rfl, hscript, hread, bindings_replay_mint hscript delta bytes⟩

/-- An action that is applied registers its redeemer with the script that is there. -/
theorem registers_apply {action : Action} (h : Asked chain d)
    (hsound : ∀ step ∈ action.steps, step.Sound) (hne : action.redeemer? ≠ some "")
    (hrun : (action.steps.forM (apply chain)).outcomeIn d = (.ok (), left)) :
    Registers chain d.plutusScript d.bindings action left.bindings := by
  obtain ⟨es, hes, hreplays⟩ := stages_forM h hrun
  have hleft : left.bindings = (d.replay es).bindings := by
    show left.unasked.bindings = (d.replay es).unasked.bindings
    rw [hreplays.staged]
  rw [hleft]
  have hattached : action.redeemer? ≠ none → ∃ script, d.plutusScript = some script := by
    intro hsome
    cases hscript : d.plutusScript with
    | some script => exact ⟨script, rfl⟩
    | none =>
      obtain ⟨step, f, between, hsteps, hfails, -⟩ := refused_apply h hscript hsound hsome hne
      rw [hsteps, Work.forM_singleton_eq_ok_iff, hfails] at hrun
      cases hrun
  cases action with
  | spendUtxo ref redeemer =>
    rw [Action.steps, allEntries_singleton] at hes
    obtain ⟨u, data, hmeant, hdata, rfl⟩ := eq_of_spendEntries hes
    rcases redeemerOf_eq_ok hne hdata with ⟨rfl, rfl⟩ | ⟨r, bytes, rfl, hread, rfl⟩
    · exact .nothing rfl
    · obtain ⟨script, hscript⟩ := hattached (Option.some_ne_none r)
      show Registers chain _ _ _ (d.put (.spend u (some bytes))).bindings
      rw [bindings_put_spend hscript, hscript]
      exact .spend rfl hmeant hread
  | mint policy assets redeemer | burn policy assets redeemer =>
    rw [Action.steps, allEntries_singleton] at hes
    rcases registers_mint hne hattached hes with
      ⟨rfl, hkept⟩ | ⟨r, script, data, rfl, hscript, hread, hput⟩
    · rw [hkept]
      exact .nothing rfl
    · rw [hput, hscript]
      first
        | exact .mint rfl hread
        | exact .burn rfl hread
  | attachScript script kind =>
    rw [Action.steps, allEntries_singleton] at hes
    obtain ⟨bytes, -, hes⟩ := eq_of_attachEntries hes
    split at hes
    · subst hes
      exact .nothing rfl
    · obtain ⟨native, rfl⟩ := hes
      exact .nothing rfl
  | validity first last =>
    have hplain : ∀ step ∈ (Action.validity first last).steps, step.Plain := by
      cases first <;> cases last <;> simp [Action.steps, Step.Plain]
    rw [bindings_replay_of_plain (plain_of_allEntries hes hplain)]
    exact .nothing rfl
  | _ =>
    rw [bindings_replay_of_plain (plain_of_allEntries hes (by simp [Action.steps, Step.Plain]))]
    exact .nothing rfl

/-! ### Whole sequences -/

/-- What a sequence registers, each of its actions after those before it. -/
inductive Registered (chain : Chain) : List Action → Bindings → Prop
  | empty : Registered chain [] ⟨[], [], []⟩
  | next {earlier : List Action} {action : Action} {b after : Bindings}
      (before : Registered chain earlier b)
      (registers : Registers chain (Action.lastPlutus? earlier) b action after) :
      Registered chain (earlier ++ [action]) after

theorem registers_of_applied {earlier : List Action} {action : Action} {index : Int}
    {went : Option Chain × List String} {between : Draft}
    (hsound : ∀ step ∈ action.steps, step.Sound) (hne : action.redeemer? ≠ some "")
    (hearlier : (Compile.applyActions builder index (some chain) earlier).outcomeIn
      (empty source) = (.ok went, between))
    (hrun : (action.steps.forM (apply chain)).outcomeIn between = (.ok (), left)) :
    Registers chain (Action.lastPlutus? earlier) between.bindings action left.bindings := by
  obtain ⟨-, hsteps⟩ := outcomeIn_applyActions_eq_ok_iff.mp hearlier
  obtain ⟨es, -, hreplays⟩ := stages_forM (.inl ⟨rfl, rfl⟩) hsteps
  rw [← plutusScript_of_applied hearlier]
  exact registers_apply hreplays.asked hsound hne hrun

/-- One more action is applied if its steps are staged behind those before it. -/
theorem applyActions_concat_eq_ok_iff {earlier : List Action} {action : Action} {index : Int} :
    (∃ went, (Compile.applyActions builder index (some chain) (earlier ++ [action])).outcomeIn d =
        (.ok went, left)) ↔
      ∃ went between, (Compile.applyActions builder index (some chain) earlier).outcomeIn d =
          (.ok went, between) ∧
        (action.steps.forM (apply chain)).outcomeIn between = (.ok (), left) := by
  simp only [outcomeIn_applyActions_eq_ok_iff, List.flatMap_append, List.flatMap_singleton,
    Work.forM_append_eq_ok_iff]
  constructor
  · rintro ⟨_, -, between, hearlier, haction⟩
    exact ⟨_, between, ⟨rfl, hearlier⟩, haction⟩
  · rintro ⟨_, between, ⟨-, hearlier⟩, haction⟩
    exact ⟨_, rfl, between, hearlier, haction⟩

/-- Actions that are all applied register what each does after those before it. -/
theorem registered_of_applied {actions : List Action} {index : Int}
    {went : Option Chain × List String}
    (hsound : ∀ action ∈ actions, ∀ step ∈ action.steps, step.Sound)
    (hne : ∀ action ∈ actions, action.redeemer? ≠ some "")
    (hrun : (Compile.applyActions builder index (some chain) actions).outcomeIn (empty source) =
      (.ok went, left)) : Registered chain actions left.bindings := by
  induction actions using List.reverseRecOn generalizing left went with
  | nil =>
    cases hrun
    exact .empty
  | append_singleton earlier action ih =>
    obtain ⟨went, between, hearlier, haction⟩ := applyActions_concat_eq_ok_iff.mp ⟨went, hrun⟩
    have hlast : action ∈ earlier ++ [action] := List.mem_append_right _ List.mem_cons_self
    have hfirst : ∀ a ∈ earlier, a ∈ earlier ++ [action] := fun _ => List.mem_append_left _
    exact .next
      (ih (fun a ha => hsound a (hfirst a ha)) (fun a ha => hne a (hfirst a ha)) hearlier)
      (registers_of_applied (hsound action hlast) (hne action hlast) hearlier haction)

/-- What goes wrong with a record gets the place of the action. -/
theorem locate_of_ofRecord {record : Json.Fields} {f : Failure} (h : ofRecord record = .error f)
    (index : Int) (tag : String) :
    ∃ cause, Compile.locate index tag f = .compilation cause ⟨some index, some tag⟩ := by
  rcases Traversal.bind_eq_error_iff.mp h with hread | ⟨u, -, h⟩
  · obtain ⟨fault, -, rfl⟩ := Traversal.mapError_eq_error_iff.mp hread
    exact ⟨_, rfl⟩
  · by_cases haddress : u.address = ""
    · rw [if_pos haddress] at h
      cases h
      exact ⟨_, rfl⟩
    · rw [if_neg haddress] at h
      cases hunspent : unspentOf? u with
      | some output =>
        rw [hunspent] at h
        cases h
      | none =>
        rw [hunspent] at h
        cases h
        exact ⟨_, rfl⟩

theorem locate_of_meant {ref : OutputRef} {f : Failure} (h : meant chain ref = .error f)
    (index : Int) (tag : String) :
    ∃ cause, Compile.locate index tag f = .compilation cause ⟨some index, some tag⟩ := by
  unfold meant at h
  split at h
  · exact locate_of_ofRecord h index tag
  · split at h
    · cases h
    · cases h
      exact ⟨_, rfl⟩

/-- A redeemer without a script before it ends the compilation at its action, unless it ends before,
and completion is never called. -/
theorem run_of_unattached {earlier later : List Action} {action : Action}
    (hsound : ∀ step ∈ action.steps, step.Sound) (hne : action.redeemer? ≠ some "")
    (hsome : action.redeemer? ≠ none) (hnone : Action.lastPlutus? earlier = none) :
    ∃ f left calls,
      (Compile.run builder.logged chain (earlier ++ action :: later)).outcomeIn
          (empty source, []) = (.error f, (left, calls)) ∧
        (∀ c ∈ calls, c.operation ≠ .complete) ∧
        match ((Compile.applyActions builder 0 (some chain) earlier).outcomeIn
            (empty source)).1 with
        | .error before => f = before
        | .ok _ => ∃ cause, f = .compilation cause ⟨some earlier.length, some action.tag⟩ ∧
          (cause = .scriptMissing action.tag ∨ ∃ ref redeemer why,
            action = .spendUtxo ref redeemer ∧ meant chain ref = .error why) := by
  have hloop := Compile.applyActions_append builder 0 (some chain) earlier (action :: later)
  rcases hearlier : (Compile.applyActions builder 0 (some chain) earlier).outcomeIn (empty source)
    with ⟨f | went, between⟩
  · have hfails : (Compile.applyActions builder 0 (some chain)
        (earlier ++ action :: later)).outcomeIn (empty source) = (.error f, between) := by
      rw [hloop, Work.outcomeIn_bind, hearlier]
    obtain ⟨calls, hrun, hcalls⟩ := Compile.run_logged_of_applyActions hfails
    exact ⟨f, between, calls, hrun, hcalls, rfl⟩
  · obtain ⟨rfl, hsteps⟩ := outcomeIn_applyActions_eq_ok_iff.mp hearlier
    obtain ⟨es, -, hreplays⟩ := stages_forM (.inl ⟨rfl, rfl⟩) hsteps
    have hscript : between.plutusScript = none := (plutusScript_of_applied hearlier).trans hnone
    obtain ⟨step, f, left, haction, hrefused, hcause⟩ :=
      refused_apply hreplays.asked hscript hsound hsome hne
    have hfails : (Compile.applyActions builder 0 (some chain)
        (earlier ++ action :: later)).outcomeIn (empty source) =
          (.error (Compile.locate earlier.length action.tag f), left) := by
      rw [hloop, Work.outcomeIn_bind, hearlier]
      simp only [Compile.applyActions, haction, Compile.applySteps, Work.outcomeIn_bind,
        outcomeIn_applyStep, hrefused, Int.zero_add]
    obtain ⟨calls, hrun, hcalls⟩ := Compile.run_logged_of_applyActions hfails
    refine ⟨_, left, calls, hrun, hcalls, ?_⟩
    rcases hcause with rfl | ⟨ref, redeemer, rfl, hmeant⟩
    · exact ⟨_, rfl, .inl rfl⟩
    · obtain ⟨cause, hcause⟩ := locate_of_meant hmeant earlier.length _
      exact ⟨cause, hcause, .inr ⟨ref, redeemer, f, rfl, hmeant⟩⟩

/-- In a validated sequence every action that is applied registers its redeemer with the Plutus
script that was attached last before it, and nothing without a redeemer; so a sequence that is all
applied leaves just that.  With a redeemer and no such script the compilation fails: as it does
before the action, or else at it. -/
theorem redeemers_registered {network : Option Network} {v : Json} {earlier later : List Action}
    {action : Action}
    (hvalid : Action.validateAll network v = .ok (earlier ++ action :: later))
    (chain : Chain) (source : Address) :
    (∀ went between went' after,
      (Compile.applyActions builder 0 (some chain) earlier).outcomeIn (empty source) =
          (.ok went, between) →
        (Compile.applyActions builder 0 (some chain) (earlier ++ [action])).outcomeIn
            (empty source) = (.ok went', after) →
          Registers chain (Action.lastPlutus? earlier) between.bindings action after.bindings) ∧
    (∀ went left,
      (Compile.applyActions builder 0 (some chain) (earlier ++ action :: later)).outcomeIn
          (empty source) = (.ok went, left) →
        Registered chain (earlier ++ action :: later) left.bindings) ∧
    (action.redeemer? ≠ none → Action.lastPlutus? earlier = none →
      ∃ f left calls,
        (Compile.run builder.logged chain (earlier ++ action :: later)).outcomeIn
            (empty source, []) = (.error f, (left, calls)) ∧
          (∀ c ∈ calls, c.operation ≠ .complete) ∧
          match ((Compile.applyActions builder 0 (some chain) earlier).outcomeIn
              (empty source)).1 with
          | .error before => f = before
          | .ok _ => ∃ cause, f = .compilation cause ⟨some earlier.length, some action.tag⟩ ∧
            (cause = .scriptMissing action.tag ∨ ∃ ref redeemer why,
              action = .spendUtxo ref redeemer ∧ meant chain ref = .error why)) := by
  have hmem : action ∈ earlier ++ action :: later := List.mem_append_right _ List.mem_cons_self
  have hsound : ∀ a ∈ earlier ++ action :: later, ∀ step ∈ a.steps, step.Sound := by
    intro a ha
    obtain ⟨item, hitem⟩ := Action.exists_validate_of_mem hvalid ha
    exact Action.sound_of_validate hitem
  have hne : ∀ a ∈ earlier ++ action :: later, a.redeemer? ≠ some "" :=
    fun a ha => Action.redeemer?_ne_empty_of_mem hvalid ha
  refine ⟨fun went between went' after hearlier hrun => ?_,
    fun went left hrun => registered_of_applied hsound hne hrun,
    run_of_unattached (hsound action hmem) (hne action hmem)⟩
  obtain ⟨_, between', hbefore, haction⟩ := applyActions_concat_eq_ok_iff.mp ⟨went', hrun⟩
  obtain rfl : between = between' := congrArg Prod.snd (hearlier.symm.trans hbefore)
  exact registers_of_applied (hsound action hmem) (hne action hmem) hearlier haction

/-! ### Scripts around a minting -/

def nativeAttached : Action :=
  .attachScript "820405" .native

def minting : Action :=
  .mint somePolicy [("00", 5)] (some "00")

/-- A Plutus script that comes too late for the minting. -/
def afterMinting : List Action :=
  [.attachScript "02" .plutusV3]

def attachAsked (script kind : String) : Json :=
  .obj [("type", .str "attachScript"), ("scriptCbor", .str script), ("kind", .str kind)]

def mintAsked : Json :=
  .obj [("type", .str "mint"), ("policyId", .str somePolicy), ("assets", .obj [("00", .int 5)]),
    ("redeemer", .str "00")]

/-- Another Plutus script comes first. -/
def attachedAsked : Json :=
  .arr [attachAsked "01" "plutusV1", attachAsked "820405" "native", mintAsked,
    attachAsked "02" "plutusV3"]

/-- No other Plutus script comes first. -/
def unattachedAsked : Json :=
  .arr [attachAsked "820405" "native", mintAsked, attachAsked "02" "plutusV3"]

set_option maxRecDepth 8000 in
theorem validateAll_attachedAsked :
    Action.validateAll none attachedAsked =
      .ok ([.attachScript "01" .plutusV1, nativeAttached] ++ minting :: afterMinting) :=
  Eq.refl _

set_option maxRecDepth 8000 in
theorem validateAll_unattachedAsked :
    Action.validateAll none unattachedAsked = .ok ([nativeAttached] ++ minting :: afterMinting) :=
  Eq.refl _

theorem isOk_attached :
    ((Compile.applyActions builder 0 (some heldChain)
      ([.attachScript "01" .plutusV1, nativeAttached] ++ [minting])).outcomeIn
        (empty keyed)).1.isOk = true := by
  decide +kernel

theorem redeemers_registered_minting :
    (∃ earlier between after,
      Action.validateAll none attachedAsked = .ok (earlier ++ minting :: afterMinting) ∧
        (∃ went, (Compile.applyActions builder 0 (some heldChain) earlier).outcomeIn
          (empty keyed) = (.ok went, between)) ∧
        (∃ went, (Compile.applyActions builder 0 (some heldChain) (earlier ++ [minting])).outcomeIn
          (empty keyed) = (.ok went, after)) ∧
        after.bindings = between.bindings.mint ⟨.v1, [1]⟩ [0]) ∧
    ∃ actions left calls,
      Action.validateAll none unattachedAsked = .ok actions ∧
        (Compile.run builder.logged heldChain actions).outcomeIn (empty keyed, []) =
          (.error (.compilation (.scriptMissing "mint") ⟨some 1, some "mint"⟩), (left, calls)) ∧
        ∀ c ∈ calls, c.operation ≠ .complete := by
  constructor
  · rcases hrun : (Compile.applyActions builder 0 (some heldChain)
        ([.attachScript "01" .plutusV1, nativeAttached] ++ [minting])).outcomeIn (empty keyed) with
      ⟨_ | went', after⟩
    · have hok := isOk_attached
      rw [hrun] at hok
      cases hok
    · obtain ⟨went, between, hearlier, -⟩ := applyActions_concat_eq_ok_iff.mp ⟨went', hrun⟩
      have hregisters := (redeemers_registered validateAll_attachedAsked heldChain keyed).1
        went between went' after hearlier hrun
      refine ⟨_, between, after, validateAll_attachedAsked, ⟨went, hearlier⟩, ⟨went', hrun⟩, ?_⟩
      generalize after.bindings = b at hregisters
      cases hregisters with
      | mint last read =>
        cases last
        cases read
        rfl
      | nothing without => cases without
  · obtain ⟨f, left, calls, hrun, hcalls, hcause⟩ :=
      (redeemers_registered validateAll_unattachedAsked heldChain keyed).2.2
        (Option.some_ne_none "00") rfl
    obtain ⟨cause, rfl, rfl | ⟨ref, redeemer, why, hspend, -⟩⟩ := hcause
    · exact ⟨_, left, calls, validateAll_unattachedAsked, hrun, hcalls⟩
    · cases hspend

end Draft

end TxDraft
