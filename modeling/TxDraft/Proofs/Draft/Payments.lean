import TxDraft.Proofs.Action.Promises
import TxDraft.Proofs.Draft.Mint

/-!
# Payments to many

There are three ways of paying: lovelace alone, assets, and many outputs at once, of which the first
does not go by the common output.  For an output that gives something they agree
(`pay_eq_single`), so a payment to many is its single payments, one after the other
(`payMany_eq_singles`), and a validated sequence in which they stand in its place compiles to the
same transaction (`run_payMany_split`).

That lovelace is above zero is what validation promises (`Action.pays_of_mem`); a sum of zero would
be raised to the least one in an output of many, and not in a payment of lovelace.
-/

namespace TxDraft

open Ledger

namespace PaymentOutput

/-- The action that pays an output alone: its assets, if it gives some, or else its lovelace. -/
def single (out : PaymentOutput) : Action :=
  match out.assets with
  | some (asset :: more) => .payAssets out.toAddress (asset :: more) out.lovelace
  | _ => .payLovelace out.toAddress (out.lovelace.getD 0)

/-- The output gives lovelace, or at least one asset. -/
def Gives (out : PaymentOutput) : Prop :=
  out.lovelace ≠ none ∨ out.assets.getD [] ≠ []

end PaymentOutput

/-- What a compilation came to, whatever the operations are called: the transaction, if there is
one, and the world that is left. -/
def Compile.unnamed {ω : Type} (r : Attempt UnsignedTransaction × ω) : Option Json × ω :=
  (r.1.toOption.map UnsignedTransaction.content, r.2)

namespace Draft

variable {chain : Chain}

/-! ### One output -/

theorem payment_lovelace (coinsPerByte : Int) (toAddress : String) {lovelace : Int}
    (h : 0 < lovelace) :
    payment coinsPerByte toAddress (some lovelace) [] = do
      return .plain (← accept (Address.ofText? toAddress)) (.ofCoin lovelace) := by
  have hne : lovelace ≠ 0 := by omega
  unfold payment
  cases accept (Address.ofText? toAddress) with
  | error f => rfl
  | ok address =>
    show Except.ok (Output.plain address ⟨if lovelace = 0 then _ else lovelace, []⟩) = _
    rw [if_neg hne]
    rfl

/-- A payment of lovelace and nothing else is staged alike by both ways of paying. -/
theorem pay_lovelace (toAddress : String) {lovelace : Int} (h : 0 < lovelace) :
    pay chain toAddress (some lovelace) [] = payLovelace toAddress lovelace := by
  unfold pay payLovelace
  rw [payment_lovelace _ _ h]
  cases accept (Address.ofText? toAddress) <;> rfl

theorem forM_singleton_apply (step : Step) : [step].forM (apply chain) = apply chain step := by
  simp

/-- An output of a payment to many is staged as its single payment is. -/
theorem pay_eq_single {out : PaymentOutput} (hpays : out.Pays) (hgives : out.Gives) :
    pay chain out.toAddress out.lovelace (out.assets.getD []) =
      out.single.steps.forM (apply chain) := by
  obtain ⟨toAddress, lovelace, assets⟩ := out
  cases hassets : assets.getD [] with
  | cons asset more =>
    obtain rfl : assets = some (asset :: more) := by
      cases assets with
      | none => cases hassets
      | some given => exact congrArg some hassets
    exact (forM_singleton_apply (.payAssets toAddress (asset :: more) lovelace)).symm
  | nil =>
    -- without assets there is lovelace, and it is above zero
    obtain ⟨n, rfl⟩ := Option.ne_none_iff_exists'.mp (hgives.resolve_right (not_not_intro hassets))
    have hsingle : PaymentOutput.single ⟨toAddress, some n, assets⟩ = .payLovelace toAddress n := by
      rcases assets with _ | _ | _
      · rfl
      · rfl
      · cases hassets
    rw [hsingle, pay_lovelace toAddress (hpays n rfl)]
    exact (forM_singleton_apply (.payLovelace toAddress n)).symm

/-! ### All outputs -/

/-- A payment to many is staged as its single payments are, one after the other. -/
theorem payMany_eq_singles {outs : List PaymentOutput} (hpays : ∀ out ∈ outs, out.Pays)
    (hgives : ∀ out ∈ outs, out.Gives) :
    payMany chain outs =
      ((outs.map PaymentOutput.single).flatMap Action.steps).forM (apply chain) := by
  induction outs with
  | nil => rfl
  | cons out rest ih =>
    obtain ⟨hpay, hpays⟩ := List.forall_mem_cons.mp hpays
    obtain ⟨hgive, hgives⟩ := List.forall_mem_cons.mp hgives
    rw [payMany, pay_eq_single hpay hgive, ih hpays hgives, List.map_cons, List.flatMap_cons]
    exact List.forM_append.symm

/-- So it is in the midst of other actions. -/
theorem forM_payMany_split {earlier later : List Action} {outs : List PaymentOutput}
    (hpays : ∀ out ∈ outs, out.Pays) (hgives : ∀ out ∈ outs, out.Gives) :
    ((earlier ++ outs.map PaymentOutput.single ++ later).flatMap Action.steps).forM (apply chain) =
      ((earlier ++ .payMany outs :: later).flatMap Action.steps).forM (apply chain) := by
  have hmany : (Action.payMany outs).steps.forM (apply chain) =
      ((outs.map PaymentOutput.single).flatMap Action.steps).forM (apply chain) := by
    rw [← payMany_eq_singles hpays hgives]
    exact forM_singleton_apply (.payMany outs)
  have happend : ∀ first second : List Step, (first ++ second).forM (apply chain) =
      first.forM (apply chain) >>= fun _ => second.forM (apply chain) :=
    fun _ _ => List.forM_append
  simp only [List.flatMap_append, List.flatMap_cons, happend, hmany, bind_assoc]

/-! ### Whole compilations -/

/-- A compilation stages the steps of its actions and completes the draft if that went well. -/
theorem unnamed_run {actions : List Action} (hne : actions ≠ []) (d : Draft) :
    Compile.unnamed ((Compile.run builder chain actions).outcomeIn d) =
      match ((actions.flatMap Action.steps).forM (apply chain)).outcomeIn d with
      | (.ok _, between) =>
        let (result, left) := (Compile.finish builder (some chain)).outcomeIn between
        (result.toOption, left)
      | (.error _, between) => (none, between) := by
  rcases hsteps : ((actions.flatMap Action.steps).forM (apply chain)).outcomeIn d with
    ⟨f | _, between⟩
  · -- the loop fails too, and both leave the same draft
    rcases hloop : (Compile.applyActions builder 0 (some chain) actions).outcomeIn d with
      ⟨g | went, left⟩
    · have hleft : ((Compile.applyPlaced builder (some chain)
          (Compile.placedSteps 0 actions)).outcomeIn d).2 = _ := left_applyPlaced
      rw [Compile.map_step_placedSteps, hsteps, ← Compile.applyActions_eq_applyPlaced, hloop]
        at hleft
      cases hleft
      rw [Compile.outcomeIn_run_of_failed hloop]
      rfl
    · rw [(outcomeIn_applyActions_eq_ok_iff.mp hloop).2] at hsteps
      cases hsteps
  · have hloop : (Compile.applyActions builder 0 (some chain) actions).outcomeIn d =
        (.ok (some chain, operationNames actions), between) :=
      outcomeIn_applyActions_eq_ok_iff.mpr ⟨rfl, hsteps⟩
    rw [Compile.outcomeIn_run_of_applied hne hloop]
    rcases hfinish : (Compile.finish builder (some chain)).outcomeIn between with ⟨_ | _, left⟩ <;>
      simp only [hfinish] <;> rfl

/-- In a validated sequence the single payments of its outputs may stand in the place of a payment
to many, if each of these gives something: the same is staged, or refused, and the transaction, if
there is one, is the same. -/
theorem run_payMany_split {network : Option Network} {v : Json} {earlier later : List Action}
    {outs : List PaymentOutput}
    (hvalid : Action.validateAll network v = .ok (earlier ++ .payMany outs :: later))
    (hgives : ∀ out ∈ outs, out.Gives) (chain : Chain) (d : Draft) :
    let paid := earlier ++ .payMany outs :: later
    let split := earlier ++ outs.map PaymentOutput.single ++ later
    ((split.flatMap Action.steps).forM (apply chain)).outcomeIn d =
        ((paid.flatMap Action.steps).forM (apply chain)).outcomeIn d ∧
      Compile.unnamed ((Compile.run builder chain split).outcomeIn d) =
        Compile.unnamed ((Compile.run builder chain paid).outcomeIn d) := by
  intro paid split
  obtain ⟨houts, hpays⟩ := Action.pays_of_mem hvalid (List.mem_append_right _ List.mem_cons_self)
  have hstaged : (split.flatMap Action.steps).forM (apply chain) =
      (paid.flatMap Action.steps).forM (apply chain) := forM_payMany_split hpays hgives
  have hpaid : paid ≠ [] := List.append_ne_nil_of_right_ne_nil _ (List.cons_ne_nil _ _)
  have hsplit : split ≠ [] :=
    List.append_ne_nil_of_left_ne_nil
      (List.append_ne_nil_of_right_ne_nil _ fun h => houts (List.map_eq_nil_iff.mp h)) _
  rw [unnamed_run hsplit, unnamed_run hpaid, hstaged]
  exact ⟨rfl, rfl⟩

/-! ### A payment to many among other actions -/

/-- The address of a key, as a text. -/
def keyedText : String :=
  "addr_test1vqqszqgpqyqszqgpqyqszqgpqyqszqgpqyqszqgpqyqszqgasfzjt"

/-- The unit of an asset. -/
def sharedUnit : String :=
  somePolicy ++ ".00"

/-- One output with lovelace, and one with an asset. -/
def shares : List PaymentOutput :=
  [⟨keyedText, some 2000000, none⟩, ⟨keyedText, none, some [(sharedUnit, 5)]⟩]

/-- What is asked for: the asset is minted, the payment made, and a note added. -/
def sharesAsked : Json :=
  .arr [.obj [("type", .str "mint"), ("policyId", .str somePolicy),
      ("assets", .obj [("00", .int 5)])],
    .obj [("type", .str "payMany"), ("outputs", .arr
      [.obj [("toAddress", .str keyedText), ("lovelace", .int 2000000)],
        .obj [("toAddress", .str keyedText), ("assets", .obj [(sharedUnit, .int 5)])]])],
    .obj [("type", .str "metadata"), ("label", .int 1), ("metadata", .str "shares")]]

/-- The actions before the payment. -/
def beforeShares : List Action :=
  [.mint somePolicy [("00", 5)] none]

/-- The actions after it. -/
def afterShares : List Action :=
  [.metadata 1 (.str "shares")]

set_option maxRecDepth 8000 in
theorem validateAll_sharesAsked :
    Action.validateAll none sharesAsked = .ok (beforeShares ++ .payMany shares :: afterShares) :=
  Eq.refl _

theorem run_payMany_split_shares :
    Action.validateAll none sharesAsked = .ok (beforeShares ++ .payMany shares :: afterShares) ∧
      (∀ out ∈ shares, out.Gives) ∧
      shares.map PaymentOutput.single =
        [.payLovelace keyedText 2000000, .payAssets keyedText [(sharedUnit, 5)] none] ∧
      ∃ content left,
        Compile.unnamed ((Compile.run builder heldChain
          (beforeShares ++ shares.map PaymentOutput.single ++ afterShares)).outcomeIn
            (empty keyed)) = (some content, left) ∧
        Compile.unnamed ((Compile.run builder heldChain
          (beforeShares ++ .payMany shares :: afterShares)).outcomeIn (empty keyed)) =
            (some content, left) := by
  have hgives : ∀ out ∈ shares, out.Gives := by
    simp [shares, PaymentOutput.Gives]
  have hsame := (run_payMany_split validateAll_sharesAsked hgives heldChain (empty keyed)).2
  have hcompiles : (Compile.unnamed ((Compile.run builder heldChain
      (beforeShares ++ .payMany shares :: afterShares)).outcomeIn (empty keyed))).1.isSome := by
    decide +kernel
  rcases hpaid : Compile.unnamed ((Compile.run builder heldChain
      (beforeShares ++ .payMany shares :: afterShares)).outcomeIn (empty keyed)) with ⟨_ | tx, left⟩
  · rw [hpaid] at hcompiles
    cases hcompiles
  · exact ⟨validateAll_sharesAsked, hgives, rfl, tx, left, hsame.trans hpaid, rfl⟩

end Draft

end TxDraft
