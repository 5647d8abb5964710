import Mathlib.Algebra.BigOperators.Group.List.Basic
import TxDraft.Proofs.Action.Minting
import TxDraft.Proofs.Draft.Summary
import TxDraft.Proofs.Ledger.Assets

/-!
# What a draft mints

The steps of a run may mint and burn in any order, over and over, and do other things in between.
What is staged in the end is, for every asset, the sum of what was minted less the sum of what was
burned, and nothing where that is zero (`mintValue_of_steps`): one step adds its own part
(`mintValue_apply`), and the run is followed by induction.  The steps of actions that were validated
are sound by `Action.sound_of_validate`.
-/

namespace TxDraft

open Ledger

namespace Step

/-- How much there is of an asset among the assets of a policy. -/
def amountOf (k : AssetKey) (policy : String) (assets : Entries String Int) : Int :=
  if Hex.encode k.policy = policy then assets.quantity (Hex.encode k.name) else 0

/-- The step mints or burns, and needs no script for it. -/
def Unlocked : Step → Prop
  | mintAssets _ _ none | burnAssets _ _ none => True
  | _ => False

/-- How much of an asset a step mints. -/
def minted (k : AssetKey) : Step → Int
  | mintAssets policy assets _ => amountOf k policy assets
  | _ => 0

/-- How much of an asset a step burns. -/
def burned (k : AssetKey) : Step → Int
  | burnAssets policy assets _ => amountOf k policy assets
  | _ => 0

/-- What steps mint of an asset in all, less what they burn. -/
def net (k : AssetKey) (steps : List Step) : Int :=
  (steps.map (minted k)).sum - (steps.map (burned k)).sum

theorem net_cons (k : AssetKey) (step : Step) (rest : List Step) :
    net k (step :: rest) = step.minted k - step.burned k + net k rest := by
  simp only [net, List.map_cons, List.sum_cons]
  omega

theorem net_of_perm {steps steps' : List Step} (h : steps.Perm steps') (k : AssetKey) :
    net k steps = net k steps' := by
  rw [net, net, (h.map (minted k)).sum_eq, (h.map (burned k)).sum_eq]

/-- The sign, the policy and the assets of a step that mints or burns. -/
def mints? : Step → Option (Int × String × Entries String Int)
  | mintAssets policy assets _ => some (1, policy, assets)
  | burnAssets policy assets _ => some (-1, policy, assets)
  | _ => none

theorem minted_sub_burned (k : AssetKey) (step : Step) :
    step.minted k - step.burned k =
      match step.mints? with
      | some (sign, policy, assets) => sign * amountOf k policy assets
      | none => 0 := by
  cases step <;> simp [minted, burned, mints?]

theorem sound_iff (step : Step) :
    step.Sound ↔ ∀ sign policy assets, step.mints? = some (sign, policy, assets) →
      (∀ name ∈ Entries.keys assets, Token.Minted ⟨policy, name⟩) ∧
        (Entries.keys assets).Nodup := by
  cases step with
  | mintAssets policy assets redeemer | burnAssets policy assets redeemer =>
    constructor
    · rintro h _ _ _ ⟨⟩
      exact h
    · exact fun h => h _ _ _ rfl
  | _ => exact iff_of_true trivial nofun

end Step

namespace Draft

variable {chain : Chain} {d left : Draft} {es : List Entry}

/-! ### Entries that mint -/

def Entry.mint? : Entry → Option Assets
  | mint delta => some delta
  | _ => none

theorem mint_replay (d : Draft) (es : List Entry) :
    (d.replay es).mint =
      (es.filterMap Entry.mint?).foldl (fun staged delta => some (addMint delta staged)) d.mint :=
  field_replay Draft.mint Entry.mint? _ (by rintro d ⟨⟩ <;> rfl) d es

/-- The assets that a minting step puts in. -/
def deltaOf? (minting : Int × String × Entries String Int) : Option Assets :=
  Assets.ofUnits? minting.1 (minting.2.2.map fun e => (minting.2.1 ++ "." ++ e.1, e.2))

theorem mint?_of_plain {e : Entry} (h : e.Plain) : e.mint? = none := by
  cases e with
  | mint => cases h
  | _ => rfl

theorem mint?_mintEntries {sign : Int} {policy : String} {assets : Entries String Int}
    {redeemer : Option String} (h : mintEntries sign policy assets redeemer = .ok es) :
    ∃ delta, deltaOf? (sign, policy, assets) = some delta ∧ es.filterMap Entry.mint? = [delta] := by
  obtain ⟨delta, data, hdelta, -, rfl⟩ := eq_of_mintEntries h
  exact ⟨delta, hdelta, by cases data <;> rfl⟩

/-- The entries of a step mint what the step says, and nothing else. -/
theorem mint?_entriesOf {step : Step} (h : entriesOf chain step = .ok es) :
    match step.mints? with
    | some minting => ∃ delta, deltaOf? minting = some delta ∧ es.filterMap Entry.mint? = [delta]
    | none => es.filterMap Entry.mint? = [] := by
  cases step with
  | mintAssets policy assets redeemer => exact mint?_mintEntries h
  | burnAssets policy assets redeemer => exact mint?_mintEntries h
  | spendUtxo ref redeemer =>
    obtain ⟨u, data, -, -, rfl⟩ := eq_of_spendEntries h
    rfl
  | attachScript script kind =>
    obtain ⟨bytes, -, hes⟩ := eq_of_attachEntries h
    split at hes
    · subst hes
      rfl
    · obtain ⟨native, rfl⟩ := hes
      rfl
  | _ =>
    exact List.filterMap_eq_nil_iff.mpr fun e he =>
      mint?_of_plain (plain_of_entriesOf h trivial e he)

/-! ### The staged value -/

/-- What is minted in all; nothing if nothing was staged. -/
def mintValue (d : Draft) : Assets :=
  d.mint.getD []

theorem addMint_eq_add {delta : Assets} (h : Assets.Canonical delta) (staged : Option Assets) :
    addMint delta staged = (staged.getD []).add delta := by
  cases staged with
  | some staged => rfl
  | none =>
    refine h.eq_of_quantity (Assets.canonical_add Assets.canonical_nil _) fun k => ?_
    rw [Option.getD_none, Assets.quantity_add Assets.canonical_nil h, Assets.quantity_nil, zero_add]

/-- A step adds what it mints and takes what it burns, asset by asset. -/
theorem mintValue_apply {step : Step} (h : Asked chain d) (hsound : step.Sound)
    (hcanonical : Assets.Canonical d.mintValue)
    (hrun : (apply chain step).outcomeIn d = (.ok (), left)) :
    Asked chain left ∧ Assets.Canonical left.mintValue ∧
      ∀ k, left.mintValue.quantity k =
        d.mintValue.quantity k + (step.minted k - step.burned k) := by
  obtain ⟨es, hes, hreplays⟩ := stages_apply h hrun
  have hmint : left.mint = (d.replay es).mint := by
    show left.unasked.mint = (d.replay es).unasked.mint
    rw [hreplays.staged]
  rw [mint_replay] at hmint
  have hentries := mint?_entriesOf hes
  refine ⟨hreplays.asked, ?_⟩
  cases hmints : step.mints? with
  | none =>
    rw [hmints] at hentries
    rw [hentries] at hmint
    have hsame : left.mintValue = d.mintValue := congrArg (Option.getD · []) hmint
    rw [hsame]
    refine ⟨hcanonical, fun k => ?_⟩
    rw [Step.minted_sub_burned, hmints, add_zero]
  | some minting =>
    obtain ⟨sign, policy, assets⟩ := minting
    rw [hmints] at hentries
    obtain ⟨delta, hdelta, hentries⟩ := hentries
    obtain ⟨hminted, hdistinct⟩ := (Step.sound_iff step).mp hsound sign policy assets hmints
    obtain ⟨delta', hdelta', hdeltaCanonical, hquantity⟩ :=
      Assets.ofUnits?_of_minted sign hminted hdistinct
    obtain rfl : delta = delta' := Option.some.inj (hdelta.symm.trans hdelta')
    rw [hentries] at hmint
    -- the first value is staged as it is; in order and without zeros, it is itself added to nothing
    have hadd : left.mintValue = d.mintValue.add delta := by
      rw [mintValue, hmint]
      exact addMint_eq_add hdeltaCanonical d.mint
    rw [hadd]
    refine ⟨Assets.canonical_add hcanonical delta, fun k => ?_⟩
    rw [Step.minted_sub_burned, hmints, Assets.quantity_add hcanonical hdeltaCanonical, hquantity]
    rfl

/-- Steps add what they mint and take what they burn, in whatever order. -/
theorem mintValue_forM {steps : List Step} (h : Asked chain d)
    (hsound : ∀ step ∈ steps, step.Sound) (hcanonical : Assets.Canonical d.mintValue)
    (hrun : (steps.forM (apply chain)).outcomeIn d = (.ok (), left)) :
    Assets.Canonical left.mintValue ∧
      ∀ k, left.mintValue.quantity k = d.mintValue.quantity k + Step.net k steps := by
  induction steps generalizing d with
  | nil =>
    cases hrun
    exact ⟨hcanonical, fun k => (add_zero _).symm⟩
  | cons step rest ih =>
    obtain ⟨hstep, hrest⟩ := List.forall_mem_cons.mp hsound
    obtain ⟨between, hfirst, hrun⟩ := Work.forM_cons_eq_ok_iff.mp hrun
    obtain ⟨hasked, hbetween, hquantity⟩ := mintValue_apply h hstep hcanonical hfirst
    obtain ⟨hleft, hall⟩ := ih hasked hrest hbetween hrun
    refine ⟨hleft, fun k => ?_⟩
    rw [hall, hquantity, Step.net_cons, add_assoc]

/-- The same from a draft with nothing in it. -/
theorem mintValue_forM_empty {source : Address} {steps : List Step}
    (hsound : ∀ step ∈ steps, step.Sound)
    (hrun : (steps.forM (apply chain)).outcomeIn (empty source) = (.ok (), left)) :
    Assets.Canonical left.mintValue ∧ ∀ k, left.mintValue.quantity k = Step.net k steps := by
  have hasked : Asked chain (empty source) := .inl ⟨rfl, rfl⟩
  obtain ⟨hcanonical, hquantity⟩ := mintValue_forM hasked hsound Assets.canonical_nil hrun
  exact ⟨hcanonical, fun k => (hquantity k).trans (zero_add _)⟩

/-- What is staged by steps is, for every asset, what they mint less what they burn, with no entry
where that is zero.  So it does not depend on the order of the steps, nor on how the quantities are
split among them. -/
theorem mintValue_of_steps {source : Address} {steps : List Step} {d : Draft}
    (hsound : ∀ step ∈ steps, step.Sound)
    (hrun : (steps.forM (apply chain)).outcomeIn (empty source) = (.ok (), d)) :
    (∀ k, Entries.get? k d.mintValue =
      if Step.net k steps = 0 then none else some (Step.net k steps)) ∧
    (Entries.keys d.mintValue).Nodup ∧
    ∀ chain' source' steps' d', (∀ step ∈ steps', step.Sound) →
      (steps'.forM (apply chain')).outcomeIn (empty source') = (.ok (), d') →
        (steps'.Perm steps ∨ ∀ k, Step.net k steps' = Step.net k steps) →
          d'.mintValue = d.mintValue := by
  obtain ⟨hcanonical, hquantity⟩ := mintValue_forM_empty hsound hrun
  refine ⟨fun k => ?_, hcanonical.nodup_keys, ?_⟩
  · rw [hcanonical.get?_eq, hquantity]
  · intro chain' source' steps' d' hsound' hrun' hsame
    obtain ⟨hcanonical', hquantity'⟩ := mintValue_forM_empty hsound' hrun'
    refine hcanonical'.eq_of_quantity hcanonical fun k => ?_
    rw [hquantity, hquantity']
    rcases hsame with hperm | hnet
    · exact Step.net_of_perm hperm k
    · exact hnet k

/-! ### Runs without redeemers -/

theorem exists_mintOf {sign : Int} {policy : String} {assets : Entries String Int}
    (hassets : (∀ name ∈ Entries.keys assets, Token.Minted ⟨policy, name⟩) ∧
      (Entries.keys assets).Nodup) (action : String) (d : Draft) :
    ∃ left, (mintOf sign action policy assets none).outcomeIn d = (.ok (), left) := by
  obtain ⟨delta, hdelta, -, -⟩ := Assets.ofUnits?_of_minted sign hassets.1 hassets.2
  have hread : accept (Assets.ofUnits? sign
      (assets.map fun e => (policy ++ "." ++ e.1, e.2))) = .ok delta :=
    accept_eq_ok_iff.mpr hdelta
  exact ⟨_, Work.outcomeIn_ofAttempt_bind_eq_ok_iff.mpr ⟨delta, hread, rfl⟩⟩

theorem exists_apply_of_unlocked (chain : Chain) {step : Step} (hsound : step.Sound)
    (hunlocked : step.Unlocked) (d : Draft) :
    ∃ left, (apply chain step).outcomeIn d = (.ok (), left) := by
  cases step with
  | mintAssets policy assets redeemer =>
    cases redeemer with
    | none => exact exists_mintOf hsound "mint" d
    | some r => cases hunlocked
  | burnAssets policy assets redeemer =>
    cases redeemer with
    | none => exact exists_mintOf hsound "burn" d
    | some r => cases hunlocked
  | _ => cases hunlocked

/-- Sound steps that mint or burn without a redeemer are never refused. -/
theorem exists_forM_of_unlocked (chain : Chain) {steps : List Step}
    (hsound : ∀ step ∈ steps, step.Sound) (hunlocked : ∀ step ∈ steps, step.Unlocked) (d : Draft) :
    ∃ left, (steps.forM (apply chain)).outcomeIn d = (.ok (), left) := by
  induction steps generalizing d with
  | nil => exact ⟨d, rfl⟩
  | cons step rest ih =>
    obtain ⟨hstep, hrest⟩ := List.forall_mem_cons.mp hsound
    obtain ⟨hfirst, hothers⟩ := List.forall_mem_cons.mp hunlocked
    obtain ⟨between, hbetween⟩ := exists_apply_of_unlocked chain hstep hfirst d
    obtain ⟨left, hleft⟩ := ih hrest hothers between
    exact ⟨left, Work.forM_cons_eq_ok_iff.mpr ⟨between, hbetween, hleft⟩⟩

/-! ### A run that takes back what it mints -/

def somePolicy : String :=
  String.ofList (List.replicate 56 'a')

/-- Two assets are minted, one of them in parts, and some of each is burned. -/
def cancelling : List Step :=
  [.mintAssets somePolicy [("00", 5), ("01", 3)] none, .burnAssets somePolicy [("00", 2)] none,
    .mintAssets somePolicy [("01", 4)] none, .burnAssets somePolicy [("01", 7)] none]

/-- What is left of them, in parts of other sizes. -/
def leftover : List Step :=
  [.burnAssets somePolicy [("00", 1)] none, .mintAssets somePolicy [("00", 4)] none]

theorem hexHash_replicate (n : Nat) : Lexicon.HexHash n (List.replicate n 'a') := by
  refine ⟨List.length_replicate, fun c hc => ?_⟩
  rw [List.eq_of_mem_replicate hc]
  exact .inr ⟨Char.le_refl _, by decide⟩

theorem toList_somePolicy : somePolicy.toList = List.replicate 56 'a' :=
  String.toList_ofList

theorem minted_somePolicy {name : String} (h : Lexicon.isAssetName name.toList = true) :
    Token.Minted ⟨somePolicy, name⟩ where
  policy := by
    have hpolicy := hexHash_replicate 56
    rw [← toList_somePolicy] at hpolicy
    exact hpolicy
  name := (Lexicon.isAssetName_iff _).mp h

theorem sound_cancelling : ∀ step ∈ cancelling ++ leftover, step.Sound := by
  have hzero : Token.Minted ⟨somePolicy, "00"⟩ := minted_somePolicy (by decide)
  have hone : Token.Minted ⟨somePolicy, "01"⟩ := minted_somePolicy (by decide)
  simp [cancelling, leftover, Step.Sound, hzero, hone]

theorem net_leftover (k : AssetKey) : Step.net k leftover = Step.net k cancelling := by
  simp only [Step.net, leftover, cancelling, List.map_cons, List.map_nil, List.sum_cons,
    List.sum_nil, Step.minted, Step.burned, Step.amountOf, Entries.quantity_cons,
    Entries.quantity_nil]
  by_cases hpolicy : Hex.encode k.policy = somePolicy
  · by_cases hzero : "00" = Hex.encode k.name
    · simp [hpolicy, ← hzero]
    · by_cases hone : "01" = Hex.encode k.name
      · simp [hpolicy, ← hone]
      · simp [hzero, hone]
  · simp [hpolicy]

theorem mintValue_of_steps_cancelling :
    (∀ step ∈ cancelling, step.Sound) ∧ (∀ step ∈ leftover, step.Sound) ∧ ∃ d d',
      (cancelling.forM (apply heldChain)).outcomeIn (empty keyed) = (.ok (), d) ∧
      (leftover.forM (apply heldChain)).outcomeIn (empty keyed) = (.ok (), d') ∧
      Entries.get? ⟨List.replicate 28 170, [0]⟩ d.mintValue = some 3 ∧
      Entries.get? ⟨List.replicate 28 170, [1]⟩ d.mintValue = none ∧
      d'.mintValue = d.mintValue := by
  obtain ⟨hcancelling, hleftover⟩ := List.forall_mem_append.mp sound_cancelling
  obtain ⟨d, hrun⟩ := exists_forM_of_unlocked heldChain hcancelling
    (by simp [cancelling, Step.Unlocked]) (empty keyed)
  obtain ⟨d', hrun'⟩ := exists_forM_of_unlocked heldChain hleftover
    (by simp [leftover, Step.Unlocked]) (empty keyed)
  obtain ⟨hget, -, hsame⟩ := mintValue_of_steps hcancelling hrun
  refine ⟨hcancelling, hleftover, d, d', hrun, hrun', ?_, ?_,
    hsame _ _ _ _ hleftover hrun' (.inr net_leftover)⟩
  · rw [hget]
    decide +kernel
  · rw [hget]
    decide +kernel

end Draft

end TxDraft
