import TxDraft.Proofs.Action.AssetMaps
import TxDraft.Proofs.Form.Writing

/-!
# Documents of validated actions

An action that was validated may be written down again: its fields under their first spellings, with
the normal forms, the exact quantities and the defaults that it holds, and nothing for what it does
not have (`Action.document`).  Validation takes this document for the action itself
(`validate_document`).  Every reader of a part reads what it gave back from what is written of it
(`Part.Rereads`), so every form can be written (`writes_of_fill`), and the rule across the fields
holds since it is one on the action.
-/

namespace TxDraft

/-! ### Documents -/

/-- A map of assets, as it is written. -/
def Json.ofAssets (assets : Entries String Int) : Json :=
  .ofEntries (assets.mapValues .int)

namespace PaymentOutput

/-- The fields of an output of a payment to many. -/
def slots (out : PaymentOutput) : Slots :=
  [("toAddress", some (.ofText out.toAddress)), ("lovelace", out.lovelace.map .int),
    ("assets", out.assets.map .ofAssets)]

def document (out : PaymentOutput) : Json :=
  .obj out.slots.written

end PaymentOutput

/-- The fields that tell an output. -/
def OutputRef.slots (ref : OutputRef) : Slots :=
  [("txHash", ref.txHash.map .ofText), ("index", ref.index.map .int),
    ("utxo", ref.record.map .obj)]

namespace Action

/-- The fields of an action, each under the name that it has in documents. -/
def slots : Action → Slots
  | payLovelace toAddress lovelace =>
    [("toAddress", some (.ofText toAddress)), ("lovelace", some (.int lovelace))]
  | payAssets toAddress assets lovelace =>
    [("toAddress", some (.ofText toAddress)), ("assets", some (.ofAssets assets)),
      ("lovelace", lovelace.map .int)]
  | payMany outputs => [("outputs", some (.arr (outputs.map PaymentOutput.document)))]
  | .metadata label content => [("label", some (.int label)), ("metadata", some content)]
  | validity validFrom validTo =>
    [("validFrom", validFrom.map .int), ("validTo", validTo.map .int)]
  | requiredSigner keyHash => [("keyHash", some (.ofText keyHash))]
  | changeAddress address => [("changeAddress", some (.ofText address))]
  | collateral ref | referenceInput ref => ref.slots
  | spendUtxo ref redeemer => ref.slots ++ [("redeemer", redeemer.map .ofText)]
  | mint policy assets redeemer | burn policy assets redeemer =>
    [("policyId", some (.ofText policy)), ("assets", some (.ofAssets assets)),
      ("redeemer", redeemer.map .ofText)]
  | attachScript script kind =>
    [("scriptCbor", some (.ofText script)), ("kind", some (.ofText kind.name))]
  | stakeRegister address | stakeDeregister address => [("stakeAddress", some (.ofText address))]
  | withdrawRewards address amount =>
    [("stakeAddress", some (.ofText address)), ("amount", amount.map .int)]
  | feePolicy strategy multiplier feeBuffer =>
    [("strategy", some (.ofText strategy.name)), ("multiplier", multiplier.map .float),
      ("feeBuffer", feeBuffer.map .int)]

/-- The action as a document: its tag and its fields. -/
def document (action : Action) : Json :=
  .obj (("type", .str action.tag) :: action.slots.written)

end Action

/-! ### Readers and what they gave -/

namespace Part

variable {α : Type}

/-- What the reader gives, it gives again for what is written of it, which is never null. -/
def Rereads (read : Reader α) (write : α → Json) : Prop :=
  ∀ v a, read v = .ok a → read (write a) = .ok a ∧ (write a).isPresent = true

theorem rereads_word {read : Lexicon.Reader} (h : Lexicon.Projects read) :
    Rereads (word read) .ofText := by
  intro v w hw
  obtain ⟨s, -, hs⟩ := word_eq_ok_iff.mp hw
  exact ⟨word_eq_ok_iff.mpr ⟨w, rfl, h s.string w hs⟩, rfl⟩

theorem rereads_amount (passes : Int → Option Complaint) : Rereads (amount passes) .int := by
  intro v n hn
  exact ⟨amount_eq_ok_iff.mpr ⟨rfl, (amount_eq_ok_iff.mp hn).2⟩, rfl⟩

theorem rereads_factor : Rereads factor .float := by
  intro v x hx
  refine ⟨?_, rfl⟩
  unfold factor at hx ⊢
  split at hx
  · split at hx
    · next hleast =>
      cases hx
      exact if_pos hleast
    · cases hx
  · cases hx

theorem rereads_choice (choices : List α) (name : α → String) :
    Rereads (choice choices name) fun a => .ofText (name a) := by
  intro v a ha
  obtain ⟨s, -, hfind⟩ := choice_eq_ok_iff.mp ha
  have hname : Json.Str.plain (name a) = s := by simpa using List.find?_some hfind
  exact ⟨choice_eq_ok_iff.mpr ⟨name a, rfl, hname ▸ hfind⟩, rfl⟩

theorem rereads_metadata : Rereads metadata id := by
  intro v a ha
  have hsame : a = v := by
    unfold metadata at ha
    split at ha
    · cases ha
    · exact (Except.ok.inj ha).symm
  subst hsame
  refine ⟨ha, ?_⟩
  cases a with
  | null => cases ha
  | _ => rfl

theorem rereads_record : Rereads record .obj :=
  fun _ _ _ => ⟨rfl, rfl⟩

/-! ### Maps and lists -/

/-- A map of words with quantities above zero is read as what it is. -/
theorem entries_mapValues {read : Lexicon.Reader} {a : Entries String Int}
    (h : ∀ e ∈ a, read e.1 = .ok e.1 ∧ 0 < e.2) :
    entries read (Json.plainFields (a.mapValues .int)) = .ok a := by
  induction a with
  | nil => rfl
  | cons e rest ih =>
    obtain ⟨⟨hword, hpos⟩, hrest⟩ := List.forall_mem_cons.mp h
    have hkey : word read (.str e.1) = .ok e.1 := word_eq_ok_iff.mpr ⟨e.1, rfl, hword⟩
    have hn : positive (.int e.2) = .ok e.2 := amount_eq_ok_iff.mpr ⟨rfl, by simp [hpos]⟩
    have hentry : entry read (e.1, .int e.2) = .ok e := entry_eq_ok_iff.mpr ⟨hkey, hn⟩
    exact Checked.both_eq_ok_iff.mpr
      ⟨_, rest, Traversal.map_eq_ok_iff.mpr ⟨e, hentry, rfl⟩, ih hrest, rfl⟩

theorem rereads_assets {read : Lexicon.Reader} (h : Lexicon.Projects read) :
    Rereads (assets read) .ofAssets := by
  intro v a ha
  obtain ⟨hnodup, hentries⟩ := entries_of_assets ha
  have hread : entries read (Json.plainFields (a.mapValues .int)) = .ok a := by
    refine entries_mapValues fun e he => ?_
    obtain ⟨⟨s, hs⟩, hpos⟩ := hentries e he
    exact ⟨h s e.1 hs, hpos⟩
  exact ⟨Traversal.map_eq_ok_iff.mpr ⟨a, hread, Entries.ofPairs_eq_self hnodup⟩, rfl⟩

theorem rereads_someAssets {read : Lexicon.Reader} (h : Lexicon.Projects read) :
    Rereads (someAssets read) .ofAssets := by
  intro v a ha
  obtain ⟨hassets, hne⟩ := someAssets_eq_ok_iff.mp ha
  obtain ⟨hagain, hpresent⟩ := rereads_assets h v a hassets
  exact ⟨someAssets_eq_ok_iff.mpr ⟨hagain, hne⟩, hpresent⟩

end Part

/-! ### Fields -/

open TxDraft.Part

variable {α : Type} {fields : Json.Fields}

namespace Action

theorem takes_required {spellings : List String} {read : Reader α} {write : α → Json} {a : α}
    (h : Rereads read write) (hfill : (required spellings read).fill fields = .ok a) :
    (required spellings read).Takes a (some (write a)) := by
  obtain ⟨v, hv⟩ := exists_read_of_fill hfill
  exact (h v a hv).1

/-- What is there is written, and nothing is written for null. -/
theorem takes_optional {spellings : List String} {read : Reader α} {write : α → Json}
    {a : Option α} (h : Rereads read write)
    (hfill : (optional spellings read).fill fields = .ok a) :
    (optional spellings read).Takes a (a.map write) := by
  rcases fill_optional_eq_ok_iff.mp hfill with ⟨-, rfl⟩ | ⟨-, b, hb, rfl⟩
  · rfl
  · obtain ⟨hagain, hpresent⟩ := h _ b hb
    have hnull : write b ≠ .null := by
      intro heq
      rw [heq] at hpresent
      cases hpresent
    exact nullable_eq_ok_iff.mpr (.inr ⟨hnull, b, hagain, rfl⟩)

/-- A default is written like any other value. -/
theorem takes_defaulted {spellings : List String} {read : Reader α} {write : α → Json}
    {absent a : α} (h : Rereads read write) (habsent : read (write absent) = .ok absent)
    (hfill : (defaulted spellings absent read).fill fields = .ok a) :
    (defaulted spellings absent read).Takes a (some (write a)) := by
  rcases Field.fill_eq_ok_iff.mp hfill with ⟨name, -, hread⟩ | ⟨-, hnone⟩
  · exact (h _ a hread).1
  · cases hnone
    exact habsent

end Action

/-! ### Outputs of payments -/

namespace Part

theorem writes_of_outputForm {network : Option Network} {out : PaymentOutput}
    (h : (outputForm network).fill fields = .ok out) :
    (outputForm network).Writes out out.slots := by
  obtain ⟨toAddress, lovelace, assets, hto, hlovelace, hassets, rfl⟩ := Form.fill_three_iff.mp h
  have htakesAddress := Action.takes_required
    (rereads_word (Lexicon.projects_address .payment network)) hto
  have htakesLovelace := Action.takes_optional (rereads_amount _) hlovelace
  have htakesAssets := Action.takes_optional (rereads_assets Lexicon.projects_assetId) hassets
  exact .three rfl htakesAddress rfl htakesLovelace rfl htakesAssets

theorem rereads_output (network : Option Network) :
    Rereads (output network) PaymentOutput.document := by
  intro v out h
  cases v with
  | obj fields =>
    obtain ⟨hfill, -⟩ := Form.fillOnly_eq_ok_iff.mp h
    have hdistinct : ([] ++ (outputForm network).spellings).Nodup := by
      rcases network with _ | _ | _ <;> decide
    have hnames : Entries.keys ([] : Json.Fields) = [].map Json.Str.plain := rfl
    exact ⟨((writes_of_outputForm hfill).fill hnames hdistinct).2, rfl⟩
  | _ => cases h

theorem outputItems_document {network : Option Network} {n : Nat} {items : List Json}
    {outs : List PaymentOutput} (h : outputItems network n items = .ok outs) :
    outputItems network n (outs.map PaymentOutput.document) = .ok outs := by
  induction items generalizing n outs with
  | nil =>
    cases h
    rfl
  | cons v rest ih =>
    obtain ⟨_, more, hfirst, hmore, rfl⟩ := Checked.both_eq_ok_iff.mp h
    obtain ⟨out, hout, rfl⟩ := Traversal.map_eq_ok_iff.mp hfirst
    obtain ⟨hagain, -⟩ := rereads_output network v out (Checked.inside_eq_ok_iff.mp hout)
    exact Checked.both_eq_ok_iff.mpr ⟨_, more, Traversal.map_eq_ok_iff.mpr
      ⟨out, Checked.inside_eq_ok_iff.mpr hagain, rfl⟩, ih hmore, rfl⟩

theorem rereads_outputs (network : Option Network) :
    Rereads (outputs network) fun outs => .arr (outs.map PaymentOutput.document) := by
  intro v outs h
  unfold outputs at h
  split at h
  · cases h
  · next items hitems =>
    have hagain := outputItems_document h
    cases outs with
    | nil =>
      -- no item is lost, so there were none
      cases items with
      | nil => exact absurd rfl hitems
      | cons v rest =>
        obtain ⟨_, more, hfirst, -, hnil⟩ := Checked.both_eq_ok_iff.mp h
        obtain ⟨out, -, rfl⟩ := Traversal.map_eq_ok_iff.mp hfirst
        cases hnil
    | cons out more => exact ⟨hagain, rfl⟩
  · cases h

end Part

/-! ### Forms of actions -/

theorem Form.Fits.spellings_eq {form : Form α} {rules : List Grammar.Rule} (h : form.Fits rules) :
    form.spellings = rules.flatMap Grammar.Rule.spellings := by
  induction h with
  | done a => rfl
  | and _ hfield ih => rw [spellings, ih, hfield.spellings, List.flatMap_append,
      List.flatMap_singleton]

namespace Action

theorem writes_withReference {make : OutputRef → α} {a : α}
    (h : (withReference make).fill fields = .ok a) :
    ∃ ref, make ref = a ∧ (withReference make).Writes a ref.slots := by
  obtain ⟨txHash, index, record, htx, hindex, hrecord, rfl⟩ := fill_withReference_eq_ok_iff.mp h
  have htakesHash := takes_optional (rereads_word Lexicon.projects_longHash) htx
  have htakesIndex := takes_optional (rereads_amount _) hindex
  have htakesRecord := takes_optional rereads_record hrecord
  exact ⟨⟨txHash, index, record⟩, rfl, .three rfl htakesHash rfl htakesIndex rfl htakesRecord⟩

/-- An action that was read through a form is written in slots of its own, one for each field of
the form. -/
theorem writes_of_fill {network : Option Network} {kind : ActionKind} {action : Action}
    (h : (form network kind).fill fields = .ok action) :
    (form network kind).Writes action action.slots := by
  have haddress := rereads_word (Lexicon.projects_address .payment network)
  have hstake := rereads_word (Lexicon.projects_address .stake network)
  have hdata := rereads_word Lexicon.projects_hexData
  cases kind with
  | collateral | referenceInput =>
    obtain ⟨ref, rfl, hwrites⟩ := writes_withReference h
    exact hwrites
  | spendUtxo =>
    obtain ⟨_, redeemer, hmake, hredeemer, rfl⟩ := Form.fill_and_eq_ok_iff.mp h
    obtain ⟨ref, rfl, hwrites⟩ := writes_withReference hmake
    exact hwrites.and rfl (takes_optional hdata hredeemer)
  | payMany =>
    obtain ⟨outputs, houtputs, rfl⟩ := Form.fill_one_iff.mp h
    exact .one rfl (takes_required (rereads_outputs network) houtputs)
  | requiredSigner =>
    obtain ⟨keyHash, hkeyHash, rfl⟩ := Form.fill_one_iff.mp h
    exact .one rfl (takes_required (rereads_word Lexicon.projects_shortHash) hkeyHash)
  | changeAddress =>
    obtain ⟨address, hto, rfl⟩ := Form.fill_one_iff.mp h
    exact .one rfl (takes_required haddress hto)
  | stakeRegister | stakeDeregister =>
    obtain ⟨address, hstaked, rfl⟩ := Form.fill_one_iff.mp h
    exact .one rfl (takes_required hstake hstaked)
  | payLovelace =>
    obtain ⟨toAddress, lovelace, hto, hlovelace, rfl⟩ := Form.fill_two_iff.mp h
    exact .two rfl (takes_required haddress hto) rfl (takes_required (rereads_amount _) hlovelace)
  | metadata =>
    obtain ⟨label, content, hlabel, hcontent, rfl⟩ := Form.fill_two_iff.mp h
    exact .two rfl (takes_defaulted (rereads_amount _) rfl hlabel) rfl
      (takes_required rereads_metadata hcontent)
  | validity =>
    obtain ⟨first, last, hfirst, hlast, rfl⟩ := Form.fill_two_iff.mp h
    exact .two rfl (takes_optional (rereads_amount _) hfirst) rfl
      (takes_optional (rereads_amount _) hlast)
  | attachScript =>
    obtain ⟨script, kind, hscript, hkind, rfl⟩ := Form.fill_two_iff.mp h
    exact .two rfl (takes_required hdata hscript) rfl
      (takes_defaulted (rereads_choice _ _) rfl hkind)
  | withdrawRewards =>
    obtain ⟨address, amount, hstaked, hamount, rfl⟩ := Form.fill_two_iff.mp h
    exact .two rfl (takes_required hstake hstaked) rfl
      (takes_optional (rereads_amount _) hamount)
  | payAssets =>
    obtain ⟨toAddress, assets, lovelace, hto, hassets, hlovelace, rfl⟩ := Form.fill_three_iff.mp h
    have hids := rereads_someAssets Lexicon.projects_assetId
    exact .three rfl (takes_required haddress hto) rfl (takes_required hids hassets) rfl
      (takes_optional (rereads_amount _) hlovelace)
  | mint | burn =>
    obtain ⟨policy, assets, redeemer, hpolicy, hassets, hredeemer, rfl⟩ := Form.fill_three_iff.mp h
    have hhash := rereads_word Lexicon.projects_shortHash
    have hnames := rereads_someAssets Lexicon.projects_assetName
    exact .three rfl (takes_required hhash hpolicy) rfl (takes_required hnames hassets) rfl
      (takes_optional hdata hredeemer)
  | feePolicy =>
    obtain ⟨strategy, multiplier, feeBuffer, hstrategy, hmultiplier, hbuffer, rfl⟩ :=
      Form.fill_three_iff.mp h
    have htakesStrategy := takes_defaulted (rereads_choice _ _) rfl hstrategy
    exact .three rfl htakesStrategy rfl (takes_optional rereads_factor hmultiplier) rfl
      (takes_optional (rereads_amount _) hbuffer)

/-- Validation takes the document of an action that was validated for the action itself, with all
its steps. -/
theorem validate_document {network : Option Network} {v : Json} {action : Action}
    (h : validate network v = .ok action) :
    validate network action.document = .ok action ∧
      (validate network action.document).map steps = .ok action.steps := by
  suffices hagain : validate network action.document = .ok action from
    ⟨hagain, by rw [hagain]; rfl⟩
  rw [validate_eq_ok_iff, judge_eq_accepted_iff] at h ⊢
  obtain ⟨kind, fields, -, hread⟩ := h
  rw [readKind_eq_accepted_iff] at hread
  obtain ⟨hread, hrule⟩ := hread
  have hfill := (readFields_eq_ok_iff.mp hread).1
  obtain rfl := kind_of_fill hfill
  have hdistinct : (["type"] ++ (form network action.kind).spellings).Nodup := by
    rw [(fits_form network action.kind).spellings_eq]
    exact nodup_spellings network action.kind
  have hnames : Entries.keys [(Json.Str.plain "type", Json.str action.tag)] =
      ["type"].map Json.Str.plain := rfl
  obtain ⟨hagain, honly⟩ := (writes_of_fill hfill).fill hnames hdistinct
  refine ⟨action.kind, _, ⟨rfl, rfl⟩, readKind_eq_accepted_iff.mpr ⟨?_, hrule⟩⟩
  -- kinds that let other fields pass read the document as all others do, for there are none in it
  unfold readFields
  split
  · exact hagain
  · exact honly

/-- A payment in capitals and blanks, with a null for the lovelace and a text for a quantity. -/
def loosePayment : Json :=
  .obj [("outputs", .arr [.obj [("lovelace", .null), ("to_address", .str " ADDR1QQQQQQ"),
      ("assets", .obj [(onesPolicy ++ ".AB ", .str "+4")])]]),
    ("type", .str "payMany")]

/-- The payment in normal form. -/
def strictPayment : Action :=
  .payMany [⟨"addr1qqqqqq", none, some [(onesPolicy ++ ".ab", 4)]⟩]

theorem validate_document_strictPayment :
    validate none loosePayment = .ok strictPayment ∧
      strictPayment.document = .obj [("type", .str "payMany"),
        ("outputs", .arr [.obj [("toAddress", .str "addr1qqqqqq"),
          ("assets", .obj [(onesPolicy ++ ".ab", .int 4)])]])] ∧
      validate none strictPayment.document = .ok strictPayment ∧
      (validate none strictPayment.document).map steps = .ok strictPayment.steps := by
  have hread : validate none loosePayment = .ok strictPayment := by rfl
  exact ⟨hread, rfl, validate_document hread⟩

end Action

end TxDraft
