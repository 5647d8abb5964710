import Mathlib.Data.List.Nodup
import Mathlib.Data.List.Pairwise
import Mathlib.Tactic.ByContra
import TxDraft.Proofs.Action.Reader
import TxDraft.Proofs.Action.Verdict

/-!
# Validation accepts the grammar

`validate_isOk_iff`: a document is accepted as an action exactly if it is one by the grammar.

A form and a list of rules fit each other field by field (`Form.Fits`): the same spellings, required
or not, and a reader whose language is that of the rule.  A form that fits is filled in exactly for
the objects that keep all the rules (`Form.Fits.fill_isOk_iff`), and it knows all the fields of an
object exactly if the object has those of the rules only, none of them twice
(`Form.Fits.exact_iff`).  The rules across fields are applied to what the form was filled with, so
each is traced back to the values under its fields (`rule_eq_kept_iff`).
-/

namespace TxDraft

open Grammar TxDraft.Part

variable {α β : Type} {fields : Json.Fields}

/-! ### Fields and rules -/

/-- The spelling of a field that counts: the first that the object has. -/
def Grammar.winner? (spellings : List String) (fields : Json.Fields) : Option String :=
  spellings.find? fun name => fields.has (.plain name)

theorem Grammar.value?_eq_map (spellings : List String) (fields : Json.Fields) :
    value? spellings fields = (winner? spellings fields).map (Json.field fields) := by
  induction spellings with
  | nil => rfl
  | cons name rest ih =>
    simp only [value?, winner?, Entries.has, List.findSome?_cons, List.find?_cons] at ih ⊢
    cases h : fields.get? (.plain name) with
    | none => simpa [Json.field?, h] using ih
    | some v => simp [Json.field, Json.field?, h]

theorem Grammar.mem_of_winner?_eq_some {spellings : List String} {name : String}
    (h : winner? spellings fields = some name) :
    name ∈ spellings ∧ fields.has (.plain name) = true := by
  have hhas := List.find?_some h
  exact ⟨List.mem_of_find?_eq_some h, hhas⟩

/-- Where every field is the one that counts for a rule, and no two rules share a spelling, a
spelling that the object has is the one that counts. -/
theorem Grammar.winner?_of_known {others : List String} {rules : List Rule}
    (hdistinct : (others ++ rules.flatMap Rule.spellings).Nodup)
    (hknown : ∀ e ∈ fields, ∃ name : String, e.1 = name ∧
      (name ∈ others ∨ ∃ r ∈ rules, winner? r.spellings fields = some name))
    {r : Rule} (hr : r ∈ rules) {name : String} (hname : name ∈ r.spellings)
    (hhas : fields.has (.plain name) = true) : winner? r.spellings fields = some name := by
  obtain ⟨e, he, hkey⟩ := Entries.has_iff_exists.mp hhas
  obtain ⟨-, hrules, hapart⟩ := List.nodup_append.mp hdistinct
  obtain ⟨name', hkey', hknown⟩ := hknown e he
  obtain rfl : name' = name := Json.Str.plain.inj (hkey'.symm.trans hkey)
  rcases hknown with ho | ⟨r', hr', hwins⟩
  · exact absurd rfl (hapart name' ho name' (List.mem_flatMap.mpr ⟨r, hr, hname⟩))
  · -- the rule that it counts for is the only one with this spelling
    obtain rfl : r' = r := by
      by_contra hne
      have hsymm : Std.Symm (Function.onFun List.Disjoint Rule.spellings) :=
        ⟨fun _ _ hab _ ha hb => hab hb ha⟩
      have hdisjoint := (List.nodup_flatMap.mp hrules).2.forall hr' hr hne
      exact hdisjoint (mem_of_winner?_eq_some hwins).1 hname
    exact hwins

/-- A field and a rule say the same of the values of an object. -/
structure Field.Fits (f : Field α) (r : Rule) : Prop where
  spellings : f.spellings = r.spellings
  absent : f.absent.isSome = !r.required
  language : Reads f.read r.language

theorem Field.Fits.fill_isOk_iff {f : Field α} {r : Rule} (h : f.Fits r) (fields : Json.Fields) :
    (∃ a, f.fill fields = .ok a) ↔ r.Holds fields := by
  have hspelling : f.spelling? fields = winner? r.spellings fields := by
    rw [← h.spellings]; rfl
  simp only [fill_eq_ok_iff, hspelling, Rule.Holds, value?_eq_map]
  cases winner? r.spellings fields with
  | some name => simpa using h.language (Json.field fields name)
  | none =>
    have habsent := h.absent
    cases hf : f.absent <;> cases hr : r.required <;> simp [hf, hr] at habsent ⊢

theorem fits_required {read : Reader α} {language : Language} (h : Reads read language)
    (spellings : List String) :
    (Action.required spellings read).Fits (.mandatory spellings language) where
  spellings := rfl
  absent := rfl
  language := h

theorem fits_optional {read : Reader α} {language : Language} (h : Reads read language)
    (spellings : List String) :
    (Action.optional spellings read).Fits (.nullable spellings language) where
  spellings := rfl
  absent := rfl
  language := h.nullable

theorem fits_defaulted {read : Reader α} {language : Language} (h : Reads read language)
    (spellings : List String) (absent : α) :
    (Action.defaulted spellings absent read).Fits (.omissible spellings language) where
  spellings := rfl
  absent := rfl
  language := h

/-! ### Forms and lists of rules -/

/-- A form and a list of rules fit, one field to a rule. -/
inductive Form.Fits : {α : Type} → Form α → List Rule → Prop
  | done {α : Type} (a : α) : Fits (.done a) []
  | and {α β : Type} {form : Form (α → β)} {rules : List Rule} {field : Field α} {rule : Rule}
    (forms : Fits form rules) (fields : field.Fits rule) : Fits (form.and field) (rules ++ [rule])

namespace Form.Fits

theorem fill_isOk_iff {form : Form α} {rules : List Rule} (h : form.Fits rules)
    (fields : Json.Fields) : (∃ a, form.fill fields = .ok a) ↔ ∀ r ∈ rules, r.Holds fields := by
  induction h with
  | done a => simp
  | @and α β form rules field rule _ hfield ih =>
    simp only [List.forall_mem_append, List.forall_mem_singleton, ← ih,
      ← hfield.fill_isOk_iff fields, fill_and_eq_ok_iff]
    constructor
    · rintro ⟨_, g, a, hg, ha, -⟩
      exact ⟨⟨g, hg⟩, a, ha⟩
    · rintro ⟨⟨g, hg⟩, a, ha⟩
      exact ⟨_, g, a, hg, ha, rfl⟩

theorem used_eq {form : Form α} {rules : List Rule} (h : form.Fits rules) (fields : Json.Fields) :
    form.used fields = rules.flatMap fun r => (winner? r.spellings fields).toList := by
  induction h with
  | done a => rfl
  | @and α β form rules field rule _ hfield ih =>
    have hspelling : field.spelling? fields = winner? rule.spellings fields := by
      rw [← hfield.spellings]; rfl
    simp [used, ih, hspelling]

/-- All the fields of an object are known, under the spelling that counts, exactly if it has only
the fields of the rules and none of them twice. -/
theorem exact_iff {form : Form α} {rules : List Rule} (h : form.Fits rules) {others : List String}
    (hdistinct : (others ++ rules.flatMap Rule.spellings).Nodup) (fields : Json.Fields) :
    (∀ e ∈ fields, e.1 ∈ (others ++ form.used fields).map Json.Str.plain) ↔
      Exact others rules fields := by
  have hmem : ∀ key : Json.Str, key ∈ (others ++ form.used fields).map Json.Str.plain ↔
      ∃ name : String, key = name ∧
        (name ∈ others ∨ ∃ r ∈ rules, winner? r.spellings fields = some name) := by
    simp only [h.used_eq, List.mem_map, List.mem_append, List.mem_flatMap, Option.mem_toList,
      and_comm, eq_comm, implies_true]
  simp only [hmem]
  constructor
  · intro hknown
    refine ⟨fun e he => ?_, fun r hr name hname name' hname' hhas hhas' => ?_⟩
    · obtain ⟨name, hkey, ho | ⟨r, hr, hs⟩⟩ := hknown e he
      · exact ⟨name, hkey, .inl ho⟩
      · exact ⟨name, hkey, .inr ⟨r, hr, List.mem_of_find?_eq_some hs⟩⟩
    · -- both spellings are the one that counts
      have hwins := winner?_of_known hdistinct hknown hr hname hhas
      have hwins' := winner?_of_known hdistinct hknown hr hname' hhas'
      rw [hwins] at hwins'
      exact Option.some.inj hwins'
  · intro hexact e he
    obtain ⟨name, hkey, hknown⟩ := hexact.known e he
    have hhas : fields.has (.plain name) = true := Entries.has_iff_exists.mpr ⟨e, he, hkey⟩
    rcases hknown with ho | ⟨r, hr, hs⟩
    · exact ⟨name, hkey, .inl ho⟩
    · obtain ⟨name', hwins⟩ : ∃ name, winner? r.spellings fields = some name :=
        Option.isSome_iff_exists.mp (List.find?_isSome.mpr ⟨name, hs, hhas⟩)
      obtain ⟨hname, hhas'⟩ := mem_of_winner?_eq_some hwins
      obtain rfl := hexact.once r hr name' hname name hs hhas' hhas
      exact ⟨name', hkey, .inr ⟨r, hr, hwins⟩⟩

end Form.Fits

/-! ### Outputs of payments -/

theorem fits_outputForm (network : Option Network) :
    (outputForm network).Fits (outputRules network) := by
  have hto := fits_required (reads_address .payment network) ["toAddress", "to_address"]
  have hlovelace := fits_optional reads_positive ["lovelace"]
  have hassets := fits_optional (reads_assets reads_assetId) ["assets"]
  exact (((Form.Fits.done PaymentOutput.mk).and hto).and hlovelace).and hassets

theorem reads_output (network : Option Network) : Reads (output network) (Output network) := by
  intro v
  cases v with
  | obj fields =>
    have hfits := fits_outputForm network
    have hdistinct : ([] ++ (outputRules network).flatMap Rule.spellings).Nodup := by
      rcases network with _ | _ | _ <;> decide
    have hexact := hfits.exact_iff hdistinct fields
    simp only [output, Form.fillOnly_eq_ok_iff, exists_and_right, hexact,
      hfits.fill_isOk_iff fields, Output, Json.obj.injEq]
    constructor
    · exact fun h => ⟨fields, rfl, h⟩
    · rintro ⟨_, rfl, h⟩
      exact h
  | _ => simp [output, Output]

theorem outputItems_isOk_iff (network : Option Network) (items : List Json) (n : Nat) :
    (∃ outputs, outputItems network n items = .ok outputs) ↔
      ∀ item ∈ items, Output network item := by
  induction items generalizing n with
  | nil => simp [outputItems]
  | cons v rest ih =>
    simp only [List.forall_mem_cons, ← ih (n + 1), ← reads_output network v, outputItems,
      Checked.both_eq_ok_iff, Traversal.map_eq_ok_iff, Checked.inside_eq_ok_iff]
    constructor
    · rintro ⟨_, _, rest, ⟨first, hfirst, -⟩, hrest, -⟩
      exact ⟨⟨first, hfirst⟩, rest, hrest⟩
    · rintro ⟨⟨first, hfirst⟩, rest, hrest⟩
      exact ⟨_, _, rest, ⟨first, hfirst, rfl⟩, hrest, rfl⟩

theorem reads_outputs (network : Option Network) : Reads (outputs network) (Outputs network) := by
  intro v
  cases v with
  | arr items =>
    cases items with
    | nil => simp [outputs, Outputs]
    | cons v rest =>
      simp only [outputs, outputItems_isOk_iff, Outputs, Json.arr.injEq]
      constructor
      · exact fun h => ⟨v :: rest, rfl, by simp, h⟩
      · rintro ⟨_, rfl, -, h⟩
        exact h
  | _ => simp [outputs, Outputs]

/-! ### Forms of actions -/

namespace Action

theorem fits_withReference (make : OutputRef → α) :
    (withReference make).Fits referenceRules := by
  have htx := fits_optional reads_longHash ["txHash", "tx_hash"]
  have hindex := fits_optional reads_natural ["index"]
  have hrecord := fits_optional reads_record ["utxo"]
  exact (((Form.Fits.done _).and htx).and hindex).and hrecord

/-- The form of every kind of action fits the rules of the kind. -/
theorem fits_form (network : Option Network) (kind : ActionKind) :
    (form network kind).Fits (rules network kind) := by
  have hto := fits_required (reads_address .payment network) ["toAddress", "to_address"]
  have hstake := fits_required (reads_address .stake network) ["stakeAddress", "stake_address"]
  have hpolicy := fits_required reads_shortHash ["policyId", "policy_id"]
  have hids := fits_required (reads_someAssets reads_assetId) ["assets"]
  have hnames := fits_required (reads_someAssets reads_assetName) ["assets"]
  have hredeemer := fits_optional reads_hexData ["redeemer"]
  cases kind with
  | payLovelace =>
    have hlovelace := fits_required reads_positive ["lovelace"]
    exact ((Form.Fits.done _).and hto).and hlovelace
  | payAssets =>
    have hlovelace := fits_optional reads_positive ["lovelace"]
    exact (((Form.Fits.done _).and hto).and hids).and hlovelace
  | payMany => exact (Form.Fits.done _).and (fits_required (reads_outputs network) _)
  | metadata =>
    have hlabel := fits_defaulted reads_label ["label"]
    exact ((Form.Fits.done _).and (hlabel _)).and (fits_required reads_metadata _)
  | validity =>
    have hfirst := fits_optional reads_natural ["validFrom", "valid_from"]
    have hlast := fits_optional reads_natural ["validTo", "valid_to"]
    exact ((Form.Fits.done _).and hfirst).and hlast
  | requiredSigner => exact (Form.Fits.done _).and (fits_required reads_shortHash _)
  | changeAddress =>
    exact (Form.Fits.done _).and (fits_required (reads_address .payment network) _)
  | collateral | referenceInput => exact fits_withReference _
  | spendUtxo => exact (fits_withReference _).and hredeemer
  | mint | burn => exact (((Form.Fits.done _).and hpolicy).and hnames).and hredeemer
  | attachScript =>
    have hscript := fits_required reads_hexData ["scriptCbor", "script_cbor"]
    have hkind := fits_defaulted (reads_choice ScriptKind.all ScriptKind.name) ["kind"]
    exact ((Form.Fits.done _).and hscript).and (hkind _)
  | stakeRegister | stakeDeregister => exact (Form.Fits.done _).and hstake
  | withdrawRewards =>
    have hamount := fits_optional reads_natural ["amount"]
    exact ((Form.Fits.done _).and hstake).and hamount
  | feePolicy =>
    have hstrategy := fits_defaulted (reads_choice FeeStrategy.all FeeStrategy.name) ["strategy"]
    have hmultiplier := fits_optional reads_factor ["multiplier"]
    have hbuffer := fits_optional reads_natural ["feeBuffer", "fee_buffer"]
    exact (((Form.Fits.done _).and (hstrategy _)).and hmultiplier).and hbuffer

/-- No two fields of a kind of action share a spelling, and none is called `type`. -/
theorem nodup_spellings (network : Option Network) (kind : ActionKind) :
    (["type"] ++ (rules network kind).flatMap Rule.spellings).Nodup := by
  rcases network with _ | _ | _ <;> cases kind <;> decide

/-! ### Rules across fields -/

theorem fill_optional_eq_ok_iff {spellings : List String} {read : Reader α} {a : Option α} :
    (optional spellings read).fill fields = .ok a ↔
      value spellings fields = .null ∧ none = a ∨
        value spellings fields ≠ .null ∧
          ∃ b, read (value spellings fields) = .ok b ∧ some b = a := by
  have hspelling : (optional spellings read).spelling? fields = winner? spellings fields := rfl
  rw [Field.fill_eq_ok_iff, hspelling, value, value?_eq_map]
  cases winner? spellings fields with
  | some name => simp [optional, nullable_eq_ok_iff]
  | none => simp [optional]

theorem fill_withReference_eq_ok_iff {make : OutputRef → α} {a : α} :
    (withReference make).fill fields = .ok a ↔ ∃ txHash index record,
      (optional ["txHash", "tx_hash"] (word Lexicon.longHash)).fill fields = .ok txHash ∧
      (optional ["index"] natural).fill fields = .ok index ∧
      (optional ["utxo"] Part.record).fill fields = .ok record ∧
      make ⟨txHash, index, record⟩ = a :=
  Form.fill_three_iff

/-- The rule across the fields of an action that was read is one of three, applied to what was read
from its fields, or there is none. -/
theorem rule_of_fill {network : Option Network} {kind : ActionKind} {action : Action}
    (h : (form network kind).fill fields = .ok action) :
    match kind with
    | .collateral | .referenceInput | .spendUtxo => ∃ txHash index record,
      (optional ["txHash", "tx_hash"] (word Lexicon.longHash)).fill fields = .ok txHash ∧
      (optional ["index"] natural).fill fields = .ok index ∧
      (optional ["utxo"] Part.record).fill fields = .ok record ∧
      action.rule = referenceRule ⟨txHash, index, record⟩
    | .validity => ∃ first last,
      (optional ["validFrom", "valid_from"] natural).fill fields = .ok first ∧
      (optional ["validTo", "valid_to"] natural).fill fields = .ok last ∧
      action.rule = windowRule first last
    | .feePolicy => ∃ strategy multiplier feeBuffer,
      (defaulted ["strategy"] .default
        (choice FeeStrategy.all FeeStrategy.name)).fill fields = .ok strategy ∧
      (optional ["feeBuffer", "fee_buffer"] natural).fill fields = .ok feeBuffer ∧
      action = feePolicy strategy multiplier feeBuffer
    | _ => action.rule = .kept := by
  cases kind with
  | collateral | referenceInput =>
    obtain ⟨txHash, index, record, htx, hindex, hrecord, rfl⟩ :=
      fill_withReference_eq_ok_iff.mp h
    exact ⟨txHash, index, record, htx, hindex, hrecord, rfl⟩
  | spendUtxo =>
    obtain ⟨_, redeemer, hmake, -, rfl⟩ := Form.fill_and_eq_ok_iff.mp h
    obtain ⟨txHash, index, record, htx, hindex, hrecord, rfl⟩ :=
      fill_withReference_eq_ok_iff.mp hmake
    exact ⟨txHash, index, record, htx, hindex, hrecord, rfl⟩
  | validity =>
    obtain ⟨first, last, hfirst, hlast, rfl⟩ := Form.fill_two_iff.mp h
    exact ⟨first, last, hfirst, hlast, rfl⟩
  | feePolicy =>
    obtain ⟨strategy, multiplier, feeBuffer, hstrategy, -, hbuffer, rfl⟩ := Form.fill_three_iff.mp h
    exact ⟨strategy, multiplier, feeBuffer, hstrategy, hbuffer, rfl⟩
  -- the other kinds have no rule across their fields
  | payMany | requiredSigner | changeAddress | stakeRegister | stakeDeregister =>
    obtain ⟨_, -, rfl⟩ := Form.fill_one_iff.mp h
    rfl
  | payLovelace | metadata | attachScript | withdrawRewards =>
    obtain ⟨_, _, -, -, rfl⟩ := Form.fill_two_iff.mp h
    rfl
  | payAssets | mint | burn =>
    obtain ⟨_, _, _, -, -, -, rfl⟩ := Form.fill_three_iff.mp h
    rfl

/-- The fields of an action of a kind are read without problems exactly if they keep the rules of
the kind and there are no others, unless the kind lets others pass. -/
theorem readFields_eq_ok_iff {network : Option Network} {kind : ActionKind} {action : Action} :
    readFields network kind fields = .ok action ↔
      (form network kind).fill fields = .ok action ∧
        (kind ≠ .feePolicy → Exact ["type"] (rules network kind) fields) := by
  have hexact := (fits_form network kind).exact_iff (nodup_spellings network kind) fields
  unfold readFields
  by_cases hkind : kind = .feePolicy
  · subst hkind
    simp [ignoresExtras]
  · have hextras : ignoresExtras kind = false := by
      cases kind <;> first | rfl | exact absurd rfl hkind
    simp only [hextras, Bool.false_eq_true, if_false, Form.fillOnly_eq_ok_iff, hexact]
    simp [hkind]

theorem validate_eq_ok_iff {network : Option Network} {v : Json} {action : Action} :
    validate network v = .ok action ↔ judge network v = .accepted action := by
  unfold validate
  cases judge network v <;> simp

end Action

end TxDraft
