import TxDraft.Proofs.Action.Itemwise
import TxDraft.Proofs.Utxo.Reading

/-!
# Validation of a sequence

A sequence is answered with its actions, one to each item and in the same order, or refused with at
least one issue, unless an item is an action but for a record that is foreign; such an item stops
the work with a failure of another kind (`validateAll_answered_iff`).
-/

namespace TxDraft

open Grammar TxDraft.Part

variable {fields : Json.Fields}

/-- The value is an action that refers to an output by a record, and would be one by the grammar if
the record were not foreign. -/
def Grammar.HoldsForeign (network : Option Network) (v : Json) : Prop :=
  ∃ fields kind, v = .obj fields ∧ Json.field? fields "type" = some (.str kind.tag) ∧
    (kind = .collateral ∨ kind = .referenceInput ∨ kind = .spendUtxo) ∧
    Exact ["type"] (rules network kind) fields ∧
    (∀ r ∈ rules network kind, r.Holds fields) ∧
    ∃ record, value ["utxo"] fields = .obj record ∧ Utxo.Foreign record

namespace Action

/-! ### Single documents -/

theorem referenceRule_unruled_iff {txHash : Option String} {index : Option Int}
    {record : Option Json.Fields}
    (hrecord : (optional ["utxo"] Part.record).fill fields = .ok record) :
    (∃ fault, referenceRule ⟨txHash, index, record⟩ = .unruled fault) ↔
      ∃ found, value ["utxo"] fields = .obj found ∧ Utxo.Foreign found := by
  rcases fill_optional_eq_ok_iff.mp hrecord with ⟨hnull, rfl⟩ | ⟨-, found, hread, rfl⟩
  -- without a record the rule is about the other two fields only
  · have hnone : ∀ found, value ["utxo"] fields ≠ .obj found := by
      intro found hvalue
      rw [hnull] at hvalue
      cases hvalue
    cases txHash <;> cases index <;> simp [referenceRule, hnone]
  · rw [record_eq_ok_iff] at hread
    have hforeign : (∃ record, value ["utxo"] fields = .obj record ∧ Utxo.Foreign record) ↔
        Utxo.Foreign found := by
      simp [hread]
    rw [hforeign, ← Utxo.ofFields_unworded_iff]
    simp only [referenceRule]
    cases Utxo.ofFields found with
    | ok u => simp
    | error fault => cases hmessage : fault.message? <;> simp [hmessage]

theorem rule_unruled_iff {network : Option Network} {kind : ActionKind} {action : Action}
    (h : (form network kind).fill fields = .ok action) :
    (∃ fault, action.rule = .unruled fault) ↔
      (kind = .collateral ∨ kind = .referenceInput ∨ kind = .spendUtxo) ∧
        ∃ record, value ["utxo"] fields = .obj record ∧ Utxo.Foreign record := by
  have hrule := rule_of_fill h
  cases kind with
  | collateral | referenceInput | spendUtxo =>
    obtain ⟨txHash, index, record, -, -, hrecord, hrule⟩ := hrule
    rw [hrule, referenceRule_unruled_iff hrecord]
    simp
  | validity =>
    -- the other rules are kept or broken
    obtain ⟨first, last, -, -, hrule⟩ := hrule
    rw [hrule]
    unfold windowRule
    split
    · simp
    · split <;> simp
    · simp
  | feePolicy =>
    obtain ⟨strategy, multiplier, feeBuffer, -, -, rfl⟩ := hrule
    cases strategy <;> cases feeBuffer <;> simp [rule]
  | _ => simp [show action.rule = .kept from hrule]

/-- A document breaks its reader exactly if it holds a foreign record. -/
theorem judge_broken_iff {network : Option Network} {v : Json} :
    (∃ fault, judge network v = .broken fault) ↔ HoldsForeign network v := by
  simp only [judge_eq_broken_iff, readKind_eq_broken_iff, readFields_eq_ok_iff]
  constructor
  · rintro ⟨fault, kind, fields, ⟨rfl, htag⟩, action, ⟨hfill, hexact⟩, hrule⟩
    obtain ⟨hkind, hforeign⟩ := (rule_unruled_iff hfill).mp ⟨fault, hrule⟩
    -- the one kind that lets other fields pass has no record
    have hne : kind ≠ .feePolicy := by
      rintro rfl
      simp at hkind
    exact ⟨fields, kind, rfl, htag, hkind, hexact hne,
      ((fits_form network kind).fill_isOk_iff fields).mp ⟨action, hfill⟩, hforeign⟩
  · rintro ⟨fields, kind, rfl, htag, hkind, hexact, hrules, hforeign⟩
    obtain ⟨action, hfill⟩ := ((fits_form network kind).fill_isOk_iff fields).mpr hrules
    obtain ⟨fault, hrule⟩ := (rule_unruled_iff hfill).mpr ⟨hkind, hforeign⟩
    exact ⟨fault, kind, fields, ⟨rfl, htag⟩, action, ⟨hfill, fun _ => hexact⟩, hrule⟩

/-! ### Sequences -/

/-- A broken document stops the work on a row. -/
theorem judgeAll_of_broken {network : Option Network} {items : List Json}
    (h : ∃ item ∈ items, ∃ fault, judge network item = .broken fault) (position : Nat) :
    ∃ fault, judgeAll network position items = .error (.unexpected (.record fault)) := by
  induction items generalizing position with
  | nil => simp at h
  | cons v rest ih =>
    cases hverdict : judge network v with
    | broken fault => exact ⟨fault, by simp only [judgeAll, hverdict]⟩
    | accepted action | refused found =>
      -- the broken document is further on
      obtain ⟨item, hitem, fault, hbroken⟩ := h
      have hrest : item ∈ rest := by
        rcases List.mem_cons.mp hitem with rfl | hrest
        · rw [hverdict] at hbroken
          cases hbroken
        · exact hrest
      obtain ⟨fault', hjudge⟩ := ih ⟨item, hrest, fault, hbroken⟩ (position + 1)
      refine ⟨fault', ?_⟩
      simp only [judgeAll, hverdict, hjudge]
      rfl

/-- What validation answers: the action of every item, in order, or a refusal with issues. -/
def Answered (network : Option Network) (v : Json) : Prop :=
  (∃ items actions, v = .arr items ∧ validateAll network v = .ok actions ∧
    List.Forall₂ (fun item action => validate network item = .ok action) items actions) ∨
  ∃ issues, issues ≠ [] ∧ validateAll network v = .error (.invalid issues)

theorem not_answered_of_record {network : Option Network} {v : Json} {fault : Utxo.Fault}
    (h : validateAll network v = .error (.unexpected (.record fault))) : ¬ Answered network v := by
  rintro (⟨items, actions, -, hok, -⟩ | ⟨issues, -, hinvalid⟩)
  · rw [h] at hok
    cases hok
  · rw [h] at hinvalid
    cases hinvalid

theorem answered_of_unbroken {network : Option Network} {items : List Json}
    (h : ∀ item ∈ items, ¬ HoldsForeign network item) : Answered network (.arr items) := by
  by_cases hnil : items = []
  -- an empty sequence is refused as a whole
  · exact Or.inr ⟨_, List.cons_ne_nil _ _, by rw [hnil]; rfl⟩
  · have hunbroken : ∀ item ∈ items, Unbroken network item :=
      fun item hitem fault hbroken => h item hitem (judge_broken_iff.mp ⟨fault, hbroken⟩)
    by_cases hissues : itemIssues network 0 items = []
    · have hactions := (itemIssues_eq_nil_iff hunbroken 0).mp hissues
      exact Or.inl ⟨items, _, rfl, validateAll_of_actions hnil hactions,
        forall₂_itemActions hactions⟩
    · exact Or.inr ⟨_, hissues, validateAll_of_issues hunbroken hissues⟩

theorem validateAll_of_broken {network : Option Network} {items : List Json}
    (h : ∃ item ∈ items, HoldsForeign network item) :
    ∃ fault, validateAll network (.arr items) = .error (.unexpected (.record fault)) := by
  obtain ⟨item, hitem, hforeign⟩ := h
  obtain ⟨fault, hjudge⟩ := judgeAll_of_broken ⟨item, hitem, judge_broken_iff.mpr hforeign⟩ 0
  refine ⟨fault, ?_⟩
  rw [validateAll_arr network (List.ne_nil_of_mem hitem), hjudge]
  rfl

/-- Every document is answered, unless it is a sequence with an item whose record is foreign: then
the fault of a record passes through. -/
theorem validateAll_answered_iff (network : Option Network) (v : Json) :
    (Answered network v ↔ ¬ ∃ items, v = .arr items ∧ ∃ item ∈ items, HoldsForeign network item) ∧
      (¬ Answered network v →
        ∃ fault, validateAll network v = .error (.unexpected (.record fault))) := by
  by_cases h : ∃ items, v = .arr items ∧ ∃ item ∈ items, HoldsForeign network item
  · obtain ⟨items, rfl, hforeign⟩ := id h
    obtain ⟨fault, hfault⟩ := validateAll_of_broken hforeign
    exact ⟨iff_of_false (not_answered_of_record hfault) (not_not_intro h), fun _ => ⟨fault, hfault⟩⟩
  · have hanswered : Answered network v := by
      cases v with
      | arr items =>
        apply answered_of_unbroken
        intro item hitem hforeign
        exact h ⟨items, rfl, item, hitem, hforeign⟩
      | _ => exact Or.inr ⟨_, List.cons_ne_nil _ _, rfl⟩
    exact ⟨iff_of_true hanswered h, fun hnot => absurd hanswered hnot⟩

/-- A sequence whose only action gives collateral by a record in which a unit is a number. -/
def numbered : Json :=
  .arr [.obj [("type", .str "collateral"), ("utxo", .obj [
    ("tx_hash", .str "aa"), ("output_index", .int 0),
    ("amount", .arr [.obj [("unit", .int 5), ("quantity", .int 1)]])])]]

theorem numbered_not_answered :
    validateAll none numbered = .error (.unexpected (.record (.value .unitNotText))) ∧
      ¬ Answered none numbered := by
  have hfault :
      validateAll none numbered = .error (.unexpected (.record (.value .unitNotText))) := rfl
  exact ⟨hfault, not_answered_of_record hfault⟩

end Action

end TxDraft
