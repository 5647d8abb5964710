import TxDraft.Proofs.Action.Acceptance
import TxDraft.Proofs.Action.Refusal

/-!
# Validation item by item

A sequence without a record that breaks its reader is validated as its items are, each on its own
(`validateAll_eq_itemwise`): with the action of every item, or with the issues of the items that are
none, each with the position of its item.

The work on a row keeps two lists side by side.  They are told apart first: the one is the issues
that the items have on their own (`itemIssues`), the other the actions that they are on their own
(`judgeAll_of_unbroken`).
-/

namespace TxDraft.Action

variable {network : Option Network} {items : List Json} {v : Json}

/-! ### Items on their own -/

/-- The issues that a document is refused with on its own. -/
def ownIssues (network : Option Network) (v : Json) : List Issue :=
  match validate network v with
  | .error (.invalid issues) => issues
  | _ => []

/-- The issues of the items of a row, each with the position of its item, the first of which is
given. -/
def itemIssues (network : Option Network) (position : Nat) (items : List Json) : List Issue :=
  (items.zipIdx position).flatMap fun e => (ownIssues network e.1).map (Issue.atIndex e.2)

/-- The action that a document is on its own. -/
def ownAction? (network : Option Network) (v : Json) : Option Action :=
  (validate network v).toOption

/-- The actions that the items of a row are on their own. -/
def itemActions (network : Option Network) (items : List Json) : List Action :=
  items.filterMap (ownAction? network)

/-- The document does not break its reader. -/
def Unbroken (network : Option Network) (v : Json) : Prop :=
  ∀ fault, judge network v ≠ .broken fault

theorem unbroken_iff :
    Unbroken network v ↔
      ∀ f, validate network v = .error f → ∃ issues, f = .invalid issues := by
  unfold Unbroken validate
  cases judge network v <;> simp

theorem itemIssues_cons (position : Nat) (v : Json) (rest : List Json) :
    itemIssues network position (v :: rest) =
      (ownIssues network v).map (Issue.atIndex position) ++
        itemIssues network (position + 1) rest := by
  rw [itemIssues, List.zipIdx_cons, List.flatMap_cons]
  rfl

/-- An item has no issues exactly if it is an action: no refusal comes without one. -/
theorem ownIssues_eq_nil_iff (h : Unbroken network v) :
    ownIssues network v = [] ↔ ∃ action, validate network v = .ok action := by
  unfold ownIssues validate
  cases hverdict : judge network v with
  | accepted action => simp
  | refused issues => simpa using judge_refused_ne_nil hverdict
  | broken fault => exact absurd hverdict (h fault)

theorem itemIssues_eq_nil_iff (h : ∀ item ∈ items, Unbroken network item) (position : Nat) :
    itemIssues network position items = [] ↔
      ∀ item ∈ items, ∃ action, validate network item = .ok action := by
  induction items generalizing position with
  | nil => simp [itemIssues]
  | cons v rest ih =>
    obtain ⟨hv, hrest⟩ := List.forall_mem_cons.mp h
    rw [itemIssues_cons, List.append_eq_nil_iff, List.map_eq_nil_iff, ownIssues_eq_nil_iff hv,
      ih hrest, List.forall_mem_cons]

theorem forall₂_itemActions (h : ∀ item ∈ items, ∃ action, validate network item = .ok action) :
    List.Forall₂ (fun item action => validate network item = .ok action) items
      (itemActions network items) := by
  induction items with
  | nil => exact .nil
  | cons v rest ih =>
    obtain ⟨⟨action, haction⟩, hrest⟩ := List.forall_mem_cons.mp h
    have hread : ownAction? network v = some action := by
      rw [ownAction?, haction]
      rfl
    rw [itemActions, List.filterMap_cons_some hread]
    exact .cons haction (ih hrest)

/-! ### Rows -/

/-- What a row gives: the issues of its items, and the actions that the others are. -/
theorem judgeAll_of_unbroken (h : ∀ item ∈ items, Unbroken network item) (position : Nat) :
    judgeAll network position items =
      .ok (itemIssues network position items, itemActions network items) := by
  induction items generalizing position with
  | nil => rfl
  | cons v rest ih =>
    obtain ⟨hv, hrest⟩ := List.forall_mem_cons.mp h
    have hjudge := ih hrest (position + 1)
    rw [itemIssues_cons, itemActions, List.filterMap_cons]
    unfold ownIssues ownAction? validate
    cases hverdict : judge network v with
    | accepted action =>
      simp only [judgeAll, hverdict, hjudge]
      rfl
    | refused issues =>
      simp only [judgeAll, hverdict, hjudge]
      rfl
    | broken fault => exact absurd hverdict (hv fault)

theorem validateAll_arr (network : Option Network) {items : List Json} (h : items ≠ []) :
    validateAll network (.arr items) = (do
      match ← judgeAll network 0 items with
      | ([], actions) => return actions
      | (issues, _) => throw (.invalid issues)) := by
  cases items with
  | nil => exact absurd rfl h
  | cons v rest => rfl

/-- A row all of whose items are actions is answered with them, one to each item. -/
theorem validateAll_of_actions (hne : items ≠ [])
    (h : ∀ item ∈ items, ∃ action, validate network item = .ok action) :
    validateAll network (.arr items) = .ok (itemActions network items) := by
  have hunbroken : ∀ item ∈ items, Unbroken network item := by
    intro item hitem
    obtain ⟨action, haction⟩ := h item hitem
    rw [unbroken_iff, haction]
    simp
  rw [validateAll_arr network hne, judgeAll_of_unbroken hunbroken 0,
    (itemIssues_eq_nil_iff hunbroken 0).mpr h]
  rfl

/-- A row with an item that is no action is refused with the issues of its items. -/
theorem validateAll_of_issues (h : ∀ item ∈ items, Unbroken network item)
    (hissues : itemIssues network 0 items ≠ []) :
    validateAll network (.arr items) = .error (.invalid (itemIssues network 0 items)) := by
  have hne : items ≠ [] := by
    rintro rfl
    exact hissues rfl
  rw [validateAll_arr network hne, judgeAll_of_unbroken h 0]
  cases hcases : itemIssues network 0 items with
  | nil => exact absurd hcases hissues
  | cons issue rest => rfl

/-- A sequence is validated item by item: it is accepted exactly if every item is, with the action
of each item in its place, and otherwise refused with the issues of each item that is no action, in
order and with its position. -/
theorem validateAll_eq_itemwise (network : Option Network) {items : List Json} (hne : items ≠ [])
    (hinvalid : ∀ item ∈ items, ∀ f, validate network item = .error f →
      ∃ issues, f = .invalid issues) :
    ((∃ actions, validateAll network (.arr items) = .ok actions) ↔
      ∀ item ∈ items, ∃ action, validate network item = .ok action) ∧
    (∀ actions, validateAll network (.arr items) = .ok actions →
      List.Forall₂ (fun item action => validate network item = .ok action) items actions) ∧
    ((¬ ∃ actions, validateAll network (.arr items) = .ok actions) →
      validateAll network (.arr items) = .error (.invalid (itemIssues network 0 items))) := by
  have hunbroken : ∀ item ∈ items, Unbroken network item :=
    fun item hitem => unbroken_iff.mpr (hinvalid item hitem)
  by_cases hactions : ∀ item ∈ items, ∃ action, validate network item = .ok action
  · have hok := validateAll_of_actions hne hactions
    refine ⟨iff_of_true ⟨_, hok⟩ hactions, fun actions hactions' => ?_, fun hnone => ?_⟩
    · obtain rfl : itemActions network items = actions := Except.ok.inj (hok.symm.trans hactions')
      exact forall₂_itemActions hactions
    · exact absurd ⟨_, hok⟩ hnone
  · have hissues : itemIssues network 0 items ≠ [] :=
      fun hnil => hactions ((itemIssues_eq_nil_iff hunbroken 0).mp hnil)
    have herror := validateAll_of_issues hunbroken hissues
    have hnone : ∀ actions, validateAll network (.arr items) ≠ .ok actions := by
      simp [herror]
    exact ⟨iff_of_false (fun ⟨actions, hok⟩ => hnone actions hok) hactions,
      fun actions hok => absurd hok (hnone actions), fun _ => herror⟩

/-- An action, a number, and an action with a field that its kind does not have. -/
def mixed : List Json :=
  [.obj [("type", .str "validity"), ("validFrom", .int 5)], .int 3,
    .obj [("type", .str "validity"), ("note", .null)]]

theorem validateAll_eq_itemwise_mixed :
    mixed ≠ [] ∧
      (∀ item ∈ mixed, ∀ f, validate none item = .error f → ∃ issues, f = .invalid issues) ∧
      validateAll none (.arr mixed) = .error (.invalid
        [⟨"action", "must be a JSON object", some 1⟩,
          ⟨"note", "Extra inputs are not permitted", some 2⟩]) := by
  have hne : mixed ≠ [] := List.cons_ne_nil _ _
  have hinvalid : ∀ item ∈ mixed, ∀ f, validate none item = .error f →
      ∃ issues, f = .invalid issues := by
    simp only [mixed, List.forall_mem_cons, List.not_mem_nil, false_implies, implies_true, and_true]
    refine ⟨?_, ?_, ?_⟩
    · rintro f ⟨⟩
    · rintro f ⟨⟩
      exact ⟨_, rfl⟩
    · rintro f ⟨⟩
      exact ⟨_, rfl⟩
  refine ⟨hne, hinvalid, (validateAll_eq_itemwise none hne hinvalid).2.2 ?_⟩
  rw [(validateAll_eq_itemwise none hne hinvalid).1]
  intro hall
  obtain ⟨action, haction⟩ := hall (.int 3) (by simp [mixed])
  cases haction

end TxDraft.Action
