import TxDraft.Proofs.Action.Minting

/-!
# What validation promises

Facts about the actions of a validated sequence that a builder relies on without checking them
again: a redeemer is never an empty text (`redeemer?_ne_empty_of_mem`), and a payment to many has at
least one output, each with lovelace above zero if it says how much (`pays_of_mem`).  Each is a fact
about the form that the action was read by (`exists_fill_of_mem`).
-/

namespace TxDraft

open TxDraft.Part

/-- The output says a sum above zero if it says one. -/
def PaymentOutput.Pays (out : PaymentOutput) : Prop :=
  ∀ n, out.lovelace = some n → 0 < n

namespace Action

variable {network : Option Network} {fields : Json.Fields} {actions : List Action} {action : Action}

/-- The redeemer that an action carries. -/
def redeemer? : Action → Option String
  | spendUtxo _ redeemer | mint _ _ redeemer | burn _ _ redeemer => redeemer
  | _ => none

/-! ### Where validated actions come from -/

theorem accepted_of_mem_judgeAll {position : Nat} {items : List Json} {issues : List Issue}
    (h : judgeAll network position items = .ok (issues, actions)) (haction : action ∈ actions) :
    ∃ item ∈ items, judge network item = .accepted action := by
  induction items generalizing position issues actions with
  | nil =>
    cases h
    cases haction
  | cons v rest ih =>
    cases hverdict : judge network v with
    | broken fault =>
      simp only [judgeAll, hverdict] at h
      cases h
    | refused found =>
      simp only [judgeAll, hverdict] at h
      obtain ⟨⟨more, others⟩, hrest, hpure⟩ := Traversal.bind_eq_ok_iff.mp h
      cases hpure
      obtain ⟨item, hitem, haccepted⟩ := ih hrest haction
      exact ⟨item, List.mem_cons_of_mem v hitem, haccepted⟩
    | accepted first =>
      simp only [judgeAll, hverdict] at h
      obtain ⟨⟨more, others⟩, hrest, hpure⟩ := Traversal.bind_eq_ok_iff.mp h
      cases hpure
      rcases List.mem_cons.mp haction with rfl | hother
      · exact ⟨v, List.mem_cons_self, hverdict⟩
      · obtain ⟨item, hitem, haccepted⟩ := ih hrest hother
        exact ⟨item, List.mem_cons_of_mem v hitem, haccepted⟩

/-- Every action of a validated sequence was validated on its own. -/
theorem exists_validate_of_mem {v : Json} (h : validateAll network v = .ok actions)
    (haction : action ∈ actions) : ∃ item, validate network item = .ok action := by
  unfold validateAll at h
  split at h
  · cases h
  · obtain ⟨⟨issues, judged⟩, hjudge, hanswer⟩ := Traversal.bind_eq_ok_iff.mp h
    cases issues with
    | nil =>
      cases hanswer
      obtain ⟨item, -, haccepted⟩ := accepted_of_mem_judgeAll hjudge haction
      exact ⟨item, validate_eq_ok_iff.mpr haccepted⟩
    | cons issue others => cases hanswer
  · cases h

/-- Every action of a validated sequence was read by the form of its kind. -/
theorem exists_fill_of_mem {v : Json} (h : validateAll network v = .ok actions)
    (haction : action ∈ actions) :
    ∃ fields, (form network action.kind).fill fields = .ok action := by
  obtain ⟨item, hitem⟩ := exists_validate_of_mem h haction
  rw [validate_eq_ok_iff, judge_eq_accepted_iff] at hitem
  obtain ⟨kind, fields, -, hread⟩ := hitem
  rw [readKind_eq_accepted_iff, readFields_eq_ok_iff] at hread
  have hfill := hread.1.1
  rw [kind_of_fill hfill]
  exact ⟨fields, hfill⟩

/-! ### Redeemers -/

theorem ne_empty_of_fill {redeemer : Option String}
    (h : redeemerField.fill fields = .ok redeemer) : redeemer ≠ some "" := by
  rcases fill_optional_eq_ok_iff.mp h with ⟨-, rfl⟩ | ⟨-, word, hread, rfl⟩
  · nofun
  · obtain ⟨s, -, hs⟩ := word_eq_ok_iff.mp hread
    have hdata := (Lexicon.shaped_eq_ok_iff.mp hs).2
    rintro ⟨⟩
    cases hdata

/-- A redeemer of a validated action is not empty. -/
theorem redeemer?_ne_empty_of_mem {v : Json} (h : validateAll network v = .ok actions)
    (haction : action ∈ actions) : action.redeemer? ≠ some "" := by
  obtain ⟨fields, hfill⟩ := exists_fill_of_mem h haction
  cases action with
  | spendUtxo ref redeemer =>
    obtain ⟨_, _, hmake, hredeemer, heq⟩ := Form.fill_and_eq_ok_iff.mp hfill
    obtain ⟨_, _, _, -, -, -, rfl⟩ := fill_withReference_eq_ok_iff.mp hmake
    cases heq
    exact ne_empty_of_fill hredeemer
  | mint policy assets redeemer | burn policy assets redeemer =>
    obtain ⟨_, _, _, -, -, hredeemer, heq⟩ := Form.fill_three_iff.mp hfill
    cases heq
    exact ne_empty_of_fill hredeemer
  | _ =>
    intro hnone
    cases hnone

/-! ### Payments to many -/

theorem pays_of_output {v : Json} {out : PaymentOutput} (h : output network v = .ok out) :
    out.Pays := by
  cases v with
  | obj fields =>
    obtain ⟨hfill, -⟩ := Form.fillOnly_eq_ok_iff.mp h
    obtain ⟨address, lovelace, assets, -, hlovelace, -, rfl⟩ := Form.fill_three_iff.mp hfill
    rintro n rfl
    have hfield : (optional ["lovelace"] positive).fill fields = .ok (some n) := hlovelace
    rcases fill_optional_eq_ok_iff.mp hfield with ⟨-, hnone⟩ | ⟨-, m, hread, hm⟩
    · cases hnone
    · cases hm
      have hpasses := (amount_eq_ok_iff.mp hread).2
      simpa using hpasses
  | _ => cases h

theorem pays_of_outputItems {n : Nat} {items : List Json} {outs : List PaymentOutput}
    (h : outputItems network n items = .ok outs) :
    outs.length = items.length ∧ ∀ out ∈ outs, out.Pays := by
  induction items generalizing n outs with
  | nil =>
    cases h
    simp
  | cons v rest ih =>
    obtain ⟨_, more, hfirst, hmore, rfl⟩ := Checked.both_eq_ok_iff.mp h
    obtain ⟨out, hout, rfl⟩ := Traversal.map_eq_ok_iff.mp hfirst
    obtain ⟨hlength, hpays⟩ := ih hmore
    exact ⟨by rw [List.length_cons, List.length_cons, hlength],
      List.forall_mem_cons.mpr ⟨pays_of_output (Checked.inside_eq_ok_iff.mp hout), hpays⟩⟩

/-- A validated payment to many has outputs, and each pays. -/
theorem pays_of_mem {v : Json} {outs : List PaymentOutput}
    (h : validateAll network v = .ok actions) (haction : .payMany outs ∈ actions) :
    outs ≠ [] ∧ ∀ out ∈ outs, out.Pays := by
  obtain ⟨fields, hfill⟩ := exists_fill_of_mem h haction
  obtain ⟨found, houtputs, heq⟩ := Form.fill_one_iff.mp hfill
  cases heq
  obtain ⟨value, hread⟩ := exists_read_of_fill houtputs
  unfold Part.outputs at hread
  split at hread
  · cases hread
  · next items hitems =>
    obtain ⟨hlength, hpays⟩ := pays_of_outputItems hread
    refine ⟨?_, hpays⟩
    rintro rfl
    exact hitems (List.length_eq_zero_iff.mp hlength.symm)
  · cases hread

end Action

end TxDraft
