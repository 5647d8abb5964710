import TxDraft.Proofs.Action.Verdict
import TxDraft.Proofs.Traversal

/-!
# Refusals are explained

No part of an action is refused without a problem that says why: reading never ends in an empty list
of problems, whatever the part is made of, so a document that is refused has at least one issue
(`Action.judge_refused_ne_nil`).
-/

namespace TxDraft

variable {α β : Type} {fields : Json.Fields}

/-- A refusal, if this is one, is explained by a problem. -/
def Checked.Explained (c : Checked α) : Prop :=
  c ≠ .error []

/-- Every refusal of a reader is explained. -/
def Part.Explained (read : Part.Reader α) : Prop :=
  ∀ v, (read v).Explained

/-! ### Reading part by part -/

namespace Checked

theorem explained_ok (a : α) : Explained (.ok a : Checked α) := by
  simp [Explained]

theorem explained_complain (complaint : Complaint) :
    Explained (complain complaint : Checked α) := by
  simp [Explained, complain]

theorem Explained.map {c : Checked α} (h : c.Explained) (f : α → β) :
    Explained (Except.map f c : Checked β) := by
  cases c with
  | ok a => exact explained_ok (f a)
  | error problems => simpa [Explained] using h

theorem Explained.inside {c : Checked α} (h : c.Explained) (part : PathPart) :
    (c.inside part).Explained := by
  cases c with
  | ok a => exact explained_ok a
  | error problems => simpa [Explained, Checked.inside] using h

/-- Where two parts are read, the problems of either are kept. -/
theorem Explained.both {f : Checked (α → β)} {c : Checked α} (hf : f.Explained) (hc : c.Explained) :
    (f.both c).Explained := by
  cases f with
  | ok f =>
    cases c with
    | ok a => exact explained_ok (f a)
    | error problems => simpa [Explained, Checked.both, Checked.problems] using hc
  | error problems =>
    have hne : problems ≠ [] := by simpa [Explained] using hf
    simp [Explained, Checked.both, Checked.problems, hne]

end Checked

open Checked

/-! ### Readers -/

namespace Part

theorem explained_nullable {read : Reader α} (h : Explained read) : Explained (nullable read) := by
  intro v
  unfold nullable
  split
  · exact explained_ok none
  · exact (h v).map some

theorem explained_word (read : Lexicon.Reader) : Explained (word read) := by
  intro v
  unfold word
  split
  · next s => cases h : read s.string <;> simp [Checked.Explained]
  · exact explained_complain _

theorem explained_amount (passes : Int → Option Complaint) : Explained (amount passes) := by
  intro v
  unfold amount
  split
  · exact explained_complain _
  · split
    · exact explained_complain _
    · exact explained_ok _

theorem explained_number : Explained number := by
  intro v
  unfold number
  split
  · exact explained_ok _
  · split
    · exact explained_ok _
    · exact explained_complain _
  · exact explained_ok _
  · split
    · exact explained_ok _
    · exact explained_complain _
  · exact explained_complain _
  · exact explained_complain _

theorem explained_factor : Explained factor := by
  intro v
  have h := explained_number v
  unfold factor
  cases hread : number v with
  | ok x =>
    dsimp only
    split
    · exact explained_ok x
    · exact explained_complain _
  | error problems => simpa [Checked.Explained, hread] using h

theorem explained_choice (choices : List α) (name : α → String) :
    Explained (choice choices name) := by
  intro v
  unfold choice
  split
  · split
    · exact explained_ok _
    · exact explained_complain _
  · exact explained_complain _

theorem explained_metadata : Explained metadata := by
  intro v
  unfold metadata
  split
  · exact explained_complain _
  · exact explained_ok v

theorem explained_record : Explained record := by
  intro v
  unfold record
  split
  · exact explained_ok _
  · exact explained_complain _

theorem explained_entries (read : Lexicon.Reader) (fields : Json.Fields) :
    (entries read fields).Explained := by
  induction fields with
  | nil => exact explained_ok []
  | cons e rest ih =>
    -- the problems of a key, of a quantity and of the later entries are all kept
    have hkey : ((word read (.str e.1)).inside keyPart).Explained :=
      (explained_word read _).inside _
    have hentry : (entry read e).Explained :=
      ((hkey.map Prod.mk).both (explained_amount _ e.2)).inside _
    exact (hentry.map List.cons).both ih

theorem explained_assets (read : Lexicon.Reader) : Explained (assets read) := by
  intro v
  unfold assets
  split
  · exact (explained_entries read _).map _
  · exact explained_complain _

theorem explained_someAssets (read : Lexicon.Reader) : Explained (someAssets read) := by
  intro v
  unfold someAssets
  split
  · exact explained_complain _
  · exact explained_assets read v

end Part

/-! ### Forms -/

/-- Every refusal of a field of the form is explained. -/
def Form.Explained {α : Type} : Form α → Prop
  | .done _ => True
  | .and form field => form.Explained ∧ Part.Explained field.read

theorem Field.explained_fill {f : Field α} (h : Part.Explained f.read) (fields : Json.Fields) :
    (f.fill fields).Explained := by
  unfold Field.fill
  split
  · exact (h _).inside _
  · split
    · exact explained_ok _
    · exact (explained_complain _).inside _

namespace Form

theorem Explained.fill {form : Form α} (h : form.Explained) (fields : Json.Fields) :
    (form.fill fields).Explained := by
  induction form with
  | done a => exact explained_ok a
  | and form field ih => exact (ih h.1).both (Field.explained_fill h.2 fields)

theorem Explained.fillOnly {form : Form α} (h : form.Explained) (names : List String)
    (fields : Json.Fields) : (form.fillOnly names fields).Explained := by
  have hfill := h.fill fields
  unfold Form.fillOnly
  cases hread : form.fill fields with
  | ok a => cases extras (names ++ form.used fields) fields <;> simp [Checked.Explained, problems]
  | error found =>
    have hne : found ≠ [] := by simpa [Checked.Explained, hread] using hfill
    simp [Checked.Explained, problems, hne]

end Form

theorem Part.explained_outputs (network : Option Network) : Part.Explained (outputs network) := by
  have hform : (outputForm network).Explained :=
    ⟨⟨⟨trivial, explained_word _⟩, explained_nullable (explained_amount _)⟩,
      explained_nullable (explained_assets _)⟩
  have houtput : Part.Explained (output network) := by
    intro v
    unfold output
    split
    · exact hform.fillOnly [] _
    · exact explained_complain _
  have hitems : ∀ (items : List Json) (n : Nat), (outputItems network n items).Explained := by
    intro items
    induction items with
    | nil => exact fun n => explained_ok []
    | cons v rest ih =>
      exact fun n => (((houtput v).inside (.position n)).map List.cons).both (ih (n + 1))
  intro v
  unfold outputs
  split
  · exact explained_complain _
  · exact hitems _ 0
  · exact explained_complain _

/-! ### Actions -/

namespace Action

open TxDraft.Part

theorem explained_form (network : Option Network) (kind : ActionKind) :
    (form network kind).Explained := by
  have hto : Part.Explained (toAddressField network).read := explained_word _
  have hstake : Part.Explained (stakeAddressField network).read := explained_word _
  have hpolicy : Part.Explained policyField.read := explained_word _
  have hnames : Part.Explained namesField.read := explained_someAssets _
  have hredeemer : Part.Explained redeemerField.read := explained_nullable (explained_word _)
  have hamount : Part.Explained (nullable natural) := explained_nullable (explained_amount _)
  have hreference : ∀ {α : Type} (make : OutputRef → α), (withReference make).Explained :=
    fun _ => ⟨⟨⟨trivial, explained_nullable (explained_word _)⟩, hamount⟩,
      explained_nullable explained_record⟩
  cases kind with
  | payLovelace => exact ⟨⟨trivial, hto⟩, explained_amount _⟩
  | payAssets =>
    exact ⟨⟨⟨trivial, hto⟩, explained_someAssets _⟩, explained_nullable (explained_amount _)⟩
  | payMany => exact ⟨trivial, explained_outputs network⟩
  | metadata => exact ⟨⟨trivial, explained_amount _⟩, explained_metadata⟩
  | validity => exact ⟨⟨trivial, hamount⟩, hamount⟩
  | requiredSigner | changeAddress => exact ⟨trivial, explained_word _⟩
  | collateral | referenceInput => exact hreference _
  | spendUtxo => exact ⟨hreference _, hredeemer⟩
  | mint | burn => exact ⟨⟨⟨trivial, hpolicy⟩, hnames⟩, hredeemer⟩
  | attachScript => exact ⟨⟨trivial, explained_word _⟩, explained_choice _ _⟩
  | stakeRegister | stakeDeregister => exact ⟨trivial, hstake⟩
  | withdrawRewards => exact ⟨⟨trivial, hstake⟩, hamount⟩
  | feePolicy =>
    exact ⟨⟨⟨trivial, explained_choice _ _⟩, explained_nullable explained_factor⟩, hamount⟩

theorem readKind_refused_ne_nil {network : Option Network} {kind : ActionKind}
    {problems : List Problem} (h : readKind network kind fields = .refused problems) :
    problems ≠ [] := by
  have hform := explained_form network kind
  have hfields : (readFields network kind fields).Explained := by
    unfold readFields
    split
    · exact hform.fill fields
    · exact hform.fillOnly ["type"] fields
  rw [readKind_eq] at h
  cases hread : readFields network kind fields with
  | error found =>
    obtain rfl : found = problems := by simpa [hread] using h
    simpa [Checked.Explained, hread] using hfields
  | ok action =>
    simp only [hread] at h
    cases hrule : action.rule with
    | broken complaint =>
      obtain rfl : [⟨[], complaint⟩] = problems := by simpa [hrule, Ruling.reading] using h
      exact List.cons_ne_nil _ _
    | _ => simp [hrule, Ruling.reading] at h

/-- A document that is refused has an issue. -/
theorem judge_refused_ne_nil {network : Option Network} {v : Json} {issues : List Issue}
    (h : judge network v = .refused issues) : issues ≠ [] := by
  rcases judge_cases network v with ⟨kind, fields, htagged⟩ | ⟨issue, hissue⟩
  · rw [judge_of_tagged htagged] at h
    cases hread : readKind network kind fields with
    | refused problems =>
      obtain rfl : problems.map Problem.issue = issues := by
        simpa [hread, Reading.verdict] using h
      exact fun hnil => readKind_refused_ne_nil hread (List.map_eq_nil_iff.mp hnil)
    | _ => simp [hread, Reading.verdict] at h
  · obtain rfl : [issue] = issues := by simpa [hissue] using h
    exact List.cons_ne_nil _ _

end Action

end TxDraft
