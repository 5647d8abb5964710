import TxDraft.Form
import TxDraft.Proofs.Traversal

/-!
# Filling in forms

When a part is read without problems, part by part: a function and its argument
(`Checked.both_eq_ok_iff`), a field (`Field.fill_eq_ok_iff`), a form with one more field
(`Form.fill_and_eq_ok_iff`, and for the fields of short forms together `Form.fill_three_iff` and the
like), and a form that has to know all the fields of the object
(`Form.fillOnly_eq_ok_iff`).  The problems are those of the parts, one after the other
(`Checked.problems_both`, `Form.problems_fillOnly`).
-/

namespace TxDraft

variable {α β : Type}

namespace Checked

@[simp] theorem complain_ne_ok {complaint : Complaint} {a : α} :
    (complain complaint : Checked α) ≠ .ok a := by
  simp [complain]

@[simp] theorem inside_eq_ok_iff {part : PathPart} {c : Checked α} {a : α} :
    c.inside part = .ok a ↔ c = .ok a := by
  cases c <;> simp [inside]

/-- A function and its argument are both read without problems, or there is no value. -/
theorem both_eq_ok_iff {f : Checked (α → β)} {c : Checked α} {b : β} :
    f.both c = .ok b ↔ ∃ g a, f = .ok g ∧ c = .ok a ∧ g a = b := by
  cases f <;> cases c <;> simp [both]

@[simp] theorem problems_ok (a : α) : problems (.ok a : Checked α) = [] := rfl

@[simp] theorem problems_error (found : List Problem) :
    problems (.error found : Checked α) = found := rfl

end Checked

namespace Field

variable {f : Field α} {fields : Json.Fields}

/-- A field is read from under the name that counts, or it is absent and may be. -/
theorem fill_eq_ok_iff {a : α} :
    f.fill fields = .ok a ↔
      (∃ name, f.spelling? fields = some name ∧ f.read (Json.field fields name) = .ok a) ∨
        f.spelling? fields = none ∧ f.absent = some a := by
  unfold fill
  cases f.spelling? fields with
  | some name => simp
  | none => cases f.absent <;> simp

end Field

namespace Form

variable {fields : Json.Fields}

@[simp] theorem fill_done {a b : α} : (done a).fill fields = .ok b ↔ a = b := by
  simp [fill]

theorem fill_and_eq_ok_iff {form : Form (α → β)} {field : Field α} {b : β} :
    (form.and field).fill fields = .ok b ↔
      ∃ g a, form.fill fields = .ok g ∧ field.fill fields = .ok a ∧ g a = b :=
  Checked.both_eq_ok_iff

section fields

variable {α₁ α₂ α₃ : Type} {x₁ : Field α₁} {x₂ : Field α₂} {x₃ : Field α₃} {b : β}

theorem fill_one_iff {f : α₁ → β} :
    ((done f).and x₁).fill fields = .ok b ↔ ∃ a₁, x₁.fill fields = .ok a₁ ∧ f a₁ = b := by
  simp [fill_and_eq_ok_iff]

theorem fill_two_iff {f : α₁ → α₂ → β} :
    (((done f).and x₁).and x₂).fill fields = .ok b ↔
      ∃ a₁ a₂, x₁.fill fields = .ok a₁ ∧ x₂.fill fields = .ok a₂ ∧ f a₁ a₂ = b := by
  rw [fill_and_eq_ok_iff]
  simp only [fill_one_iff]
  constructor
  · rintro ⟨_, a₂, ⟨a₁, h₁, rfl⟩, h₂, h⟩
    exact ⟨a₁, a₂, h₁, h₂, h⟩
  · rintro ⟨a₁, a₂, h₁, h₂, h⟩
    exact ⟨_, a₂, ⟨a₁, h₁, rfl⟩, h₂, h⟩

theorem fill_three_iff {f : α₁ → α₂ → α₃ → β} :
    ((((done f).and x₁).and x₂).and x₃).fill fields = .ok b ↔
      ∃ a₁ a₂ a₃, x₁.fill fields = .ok a₁ ∧ x₂.fill fields = .ok a₂ ∧ x₃.fill fields = .ok a₃ ∧
        f a₁ a₂ a₃ = b := by
  rw [fill_and_eq_ok_iff]
  simp only [fill_two_iff]
  constructor
  · rintro ⟨_, a₃, ⟨a₁, a₂, h₁, h₂, rfl⟩, h₃, h⟩
    exact ⟨a₁, a₂, a₃, h₁, h₂, h₃, h⟩
  · rintro ⟨a₁, a₂, a₃, h₁, h₂, h₃, h⟩
    exact ⟨_, a₃, ⟨a₁, a₂, h₁, h₂, rfl⟩, h₃, h⟩

end fields

theorem extras_eq_nil_iff {names : List String} :
    extras names fields = [] ↔ ∀ e ∈ fields, e.1 ∈ names.map Json.Str.plain := by
  simp [extras]

/-- A form that must know all fields is filled in if it is filled in at all and nothing is left
over. -/
theorem fillOnly_eq_ok_iff {form : Form α} {names : List String} {a : α} :
    form.fillOnly names fields = .ok a ↔
      form.fill fields = .ok a ∧
        ∀ e ∈ fields, e.1 ∈ (names ++ form.used fields).map Json.Str.plain := by
  rw [← extras_eq_nil_iff, fillOnly]
  cases form.fill fields <;> cases extras (names ++ form.used fields) fields <;> simp

end Form

end TxDraft
