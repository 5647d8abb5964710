import TxDraft.Complaint
import TxDraft.Json

/-!
# Forms

A form says which fields an object has, under which spellings, and how the value of each is read.
Filling it in reads the fields one after the other and lists the problems of all of them, so that
no problem hides another; a value comes out only if there are none.  Of several spellings of one
field the first in the form's order that the object has is the one that counts.
-/

namespace TxDraft

/-- What reading a part gives: its value, or what is wrong with it. -/
abbrev Checked (α : Type) := Except (List Problem) α

namespace Checked

/-- A part that has one thing wrong with it. -/
def complain {α : Type} (complaint : Complaint) : Checked α :=
  .error [⟨[], complaint⟩]

def problems {α : Type} : Checked α → List Problem
  | .ok _ => []
  | .error problems => problems

/-- What was read, if there are no problems. -/
def value? {α : Type} : Checked α → Option α
  | .ok a => some a
  | .error _ => none

/-- The part as a part of what holds it. -/
def inside {α : Type} (part : PathPart) (c : Checked α) : Checked α :=
  c.mapError fun problems => problems.map (Problem.inside part)

/-- A function and its argument, read one after the other; the problems of both are listed. -/
def both {α β : Type} (f : Checked (α → β)) (a : Checked α) : Checked β :=
  match f, a with
  | .ok f, .ok a => .ok (f a)
  | f, a => .error (f.problems ++ a.problems)

end Checked

/-- One field of a form. -/
structure Field (α : Type) where
  /-- The names that the field may have, the most important one first. -/
  spellings : List String
  /-- The value of the field where it is absent; without one the field is required. -/
  absent : Option α
  /-- How the value is read. -/
  read : Json → Checked α

namespace Field

variable {α : Type}

/-- The name under which an object has the field. -/
def spelling? (f : Field α) (fields : Json.Fields) : Option String :=
  f.spellings.find? fun name => (Json.field? fields name).isSome

/-- The name under which a missing field is reported. -/
def name (f : Field α) : String :=
  f.spellings.headD ""

/-- Reads the field from an object. -/
def fill (f : Field α) (fields : Json.Fields) : Checked α :=
  match f.spelling? fields with
  | some name => (f.read (Json.field fields name)).inside (.name name)
  | none =>
    match f.absent with
    | some a => .ok a
    | none => (Checked.complain .missing).inside (.name f.name)

end Field

/-- A form: a value, or a form for a function and one more field for its argument. -/
inductive Form : Type → Type 1 where
  | done {α : Type} (a : α) : Form α
  | and {α β : Type} (form : Form (α → β)) (field : Field α) : Form β

namespace Form

/-- Reads the fields of a form from an object. -/
def fill {α : Type} (fields : Json.Fields) : Form α → Checked α
  | done a => .ok a
  | and form field => (form.fill fields).both (field.fill fields)

/-- The names under which an object has the fields of a form. -/
def used {α : Type} (fields : Json.Fields) : Form α → List String
  | done _ => []
  | and form field => form.used fields ++ (field.spelling? fields).toList

/-- A problem for every field of an object that is not among the names. -/
def extras (names : List String) (fields : Json.Fields) : List Problem :=
  (fields.filter fun e => !(names.map Json.Str.plain).contains e.1).map fun e =>
    ⟨[.name e.1.string], .extra⟩

/-- Reads a form from an object that may have no other fields but those with the given names. -/
def fillOnly {α : Type} (form : Form α) (names : List String) (fields : Json.Fields) : Checked α :=
  match form.fill fields, extras (names ++ form.used fields) fields with
  | .ok a, [] => .ok a
  | c, problems => .error (c.problems ++ problems)

end Form

end TxDraft
