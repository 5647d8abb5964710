import TxDraft.Binary64
import TxDraft.Entries
import TxDraft.Json.Str

/-!
# JSON values

The values of JSON documents.  Integers are unbounded and kept apart from other numbers; strings may
hold surrogates; the fields of an object keep their order, and their names are distinct in every
object that is read from text.
-/

namespace TxDraft

inductive Json where
  | null
  | bool (b : Bool)
  | int (n : Int)
  | float (x : Binary64)
  | str (s : Json.Str)
  | arr (items : List Json)
  | obj (fields : List (Json.Str × Json))
  deriving Inhabited

namespace Json

abbrev Fields := Entries Str Json

/-- Is the value anything but null? -/
def isPresent : Json → Bool
  | null => false
  | _ => true

/-- Does the value count as true?  Null, false, zero and everything empty do not. -/
def isTruthy : Json → Bool
  | null => false
  | bool b => b
  | int n => n ≠ 0
  | float x => !x.isZero
  | str s => s ≠ .plain ""
  | arr items => !items.isEmpty
  | obj fields => !fields.isEmpty

/-- The value under a field name, if there is such a field. -/
def field? (fields : Fields) (name : String) : Option Json :=
  fields.get? (.plain name)

/-- The value under a field name, null if the field is absent. -/
def field (fields : Fields) (name : String) : Json :=
  (field? fields name).getD null

/-- Fields whose names are texts. -/
def plainFields (entries : Entries String Json) : Fields :=
  entries.map fun e => (.plain e.1, e.2)

/-- An object whose names are texts. -/
def ofEntries (entries : Entries String Json) : Json :=
  obj (plainFields entries)

/-- A text as a value. -/
def ofText (s : String) : Json :=
  str s

/-- A text if there is one, else null. -/
def ofText? (s : Option String) : Json :=
  match s with
  | some s => ofText s
  | none => null

end Json

end TxDraft
