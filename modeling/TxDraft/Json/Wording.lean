import TxDraft.Json
import TxDraft.Binary64.Shortest
import TxDraft.Text.Quoted

/-!
# JSON values in messages

How a message shows a value.  `shown` puts strings in quotes; `wording` leaves a string as it is;
`kindName` names the kind of the value.
-/

namespace TxDraft.Json

/-- How messages spell the numbers that are not finite. -/
def spokenNumbers : Binary64.SpecialWords := ⟨"inf", "nan"⟩

mutual

/-- The value as a message shows it. -/
def shown : Json → String
  | null => "None"
  | bool true => "True"
  | bool false => "False"
  | int n => toString n
  | float x => x.text spokenNumbers
  | str s => s.quoted
  | arr items => "[" ++ ", ".intercalate (shownItems items) ++ "]"
  | obj fields => "\x7b" ++ ", ".intercalate (shownFields fields) ++ "\x7d"

/-- The items of an array as a message shows them. -/
def shownItems : List Json → List String
  | [] => []
  | v :: rest => shown v :: shownItems rest

/-- The fields of an object as a message shows them. -/
def shownFields : List (Str × Json) → List String
  | [] => []
  | (k, v) :: rest => (k.quoted ++ ": " ++ shown v) :: shownFields rest

end

/-- The value as a message words it when it stands alone: a string is not quoted. -/
def wording : Json → String
  | str s => s.string
  | v => v.shown

/-- The name of the kind of a value. -/
def kindName : Json → String
  | null => "NoneType"
  | bool _ => "bool"
  | int _ => "int"
  | float _ => "float"
  | str _ => "str"
  | arr _ => "list"
  | obj _ => "dict"

end TxDraft.Json
