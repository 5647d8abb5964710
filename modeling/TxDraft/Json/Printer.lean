import TxDraft.Json
import TxDraft.Binary64.Shortest
import TxDraft.Text.Quoted

/-!
# Writing JSON

Values are written in ASCII: other characters, and the controls, are escaped as one or two UTF-16
units.  `compact` writes one line with a blank after commas and colons; `indented` writes one item
a line, two blanks deeper at each level, and keeps empty arrays and objects on one line.
`integers` lists the integers that a value holds.
-/

namespace TxDraft.Json

/-- How documents spell the numbers that are not finite. -/
def writtenNumbers : Binary64.SpecialWords := ⟨"Infinity", "NaN"⟩

/-- A UTF-16 unit as an escape. -/
def unitEscape (n : Nat) : List Char :=
  '\\' :: 'u' :: Text.hexDigits 4 n

/-- One character of a string. -/
def writtenChar (c : Char) : List Char :=
  if c = '"' then ['\\', '"']
  else if c = '\\' then ['\\', '\\']
  else if c = '\n' then ['\\', 'n']
  else if c = '\r' then ['\\', 'r']
  else if c = '\t' then ['\\', 't']
  else if c.toNat = 0x08 then ['\\', 'b']
  else if c.toNat = 0x0C then ['\\', 'f']
  else if 0x20 ≤ c.toNat && c.toNat ≤ 0x7E then [c]
  else if c.toNat < 0x10000 then unitEscape c.toNat
  else
    let n := c.toNat - 0x10000
    unitEscape (0xD800 + n / 0x400) ++ unitEscape (0xDC00 + n % 0x400)

/-- One code point of a string. -/
def writtenPoint : Point → List Char
  | .char c => writtenChar c
  | .surrogate u => u.escape.toList

/-- A string between quotes. -/
def writtenString (s : Str) : String :=
  String.ofList ('"' :: (s.points.flatMap writtenPoint ++ ['"']))

/-- A value without parts. -/
def writtenScalar : Json → String
  | null => "null"
  | bool true => "true"
  | bool false => "false"
  | int n => toString n
  | float x => x.text writtenNumbers
  | str s => writtenString s
  | arr _ => "[]"
  | obj _ => "\x7b\x7d"

mutual

/-- The value on one line. -/
def compact : Json → String
  | arr items => "[" ++ ", ".intercalate (compactItems items) ++ "]"
  | obj fields => "\x7b" ++ ", ".intercalate (compactFields fields) ++ "\x7d"
  | v => writtenScalar v

/-- The items of an array, each on one line. -/
def compactItems : List Json → List String
  | [] => []
  | v :: rest => compact v :: compactItems rest

/-- The fields of an object, each on one line. -/
def compactFields : List (Str × Json) → List String
  | [] => []
  | (k, v) :: rest => (writtenString k ++ ": " ++ compact v) :: compactFields rest

end

/-- A line break and the blanks that begin a line at the given depth. -/
def lineStart (depth : Nat) : String :=
  String.ofList ('\n' :: List.replicate (2 * depth) ' ')

/-- Parts between brackets, one a line, one level deeper than the brackets. -/
def bracketed (opening closing : String) (depth : Nat) (parts : List String) : String :=
  if parts.isEmpty then opening ++ closing
  else
    opening ++ lineStart (depth + 1) ++ ("," ++ lineStart (depth + 1)).intercalate parts ++
      lineStart depth ++ closing

mutual

/-- The value over several lines, at the given depth. -/
def indentedAt (depth : Nat) : Json → String
  | arr items => bracketed "[" "]" depth (indentedItems (depth + 1) items)
  | obj fields => bracketed "\x7b" "\x7d" depth (indentedFields (depth + 1) fields)
  | v => writtenScalar v

/-- The items of an array at the given depth. -/
def indentedItems (depth : Nat) : List Json → List String
  | [] => []
  | v :: rest => indentedAt depth v :: indentedItems depth rest

/-- The fields of an object at the given depth. -/
def indentedFields (depth : Nat) : List (Str × Json) → List String
  | [] => []
  | (k, v) :: rest => (writtenString k ++ ": " ++ indentedAt depth v) :: indentedFields depth rest

end

/-- The value over several lines. -/
def indented (v : Json) : String :=
  indentedAt 0 v

mutual

/-- The integers in the value. -/
def integers : Json → List Int
  | int n => [n]
  | arr items => integersOfItems items
  | obj fields => integersOfFields fields
  | _ => []

/-- The integers in the items of an array. -/
def integersOfItems : List Json → List Int
  | [] => []
  | v :: rest => integers v ++ integersOfItems rest

/-- The integers in the fields of an object. -/
def integersOfFields : List (Str × Json) → List Int
  | [] => []
  | (_, v) :: rest => integers v ++ integersOfFields rest

end

end TxDraft.Json
