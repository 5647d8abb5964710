import TxDraft.Text.Quoted

/-!
# The strings of JSON documents

A document may write half of a pair of UTF-16 units alone, and no text holds such a surrogate.
`Str` is a row of code points that keeps it: a text, or a text with a surrogate behind it and
whatever follows.  Where a text is needed a string is read with every surrogate replaced
(`Str.string`).
-/

namespace TxDraft.Json

/-- Half of a pair of UTF-16 units that stand for one character. -/
structure Surrogate where
  /-- The distance from the first of them. -/
  offset : Fin 0x800
  deriving DecidableEq

/-- The UTF-16 unit of a surrogate. -/
def Surrogate.unit (u : Surrogate) : Nat :=
  0xD800 + u.offset

/-- A surrogate as an escape. -/
def Surrogate.escape (u : Surrogate) : String :=
  String.ofList ('\\' :: 'u' :: Text.hexDigits 4 u.unit)

/-- A code point of a string: a character, or a surrogate that stands alone. -/
inductive Point where
  | char (c : Char)
  | surrogate (u : Surrogate)
  deriving DecidableEq

namespace Point

/-- The code point that a UTF-16 unit stands for by itself. -/
def ofUnit (unit : Nat) : Point :=
  if h : 0xD800 ≤ unit ∧ unit < 0xE000 then surrogate ⟨⟨unit - 0xD800, by omega⟩⟩
  else char (Char.ofNat unit)

/-- The character in the place of a surrogate. -/
def replacement : Char := Char.ofNat 0xFFFD

/-- The code point as a character, surrogates being replaced. -/
def shown : Point → Char
  | char c => c
  | surrogate _ => replacement

/-- Is the code point a surrogate? -/
def isSurrogate : Point → Bool
  | char _ => false
  | surrogate _ => true

/-- One code point between quotes. -/
def quoted (quote : Char) : Point → List Char
  | char c => Text.quotedChar quote c
  | surrogate u => u.escape.toList

end Point

/-- A string: a text, or a text with a surrogate behind it and more code points behind that. -/
inductive Str where
  | plain (s : String)
  | stray (before : String) (first : Surrogate) (rest : List Point)
  deriving DecidableEq

namespace Str

instance : Coe String Str :=
  ⟨plain⟩

/-- The code points of a string. -/
def points : Str → List Point
  | plain s => s.toList.map .char
  | stray before first rest => before.toList.map .char ++ .surrogate first :: rest

/-- The characters in front, and what is left from the first surrogate on. -/
def spanChars : List Point → List Char × List Point
  | .char c :: rest => (c :: (spanChars rest).1, (spanChars rest).2)
  | points => ([], points)

/-- The string with these code points. -/
def ofPoints (points : List Point) : Str :=
  match spanChars points with
  | (before, .surrogate first :: rest) => stray (String.ofList before) first rest
  | (before, _) => plain (String.ofList before)

/-- The string as a text, its surrogates being replaced. -/
def string : Str → String
  | plain s => s
  | stray before first rest =>
    before ++ String.ofList ((Point.surrogate first :: rest).map Point.shown)

/-- The string between quotes. -/
def quoted : Str → String
  | plain s => Text.quoted s
  | stray before first rest =>
    let points := (stray before first rest).points
    let quote := Text.quoteFor (points.map Point.shown)
    String.ofList (quote :: (points.flatMap (Point.quoted quote) ++ [quote]))

@[simp] theorem string_plain (s : String) : (plain s).string = s := rfl

/-- A string in whose text no character was replaced is that text. -/
theorem eq_plain {s : Str} (h : Point.replacement ∉ s.string.toList) : s = plain s.string := by
  cases s with
  | plain s => rfl
  | stray before first rest =>
    refine absurd ?_ h
    simp only [string, List.map_cons, Point.shown, String.toList_append, String.toList_ofList]
    exact List.mem_append_right _ List.mem_cons_self

end Str

end TxDraft.Json
