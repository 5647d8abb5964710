import TxDraft.Text.CodePoint

/-!
# Blank characters

The blank characters of all scripts, and the text without the blanks at its two ends (`strip`).
A text without blanks is its own stripped form (`stripChars_eq_self`).
-/

namespace TxDraft.Text

/-- The blank code points. -/
def blankRanges : List CodePointRange :=
  [(0x09, 0x0D), (0x1C, 0x20), (0x85, 0x85), (0xA0, 0xA0), (0x1680, 0x1680), (0x2000, 0x200A),
   (0x2028, 0x2029), (0x202F, 0x202F), (0x205F, 0x205F), (0x3000, 0x3000)]

/-- Is the character blank? -/
def isBlank (c : Char) : Bool :=
  inRanges blankRanges c.toNat

/-- The characters left of the last one that is not in the class. -/
def dropEndWhile (p : Char → Bool) (cs : List Char) : List Char :=
  (cs.reverse.dropWhile p).reverse

/-- The characters without the blanks at both ends. -/
def stripChars (cs : List Char) : List Char :=
  dropEndWhile isBlank (cs.dropWhile isBlank)

/-- The text without the blanks at both ends. -/
def strip (s : String) : String :=
  String.ofList (stripChars s.toList)

/-- The text without any of the given characters at its end. -/
def stripEnd (p : Char → Bool) (s : String) : String :=
  String.ofList (dropEndWhile p s.toList)

/-! ### Small facts -/

/-- Text without any blank is its own stripped form. -/
theorem stripChars_eq_self {cs : List Char} (h : ∀ c ∈ cs, isBlank c = false) :
    stripChars cs = cs := by
  have drop : ∀ l : List Char, (∀ c ∈ l, isBlank c = false) → l.dropWhile isBlank = l := by
    intro l hl
    cases l with
    | nil => rfl
    | cons c r => simp [hl c (by simp)]
  rw [stripChars, drop cs h, dropEndWhile, drop cs.reverse (by simpa using h), List.reverse_reverse]

end TxDraft.Text
