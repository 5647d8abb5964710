import TxDraft.Text.LowerCase.Table

/-!
# Lower case

Full lower-casing of text.  Every character is mapped on its own (`lowerChar`) but two: the dotted
capital I becomes an `i` and a combining dot, and a capital sigma becomes the final sigma where a
word ends, that is, after a letter with a case and not before one, marks and apostrophes skipped.
-/

namespace TxDraft.Text

/-- The lower case of a character, for all but the capital sigma and the dotted capital I. -/
def lowerChar (c : Char) : Char :=
  if c.toNat < 0x80 then c.toLower
  else
    match caseRuns.find? fun r =>
        r.first ≤ c.toNat && c.toNat ≤ r.last && (c.toNat - r.first) % r.step == 0 with
    | some r => Char.ofNat (Int.toNat (c.toNat + r.shift))
    | none => c

/-- Is the character skipped when the end of a word is looked for? -/
def isCaseIgnorable (c : Char) : Bool :=
  inRanges caseIgnorableRanges c.toNat

/-- Is the character a letter with a case? -/
def isCased (c : Char) : Bool :=
  inRanges casedRanges c.toNat

/-- Is the next character that is not skipped a letter with a case? -/
def meetsCased (cs : List Char) : Bool :=
  match cs.dropWhile isCaseIgnorable with
  | c :: _ => isCased c
  | [] => false

/-- The lower case of the characters, given those before them in reverse order. -/
def lowerFrom (before : List Char) : List Char → List Char
  | [] => []
  | c :: rest =>
    let lowered :=
      if c.toNat = 0x3A3 then
        [Char.ofNat (if meetsCased before && !meetsCased rest then 0x3C2 else 0x3C3)]
      else if c.toNat = 0x130 then [Char.ofNat 0x69, Char.ofNat 0x307]
      else [lowerChar c]
    lowered ++ lowerFrom (c :: before) rest

/-- The lower case of the characters. -/
def lowerChars (cs : List Char) : List Char :=
  lowerFrom [] cs

def lower (s : String) : String :=
  String.ofList (lowerChars s.toList)

end TxDraft.Text
