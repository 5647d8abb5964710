import TxDraft.Json
import TxDraft.Text.Cut
import TxDraft.Text.DecimalDigit

/-!
# Reading JSON

A reader of JSON documents that reports where and why it stops.  It accepts the words `NaN`,
`Infinity` and `-Infinity` as numbers, keeps the last of several fields with one name at the place
of the first, and refuses control characters inside strings.  The reader works on the characters
that are left, and a fault keeps their number; its position is counted from the start of the
document only when it is reported.
-/

namespace TxDraft.Json

/-! ### Faults -/

/-- Why a document cannot be read. -/
inductive Fault.Reason where
  | valueExpected
  | nameExpected
  | colonExpected
  | commaExpected
  | unterminatedString
  | controlCharacter
  | badEscape
  | badUnitEscape
  | extraData
  | byteOrderMark
  | tooManyDigits (count : Nat)
  deriving DecidableEq

/-- A fault: its reason, and how many characters were left where it stands. -/
structure Fault where
  reason : Fault.Reason
  left : Nat
  deriving DecidableEq

/-- Is the fault a number with too many digits? -/
def Fault.isLongNumber (fault : Fault) : Bool :=
  match fault.reason with
  | .tooManyDigits _ => true
  | _ => false

def Fault.Reason.text : Fault.Reason → String
  | valueExpected => "Expecting value"
  | nameExpected => "Expecting property name enclosed in double quotes"
  | colonExpected => "Expecting ':' delimiter"
  | commaExpected => "Expecting ',' delimiter"
  | unterminatedString => "Unterminated string starting at"
  | controlCharacter => "Invalid control character at"
  | badEscape => "Invalid \\escape"
  | badUnitEscape => "Invalid \\uXXXX escape"
  | extraData => "Extra data"
  | byteOrderMark => "Unexpected UTF-8 BOM (decode using utf-8-sig)"
  | tooManyDigits _ => "Too many digits"

/-- The message of a fault in a document: its words, and its line, column and offset. -/
def Fault.message (document : String) (fault : Fault) : String :=
  let offset := document.length - fault.left
  let before := document.toList.take offset
  let line := before.count '\n' + 1
  let column := (before.reverse.takeWhile (· ≠ '\n')).length + 1
  s!"{fault.reason.text}: line {line} column {column} (char {offset})"

/-! ### Characters of strings -/

/-- Drops the four blanks that may stand between tokens. -/
def skipBlanks (cs : List Char) : List Char :=
  cs.dropWhile fun c => c = ' ' || c = '\n' || c = '\t' || c = '\r'

/-- The value of a hexadecimal digit of either case. -/
def hexValue? (c : Char) : Option Nat :=
  if '0' ≤ c && c ≤ '9' then some (c.toNat - 0x30)
  else if 'a' ≤ c && c ≤ 'f' then some (c.toNat - 0x57)
  else if 'A' ≤ c && c ≤ 'F' then some (c.toNat - 0x37)
  else none

/-- The UTF-16 unit written by the four digits in front, and what follows them. -/
def unit? : List Char → Option (Nat × List Char)
  | a :: b :: c :: d :: rest => do
    let a ← hexValue? a
    let b ← hexValue? b
    let c ← hexValue? c
    let d ← hexValue? d
    return (((a * 16 + b) * 16 + c) * 16 + d, rest)
  | _ => none

/-- The character that a one-letter escape stands for. -/
def simpleEscape? : Char → Option Char
  | '"' => some '"'
  | '\\' => some '\\'
  | '/' => some '/'
  | 'b' => some (Char.ofNat 0x08)
  | 'f' => some (Char.ofNat 0x0C)
  | 'n' => some '\n'
  | 'r' => some '\r'
  | 't' => some '\t'
  | _ => none

/-- The low surrogate written by the unit escape in front, as its distance from the first of them,
and what follows it. -/
def lowSurrogate? : List Char → Option (Nat × List Char)
  | '\\' :: 'u' :: digits => do
    let (unit, rest) ← unit? digits
    if 0xDC00 ≤ unit && unit < 0xE000 then return (unit - 0xDC00, rest)
    else none
  | _ => none

/-- The code point written by a unit escape whose digits are in front; the document must not end
behind them.  A high surrogate takes the low surrogate that follows it. -/
def unitPoint? (cs : List Char) : Option (Point × List Char) := do
  let (unit, rest) ← unit? cs
  if rest.isEmpty then none
  else
    match if 0xD800 ≤ unit && unit < 0xDC00 then lowSurrogate? rest else none with
    | some (low, rest) =>
      return (.char (Char.ofNat (0x10000 + (unit - 0xD800) * 0x400 + low)), rest)
    | none => return (.ofUnit unit, rest)

/-- The rest of a string after its opening quote, its code points collected in reverse.  `opened` is
how many characters were left at the opening quote. -/
def readString (opened : Nat) :
    (fuel : Nat) → (seen : List Point) → List Char → Except Fault (Str × List Char)
  | 0, _, cs => .error ⟨.unterminatedString, cs.length⟩
  | fuel + 1, seen, cs =>
    match cs with
    | [] => .error ⟨.unterminatedString, opened⟩
    | '"' :: rest => .ok (.ofPoints seen.reverse, rest)
    | '\\' :: rest =>
      match rest with
      | [] => .error ⟨.unterminatedString, opened⟩
      | 'u' :: digits =>
        match unitPoint? digits with
        | some (point, rest) => readString opened fuel (point :: seen) rest
        | none => .error ⟨.badUnitEscape, rest.length⟩
      | c :: rest' =>
        match simpleEscape? c with
        | some c => readString opened fuel (.char c :: seen) rest'
        | none => .error ⟨.badEscape, cs.length⟩
    | c :: rest =>
      if c.toNat < 0x20 then .error ⟨.controlCharacter, cs.length⟩
      else readString opened fuel (.char c :: seen) rest

/-! ### Numbers -/

/-- The digits of a fraction, if a point and a digit are in front. -/
def spanFraction : List Char → List Char × List Char
  | '.' :: rest =>
    if (rest.takeWhile Text.isAsciiDigit).isEmpty then ([], '.' :: rest)
    else (rest.takeWhile Text.isAsciiDigit, rest.dropWhile Text.isAsciiDigit)
  | cs => ([], cs)

/-- An exponent, if the letter and at least one digit are in front. -/
def spanExponent (cs : List Char) : Option Int × List Char :=
  match cs with
  | e :: rest =>
    if e = 'e' || e = 'E' then
      let (negative, digits) :=
        match rest with
        | '-' :: rest => (true, rest)
        | '+' :: rest => (false, rest)
        | rest => (false, rest)
      if (digits.takeWhile Text.isAsciiDigit).isEmpty then (none, cs)
      else
        let value : Int := Text.decimalValue (digits.takeWhile Text.isAsciiDigit)
        (some (if negative then -value else value), digits.dropWhile Text.isAsciiDigit)
    else (none, cs)
  | [] => (none, [])

/-- How many digits an integer may have. -/
abbrev DigitLimit := Option Nat

/-- A number whose sign has been read; its digits are in front. -/
def readNumber (limit : DigitLimit) (negative : Bool) (cs : List Char) :
    Except Fault (Json × List Char) :=
  let whole := if cs.head? = some '0' then ['0'] else cs.takeWhile Text.isAsciiDigit
  let rest := cs.drop whole.length
  let (fraction, rest) := spanFraction rest
  let (exponent, rest) := spanExponent rest
  if fraction.isEmpty && exponent.isNone then
    if limit.any (· < whole.length) then .error ⟨.tooManyDigits whole.length, cs.length⟩
    else
      let value : Int := Text.decimalValue whole
      .ok (int (if negative then -value else value), rest)
  else
    let digits := Text.decimalValue (whole ++ fraction)
    .ok (float (Binary64.ofDecimal negative digits (exponent.getD 0 - fraction.length)), rest)

/-! ### Values -/

/-- A value that is a word: `null`, `true`, `false`, and the numbers that are not finite. -/
def readWord? (cs : List Char) : Option (Json × List Char) :=
  let word (w : String) (v : Json) := (Text.after? w.toList cs).map fun rest => (v, rest)
  word "null" null <|> word "true" (bool true) <|> word "false" (bool false) <|>
    word "NaN" (float (Binary64.notANumber false)) <|>
    word "Infinity" (float (Binary64.infinity false)) <|>
    word "-Infinity" (float (Binary64.infinity true))

mutual

/-- A value; no blanks are in front. -/
def readValue (limit : DigitLimit) : (fuel : Nat) → List Char → Except Fault (Json × List Char)
  | 0, cs => .error ⟨.valueExpected, cs.length⟩
  | fuel + 1, cs =>
    match cs with
    | '"' :: rest => do
      let (s, rest) ← readString cs.length (rest.length + 1) [] rest
      return (str s, rest)
    | '[' :: rest =>
      match skipBlanks rest with
      | ']' :: rest => .ok (arr [], rest)
      | rest => do
        let (items, rest) ← readItems limit fuel rest
        return (arr items, rest)
    | '\x7b' :: rest =>
      match skipBlanks rest with
      | '\x7d' :: rest => .ok (obj [], rest)
      | rest => do
        let (pairs, rest) ← readFields limit fuel rest
        return (obj (Entries.ofPairs pairs), rest)
    | cs =>
      match readWord? cs with
      | some answer => .ok answer
      | none =>
        let (negative, digits) :=
          match cs with
          | '-' :: rest => (true, rest)
          | rest => (false, rest)
        if digits.head?.any Text.isAsciiDigit then readNumber limit negative digits
        else .error ⟨.valueExpected, cs.length⟩

/-- The items of an array up to its closing bracket; at least one must follow. -/
def readItems (limit : DigitLimit) :
    (fuel : Nat) → List Char → Except Fault (List Json × List Char)
  | 0, cs => .error ⟨.valueExpected, cs.length⟩
  | fuel + 1, cs => do
    let (v, rest) ← readValue limit fuel cs
    match skipBlanks rest with
    | ']' :: rest => return ([v], rest)
    | ',' :: rest => do
      let (items, rest) ← readItems limit fuel (skipBlanks rest)
      return (v :: items, rest)
    | rest => .error ⟨.commaExpected, rest.length⟩

/-- The fields of an object up to its closing brace; at least one must follow. -/
def readFields (limit : DigitLimit) :
    (fuel : Nat) → List Char → Except Fault (List (Str × Json) × List Char)
  | 0, cs => .error ⟨.nameExpected, cs.length⟩
  | fuel + 1, cs =>
    match cs with
    | '"' :: rest => do
      let (name, rest) ← readString cs.length (rest.length + 1) [] rest
      match skipBlanks rest with
      | ':' :: rest => do
        let (v, rest) ← readValue limit fuel (skipBlanks rest)
        match skipBlanks rest with
        | '\x7d' :: rest => return ([(name, v)], rest)
        | ',' :: rest => do
          let (fields, rest) ← readFields limit fuel (skipBlanks rest)
          return ((name, v) :: fields, rest)
        | rest => .error ⟨.commaExpected, rest.length⟩
      | rest => .error ⟨.colonExpected, rest.length⟩
    | cs => .error ⟨.nameExpected, cs.length⟩

end

/-- The value of a document: one value with nothing but blanks around it. -/
def parse (limit : DigitLimit) (document : String) : Except Fault Json :=
  let cs := document.toList
  if cs.head? = some (Char.ofNat 0xFEFF) then .error ⟨.byteOrderMark, cs.length⟩
  else do
    let (v, rest) ← readValue limit (cs.length + 1) (skipBlanks cs)
    match skipBlanks rest with
    | [] => return v
    | rest => .error ⟨.extraData, rest.length⟩

end TxDraft.Json
