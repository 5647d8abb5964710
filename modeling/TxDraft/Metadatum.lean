import TxDraft.Json.Wording

/-!
# Transaction metadata

What may stand in the metadata of a transaction: integers between `-2 ^ 64` and `2 ^ 64`, both
excluded, texts of at most 64 bytes, lists, and maps whose keys are such texts.  `Metadatum.fault?`
looks through a value in the order in which it is written, a key before its value, and reports the
first part that is none of these.

A string with a surrogate is no text and has no bytes.  What is said about it are the words of the
encoder, which do not know where in the value the string stands.
-/

namespace TxDraft.Metadatum

/-- The most bytes of a text. -/
def maxBytes : Nat := 64

/-- Integers lie strictly between this bound and its negative. -/
def intBound : Int := Nat.pow 2 64

/-- Why a part is not a metadatum. -/
inductive Fault where
  | longText
  | intOutOfRange
  | wrongKind (kind : String)
  /-- A string cannot be encoded: at this position there is this surrogate, and directly behind it
  there are more. -/
  | unencodable (position : Nat) (first : Json.Surrogate) (more : Nat)
  deriving DecidableEq

/-- The words of the encoder for surrogates that it meets at a position. -/
def encoderWords (position : Nat) (first : Json.Surrogate) (more : Nat) : String :=
  "'utf-8' codec can't encode character" ++
    (if more = 0 then s!" '{first.escape}' in position {position}"
      else s!"s in position {position}-{position + more}") ++
    ": surrogates not allowed"

/-- The words for a fault of the part at a path. -/
def Fault.message (path : String) : Fault → String
  | longText => s!"{path}: strings are limited to {maxBytes} bytes"
  | intOutOfRange => s!"{path}: integer out of range"
  | wrongKind kind =>
    s!"{path}: {kind} is not allowed (objects, arrays, integers and strings only)"
  | unencodable position first more => encoderWords position first more

/-- Is the text short enough? -/
def fits (s : String) : Bool :=
  s.utf8ByteSize ≤ maxBytes

/-- What is wrong with a string. -/
def stringFault? : Json.Str → Option Fault
  | .plain s => if fits s then none else some .longText
  | .stray before first rest =>
    some (.unencodable before.length first (rest.takeWhile Json.Point.isSurrogate).length)

/-- What is wrong with a value that has no parts, or with the kind of any value. -/
def leafFault? : Json → Option Fault
  | .str s => stringFault? s
  | .int n => if -intBound < n && n < intBound then none else some .intOutOfRange
  | .arr _ | .obj _ => none
  | v => some (.wrongKind v.kindName)

mutual

/-- The first fault in a value, with the path of the part. -/
def fault? (path : String) : Json → Option (String × Fault)
  | .arr items => itemsFault? path 0 items
  | .obj fields => fieldsFault? path fields
  | v => (leafFault? v).map fun fault => (path, fault)

/-- The first fault in the items of a list, counted from `n`. -/
def itemsFault? (path : String) (n : Nat) : List Json → Option (String × Fault)
  | [] => none
  | v :: rest => (fault? s!"{path}[{n}]" v).or (itemsFault? path (n + 1) rest)

/-- The first fault in the fields of a map. -/
def fieldsFault? (path : String) : List (Json.Str × Json) → Option (String × Fault)
  | [] => none
  | (k, v) :: rest =>
    match stringFault? k with
    | none => (fault? s!"{path}.{k.string}" v).or (fieldsFault? path rest)
    | some fault => some (path ++ " key " ++ k.quoted, fault)

end

end TxDraft.Metadatum
