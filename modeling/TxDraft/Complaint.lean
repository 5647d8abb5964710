import TxDraft.Issue
import TxDraft.Network
import TxDraft.Quantity

/-!
# Complaints

What can be wrong with a part of an action, and the path of the part inside the action.  A path is
written with points between names and brackets around positions; the cross-field rules of an action
complain of the action as a whole, which has the empty path.
-/

namespace TxDraft

/-- What is wrong with a part of an action. -/
inductive Complaint where
  | missing
  | extra
  | notText
  | notMap
  | notList
  | notOutput
  | notNumber
  | unreadableNumber
  | notOneOf (choices : List String)
  | emptyMap
  | emptyList
  | notPositive
  | belowZero
  | aboveLabelBound
  | belowOne
  | quantity (fault : Quantity.Fault)
  | emptyAddress (kind : AddressKind)
  | notAddress (kind : AddressKind) (words : List String)
  | notHash (digits : Nat)
  | notHex
  | notAssetId
  | notAssetName
  | metadata (text : String)
  | noReference
  | record (text : String)
  | noBound
  | emptyWindow
  | noBuffer
  deriving DecidableEq

namespace Complaint

/-- The largest label of metadata. -/
def labelBound : Nat := Nat.pow 2 64 - 1

/-- Alternatives in words. -/
def orList : List String → String
  | [] => ""
  | [last] => last
  | [a, last] => a ++ " or " ++ last
  | a :: rest => a ++ ", " ++ orList rest

def message : Complaint → String
  | missing => "Field required"
  | extra => "Extra inputs are not permitted"
  | notText => "Input should be a valid string"
  | notMap => "Input should be a valid dictionary"
  | notList => "Input should be a valid list"
  | notOutput => "Input should be a valid dictionary or instance of PaymentOutput"
  | notNumber => "Input should be a valid number"
  | unreadableNumber => "Input should be a valid number, unable to parse string as a number"
  | notOneOf choices => "Input should be " ++ orList (choices.map Text.quoted)
  | emptyMap => "Dictionary should have at least 1 item after validation, not 0"
  | emptyList => "List should have at least 1 item after validation, not 0"
  | notPositive => "Input should be greater than 0"
  | belowZero => "Input should be greater than or equal to 0"
  | aboveLabelBound => s!"Input should be less than or equal to {labelBound}"
  | belowOne => "Input should be greater than or equal to 1"
  | quantity fault => fault.message
  | emptyAddress kind => s!"{kind.name} must not be empty"
  | notAddress kind words =>
    let expected := " or ".intercalate (words.map (· ++ "1…"))
    s!"not a valid {kind.name} (expected {expected})"
  | notHash digits => s!"must be exactly {digits} hexadecimal characters"
  | notHex => "must be a non-empty, even-length hexadecimal string"
  | notAssetId => "asset id must be '<56-hex policy id>.<hex asset name>'"
  | notAssetName => "asset name must be even-length hex, at most 32 bytes"
  | metadata text => text
  | noReference => "requires either txHash and index, or a utxo record"
  | record text => s!"utxo record not understood: {text}"
  | noBound => "requires validFrom, validTo, or both"
  | emptyWindow => "validTo must be greater than validFrom"
  | noBuffer => "strategy 'buffer' requires feeBuffer"

end Complaint

/-! ### Places inside an action -/

/-- One step from a part of an action to a smaller part. -/
inductive PathPart where
  | name (s : String)
  | position (n : Nat)
  deriving DecidableEq

/-- The way from an action to one of its parts. -/
abbrev Path := List PathPart

/-- The path written behind a text. -/
def Path.write (written : String) : Path → String
  | [] => written
  | .position n :: rest => Path.write s!"{written}[{n}]" rest
  | .name s :: rest => Path.write (if written = "" then s else written ++ "." ++ s) rest

/-- The path as issues write it; the action as a whole is called by its name. -/
def Path.text (path : Path) : String :=
  let written := Path.write "" path
  if written = "" then "action" else written

/-- A complaint and the part that it is about. -/
structure Problem where
  path : Path
  complaint : Complaint
  deriving DecidableEq

namespace Problem

/-- The problem of a part as a problem of what holds the part. -/
def inside (part : PathPart) (p : Problem) : Problem :=
  { p with path := part :: p.path }

/-- The problem as an issue of a single action. -/
def issue (p : Problem) : Issue :=
  ⟨p.path.text, p.complaint.message, none⟩

end Problem

end TxDraft
