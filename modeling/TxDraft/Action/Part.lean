import TxDraft.Action
import TxDraft.Binary64.Reading
import TxDraft.Form
import TxDraft.Lexicon
import TxDraft.Metadatum

/-!
# The parts of actions

How the values under the fields of actions are read: words, amounts, numbers, choices, maps of
assets, metadata, and the outputs of a payment to many.
-/

namespace TxDraft.Part

/-- How a value under a field is read. -/
abbrev Reader (α : Type) := Json → Checked α

/-- A value that may be null. -/
def nullable {α : Type} (read : Reader α) : Reader (Option α)
  | .null => .ok none
  | v => (read v).map some

/-- A text, by a reader of words. -/
def word (read : Lexicon.Reader) : Reader String
  | .str s => (read s.string).mapError fun complaint => [⟨[], complaint⟩]
  | _ => .complain .notText

/-- An amount that passes a test. -/
def amount (passes : Int → Option Complaint) : Reader Int := fun v =>
  match Quantity.read v with
  | .error fault => .complain (.quantity fault)
  | .ok n =>
    match passes n with
    | some complaint => .complain complaint
    | none => .ok n

/-- An amount above zero. -/
def positive : Reader Int :=
  amount fun n => if 0 < n then none else some .notPositive

/-- An amount of zero or more. -/
def natural : Reader Int :=
  amount fun n => if 0 ≤ n then none else some .belowZero

/-- A label of metadata. -/
def label : Reader Int :=
  amount fun n =>
    if n < 0 then some .belowZero
    else if (Complaint.labelBound : Int) < n then some .aboveLabelBound
    else none

/-- A number of any kind: truth values count as one and zero, texts are read. -/
def number : Reader Binary64
  | .float x => .ok x
  | .int n =>
    match Binary64.ofInt? n with
    | some x => .ok x
    | none => .complain .notNumber
  | .bool b => .ok (Binary64.ofRatio false b.toNat 1)
  | .str (.plain s) =>
    match Binary64.readNumber? Text.asciiDigitValue? s with
    | some x => .ok x
    | none => .complain .unreadableNumber
  | .str (.stray _ _ _) => .complain .unreadableNumber
  | _ => .complain .notNumber

/-- A factor of at least one. -/
def factor : Reader Binary64 := fun v =>
  match number v with
  | .ok x => if x.atLeastOne then .ok x else .complain .belowOne
  | .error problems => .error problems

/-- One of several choices, by name. -/
def choice {α : Type} (choices : List α) (name : α → String) : Reader α := fun v =>
  match v with
  | .str s =>
    match choices.find? fun a => .plain (name a) = s with
    | some a => .ok a
    | none => .complain (.notOneOf (choices.map name))
  | _ => .complain (.notOneOf (choices.map name))

/-- Metadata, passed through as it is. -/
def metadata : Reader Json := fun v =>
  match Metadatum.fault? "metadata" v with
  | some (path, fault) => .complain (.metadata (fault.message path))
  | none => .ok v

/-- A provider's record, passed through as it is. -/
def record : Reader Json.Fields
  | .obj fields => .ok fields
  | _ => .complain .notMap

/-! ### Maps of assets -/

/-- The part in which a problem with the key of an entry is reported. -/
def keyPart : PathPart := .name "[key]"

/-- One entry of a map of assets. -/
def entry (read : Lexicon.Reader) (e : Json.Str × Json) : Checked (String × Int) :=
  let key := (word read (.str e.1)).inside keyPart
  Checked.both (key.map Prod.mk) (positive e.2) |>.inside (.name e.1.string)

/-- The entries of a map of assets, the problems of all of them listed. -/
def entries (read : Lexicon.Reader) : Json.Fields → Checked (List (String × Int))
  | [] => .ok []
  | e :: rest => Checked.both ((entry read e).map List.cons) (entries read rest)

/-- A map of assets: of entries whose keys have one normal form the last one counts. -/
def assets (read : Lexicon.Reader) : Reader (Entries String Int)
  | .obj fields => (entries read fields).map Entries.ofPairs
  | _ => .complain .notMap

/-- A map of assets with at least one entry. -/
def someAssets (read : Lexicon.Reader) : Reader (Entries String Int) := fun v =>
  match assets read v with
  | .ok [] => .complain .emptyMap
  | c => c

/-! ### Outputs -/

/-- The fields of one output of a payment to many. -/
def outputForm (network : Option Network) : Form PaymentOutput :=
  (Form.done PaymentOutput.mk).and
    ⟨["toAddress", "to_address"], none, word (Lexicon.address .payment network)⟩ |>.and
    ⟨["lovelace"], some none, nullable positive⟩ |>.and
    ⟨["assets"], some none, nullable (assets Lexicon.assetId)⟩

def output (network : Option Network) : Reader PaymentOutput
  | .obj fields => (outputForm network).fillOnly [] fields
  | _ => .complain .notOutput

/-- The items of a list of outputs, counted from `n`, the problems of all of them listed. -/
def outputItems (network : Option Network) (n : Nat) : List Json → Checked (List PaymentOutput)
  | [] => .ok []
  | v :: rest =>
    Checked.both (((output network v).inside (.position n)).map List.cons)
      (outputItems network (n + 1) rest)

/-- A list of outputs with at least one item. -/
def outputs (network : Option Network) : Reader (List PaymentOutput)
  | .arr [] => .complain .emptyList
  | .arr items => outputItems network 0 items
  | _ => .complain .notList

end TxDraft.Part
