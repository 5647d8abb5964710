import TxDraft.Action.Schema
import TxDraft.Failure

/-!
# Validation

Documents are checked before anything is done with them.  `Action.validate` reads one action and
lists all that is wrong with it; `Action.validateAll` reads a sequence and lists all that is wrong
with any of its actions, each issue with the position of its action.
-/

namespace TxDraft

namespace Action

/-- What reading an action gives: the action, all that is wrong with it, or a record that breaks
its reader. -/
inductive Reading where
  | accepted (action : Action)
  | refused (problems : List Problem)
  | broken (fault : Utxo.Fault)

/-- Reads an action of a known kind. -/
def readKind (network : Option Network) (kind : ActionKind) (fields : Json.Fields) : Reading :=
  let checked :=
    if ignoresExtras kind then (form network kind).fill fields
    else (form network kind).fillOnly ["type"] fields
  match checked with
  | .error problems => .refused problems
  | .ok action =>
    match action.rule with
    | .kept => .accepted action
    | .broken complaint => .refused [⟨[], complaint⟩]
    | .unruled fault => .broken fault

/-- The field that tells the kind of an action. -/
def tagField : String := "type"

/-- What reading any value gives: an action, issues, or a record that breaks its reader. -/
inductive Verdict where
  | accepted (action : Action)
  | refused (issues : List Issue)
  | broken (fault : Utxo.Fault)

/-- The verdict on an action whose only issue is this one. -/
def Verdict.refuse (field message : String) : Verdict :=
  .refused [⟨field, message, none⟩]

/-- The kind of action that a tag names. -/
def kindOf? : Json → Option ActionKind
  | .str (.plain tag) => ActionKind.ofTag? tag
  | _ => none

/-- Reads an action from any value. -/
def judge (network : Option Network) : Json → Verdict
  | .obj fields =>
    match Json.field? fields tagField with
    | none => .refuse tagField "missing action type"
    | some tag =>
      match kindOf? tag with
      | none => .refuse tagField s!"unknown action type {tag.shown}"
      | some kind =>
        match readKind network kind fields with
        | .accepted action => .accepted action
        | .refused problems => .refused (problems.map Problem.issue)
        | .broken fault => .broken fault
  | _ => .refuse "action" "must be a JSON object"

def validate (network : Option Network) (v : Json) : Attempt Action :=
  match judge network v with
  | .accepted action => .ok action
  | .refused issues => .error (.invalid issues)
  | .broken fault => .error (.unexpected (.record fault))

/-- Judges a row of values, the first of which has the given position: the issues of all, and the
actions among them.  A record that breaks its reader stops the work. -/
def judgeAll (network : Option Network) :
    (position : Nat) → List Json → Attempt (List Issue × List Action)
  | _, [] => .ok ([], [])
  | position, v :: rest =>
    match judge network v with
    | .broken fault => .error (.unexpected (.record fault))
    | .accepted action => do
      let (issues, actions) ← judgeAll network (position + 1) rest
      return (issues, action :: actions)
    | .refused found => do
      let (issues, actions) ← judgeAll network (position + 1) rest
      return (found.map (Issue.atIndex position) ++ issues, actions)

def validateAll (network : Option Network) : Json → Attempt (List Action)
  | .arr [] => .error (.single "actions" "at least one action is required")
  | .arr items => do
    match ← judgeAll network 0 items with
    | ([], actions) => return actions
    | (issues, _) => throw (.invalid issues)
  | _ => .error (.single "actions" "must be a list of actions")

end Action

/-- Validates an address that a request gives under a field. -/
def validateAddress (network : Option Network) (field : String) : Json → Attempt String
  | .str s =>
    (Lexicon.address .payment network s.string).mapError fun complaint =>
      .single field complaint.message
  | _ => .error (.single field "must be a string")

end TxDraft
