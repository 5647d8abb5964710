/-!
# Issues

One thing that is wrong with a request: the field, what is wrong with it, and, for an action of a
sequence, the position of the action.
-/

namespace TxDraft

/-- One thing that is wrong with a request. -/
structure Issue where
  field : String
  message : String
  /-- The position of the action, if the request is a sequence of actions. -/
  index : Option Int
  deriving DecidableEq

namespace Issue

/-- The issue in one line. -/
def text (i : Issue) : String :=
  match i.index with
  | some n => s!"actions[{n}].{i.field}: {i.message}"
  | none => s!"{i.field}: {i.message}"

/-- The same issue of the action at a position. -/
def atIndex (n : Int) (i : Issue) : Issue :=
  { i with index := some n }

/-- How many issues a summary shows. -/
def shownInSummary : Nat := 5

/-- The first issues in one line, and how many more there are. -/
def summary (issues : List Issue) : String :=
  let shown := "; ".intercalate ((issues.take shownInSummary).map text)
  if shownInSummary < issues.length then
    s!"Validation failed: {shown} (+{issues.length - shownInSummary} more)"
  else s!"Validation failed: {shown}"

end Issue

end TxDraft
