import TxDraft.Text.Quoted

/-!
# Accidents

What goes wrong in the world outside: in a transport, a socket, a file, or in a builder that
somebody else wrote.  The library does not word these; it only tells their families apart, because
some families are expected in some places and are then reported as failures of a provider.
-/

namespace TxDraft

/-- The family of an accident, with the name of its kind where a family has several. -/
inductive Accident.Family where
  /-- A deadline passed. -/
  | deadline
  /-- The operating system refused: files, connections. -/
  | system (name : String)
  /-- A web request failed on its way. -/
  | transport (name : String)
  /-- A web address cannot be used. -/
  | address
  /-- A web socket failed. -/
  | socket (name : String)
  /-- A key is missing; the text is the key. -/
  | key
  /-- A value is out of place. -/
  | value (name : String)
  /-- Anything else. -/
  | other (name : String)
  deriving DecidableEq

/-- Something that went wrong outside. -/
structure Accident where
  family : Accident.Family
  message : String
  deriving DecidableEq

namespace Accident

/-- The text of an accident inside a message: a missing key is quoted. -/
def text (a : Accident) : String :=
  match a.family with
  | .key => Text.quoted a.message
  | _ => a.message

/-- Is this a failure of a web request that its caller expects? -/
def isTransport (a : Accident) : Bool :=
  match a.family with
  | .transport _ => true
  | _ => false

/-- Is this a refusal of the operating system?  A passed deadline is one. -/
def isSystem (a : Accident) : Bool :=
  match a.family with
  | .deadline | .system _ => true
  | _ => false

/-- Is this a failure of a web socket? -/
def isSocket (a : Accident) : Bool :=
  match a.family with
  | .socket _ => true
  | _ => false

/-- Is this a value out of place? -/
def isValue (a : Accident) : Bool :=
  match a.family with
  | .value _ => true
  | _ => false

end Accident

end TxDraft
