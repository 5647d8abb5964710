import TxDraft.Json.Parser
import TxDraft.Quantity
import TxDraft.Settings
import TxDraft.Url

/-!
# The world outside

What the library asks of the world: web requests, and one web socket at a time.  A world is given by
what these do to its state; nothing else is assumed of it.
-/

namespace TxDraft

/-- A reply to a web request. -/
structure Reply where
  status : Int
  body : String
  deriving DecidableEq

namespace Reply

/-- Does the status tell of success? -/
def isSuccess (r : Reply) : Bool :=
  200 ≤ r.status && r.status ≤ 299

/-- The mark that may stand in front of a text. -/
def byteOrderMark : Char := Char.ofNat 0xFEFF

/-- The document in the body, in front of which a mark may stand. -/
def document (r : Reply) : Except Json.Fault Json :=
  let body := r.body.toList
  Json.parse (some Quantity.maxDigits)
    (if body.head? = some byteOrderMark then String.ofList body.tail else r.body)

end Reply

/-- A world with a state of type `σ`. -/
structure World (σ : Type) where
  /-- Asks for a web address, and waits so long for the reply. -/
  get : Url → Seconds → StateM σ (Except Accident Reply)
  /-- Opens a web socket, with a word of authorization. -/
  connect : String → Option String → StateM σ (Except Accident Unit)
  /-- Sends a text through the socket. -/
  send : String → StateM σ (Except Accident Unit)
  /-- Waits for a text from the socket. -/
  receive : StateM σ (Except Accident String)
  /-- Closes the socket. -/
  close : StateM σ Unit

/-- Something done to the world, whose accidents are failures. -/
def Work.ofAccident {σ α : Type} (act : StateM σ (Except Accident α)) : Work σ α :=
  ExceptT.mk (act.map fun r => r.mapError fun a => .unexpected (.accident a))

namespace World

variable {σ : Type} (w : World σ)

/-- The address that is asked for; one without a server is taken to follow nothing. -/
def target (base : Url) (url : String) : Attempt Url :=
  match (Url.ofText? url).bind base.append? with
  | some u => .ok u
  | none => .error (.unexpected .address)

/-- Asks for the address that a text names. -/
def visit (url : String) (deadline : Seconds) : Work σ Reply := do
  let u ← .ofAttempt (target .empty url)
  .ofAccident (w.get u deadline)

end World

end TxDraft
