import TxDraft.World

/-!
# Probes

Asking an endpoint whether it is there and whether it is well.  A probe takes every failure of the
network for an answer: then the endpoint is not there.
-/

namespace TxDraft.Probe

variable {σ : Type} (w : World σ)

/-- A failure of the network, named after what was asked for; all else stays as it is. -/
def word (url : String) (deadline : Seconds) : Failure → Failure
  | .unexpected (.accident a) =>
    match a.family with
    | .deadline => .transient (.timedOut url deadline.text)
    | .transport _ | .address => .transient (.failed url a.text)
    | _ => .unexpected (.accident a)
  | .unexpected .address => .transient (.failed url (Unexpected.text .address))
  | f => f

/-- Asks for an address.  When there is no time at all nothing is sent. -/
def fetch (url : String) (deadline : Seconds) : Work σ Reply :=
  if deadline.isOver then throw (.transient (.timedOut url deadline.text))
  else (w.visit url deadline).mapFailure (word url deadline)

/-- Judges a reply; a failure of the network counts as no. -/
def judge (yes : Reply → Bool) (url : String) (deadline : Seconds) : Work σ Bool := do
  match ← (fetch w url deadline).attempt with
  | .ok reply => return yes reply
  | .error (.transient _) => return false
  | .error f => throw f

/-- Does the reply tell that somebody is there?  Only errors of the server itself do not. -/
def isAlive (r : Reply) : Bool :=
  r.isSuccess || r.status < 500

/-- Does the document say that the server is not well? -/
def deniesHealth : Json → Bool
  | .obj fields =>
    match Json.field fields "is_healthy" with
    | .bool false => true
    | _ => false
  | _ => false

/-- Does the reply tell that the server is well? It must be a success; what is not a document
denies nothing. -/
def isHealthy (r : Reply) : Bool :=
  r.isSuccess &&
    match r.document with
    | .ok v => !deniesHealth v
    | .error _ => true

/-- Is somebody there? -/
def ping (url : String) (deadline : Seconds) : Work σ Bool :=
  judge w isAlive url deadline

/-- Is the server well? -/
def health (url : String) (deadline : Seconds) : Work σ Bool :=
  judge w isHealthy url deadline

end TxDraft.Probe
