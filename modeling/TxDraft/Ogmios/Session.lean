import TxDraft.Ogmios

/-!
# Conversations with Ogmios

A conversation happens in a world with a web socket.  It remembers whether the socket is open and
how many questions were asked; questions are numbered from one, and go on being counted when the
socket is opened again.  `during` opens a conversation for one purpose and closes it in any case.
-/

namespace TxDraft.Ogmios

/-- What a conversation remembers. -/
structure Session where
  isOpen : Bool
  /-- How many questions were asked. -/
  asked : Nat
  deriving DecidableEq

namespace Session

/-- A conversation that has not begun. -/
def fresh : Session := ⟨false, 0⟩

end Session

/-- Something done during a conversation in a world of type `σ`. -/
abbrev Talk (σ : Type) := Work (Session × σ)

namespace Talk

variable {σ α : Type}

/-- Something done to the world, the conversation being left as it is. -/
def outside (act : StateM σ α) : StateM (Session × σ) α :=
  fun state => ((act.run state.2).1, (state.1, (act.run state.2).2))

/-- Something done to the world, whose accidents are worded. -/
def worded (word : Accident → Failure) (act : StateM σ (Except Accident α)) : Talk σ α :=
  ExceptT.mk ((outside act).map fun r => r.mapError word)

def session : Talk σ Session := do
  return (← get).1

/-- A change to what the conversation remembers. -/
def remember (f : Session → Session) : Talk σ Unit :=
  Work.change fun state => (f state.1, state.2)

/-- A whole conversation, seen from the world in which it happens. -/
def whole (talk : Talk σ α) : Work σ α :=
  ExceptT.mk fun world =>
    let (r, state) := talk.run.run (.fresh, world)
    (r, state.2)

end Talk

variable {σ : Type} (w : World σ)

/-! ### Opening and closing -/

/-- A failure to connect. -/
def wordRefusal (server : Server) (a : Accident) : Failure :=
  if a.isSystem || a.isSocket then .connection (.refused server.url a)
  else .unexpected (.accident a)

/-- Opens the socket; one that is open already is left behind. -/
def connect (server : Server) : Talk σ Unit := do
  Talk.worded (wordRefusal server) (w.connect server.url server.authorization?)
  Talk.remember fun s => { s with isOpen := true }

/-- Closes the socket if it is open. -/
def disconnect : Talk σ Unit := do
  if (← Talk.session).isOpen then
    ExceptT.lift (Talk.outside w.close)
    Talk.remember fun s => { s with isOpen := false }

/-! ### Asking -/

/-- An accident on the way of a question or its reply. -/
def wordLoss (method : String) (a : Accident) : Failure :=
  if a.family = .deadline then .query (.timedOut method)
  else if a.isSystem || a.isValue || a.isSocket then .query (.interrupted a)
  else .unexpected (.accident a)

/-- Asks a question, and takes the next message for the reply. -/
def ask (method : String) (parameters : Json) : Talk σ Json := do
  let s ← Talk.session
  if !s.isOpen then throw (.connection .notConnected)
  let question : Question := ⟨s.asked + 1, method, parameters⟩
  Talk.remember fun s => { s with asked := s.asked + 1 }
  Talk.worded (wordLoss method) (w.send question.text)
  let message ← Talk.worded (wordLoss method) w.receive
  .ofAttempt (document message >>= answer)

/-- Asks for the tip by one method after the other; failures of the network are failures of queries,
and only these are passed over. -/
def askTipBy : List String → Talk σ Tip
  | [] => throw (.query .noTip)
  | method :: methods => do
    match ← (ask w method .null).attempt with
    | .ok v =>
      match Tip.ofAnswer? v with
      | some tip => return tip
      | none => askTipBy methods
    | .error (.query _) => askTipBy methods
    | .error f => throw f

def askTip : Talk σ Tip :=
  askTipBy w tipMethods

/-- Asks for the protocol parameters. -/
def askParameters : Talk σ Json :=
  ask w parametersMethod .null

/-! ### Whole conversations -/

/-- A conversation for one purpose: the socket is opened for it, and closed whether or not the
purpose was reached. -/
def during {α : Type} (server : Server) (talk : Talk σ α) : Work σ α :=
  Talk.whole do
    connect w server
    let r ← talk.attempt
    disconnect w
    .ofAttempt r

def tip (s : Settings) : Work σ Tip :=
  during w (.ofSettings s) (askTip w)

def protocolParameters (s : Settings) : Work σ Json :=
  during w (.ofSettings s) (askParameters w)

end TxDraft.Ogmios
