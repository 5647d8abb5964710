import TxDraft.Proofs.Work
import TxDraft.World

/-!
# Requests to the world

What requests do to the world that they are made in, and worlds that keep a log of them:
`World.logged` writes down the address of every web request behind the state of the world, and
`World.tapped` what goes over the web socket.
-/

namespace TxDraft

variable {σ ρ α : Type}

@[simp] theorem Work.outcomeIn_ofAccident (act : StateM σ (Except Accident α)) (world : σ) :
    (Work.ofAccident act).outcomeIn world =
      ((act.run world).1.mapError fun a => .unexpected (.accident a), (act.run world).2) := rfl

namespace World

/-- Something done to the first part of the world; the second part stays as it is. -/
def beside (act : StateM σ α) : StateM (σ × ρ) α := fun state =>
  let (answer, left) := act.run state.1
  (answer, (left, state.2))

/-- The world with a log of the web requests that are made in it. -/
def logged (w : World σ) : World (σ × List Url) where
  get url deadline := fun state =>
    let (reply, left) := (w.get url deadline).run state.1
    (reply, (left, state.2 ++ [url]))
  connect url authorization := beside (w.connect url authorization)
  send text := beside (w.send text)
  receive := beside w.receive
  close := beside w.close

theorem get_logged (w : World σ) (url : Url) (deadline : Seconds) (world : σ) (log : List Url) :
    (w.logged.get url deadline).run (world, log) =
      (((w.get url deadline).run world).1,
        (((w.get url deadline).run world).2, log ++ [url])) := rfl

/-- What goes over a socket: a text that is sent, or what became of waiting for one. -/
inductive Traffic where
  | sent (text : String)
  | received (message : Except Accident String)

/-- The world with a log of what goes over the socket. -/
def tapped (w : World σ) : World (σ × List Traffic) where
  get url deadline := beside (w.get url deadline)
  connect url authorization := beside (w.connect url authorization)
  send text := fun state =>
    let (done, left) := (w.send text).run state.1
    (done, (left, state.2 ++ [.sent text]))
  receive := fun state =>
    let (message, left) := w.receive.run state.1
    (message, (left, state.2 ++ [.received message]))
  close := beside w.close

theorem send_tapped (w : World σ) (text : String) (world : σ) (log : List Traffic) :
    (w.tapped.send text).run (world, log) =
      (((w.send text).run world).1, (((w.send text).run world).2, log ++ [.sent text])) := rfl

theorem receive_tapped (w : World σ) (world : σ) (log : List Traffic) :
    w.tapped.receive.run (world, log) =
      ((w.receive.run world).1, ((w.receive.run world).2,
        log ++ [.received (w.receive.run world).1])) := rfl

end World

end TxDraft
