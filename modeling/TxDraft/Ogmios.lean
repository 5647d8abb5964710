import TxDraft.Encoding.Base64
import TxDraft.Json.Printer
import TxDraft.Json.Wording
import TxDraft.World

/-!
# Ogmios

Ogmios answers for the node: one question and one reply at a time, as documents, over a web socket.
This module holds what the documents say: how a question is written (`question`), what a reply means
(`answer`), and what the tip of the chain is (`Tip.ofAnswer?`).

* A reply with a result answers, whatever else it holds; one with an error refuses; an object with
  neither is taken for the answer itself.
* Whatever is no object cannot be searched for a result by its name, unless it is a text or an array
  that does not speak of one.
-/

namespace TxDraft.Ogmios

/-! ### Servers -/

/-- The address of the web socket of a server, which serves both kinds of connections in one place.
-/
def socketUrl (url : String) : String :=
  match Text.after? "https://".toList url.toList, Text.after? "http://".toList url.toList with
  | some rest, _ => "wss://" ++ String.ofList rest
  | none, some rest => "ws://" ++ String.ofList rest
  | none, none => url

/-- A server, and as whom it is asked. -/
structure Server where
  /-- The address of its web socket. -/
  url : String
  username : Option String
  password : Option String
  deriving DecidableEq

namespace Server

/-- A server at an address of either kind. -/
def ofUrl (url : String) (username password : Option String) : Server :=
  ⟨socketUrl url, username, password⟩

/-- The server that the settings name. -/
def ofSettings (s : Settings) : Server :=
  .ofUrl s.ogmiosUrl s.ogmiosUsername s.ogmiosPassword

/-- The word of authorization, which takes both a name and a password. -/
def authorization? (server : Server) : Option String :=
  let username := server.username.getD ""
  let password := server.password.getD ""
  if username = "" || password = "" then none
  else some ("Basic " ++ Base64.encode (Bytes.ofText (username ++ ":" ++ password)))

end Server

/-! ### Questions and replies -/

/-- A question: its number, what it asks for, and with what parameters, if any. -/
structure Question where
  number : Nat
  method : String
  parameters : Json

namespace Question

def fields (q : Question) : Json.Fields :=
  ("jsonrpc", .str "2.0") :: ("method", .str q.method) :: ("id", .int q.number) ::
    if q.parameters.isTruthy then [("params", q.parameters)] else []

/-- The question as it is sent. -/
def text (q : Question) : String :=
  (Json.obj q.fields).compact

end Question

/-- What a server says of an error. -/
def complaint : Json → String
  | .obj fields => ((Json.field? fields "message").getD (.obj fields)).wording
  | v => v.wording

/-- Is a part found in something that is no object?  A text may hold its name, and an array may have
it for an item; what has no parts at all breaks the question. -/
def speaksOf (part : String) : Json → Bool
  | .str s => Text.occursIn part s.string
  | .arr items => items.any fun item =>
      match item with
      | .str s => s = .plain part
      | _ => false
  | _ => true

/-- What a reply means. -/
def answer : Json → Attempt Json
  | .obj fields =>
    match Json.field? fields "result", Json.field? fields "error" with
    | some v, _ => .ok v
    | none, some v => .error (.query (.answered (complaint v)))
    | none, none => .ok (.obj fields)
  | v =>
    if speaksOf "result" v || speaksOf "error" v then .error (.unexpected .reply) else .ok v

/-- The document in a message. -/
def document (message : String) : Attempt Json :=
  (Json.parse (some Quantity.maxDigits) message).mapError fun fault =>
    .query (.unreadable fault.isLongNumber)

/-! ### What is asked for -/

/-- The method for the protocol parameters. -/
def parametersMethod : String := "queryLedgerState/protocolParameters"

/-- The methods for the tip, in the order in which they are tried. -/
def tipMethods : List String := ["queryLedgerState/tip", "queryNetwork/tip"]

/-- The tip of the chain, its parts as the server gave them. -/
structure Tip where
  slot : Json
  blockHash : Json
  blockHeight : Json

namespace Tip

/-- The value of the first field that is there, else a default. -/
def firstField (fields : Json.Fields) (default : Json) : List String → Json
  | [] => default
  | name :: names => (Json.field? fields name).getD (firstField fields default names)

/-- The tip in an answer, which must be an object. -/
def ofAnswer? : Json → Option Tip
  | .obj fields => some {
      slot := firstField fields (.int 0) ["slot", "slotNo"]
      blockHash := firstField fields (.str "") ["id", "hash", "headerHash"]
      blockHeight := firstField fields .null ["height", "blockNo"] }
  | _ => none

/-- The fields of the tip in a report. -/
def reportFields (t : Tip) : Json.Fields :=
  [("slot", t.slot), ("block_hash", t.blockHash), ("block_height", t.blockHeight)]

end Tip

end TxDraft.Ogmios
