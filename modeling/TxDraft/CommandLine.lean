import TxDraft.CommandLine.Command
import TxDraft.Json.Printer
import TxDraft.Service

/-!
# Running commands

A command is run with a service, and its answer is printed as one JSON object.  The program ends
with 0 if the answer tells of success and with 1 if not; a command line that is not understood
prints nothing and ends with 2.

Failures that the library words are answers.  So is a refusal of the operating system, wherever it
arises, and a document of actions that cannot be read; every other failure ends the program, and so
does an integer in an answer that has too many digits to be written.
-/

namespace TxDraft.CommandLine

/-! ### Reading actions -/

/-- Where documents are read, in a world of type `ω`. -/
structure Desk (ω : Type) where
  /-- All that is given to the program itself. -/
  input : StateM ω (Except Accident String)
  /-- What a file holds. -/
  file : String → StateM ω (Except Accident String)

/-- The refusal to read a file that is not there. -/
def missingFile (path : String) : Accident :=
  ⟨.system "FileNotFoundError", "[Errno 2] No such file or directory: " ++ Text.quoted path⟩

/-- Every break between lines as a line feed. -/
def withLineFeeds : List Char → List Char
  | '\r' :: '\n' :: rest => '\n' :: withLineFeeds rest
  | '\r' :: rest => '\n' :: withLineFeeds rest
  | c :: rest => c :: withLineFeeds rest
  | [] => []

/-- Reads a document of actions. -/
def document (text : String) : Attempt Json :=
  (Json.parse (some Quantity.maxDigits) text).mapError fun fault =>
    if fault.isLongNumber then .unexpected .number
    else .unexpected (.document (fault.message text))

/-- The name that stands for what is given to the program itself. -/
def inputName : String := "-"

/-- The text under a path. -/
def Desk.text {ω : Type} (desk : Desk ω) (path : String) : Work ω String := do
  if path = inputName then .ofAccident desk.input
  else
    let text ← .ofAccident (desk.file path)
    return String.ofList (withLineFeeds text.toList)

/-- The document of actions under a path. -/
def readActions {ω : Type} (desk : Desk ω) (path : String) : Work ω Json := do
  .ofAttempt (document (← desk.text path))

/-! ### Writing quantities -/

/-- The quantities that the report of a balance writes out. -/
def quantitiesOfBalance (b : AddressBalance) : List Int :=
  b.lovelace :: b.assets.map Prod.snd

/-- The quantities that the report of an output writes out. -/
def quantitiesOfUtxo (u : Utxo) : List Int :=
  u.lovelace :: u.assets.map Prod.snd

/-- All the quantities must be short enough to be written out. -/
def checkShort (quantities : List Int) : Attempt Unit :=
  if quantities.all Quantity.isShort then .ok () else .error (.unexpected .number)

/-! ### Answers -/

/-- An answer, and whether it tells of success. -/
structure Answer where
  payload : Json
  success : Bool

namespace Answer

/-- An answer that tells of success. -/
def accept (payload : Json) : Answer := ⟨payload, true⟩

/-- An answer that begins with the mark of success; fields of the same name replace it. -/
def withMark (fields : Json.Fields) : Answer :=
  accept (.obj (Entries.ofPairs (("success", .bool true) :: fields)))

end Answer

variable {η ω : Type} (s : Service η ω) (desk : Desk ω)

/-- The answer to a command. -/
def answer : Command → Work ω Answer
  | .status => do
    let r ← s.backend.resolve
    return ⟨r.report, r.isReady⟩
  | .balance address => do
    let b ← s.balance (.str address)
    .ofAttempt (checkShort (quantitiesOfBalance b))
    return .accept b.report
  | .utxos address => do
    let utxos ← s.unspent (.str address)
    .ofAttempt (checkShort (utxos.flatMap quantitiesOfUtxo))
    return .withMark [("utxos", .arr (utxos.map Utxo.toJson))]
  | .build source actions => do
    let actions ← readActions desk actions
    return .accept (← s.build (.str source) actions).report
  | .send source target lovelace =>
    return .accept (← s.buildPayment (.str source) (.str target) (.str lovelace)).report
  | .params => return .withMark [("parameters", ← s.protocolParameters)]
  | .tip => return .withMark (← s.backend.tip).reportFields
  | .version => return .withMark (← s.backend.version)

/-- The answer when actions cannot be read. -/
def unreadable (reason : String) : Answer :=
  ⟨.obj [("success", .bool false), ("error", .str ("Could not read actions: " ++ reason))], false⟩

/-- The answer that a failure is, if it is one. -/
def answerOf? : Failure → Option Answer
  | .unexpected (.accident a) => if a.isSystem then some (unreadable a.text) else none
  | .unexpected (.document text) => some (unreadable text)
  | .unexpected _ => none
  | f => some ⟨f.report, false⟩

/-- The answer to a command, also if it fails. -/
def answerAlways (command : Command) : Work ω Answer := do
  match ← (answer s desk command).attempt with
  | .ok a => return a
  | .error f =>
    match answerOf? f with
    | some a => return a
    | none => throw f

/-! ### Endings -/

/-- How the program is used. -/
def usage : String :=
  "\n".intercalate [
    "usage: [-h] [-v] command ...",
    "",
    "commands:",
    "  status            which providers are usable",
    "  balance ADDRESS   what lies at an address",
    "  utxos ADDRESS     the unspent outputs at an address",
    "  build --from ADDRESS --actions FILE",
    "                    a transaction for the actions in a file, '-' for standard input",
    "  send --from ADDRESS --to ADDRESS --lovelace AMOUNT",
    "                    a transaction for a single payment",
    "  params            the protocol parameters",
    "  tip               the tip of the chain",
    "  version           the version document of Dolos",
    ""]

/-- How a run of the program ends. -/
structure Ending where
  exit : Nat
  /-- What is printed. -/
  output : String
  deriving DecidableEq

namespace Ending

/-- The end of a run with an answer. -/
def ofAnswer (a : Answer) : Ending :=
  ⟨if a.success then 0 else 1, a.payload.indented ++ "\n"⟩

/-- The end of a run with an answer whose integers can all be written out. -/
def print (a : Answer) : Attempt Ending := do
  checkShort a.payload.integers
  return ofAnswer a

/-- The end of a run that was refused. -/
def ofRefusal : Refusal → Ending
  | .help => ⟨0, usage⟩
  | .misuse => ⟨2, ""⟩

end Ending

/-- Runs the program with the arguments of a command line. -/
def run (args : List String) : Work ω Ending :=
  match Invocation.ofArguments args with
  | .error refusal => return .ofRefusal refusal
  | .ok invocation => do
    let a ← answerAlways s desk invocation.command
    .ofAttempt (Ending.print a)

end TxDraft.CommandLine
