import TxDraft.Accident
import TxDraft.Issue
import TxDraft.Provider
import TxDraft.Utxo

/-!
# Failures

Every way in which a request can fail.  The failures that the library words itself fall into classes
with a status each: the request is invalid, no provider is usable, a provider answered badly, the
connection or a query to the node failed, an action could not be compiled, an action is not
supported, a request timed out on the way.  Within a class the cause is kept, and `Failure.message`
words it; a builder may also report a failure of a class with a text of its own.  What the library
does not word is kept as it came (`Failure.unexpected`).
-/

namespace TxDraft

/-! ### Failures that are not worded here -/

/-- A failure that passes through the library as it came. -/
inductive Unexpected where
  /-- Something outside broke. -/
  | accident (accident : Accident)
  /-- The ledger refused a value: an address, a hash, a script, a sum. -/
  | ledger
  /-- A quantity is none. -/
  | quantity (fault : Quantity.Fault)
  /-- A record of an output cannot be read. -/
  | record (fault : Utxo.Fault)
  /-- The value of a record cannot be read. -/
  | value (fault : Value.Fault)
  /-- A number cannot be read. -/
  | number
  /-- A document cannot be read; the text says where. -/
  | document (text : String)
  /-- A web address cannot be requested. -/
  | address
  /-- Where a node is cannot be told: the port number is none or too large, or the host
  is malformed. -/
  | endpoint
  /-- A reply holds no named parts, or its parts have no names. -/
  | reply
  /-- A transaction has no length. -/
  | unsized
  deriving DecidableEq

/-- The text of a quantity's fault inside a message; a number that is too long is only named by the
kind of its fault. -/
def Quantity.Fault.text : Quantity.Fault → String
  | .tooManyDigits _ => "<ValueError>"
  | fault => fault.message

/-- The text of a value's fault inside a message. -/
def Value.Fault.text : Value.Fault → String
  | .quantity fault => fault.text
  | _ => "<AttributeError>"

/-- The text of a record's fault inside a message. -/
def Utxo.Fault.text (fault : Utxo.Fault) : String :=
  match fault with
  | .index fault => fault.text
  | .value fault => fault.text
  | fault => fault.message?.getD ""

namespace Unexpected

/-- The text inside a message: the words of whoever failed, or the kind of failure in brackets. -/
def text : Unexpected → String
  | accident a => a.text
  | ledger => "<SdkError>"
  | quantity fault => fault.text
  | record fault => fault.text
  | value fault => fault.text
  | number | endpoint => "<ValueError>"
  | document text => text
  | address => "<InvalidURL>"
  | reply | unsized => "<TypeError>"

end Unexpected

/-! ### Causes -/

/-- Why no provider is usable. -/
inductive UnavailableCause where
  | noneReachable
  | reported (text : String)
  deriving DecidableEq

/-- What a provider did wrong. -/
inductive ProviderCause where
  | unreadableRecord (provider : Provider) (fault : Utxo.Fault)
  | kupoRequest (accident : Accident)
  | kupoStatus (status : Int)
  | kupoBody
  | dolosRequest (accident : Accident)
  | dolosStatus (status : Int)
  | dolosBody (path : String)
  | noParameters
  | noVersion
  | reported (text : String)
  deriving DecidableEq

/-- Why there is no connection to the node. -/
inductive ConnectionCause where
  | refused (url : String) (accident : Accident)
  | notConnected
  | reported (text : String)
  deriving DecidableEq

/-- Why a query to the node has no answer. -/
inductive QueryCause where
  | timedOut (method : String)
  | interrupted (accident : Accident)
  | unreadable (longNumber : Bool)
  | answered (text : String)
  | noTip
  | reported (text : String)
  deriving DecidableEq

/-- Why an action, or the transaction as a whole, cannot be compiled. -/
inductive CompilationCause where
  | stepFailed (action : String) (why : Unexpected)
  | finishFailed (why : Unexpected)
  | startFailed (why : Unexpected)
  | emptyTransaction
  | recordWithoutAddress (reference : String)
  | notAtSource (reference : String)
  | scriptMissing (action : String)
  | noStakeCredential (address : String)
  | multiplierUnsupported
  | withdrawalWithoutAmount
  | reported (text : String)
  deriving DecidableEq

/-- Why a web request has no answer. -/
inductive TransientCause where
  | timedOut (url seconds : String)
  | failed (url reason : String)
  | reported (text : String)
  deriving DecidableEq

/-- Which action of a sequence a failure belongs to, as far as it is known. -/
structure Place where
  index : Option Int
  action : Option String
  deriving DecidableEq

namespace Place

/-- No place is known. -/
def unknown : Place := ⟨none, none⟩

end Place

/-- A failure of a request. -/
inductive Failure where
  | invalid (issues : List Issue)
  | unavailable (cause : UnavailableCause)
  | provider (cause : ProviderCause)
  | connection (cause : ConnectionCause)
  | query (cause : QueryCause)
  | compilation (cause : CompilationCause) (place : Place)
  | unsupported (operation : String) (candidates : List String) (place : Place)
  | transient (cause : TransientCause)
  | general (text : String)
  | unexpected (why : Unexpected)
  deriving DecidableEq

/-! ### Wording -/

/-- How long a query may wait for its answer, as messages say it. -/
def QueryCause.patience : String := "30.0s"

def UnavailableCause.message : UnavailableCause → String
  | noneReachable => "No reachable provider (Kupmios/Dolos)"
  | reported text => text

def ProviderCause.message : ProviderCause → String
  | unreadableRecord provider fault =>
    s!"{provider.name} returned an unrecognised UTxO record: {fault.text}"
  | kupoRequest accident => s!"Kupo request failed: {accident.text}"
  | kupoStatus status => s!"Kupo error: {status}"
  | kupoBody => "Kupo returned invalid JSON"
  | dolosRequest accident => s!"Dolos REST request failed: {accident.text}"
  | dolosStatus status => s!"Dolos REST error: {status}"
  | dolosBody path => s!"Dolos REST returned invalid JSON for {path}"
  | noParameters => "Dolos REST returned no protocol parameters"
  | noVersion => "Dolos REST root returned no version document"
  | reported text => text

def ConnectionCause.message : ConnectionCause → String
  | refused url accident => s!"Failed to connect to Ogmios at {url}: {accident.text}"
  | notConnected => "Not connected to Ogmios"
  | reported text => text

/-- What messages say in the place of the reader's words for a number with too many digits. -/
def QueryCause.longNumberKind : String := "<ValueError>"

/-- What messages say in the place of the reader's words for a text that is no document. -/
def QueryCause.unreadableKind : String := "<JSONDecodeError>"

def QueryCause.message : QueryCause → String
  | timedOut method => s!"Request timed out after {patience}: {method}"
  | interrupted accident => s!"Request failed: {accident.text}"
  | unreadable longNumber =>
    s!"Request failed: {if longNumber then longNumberKind else unreadableKind}"
  | answered text => s!"Ogmios error: {text}"
  | noTip => "Failed to query chain tip"
  | reported text => text

def CompilationCause.message : CompilationCause → String
  | stepFailed action why => s!"{action} failed: {why.text}"
  | finishFailed why => s!"Failed to finalize transaction: {why.text}"
  | startFailed why => s!"Could not start a transaction: {why.text}"
  | emptyTransaction => "Builder produced an empty transaction"
  | recordWithoutAddress reference => s!"UTxO record {reference} carries no address"
  | notAtSource reference => s!"UTxO {reference} not found at the source address"
  | scriptMissing action =>
    s!"{action} with a redeemer requires a Plutus script attached first (attachScript)"
  | noStakeCredential address => s!"{address} has no staking credential"
  | multiplierUnsupported =>
    "feePolicy multiplier is not supported by the pycardano builder; use feeBuffer"
  | withdrawalWithoutAmount =>
    "withdrawRewards needs an explicit amount with the pycardano builder"
  | reported text => text

def TransientCause.message : TransientCause → String
  | timedOut url seconds => s!"GET {url} timed out after {seconds}s"
  | failed url reason => s!"GET {url} failed: {reason}"
  | reported text => text

namespace Failure

def message : Failure → String
  | invalid issues => Issue.summary issues
  | unavailable cause => cause.message
  | provider cause => cause.message
  | connection cause => cause.message
  | query cause => cause.message
  | compilation cause _ => cause.message
  | unsupported operation candidates _ =>
    let names := ", ".intercalate candidates
    s!"Unsupported action '{operation}': none of methods [{names}] found"
  | transient cause => cause.message
  | general text => text
  | unexpected why => why.text

/-- The status of a failure that the library words itself, as web services count them. -/
def status? : Failure → Option Nat
  | invalid _ => some 400
  | unavailable _ => some 503
  | provider _ | connection _ | query _ => some 502
  | compilation _ _ | unsupported _ _ _ => some 422
  | transient _ => some 504
  | general _ => some 500
  | unexpected _ => none

/-- Does the library word this failure itself? -/
def isWorded (f : Failure) : Bool :=
  f.status?.isSome

/-- A failure with one issue. -/
def single (field message : String) : Failure :=
  invalid [⟨field, message, none⟩]

/-- Where in a sequence of actions the failure arose, for failures that keep it. -/
def place? : Failure → Option Place
  | compilation _ place | unsupported _ _ place => some place
  | _ => none

/-- The fields of a place that are known. -/
def placeFields (place : Place) : Json.Fields :=
  (match place.index with
    | some n => [("actionIndex", Json.int n)]
    | none => []) ++
  match place.action with
    | some action => [("actionType", Json.str action)]
    | none => []

/-- An issue as an object. -/
def issueJson (i : Issue) : Json :=
  .obj [("index", match i.index with | some n => .int n | none => .null), ("field", .str i.field),
    ("message", .str i.message)]

/-- What the report of a failure tells besides its message. -/
def details : Failure → Json.Fields
  | invalid issues => [("issues", .arr (issues.map issueJson))]
  | compilation _ place | unsupported _ _ place => placeFields place
  | _ => []

def report (f : Failure) : Json :=
  .obj (("success", .bool false) :: ("error", .str f.message) :: f.details)

end Failure

/-- A computation that may fail. -/
abbrev Attempt := Except Failure

/-- A computation in a world of type `ω` that may fail; what was done to the world before a failure
stays done. -/
abbrev Work (ω : Type) := ExceptT Failure (StateM ω)

namespace Work

variable {ω α : Type}

/-- An attempt as a computation that leaves the world alone. -/
def ofAttempt (a : Attempt α) : Work ω α :=
  ExceptT.mk (pure a)

/-- A change to the world. -/
def change (f : ω → ω) : Work ω Unit :=
  ExceptT.lift (modify f)

/-- The computation with its failure, if it has one, replaced. -/
def mapFailure (f : Failure → Failure) (work : Work ω α) : Work ω α :=
  ExceptT.mk (work.run.map fun r => r.mapError f)

/-- The computation, which now does not fail, with what became of it. -/
def attempt (work : Work ω α) : Work ω (Attempt α) :=
  ExceptT.lift work.run

/-- The computation in a larger world that holds its own. -/
def within {δ : Type} (get : ω → δ) (put : δ → ω → ω) (work : Work δ α) : Work ω α :=
  ExceptT.mk fun world =>
    let (result, inner) := work.run.run (get world)
    (result, put inner world)

end Work

end TxDraft
