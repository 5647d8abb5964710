import TxDraft.Action.Validation
import TxDraft.Compile
import TxDraft.Lookup

/-!
# The service

What the library does for others: it tells which providers are usable, looks up addresses, builds
unsigned transactions, and passes on what the services behind it say.

A request is checked before anything else: an invalid address or action sends nothing.  Then it is
found out, once, which provider is usable; only then a builder is started, once, and the actions are
compiled.
-/

namespace TxDraft

/-- A service over a backend, with builders that have handles of type `η`, in a world of type `ω`.
-/
structure Service (η ω : Type) where
  /-- The network whose addresses are accepted. -/
  network : Network
  backend : Backend ω
  builder : Builder η ω
  /-- Starts a builder with a provider, for the address that pays. -/
  start : Provider → String → Work ω η

namespace Service

variable {η ω : Type} (s : Service η ω)

/-! ### Checking -/

/-- An address in the form in which it is asked for. -/
def checkAddress (field : String) (address : Json) : Work ω String :=
  .ofAttempt (validateAddress (some s.network) field address)

/-- The actions in a document. -/
def checkActions (actions : Json) : Work ω (List Action) :=
  .ofAttempt (Action.validateAll (some s.network) actions)

/-- The provider that is usable now. -/
def requireProvider : Work ω Provider :=
  Lookup.provider s.backend none

/-! ### Building -/

/-- A failure to start a builder; what the library words itself stays as it is. -/
def wordStart : Failure → Failure
  | .unexpected why => .compilation (.startFailed why) .unknown
  | f => f

/-- Compiles actions with a builder started for them. -/
def compile (p : Provider) (source : String) (actions : List Action) :
    Work ω UnsignedTransaction := do
  let h ← (s.start p source).mapFailure wordStart
  Compile.run s.builder h actions

/-- The unsigned transaction for actions that a source address pays for. -/
def build (source actions : Json) : Work ω UnsignedTransaction := do
  let source ← s.checkAddress "fromAddress" source
  let actions ← s.checkActions actions
  let p ← s.requireProvider
  s.compile p source actions

/-- The actions of a single payment. -/
def paymentActions (target lovelace : Json) : Json :=
  .arr [.obj [("type", .str "payLovelace"), ("toAddress", target), ("lovelace", lovelace)]]

/-- The unsigned transaction for a single payment. -/
def buildPayment (source target lovelace : Json) : Work ω UnsignedTransaction :=
  s.build source (paymentActions target lovelace)

/-! ### Looking up -/

def balance (address : Json) : Work ω AddressBalance := do
  let address ← s.checkAddress "address" address
  Lookup.balanceAt s.backend none address

/-- The unspent outputs at an address. -/
def unspent (address : Json) : Work ω (List Utxo) := do
  let address ← s.checkAddress "address" address
  Lookup.unspentAt s.backend none address

def protocolParameters : Work ω Json := do
  (← s.backend.client (← s.requireProvider)).parameters

end Service

end TxDraft
