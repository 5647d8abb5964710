import TxDraft.Binary64.Reading
import TxDraft.Binary64.Shortest
import TxDraft.Failure
import TxDraft.Json.Wording
import TxDraft.Network

/-!
# Settings

Where the services are, which network is meant, and how long to wait for answers.
`Settings.ofEnvironment` reads them from named texts; a text that is missing or blank leaves the
default.
-/

namespace TxDraft

/-- A number of seconds, whole or of any size. -/
inductive Seconds where
  | whole (n : Int)
  | real (x : Binary64)
  deriving DecidableEq

namespace Seconds

/-- The number as a message shows it. -/
def text : Seconds → String
  | whole n => (Json.int n).shown
  | real x => (Json.float x).shown

/-- Is the number zero or less? -/
def isOver : Seconds → Bool
  | whole n => n ≤ 0
  | real x => x.isZero || (x.isNegative && !x.isNaN)

end Seconds

/-- The settings. -/
structure Settings where
  ogmiosUrl : String
  ogmiosUsername : Option String
  ogmiosPassword : Option String
  kupoUrl : String
  dolosGrpcUrl : String
  dolosRestUrl : String
  dolosHealthPath : String
  /-- What Dolos is told in the place of a project; it does not look at it. -/
  projectId : Option String
  network : String
  /-- How long a probe may take. -/
  pingTimeout : Seconds
  /-- How long a question for health may take. -/
  healthTimeout : Seconds
  /-- How long a request to a provider may take. -/
  requestTimeout : Seconds
  deriving DecidableEq

namespace Settings

/-- The settings when nothing is said. -/
def default : Settings where
  ogmiosUrl := "http://localhost:1337"
  ogmiosUsername := none
  ogmiosPassword := none
  kupoUrl := "http://localhost:1442"
  dolosGrpcUrl := "http://localhost:50051"
  dolosRestUrl := "http://localhost:4000"
  dolosHealthPath := "/api/v0/health"
  projectId := none
  network := "preprod"
  pingTimeout := .real (.ofDecimal false 15 (-1))
  healthTimeout := .real (.ofDecimal false 2 0)
  requestTimeout := .real (.ofDecimal false 10 0)

/-- The text without slashes at its end. -/
def withoutEndSlashes (s : String) : String :=
  Text.stripEnd (· = '/') s

/-- Is the main network meant? -/
def isMainnet (s : Settings) : Bool :=
  s.network = "mainnet"

/-- The group of networks that is meant. -/
def networkGroup (s : Settings) : Network :=
  Network.ofName s.network

/-- Where Dolos is, without slashes at the end. -/
def dolosBase (s : Settings) : String :=
  withoutEndSlashes s.dolosRestUrl

/-- Where Dolos tells its health. -/
def dolosHealthUrl (s : Settings) : String :=
  s.dolosBase ++ s.dolosHealthPath

/-! ### From the environment -/

/-- A text of the environment without blanks around it, unless it is missing or blank. -/
def given (environment : String → Option String) (name : String) : Option String :=
  ((environment name).map Text.strip).filter (· ≠ "")

/-- A number of the environment. -/
def seconds (environment : String → Option String) (name : String) (default : Seconds) :
    Attempt Seconds :=
  match given environment name with
  | none => .ok default
  | some s =>
    match Binary64.readNumber? Text.digitValue? s with
    | some x => .ok (.real x)
    | none => .error (.unexpected .number)

/-- The names that are looked up in the environment. -/
def environmentNames : List String :=
  ["OGMIOS_URL", "OGMIOS_USERNAME", "OGMIOS_PASSWORD", "KUPO_URL", "DOLOS_GRPC_URL",
    "DOLOS_REST_URL", "DOLOS_HEALTH_PATH", "BLOCKFROST_PROJECT_ID", "CARDANO_NETWORK",
    "PROBE_PING_TIMEOUT", "PROBE_HEALTH_TIMEOUT", "PROVIDER_REQUEST_TIMEOUT"]

/-- The settings that an environment gives. -/
def ofEnvironment (environment : String → Option String) : Attempt Settings := do
  let text (name default : String) : String := (given environment name).getD default
  let pingTimeout ← seconds environment "PROBE_PING_TIMEOUT" default.pingTimeout
  let healthTimeout ← seconds environment "PROBE_HEALTH_TIMEOUT" default.healthTimeout
  let requestTimeout ← seconds environment "PROVIDER_REQUEST_TIMEOUT" default.requestTimeout
  return {
    ogmiosUrl := text "OGMIOS_URL" default.ogmiosUrl
    ogmiosUsername := given environment "OGMIOS_USERNAME"
    ogmiosPassword := given environment "OGMIOS_PASSWORD"
    kupoUrl := text "KUPO_URL" default.kupoUrl
    dolosGrpcUrl := text "DOLOS_GRPC_URL" default.dolosGrpcUrl
    dolosRestUrl := text "DOLOS_REST_URL" default.dolosRestUrl
    dolosHealthPath := text "DOLOS_HEALTH_PATH" default.dolosHealthPath
    projectId := given environment "BLOCKFROST_PROJECT_ID"
    network := text "CARDANO_NETWORK" default.network
    pingTimeout
    healthTimeout
    requestTimeout }

end Settings

end TxDraft
