import TxDraft.Probe

/-!
# Readiness

Which providers can be used.  Ogmios and Kupo are used together or not at all, and are preferred;
Dolos is used when it says that it is well.  `Readiness.resolve` asks all endpoints.
-/

namespace TxDraft

/-- Which endpoints answer. -/
structure Reachability where
  ogmios : Bool
  kupo : Bool
  /-- Reported only; nothing hangs on it. -/
  dolosGrpc : Bool
  dolosRest : Bool
  dolosHealthy : Bool
  deriving DecidableEq

namespace Reachability

/-- Can the pair of Ogmios and Kupo be used? -/
def kupmios (r : Reachability) : Bool :=
  r.ogmios && r.kupo

end Reachability

/-- What was found out about the providers. -/
structure Readiness where
  reachability : Reachability
  /-- The endpoints by their names. -/
  endpoints : List (String × String)
  deriving DecidableEq

namespace Readiness

/-- Is there a provider? -/
def isReady (r : Readiness) : Bool :=
  r.reachability.kupmios || r.reachability.dolosHealthy

/-- The provider that is used. -/
def provider? (r : Readiness) : Option Provider :=
  if r.reachability.kupmios then some .kupmios
  else if r.reachability.dolosHealthy then some .dolos
  else none

/-- The provider that is used; there must be one. -/
def provider (r : Readiness) : Attempt Provider :=
  match r.provider? with
  | some p => .ok p
  | none => .error (.unavailable .noneReachable)

/-- The status of a report, as web services count them. -/
def status (r : Readiness) : Nat :=
  if r.isReady then 200 else 503

/-- The fields of the report of what was found out. -/
def reportFields (r : Readiness) : Json.Fields :=
  ([("success", .bool r.isReady), ("ready", .bool r.isReady),
    ("provider", .ofText? (r.provider?.map Provider.name)),
    ("ogmiosReachable", .bool r.reachability.ogmios),
    ("kupoReachable", .bool r.reachability.kupo),
    ("dolosGrpcReachable", .bool r.reachability.dolosGrpc),
    ("dolosRestReachable", .bool r.reachability.dolosRest),
    ("dolosRestHealthy", .bool r.reachability.dolosHealthy)] : Json.Fields) ++
  r.endpoints.map fun e => (.plain (e.1 ++ "Url"), .str e.2)

/-- The report of what was found out. -/
def report (r : Readiness) : Json :=
  .obj (Entries.ofPairs r.reportFields)

/-- Asks all endpoints.  All are asked before a failure that is none of the network's counts. -/
def resolve {σ : Type} (w : World σ) (s : Settings) : Work σ Readiness := do
  let ogmios ← (Probe.ping w s.ogmiosUrl s.pingTimeout).attempt
  let kupo ← (Probe.ping w s.kupoUrl s.pingTimeout).attempt
  let dolosGrpc ← (Probe.ping w s.dolosGrpcUrl s.pingTimeout).attempt
  let dolosRest ← (Probe.ping w s.dolosRestUrl s.pingTimeout).attempt
  let dolosHealthy ← (Probe.health w s.dolosHealthUrl s.healthTimeout).attempt
  .ofAttempt do
    return {
      reachability := ⟨← ogmios, ← kupo, ← dolosGrpc, ← dolosRest, ← dolosHealthy⟩
      endpoints := [("ogmios", s.ogmiosUrl), ("kupo", s.kupoUrl), ("dolosGrpc", s.dolosGrpcUrl),
        ("dolosRest", s.dolosRestUrl)] }

end Readiness

end TxDraft
