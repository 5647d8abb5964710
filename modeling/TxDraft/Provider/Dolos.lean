import TxDraft.World

/-!
# Dolos

Dolos serves documents under paths: the unspent outputs at an address, page by page, the protocol
parameters, its version and its health.  A document that is not found is null.  Pages are asked for
until one is not full.
-/

namespace TxDraft.Dolos

variable {σ : Type} (w : World σ) (s : Settings)

/-- How many records a full page has. -/
def pageSize : Nat := 100

/-- A failure of the transport as one of Dolos. -/
def word : Failure → Failure
  | .unexpected (.accident a) =>
    if a.isTransport then .provider (.dolosRequest a) else .unexpected (.accident a)
  | f => f

/-- The document in a reply to what was asked for under a path. -/
def document (path : String) (r : Reply) : Attempt Json :=
  if r.status = 404 then .ok .null
  else if r.isSuccess then (r.document).mapError fun _ => .provider (.dolosBody path)
  else .error (.provider (.dolosStatus r.status))

/-- The address behind which paths are put. -/
def base : Attempt Url :=
  match (Url.ofText? s.dolosBase).bind Url.asBase? with
  | some u => .ok u
  | none => .error (.unexpected .address)

/-- The document under a path, with a query. -/
def fetch (path : String) (query : List (String × String)) : Work σ Json := do
  let u ← .ofAttempt (do World.target (← base s) path)
  let u := if query.isEmpty then u else u.withQuery query
  let r ← (Work.ofAccident (w.get u s.requestTimeout)).mapFailure word
  .ofAttempt (document path r)

/-- The path of the unspent outputs at an address. -/
def unspentPath (address : String) : String :=
  "/api/v0/addresses/" ++ address ++ "/utxos"

/-- The query for a page, the first page being number one. -/
def pageQuery (number : Nat) : List (String × String) :=
  [("count", toString pageSize), ("page", toString number)]

/-- A page of the unspent outputs at an address. -/
def page (address : String) (number : Nat) : Work σ Json :=
  fetch w s (unspentPath address) (pageQuery number)

/-- Asks for a page, and puts its records behind those found before.  A page that is not full, or
no list at all, is the last. -/
def turn (ask : Nat → Work σ Json) :
    Nat × List Json → Work σ ((Nat × List Json) ⊕ List Json)
  | (number, found) => do
    match ← ask number with
    | .arr records =>
      if records.length < pageSize then return .inr (found ++ records)
      else return .inl (number + 1, found ++ records)
    | _ => return .inr found

/-- The records of the unspent outputs at an address. -/
def unspentAt (address : String) : Work σ (List Json) :=
  repeatM (turn (page w s address)) (1, [])

def protocolParameters : Work σ Json := do
  match ← fetch w s "/api/v0/epochs/latest/parameters" [] with
  | .obj fields => return .obj fields
  | _ => throw (.provider .noParameters)

/-- The version document, by its fields. -/
def version : Work σ Json.Fields := do
  match ← fetch w s "/" [] with
  | .obj fields => return fields
  | _ => throw (.provider .noVersion)

/-- What Dolos says of its health.  A document of another kind is a yes, and none at all a no. -/
def healthOf : Json → Json
  | .obj fields => .obj fields
  | v => .obj [("is_healthy", .bool v.isPresent)]

/-- What Dolos says of its health. -/
def health : Work σ Json := do
  return healthOf (← fetch w s s.dolosHealthPath [])

/-- What the builder of transactions is told of Dolos. -/
structure Context where
  baseUrl : String
  projectId : String
  network : Network
  deriving DecidableEq

/-- The project when none is named. -/
def defaultProject : String := "dolos"

/-- What the builder of transactions is told of Dolos; an address that speaks of the main network
means the main network. -/
def context : Context :=
  let baseUrl := s.dolosBase ++ "/api"
  { baseUrl
    projectId := (s.projectId.filter (· ≠ "")).getD defaultProject
    network := if Text.occursIn "mainnet" baseUrl then .mainnet else s.networkGroup }

end TxDraft.Dolos
