import TxDraft.World

/-!
# Kupo

Kupo lists the unspent outputs at an address.
-/

namespace TxDraft.Kupo

variable {σ : Type} (w : World σ) (s : Settings)

/-- Where the unspent outputs at an address are listed. -/
def matchesUrl (address : String) : String :=
  Settings.withoutEndSlashes s.kupoUrl ++ "/matches/" ++ address ++ "?unspent"

/-- A failure of the transport as one of Kupo. -/
def word : Failure → Failure
  | .unexpected (.accident a) =>
    if a.isTransport then .provider (.kupoRequest a) else .unexpected (.accident a)
  | f => f

/-- The records in a reply; a document that is no list holds none. -/
def records (r : Reply) : Attempt (List Json) :=
  if r.isSuccess then
    match r.document with
    | .ok (.arr items) => .ok items
    | .ok _ => .ok []
    | .error _ => .error (.provider .kupoBody)
  else .error (.provider (.kupoStatus r.status))

/-- The records of the unspent outputs at an address. -/
def unspentAt (address : String) : Work σ (List Json) := do
  let r ← (w.visit (matchesUrl s address) s.requestTimeout).mapFailure word
  .ofAttempt (records r)

end TxDraft.Kupo
