import TxDraft.Ogmios.Session
import TxDraft.Provider.Dolos
import TxDraft.Provider.Kupo
import TxDraft.Readiness

/-!
# Backends

Everything that requests ask of services behind the library, as one record: which providers are
usable, and what they answer.  A provider is asked through a client, which is made first.
`Backend.ofWorld` is the backend that asks the services of the settings over the network.
-/

namespace TxDraft

/-- What one provider answers, in a world of type `ω`. -/
structure Client (ω : Type) where
  /-- The records of the unspent outputs at an address. -/
  unspentAt : String → Work ω (List Json)
  /-- The protocol parameters. -/
  parameters : Work ω Json

/-- What answers for the chain, in a world of type `ω`. -/
structure Backend (ω : Type) where
  /-- Finds out which providers are usable. -/
  resolve : Work ω Readiness
  /-- Makes a client of a provider. -/
  client : Provider → Work ω (Client ω)
  /-- The tip of the chain, which only the node knows. -/
  tip : Work ω Ogmios.Tip
  /-- The version document of Dolos. -/
  version : Work ω Json.Fields
  /-- What Dolos says of its health. -/
  health : Work ω Json

namespace Backend

variable {σ : Type} (w : World σ) (s : Settings)

/-- The client of a provider that the settings name. -/
def clientOf : Provider → Client σ
  | .kupmios => ⟨Kupo.unspentAt w s, Ogmios.protocolParameters w s⟩
  | .dolos => ⟨Dolos.unspentAt w s, Dolos.protocolParameters w s⟩

/-- The services that the settings name. -/
def ofWorld : Backend σ where
  resolve := Readiness.resolve w s
  client p := return clientOf w s p
  tip := Ogmios.tip w s
  version := Dolos.version w s
  health := Dolos.health w s

end Backend

end TxDraft
