/-!
# Providers

The two services that can answer for the chain: the pair of Ogmios and Kupo, usable only together,
and Dolos, which is enough on its own.
-/

namespace TxDraft

/-- A service that answers for the chain. -/
inductive Provider where
  | kupmios
  | dolos
  deriving DecidableEq

namespace Provider

/-- The name of a provider. -/
def name : Provider → String
  | kupmios => "kupmios"
  | dolos => "dolos"

end Provider

end TxDraft
