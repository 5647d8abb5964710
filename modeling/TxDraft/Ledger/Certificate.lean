import TxDraft.Encoding.Cbor
import TxDraft.Ledger.Address

/-!
# Certificates of the ledger

The registration of a stake credential and its end.  A certificate may name the credential only by
where an earlier certificate stands; such a one cannot be written.
-/

namespace TxDraft

namespace Ledger

inductive Certificate where
  | register (stake : StakePart)
  | deregister (stake : StakePart)
  deriving DecidableEq

namespace Certificate

/-- Whom the certificate is about. -/
def stake : Certificate → StakePart
  | register s | deregister s => s

/-- The credential that the certificate is about, if it is given. -/
def credential? (c : Certificate) : Option Credential :=
  c.stake.credential?

/-- The hash of the credential that is registered, if it is given. -/
def registered? : Certificate → Option Bytes
  | register s => s.credential?.map Credential.hash
  | deregister _ => none

def credentialCbor (c : Credential) : Cbor :=
  .array [.int c.bit, .bytes c.hash]

/-- The number of the kind of certificate. -/
def number : Certificate → Int
  | register _ => 0
  | deregister _ => 1

def cbor? (c : Certificate) : Option Cbor :=
  c.credential?.map fun credential => .array [.int c.number, credentialCbor credential]

end Certificate

end Ledger

end TxDraft
