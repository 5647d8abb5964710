/-!
# Networks

The main network and the test networks, as far as addresses tell them apart, and the words that
begin the text of an address.
-/

namespace TxDraft

/-- A group of networks whose addresses look alike. -/
inductive Network where
  | mainnet
  | testnet
  deriving DecidableEq

namespace Network

/-- The group that a network belongs to: every name but that of the main network is a test network.
-/
def ofName (name : String) : Network :=
  if name = "mainnet" then mainnet else testnet

end Network

/-- What an address may stand for. -/
inductive AddressKind where
  | payment
  | stake
  deriving DecidableEq

namespace AddressKind

/-- What messages call an address of this kind. -/
def name : AddressKind → String
  | payment => "address"
  | stake => "stake address"

/-- The word that begins an address of this kind on a network. -/
def word : AddressKind → Network → String
  | payment, .mainnet => "addr"
  | payment, .testnet => "addr_test"
  | stake, .mainnet => "stake"
  | stake, .testnet => "stake_test"

/-- The words that may begin an address; without a network those of all. -/
def words (kind : AddressKind) : Option Network → List String
  | some network => [kind.word network]
  | none => [kind.word .mainnet, kind.word .testnet]

end AddressKind

end TxDraft
