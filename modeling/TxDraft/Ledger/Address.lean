import TxDraft.Encoding.Bech32
import TxDraft.Network

/-!
# Addresses of the ledger

An address in the ledger's own form: a network, and credentials for payment and for staking, each of
them the hash of a key or of a script.  Its first byte says which of the two parts it has and of
what kind they are.  Addresses are written in bech32 with the word of their kind and network; when
one is read the word is not looked at.
-/

namespace TxDraft

namespace Ledger

/-- What unlocks an output or a stake: a key or a script, by its hash. -/
inductive Credential where
  | key (hash : Bytes)
  | script (hash : Bytes)
  deriving DecidableEq

namespace Credential

/-- The hash of the key or script. -/
def hash : Credential → Bytes
  | key h => h
  | script h => h

/-- The hash of the key, if it is one. -/
def keyHash? : Credential → Option Bytes
  | key h => some h
  | script _ => none

/-- The bit that says that a credential is a script. -/
def bit : Credential → Nat
  | key _ => 0
  | script _ => 1

/-- The credential with a hash, a script if the bit is set. -/
def ofBit (isScript : Bool) (hash : Bytes) : Credential :=
  if isScript then script hash else key hash

end Credential

/-- Where a certificate stands on the chain. -/
structure Pointer where
  slot : Nat
  transaction : Nat
  certificate : Nat
  deriving DecidableEq

/-- What an address says about staking: a credential, or where the certificate of one stands. -/
inductive StakePart where
  | credential (c : Credential)
  | pointer (p : Pointer)
  deriving DecidableEq

namespace StakePart

def credential? : StakePart → Option Credential
  | credential c => some c
  | pointer _ => none

end StakePart

/-- An address: credentials for payment and staking, a payment credential with a pointer in the
place of the second, one of them alone. -/
inductive AddressBody where
  | base (payment stake : Credential)
  | pointer (payment : Credential) (pointer : Pointer)
  | enterprise (payment : Credential)
  | reward (stake : Credential)
  deriving DecidableEq

structure Address where
  network : Network
  body : AddressBody
  deriving DecidableEq

namespace Address

/-- The length of the hash in a credential. -/
def hashLength : Nat := 28

/-- The credential for payment. -/
def payment? (a : Address) : Option Credential :=
  match a.body with
  | .base payment _ | .pointer payment _ | .enterprise payment => some payment
  | .reward _ => none

/-- What the address says about staking. -/
def stake? (a : Address) : Option StakePart :=
  match a.body with
  | .base _ stake | .reward stake => some (.credential stake)
  | .pointer _ pointer => some (.pointer pointer)
  | .enterprise _ => none

/-! ### Bytes -/

/-- The number of the network. -/
def networkBits : Network → Nat
  | .testnet => 0
  | .mainnet => 1

/-- The number of the kind of address. -/
def kindBits : AddressBody → Nat
  | .base payment stake => payment.bit + 2 * stake.bit
  | .pointer payment _ => 4 + payment.bit
  | .enterprise payment => 6 + payment.bit
  | .reward stake => 14 + stake.bit

/-- The groups of seven bits of a number above its lowest group, the highest first, marked as not
being the last; `fuel` bounds their number. -/
def higherGroups : (fuel : Nat) → Nat → Bytes
  | 0, _ => []
  | fuel + 1, n =>
    if n = 0 then [] else higherGroups fuel (n / 128) ++ [UInt8.ofNat (128 + n % 128)]

/-- A number in groups of seven bits. -/
def groups (n : Nat) : Bytes :=
  higherGroups (Nat.log2 n + 1) (n / 128) ++ [UInt8.ofNat (n % 128)]

/-- The part of an address behind its first byte. -/
def bodyBytes : AddressBody → Bytes
  | .base payment stake => payment.hash ++ stake.hash
  | .pointer payment p =>
    payment.hash ++ groups p.slot ++ groups p.transaction ++ groups p.certificate
  | .enterprise payment => payment.hash
  | .reward stake => stake.hash

def bytes (a : Address) : Bytes :=
  UInt8.ofNat (kindBits a.body * 16 + networkBits a.network) :: bodyBytes a.body

/-- The numbers in groups of seven bits; an unfinished last number is dropped. -/
def readGroups (pending : Nat) : Bytes → List Nat
  | [] => []
  | b :: rest =>
    let n := pending * 128 + b.toNat % 128
    if b.toNat < 128 then n :: readGroups 0 rest else readGroups n rest

/-- A hash of the right length. -/
def hash? (b : Bytes) : Option Bytes :=
  if b.length = hashLength then some b else none

/-- The body of an address of a kind. -/
def readBody? (kind : Nat) (payload : Bytes) : Option AddressBody :=
  let isScript := kind % 2 = 1
  if kind < 4 then do
    let payment ← hash? (payload.take hashLength)
    let stake ← hash? (payload.drop hashLength)
    return .base (.ofBit isScript payment) (.ofBit (2 ≤ kind) stake)
  else if kind < 6 then do
    let payment ← hash? (payload.take hashLength)
    match readGroups 0 (payload.drop hashLength) with
    | [slot, transaction, certificate] =>
      return .pointer (.ofBit isScript payment) ⟨slot, transaction, certificate⟩
    | _ => none
  else if kind < 8 then
    (hash? payload).map fun payment => .enterprise (.ofBit isScript payment)
  else if kind = 14 || kind = 15 then
    (hash? payload).map fun stake => .reward (.ofBit isScript stake)
  else none

/-- The network with a number. -/
def readNetwork? : Nat → Option Network
  | 0 => some .testnet
  | 1 => some .mainnet
  | _ => none

def ofBytes? : Bytes → Option Address
  | [] => none
  | header :: payload => do
    let network ← readNetwork? (header.toNat % 16)
    let body ← readBody? (header.toNat / 16) payload
    return ⟨network, body⟩

/-! ### Texts -/

/-- What the address stands for, which decides the word of its text. -/
def textKind (a : Address) : AddressKind :=
  match a.body with
  | .reward _ => .stake
  | _ => .payment

def text (a : Address) : String :=
  Bech32.encode (a.textKind.word a.network) a.bytes

def ofText? (s : String) : Option Address := do
  ofBytes? (← Bech32.decode? s)

end Address

end Ledger

end TxDraft
