import TxDraft.Encoding.Cbor
import TxDraft.Encoding.Hex
import TxDraft.Token
import TxDraft.Entries

/-!
# Amounts of the ledger

Assets are kept under the bytes of their policy and name, in the order in which they are written:
by policy, then by the length of the name, then by the name.  Quantities are never zero, so that
equal maps are equal lists.  `ofUnits?` reads a map from unit texts.
-/

namespace TxDraft

namespace Ledger

/-- A policy and a name in bytes. -/
structure AssetKey where
  policy : Bytes
  name : Bytes
  deriving DecidableEq

namespace AssetKey

/-- Does the first key come before the second? -/
def precedes (a b : AssetKey) : Bool :=
  if a.policy = b.policy then
    a.name.length < b.name.length || (a.name.length = b.name.length && a.name.precedes b.name)
  else a.policy.precedes b.policy

def unit (k : AssetKey) : String :=
  Hex.encode k.policy ++ "." ++ Hex.encode k.name

end AssetKey

/-- Quantities of assets, none of them zero, in order. -/
abbrev Assets := Entries AssetKey Int

namespace Assets

def quantity (k : AssetKey) (assets : Assets) : Int :=
  (Entries.get? k assets).getD 0

/-- Puts a quantity in the place of the one held, in order; zero removes the asset. -/
def set (k : AssetKey) (n : Int) : Assets → Assets
  | [] => if n = 0 then [] else [(k, n)]
  | (k', n') :: rest =>
    if k' = k then if n = 0 then rest else (k, n) :: rest
    else if k.precedes k' then if n = 0 then (k', n') :: rest else (k, n) :: (k', n') :: rest
    else (k', n') :: set k n rest

def plus (assets : Assets) (k : AssetKey) (n : Int) : Assets :=
  set k (assets.quantity k + n) assets

/-- Adds two maps, asset by asset. -/
def add (a b : Assets) : Assets :=
  b.foldl (fun sum e => plus sum e.1 e.2) a

/-- The map with all quantities negated. -/
def neg (a : Assets) : Assets :=
  a.map fun e => (e.1, -e.2)

/-- Takes the second map from the first, asset by asset. -/
def sub (a b : Assets) : Assets :=
  add a (neg b)

def positive (a : Assets) : Assets :=
  a.filter fun e => 0 < e.2

/-- Does the map hold an asset at all? -/
def holds (assets : Assets) (k : AssetKey) : Bool :=
  (Entries.get? k assets).isSome

/-! ### Unit texts -/

/-- The longest name of an asset. -/
def maxName : Nat := 32

def policyLength : Nat := 28

/-- The key that a token stands for, if its texts are hexadecimal and of the right lengths. -/
def key? (t : Token) : Option AssetKey := do
  let policy ← Hex.decode? t.policy
  let name ← Hex.decode? t.name
  if policy.length = policyLength && name.length ≤ maxName then return ⟨policy, name⟩ else none

/-- The assets under unit texts, every quantity taken `sign` times.  Of two units of one asset the
later one counts. -/
def ofUnits? (sign : Int) (units : Entries String Int) : Option Assets :=
  units.foldlM (fun assets e => do
    let k ← key? (Token.ofUnit e.1)
    return set k (sign * e.2) assets) []

/-! ### Writing -/

/-- The names and quantities under one policy. -/
def under (policy : Bytes) (assets : Assets) : List (Cbor × Cbor) :=
  (assets.filter fun e => e.1.policy = policy).map fun e => (.bytes e.1.name, .int e.2)

/-- The policies, each once. -/
def policies : Assets → List Bytes
  | [] => []
  | e :: rest =>
    let others := policies rest
    if others.contains e.1.policy then others else e.1.policy :: others

/-- The map as an item: a map of maps. -/
def cbor (assets : Assets) : Cbor :=
  .map (assets.policies.map fun policy => (.bytes policy, .map (assets.under policy)))

end Assets

/-- An amount of lovelace and quantities of assets. -/
structure Amount where
  coin : Int
  assets : Assets
  deriving DecidableEq

namespace Amount

/-- Nothing at all. -/
def zero : Amount := ⟨0, []⟩

/-- An amount of lovelace alone. -/
def ofCoin (n : Int) : Amount := ⟨n, []⟩

def add (a b : Amount) : Amount :=
  ⟨a.coin + b.coin, a.assets.add b.assets⟩

/-- Takes the second amount from the first. -/
def sub (a b : Amount) : Amount :=
  ⟨a.coin - b.coin, a.assets.sub b.assets⟩

def sum (amounts : List Amount) : Amount :=
  amounts.foldl add zero

/-- Is the second amount enough for the first?  The lovelace must suffice, and every asset that is
asked for must be there; its quantity is not looked at. -/
def coveredBy (a b : Amount) : Bool :=
  a.coin ≤ b.coin && a.assets.all fun e => b.assets.holds e.1

/-- The amount as an item: lovelace alone, or lovelace and assets. -/
def cbor (a : Amount) : Cbor :=
  if a.assets.isEmpty then .int a.coin else .array [.int a.coin, a.assets.cbor]

end Amount

end Ledger

end TxDraft
