import TxDraft.Quantity
import TxDraft.Token

/-!
# Values

The value of a transaction output: an amount of lovelace and a quantity for every asset, under the
dotted unit of the asset.  Providers write values in four shapes:

* a count of coins and a map from units to quantities, under `value`;
* a list of units with their quantities, under `amount`;
* one map from units to quantities, under `assets`;
* a map from policies to maps from names to quantities, under `value`.

`Value.credits` lists what a record gives, in reading order and whatever its shape, and
`Value.ofRecord` adds the credits up.
-/

namespace TxDraft

/-- An amount of lovelace and a quantity for every asset. -/
structure Value where
  lovelace : Int
  assets : Entries String Int
  deriving DecidableEq

namespace Value

/-- Why the value of a record cannot be read. -/
inductive Fault where
  /-- A quantity is none. -/
  | quantity (fault : Quantity.Fault)
  /-- A unit is neither text nor empty. -/
  | unitNotText
  /-- The map of assets beside a count of coins is neither a map nor empty. -/
  | assetsNotMap
  /-- The record is not an object. -/
  | notRecord
  deriving DecidableEq

/-- Nothing at all. -/
def zero : Value := ⟨0, []⟩

/-- One thing that a record gives. -/
inductive Credit where
  /-- An amount of lovelace. -/
  | coin (quantity : Json)
  /-- A quantity of a unit. -/
  | asset (unit quantity : Json)
  /-- Something in the place of a map of assets. -/
  | unreadable

/-! ### What a record gives -/

/-- The credits of a map from units to quantities. -/
def unitCredits (fields : Json.Fields) : List Credit :=
  fields.map fun e => .asset (.str e.1) e.2

/-- The credits of a list of units with quantities; what is not an object gives nothing. -/
def entryCredits : List Json → List Credit
  | [] => []
  | .obj entry :: rest =>
    let quantity := (Json.field? entry "quantity").getD (.int 0)
    .asset (Json.field entry "unit") quantity :: entryCredits rest
  | _ :: rest => entryCredits rest

/-- The credits under `amount`. -/
def amountCredits : Json → List Credit
  | .arr entries => entryCredits entries
  | .null => []
  | v => [.coin v]

/-- The credits of the assets beside a count of coins. -/
def assetsCredits (assets : Json) : List Credit :=
  match assets with
  | .obj fields => unitCredits fields
  | v => if v.isTruthy then [.unreadable] else []

/-- The credits of a map from policies to maps from names to quantities; what is not such a map
gives nothing. -/
def policyCredits : Json.Fields → List Credit
  | [] => []
  | (policy, .obj entries) :: rest =>
    (if policy = .plain "ada" then [.coin ((Json.field? entries "lovelace").getD (.int 0))]
     else entries.map fun e => .asset (.str (policy.string ++ "." ++ e.1.string)) e.2) ++
      policyCredits rest
  | _ :: rest => policyCredits rest

/-- The credits under `value`. -/
def valueCredits : Json → List Credit
  | .obj fields =>
    match Json.field? fields "coins" with
    | some coins => .coin coins :: assetsCredits (Json.field fields "assets")
    | none => policyCredits fields
  | .null => []
  | v => [.coin v]

/-- The credits under `assets`; what is not a map gives nothing. -/
def mapCredits : Json → List Credit
  | .obj fields => unitCredits fields
  | _ => []

/-- All that a record gives. -/
def credits (record : Json.Fields) : List Credit :=
  amountCredits (Json.field record "amount") ++ valueCredits (Json.field record "value") ++
    mapCredits (Json.field record "assets")

/-! ### Adding up -/

/-- The token that a unit denotes; whatever counts as false denotes ADA. -/
def readUnit (unit : Json) : Except Fault Token :=
  match unit with
  | .str s => .ok (Token.ofUnit s.string)
  | v => if v.isTruthy then .error .unitNotText else .ok .ada

/-- A quantity, as a part of a value. -/
def readQuantity (v : Json) : Except Fault Int :=
  (Quantity.read v).mapError .quantity

/-- The value with a quantity of a token added. -/
def credit (value : Value) (token : Token) (quantity : Int) : Value :=
  if token.isAda then { value with lovelace := value.lovelace + quantity }
  else
    let held := (value.assets.get? token.unit).getD 0
    { value with assets := value.assets.put token.unit (held + quantity) }

/-- The value with a credit added. -/
def add (value : Value) : Credit → Except Fault Value
  | .coin quantity => do
    return value.credit .ada (← readQuantity quantity)
  | .asset unit quantity => do
    let token ← readUnit unit
    return value.credit token (← readQuantity quantity)
  | .unreadable => .error .assetsNotMap

/-- The value of a record. -/
def ofRecord (record : Json.Fields) : Except Fault Value :=
  (credits record).foldlM add zero

/-- The value of anything: only objects are records. -/
def ofJson : Json → Except Fault Value
  | .obj record => ofRecord record
  | _ => .error .notRecord

/-- The assets with their quantities as decimal texts. -/
def assetsJson (assets : Entries String Int) : Json :=
  .ofEntries (assets.mapValues fun n => .str (Quantity.print n))

end Value

end TxDraft
