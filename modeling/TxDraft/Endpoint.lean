import TxDraft.Failure
import TxDraft.Url

/-!
# Endpoints

Where the builder of transactions finds the node: a host, a port number and a path, and whether the
connection is secured.  `Endpoint.ofUrl` takes a web address apart without looking at its parts
more than it must: without a host the machine itself is meant, and without a port number the usual
one for secured connections, or that of the node.
-/

namespace TxDraft

/-- Where a node is found. -/
structure Endpoint where
  host : String
  portNumber : Nat
  path : String
  secure : Bool
  deriving DecidableEq

namespace Endpoint

open Text

/-- The port number of a node that says nothing else. -/
def nodePortNumber : Nat := 1337

/-- The port number for secured connections. -/
def securePortNumber : Nat := 443

/-- The machine itself. -/
def localHost : String := "localhost"

/-- The text without blanks and controls in front, and without tabs and line breaks anywhere. -/
def trimmed (cs : List Char) : List Char :=
  (cs.dropWhile fun c => c.toNat ≤ 0x20).filter fun c => c ≠ '\t' && c ≠ '\n' && c ≠ '\r'

/-- A scheme in front, in lower case, and what follows its colon. -/
def spanScheme (cs : List Char) : String × List Char :=
  match Url.spanScheme cs with
  | ([], _) => ("", cs)
  | (scheme, rest) => (lower (String.ofList scheme), rest)

/-- May this stand between brackets: an address of version 6, or one of a later version? -/
def isBracketed (cs : List Char) : Bool :=
  match cs with
  | 'v' :: version =>
    match cut (· = '.') version with
    | (digits, some rest) =>
      !digits.isEmpty && digits.all (fun c => (Hex.value? c).isSome) && !rest.isEmpty
    | (_, none) => false
  | cs => Url.Host.isIpv6 cs

/-- Are the brackets around a host in order? -/
def hasBrackets (authority : List Char) : Bool :=
  match authority.contains '[', authority.contains ']' with
  | false, false => true
  | true, true =>
    let inside := ((cut (· = '[') authority).2).getD []
    isBracketed (cut (· = ']') inside).1
  | _, _ => false

/-- Characters whose plain form holds one of the marks that separate the parts of an address. -/
def disguisedMarks : List Nat :=
  [0x2047, 0x2048, 0x2049, 0x2100, 0x2101, 0x2105, 0x2106, 0x2A74, 0xFE13, 0xFE16, 0xFE55, 0xFE56,
    0xFE5F, 0xFE6B, 0xFF03, 0xFF0F, 0xFF1A, 0xFF1F, 0xFF20]

/-- May the text stand for a host, a port number and a user? Its brackets are in order, and no
character passes for a mark. -/
def isSound (authority : List Char) : Bool :=
  hasBrackets authority && !authority.any fun c => disguisedMarks.contains c.toNat

/-- The host and the text of the port number, with nothing said of the user. -/
def hostAndNumber (authority : List Char) : List Char × List Char :=
  let server := (cutLast (· = '@') authority).2
  match cut (· = '[') server with
  | (_, some inside) =>
    let (host, after) := cut (· = ']') inside
    (host, ((cut (· = ':') (after.getD [])).2).getD [])
  | (_, none) =>
    let (host, number) := cut (· = ':') server
    (host, number.getD [])

/-- The host in lower case, but for the zone of an address. -/
def hostText (cs : List Char) : String :=
  let (host, zone) := cut (· = '%') cs
  lower (String.ofList host) ++ ((zone.map fun z => String.ofList ('%' :: z)).getD "")

/-- The port number: nothing, or digits that denote one. -/
def portNumber? (cs : List Char) : Option (Option Nat) :=
  if cs.isEmpty then some none
  else if cs.all isAsciiDigit && cs.length ≤ Quantity.maxDigits && decimalValue cs ≤ 65535 then
    some (some (decimalValue cs))
  else none

/-- The text without slashes at either end. -/
def withoutSlashes (cs : List Char) : String :=
  String.ofList (dropEndWhile (· = '/') (cs.dropWhile (· = '/')))

/-- The endpoint that a web address names. -/
def ofUrl (url : String) : Attempt Endpoint := do
  let (scheme, cs) := spanScheme (trimmed url.toList)
  let (authority, cs) := Url.spanAuthority cs
  let (host, number) := hostAndNumber authority
  let path := (cut (· = '?') (cut (· = '#') cs).1).1
  let secure := scheme = "https" || scheme = "wss"
  match isSound authority, portNumber? number with
  | true, some number =>
    let given := number.filter (· ≠ 0)
    return {
      host := if host.isEmpty then localHost else hostText host
      portNumber := given.getD (if secure then securePortNumber else nodePortNumber)
      path := withoutSlashes path
      secure }
  | _, _ => throw (.unexpected .endpoint)

end Endpoint

end TxDraft
