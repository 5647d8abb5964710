import TxDraft.Bytes
import TxDraft.Quantity
import TxDraft.Text.LowerCase
import TxDraft.Url.Host

/-!
# Web addresses

A web address in the form in which it is requested.  `Url.ofText?` reads one: scheme and host
become lower case, a port number that is usual for the scheme is dropped, segments of dots are
resolved, and characters that may not stand in a part are escaped.  `Url.append` puts a path behind
an address; an address that has a scheme and a host of its own stays as it is.
-/

namespace TxDraft

/-- A web address. -/
structure Url where
  scheme : String
  userInfo : String
  /-- The host; an address of version 6 stands here without its brackets. -/
  host : String
  portNumber : Option Int
  path : String
  query : Option String
  fragment : Option String
  deriving DecidableEq

namespace Url

open Text

/-! ### Characters -/

/-- Is this a visible character of ASCII, other than some? -/
def isVisibleBut (others : List Char) (c : Char) : Bool :=
  0x20 < c.toNat && c.toNat < 0x7F && !others.contains c

/-- The characters that a fragment may hold. -/
def inFragment : Char → Bool := isVisibleBut ['"', '<', '>', '\x60']

/-- The characters that a query may hold. -/
def inQuery : Char → Bool := isVisibleBut ['"', '#', '<', '>']

/-- The characters that a path may hold. -/
def inPath : Char → Bool := isVisibleBut ['"', '#', '<', '>', '?', '\x60', '\x7b', '\x7d']

/-- The characters that may name a user. -/
def inUserInfo : Char → Bool :=
  isVisibleBut ['"', '#', '<', '>', '?', '\x60', '\x7b', '\x7d', '/', ';', '=', '@', '[', '\\', ']',
    '^', '|']

/-- The characters that a host may hold. -/
def inHost : Char → Bool :=
  isVisibleBut ['#', '/', ':', '<', '>', '?', '@', '[', ']', '^']

/-- The digits of an escape, in upper case. -/
def escapeDigit (n : Nat) : Char :=
  if n < 10 then Char.ofNat (0x30 + n) else Char.ofNat (0x37 + n)

/-- A byte as an escape. -/
def escapeByte (b : UInt8) : List Char :=
  ['%', escapeDigit (b.toNat / 16), escapeDigit (b.toNat % 16)]

/-- The text with all characters outside a class escaped. -/
def escape (allowed : Char → Bool) (cs : List Char) : String :=
  String.ofList (cs.flatMap fun c =>
    if allowed c then [c] else (Bytes.ofText (String.singleton c)).flatMap escapeByte)

/-! ### The parts of an address -/

/-- Is the character a letter of ASCII? -/
def isLetter (c : Char) : Bool :=
  ('a' ≤ c && c ≤ 'z') || ('A' ≤ c && c ≤ 'Z')

/-- May the character stand in a scheme? -/
def inScheme (c : Char) : Bool :=
  isLetter c || isAsciiDigit c || c = '+' || c = '.' || c = '-'

/-- A scheme with its colon in front, and what follows. -/
def spanScheme (cs : List Char) : List Char × List Char :=
  match cut (!inScheme ·) cs with
  | ([], some _) => if cs.head? = some ':' then ([], cs.tail) else ([], cs)
  | (c :: scheme, some rest) =>
    if isLetter c && cs[(c :: scheme).length]? = some ':' then (c :: scheme, rest) else ([], cs)
  | (_, none) => ([], cs)

/-- The part behind two slashes in front, and what follows. -/
def spanAuthority : List Char → List Char × List Char
  | '/' :: '/' :: rest =>
    let inside := fun c => c ≠ '/' && c ≠ '?' && c ≠ '#'
    (rest.takeWhile inside, rest.dropWhile inside)
  | cs => ([], cs)

/-- A host in front, and what follows: text up to a colon, or anything between brackets. -/
def spanHost (cs : List Char) : List Char × List Char :=
  match cs with
  | '[' :: inside =>
    match cutLast (· = ']') inside with
    | (some host, rest) => ('[' :: (host ++ [']']), rest)
    | (none, _) => (cs.takeWhile (· ≠ ':'), cs.dropWhile (· ≠ ':'))
  | cs => (cs.takeWhile (· ≠ ':'), cs.dropWhile (· ≠ ':'))

/-- The host as it is requested. -/
def host? (cs : List Char) : Option String :=
  if cs.isEmpty then some ""
  else if Host.looksIpv4 cs then
    if Host.isIpv4 cs then some (String.ofList cs) else none
  else if cs.head? = some '[' && cs.getLast? = some ']' then
    let inside := cs.tail.dropLast
    if Host.isIpv6 inside then some (String.ofList inside) else none
  else if cs.all (·.toNat < 0x80) then some (escape inHost (cs.map Char.toLower))
  else none

/-- The integer that a text denotes: blanks around it, a sign, and digits of any script. -/
def integer? (cs : List Char) : Option Int :=
  let (negative, digits) := spanSign (stripChars cs)
  match spanDigits digitValue? 0 0 digits with
  | (value, count + 1, []) =>
    if Quantity.maxDigits < count + 1 then none
    else some (if negative then -value else value)
  | _ => none

/-- The port number that a scheme uses when none is given. -/
def usualPortNumber? : String → Option Int
  | "ftp" => some 21
  | "http" | "ws" => some 80
  | "https" | "wss" => some 443
  | _ => none

/-- The port number behind a host; the usual one counts as none. -/
def portNumber? (scheme : String) (cs : List Char) : Option (Option Int) :=
  let digits := if cs.head? = some ':' then cs.tail else cs
  if digits.isEmpty then some none
  else (integer? digits).map fun n => if usualPortNumber? scheme = some n then none else some n

/-- Resolves segments of dots.  A segment of two dots takes the segment before it away, but not the
empty one in front of the first slash. -/
def resolveDots (kept : List (List Char)) : List (List Char) → List (List Char)
  | [] => kept
  | segment :: rest =>
    if segment = ['.'] then resolveDots kept rest
    else if segment = ['.', '.'] then
      resolveDots (if kept = [[]] then kept else kept.dropLast) rest
    else resolveDots (kept ++ [segment]) rest

/-- Is anything said about the server? -/
def hasAuthority (u : Url) : Bool :=
  u.userInfo ≠ "" || u.host ≠ "" || u.portNumber.isSome

/-- May this path follow the other parts? -/
def admits (u : Url) (path : List Char) : Bool :=
  if u.hasAuthority then path.isEmpty || path.head? = some '/'
  else u.scheme ≠ "" || !(path.take 2 = ['/', '/'] || path.head? = some ':')

/-- The address with another path, in the form in which it is requested. -/
def withPath? (u : Url) (path : List Char) : Option Url :=
  if u.admits path then
    let path :=
      if u.scheme ≠ "" || u.hasAuthority then
        List.intercalate ['/'] (resolveDots [] (splitAt '/' path))
      else path
    some { u with path := escape inPath path }
  else none

/-- The most characters of an address. -/
def maxLength : Nat := 65536

/-- Is the character a control of ASCII? -/
def isControl (c : Char) : Bool :=
  c.toNat < 0x20 || c.toNat = 0x7F

/-- Reads an address. -/
def ofText? (s : String) : Option Url := do
  let cs := s.toList
  if maxLength < cs.length || cs.any isControl then none
  let (scheme, cs) := spanScheme cs
  let (authority, cs) := spanAuthority cs
  let (user, server) := cutLast (· = '@') authority
  let (host, number) := spanHost server
  let host ← host? host
  let portNumber ← portNumber? (String.ofList scheme) number
  let (front, fragment) := cut (· = '#') cs
  let (path, query) := cut (· = '?') front
  let u : Url := {
    scheme := String.ofList (scheme.map Char.toLower)
    userInfo := escape inUserInfo (user.getD [])
    host
    portNumber
    path := ""
    query := query.map (escape inQuery)
    fragment := fragment.map (escape inFragment) }
  u.withPath? path

/-! ### Writing -/

/-- The host and its port number. -/
def server (u : Url) : String :=
  (if u.host.toList.contains ':' then "[" ++ u.host ++ "]" else u.host) ++
    (u.portNumber.map fun n => s!":{n}").getD ""

/-- The host and its port number, with the user in front. -/
def authority (u : Url) : String :=
  (if u.userInfo = "" then "" else u.userInfo ++ "@") ++ u.server

/-- The text of an address. -/
def text (u : Url) : String :=
  (if u.scheme = "" then "" else u.scheme ++ ":") ++
    (if u.authority = "" then "" else "//" ++ u.authority) ++ u.path ++
    (u.query.map ("?" ++ ·)).getD "" ++ (u.fragment.map ("#" ++ ·)).getD ""

/-- What is asked of the server: the path, at least a slash, and the query. -/
def target (u : Url) : String :=
  (if u.path = "" then "/" else u.path) ++ (u.query.map ("?" ++ ·)).getD ""

/-! ### Putting addresses together -/

/-- The address of nothing. -/
def empty : Url := ⟨"", "", "", none, "", none, none⟩

/-- Does the address say where the server is? -/
def isAbsolute (u : Url) : Bool :=
  u.scheme ≠ "" && u.host ≠ ""

/-- The address with another path and query. -/
def withTarget? (u : Url) (target : String) : Option Url :=
  let (path, query) := cut (· = '?') target.toList
  { u with query := query.map (escape inQuery) }.withPath? path

/-- An address to which paths are appended: it ends in a slash. -/
def asBase? (u : Url) : Option Url :=
  if u.target.endsWith "/" then some u else u.withTarget? (u.target ++ "/")

/-- The address with what another one asks for behind it; one that says where its server is stays as
it is. -/
def append? (base u : Url) : Option Url :=
  if u.isAbsolute then some u
  else base.withTarget? (base.target ++ String.ofList (u.target.toList.dropWhile (· = '/')))

/-- The address with a query of names and values. -/
def withQuery (u : Url) (fields : List (String × String)) : Url :=
  { u with query := some ("&".intercalate (fields.map fun e => e.1 ++ "=" ++ e.2)) }

end Url

end TxDraft
