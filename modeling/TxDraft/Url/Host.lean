import TxDraft.Encoding.Hex
import TxDraft.Text.Cut
import TxDraft.Text.DecimalDigit

/-!
# Hosts that are numbers

Which texts are IP addresses of version 4 and of version 6, and which look so much like an address
of version 4 that they must be one.
-/

namespace TxDraft.Url.Host

open Text

/-! ### Version 4 -/

/-- One of the four numbers of an address: at most 255, without needless zeros. -/
def isOctet (cs : List Char) : Bool :=
  !cs.isEmpty && cs.length ≤ 3 && cs.all isAsciiDigit && (cs.length = 1 || cs.head? ≠ some '0') &&
    decimalValue cs ≤ 255

/-- Is the text an address of version 4? -/
def isIpv4 (cs : List Char) : Bool :=
  let parts := splitAt '.' cs
  parts.length = 4 && parts.all isOctet

/-- The lengths of the rows of digits between other characters. -/
def digitRows : List Char → List Nat
  | [] => [0]
  | c :: rest =>
    match digitRows rest with
    | [] => [0]
    | n :: rows => if isAsciiDigit c then (n + 1) :: rows else 0 :: n :: rows

/-- Does the text begin and end with a digit and fall into four rows of digits with one character,
of any kind, between them?  A row of digits can itself be cut at some of its digits. -/
def looksIpv4 (cs : List Char) : Bool :=
  let rows := digitRows cs
  let inner := (rows.map fun n => (n - 1) / 2).foldr (· + ·) 0
  rows.length ≤ 4 && rows.all (0 < ·) && 3 ≤ rows.length - 1 + inner

/-! ### Version 6 -/

/-- One of the groups of an address: one to four hexadecimal digits. -/
def isGroup (cs : List Char) : Bool :=
  !cs.isEmpty && cs.length ≤ 4 && cs.all fun c => (Hex.value? c).isSome

/-- The groups on one side of the gap; none at all leave an empty part. -/
def isSide (parts : List (List Char)) : Bool :=
  parts = [[]] || parts.all isGroup

/-- The number of groups on one side of the gap. -/
def groupCount (parts : List (List Char)) : Nat :=
  (parts.filter fun part => !part.isEmpty).length

/-- The positions of empty parts that are neither first nor last. -/
def gaps (parts : List (List Char)) : List Nat :=
  (List.range parts.length).filter fun i =>
    0 < i && i + 1 < parts.length && (parts.getD i []).isEmpty

/-- The parts, with two groups in the place of a last part that is an address of version 4. -/
def withoutTail (parts : List (List Char)) : Option (List (List Char)) :=
  match parts.reverse with
  | [] => none
  | last :: front =>
    if last.contains '.' then
      if isIpv4 last then some (front.reverse ++ [['0'], ['0']]) else none
    else some parts

/-- Is this the part of an address before its zone: eight groups, or fewer with one gap? -/
def areGroups (cs : List Char) : Bool :=
  let parts := splitAt ':' cs
  match withoutTail parts with
  | none => false
  | some groups =>
    3 ≤ parts.length && groups.length ≤ 9 &&
      match gaps groups with
      | [] => groups.length = 8 && groups.all isGroup
      | [i] =>
        let high := groups.take i
        let low := groups.drop (i + 1)
        isSide high && isSide low && groupCount high + groupCount low < 8
      | _ => false

/-- Is the text an address of version 6, perhaps with a zone? -/
def isIpv6 (cs : List Char) : Bool :=
  let (groups, zone) := cut (· = '%') cs
  areGroups groups && zone.all fun z => !z.isEmpty && !z.contains '%'

end TxDraft.Url.Host
