import TxDraft.Entries
import TxDraft.Text.Cut
import TxDraft.Text.DecimalDigit

/-!
# Options on a command line

How the arguments of a command line fall into options and words.  An option with a long name may be
abbreviated, and may have its value attached behind an equals sign; options of one letter may be
written together.  A divider, `--`, makes words of everything behind it.  Something that looks like
an option, but is none, is a word if it is a negative number or has a blank in it.

`tokens` tells options and words apart, and `gather` takes the values of options and the words that
are wanted.
-/

namespace TxDraft.CommandLine

/-- Why a command line is not run. -/
inductive Refusal where
  /-- Help is asked for. -/
  | help
  /-- It cannot be understood. -/
  | misuse
  deriving DecidableEq

/-- What an option does. -/
inductive OptionKind where
  /-- It asks for help. -/
  | help
  /-- It is there or not. -/
  | flag
  /-- It has a value. -/
  | value
  deriving DecidableEq

/-- Options by their names. -/
abbrev OptionTable := Entries String OptionKind

/-- The options that ask for help. -/
def helpOptions : OptionTable :=
  [("-h", .help), ("--help", .help)]

/-- What stands between words and everything behind. -/
def divider : String := "--"

/-! ### Telling arguments apart -/

/-- What is written behind an option in the same argument. -/
inductive Attachment where
  | none
  /-- A value behind an equals sign. -/
  | value (s : String)
  /-- More letters. -/
  | letters (cs : List Char)
  deriving DecidableEq

/-- An argument, told apart. -/
inductive Token where
  | word (s : String)
  | divider
  | option (name : String) (attachment : Attachment)
  /-- Something that looks like an option, but is none. -/
  | stranger
  deriving DecidableEq

/-- Is the text a row of digits, at least one? -/
def isNumeral (cs : List Char) : Bool :=
  !cs.isEmpty && cs.all fun c => (Text.digitValue? c).isSome

/-- Does the text look like a negative number?  A line break may end it. -/
def isNegativeNumber (s : String) : Bool :=
  match s.toList with
  | '-' :: cs =>
    let cs := if cs.getLast? = some '\n' then cs.dropLast else cs
    match Text.cut (· = '.') cs with
    | (whole, none) => isNumeral whole
    | (whole, some fraction) => (whole.isEmpty || isNumeral whole) && isNumeral fraction
  | _ => false

/-- The options that an argument may mean, if it is none by its full name. -/
def meanings (options : OptionTable) (arg : String) : List Token :=
  match arg.toList with
  | '-' :: '-' :: _ =>
    let (start, value) := Text.cut (· = '=') arg.toList
    let attachment := match value with
      | some cs => .value (String.ofList cs)
      | none => .none
    (options.filter fun o => start.isPrefixOf o.1.toList).map fun o => .option o.1 attachment
  | '-' :: c :: letters =>
    let name := String.ofList ['-', c]
    if options.has name then [.option name (.letters letters)] else []
  | _ => []

/-- Tells one argument apart.  An abbreviation must have one meaning only. -/
def token (options : OptionTable) (arg : String) : Except Refusal Token :=
  let (start, value) := Text.cut (· = '=') arg.toList
  let name := String.ofList start
  if arg.toList.head? ≠ some '-' then .ok (.word arg)
  else if options.has arg then .ok (.option arg .none)
  else if arg = "-" then .ok (.word arg)
  else
    match value with
    | some cs =>
      if options.has name then .ok (.option name (.value (String.ofList cs)))
      else choose (meanings options arg)
    | none => choose (meanings options arg)
where
  /-- The only meaning, if there is one. -/
  choose : List Token → Except Refusal Token
    | [] =>
      if isNegativeNumber arg || arg.toList.contains ' ' then .ok (.word arg) else .ok .stranger
    | [t] => .ok t
    | _ => .error .misuse

/-- Tells all arguments apart. -/
def tokens (options : OptionTable) : List String → Except Refusal (List Token)
  | [] => .ok []
  | arg :: rest =>
    if arg = divider then .ok (.divider :: rest.map .word)
    else do
      let t ← token options arg
      let ts ← tokens options rest
      return t :: ts

/-! ### Letters written together -/

/-- The options that letters stand for, and whether one of them is no option; the letters behind it
are not looked at. -/
def cluster (options : OptionTable) : List Char → Except Refusal (List String × Bool)
  | [] => .ok ([], false)
  | c :: rest =>
    let name := String.ofList ['-', c]
    if c = '-' || c = '=' then .error .misuse
    else if options.has name then do
      let (names, strange) ← cluster options rest
      return (name :: names, strange)
    else .ok ([], true)

/-! ### Gathering -/

/-- What was gathered from a command line. -/
structure Gathered where
  /-- The options that are there, with their values. -/
  values : Entries String String
  flags : List String
  words : List String
  /-- Was there something that nobody asked for? -/
  surplus : Bool
  deriving DecidableEq

namespace Gathered

/-- Nothing. -/
def empty : Gathered := ⟨[], [], [], false⟩

/-- With a value for an option; the last one counts. -/
def withValue (name value : String) (g : Gathered) : Gathered :=
  { g with values := g.values.put name value }

/-- With options that have no value. -/
def withFlags (names : List String) (g : Gathered) : Gathered :=
  { g with flags := g.flags ++ names }

/-- With something that nobody asked for, if so. -/
def withSurplus (surplus : Bool) (g : Gathered) : Gathered :=
  { g with surplus := g.surplus || surplus }

/-- With a word. -/
def withWord (s : String) (g : Gathered) : Gathered :=
  { g with words := g.words ++ [s] }

end Gathered

/-- Takes an option that needs no argument of its own. -/
def takeFlag (options : OptionTable) (name : String) (attachment : Attachment) (g : Gathered) :
    Except Refusal Gathered :=
  match attachment with
  | .value _ => .error .misuse
  | .none => names [name] false
  | .letters cs => do
    let (more, strange) ← cluster options cs
    names (name :: more) strange
where
  /-- Takes options by their names; help comes before everything else. -/
  names (given : List String) (strange : Bool) : Except Refusal Gathered :=
    if given.any fun name => options.get? name = some .help then .error .help
    else .ok ((g.withFlags given).withSurplus strange)

/-- Gathers options, and so many words. -/
def gather (options : OptionTable) : (wanted : Nat) → List Token → Gathered →
    Except Refusal Gathered
  | _, [], g => .ok g
  | wanted, .stranger :: rest, g => gather options wanted rest (g.withSurplus true)
  | wanted + 1, .word s :: .divider :: rest, g => gather options wanted rest (g.withWord s)
  | wanted + 1, .word s :: rest, g => gather options wanted rest (g.withWord s)
  | 0, .word _ :: rest, g => gather options 0 rest (g.withSurplus true)
  | wanted + 1, .divider :: .word s :: rest, g => gather options wanted rest (g.withWord s)
  | wanted, .divider :: rest, g => gather options wanted rest (g.withSurplus true)
  | wanted, .option name attachment :: rest, g =>
    if options.get? name = some .value then
      match attachment, rest with
      | .value s, rest => gather options wanted rest (g.withValue name s)
      | .none, .word s :: rest => gather options wanted rest (g.withValue name s)
      | _, _ => .error .misuse
    else do
      let g ← takeFlag options name attachment g
      gather options wanted rest g

end TxDraft.CommandLine
