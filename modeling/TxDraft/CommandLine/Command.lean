import TxDraft.CommandLine.Options

/-!
# Commands

What a command line asks for.  Options of the program stand in front of the command; everything
behind its name belongs to the command.  `Invocation.ofArguments` reads a command line.
-/

namespace TxDraft.CommandLine

/-- What is asked for. -/
inductive Command where
  /-- Which providers are usable. -/
  | status
  /-- What lies at an address. -/
  | balance (address : String)
  /-- The unspent outputs at an address. -/
  | utxos (address : String)
  /-- A transaction for the actions in a file. -/
  | build (source actions : String)
  /-- A transaction for a single payment. -/
  | send (source target lovelace : String)
  /-- The protocol parameters. -/
  | params
  /-- The tip of the chain. -/
  | tip
  /-- The version document of Dolos. -/
  | version
  deriving DecidableEq

/-- A command, and how it is run. -/
structure Invocation where
  verbose : Bool
  command : Command
  deriving DecidableEq

/-! ### The arguments of commands -/

/-- Options that have values. -/
def valueOptions (names : List String) : OptionTable :=
  names.map fun name => (name, .value)

/-- The arguments of a command that wants options with these names, all of them, and so many words;
anything else is too much. -/
def readArguments (names : List String) (words : Nat) (args : List String) :
    Except Refusal (List String × List String × Bool) := do
  let options := helpOptions ++ valueOptions names
  let ts ← tokens options args
  let g ← gather options words ts .empty
  match names.mapM g.values.get?, decide (g.words.length = words) with
  | some values, true => return (values, g.words, g.surplus)
  | _, _ => throw .misuse

/-- A command without arguments. -/
def readPlain (command : Command) (args : List String) : Except Refusal (Command × Bool) := do
  let (_, _, surplus) ← readArguments [] 0 args
  return (command, surplus)

/-- A command with an address. -/
def readLookup (command : String → Command) (args : List String) :
    Except Refusal (Command × Bool) := do
  match ← readArguments [] 1 args with
  | (_, [address], surplus) => return (command address, surplus)
  | _ => throw .misuse

/-- The command `build`. -/
def readBuild (args : List String) : Except Refusal (Command × Bool) := do
  match ← readArguments ["--from", "--actions"] 0 args with
  | ([source, actions], _, surplus) => return (.build source actions, surplus)
  | _ => throw .misuse

/-- The command `send`. -/
def readSend (args : List String) : Except Refusal (Command × Bool) := do
  match ← readArguments ["--from", "--to", "--lovelace"] 0 args with
  | ([source, target, lovelace], _, surplus) => return (.send source target lovelace, surplus)
  | _ => throw .misuse

/-- The command with a name, and whether there was an argument too many. -/
def readCommand (name : String) (args : List String) : Except Refusal (Command × Bool) :=
  match name with
  | "status" => readPlain .status args
  | "balance" => readLookup .balance args
  | "utxos" => readLookup .utxos args
  | "build" => readBuild args
  | "send" => readSend args
  | "params" => readPlain .params args
  | "tip" => readPlain .tip args
  | "version" => readPlain .version args
  | _ => .error .misuse

/-! ### Whole command lines -/

/-- The options of the program. -/
def programOptions : OptionTable :=
  helpOptions ++ [("-v", .flag), ("--verbose", .flag)]

/-- The options in front of the command, and the command's name and its arguments. -/
def leading : List (Token × String) → Gathered → Except Refusal (Gathered × String × List String)
  | [], _ | (.divider, _) :: _, _ => .error .misuse
  | (.word name, _) :: rest, g => .ok (g, name, rest.map Prod.snd)
  | (.stranger, _) :: rest, g => leading rest (g.withSurplus true)
  | (.option name attachment, _) :: rest, g => do
    let g ← takeFlag programOptions name attachment g
    leading rest g

/-- What a command line asks for. -/
def Invocation.ofArguments (args : List String) : Except Refusal Invocation := do
  let ts ← tokens programOptions args
  let (g, name, rest) ← leading (ts.zip args) .empty
  let (command, surplus) ← readCommand name rest
  if g.surplus || surplus then throw .misuse
  return ⟨!g.flags.isEmpty, command⟩

end TxDraft.CommandLine
