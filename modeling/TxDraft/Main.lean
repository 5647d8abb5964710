import TxDraft.CommandLine

/-!
# The program

Reads the settings from the environment and the actions from a file or from standard input, runs the
command line, and prints the answer.

The program has no network of its own: to it every service refuses connections, so requests are
checked, and what is left of them is answered by a report that no provider is usable.  A host with a
network runs the same commands with a `World` and a `Builder` of its own.
-/

namespace TxDraft.Program

open CommandLine

/-- What stands for a refused connection. -/
def refusedText : String := "connection refused"

/-- A world in which nobody answers. -/
def silence : World Unit where
  get _ _ := return .error ⟨.transport "ConnectError", refusedText⟩
  connect _ _ := return .error ⟨.system "ConnectionRefusedError", refusedText⟩
  send _ := return .error ⟨.system "ConnectionRefusedError", refusedText⟩
  receive := return .error ⟨.system "ConnectionRefusedError", refusedText⟩
  close := return ()

/-- The service in a world in which nobody answers: it has no builders. -/
def service (s : Settings) : Service Empty Unit where
  network := s.networkGroup
  backend := .ofWorld silence s
  builder := ⟨fun h => h.elim, fun h => h.elim⟩
  start _ _ := throw (.unexpected (.accident ⟨.system "ConnectionRefusedError", refusedText⟩))

/-- A desk at which one document lies. -/
def deskWith (document : Except Accident String) : Desk Unit where
  input := return document
  file _ := return document

/-- What goes wrong when a file is read. -/
def fileAccident (path : String) : IO.Error → Accident
  | .noFileOrDirectory .. => missingFile path
  | e => ⟨.system "OSError", toString e⟩

/-- Reads the document of actions that a command asks for, if it asks for one. -/
def readDocument (args : List String) : IO (Except Accident String) := do
  match Invocation.ofArguments args with
  | .ok ⟨_, .build _ path⟩ =>
    try
      if path = inputName then return .ok (← (← IO.getStdin).readToEnd)
      else return .ok (← IO.FS.readFile path)
    catch e => return .error (fileAccident path e)
  | _ => return .ok ""

/-- Reads the environment. -/
def readEnvironment : IO (Entries String String) := do
  let found ← Settings.environmentNames.mapM fun name => do
    return (← IO.getEnv name).map fun value => (name, value)
  return found.filterMap id

/-- Runs the program; how it is used, and a failure that is no answer, is told on standard error. -/
def runWith (args : List String) : IO UInt32 := do
  let environment ← readEnvironment
  let document ← readDocument args
  let ending : Attempt Ending := do
    let settings ← Settings.ofEnvironment environment.get?
    ((run (service settings) (deskWith document) args).run.run ()).1
  match ending with
  | .ok o => do
    IO.print o.output
    if o = .ofRefusal .misuse then IO.eprint usage
    return o.exit.toUInt32
  | .error f => do
    IO.eprintln f.message
    return 1

end TxDraft.Program

/-- The program. -/
def main (args : List String) : IO UInt32 :=
  TxDraft.Program.runWith args
