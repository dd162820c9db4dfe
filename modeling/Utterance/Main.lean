import Utterance.Command
import Utterance.Json.Printer

/-!
The program: it reads the message, the settings and the environment, and prints the answer of the
command.

It starts no other program and knows no network, so whatever needs a provider ends in a fault.
-/

namespace Utterance.Command

def readFile (path : String) : IO File :=
  tryCatch (File.octets <$> (·.toList) <$> IO.FS.readBinFile path) fun
    | .noFileOrDirectory .. => pure .missing
    | _ => pure .directory

def readEnvironment : IO (List (String × String)) := do
  let names := Selection.documentVariable :: Provider.all.map Provider.keyVariable
  names.filterMapM fun name => do return (← IO.getEnv name).map (name, ·)

/-- A desk, and the time in nanoseconds since the start. -/
abbrev Room := Nat × Desk

def calmWatch : Watch Room where
  clock := ⟨Prod.fst, fun t room => (t, room.2)⟩
  calledOff _ := false

def run (workspace : Workspace) (environment : List (String × String)) (r : Request) :
    Outcome Json :=
  let desk : Part Room Desk := ⟨Prod.snd, fun d room => (room.1, d)⟩
  let outside : Outside Room :=
    { network := .unreachable, programs := .missing, environment := (environment.lookup ·) }
  ((answer (Desk.place desk outside) calmWatch r).on (0, { workspace })).1

end Utterance.Command

open Utterance Command in
/-- Prints what the message in the arguments, or else on the standard input, is read as. -/
def main (arguments : List String) : IO UInt32 := do
  let input ← if readsInput arguments then (← IO.getStdin).readToEnd else pure ""
  match request? arguments input with
  | none => do
    IO.eprintln ("Error: " ++ noInput)
    return 1
  | some r => do
    let settings ← readFile Workspace.settingsPath
    let learned ← readFile Workspace.learnedPath
    match run { settings, learned } (← readEnvironment) r with
    | .ok v => do
      IO.println v.pretty
      return 0
    | .error e => do
      IO.eprintln ("Error: " ++ e.message)
      return 1
