import Utterance.Provider.Completer

/-!
A completer for rehearsals, which gives the replies of a script whatever it is asked.
-/

namespace Utterance.Rehearsal

inductive Mode where
  | plain
  | structured
  | stream
  deriving DecidableEq

structure Call where
  mode : Mode
  system : String
  user : String
  isThinking : Bool

/-- The replies that are left, and the questions that were put, in their order. -/
structure Script where
  model : String := "scripted-model"
  replies : List (Outcome String) := []
  calls : List Call := []

namespace Script

def provider : String := "scripted"

/-- The next reply; when none is left, there is no text. -/
def reply (mode : Mode) (a : Ask) : Act Script String := do
  let s ← get
  let calls := s.calls ++ [⟨mode, a.system, a.user, a.isThinking⟩]
  match s.replies with
  | [] => do
    set { s with calls }
    throw (.emptyResponse provider)
  | next :: replies => do
    set { s with calls, replies }
    Act.ofOutcome next

variable {W : Type}

def answer (script : Part W Script) (mode : Mode) (watch : Watch W) (a : Ask) : Act W String :=
  watch.run (script.act (reply mode a))

def completer (script : Part W Script) (isStructured isStreaming : Bool) : Completer W where
  provider
  model := script.comp ⟨Script.model, fun m s => { s with model := m }⟩
  complete := answer script .plain
  structured? := if isStructured then some (answer script .structured) else none
  stream? :=
    if isStreaming then
      some fun watch a => do return Stream.ofContent (← answer script .stream watch a)
    else none

end Script

end Utterance.Rehearsal
