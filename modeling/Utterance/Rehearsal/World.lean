import Utterance.Provider.Program

/-!
Worlds for rehearsals: a clock that goes on only when somebody waits, and programs that run as told.
-/

namespace Utterance.Rehearsal

/-- A world with the time, whether the work was called off, and all else. -/
structure World (α : Type) where
  now : Nat := 0
  isOff : Bool := false
  rest : α

namespace World

variable {α : Type}

def restPart : Part (World α) α :=
  ⟨rest, fun x w => { w with rest := x }⟩

def watch : Watch (World α) :=
  ⟨⟨now, fun t w => { w with now := t }⟩, isOff, none⟩

/-- Carries an act out that is called off from the start, or has only so much time. -/
def run {β : Type} (isOff : Bool) (span : Option Span) (act : Watch (World α) → Act (World α) β)
    (w : World α) : Outcome β × World α :=
  let w := { w with isOff }
  (act (span.elim watch fun s => watch.limited s w)).on w

end World

/-- The runs of programs that are left, and the arguments of those that were started. -/
structure Shell where
  runs : List Run := []
  started : List (List String) := []

/-- The next run, started with some arguments. When none is left, a program ends at once. -/
def Shell.next (args : List String) : StateM Shell Run := do
  let s ← get
  let started := s.started ++ [args]
  match s.runs with
  | [] => do
    set ({ started } : Shell)
    pure (.ended 0 "" "")
  | run :: runs => do
    set ({ runs, started } : Shell)
    pure run

def Shell.programs {W : Type} (shell : Part W Shell) (names : List String) : Programs W where
  start binary args := fun w =>
    if names.contains binary then
      let (run, s) := (Shell.next args).run (shell.read w)
      (.ok run, shell.write s w)
    else Programs.missing.start binary args w

end Utterance.Rehearsal
