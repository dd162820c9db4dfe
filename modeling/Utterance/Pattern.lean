import Utterance.Pattern.Meaning
import Utterance.Pattern.Parser
import Utterance.Pattern.Room
import Utterance.Pattern.Search

/-!
Patterns ready for use: read from their notation, kept below a size, and turned into a program.
-/

namespace Utterance.Pattern

structure Compiled where
  source : String
  program : Program

/-- The pattern that a text writes, and its number of groups. -/
def ofText? (f : Flags) (s : String) : Option (Pattern × Nat) := do
  let (w, groups) ← read? s
  let (p, _) ← w.pattern? f
  return (p, groups)

/-- The pattern that a text stands for, unless it takes more room than `limit`. -/
def compile? (f : Flags) (limit : Nat) (s : String) : Option Compiled :=
  (ofText? f s).bind fun (p, groups) =>
    if fits limit p then some ⟨s, Program.of p groups⟩ else none

/-- A pattern of this library's own, which matches nothing if it is no pattern. -/
def fixed (s : String) : Program :=
  match ofText? {} s with
  | some (p, groups) => Program.of p groups
  | none => ⟨#[], 0⟩

end Utterance.Pattern
