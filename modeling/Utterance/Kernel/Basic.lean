import Utterance.Act
import Utterance.Rule.Validation

/-!
Kernels: what holds facts, and decides by them.

A kernel has to take facts and to give them back. All else it may leave to what is usual: rules are
accepted for their form alone, programs are taken for their facts, and nothing is decided.
-/

namespace Utterance

structure Verdict where
  verb : String
  confidence : Float

/-- What holds facts, and decides by them. -/
structure Kernel (W : Type) where
  /-- Takes a fact. -/
  tell : Rule.Fact → Act W Unit
  /-- Takes facts. -/
  tellAll : List Rule.Fact → Act W Unit
  /-- The facts of a predicate, in their order. -/
  query : String → Act W (List Rule.Fact)
  /-- Drops the facts of a predicate, and counts them. -/
  retract : String → Act W Nat
  /-- The verb that a message asks for, given the verbs that it matches. -/
  verdict? : String → List String → Act W (Option Verdict)
  /-- Accepts or refuses a proposed rule. -/
  validate : String → Act W Unit
  /-- Takes a program, and counts its facts. -/
  load : String → Act W Nat

/-- A kernel that does what is usual wherever that is possible. -/
def Kernel.usual {W : Type} (tell : Rule.Fact → Act W Unit)
    (query : String → Act W (List Rule.Fact)) : Kernel W where
  tell
  tellAll facts := facts.forM tell
  query
  retract predicate := throw (.unsupported ("retract(" ++ predicate ++ ")"))
  verdict? _ _ := pure none
  validate rule := Act.ofOutcome (Rule.validateRule rule)
  load source := do
    let facts := (← Act.ofOutcome (Rule.parseProgram source)).filterMap Rule.Clause.fact?
    facts.forM tell
    pure facts.length

end Utterance
