import Utterance.Kernel.Basic
import Utterance.Semantic.Match
import Utterance.Verb.Basic

/-!
Telling a kernel about the matches of a message.

The facts of the message before are withdrawn first. A kernel that refuses facts is told all the others;
only lost patience puts an end to it.
-/

namespace Utterance.Semantic

variable {W : Type}

def tellOne (watch : Watch W) (kernel : Kernel W) (f : Rule.Fact) : Act W Bool :=
  Act.recover (do watch.run (kernel.tell f); pure true) fun _ => pure false

/-- Tells a kernel facts, all together if it takes them so, and counts those that it took. -/
def report (watch : Watch W) (kernel : Kernel W) (facts : List Rule.Fact) : Act W Nat :=
  if facts.isEmpty then pure 0
  else
    Act.recover (do watch.run (kernel.tellAll facts); pure facts.length) fun _ => do
      let taken ← facts.mapM (tellOne watch kernel)
      pure (taken.count true)

/-- Withdraws the facts about matches, and counts them; a kernel that cannot do so keeps them. -/
def withdraw (watch : Watch W) (kernel : Kernel W) : Act W Nat :=
  (watch.run (kernel.retract Match.predicate)).recover fun _ => pure 0

/-- The similarity, out of a hundred, that a verb is given for want of a better one. -/
def seedSimilarity : Int := 50

/-- How many verbs are made known for want of matches. -/
def seedCount : Nat := 3

def seedFact (message : String) (rank : Nat) (c : Candidate) : Rule.Fact :=
  ⟨Match.predicate, [.str (sanitize message),
    .str (String.ofList (Text.trimStart (· == '/') c.verb.toList)), .named c.verb, .str noTarget,
    .int (rank + 1), .int seedSimilarity]⟩

def seedFacts (message : String) (candidates : List Candidate) : List Rule.Fact :=
  ((Ranking.descending (fun c => (Decimal.Double.ofFloat c.score).key) candidates).take seedCount).mapIdx
    (seedFact message)

def seed (watch : Watch W) (kernel : Kernel W) (message : String) (candidates : List Candidate) :
    Act W Nat := do
  let _ ← withdraw watch kernel
  report watch kernel (seedFacts message candidates)

end Utterance.Semantic
