import Utterance.Kernel.Basic
import Utterance.Semantic.Match

/-!
A base of facts, as a kernel.

No fact is held twice; facts are the same if they are written the same. Rules are accepted and kept, but
nothing is derived from them. The base decides for the verb of the match that is most similar to the
message.
-/

namespace Utterance

/-- Facts in the order in which they came, how they are written, and rules. -/
structure FactBase where
  facts : List Rule.Fact := []
  texts : List String := []
  rules : List Rule.Clause := []

namespace FactBase

def holds (b : FactBase) (f : Rule.Fact) : Bool :=
  b.texts.contains f.write

/-- The base with one more fact, unless it is held. -/
def insert (b : FactBase) (f : Rule.Fact) : FactBase :=
  if b.holds f then b else { b with facts := b.facts ++ [f], texts := f.write :: b.texts }

def factsOf (b : FactBase) (predicate : String) : List Rule.Fact :=
  b.facts.filter (·.predicate == predicate)

/-- The base without the facts of a predicate. -/
def drop (b : FactBase) (predicate : String) : FactBase :=
  let dropped := (b.factsOf predicate).map Rule.Fact.write
  { b with
    facts := b.facts.filter (·.predicate != predicate)
    texts := b.texts.filter (!dropped.contains ·) }

/-- Takes a clause, and counts the facts that are new. -/
def enter (c : Rule.Clause) : Act FactBase Nat := do
  let b ← get
  match c.fact? with
  | some f => do
    set (b.insert f)
    pure (if b.holds f then 0 else 1)
  | none => do
    Act.ofOutcome (Rule.validateRule (c.write ++ "."))
    set { b with rules := b.rules ++ [c] }
    pure 0

/-- Takes a program clause by clause, up to one that is refused, and counts the facts that are new. -/
def load (source : String) : Act FactBase Nat := do
  let counts ← (← Act.ofOutcome (Rule.parseProgram source)).mapM enter
  pure (counts.foldl (· + ·) 0)

def ofProgram (source : String) : Outcome FactBase :=
  match (load source).on {} with
  | (.ok _, b) => .ok b
  | (.error e, _) => .error e

/-- The least similarity, out of a hundred, that decides. -/
def leastSimilarity : Int := 60

/-- What a verb counts more that the message matches. -/
def candidateBonus : Int := 10

/-- The verb and the similarity that a fact about a match of the message tells. -/
def match? (message : String) (f : Rule.Fact) : Option (String × Int) :=
  match f.args with
  | subject :: _ :: .atom verb :: _ :: _ :: similarity :: _ =>
    if f.predicate == Semantic.Match.predicate && subject.text? == some message then
      similarity.int?.map (verb, ·)
    else none
  | _ => none

def weight (candidates : List String) (m : String × Int) : Int :=
  m.2 + if candidates.contains m.1 then candidateBonus else 0

/-- The weightier of a match so far and the next one, which wins a tie. -/
def weightier (candidates : List String) (best : Option (String × Int)) (m : String × Int) :
    Option (String × Int) :=
  match best with
  | some b => if weight candidates m < weight candidates b then some b else some m
  | none => some m

/-- The verb of the weightiest match that decides. -/
def verdict? (b : FactBase) (message : String) (candidates : List String) : Option Verdict :=
  let found := (b.facts.filterMap (match? message)).filter (leastSimilarity ≤ ·.2)
  (found.foldl (weightier candidates) none).map fun (verb, similarity) =>
    ⟨verb, Decimal.ofInt (min similarity 100) / 100⟩

def kernel {W : Type} (base : Part W FactBase) : Kernel W :=
  { Kernel.usual (fun f => base.change (·.insert f)) (fun p => return (← base.value).factsOf p) with
    retract := fun p => do
      let count := ((← base.value).factsOf p).length
      base.change (·.drop p)
      pure count
    verdict? := fun message candidates => return (← base.value).verdict? message candidates
    load := fun source => base.act (load source) }

end FactBase

end Utterance
