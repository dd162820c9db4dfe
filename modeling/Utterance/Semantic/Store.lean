import Utterance.Act
import Utterance.Semantic.Index

/-!
Stores: where learned phrases and facts are kept. Nothing is ever taken out.
-/

namespace Utterance

/-- What keeps learned phrases, with their embeddings, and facts. -/
structure Store (W : Type) where
  addEntry : Semantic.Entry → Act W Unit
  /-- The phrases in the order in which they came. -/
  entries : Act W Semantic.Index
  /-- Keeps a fact, each one once. -/
  addFact : String → Act W Unit
  /-- The facts in the order in which they came. -/
  facts : Act W (List String)

structure Shelf where
  entries : Semantic.Index := []
  facts : List String := []

namespace Shelf

def addEntry (s : Shelf) (e : Semantic.Entry) : Shelf :=
  { s with entries := s.entries ++ [e] }

/-- A shelf with one more fact, unless it is there. -/
def addFact (s : Shelf) (fact : String) : Shelf :=
  if s.facts.contains fact then s else { s with facts := s.facts ++ [fact] }

variable {W : Type}

def store (shelf : Part W Shelf) : Store W where
  addEntry e := shelf.change (·.addEntry e)
  entries := return (← shelf.value).entries
  addFact fact := shelf.change (·.addFact fact)
  facts := return (← shelf.value).facts

/-- A confidence as a column keeps it, which knows but one zero. -/
def column (x : Float) : Float :=
  if x == 0 then 0 else x

/-- A shelf as the table of a database, which takes no confidence that is no number. -/
def database (shelf : Part W Shelf) : Store W :=
  { store shelf with
    addEntry := fun e =>
      if e.phrase.confidence.isNaN then
        throw (.storage "NOT NULL constraint failed: learned_patterns.confidence")
      else
        let phrase := { e.phrase with confidence := column e.phrase.confidence }
        shelf.change (·.addEntry { e with phrase }) }

end Shelf

end Utterance
