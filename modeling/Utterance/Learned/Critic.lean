import Utterance.Conversation
import Utterance.File
import Utterance.Learned.Exemplar
import Utterance.Prompt
import Utterance.Provider.Completer
import Utterance.Semantic.Classifier

/-!
The critic: learning from conversations in which a phrase was misread.

A model looks for such a phrase. What it finds is an exemplar, which the kernel has to take; then it is
kept wherever that is possible. A file holds one exemplar a line, and lines that make no sense are passed
over when it is read.
-/

namespace Utterance

namespace Exemplar

/-- The exemplar in a line of a file, unless the line is blank or a comment. -/
def ofLine? (line : List Char) : Option Exemplar :=
  let line := Text.trim line
  if line.isEmpty || line.head? == some '#' then none
  else (parse (String.ofList line)).toOption

def ofLines (text : String) : List Exemplar :=
  (Text.lines text.toList).filterMap ofLine?

def line (e : Exemplar) : String :=
  e.fact.source ++ "\n"

def toPhrase (e : Exemplar) : Semantic.Phrase :=
  ⟨e.phrase, e.verb, e.target, e.constraint, Decimal.ofInt e.percent / 100⟩

end Exemplar

structure Critic (W : Type) where
  completer : Completer W
  kernel : Kernel W
  verbs : Option (Part W Corpus) := none
  classifier : Option (Classifier W) := none
  store : Option (Store W) := none
  /-- The file of the exemplars. -/
  file : Option (Part W File) := none
  /-- The task that a model is given. -/
  task : String := Prompt.critic

namespace Critic

/-- How many messages of a conversation a model is told. -/
def historyTurns : Nat := 5

variable {W : Type}

/-- The fact that a model proposes to learn from a conversation, or nothing. -/
def propose (c : Critic W) (watch : Watch W) (history : List Turn) : Act W String := do
  watch.check
  if history.isEmpty then pure ""
  else
    let question := Conversation.transcript historyTurns history
    return Exemplar.extract (← c.completer.complete watch ⟨c.task, question, false, false, false⟩)

/-- Makes the phrase of an exemplar a synonym of its verb, if that is known. -/
def learnSynonym (c : Critic W) (e : Exemplar) : Act W Unit :=
  c.verbs.elim (pure ()) fun verbs =>
    verbs.change fun corpus => (corpus.learn? e.verb e.phrase).getD corpus

def appendTo (file : Part W File) (more : String) : Act W Unit := do
  let f ← Act.ofOutcome ((← file.value).append more)
  file.change fun _ => f

/-- Keeps an exemplar wherever that is possible, once the kernel has taken it. -/
def keep (c : Critic W) (watch : Watch W) (e : Exemplar) : Act W Unit := do
  if let some store := c.store then
    (watch.run (store.addFact e.fact.source)).recover fun _ => pure ()
  if let some classifier := c.classifier then
    (classifier.learn watch e.toPhrase).recover fun _ => pure ()
  if let some file := c.file then
    (watch.run (appendTo file e.line)).recover fun _ => pure ()
  c.learnSynonym e

/-- Learns the exemplar that a fact states, and gives it with its confidence as a percentage. -/
def persist (c : Critic W) (watch : Watch W) (fact : String) : Act W Exemplar := do
  watch.check
  let e ← Act.ofOutcome (Exemplar.parse fact)
  let _ ← watch.run (c.kernel.load e.fact.source)
  c.keep watch e
  pure { e with confidence := Decimal.ofInt e.percent }

def learn (c : Critic W) (watch : Watch W) (history : List Turn) : Act W (Option Exemplar) := do
  let fact ← c.propose watch history
  if fact.isEmpty then pure none else some <$> c.persist watch fact

def load (c : Critic W) (watch : Watch W) : Act W Nat := do
  match c.file with
  | none => pure 0
  | some file =>
    match ← watch.run (do Act.ofOutcome (← file.value).read) with
    | none => pure 0
    | some text => do
      let exemplars := Exemplar.ofLines text
      watch.run (c.kernel.tellAll (exemplars.map Exemplar.fact))
      exemplars.forM c.learnSynonym
      pure exemplars.length

end Critic

end Utterance
