import Utterance.Prompt
import Utterance.Provider.Completer
import Utterance.Verb.Decision

/-!
Interpreters: what reads a message with the help of a model.
-/

namespace Utterance

structure Interpreter.Options where
  /-- How many messages of the conversation a model is told. -/
  historyTurns : Nat := 6
  /-- How often a model is asked as long as its rules are refused. -/
  attempts : Nat := 3
  isThinking : Bool := false
  /-- Whether a model is asked for a stream at first. -/
  prefersStreaming : Bool := true
  /-- The task that a model is given. -/
  task : String := Prompt.classify
  /-- Whether the kernel is told the intent. -/
  recordsIntent : Bool := true

/-- What reads a message with the help of a model. -/
structure Interpreter (W : Type) where
  completer : Completer W
  verbs : Part W Corpus
  classifier : Option (Classifier W) := none
  kernel : Option (Kernel W) := none
  options : Interpreter.Options := {}
  /-- Where the pieces of a streamed response are shown. -/
  display : Option (Part W (List String)) := none

structure Reading where
  intent : Intent
  /-- The proposed rules that were accepted. -/
  updates : List String := []
  /-- What the model says about the understanding. -/
  understanding : Option Json := none

namespace Reading

/-- The mark of a reading whose rules were refused to the end. -/
def doubtMark : String := "GCD_VALIDATION_FAILED"

/-- A reading that counts half, for its rules were refused to the end. -/
def doubted (r : Reading) (faults : List String) : Reading :=
  { r with intent := { r.intent with
      confidence := clampConfidence (r.intent.confidence / 2)
      ambiguity := r.intent.ambiguity ++ [doubtMark ++ ": " ++ Text.join "; " faults] } }

end Reading

end Utterance
