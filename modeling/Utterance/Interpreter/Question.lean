import Utterance.Conversation
import Utterance.Interpreter.Basic
import Utterance.Text.Shown

/-!
What a model is asked about a message.
-/

namespace Utterance.Question

def hintTitle : String := "## Classifier hints\n"

def sourceName : Decider → String
  | .kernel => "kernel"
  | .keywords | .nobody => "keywords"

def verbHint (d : Decision) : String :=
  if d.decider = .nobody then ""
  else
    "Likely verb: " ++ d.verb ++ " (" ++ d.category.write ++ ", confidence " ++
      Decimal.fixed 2 d.confidence ++ ", from " ++ sourceName d.decider ++ ")\n"

/-- How many similar phrases a model is told. -/
def shownPhrases : Nat := 3

def phraseLine (m : Semantic.Match) : String :=
  "- " ++ Text.shown m.text ++ " -> " ++ m.verb ++ " (" ++ Decimal.fixed 2 m.similarity.toFloat ++ ")\n"

def phraseHints (ms : List Semantic.Match) : String :=
  if ms.isEmpty then ""
  else "Similar requests:\n" ++ String.join ((ms.take shownPhrases).map phraseLine)

/-- The section of hints; nothing if there are none. -/
def hints (d : Decision) : String :=
  let lines := verbHint d ++ phraseHints d.similar
  if lines.isEmpty then "" else hintTitle ++ lines ++ "\n"

def message (text : String) : String :=
  "## User message\n" ++ text

/-- The question about a message, with its conversation and hints. -/
def full (options : Interpreter.Options) (history : List Turn) (d : Decision) (text : String) :
    String :=
  Conversation.passage options.historyTurns history ++ hints d ++ message text

def plain (options : Interpreter.Options) (history : List Turn) (text : String) : String :=
  Conversation.passage options.historyTurns history ++ message text

/-- The question put again after `attempt` attempts, the last of which had faults. -/
def again (attempt : Nat) (faults : List String) (question : String) : String :=
  if faults.isEmpty then question else Prompt.repair attempt faults ++ question

end Utterance.Question
