import Utterance.Interpreter.Basic
import Utterance.LineReply

/-!
The intent that a model's reply states.

A verb that is not known is replaced by the one that was decided for without the model.
-/

namespace Utterance.Reply

/-- The intent with a known verb. -/
def closed (corpus : Corpus) (d : Decision) (i : Intent) : Intent :=
  if i.verb == fallbackVerb || corpus.contains i.verb then i
  else
    { i with
      verb := d.verb
      ambiguity := i.ambiguity ++
        ["model verb " ++ i.verb ++ " is not in the taxonomy, using " ++ d.verb] }

def isVerbless (verb : String) : Bool :=
  (Text.trimStart (· == '/') (normalizeVerb verb).toList).isEmpty

/-- The intent of an envelope that names no verb. -/
def verbless (d : Decision) (text : String) (e : Envelope) : Intent :=
  let i := d.intent text
  { i with
    ambiguity := "model returned no verb" :: i.ambiguity
    response := if (Text.trimmed e.surface).isEmpty then i.response else e.surface }

def classified (corpus : Corpus) (d : Decision) (e : Envelope) : Intent :=
  let c := e.control.classification
  let target := Text.trimmed c.target
  closed corpus d { Intent.fallback with
    category := (Category.parse? c.category).getD d.category
    verb := normalizeVerb c.verb
    target := if target.isEmpty then noTarget else target
    constraint := Text.trimmed c.constraint
    confidence := clampConfidence c.confidence
    response := e.surface }

/-- What the user is told about an error that the model admits. -/
def corrections (e : Envelope) : List String :=
  ((e.control.selfCorrection.filter (·.triggered)).map fun s =>
    "self-correction: " ++ s.hypothesis).toList

def ofEnvelope (corpus : Corpus) (d : Decision) (text : String) (e : Envelope) : Intent :=
  let i :=
    if isVerbless e.control.classification.verb then verbless d text e else classified corpus d e
  { i with
    memoryOperations := e.control.memoryOperations
    ambiguity := i.ambiguity ++ corrections e }

/-- The intent that a reply in one line states. -/
def ofLine? (corpus : Corpus) (d : Decision) (reply : String) : Option Intent :=
  (LineReply.read? reply).map (closed corpus d)

end Utterance.Reply
