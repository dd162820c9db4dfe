import Utterance.Semantic.Classifier
import Utterance.Verb.Corpus

/-!
Deciding for the verb of a message without a model.

The kernel is asked first, which knows what the message is similar to; then the best verb that the
message matches counts; and for want of any there is a verb that does no harm.
-/

namespace Utterance

inductive Decider where
  | kernel
  /-- The patterns and synonyms of the verb. -/
  | keywords
  /-- Nobody: it is the verb for want of any. -/
  | nobody
  deriving DecidableEq

def Decider.name : Decider → String
  | kernel => "kernel"
  | keywords => "regex"
  | nobody => "fallback"

/-- The verb of a message, and what it was decided by. -/
structure Decision where
  verb : String
  category : Category
  confidence : Float
  shard : String
  decider : Decider
  candidates : List Candidate := []
  similar : List Semantic.Match := []

namespace Decision

def fallback : Decision :=
  { verb := fallbackVerb, category := .query, confidence := fallbackConfidence, shard := "",
    decider := .nobody }

/-- The decision of a kernel, if its verb is known. -/
def ofVerdict? (corpus : Corpus) (candidates : List Candidate) (v : Verdict) : Option Decision :=
  if (Text.trimmed v.verb).isEmpty then none
  else
    let verb := normalizeVerb v.verb
    let known :=
      ((candidates.find? (·.verb == verb)).map fun c => (c.category, c.shard)) <|>
        ((corpus.get? verb).map fun e => (e.category, e.shard))
    known.map fun (category, shard) =>
      { verb, category, confidence := clampConfidence v.confidence, shard, decider := .kernel }

/-- The decision that candidates alone allow. -/
def ofCandidates (candidates : List Candidate) : Decision :=
  match Candidate.best? candidates with
  | some (c, score) =>
    { verb := c.verb, category := c.category, confidence := score, shard := c.shard,
      decider := .keywords }
  | none => fallback

variable {W : Type}

/-- Tells a kernel what a message is similar to, or else what it matches. -/
def prepare (watch : Watch W) (classifier : Option (Classifier W)) (kernel : Kernel W)
    (message : String) (candidates : List Candidate) : Act W (List Semantic.Match) :=
  match classifier with
  | some c => c.classifyFor watch kernel message candidates
  | none => Act.recover (do let _ ← Semantic.seed watch kernel message candidates; pure [])
      fun _ => pure []

/-- The verdict of a kernel; one that fails has none. -/
def ask (watch : Watch W) (kernel : Kernel W) (message : String) (candidates : List Candidate) :
    Act W (Option Verdict) :=
  Act.recover (watch.run (kernel.verdict? (sanitize message) (candidates.map Candidate.verb)))
    fun _ => pure none

def make (watch : Watch W) (corpus : Corpus) (classifier : Option (Classifier W))
    (kernel : Option (Kernel W)) (message : String) : Act W Decision := do
  watch.check
  let candidates := corpus.candidates message
  match kernel with
  | none => pure { ofCandidates candidates with candidates }
  | some kernel => do
    let similar ← prepare watch classifier kernel message candidates
    let verdict ← ask watch kernel message candidates
    let decision := (verdict.bind (ofVerdict? corpus candidates)).getD (ofCandidates candidates)
    pure { decision with candidates, similar }

def intent (d : Decision) (message : String) : Intent :=
  let i : Intent := { Intent.fallback with
    category := Phrasing.category message d.category
    verb := d.verb
    target := Phrasing.target message
    constraint := Phrasing.constraint message
    confidence := d.confidence
    ambiguity := ["heuristic classification (" ++ d.decider.name ++ ")"] }
  { i with response := i.acknowledgement }

end Decision

end Utterance
