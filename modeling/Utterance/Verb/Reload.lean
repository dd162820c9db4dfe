import Utterance.Kernel.Basic
import Utterance.Verb.Corpus

/-!
Reading the corpus of verbs from a kernel.
-/

namespace Utterance.Corpus

variable {W : Type}

def noVerbs : String := "no verb_def or intent_definition facts loaded"

/-- The facts about verbs, given those that define them and those of example phrases. -/
def sourceBeside (watch : Watch W) (kernel : Kernel W) (definitions phrases : List Rule.Fact) :
    Act W Source := do
  let synonyms ← watch.run (kernel.query "verb_synonym")
  let patterns ← watch.run (kernel.query "verb_pattern")
  pure { definitions, synonyms, patterns, phrases }

/-- The facts about verbs that a kernel holds; without any verb that is a fault. -/
def source (watch : Watch W) (kernel : Kernel W) : Act W Source := do
  let definitions ← watch.run (kernel.query "verb_def")
  let phrases ← watch.run (kernel.query "intent_definition")
  if definitions.isEmpty && phrases.isEmpty then throw (.kernel noVerbs)
  sourceBeside watch kernel definitions phrases

/-- Reads the corpus anew, and counts its verbs. -/
def reload (watch : Watch W) (kernel : Kernel W) (verbs : Part W Corpus) : Act W Nat := do
  let c := ofFacts (← source watch kernel)
  verbs.change fun _ => c
  pure c.verbs.length

/-- Reads the corpus for the first time; for want of any there is one verb, whatever has gone wrong. -/
def load (watch : Watch W) (kernel : Kernel W) (verbs : Part W Corpus) : Act W Unit := do
  verbs.change fun _ => safe
  let _ ← (reload watch kernel verbs).attempt

end Utterance.Corpus
