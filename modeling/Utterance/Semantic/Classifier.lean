import Utterance.Semantic.Embedder
import Utterance.Semantic.Facts
import Utterance.Semantic.Store

/-!
The classifier: which known phrases a message is similar to.

Two indexes are searched. The one of given phrases is built once, from facts of the kernel; the one of
learned phrases grows with the store behind it.
-/

namespace Utterance

structure Tuning where
  /-- How many phrases are sought in each index. -/
  count : Nat := 5
  /-- How much more similar a learned phrase counts. -/
  boost : Float := 0.1
  /-- The least similarity that counts. -/
  least : Float := 0.5

structure Classifier (W : Type) where
  embedder : Embedder W
  /-- The given phrases. -/
  embedded : Semantic.Index
  /-- The learned phrases. -/
  learned : Part W Semantic.Index
  store : Store W
  tuning : Tuning

namespace Classifier

def definition : String := "intent_definition"

def phrase? (f : Rule.Fact) : Option Semantic.Phrase := do
  let text ← f.text? 0
  let verb ← f.text? 1
  pure ⟨text, normalizeVerb verb, (f.text? 2).getD "", (f.text? 3).getD "", 1⟩

variable {W : Type}

/-- A phrase with its embedding; nothing if it cannot be embedded as it has to be. -/
def embedPhrase? (watch : Watch W) (embedder : Embedder W) (p : Semantic.Phrase) :
    Act W (Option Semantic.Entry) :=
  let entry : Act W (Option Semantic.Entry) := do
    let v ← embedder.embedFor watch documentTask p.text
    pure (if v.length = embedder.dimensions then some ⟨p, v⟩ else none)
  entry.recover fun _ => pure none

/-- The index of the phrases that facts of the kernel state. -/
def hydrate (watch : Watch W) (embedder : Embedder W) (kernel : Kernel W) :
    Act W Semantic.Index := do
  let facts ← watch.run (kernel.query definition)
  let entries ← (facts.filterMap phrase?).mapM (embedPhrase? watch embedder)
  pure (entries.filterMap id)

/-- The index of the phrases in a store, as far as their embeddings have the right length. -/
def indexed (dimensions : Nat) (entries : Semantic.Index) : Semantic.Index :=
  entries.filter (·.embedding.length = dimensions)

def build (watch : Watch W) (embedder : Embedder W) (kernel : Kernel W) (store : Store W)
    (learned : Part W Semantic.Index) (tuning : Tuning) : Act W (Classifier W) := do
  let embedded ← hydrate watch embedder kernel
  let entries ← store.entries
  learned.change fun _ => indexed embedder.dimensions entries
  pure { embedder, embedded, learned, store, tuning }

/-- The phrases that a message is similar to, the most similar first. -/
def classify (c : Classifier W) (watch : Watch W) (message : String) :
    Act W (List Semantic.Match) := do
  let query ← c.embedder.embedFor watch lookupTask message
  watch.check
  let embedded := c.embedded.search query c.tuning.count .embedded
  let learned := (← c.learned.value).search query c.tuning.count .learned
  pure (Semantic.Match.atLeast c.tuning.least
    (Semantic.Match.merge embedded learned c.tuning.boost c.tuning.count))

/-- The phrases that a message is similar to, which the kernel is told about. If they cannot be found,
the kernel is told the best verbs that the message matches. -/
def classifyFor (c : Classifier W) (watch : Watch W) (kernel : Kernel W) (message : String)
    (candidates : List Candidate) : Act W (List Semantic.Match) := do
  match ← (c.classify watch message).attempt with
  | .ok found => do
    let _ ← Semantic.withdraw watch kernel
    let _ ← Semantic.report watch kernel (found.map (Semantic.Match.fact message))
    pure found
  | .error e =>
    if e.isCancelled then throw e
    else do
      let _ ← Semantic.seed watch kernel message candidates
      pure []

/-- Adds a learned phrase, to the store first. -/
def addEntry (c : Classifier W) (e : Semantic.Entry) : Act W Unit := do
  let dimensions := c.embedder.dimensions
  if e.embedding.length ≠ dimensions then
    throw (.embedding ("learned pattern has " ++ toString e.embedding.length ++
      " dimensions, corpus expects " ++ toString dimensions))
  c.store.addEntry e
  c.learned.change (· ++ [e])

def learn (c : Classifier W) (watch : Watch W) (p : Semantic.Phrase) : Act W Unit := do
  let v ← c.embedder.embedFor watch documentTask p.text
  let dimensions := c.embedder.dimensions
  if v.length ≠ dimensions then
    throw (.embedding ("embedding has " ++ toString v.length ++
      " dimensions, learned corpus expects " ++ toString dimensions))
  c.addEntry ⟨{ p with
    verb := normalizeVerb p.verb
    confidence := clampConfidence p.confidence }, v⟩

end Classifier

end Utterance
