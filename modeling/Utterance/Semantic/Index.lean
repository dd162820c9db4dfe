import Utterance.Semantic.Embedding
import Utterance.Semantic.Match

/-!
Phrases with their embeddings, and the search among them.
-/

namespace Utterance.Semantic

structure Phrase where
  text : String
  verb : String
  target : String
  constraint : String
  confidence : Float

structure Entry where
  phrase : Phrase
  embedding : Embedding

/-- The phrases that are searched, in the order in which they came. -/
abbrev Index := List Entry

def clampSimilarity (w : Decimal.Double) : Decimal.Double :=
  if w.toFloat < 0 then .ofFloat 0 else if 1 < w.toFloat then .ofFloat 1 else w

def Entry.toMatch (origin : Origin) (e : Entry) (similarity : Decimal.Double) : Match :=
  ⟨e.phrase.text, e.phrase.verb, e.phrase.target, e.phrase.constraint,
    clampSimilarity similarity, 0, origin⟩

/-- The `k` entries that are most similar to a query, the best one first. -/
def Index.search (index : Index) (query : Embedding) (k : Nat) (origin : Origin) : List Match :=
  let scored := index.map fun e => (e, Embedding.cosine query e.embedding)
  let best := (Ranking.descending (fun s => s.2.key) scored).take k
  Match.ranked (best.map fun (e, x) => e.toMatch origin x)

end Utterance.Semantic
