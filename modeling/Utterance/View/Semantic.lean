import Utterance.Focus
import Utterance.Json.Member
import Utterance.Learned.Exemplar
import Utterance.Semantic.Index

/-!
Phrases, their matches and what is learned as JSON.
-/

namespace Utterance

def Semantic.Origin.name : Origin → String
  | embedded => "embedded"
  | learned => "learned"

def Semantic.Match.toJson (m : Match) : Json :=
  .obj [("text", .str m.text), ("verb", .str m.verb), ("target", .str m.target),
    ("constraint", .str m.constraint), ("similarity", .float m.similarity.toFloat),
    ("rank", .ofNat m.rank), ("source", .str m.origin.name)]

def Embedding.toJson (v : Embedding) : Json :=
  .arr (v.map fun x => .float x.toDouble.toFloat)

def Embedding.ofJson (j : Json) : Embedding :=
  (j.items?.getD []).map fun x => x.toDouble.toSingle

def Semantic.Match.ofJson (j : Json) : Match :=
  ⟨j.textAt "text", j.textAt "verb", j.textAt "target" "none", j.textAt "constraint",
    (j.member "similarity").toDouble, j.natAt "rank",
    if j.textAt "source" == Origin.learned.name then .learned else .embedded⟩

/-- The phrase whose text is the member `key`. -/
def Semantic.Phrase.ofJson (key : String) (j : Json) : Phrase :=
  ⟨j.textAt key, j.textAt "verb", j.textAt "target", j.textAt "constraint", j.floatAt "confidence" 1⟩

def Semantic.Entry.ofJson (j : Json) : Entry :=
  ⟨.ofJson "text" j, .ofJson (j.member "embedding")⟩

def Semantic.Entry.toJson (e : Entry) : Json :=
  .obj [("text", .str e.phrase.text), ("verb", .str e.phrase.verb),
    ("target", .str e.phrase.target), ("constraint", .str e.phrase.constraint),
    ("confidence", .float e.phrase.confidence), ("embedding", e.embedding.toJson)]

def Exemplar.toJson (e : Exemplar) : Json :=
  .obj [("phrase", .str e.phrase), ("verb", .str e.verb), ("target", .str e.target),
    ("constraint", .str e.constraint), ("confidence", .float e.confidence)]

def Focus.toJson (f : Focus) : Json :=
  .obj [("reference", .str f.reference), ("selected", .ofOption .str f.selected),
    ("confidence", .ofNat f.confidence), ("reasoning", .str f.reasoning)]

end Utterance
