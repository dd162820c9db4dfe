import Utterance.Json.Member
import Utterance.Verb.Decision
import Utterance.View.Semantic

/-!
Verbs and decisions for them as JSON.
-/

namespace Utterance

def Category.toJson (c : Category) : Json :=
  .str c.write

/-- The category that a text names; a query, if it names none. -/
def Category.ofName (name : String) : Category :=
  (parse? name).getD .query

def Verb.ofJson (j : Json) : Outcome Verb :=
  let v := named (j.textAt "verb") (.ofName (j.textAt "category")) (j.intAt "priority") (j.textAt "shard")
  (j.textsAt "patterns").foldlM addPattern ((j.textsAt "synonyms").foldl addSynonym v)

def Verb.toJson (v : Verb) : Json :=
  .obj [("verb", .str v.name), ("category", v.category.toJson), ("priority", .int v.priority),
    ("shard_type", .str v.shard), ("synonyms", .ofTexts v.synonyms),
    ("patterns", .ofTexts (v.patterns.map Pattern.Compiled.source))]

def Matched.toJson : Matched → Json
  | pattern => .str "pattern"
  | synonym n => .obj [("synonym", .ofNat n)]

def Candidate.toJson (c : Candidate) : Json :=
  .obj [("verb", .str c.verb), ("category", c.category.toJson), ("priority", .int c.priority),
    ("shard_type", .str c.shard), ("matched", c.matched.toJson), ("score", .float c.score)]

def Decider.toJson : Decider → Json
  | kernel => .str "kernel"
  | keywords => .str "heuristic"
  | nobody => .str "fallback"

/-- A decision, its candidates by their names. -/
def Decision.toJson (d : Decision) : Json :=
  .obj [("verb", .str d.verb), ("category", d.category.toJson),
    ("confidence", .float d.confidence), ("shard_type", .str d.shard),
    ("origin", d.decider.toJson), ("candidates", .ofTexts (d.candidates.map Candidate.verb)),
    ("semantic", .ofList Semantic.Match.toJson d.similar)]

end Utterance
