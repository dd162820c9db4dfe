import Utterance.Phrasing
import Utterance.Rule.Term
import Utterance.Verb.Basic

/-!
The corpus of known verbs: a list in which no verb stands twice.

A corpus comes from facts of the kernel. Facts that make no sense are passed over, so that some corpus
results from any facts.
-/

namespace Utterance

/-- The known verbs, each one once. -/
structure Corpus where
  verbs : List Verb := []

namespace Corpus

structure Source where
  definitions : List Rule.Fact
  synonyms : List Rule.Fact
  patterns : List Rule.Fact
  /-- Example phrases of verbs. -/
  phrases : List Rule.Fact

def repeated? (seen : List String) : List String → Option String
  | [] => none
  | name :: rest => if seen.contains name then some name else repeated? (name :: seen) rest

/-- A corpus of verbs, unless one stands twice. -/
def ofVerbs (vs : List Verb) : Outcome Corpus :=
  match repeated? [] (vs.map Verb.name) with
  | some name => .error (.validation "verb" ("duplicate verb " ++ name))
  | none => .ok ⟨vs⟩

/-- The corpus for want of any definition. -/
def safe : Corpus :=
  ⟨[.named fallbackVerb .query 1 ""]⟩

def holds (vs : List Verb) (name : String) : Bool :=
  vs.any (·.name == name)

def change (f : Verb → Verb) (name : String) (vs : List Verb) : List Verb :=
  vs.map fun v => if v.name == name then f v else v

def defined? (f : Rule.Fact) : Option Verb := do
  let name ← f.text? 0
  let category ← (f.text? 1).bind Category.parse?
  pure (.named name category (((f.arg? 3).bind Rule.Term.int?).getD 0) ((f.text? 2).getD ""))

/-- Adds a verb at the end, unless it is there. -/
def enter (vs : List Verb) (v : Verb) : List Verb :=
  if holds vs v.name then vs else vs ++ [v]

/-- The priority of verbs that are known from example phrases alone. -/
def phrasePriority : Int := 50

/-- Adds an example phrase to the verbs that have no definition; a verb of its own begins with a
category that comes from its phrase. -/
def enterPhrase (vs : List Verb) (f : Rule.Fact) : List Verb :=
  match f.text? 0, f.text? 1 with
  | some phrase, some name =>
    let name := normalizeVerb name
    if holds vs name then change (·.addSynonym phrase) name vs
    else
      vs ++ [(Verb.named name (Phrasing.category phrase .query) phrasePriority "").addSynonym phrase]
  | _, _ => vs

def about (vs : List Verb) (f : Rule.Fact) : Bool :=
  (f.text? 1).any fun name => holds vs (normalizeVerb name)

def enterSynonym (vs : List Verb) (f : Rule.Fact) : List Verb :=
  match f.text? 0, f.text? 1 with
  | some name, some phrase => change (·.addSynonym phrase) (normalizeVerb name) vs
  | _, _ => vs

def enterPattern (vs : List Verb) (f : Rule.Fact) : List Verb :=
  match f.text? 0, f.text? 1 with
  | some name, some source =>
    change (fun v => (v.addPattern source).toOption.getD v) (normalizeVerb name) vs
  | _, _ => vs

/-- The corpus that facts describe: the defined verbs, then those known from phrases alone. -/
def ofFacts (s : Source) : Corpus :=
  let known := (s.definitions.filterMap defined?).foldl enter []
  let others := (s.phrases.filter (!about known ·)).foldl enterPhrase []
  let all := s.synonyms.foldl enterSynonym (known ++ others)
  ⟨s.patterns.foldl enterPattern all⟩

def get? (c : Corpus) (name : String) : Option Verb :=
  c.verbs.find? (·.name == normalizeVerb name)

def contains (c : Corpus) (name : String) : Bool :=
  (c.get? name).isSome

/-- The verbs that a message matches, in the order of the corpus. -/
def candidates (c : Corpus) (message : String) : List Candidate :=
  let text := Text.lowered (shortened message)
  c.verbs.filterMap fun v =>
    (v.matched? text).map fun m => ⟨v.name, v.category, v.priority, v.shard, m⟩

/-- The corpus with one more phrase for a verb it knows. -/
def learn? (c : Corpus) (name phrase : String) : Option Corpus :=
  if c.contains name then some ⟨change (·.addSynonym phrase) (normalizeVerb name) c.verbs⟩
  else none

def shownSynonyms : Nat := 4

def line (v : Verb) : String :=
  "- " ++ v.name ++ " (" ++ v.category.write ++ ")" ++
    (if v.synonyms.isEmpty then "" else ": " ++ Text.join ", " (v.synonyms.take shownSynonyms)) ++
    "\n"

def catalog (c : Corpus) : String :=
  "Canonical verbs:\n" ++ String.join (c.verbs.map line)

end Corpus

end Utterance
