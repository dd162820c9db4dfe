import Utterance.Semantic.Embedder
import Utterance.Text.Case
import Utterance.Text.Letter
import Utterance.Text.Split
import Utterance.Text.Utf8

/-!
Embedders for rehearsals, with embeddings that are known beforehand or that count words.
-/

namespace Utterance.Rehearsal

/-- The number that an octet leads to from another one, in words of 64 bits. -/
def hashStep (h : UInt64) (b : UInt8) : UInt64 :=
  (h ^^^ b.toUInt64) * 0x100000001b3

def hash (word : String) : UInt64 :=
  (Text.Utf8.encode word).foldl hashStep 0xcbf29ce484222325

def wordsOf (text : String) : List String :=
  ((Text.splitWhere (fun c => !Text.isAlphanumeric c) (Text.lower text.toList)).filter
    (!·.isEmpty)).map String.ofList

/-- The embedding of a text by its words: each counts at the place of its number. -/
def wordCounts (dimensions : Nat) (text : String) : Embedding :=
  let places := (wordsOf text).map fun w => (hash w).toNat % dimensions
  (List.range dimensions).map fun i => .ofNat (places.count i)

/-- What is embedded for a text: the text itself, behind the task if one is told. -/
def keyOf (task : Option String) (text : String) : String :=
  task.elim text fun t => t ++ ":" ++ text

/-- The texts that were embedded, in their order, each with the task that was told. -/
abbrev EmbeddingLog := List (Option String × String)

/-- An embedder that finds embeddings by a function, and writes down what it embeds. -/
def foundEmbedder {W : Type} (log : Part W EmbeddingLog) (dimensions : Nat) (takesTask : Bool)
    (find : String → Outcome Embedding) : Embedder W where
  dimensions
  takesTask
  embed watch task text := do
    watch.check
    log.change (· ++ [(task, text)])
    Act.ofOutcome (find (keyOf task text))

/-- An embedder that wants to know the task, but does not care. -/
def careless {W : Type} (e : Embedder W) : Embedder W :=
  { e with
    takesTask := true
    embed := fun watch _ text => e.embed watch none text }

end Utterance.Rehearsal
