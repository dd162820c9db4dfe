import Utterance.Act
import Utterance.Semantic.Embedding

/-!
What makes embeddings of texts.

An embedder may want to know what an embedding is for: to look something up, or to be found.
-/

namespace Utterance

/-- What an embedding is for, if it is to look something up. -/
def lookupTask : String := "RETRIEVAL_QUERY"

def documentTask : String := "RETRIEVAL_DOCUMENT"

structure Embedder (W : Type) where
  /-- The length of every embedding. -/
  dimensions : Nat
  /-- Whether it wants to know the task. -/
  takesTask : Bool
  /-- The embedding of a text, for a task if one is told. -/
  embed : Watch W → Option String → String → Act W Embedding

/-- The embedding of a text for a task, which is told only where it is wanted. -/
def Embedder.embedFor {W : Type} (e : Embedder W) (watch : Watch W) (task text : String) :
    Act W Embedding :=
  e.embed watch (if e.takesTask then some task else none) text

end Utterance
