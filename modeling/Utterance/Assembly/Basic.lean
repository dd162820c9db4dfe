import Utterance.Interpreter.Interpret
import Utterance.Learned.Critic
import Utterance.Workspace

/-!
Assemblies: an interpreter and a critic that work on the same kernel, the same verbs and the same store.
-/

namespace Utterance

/-- The outside that clients of providers need. -/
structure Outside (W : Type) where
  network : Http.Network W
  programs : Programs W
  backoff : Http.Backoff := {}
  /-- The variables of the environment. -/
  environment : String → Option String

/-- How an assembly is put together. -/
structure Plan (W : Type) where
  /-- The completer; without one, it is a client of what is selected. -/
  completer : Option (Completer W) := none
  /-- The provider; without one, the settings of the workspace and the environment tell. -/
  selection : Option Selection := none
  /-- Without an embedder there is no classifier. -/
  embedder : Option (Embedder W) := none
  workspace : Option (Part W Workspace) := none
  options : Interpreter.Options := {}
  tuning : Tuning := {}

/-- An interpreter and a critic on the same kernel, the same verbs and the same store. -/
structure Assembly (W : Type) where
  kernel : Kernel W
  verbs : Part W Corpus
  classifier : Option (Classifier W)
  store : Store W
  interpreter : Interpreter W
  critic : Critic W

namespace Assembly

/-- What changes about an assembly of its own. -/
structure State where
  verbs : Corpus := {}
  learned : Semantic.Index := []
  /-- The store, where there is no workspace. -/
  shelf : Shelf := {}
  client : ClientState := { model := "", gate := .ofPermits 0 ⟨0⟩ }

namespace State

def verbsPart : Part State Corpus :=
  ⟨verbs, fun c s => { s with verbs := c }⟩

def learnedPart : Part State Semantic.Index :=
  ⟨learned, fun i s => { s with learned := i }⟩

/-- The store, where there is no workspace. -/
def shelfPart : Part State Shelf :=
  ⟨shelf, fun x s => { s with shelf := x }⟩

def clientPart : Part State ClientState :=
  ⟨client, fun c s => { s with client := c }⟩

end State

end Assembly

end Utterance
