import Utterance.Assembly.Basic
import Utterance.Verb.Bundled
import Utterance.Verb.Reload

/-!
Putting an assembly together.

A kernel that knows no verbs is given the bundled ones. With a workspace, what is learned is kept there
and loaded again. A classifier that cannot be built is left out.
-/

namespace Utterance

variable {W : Type}

namespace Plan

def newClient (outside : Outside W) (state : Part W ClientState) (s : Selection) :
    Act W (Completer W) := do
  let c ← Act.ofOutcome (Client.ofSelection s)
  state.change fun _ => c.start
  pure (Completer.ofClient c outside.network outside.programs outside.backoff state)

def takeCompleter (plan : Plan W) (outside : Outside W) (state : Part W ClientState) :
    Act W (Completer W) :=
  match plan.completer, plan.selection with
  | some c, _ => pure c
  | none, some s => newClient outside state s
  | none, none => do
    let settings ← plan.workspace.elim (pure none) Workspace.loadSettings
    newClient outside state (← Act.ofOutcome (Selection.resolve settings outside.environment))

/-- The store of a plan: the database of the workspace, or else an empty shelf. -/
def openStore (plan : Plan W) (shelf : Part W Shelf) : Act W (Store W) :=
  match plan.workspace with
  | some place => Workspace.openDatabase place
  | none => do
    shelf.change fun _ => {}
    pure (Shelf.store shelf)

/-- The classifier of a plan, if it has an embedder and the classifier can be built. -/
def buildClassifier (plan : Plan W) (watch : Watch W) (kernel : Kernel W) (store : Store W)
    (learned : Part W Semantic.Index) : Act W (Option (Classifier W)) :=
  match plan.embedder with
  | some embedder =>
    Act.recover (some <$> Classifier.build watch embedder kernel store learned plan.tuning)
      fun _ => pure none
  | none => pure none

end Plan

namespace Assembly

def knowsVerbs (watch : Watch W) (kernel : Kernel W) : Act W Bool := do
  if !(← watch.run (kernel.query "verb_def")).isEmpty then pure true
  else return !(← watch.run (kernel.query Classifier.definition)).isEmpty

/-- Gives a kernel the bundled verbs if it knows none. -/
def furnish (watch : Watch W) (kernel : Kernel W) : Act W Unit := do
  if !(← knowsVerbs watch kernel) then
    let _ ← watch.run (kernel.load Bundled.program)

def build (plan : Plan W) (outside : Outside W) (watch : Watch W) (kernel : Kernel W)
    (state : Part W State) : Act W (Assembly W) := do
  let completer ← plan.takeCompleter outside (state.comp State.clientPart)
  furnish watch kernel
  let store ← plan.openStore (state.comp State.shelfPart)
  let verbs := state.comp State.verbsPart
  Corpus.load watch kernel verbs
  let classifier ← plan.buildClassifier watch kernel store (state.comp State.learnedPart)
  let critic : Critic W :=
    { completer, kernel, verbs := some verbs, classifier, store := some store
      file := plan.workspace.map (·.comp Workspace.learnedPart) }
  let _ ← critic.load watch
  let interpreter : Interpreter W :=
    { completer, verbs, classifier, kernel := some kernel, options := plan.options }
  pure { kernel, verbs, classifier, store, interpreter, critic }

/-- The assembly that all share, if there is one, or else a new one. -/
def obtain (shared : Option (Assembly W)) (new : Act W (Assembly W)) : Act W (Assembly W) :=
  shared.elim new pure

end Assembly

end Utterance
