import Utterance.Assembly.Build
import Utterance.Kernel.FactBase
import Utterance.Rehearsal.Completer
import Utterance.Rehearsal.Embedder
import Utterance.Rehearsal.Kernel
import Utterance.Rehearsal.World

/-!
The stage: all collaborators of the library together, each one rehearsed.
-/

namespace Utterance.Rehearsal

/-- What changes on a stage. -/
structure Props where
  facts : FactBase := {}
  /-- The facts of a plain kernel. -/
  plain : List Rule.Fact := []
  /-- The facts for whoever needs a kernel where there is none. -/
  spare : FactBase := {}
  verbs : Corpus := {}
  learned : Semantic.Index := []
  shelf : Shelf := {}
  /-- The store of the classifier where there is no other. -/
  own : Shelf := {}
  script : Script := {}
  log : EmbeddingLog := []
  file : File := .missing
  shown : List String := []
  assemblies : List Assembly.State := []
  workspace : Workspace := {}

abbrev Stage := World Props

namespace Stage

def part {α : Type} (read : Props → α) (write : α → Props → Props) : Part Stage α :=
  World.restPart.comp ⟨read, write⟩

def facts : Part Stage FactBase := part Props.facts fun x p => { p with facts := x }

def plain : Part Stage (List Rule.Fact) := part Props.plain fun x p => { p with plain := x }

/-- The facts for whoever needs a kernel where there is none. -/
def spare : Part Stage FactBase := part Props.spare fun x p => { p with spare := x }

def verbs : Part Stage Corpus := part Props.verbs fun x p => { p with verbs := x }

def learned : Part Stage Semantic.Index := part Props.learned fun x p => { p with learned := x }

def shelf : Part Stage Shelf := part Props.shelf fun x p => { p with shelf := x }

/-- What the store of the classifier holds where there is no other. -/
def own : Part Stage Shelf := part Props.own fun x p => { p with own := x }

def script : Part Stage Script := part Props.script fun x p => { p with script := x }

def calls : Part Stage (List Call) := script.comp ⟨Script.calls, fun x s => { s with calls := x }⟩

def log : Part Stage EmbeddingLog := part Props.log fun x p => { p with log := x }

def file : Part Stage File := part Props.file fun x p => { p with file := x }

def shown : Part Stage (List String) := part Props.shown fun x p => { p with shown := x }

def workspace : Part Stage Workspace := part Props.workspace fun x p => { p with workspace := x }

def assembly (n : Nat) : Part Stage Assembly.State :=
  part (fun p => p.assemblies.getD n {}) fun x p => { p with assemblies := p.assemblies.set n x }

def newAssembly : Act Stage Nat := do
  let p ← World.restPart.value
  World.restPart.change fun p => { p with assemblies := p.assemblies ++ [{}] }
  pure p.assemblies.length

/-- What a part was, which is emptied. -/
def take {α : Type} (p : Part Stage (List α)) : Act Stage (List α) := do
  let xs ← p.value
  p.change fun _ => []
  pure xs

end Stage

inductive VerbSource where
  | safe
  | program (source : String)
  /-- The kernel, or the bundled verbs where there is none. -/
  | kernel

def loadProgram (source : String) : Act Stage Unit := do
  let b ← Act.ofOutcome (FactBase.ofProgram source)
  let before ← Stage.spare.value
  Stage.spare.change fun _ => b
  Corpus.load World.watch (FactBase.kernel Stage.spare) Stage.verbs
  Stage.spare.change fun _ => before

def VerbSource.load (kernel : Option (Kernel Stage)) : VerbSource → Act Stage Unit
  | safe => Stage.verbs.change fun _ => Corpus.safe
  | program source => loadProgram source
  | .kernel =>
    kernel.elim (loadProgram Bundled.program) fun k => Corpus.load World.watch k Stage.verbs

structure Setting where
  /-- The kernel, once its facts are loaded. -/
  kernel : Act Stage (Option (Kernel Stage))
  verbs : VerbSource
  store : Outcome (Option (Store Stage))
  /-- The phrases that the store holds at first, and how it takes them. -/
  stored : List Semantic.Entry
  filling : Store Stage
  embedder : Option (Embedder Stage)
  tuning : Tuning
  completer : Completer Stage
  options : Interpreter.Options
  isShown : Bool
  hasFile : Bool
  criticTask : String
  criticKnowsVerbs : Bool

structure Cast where
  kernel : Option (Kernel Stage)
  /-- The kernel, or one without facts where there is none. -/
  anyKernel : Kernel Stage
  store : Option (Store Stage)
  classifier : Option (Classifier Stage)
  interpreter : Interpreter Stage
  critic : Critic Stage

def Setting.cast (s : Setting) : Act Stage Cast := do
  let kernel ← s.kernel
  let anyKernel := kernel.getD (FactBase.kernel Stage.spare)
  s.verbs.load kernel
  let store ← Act.ofOutcome s.store
  s.stored.forM s.filling.addEntry
  let classifier ←
    match s.embedder with
    | some e =>
      some <$> Classifier.build World.watch e anyKernel (store.getD (Shelf.store Stage.own))
        Stage.learned s.tuning
    | none => pure none
  let interpreter : Interpreter Stage :=
    { completer := s.completer, verbs := Stage.verbs, classifier, kernel, options := s.options
      display := if s.isShown then some Stage.shown else none }
  let critic : Critic Stage :=
    { completer := s.completer, kernel := anyKernel, classifier, store, task := s.criticTask
      verbs := if s.criticKnowsVerbs then some Stage.verbs else none
      file := if s.hasFile then some Stage.file else none }
  pure { kernel, anyKernel, store, classifier, interpreter, critic }

end Utterance.Rehearsal
