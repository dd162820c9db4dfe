import Utterance.Assembly.Build
import Utterance.Kernel.FactBase
import Utterance.Provider.Embedding

/-!
The command: it interprets one message and prints what it was read as.

The message stands in the arguments or else on the standard input. Where no provider is known, the verb
is decided for without a model; any other fault of the settings ends the command.
-/

namespace Utterance.Command

def version : String := "0.4.0"

structure Request where
  message : String
  /-- Whether the understanding is wanted, and not the intent alone. -/
  wantsUnderstanding : Bool

def understandingFlag : String := "--understanding"

def noInput : String := "no input: pass an utterance as arguments or on stdin"

def messageArguments (arguments : List String) : List String :=
  arguments.erase understandingFlag

def readsInput (arguments : List String) : Bool :=
  (messageArguments arguments).isEmpty

/-- What the command is asked for, if there is a message. -/
def request? (arguments : List String) (input : String) : Option Request :=
  let message :=
    if readsInput arguments then Text.trimmed input
    else Text.join " " (messageArguments arguments)
  if message.isEmpty then none
  else some ⟨message, arguments.contains understandingFlag⟩

/-- What the command works on. -/
structure Place (W : Type) where
  facts : Part W FactBase
  state : Part W Assembly.State
  workspace : Part W Workspace
  embedderGate : Part W Http.Gate
  outside : Outside W

/-- What changes while the command works. -/
structure Desk where
  facts : FactBase := {}
  state : Assembly.State := {}
  workspace : Workspace
  embedderGate : Http.Gate := EmbeddingClient.gate

variable {W : Type}

def Desk.place (desk : Part W Desk) (outside : Outside W) : Place W where
  facts := desk.comp ⟨Desk.facts, fun x d => { d with facts := x }⟩
  state := desk.comp ⟨Desk.state, fun x d => { d with state := x }⟩
  workspace := desk.comp ⟨Desk.workspace, fun x d => { d with workspace := x }⟩
  embedderGate := desk.comp ⟨Desk.embedderGate, fun x d => { d with embedderGate := x }⟩
  outside

def answerOffline (place : Place W) (watch : Watch W) (r : Request) : Act W Json := do
  let kernel := FactBase.kernel place.facts
  let verbs := place.state.comp Assembly.State.verbsPart
  let _ ← kernel.load Bundled.program
  Corpus.load watch kernel verbs
  let decision ← Decision.make watch (← verbs.value) none (some kernel) r.message
  let intent := decision.intent r.message
  pure (if r.wantsUnderstanding then (Understanding.ofIntent intent r.message).toJson
    else intent.toJson)

def plan (place : Place W) (settings : Option Settings) (s : Selection) : Plan W where
  selection := some s
  embedder :=
    (EmbeddingClient.ofSettings? settings place.outside.environment).map fun c =>
      c.embedder place.outside.network place.embedderGate place.outside.backoff
  workspace := some place.workspace

def answerOnline (place : Place W) (watch : Watch W) (plan : Plan W) (r : Request) :
    Act W Json := do
  let a ← Assembly.build plan place.outside watch (FactBase.kernel place.facts) place.state
  if r.wantsUnderstanding then return (← a.interpreter.understanding watch r.message []).toJson
  else return (← a.interpreter.intent watch r.message []).toJson

def answer (place : Place W) (watch : Watch W) (r : Request) : Act W Json := do
  let settings ← Workspace.loadSettings place.workspace
  match Selection.resolve settings place.outside.environment with
  | .ok s => answerOnline place watch (plan place settings s) r
  | .error .noProvider => answerOffline place watch r
  | .error e => throw e

end Utterance.Command
