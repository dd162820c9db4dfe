import Utterance.Http.Exchange
import Utterance.Provider.Anthropic
import Utterance.Provider.Chat
import Utterance.Provider.Gemini
import Utterance.Provider.Program

/-!
Clients of providers.

What never changes about a client is its settings; its model, the tokens it has used and the state of
its gate are a part of the world.
-/

namespace Utterance

structure ClientState where
  model : String
  usage : Usage := {}
  gate : Http.Gate

namespace ClientState

def modelPart : Part ClientState String :=
  ⟨model, fun m s => { s with model := m }⟩

def usagePart : Part ClientState Usage :=
  ⟨usage, fun u s => { s with usage := u }⟩

def gatePart : Part ClientState Http.Gate :=
  ⟨gate, fun g s => { s with gate := g }⟩

end ClientState

structure ApiClient where
  wire : Wire
  key : String
  baseUrl : String
  timeout : Span
  maxTokens : Option Nat
  isThinking : Bool

namespace ApiClient

def wireOf (p : Provider) : Wire :=
  match p, Chat.dialect? p with
  | _, some d => Chat.wire d
  | .gemini, none => Gemini.wire
  | _, none => Anthropic.wire

def missingKey (name : String) : String := name ++ " API key is not set"

def ofSelection (p : Provider) (s : Selection) : Outcome (ApiClient × ClientState) :=
  let wire := wireOf p
  let gate := Http.Gate.ofPermits wire.permits wire.interval
  if (Text.trimmed s.key).isEmpty then .error (.config (missingKey wire.provider))
  else
    .ok (⟨wire, s.key, Wire.bareUrl (s.baseUrl.getD wire.baseUrl), s.timeout, s.maxTokens, s.isThinking⟩,
      { model := s.modelName, gate := if s.isUncounted then gate.uncounted else gate })

def caller (c : ApiClient) (model : String) : Caller :=
  ⟨c.key, c.baseUrl, model, c.maxTokens⟩

def request (c : ApiClient) (model : String) (a : Ask) (withSchema : Bool) : Http.Request :=
  let caller := c.caller model
  ⟨c.wire.endpoint caller a.isStreamed, c.wire.headers caller, c.wire.body caller a withSchema⟩

variable {W : Type}

def channel (c : ApiClient) (network : Http.Network W) (backoff : Http.Backoff)
    (state : Part W ClientState) : Http.Channel W :=
  ⟨c.wire.provider, network.strict, state.comp ClientState.gatePart, backoff⟩

def complete (c : ApiClient) (way : Http.Channel W) (state : Part W ClientState) (watch : Watch W)
    (a : Ask) : Act W String := do
  let watch := watch.limited c.timeout (← get)
  let model := (← state.value).model
  let body ← Http.orBreakdown (way.fetch watch (c.request model a) (a.isStructured && c.wire.hasSchema))
  (state.comp ClientState.usagePart).act (c.wire.readReply body)

def brokenStream : String := "stream read: <io error>"

/-- The fault with which a stream breaks off behind the pieces that have come. -/
def cut (c : ApiClient) (watch : Watch W) : Http.Ending → Act W (Option Fault)
  | .complete => pure none
  | .broken => pure (some (.transport c.wire.provider brokenStream))
  | .never => do
    match ← (watch.exhaust : Act W Unit).attempt with
    | .ok _ => pure none
    | .error e => pure (some e)

def stream (c : ApiClient) (way : Http.Channel W) (state : Part W ClientState) (watch : Watch W)
    (a : Ask) : Act W Stream.Streamed := do
  let watch := watch.limited c.timeout (← get)
  let model := (← state.value).model
  let (answer, held) ← Http.orBreakdown
    (way.openAnswer watch (c.request model a) (a.isStructured && c.wire.hasSchema))
  let cut ← c.cut watch answer.ending
  way.release held
  pure (Stream.read c.wire.provider c.wire.readFrame answer.pieces cut)

end ApiClient

/-- A client of a provider, and its state at first. -/
inductive Client where
  | api (c : ApiClient) (start : ClientState)
  | tool (c : ToolClient) (start : ClientState)

namespace Client

def ofSelection (s : Selection) : Outcome Client := do
  match s.engine, s.provider with
  | .tool _, _ =>
    let (c, model) ← ToolClient.ofSelection s
    pure (.tool c { model, gate := .ofPermits 0 ⟨0⟩ })
  | .api, none => throw .noProvider
  | .api, some p =>
    let (c, start) ← ApiClient.ofSelection p s
    pure (.api c start)

def provider : Client → String
  | api c _ => c.wire.provider
  | tool c _ => c.tool.name

def start : Client → ClientState
  | api _ s | tool _ s => s

/-- Whether replies can be streamed, and held to a schema. -/
def isApi : Client → Bool
  | api .. => true
  | tool .. => false

end Client

end Utterance
