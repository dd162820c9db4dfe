import Utterance.Http.Message
import Utterance.Json.Reader
import Utterance.Provider.Usage
import Utterance.RateLimit
import Utterance.Schema
import Utterance.Stream.Reader

/-!
How a service is spoken to over the network.

Services differ in where a request goes, what its body says, and how a reply is read, whole or in
frames. All of this is the service's wire.
-/

namespace Utterance

structure Ask where
  system : String
  user : String
  /-- Whether the reply has to be an envelope. -/
  isStructured : Bool := false
  isStreamed : Bool := false
  isThinking : Bool := false

structure Caller where
  key : String
  baseUrl : String
  model : String
  maxTokens : Option Nat

structure Wire where
  provider : String
  /-- How many requests may be under way. -/
  permits : Nat
  /-- The least time between two requests. -/
  interval : Span
  baseUrl : String
  /-- Whether requests carry a schema that can be left out. -/
  hasSchema : Bool
  endpoint : Caller → (isStreamed : Bool) → String
  headers : Caller → List (String × String)
  body : Caller → Ask → (withSchema : Bool) → Json
  readReply : String → Act Usage String
  readFrame : Stream.FrameReader

namespace Wire

def decodeBody (provider body : String) : Outcome Json :=
  match Json.ofText? body with
  | some j => .ok j
  | none => .error (.ofBody provider Json.unreadable body)

def decodeFrame (f : Stream.Frame) : Except String Json :=
  match Json.ofText? f.data with
  | some j => .ok j
  | none => .error Json.unreadable

/-- A reply without outer blanks; nothing is no reply. -/
def reply (provider text : String) : Outcome String :=
  let text := Text.trimmed text
  if text.isEmpty then .error (.emptyResponse provider) else .ok text

/-- Fails if a body asks for fewer requests. -/
def refuseLimit (provider : String) (body : Json) : Outcome Unit :=
  match RateLimit.inPayload? body with
  | some text => .error (.rateLimited provider none ("error payload: " ++ text))
  | none => .ok ()

def recordUsage (body : Json) (key : String) : Act Usage Unit :=
  match body.get? key with
  | some block => modify (·.record block)
  | none => pure ()

/-- An address without slashes at its end. -/
def bareUrl (url : String) : String :=
  String.ofList (Text.trimEnd (· == '/') url.toList)

end Wire

end Utterance
