import Utterance.Provider.Client

/-!
Completers: what answers questions with texts, whoever it may be.

Two abilities are not everyone's: to hold a reply to the schema of envelopes, and to stream a reply.
-/

namespace Utterance

structure Completer (W : Type) where
  provider : String
  model : Part W String
  /-- The reply to a question, without more. -/
  complete : Watch W → Ask → Act W String
  /-- The reply to a question, held to the schema. -/
  structured? : Option (Watch W → Ask → Act W String) := none
  /-- The reply to a question as a stream; it fails only if no stream begins. -/
  stream? : Option (Watch W → Ask → Act W Stream.Streamed) := none

namespace Completer

variable {W : Type}

def ofApi (c : ApiClient) (network : Http.Network W) (backoff : Http.Backoff)
    (state : Part W ClientState) : Completer W :=
  let way := c.channel network backoff state
  { provider := c.wire.provider
    model := state.comp ClientState.modelPart
    complete := fun watch a =>
      c.complete way state watch { a with
        isStructured := false, isStreamed := false, isThinking := c.isThinking }
    structured? := some fun watch a =>
      c.complete way state watch { a with isStructured := true, isStreamed := false }
    stream? := some fun watch a =>
      c.stream way state watch { a with isStructured := true, isStreamed := true } }

def ofTool (c : ToolClient) (programs : Programs W) (state : Part W ClientState) : Completer W where
  provider := c.tool.name
  model := state.comp ClientState.modelPart
  complete watch a := do
    c.complete programs watch (← state.value).model a.system a.user

def ofClient (c : Client) (network : Http.Network W) (programs : Programs W)
    (backoff : Http.Backoff) (state : Part W ClientState) : Completer W :=
  match c with
  | .api c _ => ofApi c network backoff state
  | .tool c _ => ofTool c programs state

end Completer

end Utterance
