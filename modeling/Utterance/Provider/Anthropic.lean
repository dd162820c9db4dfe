import Utterance.Provider.Wire

/-!
The wire of Anthropic. The system prompt is a member of its own, and a schema is asked for in words.
-/

namespace Utterance.Anthropic

def provider : String := "anthropic"

def defaultTokens : Nat := 8192

def thinkingTokens : Nat := 2048

/-- The most tokens of a reply, which have to be more than reasoning may take. -/
def tokens (c : Caller) (isThinking : Bool) : Nat :=
  let n := c.maxTokens.getD defaultTokens
  if isThinking && n ≤ thinkingTokens then thinkingTokens + defaultTokens else n

def body (c : Caller) (a : Ask) : Json :=
  let system := if a.isStructured then a.system ++ Schema.note else a.system
  .obj ([("model", .str c.model), ("max_tokens", .int (tokens c a.isThinking)),
      ("messages", .arr [.obj [("role", .str "user"), ("content", .str a.user)]])] ++
    (if system.isEmpty then [] else [("system", .str system)]) ++
    (if a.isThinking then
      [("thinking", .obj [("type", .str "enabled"), ("budget_tokens", .int thinkingTokens)])]
    else []) ++
    (if a.isStreamed then [("stream", .bool true)] else []))

def blockText? (block : Json) : Option String :=
  if block.getText? "type" == some "text" then block.getText? "text" else none

def errorText (j : Json) (default : String) : String :=
  (j.pathText? ["error", "message"]).getD default

def readReply (raw : String) : Act Usage String := do
  let body ← Act.ofOutcome (Wire.decodeBody provider raw)
  Act.ofOutcome (Wire.refuseLimit provider body)
  if body.getText? "type" == some "error" then
    throw (.ofBody provider ("error payload: " ++ errorText body "unknown error") raw)
  Wire.recordUsage body "usage"
  match (body.get? "content").bind Json.items? with
  | none => throw (.ofBody provider "no content array in response" raw)
  | some blocks =>
    Act.ofOutcome (Wire.reply provider (String.join (blocks.filterMap blockText?)))

def ofDelta (delta : Json) : Option Stream.Chunk :=
  match delta.getText? "type" with
  | some "text_delta" => (delta.getText? "text").map .text
  | some "thinking_delta" => (delta.getText? "thinking").map .thinking
  | _ => none

/-- What a frame says. Its kind is told by the data, or else by the event. -/
def readFrame (f : Stream.Frame) : Except String (List Stream.Chunk) := do
  let j ← Wire.decodeFrame f
  match (j.getText? "type" <|> f.event).getD "" with
  | "content_block_delta" =>
    match j.get? "delta" with
    | some delta => pure (ofDelta delta).toList
    | none => throw "content_block_delta without delta"
  | "message_delta" => pure ((j.get? "usage").map .usage).toList
  | "message_stop" => pure [.done]
  | "error" => pure [.error (errorText j "stream error")]
  | _ => pure []

def wire : Wire where
  provider := provider
  permits := 5
  interval := .ofMillis 200
  baseUrl := "https://api.anthropic.com"
  hasSchema := false
  endpoint c _ := c.baseUrl ++ "/v1/messages"
  headers c :=
    [("content-type", "application/json"), ("x-api-key", c.key), ("anthropic-version", "2023-06-01")]
  body c a _ := body c a
  readReply := readReply
  readFrame := readFrame

end Utterance.Anthropic
