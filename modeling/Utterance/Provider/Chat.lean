import Utterance.Provider.Basic
import Utterance.Provider.Wire

/-!
Services that speak of chat completions. They share the shape of requests and replies, and differ in
where they are, how a schema is stated, and how reasoning is asked for.
-/

namespace Utterance.Chat

inductive Reasoning where
  | none
  | effort
  | thinking
  deriving DecidableEq

/-- What sets one service apart. -/
structure Dialect where
  name : String
  baseUrl : String
  headers : List (String × String) := []
  tier : Schema.Tier := .strict
  permits : Nat
  interval : Span
  reasoning : Reasoning
  /-- Whether a stream has to be asked for its token counts. -/
  asksUsage : Bool := false

def openai : Dialect where
  name := "openai"
  baseUrl := "https://api.openai.com/v1"
  permits := 10
  interval := .ofMillis 100
  reasoning := .effort
  asksUsage := true

def xai : Dialect where
  name := "xai"
  baseUrl := "https://api.x.ai/v1"
  permits := 5
  interval := .ofMillis 200
  reasoning := .effort

def openrouter : Dialect where
  name := "openrouter"
  baseUrl := "https://openrouter.ai/api/v1"
  headers := [("HTTP-Referer", "https://github.com/perception-layer"), ("X-Title", "perception-layer")]
  permits := 5
  interval := .ofMillis 200
  reasoning := .none

/-- The dialect of Z.AI, which promises no more than some object. -/
def zai : Dialect where
  name := "zai"
  baseUrl := "https://api.z.ai/api/paas/v4"
  headers := [("Accept-Language", "en-US,en")]
  tier := .object
  permits := 5
  interval := .ofMillis 600
  reasoning := .thinking

def dialect? : Provider → Option Dialect
  | .openai => some openai
  | .xai => some xai
  | .openrouter => some openrouter
  | .zai => some zai
  | .anthropic | .gemini => none

def message (role content : String) : Json :=
  .obj [("role", .str role), ("content", .str content)]

/-- The system prompt; where the schema is not enforced, words ask for it. -/
def systemOf (d : Dialect) (a : Ask) : String :=
  if a.isStructured && d.tier ≠ .strict then a.system ++ Schema.note else a.system

def Reasoning.member? : Reasoning → Option (String × Json)
  | none => .none
  | effort => some ("reasoning_effort", .str "high")
  | thinking => some ("thinking", .obj [("type", .str "enabled")])

def body (d : Dialect) (c : Caller) (a : Ask) (withSchema : Bool) : Json :=
  let system := systemOf d a
  let messages := (if system.isEmpty then [] else [message "system" system]) ++ [message "user" a.user]
  .obj ([("model", .str c.model), ("messages", .arr messages)] ++
    (c.maxTokens.map fun n => ("max_tokens", .int n)).toList ++
    (if a.isStructured && withSchema then [("response_format", Schema.descriptor d.tier)] else []) ++
    (if a.isThinking then d.reasoning.member?.toList else []) ++
    (if a.isStreamed then [("stream", .bool true)] else []) ++
    (if a.isStreamed && d.asksUsage then
      [("stream_options", .obj [("include_usage", .bool true)])] else []))

/-- The text of a message: a string, or the texts of its parts. -/
def content (message : Json) : String :=
  match message.get? "content" with
  | some (.str s) => s
  | some (.arr parts) => String.join (parts.filterMap (·.getText? "text"))
  | _ => ""

def readReply (provider raw : String) : Act Usage String := do
  let body ← Act.ofOutcome (Wire.decodeBody provider raw)
  Act.ofOutcome (Wire.refuseLimit provider body)
  match body.get? "error" with
  | some e =>
    let text := (e.getText? "message").getD "unknown error"
    throw (.ofBody provider ("error payload: " ++ text) raw)
  | none => do
    Wire.recordUsage body "usage"
    match body.path? ["choices", "0", "message"] with
    | none => throw (.ofBody provider "no choices in response" raw)
    | some m => Act.ofOutcome (Wire.reply provider (content m))

def delta? (j : Json) (key : String) : Option String :=
  ((j.path? ["choices", "0", "delta"]).bind (·.getText? key)).filter (!·.isEmpty)

def readFrame (f : Stream.Frame) : Except String (List Stream.Chunk) := do
  let j ← Wire.decodeFrame f
  match j.get? "error" with
  | some e => pure [.error ((e.getText? "message").getD e.compact)]
  | none =>
    let thoughts := ["reasoning_content", "reasoning"].filterMap (delta? j)
    let usage := (j.get? "usage").filter fun u => !u.isNull
    let isLast := (j.path? ["choices", "0", "finish_reason"]).any fun r => !r.isNull
    pure (thoughts.map .thinking ++ ((delta? j "content").map .text).toList ++
      (usage.map .usage).toList ++ (if isLast then [.done] else []))

def wire (d : Dialect) : Wire where
  provider := d.name
  permits := d.permits
  interval := d.interval
  baseUrl := d.baseUrl
  hasSchema := true
  endpoint c _ := c.baseUrl ++ "/chat/completions"
  headers c :=
    [("content-type", "application/json"), ("authorization", "Bearer " ++ c.key)] ++ d.headers
  body := body d
  readReply := readReply d.name
  readFrame := readFrame

end Utterance.Chat
