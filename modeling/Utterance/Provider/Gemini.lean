import Utterance.Provider.Wire

/-!
The wire of Gemini. The schema stands beside the other settings of a request, and parts that are
thoughts never count as text.
-/

namespace Utterance.Gemini

def provider : String := "gemini"

/-- Parts that hold one text. -/
def parts (text : String) : Json :=
  .arr [.obj [("text", .str text)]]

def settings (c : Caller) (a : Ask) (withSchema : Bool) : List (String × Json) :=
  (c.maxTokens.map fun n => ("maxOutputTokens", Json.int n)).toList ++
    (if a.isStructured then [("responseMimeType", .str "application/json")] else []) ++
    (if a.isStructured && withSchema then
      [("responseJsonSchema", Schema.descriptor .raw)] else []) ++
    (if a.isThinking then [("thinkingConfig", .obj [("includeThoughts", .bool true)])] else [])

def body (c : Caller) (a : Ask) (withSchema : Bool) : Json :=
  let settings := settings c a withSchema
  .obj ([("contents", .arr [.obj [("role", .str "user"), ("parts", parts a.user)]])] ++
    (if a.system.isEmpty then [] else [("systemInstruction", .obj [("parts", parts a.system)])]) ++
    (if settings.isEmpty then [] else [("generationConfig", .obj settings)]))

/-- The model as it stands in an address. -/
def modelPath (model : String) : String :=
  String.ofList ((Text.after? "models/".toList model.toList).getD model.toList)

def endpoint (c : Caller) (isStreamed : Bool) : String :=
  c.baseUrl ++ "/models/" ++ modelPath c.model ++
    (if isStreamed then ":streamGenerateContent?alt=sse" else ":generateContent")

def isThought (part : Json) : Bool :=
  ((part.get? "thought").bind Json.bool?).getD false

def candidate? (j : Json) : Option (List Json) :=
  (j.path? ["candidates", "0", "content", "parts"]).bind Json.items?

def readReply (raw : String) : Act Usage String := do
  let body ← Act.ofOutcome (Wire.decodeBody provider raw)
  Wire.recordUsage body "usageMetadata"
  match body.pathText? ["promptFeedback", "blockReason"], candidate? body with
  | some reason, _ => throw (.ofBody provider ("prompt blocked: " ++ reason) raw)
  | none, none => throw (.ofBody provider "no candidate parts in response" raw)
  | none, some parts =>
    let texts := (parts.filter (!isThought ·)).filterMap (·.getText? "text")
    Act.ofOutcome (Wire.reply provider (String.join texts))

def ofPart (part : Json) : Option Stream.Chunk :=
  (part.getText? "text").map fun text => if isThought part then .thinking text else .text text

def readFrame (f : Stream.Frame) : Except String (List Stream.Chunk) := do
  let j ← Wire.decodeFrame f
  match j.get? "error" with
  | some e => pure [.error ((e.getText? "message").getD "stream error")]
  | none =>
    let isLast := (j.path? ["candidates", "0", "finishReason"]).isSome
    pure (((candidate? j).getD []).filterMap ofPart ++
      ((j.get? "usageMetadata").map .usage).toList ++ (if isLast then [.done] else []))

def wire : Wire where
  provider := provider
  permits := 5
  interval := .ofMillis 300
  baseUrl := "https://generativelanguage.googleapis.com/v1beta"
  hasSchema := true
  endpoint := endpoint
  headers c := [("content-type", "application/json"), ("x-goog-api-key", c.key)]
  body := body
  readReply := readReply
  readFrame := readFrame

end Utterance.Gemini
