import Utterance.Provider.Client

/-!
Providers, and what selects them, as JSON.
-/

namespace Utterance

def Usage.toJson (u : Usage) : Json :=
  .obj [("prompt_tokens", .int u.prompt.toInt), ("completion_tokens", .int u.completion.toInt),
    ("total_tokens", .int u.total.toInt), ("cached_prompt_tokens", .int u.cachedPrompt.toInt),
    ("successful_requests", .int u.requests.toInt)]

def ToolSettings.toJson (t : ToolSettings) : Json :=
  .obj [("model", .ofOption .str t.model), ("timeout", .ofOption .ofNat t.timeout)]

def Settings.toJson (s : Settings) : Json :=
  .obj ([("provider", .ofOption .str s.provider), ("engine", .ofOption .str s.engine),
      ("model", .ofOption .str s.model), ("timeout", .ofOption .ofNat s.timeout)] ++
    (Provider.all.map fun p => (keyName p, .ofOption .str (s.keys.lookup p))) ++
    [("context7_api_key", .ofOption .str s.documentKey),
      ("claude_cli", .ofOption ToolSettings.toJson s.claude),
      ("codex_cli", .ofOption ToolSettings.toJson s.codex)])

def Selection.toJson (s : Selection) : Json :=
  .obj [("engine", .str s.engine.name), ("provider", .ofOption (fun p => .str p.name) s.provider),
    ("api_key", .str s.key), ("model", .ofOption .str s.model),
    ("model_or_default", .str s.modelName), ("timeout_s", .ofNat s.timeout.seconds),
    ("context7", .ofOption .str s.documentKey), ("needs_key", .bool s.needsKey)]

def Client.toJson (c : Client) : Json :=
  .obj [("provider", .str c.provider), ("model", .str c.start.model), ("streaming", .bool c.isApi),
    ("structured", .bool c.isApi), ("usage", c.start.usage.toJson)]

def Provider.toJson (p : Provider) : Json :=
  .obj [("provider", .str p.name), ("model", .str p.defaultModel), ("env", .str p.keyVariable)]

def Engine.toJson (e : Engine) : Json :=
  .obj [("engine", .str e.name), ("cli", .bool e.isTool)]

def Stream.Gathered.members (g : Gathered) : List (String × Json) :=
  [("content", .str g.content), ("thinking", .str g.thinking), ("usage", g.usage.getD .null)]

def Stream.Chunk.toJson : Chunk → Json
  | text s => .obj [("type", .str "text_delta"), ("text", .str s)]
  | thinking s => .obj [("type", .str "thinking_delta"), ("text", .str s)]
  | usage u => .obj [("type", .str "usage"), ("usage", u)]
  | done => .obj [("type", .str "done")]
  | error m => .obj [("type", .str "error"), ("message", .str m)]

def Stream.Frame.toJson (f : Frame) : Json :=
  .obj [("event", .ofOption .str f.event), ("data", .str f.data), ("done", .bool f.isDone)]

end Utterance
