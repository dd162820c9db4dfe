import Utterance.Http.Exchange
import Utterance.Provider.Selection
import Utterance.Provider.Wire
import Utterance.Semantic.Embedder

/-!
Embeddings by a service of the network.
-/

namespace Utterance

structure EmbeddingClient where
  key : String
  model : String := "gemini-embedding-001"
  dimensions : Nat := 768
  baseUrl : String := "https://generativelanguage.googleapis.com/v1beta"

namespace EmbeddingClient

def name : String := "genai"

/-- The name of the service in faults. -/
def service : String := "genai-embed"

def timeout : Span := .ofSeconds 30

def ofKey (key : String) : Outcome EmbeddingClient :=
  if (Text.trimmed key).isEmpty then .error (.config "gemini API key is required for embeddings")
  else .ok { key }

/-- The client for which settings or the environment hold a key. -/
def ofSettings? (settings : Option Settings) (environment : String → Option String) :
    Option EmbeddingClient := do
  let own := settings.bind (·.key? .gemini)
  let key ← own <|> environment Provider.gemini.keyVariable
  (ofKey key).toOption

def gate : Http.Gate := .ofPermits 8 ⟨0⟩

def body (c : EmbeddingClient) (text task : String) : Json :=
  .obj [("model", .str ("models/" ++ c.model)),
    ("content", .obj [("parts", .arr [.obj [("text", .str text)]])]), ("taskType", .str task),
    ("outputDimensionality", .int c.dimensions)]

def request (c : EmbeddingClient) (text task : String) : Http.Request :=
  ⟨c.baseUrl ++ "/models/" ++ c.model ++ ":embedContent", [("x-goog-api-key", c.key)], c.body text task⟩

def number? : Json → Option Decimal.Single
  | .int n => some (Decimal.Double.ofFloat (Decimal.ofInt n)).toSingle
  | .float x => some (Decimal.Double.ofFloat x).toSingle
  | _ => none

def readReply (c : EmbeddingClient) (raw : String) : Outcome Embedding := do
  let j ← Wire.decodeBody service raw
  match (j.path? ["embedding", "values"]).bind Json.items? with
  | none => throw (.embedding "response has no embedding values")
  | some values =>
    let v := values.filterMap number?
    if v.length = c.dimensions then pure v
    else
      throw (.embedding ("expected " ++ toString c.dimensions ++ " dimensions, got " ++
        toString v.length))

def embedder {W : Type} (c : EmbeddingClient) (network : Http.Network W) (gate : Part W Http.Gate)
    (backoff : Http.Backoff) : Embedder W where
  dimensions := c.dimensions
  takesTask := true
  embed watch task text := do
    let watch := watch.limited timeout (← get)
    let way : Http.Channel W := ⟨service, network.strict, gate, backoff⟩
    let raw ← Http.orBreakdown (way.fetch watch (fun _ => c.request text (task.getD documentTask)) false)
    Act.ofOutcome (c.readReply raw)

end EmbeddingClient

end Utterance
