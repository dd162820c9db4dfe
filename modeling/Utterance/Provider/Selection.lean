import Utterance.Http.RetryAfter
import Utterance.Provider.Settings

/-!
Which provider is used, and with which key.

The settings come first: an engine that is a tool, then a service that they name, then the first service
that they hold a key for. Only then the environment is asked for a key. A blank key is no key, and the
key for documents never decides.
-/

namespace Utterance

/-- A provider that was selected, and all that its client has to know. -/
structure Selection where
  engine : Engine
  /-- The service, unless the engine is a tool. -/
  provider : Option Provider
  key : String
  model : Option String := none
  timeout : Span
  /-- Where the service is, if not at its usual place. -/
  baseUrl : Option String := none
  /-- Whether others see to how many requests are under way. -/
  isUncounted : Bool := false
  isThinking : Bool := false
  maxTokens : Option Nat := none
  /-- The program of the tool, if not the usual one. -/
  binary : Option String := none
  documentKey : Option String := none

namespace Selection

def apiTimeout : Span := .ofSeconds 120

def toolTimeout : Span := .ofSeconds 300

def ofProvider (p : Provider) (key : String) : Selection :=
  { engine := .api, provider := some p, key, timeout := apiTimeout }

def ofTool (t : Tool) : Selection :=
  { engine := .tool t, provider := none, key := "", timeout := toolTimeout }

/-- The model that is used with a service; nothing where none is known. -/
def modelName (s : Selection) : String :=
  match s.model.filter (!·.isEmpty), s.provider with
  | some m, _ => m
  | none, some p => p.defaultModel
  | none, none => ""

def needsKey (s : Selection) : Bool :=
  !s.engine.isTool

/-- A selection in words, without its key. -/
def describe (s : Selection) : String :=
  "engine: " ++ s.engine.name ++ ", provider: " ++ (s.provider.map Provider.name).getD "none" ++
    ", api_key: " ++ (if s.key.isEmpty then "none" else "<redacted>") ++
    ", model: " ++ s.model.getD "none" ++ ", timeout: " ++ toString s.timeout.seconds

def documentVariable : String := "CONTEXT7_API_KEY"

/-- A variable of the environment, unless it is blank. -/
def nonBlank? (environment : String → Option String) (name : String) : Option String :=
  ((environment name).map Text.trimmed).filter (!·.isEmpty)

/-- A timeout in seconds; nought is none. -/
def timeout? (seconds : Option Nat) : Option Span :=
  (seconds.filter (0 < ·)).map Span.ofSeconds

def withSettings (s : Selection) (settings : Settings) : Selection :=
  { s with
    model := settings.model.filter (!·.isEmpty) <|> s.model
    timeout := (timeout? settings.timeout).getD s.timeout }

def ofToolSettings (t : Tool) (settings : Settings) : Selection :=
  let own := settings.tool t
  { ofTool t with
    model := own.model <|> settings.model
    timeout := (timeout? own.timeout).getD toolTimeout }

def missingKey (p : Provider) : String :=
  "provider '" ++ p.name ++ "' selected but no API key found (set " ++ p.keyVariable ++ " or " ++
    Settings.keyName p ++ ")"

/-- A service by its name, with a key from the settings or the environment. -/
def ofName (environment : String → Option String) (settings : Settings) (name : String) :
    Outcome Selection := do
  let p ← Provider.read name
  match settings.key? p <|> nonBlank? environment p.keyVariable with
  | some key => pure ((ofProvider p key).withSettings settings)
  | none => throw (.config (missingKey p))

/-- The first service with a key. -/
def first? (key? : Provider → Option String) : Option Selection :=
  Provider.all.findSome? fun p => (key? p).map (ofProvider p)

def ofSettings? (environment : String → Option String) (settings : Settings) :
    Outcome (Option Selection) := do
  match ← settings.engine.elim (.ok .api) Engine.read with
  | .tool t => pure (some (ofToolSettings t settings))
  | .api =>
    match settings.provider.filter fun name => !(Text.trimmed name).isEmpty with
    | some name => return some (← ofName environment settings name)
    | none => pure ((first? settings.key?).map (·.withSettings settings))

def ofEnvironment? (environment : String → Option String) (settings : Settings) : Option Selection :=
  (first? fun p => nonBlank? environment p.keyVariable).map (·.withSettings settings)

def documentKeyOf (environment : String → Option String) (settings : Settings) : Option String :=
  (settings.documentKey.filter fun k => !(Text.trimmed k).isEmpty) <|>
    nonBlank? environment documentVariable

/-- The provider that settings, if there are any, and the environment select. -/
def resolve (settings : Option Settings) (environment : String → Option String) :
    Outcome Selection := do
  let settings := settings.getD {}
  match (← ofSettings? environment settings) <|> ofEnvironment? environment settings with
  | some s => pure { s with documentKey := documentKeyOf environment settings }
  | none => throw .noProvider

end Selection

end Utterance
