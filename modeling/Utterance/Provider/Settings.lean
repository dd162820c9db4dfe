import Utterance.File
import Utterance.Json.Raw
import Utterance.Provider.Basic

/-!
The settings that a user keeps in a file of the workspace.
-/

namespace Utterance

open Json (Raw)

/-- The settings of a tool; the timeout is in seconds. -/
structure ToolSettings where
  model : Option String := none
  timeout : Option Nat := none

/-- The settings in a file; the timeout is in seconds. -/
structure Settings where
  provider : Option String := none
  engine : Option String := none
  model : Option String := none
  timeout : Option Nat := none
  /-- The keys of the services that have one. -/
  keys : List (Provider × String) := []
  /-- The key of a service for documents, which completes no texts. -/
  documentKey : Option String := none
  claude : Option ToolSettings := none
  codex : Option ToolSettings := none

namespace ToolSettings

def ofRaw? (r : Raw) : Option ToolSettings := do
  match ← r.fields? ["model", "timeout"] with
  | [model, timeout] => pure ⟨← Raw.optional Raw.text? model, ← Raw.optional Raw.word? timeout⟩
  | _ => none

end ToolSettings

namespace Settings

def directory : String := ".perception"

def fileName : String := "config.json"

def keyName (p : Provider) : String := p.name ++ "_api_key"

def names : List String :=
  ["provider", "engine", "model", "timeout"] ++ Provider.all.map keyName ++
    ["context7_api_key", "claude_cli", "codex_cli"]

/-- The settings in a value, which is a record none of whose fields is required. -/
def ofRaw? (r : Raw) : Option Settings := do
  match ← r.fields? names with
  | provider :: engine :: model :: timeout :: rest =>
    let texts ← (rest.take Provider.all.length).mapM (Raw.optional Raw.text?)
    let keys := (Provider.all.zip texts).filterMap fun (p, key) => key.map (p, ·)
    match rest.drop Provider.all.length with
    | [documents, claude, codex] =>
      pure ⟨← Raw.optional Raw.text? provider, ← Raw.optional Raw.text? engine,
        ← Raw.optional Raw.text? model, ← Raw.optional Raw.word? timeout, keys,
        ← Raw.optional Raw.text? documents, ← Raw.optional ToolSettings.ofRaw? claude,
        ← Raw.optional ToolSettings.ofRaw? codex⟩
    | _ => none
  | _ => none

def read (text : String) : Outcome Settings :=
  match (Raw.ofText? text).bind ofRaw? with
  | some s => .ok s
  | none => .error (.config Json.unreadable)

/-- The settings in a file; nothing if there is no file. -/
def load (f : File) : Outcome (Option Settings) := do
  match ← f.read with
  | some text => return some (← read text)
  | none => pure none

/-- The key of a service, unless it is blank. -/
def key? (s : Settings) (p : Provider) : Option String :=
  ((s.keys.lookup p).map Text.trimmed).filter (!·.isEmpty)

def tool (s : Settings) : Tool → ToolSettings
  | .claude => s.claude.getD {}
  | .codex => s.codex.getD {}

end Settings

end Utterance
