import Utterance.Fault
import Utterance.Text.Blank
import Utterance.Text.Case

/-!
Who completes texts: services that are reached over the network, and tools that run as programs.
-/

namespace Utterance

inductive Provider where
  | anthropic
  | openai
  | gemini
  | xai
  | zai
  | openrouter
  deriving DecidableEq

namespace Provider

/-- All services; where the choice is open, the first one with a key is taken. -/
def all : List Provider :=
  [anthropic, openai, gemini, xai, zai, openrouter]

def name : Provider → String
  | anthropic => "anthropic"
  | openai => "openai"
  | gemini => "gemini"
  | xai => "xai"
  | zai => "zai"
  | openrouter => "openrouter"

def nicknames : List (String × Provider) :=
  [("claude", anthropic), ("google", gemini), ("grok", xai), ("glm", zai)]

def read (s : String) : Outcome Provider :=
  let key := Text.lowered (Text.trimmed s)
  match (all.map fun p => (p.name, p)).lookup key <|> nicknames.lookup key with
  | some p => .ok p
  | none => .error (.config ("unknown provider '" ++ key ++ "'"))

def defaultModel : Provider → String
  | anthropic => "claude-sonnet-4-5"
  | openai => "gpt-4o"
  | gemini => "gemini-2.5-flash"
  | xai => "grok-4"
  | zai => "glm-4.6"
  | openrouter => "anthropic/claude-sonnet-4.5"

def keyVariable : Provider → String
  | anthropic => "ANTHROPIC_API_KEY"
  | openai => "OPENAI_API_KEY"
  | gemini => "GEMINI_API_KEY"
  | xai => "XAI_API_KEY"
  | zai => "ZAI_API_KEY"
  | openrouter => "OPENROUTER_API_KEY"

end Provider

inductive Tool where
  | claude
  | codex
  deriving DecidableEq

namespace Tool

def name : Tool → String
  | claude => "claude-cli"
  | codex => "codex-cli"

def binary : Tool → String
  | claude => "claude"
  | codex => "codex"

def defaultModel : Tool → String
  | claude => "sonnet"
  | codex => "gpt-5-codex"

end Tool

/-- How completions are obtained. -/
inductive Engine where
  | api
  | tool (t : Tool)
  deriving DecidableEq

namespace Engine

def name : Engine → String
  | api => "api"
  | tool t => t.name

/-- An engine by its name in any case, between blanks; no name at all means the network. -/
def read (s : String) : Outcome Engine :=
  let key := Text.lowered (Text.trimmed s)
  if key.isEmpty then .ok api
  else
    match [api, tool .claude, tool .codex].find? (·.name == key) with
    | some e => .ok e
    | none => .error (.config ("unknown engine '" ++ key ++ "'"))

def isTool : Engine → Bool
  | api => false
  | tool _ => true

end Engine

end Utterance
