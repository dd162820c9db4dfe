import Utterance.Json.Basic

/-!
How many tokens a client has used.

Counters are signed words of 64 bits. Providers name their counts differently.
-/

namespace Utterance

structure Usage where
  prompt : Int64 := 0
  completion : Int64 := 0
  total : Int64 := 0
  cachedPrompt : Int64 := 0
  requests : Int64 := 0

namespace Usage

def promptKeys : List String := ["prompt_tokens", "input_tokens", "promptTokenCount"]

def completionKeys : List String := ["completion_tokens", "output_tokens", "candidatesTokenCount"]

def cachedKeys : List String :=
  ["cached_tokens", "cache_read_input_tokens", "cachedContentTokenCount"]

/-- The first count among some names; zero if there is none. -/
def count (block : Json) (keys : List String) : Int64 :=
  Int64.ofInt ((keys.findSome? fun key => (block.get? key).bind Json.int64?).getD 0)

def record (u : Usage) (block : Json) : Usage :=
  let prompt := count block promptKeys
  let completion := count block completionKeys
  ⟨u.prompt + prompt, u.completion + completion, u.total + (prompt + completion),
    u.cachedPrompt + count block cachedKeys, u.requests + 1⟩

end Usage

end Utterance
