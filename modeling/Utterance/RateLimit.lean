import Utterance.Fault
import Utterance.Json.Printer
import Utterance.Text.Case
import Utterance.Text.Split

/-!
How a provider's words show that it asks for fewer requests, or that it knows no schemas.
-/

namespace Utterance.RateLimit

def markers : List String :=
  ["rate limit", "rate_limit", "too many requests", "429"]

def isMarked (s : String) : Bool :=
  let low := Text.lowered s
  markers.any (Text.contains low)

def schemaWords : List String :=
  ["response_format", "json_schema", "responsejsonschema"]

def mentionsSchema (s : String) : Bool :=
  let low := Text.lowered s
  schemaWords.any (Text.contains low)

def plain : Json → String
  | .str s => s
  | j => j.compact

/-- The text of the error that a body reports: a string, or the telling members of an object. -/
def errorText? (body : Json) : Option String :=
  match body.get? "error" with
  | some (.str s) => some s
  | some (.obj ms) =>
    some (Text.join " " ((["message", "type", "code", "status"].filterMap fun key => ms.lookup key).map plain))
  | _ => none

def inPayload? (body : Json) : Option String :=
  (errorText? body).filter isMarked

end Utterance.RateLimit
