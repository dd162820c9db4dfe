import Utterance.Fault
import Utterance.Json.Basic

/-!
Faults as JSON: their kind, their words, and what a caller may want to act on.
-/

namespace Utterance

namespace Fault

def kind : Fault → String
  | config _ => "Config"
  | noProvider => "NoProvider"
  | cancelled _ => "Cancelled"
  | transport .. => "Transport"
  | rateLimited .. => "RateLimited"
  | provider .. => "Provider"
  | emptyResponse _ => "EmptyResponse"
  | decode .. => "Decode"
  | parse _ => "Parse"
  | validation .. => "Validation"
  | kernel _ => "Kernel"
  | embedding _ => "Embedding"
  | unsupported _ => "Unsupported"
  | io _ => "Io"
  | storage _ => "Storage"

/-- What a fault has besides its words. -/
def details : Fault → List (String × Json)
  | validation field _ => [("field", .str field)]
  | provider _ status _ => [("status", .ofNat status)]
  | rateLimited _ wait _ => [("retry_after_ms", .ofOption (fun w => .ofNat w.millis) wait)]
  | _ => []

/-- The members of a fault. The words of files and databases are not the library's own, so they are left
out. -/
def members (e : Fault) : List (String × Json) :=
  let kind := [("error", Json.str e.kind)]
  match e with
  | io _ | storage _ => kind
  | _ => kind ++ [("message", .str e.message)] ++ e.details

def toJson (e : Fault) : Json :=
  .obj e.members

def toFullJson (e : Fault) : Json :=
  .obj (e.members ++ [("display", .str e.message), ("rate_limited", .bool e.isRateLimited),
    ("cancelled", .bool e.isCancelled), ("transient", .bool e.isTransient),
    ("provider", .ofOption .str e.provider?),
    ("retry_after", .ofOption (fun w => .ofNat w.millis) e.retryAfter?)])

end Fault

/-- An outcome: a fault stands in the place of the value. -/
def Outcome.toJson {α : Type} (f : α → Json) : Outcome α → Json
  | .ok a => f a
  | .error e => e.toJson

end Utterance
