import Utterance.Power

/-!
What can go wrong while a message is interpreted.

Each cause is a constructor; the words for it stand in `Fault.message` alone.
-/

namespace Utterance

/-- The most characters of a foreign text that a fault carries along. -/
def excerptLimit : Nat := 500

/-- The front of a text, marked when something was cut off. -/
def excerpt (s : String) : String :=
  if excerptLimit < s.length then String.ofList (s.toList.take excerptLimit) ++ "..." else s

structure Span where
  nanos : Nat
  deriving DecidableEq

def Span.ofMillis (n : Nat) : Span := ⟨n * 1000000⟩

def Span.millis (s : Span) : Nat := s.nanos / 1000000

def Span.ofSeconds (n : Nat) : Span := ⟨n * 1000000000⟩

def Span.seconds (s : Span) : Nat := s.nanos / 1000000000

/-- The most whole seconds that a span can hold. -/
def Span.maxSeconds : Nat := 2 ^ 64 - 1

/-- A number of nanoseconds, unless it is more than a span can hold. -/
def Span.ofNanos? (n : Nat) : Option Span :=
  let s : Span := ⟨n⟩
  if s.seconds ≤ Span.maxSeconds then some s else none

inductive Fault where
  /-- Settings are missing or make no sense. -/
  | config (text : String)
  /-- Neither settings nor environment name a provider. -/
  | noProvider
  /-- The context was cancelled or its time is over. -/
  | cancelled (reason : String)
  /-- A provider could not be reached, or broke off. -/
  | transport (provider text : String)
  /-- A provider asks for fewer requests. -/
  | rateLimited (provider : String) (retryAfter : Option Span) (text : String)
  /-- A provider refused the request for good. -/
  | provider (name : String) (status : Nat) (body : String)
  /-- A provider answered without text. -/
  | emptyResponse (provider : String)
  /-- A provider's answer could not be read. -/
  | decode (provider text body : String)
  /-- A reply holds no envelope. -/
  | parse (text : String)
  /-- A decoded structure misses a field or holds a wrong value. -/
  | validation (field text : String)
  /-- The kernel refused. -/
  | kernel (text : String)
  /-- There is no usable vector. -/
  | embedding (text : String)
  /-- A collaborator lacks this ability. -/
  | unsupported (text : String)
  /-- A file could not be read or written. -/
  | io (text : String)
  /-- The pattern database failed. -/
  | storage (text : String)
  deriving DecidableEq

namespace Fault

/-- A refusal with the front of the body it came with. -/
def ofStatus (name : String) (status : Nat) (body : String) : Fault :=
  .provider name status (excerpt body)

def ofBody (name text body : String) : Fault :=
  .decode name text (excerpt body)

def message : Fault → String
  | config text => "configuration error: " ++ text
  | noProvider => "no LLM provider configured: set a provider API key or select a CLI engine"
  | cancelled reason => "operation cancelled: " ++ reason
  | transport p text => p ++ " transport error: " ++ text
  | rateLimited p _ text => p ++ " rate limited: " ++ text
  | provider p status body => p ++ " returned status " ++ toString status ++ ": " ++ body
  | emptyResponse p => p ++ " returned an empty completion"
  | decode p text body => p ++ " response decode failed: " ++ text ++ " (body: " ++ body ++ ")"
  | parse text => "parse error: " ++ text
  | validation field text => "validation error on `" ++ field ++ "`: " ++ text
  | kernel text => "kernel error: " ++ text
  | embedding text => "embedding error: " ++ text
  | unsupported text => "unsupported capability: " ++ text
  | io text => "IO error: " ++ text
  | storage text => "storage error: " ++ text

def isRateLimited : Fault → Bool
  | rateLimited .. => true
  | _ => false

def isCancelled : Fault → Bool
  | cancelled _ => true
  | _ => false

/-- Whether the same request may succeed later. -/
def isTransient : Fault → Bool
  | transport .. | rateLimited .. => true
  | provider _ status _ => 500 ≤ status
  | _ => false

def provider? : Fault → Option String
  | transport p _ | rateLimited p _ _ | provider p _ _ | emptyResponse p | decode p _ _ => some p
  | _ => none

/-- How long to wait, when the provider said so. -/
def retryAfter? : Fault → Option Span
  | rateLimited _ wait _ => wait
  | _ => none

end Fault

abbrev Outcome (α : Type) := Except Fault α

end Utterance
