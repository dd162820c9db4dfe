import Utterance.Http.Backoff
import Utterance.Http.Gate
import Utterance.Http.Message
import Utterance.Http.RetryAfter
import Utterance.Json.Reader
import Utterance.RateLimit

/-!
Exchanges with a provider's server.

A request is sent again after a while when the server cannot be reached, has failed, or asks for fewer
requests; any other refusal is final. A server that does not know the schema of the request gets the
request once more without it, and this uses up no retry.

The program breaks down where an answer, or the wait before a retry, asks for more time than a span can hold.
Then there is no outcome; everything that was done until then is done.
-/

namespace Utterance.Http

inductive SendError where
  /-- There cannot be such a request. -/
  | invalid
  /-- The server cannot be reached. -/
  | unreachable
  deriving DecidableEq

def SendError.message : SendError → String
  | invalid => "builder error"
  | unreachable => "<http error>"

structure Network (W : Type) where
  send : Request → StateM W (Except SendError Answer)
  /-- The text of a whole body. A mark at its front and the headers tell its character set, and how is for
  the library to know that reads it. -/
  text : Answer → String
  /-- Seconds since 1970. -/
  date : W → Int

namespace Network

variable {W : Type}

def unreachable : Network W where
  send _ := pure (.error .unreachable)
  text := Answer.plainText
  date _ := 0

/-- A network that takes no request that cannot be sent. -/
def strict (n : Network W) : Network W :=
  { n with send := fun r => if r.isValid then n.send r else pure (.error .invalid) }

end Network

/-- What an answer says about waiting, at the time `now`. -/
def Answer.wait (a : Answer) (now : Int) : Wait :=
  ((a.header? "retry-after").map (RetryAfter.read now)).getD .unstated

structure Channel (W : Type) where
  provider : String
  network : Network W
  gate : Part W Gate
  backoff : Backoff

inductive Attempt (α : Type) where
  | accepted (a : α)
  /-- For good. -/
  | refused (e : Fault)
  /-- Worth another attempt. -/
  | failed (e : Fault)
  /-- The server does not know the schema. -/
  | unknownSchema
  /-- The program breaks down: the server asks for a wait that is more than a span can hold. -/
  | crashed

def brokenText : String := "body read: <io error>"

def statusText (status : Nat) (body : String) : String :=
  "status " ++ toString status ++ ": " ++ excerpt body

namespace Channel

variable {W : Type}

/-- Sends a request, unless the caller loses patience meanwhile. -/
def send (c : Channel W) (watch : Watch W) (r : Request) : Act W (Except SendError Answer) := do
  watch.check
  let answer ← c.network.send r
  watch.check
  pure answer

/-- Reads a body; nothing if the connection breaks off. -/
def readBody (c : Channel W) (watch : Watch W) (a : Answer) : Act W (Option String) := do
  watch.check
  match a.ending with
  | .complete => pure (some (c.network.text a))
  | .broken => pure none
  | .never => watch.exhaust

/-- Judges the body of an answer that says that all went well. -/
def received (c : Channel W) : Option String → Attempt String
  | none => .failed (.transport c.provider brokenText)
  | some body =>
    match (Json.ofText? body).bind RateLimit.inPayload? with
    | some text => .failed (.rateLimited c.provider none ("error payload: " ++ text))
    | none => .accepted body

def bodyOf (c : Channel W) (watch : Watch W) (a : Answer) : Act W (Attempt String) :=
  return c.received (← c.readBody watch a)

def judge (c : Channel W) (withSchema : Bool) (wait : Option Span) (status : Nat) (isServerError : Bool)
    (body : String) {α : Type} : Attempt α :=
  if status = 400 && withSchema && RateLimit.mentionsSchema body then .unknownSchema
  else if status = 429 || RateLimit.isMarked body then
    .failed (.rateLimited c.provider wait (statusText status body))
  else if isServerError then .failed (.transport c.provider (statusText status body))
  else .refused (.ofStatus c.provider status body)

/-- Reads and judges an answer that does not say that all went well. What it says about waiting comes
first, whatever its status. -/
def decline {α : Type} (c : Channel W) (watch : Watch W) (withSchema : Bool) (a : Answer) :
    Act W (Attempt α) := do
  let wait := a.wait (c.network.date (← get))
  if wait = .beyond then pure .crashed
  else
    let body := (← c.readBody watch a).getD ""
    pure (c.judge withSchema wait.span? a.status a.isServerError body)

/-- What an attempt makes of what the network has returned; `accept` takes an answer that says that all
went well. -/
def judged {α : Type} (c : Channel W) (watch : Watch W) (accept : Answer → Act W (Attempt α))
    (withSchema : Bool) : Except SendError Answer → Act W (Attempt α)
  | .error e => pure (.failed (.transport c.provider e.message))
  | .ok a => if a.isSuccess then accept a else c.decline watch withSchema a

/-- Sends a request once, at the pace of the gate. -/
def attempt {α : Type} (c : Channel W) (watch : Watch W) (request : Bool → Request)
    (accept : Answer → Act W (Attempt α)) (withSchema : Bool) : Act W (Attempt α) := do
  Gate.pace c.gate watch
  c.judged watch accept withSchema (← c.send watch (request withSchema))

/-- What follows an attempt: `again` goes on where it is worth another one, `plainly` where the server
does not know the schema. A program that breaks down comes to nothing. -/
def follow {α : Type} (again : Fault → Act W (Option α)) (plainly : Act W (Option α)) :
    Attempt α → Act W (Option α)
  | .accepted a => pure (some a)
  | .refused e => throw e
  | .failed e => again e
  | .unknownSchema => plainly
  | .crashed => pure none

/-- Attempts until one is accepted or refused, or no retry is left; `plainly` goes on where the server
does not know the schema. The program breaks down where there is no wait before a retry. -/
def attempts {α : Type} (c : Channel W) (watch : Watch W) (once : Act W (Attempt α))
    (plainly : Nat → Act W (Option α)) : Nat → Act W (Option α)
  | 0 => once >>= follow throw (plainly 0)
  | left + 1 =>
    let again := do
      match c.backoff.delay (c.backoff.retries - left) with
      | none => pure none
      | some span =>
        watch.sleep span
        attempts c watch once plainly left
    once >>= follow (fun _ => again) (plainly (left + 1))

/-- All attempts at a request, with a schema at first if it has one; nothing if the program breaks down. -/
def deliver {α : Type} (c : Channel W) (watch : Watch W) (request : Bool → Request) (hasSchema : Bool)
    (accept : Answer → Act W (Attempt α)) : Act W (Option α) :=
  let once := c.attempt watch request accept
  let plainly := c.attempts watch (once false) fun _ => throw (.transport c.provider SendError.unreachable.message)
  if hasSchema then c.attempts watch (once true) plainly c.backoff.retries
  else plainly c.backoff.retries

def release (c : Channel W) (held : Bool) : Act W Unit :=
  if held then c.gate.change Gate.release else pure ()

/-- Carries an act out with a permit of the gate, and tells whether it holds one. -/
def permitted {α : Type} (c : Channel W) (watch : Watch W) (a : Act W α) : Act W (α × Bool) := do
  let held ← Gate.acquire c.gate watch
  match ← a.attempt with
  | .ok x => pure (x, held)
  | .error e => do
    c.release held
    throw e

/-- The body with which a server answers a request; nothing if the program breaks down. -/
def fetch (c : Channel W) (watch : Watch W) (request : Bool → Request) (hasSchema : Bool) :
    Act W (Option String) := do
  let (body, held) ← c.permitted watch (c.deliver watch request hasSchema (c.bodyOf watch))
  c.release held
  pure body

/-- The answer of a server before its body is read, and whether a permit is held for it; nothing if the
program breaks down, and then no permit is held. -/
def openAnswer (c : Channel W) (watch : Watch W) (request : Bool → Request) (hasSchema : Bool) :
    Act W (Option (Answer × Bool)) := do
  match ← c.permitted watch (c.deliver watch request hasSchema fun a => pure (.accepted a)) with
  | (some answer, held) => pure (some (answer, held))
  | (none, held) => do
    c.release held
    pure none

end Channel

/-- The fault in place of a breakdown, for acts that know no such end. Like the loss of patience it is
never made up for by other means. -/
def breakdown : Fault := .cancelled "panic"

/-- Goes on with what an act has come to, unless the program has broken down. -/
def orBreakdown {W α : Type} (a : Act W (Option α)) : Act W α := do
  match ← a with
  | some x => pure x
  | none => throw breakdown

end Utterance.Http
