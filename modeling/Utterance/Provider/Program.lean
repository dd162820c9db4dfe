import Utterance.Act
import Utterance.Json.Reader
import Utterance.Provider.Anthropic
import Utterance.Provider.Selection
import Utterance.RateLimit

/-!
Tools: programs that are started for each question and print their answer.

A program that asks for fewer requests says so in its output or beside it, and this is told apart from
any other failure whatever its exit status.
-/

namespace Utterance

namespace Tool

def arguments (model prompt : String) : Tool → List String
  | claude => ["-p", prompt, "--output-format", "json", "--model", model]
  | codex => ["exec", "--skip-git-repo-check", "--model", model, prompt]

def limited (t : Tool) (text : String) : Fault :=
  .rateLimited t.name none (excerpt text)

/-- The fault `e`, unless the words beside the output ask for fewer requests. -/
def faultBeside (t : Tool) (beside : String) (e : Fault) : Fault :=
  if RateLimit.isMarked beside then t.limited beside else e

/-- The words of an error that is reported as a value. -/
def errorText (e : Json) : String :=
  (e.getText? "type").getD "" ++ ": " ++ (e.getText? "message").getD e.compact

/-- The text of a result: a string, or blocks of text. -/
def resultText (result : Option Json) : String :=
  match result with
  | some (.str s) => s
  | some j => String.join ((((j.get? "content").bind Json.items?).getD []).filterMap Anthropic.blockText?)
  | none => ""

/-- Whether a member is there and true. -/
def isSet (j : Json) (key : String) : Bool :=
  ((j.get? key).bind Json.bool?).getD false

/-- The answer in a value that the first tool prints. -/
def ofValue (beside : String) (j : Json) : Outcome String :=
  let t := claude
  let marked (text : String) := RateLimit.isMarked text || RateLimit.isMarked beside
  let text := resultText (j.get? "result")
  if isSet j "is_rate_limited" then .error (t.limited "is_rate_limited")
  else
    match (j.get? "error").filter fun e => !e.isNull with
    | some e =>
      let text := errorText e
      .error (if marked text then t.limited text else .transport t.name text)
    | none =>
      if isSet j "is_error" then
        .error (if marked text then t.limited text else .transport t.name (excerpt text))
      else if (Text.trimmed text).isEmpty then
        .error (t.faultBeside beside (.emptyResponse t.name))
      else .ok (Text.trimmed text)

def readClaude (output beside : String) : Outcome String :=
  let t := claude
  let output := Text.trimmed output
  if output.isEmpty then .error (t.faultBeside beside (.emptyResponse t.name))
  else
    match Json.ofText? output with
    | some j => ofValue beside j
    | none => .error (t.faultBeside beside (.ofBody t.name Json.unreadable output))

/-- The members that may hold an answer of the second tool. -/
def answerKeys : List String := ["result", "output", "text", "message"]

def pick? (j : Json) : Option String :=
  answerKeys.findSome? j.getText?

/-- The answer in the last line that is a value with one. -/
def lastAnswer? (output : String) : Option String :=
  ((Text.lines output.toList).filterMap fun line =>
    (Json.decode? (Text.trim line)).bind pick?).getLast?

/-- The answer in what the second tool prints: in a value, in a value on a line, or the text itself. -/
def readCodex (output beside : String) : Outcome String :=
  let t := codex
  let output := Text.trimmed output
  if output.isEmpty then .error (t.faultBeside beside (.emptyResponse t.name))
  else
    let found :=
      match Json.ofText? output with
      | some j => pick? j
      | none => lastAnswer? output
    let text := Text.trimmed (found.getD output)
    if text.isEmpty then .error (.emptyResponse t.name) else .ok text

/-- The answer in what a tool prints, and in what it prints beside. -/
def read : Tool → (output beside : String) → Outcome String
  | claude => readClaude
  | codex => readCodex

end Tool

inductive Run where
  /-- It has ended with this status. -/
  | ended (status : Nat) (output beside : String)
  /-- It goes on without an end. -/
  | endless

structure Programs (W : Type) where
  /-- Starts a program with arguments; if there is none, says why. -/
  start : String → List String → StateM W (Except String Run)

def Programs.missing {W : Type} : Programs W :=
  ⟨fun _ _ => pure (.error "No such file or directory (os error 2)")⟩

def Programs.zeroText : String := "nul byte found in provided data"

def Programs.longText : String := "Argument list too long (os error 7)"

/-- The most octets that an argument can take. -/
def Programs.maxArgument : Nat := 2 ^ 17 - 1

/-- Programs that take no text with a character that would end it early, and no argument that is too long. -/
def Programs.strict {W : Type} (p : Programs W) : Programs W :=
  ⟨fun binary arguments =>
    if (binary :: arguments).any (·.toList.contains '\x00') then pure (.error zeroText)
    else if arguments.any (maxArgument < ·.utf8ByteSize) then pure (.error longText)
    else p.start binary arguments⟩

structure ToolClient where
  tool : Tool
  binary : String
  timeout : Span

namespace ToolClient

def ofSelection (s : Selection) : Outcome (ToolClient × String) :=
  match s.engine with
  | .api => .error (.config "CLI client requires a CLI engine")
  | .tool t =>
    .ok (⟨t, s.binary.getD t.binary, s.timeout⟩, (s.model.filter (!·.isEmpty)).getD t.defaultModel)

/-- The prompt that a tool is given, which knows no system prompt. -/
def prompt (system user : String) : String :=
  if system.isEmpty then user else system ++ "\n\n" ++ user

/-- What a program that has ended comes to. One that failed is not believed, unless what it printed
makes sense or it asks for fewer requests. -/
def judge (c : ToolClient) (status : Nat) (output beside : String) : Outcome String :=
  match c.tool.read output beside with
  | .error e =>
    if status != 0 && !e.isRateLimited then
      .error (.transport c.tool.name (c.binary ++ " exited with exit status: " ++ toString status ++
        ": " ++ excerpt (Text.trimmed beside)))
    else .error e
  | .ok text => .ok text

def complete {W : Type} (c : ToolClient) (programs : Programs W) (watch : Watch W) (model : String)
    (system user : String) : Act W String := do
  let watch := watch.limited c.timeout (← get)
  match ← programs.strict.start c.binary (c.tool.arguments model (prompt system user)) with
  | .error reason =>
    throw (.transport c.tool.name ("failed to start " ++ c.binary ++ ": " ++ reason))
  | .ok run => do
    watch.check
    match run with
    | .ended status output beside => Act.ofOutcome (c.judge status output beside)
    | .endless => watch.exhaust

end ToolClient

end Utterance
