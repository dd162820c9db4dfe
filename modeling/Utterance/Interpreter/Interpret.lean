import Utterance.Focus
import Utterance.Interpreter.Question
import Utterance.Interpreter.Reply
import Utterance.Rule.Validation
import Utterance.Understanding.Derive
import Utterance.Understanding.Override

/-!
Interpreting a message.

The verb is decided for without a model at first. Then a model is asked, and asked again as long as rules
that it proposes are refused and attempts are left. If it fails, it is given a simpler task; and if
nothing that it says makes sense, the first decision stands. So every message is interpreted, unless
patience is lost.
-/

namespace Utterance

inductive Trial where
  | settled (r : Reading)
  /-- Some of the proposed rules were refused. -/
  | refused (r : Reading) (faults : List String)

/-- A message with what is known about it before a model is asked. -/
structure Matter where
  text : String
  history : List Turn
  corpus : Corpus
  decision : Decision

namespace Interpreter

variable {W : Type}

/-- Sends the pieces of a streamed response to where they are shown. -/
def present (t : Interpreter W) (pieces : List String) : Act W Unit :=
  t.display.elim (pure ()) fun display => display.change (· ++ pieces)

/-- The reply to a question as a stream, read to its end; nothing if no stream begins. -/
def askStream (t : Interpreter W) (watch : Watch W) (a : Ask) : Act W (Option String) :=
  match t.completer.stream? with
  | none => pure none
  | some stream => do
    match ← Act.recover ((stream watch a).map some) fun _ => pure none with
    | none => pure none
    | some s => do
      t.present s.surface
      return some (← Act.ofOutcome s.outcome).content

/-- The reply to a question, held to the schema if that is possible. -/
def askWhole (t : Interpreter W) (watch : Watch W) (a : Ask) : Act W String :=
  let plain := t.completer.complete watch { a with isThinking := false }
  match t.completer.structured? with
  | none => plain
  | some structured => do
    match ← (structured watch a).attempt with
    | .ok reply => pure reply
    | .error (.unsupported _) => plain
    | .error e => throw e

/-- The reply to a question; only the first attempt is streamed. -/
def ask (t : Interpreter W) (watch : Watch W) (a : Ask) (isFirst : Bool) : Act W String := do
  let streamed ←
    if isFirst && t.options.prefersStreaming then t.askStream watch a else pure none
  match streamed with
  | some reply => pure reply
  | none => t.askWhole watch a

def refusal? (t : Interpreter W) (watch : Watch W) (rule : String) : Act W (Option String) :=
  let check :=
    match t.kernel with
    | some kernel => watch.run (kernel.validate rule)
    | none => Act.ofOutcome (Rule.validateRule rule)
  Act.recover (do check; pure none) fun e => pure (some (rule ++ " => " ++ e.message))

/-- The proposed rules that are accepted, and the faults of the others. -/
def validate (t : Interpreter W) (watch : Watch W) (rules : List String) :
    Act W (List String × List String) := do
  let refusals ← rules.mapM (t.refusal? watch)
  let accepted := (rules.zip refusals).filter (·.2.isNone)
  pure (accepted.map Prod.fst, refusals.filterMap id)

/-- The intent when a model has failed: it is given a simpler task first. -/
def simplified (t : Interpreter W) (watch : Watch W) (m : Matter) : Act W Intent := do
  let question := Question.plain t.options m.history m.text
  let reply : Act W (Option String) :=
    (t.completer.complete watch ⟨Prompt.classifyInLine, question, false, false, false⟩).map some
  match (← reply.recover fun _ => pure none).bind (Reply.ofLine? m.corpus m.decision) with
  | some i => pure { i with ambiguity := i.ambiguity ++ ["simple classification"] }
  | none => pure (m.decision.intent m.text)

def judge (t : Interpreter W) (watch : Watch W) (m : Matter) (reply : String) : Act W Trial := do
  match Envelope.parse reply with
  | .error _ =>
    let intent := (Reply.ofLine? m.corpus m.decision reply).getD (m.decision.intent m.text)
    pure (.settled { intent })
  | .ok e => do
    let intent := Reply.ofEnvelope m.corpus m.decision m.text e
    let (updates, faults) ← t.validate watch e.control.updates
    let r : Reading := { intent, updates, understanding := e.control.understanding }
    pure (if faults.isEmpty then .settled r else .refused r faults)

def question (t : Interpreter W) (m : Matter) : Ask where
  system := Prompt.withVerbs t.options.task m.corpus
  user := Question.full t.options m.history m.decision m.text
  isThinking := t.options.isThinking

/-- One attempt at a message, after `attempt` ones, the last of which had faults. -/
def tryOnce (t : Interpreter W) (watch : Watch W) (m : Matter) (attempt : Nat)
    (faults : List String) : Act W Trial := do
  let a := t.question m
  let a := { a with user := Question.again attempt faults a.user }
  match ← (t.ask watch a (attempt = 0)).attempt with
  | .ok reply => t.judge watch m reply
  | .error e =>
    if e.isCancelled then throw e else return .settled { intent := ← t.simplified watch m }

/-- Attempts at a message until one is settled or none is left. -/
def tryAll (t : Interpreter W) (watch : Watch W) (m : Matter) (attempt : Nat)
    (faults : List String) : (left : Nat) → Act W Reading
  | 0 => do
    match ← t.tryOnce watch m attempt faults with
    | .settled r => pure r
    | .refused r faults => pure (r.doubted faults)
  | left + 1 => do
    match ← t.tryOnce watch m attempt faults with
    | .settled r => pure r
    | .refused _ faults => tryAll t watch m (attempt + 1) faults left

/-- What a message is read as, with so many attempts, one at the least. -/
def read (t : Interpreter W) (watch : Watch W) (text : String) (history : List Turn)
    (attempts : Nat) : Act W Reading := do
  let corpus ← t.verbs.value
  let decision ← Decision.make watch corpus t.classifier t.kernel text
  t.tryAll watch ⟨text, history, corpus, decision⟩ 0 [] (attempts - 1)

/-- Tells the kernel the intent in the place of the one before. -/
def record (t : Interpreter W) (watch : Watch W) (i : Intent) : Act W Unit :=
  match t.kernel with
  | some kernel =>
    if t.options.recordsIntent then do
      let retract : Act W Unit := do let _ ← watch.run (kernel.retract Intent.predicate)
      retract.recover fun _ => pure ()
      (watch.run (kernel.tell i.fact)).recover fun _ => pure ()
    else pure ()
  | none => pure ()

def interpret (t : Interpreter W) (watch : Watch W) (text : String) (history : List Turn)
    (attempts : Nat) : Act W Reading := do
  let r ← t.read watch text history attempts
  t.record watch r.intent
  pure r

def intent (t : Interpreter W) (watch : Watch W) (text : String) (history : List Turn) :
    Act W Intent := do
  return (← t.interpret watch text history t.options.attempts).intent

def understanding (t : Interpreter W) (watch : Watch W) (text : String) (history : List Turn) :
    Act W Understanding := do
  let r ← t.interpret watch text history t.options.attempts
  let shard := (((← t.verbs.value).get? r.intent.verb).map Verb.shard).getD ""
  let u := (Understanding.ofIntent r.intent text).withShard shard
  pure (r.understanding.elim u u.override)

def resolve (t : Interpreter W) (watch : Watch W) (reference : String) (candidates : List String) :
    Act W Focus := do
  watch.check
  match Focus.forced? reference candidates with
  | some f => pure f
  | none => do
    let question := Focus.question reference candidates
    let reply : Act W (Option String) :=
      (t.completer.complete watch ⟨Prompt.focus, question, false, false, false⟩).map some
    let found := (← reply.recover fun _ => pure none).bind (Focus.ofReply? reference candidates)
    pure (found.getD (Focus.lexical reference candidates))

end Interpreter

end Utterance
