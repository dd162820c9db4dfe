import Utterance.Decimal.Read
import Utterance.Intent

/-!
Exemplars: phrases that were misread once, with the requests that they stand for.

A model states an exemplar as a fact of five arguments, and so it is kept in a file. Both texts come
from outside, so the fact is read here strictly and written anew.
-/

namespace Utterance

/-- A phrase with what it stands for. The confidence is a fraction, or a percentage above one. -/
structure Exemplar where
  phrase : String
  verb : String
  target : String
  constraint : String
  confidence : Float

namespace Exemplar

def predicate : String := "learned_exemplar"

/-- The confidence as a whole percentage. -/
def percent (e : Exemplar) : Int :=
  if e.confidence ≤ 1 then
    Decimal.nearestInt64 ((if 0 < e.confidence then e.confidence else 0) * 100)
  else Decimal.nearestInt64 e.confidence

/-- The fact that states an exemplar, its confidence a whole percentage. -/
def fact (e : Exemplar) : Rule.Fact :=
  ⟨predicate, [.str (sanitize e.phrase), .named e.verb, .str (sanitize e.target),
    .str (sanitize e.constraint), .int e.percent]⟩

/-- Whether a walk over a text is inside quotes, and behind a backslash there. -/
inductive Quoting where
  | outside
  | inside
  | escaped
  deriving DecidableEq

def Quoting.next : Quoting → Char → Quoting
  | outside, c => if c == '"' then inside else outside
  | inside, c => if c == '\\' then escaped else if c == '"' then outside else inside
  | escaped, _ => inside

/-- The text up to the parenthesis that closes the first one; parentheses in quotes do not count. -/
def balanced? (depth : Nat) (q : Quoting) : List Char → Option (List Char)
  | [] => none
  | c :: rest =>
    if q = .outside && c == ')' then
      if depth ≤ 1 then some [c] else (balanced? (depth - 1) q rest).map (c :: ·)
    else
      let depth := if q = .outside && c == '(' then depth + 1 else depth
      (balanced? depth (q.next c) rest).map (c :: ·)

/-- What follows the predicate in the first complete fact of a text. -/
def find? : List Char → Option (List Char)
  | [] => none
  | c :: rest =>
    let here :=
      (Text.after? predicate.toList (c :: rest)).bind fun tail =>
        if tail.head? == some '(' then balanced? 0 .outside tail else none
    here <|> find? rest

/-- The first complete fact of a text; nothing if there is none. -/
def extract (s : String) : String :=
  match find? s.toList with
  | some tail => predicate ++ String.ofList tail ++ "."
  | none => ""

/-- The arguments of a fact, divided by commas outside of quotes. -/
def split (q : Quoting) : List Char → List (List Char)
  | [] => [[]]
  | c :: rest =>
    if q = .outside && c == ',' then [] :: split q rest
    else
      match split (q.next c) rest with
      | [] => [[c]]
      | part :: parts => (c :: part) :: parts

/-- The characters that a quoted text stands for; a backslash at the end stands for itself. -/
def unescape : List Char → List Char
  | [] => []
  | ['\\'] => ['\\']
  | '\\' :: 'n' :: rest => '\n' :: unescape rest
  | '\\' :: 't' :: rest => '\t' :: unescape rest
  | '\\' :: 'r' :: rest => '\r' :: unescape rest
  | '\\' :: c :: rest => c :: unescape rest
  | c :: rest => c :: unescape rest

/-- What stands between the quotes at both ends of a text. -/
def unquoted? : List Char → Option (List Char)
  | '"' :: rest => if rest.getLast? == some '"' then some rest.dropLast else none
  | _ => none

def unquote (name : String) (field : List Char) : Outcome String :=
  match unquoted? field with
  | some inner => .ok (String.ofList (unescape inner))
  | none =>
    .error (.validation name ("expected a quoted string, got " ++ String.ofList field))

def verbOf (field : List Char) : Outcome String :=
  match field with
  | '/' :: rest =>
    if rest.isEmpty || rest.contains '"' then refuse else .ok (String.ofList field)
  | _ => refuse
where
  /-- The fault of anything that is no verb. -/
  refuse : Outcome String :=
    .error (.validation "verb" ("expected an atom like /fix, got " ++ String.ofList field))

def confidenceOf (field : List Char) : Outcome Float :=
  match (Decimal.float? (String.ofList field)).filter fun x => x.isFinite && 0 ≤ x with
  | some x => .ok x
  | none => .error (.validation "confidence" ("not a number: " ++ String.ofList field))

/-- The text between the parentheses of a fact, which may end in points and blanks. -/
def inner? (text : String) : Option (List Char) := do
  let body := Text.trimEnd Text.isBlank (Text.trimEnd (· == '.') (Text.trim text.toList))
  let rest ← Text.after? predicate.toList body
  match Text.trimStart Text.isBlank rest with
  | '(' :: rest => if rest.getLast? == some ')' then some rest.dropLast else none
  | _ => none

def parse (text : String) : Outcome Exemplar := do
  match inner? text with
  | none => throw (.parse ("not a " ++ predicate ++ " fact: " ++ text))
  | some inner =>
    match (split .outside inner).map Text.trim with
    | [phrase, verb, target, constraint, confidence] =>
      let verb ← verbOf verb
      let confidence ← confidenceOf confidence
      pure ⟨← unquote "phrase" phrase, verb, ← unquote "target" target,
        ← unquote "constraint" constraint, confidence⟩
    | fields =>
      throw (.validation predicate ("expected 5 arguments, found " ++ toString fields.length))

/-- A stated fact written anew. -/
def normalize (text : String) : Outcome String :=
  (parse text).map fun e => e.fact.source

end Exemplar

end Utterance
