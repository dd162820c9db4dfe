import Utterance.Fault
import Utterance.Rule.Term
import Utterance.Text.Shown

/-!
The meaning of one message: what kind of request it is, which verb it asks for, and on what.
-/

namespace Utterance

inductive Category where
  | query
  | mutation
  | instruction
  deriving DecidableEq

namespace Category

def write : Category → String
  | query => "/query"
  | mutation => "/mutation"
  | instruction => "/instruction"

/-- A category in any case, with or without a slash, between blanks. -/
def parse? (s : String) : Option Category :=
  let name := (Text.trimStart (· == '/') (Text.trim s.toList)).map Char.toLower
  if name == "query".toList then some query
  else if name == "mutation".toList then some mutation
  else if name == "instruction".toList then some instruction
  else none

/-- A category, or the fault that names the text. -/
def read (s : String) : Outcome Category :=
  match parse? s with
  | some c => .ok c
  | none => .error (.validation "category" ("unknown category " ++ Text.shown s))

end Category

/-- The verb that stands for a message nothing better is known of. -/
def fallbackVerb : String := "/explain"

def fallbackConfidence : Float := 0.3

def noTarget : String := "none"

/-- A verb in small letters behind a slash; nothing stays nothing. -/
def normalizeVerb (s : String) : String :=
  let v := (Text.trim s.toList).map Char.toLower
  match v with
  | [] => ""
  | '/' :: _ => String.ofList v
  | _ => String.ofList ('/' :: v)

/-- A confidence held inside zero and one; what is no number counts as zero. -/
def clampConfidence (x : Float) : Float :=
  if x.isNaN then 0 else if x < 0 then 0 else if 1 < x then 1 else x

/-- The most characters of a text argument of a fact. -/
def maxArgument : Nat := 2048

/-- Whether a character may stand in a text argument: no control but the tab and the line ends. -/
def isArgumentChar (c : Char) : Bool :=
  c == '\n' || c == '\r' || c == '\t' || (32 ≤ c.toNat && c.toNat ≠ 127)

/-- A text as an argument of a fact: without controls, and not too long. -/
def sanitize (s : String) : String :=
  String.ofList ((s.toList.filter isArgumentChar).take maxArgument)

def verbName (verb : String) : String :=
  let name := (Text.trimStart (· == '/') (normalizeVerb verb).toList).filter
    fun c => c.isAlphanum || c == '_'
  if name.isEmpty then fallbackVerb else String.ofList ('/' :: name)

structure MemoryOperation where
  op : String
  key : String
  value : String
  deriving DecidableEq

structure Intent where
  category : Category
  verb : String
  target : String
  constraint : String
  confidence : Float
  response : String
  ambiguity : List String
  memoryOperations : List MemoryOperation

namespace Intent

def fallback : Intent :=
  ⟨.query, fallbackVerb, noTarget, "", fallbackConfidence, "", [], []⟩

def hasTarget (i : Intent) : Bool :=
  !i.target.isEmpty && i.target != noTarget

/-- What is said to the user when no model has answered. -/
def acknowledgement (i : Intent) : String :=
  let name := String.ofList (Text.trimStart (· == '/') i.verb.toList)
  if i.verb == "/greet" then "Hello! What would you like to work on?"
  else if i.verb == "/converse" then "Happy to help. What's next?"
  else if i.hasTarget then "Understood: " ++ name ++ " " ++ i.target ++ "."
  else "Understood: " ++ name ++ "."

def predicate : String := "user_intent"

def fact (i : Intent) : Rule.Fact :=
  ⟨predicate, [.named "current_intent", .named i.category.write, .named (verbName i.verb),
    .str (sanitize i.target), .str (sanitize i.constraint)]⟩

end Intent

end Utterance
