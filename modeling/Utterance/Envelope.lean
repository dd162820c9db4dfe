import Utterance.Decimal.Read
import Utterance.Intent
import Utterance.Json.Printer
import Utterance.Json.Reader
import Utterance.Text.Case
import Utterance.Text.Split

/-!
The envelope of a model reply: a control packet for the program and a response for the reader.

A reply may wrap the envelope in a code fence, put prose around it, or hold several objects. The
object at the first brace is tried, then the one inside the fence, then the last complete object of
the reply; the first that is an envelope counts.
-/

namespace Utterance

structure Classification where
  category : String
  verb : String
  target : String
  constraint : String
  confidence : Float

/-- What a model says about an error of its own. -/
structure SelfCorrection where
  triggered : Bool
  hypothesis : String

/-- The half of a reply that is never shown. -/
structure ControlPacket where
  classification : Classification
  updates : List String
  memoryOperations : List MemoryOperation
  selfCorrection : Option SelfCorrection
  understanding : Option Json

structure Envelope where
  control : ControlPacket
  surface : String

def MemoryOperation.toJson (m : MemoryOperation) : Json :=
  .obj [("op", .str m.op), ("key", .str m.key), ("value", .str m.value)]

def Classification.toJson (c : Classification) : Json :=
  .obj [("category", .str c.category), ("verb", .str c.verb), ("target", .str c.target),
    ("constraint", .str c.constraint), ("confidence", .float c.confidence)]

def SelfCorrection.toJson (s : SelfCorrection) : Json :=
  .obj [("triggered", .bool s.triggered), ("hypothesis", .str s.hypothesis)]

/-- A control packet as an object; what is absent has no member. -/
def ControlPacket.toJson (p : ControlPacket) : Json :=
  .obj ([("intent_classification", p.classification.toJson),
      ("mangle_updates", .ofTexts p.updates),
      ("memory_operations", .arr (p.memoryOperations.map MemoryOperation.toJson))] ++
    (p.selfCorrection.map fun s => ("self_correction", s.toJson)).toList ++
    (p.understanding.map fun u => ("understanding", u)).toList)

/-- An envelope as an object, the control packet first. -/
def Envelope.toJson (e : Envelope) : Json :=
  .obj [("control_packet", e.control.toJson), ("surface_response", .str e.surface)]

namespace Json

mutual

/-- A value with the keys of all its objects in lower case. Of keys that become equal, the first gives
the place and the last the value. -/
def lowerKeys : Json → Json
  | .arr xs => .arr (lowerItems xs)
  | .obj ms => .obj (mergeMembers (lowerMembers ms))
  | j => j

def lowerItems : List Json → List Json
  | [] => []
  | x :: xs => lowerKeys x :: lowerItems xs

def lowerMembers : List (String × Json) → List (String × Json)
  | [] => []
  | (k, v) :: ms => (Text.lowered k, lowerKeys v) :: lowerMembers ms

end

end Json

namespace Envelope

/-- A field as text: a string without outer blanks, nothing for nothing, else the JSON text. -/
def fieldText : Option Json → String
  | some (.str s) => Text.trimmed s
  | none | some .null => ""
  | some j => j.compact

/-- A confidence inside zero and one; above one and up to a hundred it is a percentage. -/
def normalizeConfidence (x : Float) : Float :=
  if 1 < x && x ≤ 100 then clampConfidence (x / 100) else clampConfidence x

/-- A confidence as a number, or as a text that may end in percent signs. -/
def fieldConfidence : Option Json → Float
  | some (.int n) => normalizeConfidence (Decimal.ofInt n)
  | some (.float x) => normalizeConfidence x
  | some (.str s) =>
    let digits := Text.trimEnd (· == '%') (Text.trim s.toList)
    normalizeConfidence ((Decimal.float? (String.ofList digits)).getD 0)
  | _ => normalizeConfidence 0

def classification (j : Json) : Outcome Classification :=
  if j.isObject then
    .ok ⟨fieldText (j.get? "category"), fieldText (j.get? "verb"), fieldText (j.get? "target"),
      fieldText (j.get? "constraint"), fieldConfidence (j.get? "confidence")⟩
  else .error (.validation "intent_classification" "must be an object")

/-- The proposed rules: the texts of a list, or one text, blank ones left out. -/
def updates : Option Json → List String
  | some (.arr xs) => ((xs.filterMap Json.text?).map Text.trimmed).filter (!·.isEmpty)
  | some (.str s) => [Text.trimmed s].filter (!·.isEmpty)
  | _ => []

/-- The memory operations: the objects of a list that name one. -/
def memoryOperations : Option Json → List MemoryOperation
  | some (.arr xs) =>
    ((xs.filter Json.isObject).map fun j =>
      ⟨fieldText (j.get? "op"), fieldText (j.get? "key"), fieldText (j.get? "value")⟩).filter
        (!·.op.isEmpty)
  | _ => []

def controlPacket (j : Json) : Outcome ControlPacket := do
  if !j.isObject then throw (.validation "control_packet" "must be an object")
  match j.get? "intent_classification" with
  | none => throw (.validation "control_packet.intent_classification" "missing")
  | some c =>
    let correction := ((j.get? "self_correction").filter Json.isObject).map fun s =>
      ⟨((s.get? "triggered").bind Json.bool?).getD false, fieldText (s.get? "hypothesis")⟩
    pure ⟨← classification c, updates (j.get? "mangle_updates"),
      memoryOperations (j.get? "memory_operations"), correction,
      (j.get? "understanding").filter Json.isObject⟩

/-- The envelope in a value whose keys are in lower case. -/
def ofLower (j : Json) : Outcome Envelope := do
  if !j.isObject then throw (.validation "envelope" "must be a JSON object")
  match j.get? "surface_response" with
  | none => throw (.validation "surface_response" "missing")
  | some (.str surface) =>
    match j.get? "control_packet" with
    | none => throw (.validation "control_packet" "missing")
    | some c => pure ⟨← controlPacket c, surface⟩
  | some _ => throw (.validation "surface_response" "must be a string")

/-- The envelope in a value; the case of keys does not matter. -/
def ofJson (j : Json) : Outcome Envelope :=
  ofLower j.lowerKeys

def fence : List Char := ['`', '`', '`']

/-- What follows the opening of a fence: no tag, no blanks and no line end. -/
def skipTag (cs : List Char) : List Char :=
  let tag (c : Char) := c.isAlphanum || c == '_' || c == '-'
  let rest := (cs.dropWhile tag).dropWhile fun c => c == ' ' || c == '\t'
  let rest := if rest.head? == some '\r' then rest.drop 1 else rest
  if rest.head? == some '\n' then rest.drop 1 else rest

/-- The content of the first fence that is closed. -/
def fenced? (cs : List Char) : Option (List Char) :=
  (Text.cut? fence cs).bind fun (_, rest) => (Text.cut? fence (skipTag rest)).map Prod.fst

/-- A reply without its code fence: the content of the first fence, or the text without fence marks. -/
def stripFences (s : String) : String :=
  let cs := s.toList
  match fenced? cs with
  | some inner => String.ofList (Text.trim inner)
  | none => String.ofList (Text.trim (Text.without fence (Text.without (fence ++ "json".toList) cs)))

def noObject : String := "no JSON object found"

def firstObject (s : String) : Except String Json :=
  match s.toList.dropWhile (· != '{') with
  | [] => .error noObject
  | cs =>
    match Json.decodeFirst? cs with
    | some (j, _) => .ok j
    | none => .error Json.unreadable

/-- The state of a walk over a text that looks for complete objects: how many braces are open, whether
the walk is inside a string or behind a backslash there, and the object so far, latest first. -/
structure Span where
  depth : Nat := 0
  inString : Bool := false
  escaped : Bool := false
  sofar : List Char := []

/-- One character: the next state, and the object that ends with it. -/
def Span.step (s : Span) (c : Char) : Span × Option (List Char) :=
  let keep : Span := { s with sofar := c :: s.sofar }
  if s.inString then
    if s.escaped then ({ keep with escaped := false }, none)
    else if c == '\\' then ({ keep with escaped := true }, none)
    else if c == '"' then ({ keep with inString := false }, none)
    else (keep, none)
  else if c == '"' then
    (if s.depth = 0 then s else { keep with inString := true }, none)
  else if c == '{' then ({ keep with depth := s.depth + 1 }, none)
  else if c == '}' then
    if s.depth = 0 then (s, none)
    else if s.depth = 1 then ({}, some (c :: s.sofar).reverse)
    else ({ keep with depth := s.depth - 1 }, none)
  else (if s.depth = 0 then s else keep, none)

/-- The complete objects of a text, in their order. -/
def spans (s : Span) : List Char → List (List Char)
  | [] => []
  | c :: rest =>
    match s.step c with
    | (s, none) => spans s rest
    | (s, some found) => found :: spans s rest

/-- The last complete object of a text that can be read, or nothing. -/
def lastObject (s : String) : String :=
  match (spans {} s.toList).reverse.find? fun cs => (Json.decode? cs).isSome with
  | some cs => String.ofList cs
  | none => ""

/-- The first envelope among the readings of a reply; of refused readings the last one gives the
fault, and a text that cannot be read only if nothing was refused before. -/
def choose (fault : Option Fault) : List (Except String Json) → Outcome Envelope
  | [] => .error (fault.getD (.parse noObject))
  | .ok j :: rest =>
    match ofJson j with
    | .ok e => .ok e
    | .error e => choose (some e) rest
  | .error text :: rest => choose (fault <|> some (.parse text)) rest

/-- The readings of a reply, in the order in which they are tried. -/
def readings (s : String) : List (Except String Json) :=
  let stripped := stripFences s
  let last := lastObject s
  [firstObject s] ++ (if stripped = s then [] else [firstObject stripped]) ++
    (if last.isEmpty then []
     else [match Json.ofText? last with
       | some j => .ok j
       | none => .error Json.unreadable])

def parse (s : String) : Outcome Envelope :=
  choose none (readings s)

end Envelope

end Utterance
