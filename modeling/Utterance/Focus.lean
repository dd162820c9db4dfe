import Utterance.Envelope
import Utterance.Text.Letter

/-!
What a vague reference means among some candidate paths.
-/

namespace Utterance

/-- What a reference was resolved to, if to anything. -/
structure Focus where
  reference : String
  selected : Option String
  /-- Out of a hundred. -/
  confidence : Nat
  reasoning : String

namespace Focus

def stopWords : List String :=
  ["the", "that", "this", "in", "of", "to", "and", "my", "it", "one", "thing"]

/-- The words of a reference that say something: in lower case, and of two octets or more. -/
def terms (reference : String) : List String :=
  let parts := Text.splitWhere (fun c => !(Text.isAlphanumeric c || c == '_'))
    (Text.lower reference.toList)
  (parts.map String.ofList).filter fun t => 2 ≤ t.utf8ByteSize && !stopWords.contains t

/-- The last name of a path, unless that leads upward. -/
def lastName (path : List Char) : List Char :=
  let names := (Text.splitWhere (· == '/') path).filter fun n => !n.isEmpty && n != ['.']
  let last := names.getLast?.getD []
  if last == ['.', '.'] then [] else last

/-- The last name of a path without its ending. A name that only begins with a point has none. -/
def stem (path : String) : String :=
  let name := lastName path.toList
  let ending := name.reverse.takeWhile (· != '.')
  let front := (name.reverse.drop (ending.length + 1)).reverse
  String.ofList (if front.isEmpty then name else front)

/-- How many terms a path shares; one that is the stem of the path counts twice. -/
def score (terms : List String) (path : String) : Nat :=
  let path := Text.lowered path
  let stem := stem path
  (terms.map fun t => (if Text.contains path t then 1 else 0) + (if stem == t then 1 else 0)).foldl (· + ·) 0

/-- The better of a best path so far and the next one; the earlier wins a tie. -/
def better (terms : List String) (best : Option (String × Nat)) (path : String) :
    Option (String × Nat) :=
  let n := score terms path
  if best.all (·.2 < n) && 0 < n then some (path, n) else best

/-- The first path of the highest score, if one scores at all. -/
def best? (reference : String) (candidates : List String) : Option (String × Nat) :=
  candidates.foldl (better (terms reference)) none

/-- The most confidence in what was found by words alone. -/
def lexicalCap : Nat := 50

def lexical (reference : String) (candidates : List String) : Focus :=
  match best? reference candidates with
  | some (path, n) =>
    ⟨reference, some path, min (20 + 10 * n) lexicalCap,
      "lexical match on " ++ toString n ++ " term(s)"⟩
  | none => ⟨reference, none, 0, "no candidate shares a term with the reference"⟩

def singleConfidence : Nat := 90

/-- The outcome where no choice is left. -/
def forced? (reference : String) : List String → Option Focus
  | [] => some ⟨reference, none, 0, "no candidates"⟩
  | [only] => some ⟨reference, some only, singleConfidence, "single candidate"⟩
  | _ => none

def question (reference : String) (candidates : List String) : String :=
  "Reference: " ++ reference ++ "\nCandidates:\n" ++
    String.join (candidates.map fun c => "- " ++ c ++ "\n")

/-- A confidence out of a hundred; one between zero and one is a fraction. -/
def percent (x : Float) : Nat :=
  let x := if 0 < x && x ≤ 1 then x * 100 else x
  (Decimal.nearestInt64 (if x < 0 then 0 else if 100 < x then 100 else x)).toNat

def number? : Json → Option Float
  | .int n => some (Decimal.ofInt n)
  | .float x => some x
  | _ => none

/-- The outcome in a model's reply, if that names a candidate. A missing member is empty or zero, one of
the wrong kind spoils the reply. -/
def ofReply? (reference : String) (candidates : List String) (reply : String) : Option Focus := do
  let j := (← Json.ofText? (Envelope.lastObject reply)).lowerKeys
  let selected ← (j.get? "selected").elim (some "") Json.text?
  let confidence ← (j.get? "confidence").elim (some 0) number?
  let reasoning ← (j.get? "reasoning").elim (some "") Json.text?
  let selected := Text.trimmed selected
  if candidates.contains selected then
    pure ⟨reference, some selected, percent confidence, reasoning⟩
  else none

end Focus

end Utterance
