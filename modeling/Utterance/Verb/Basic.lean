import Utterance.Intent
import Utterance.Pattern
import Utterance.Text.Case
import Utterance.Text.Split

/-!
Verbs, and how a message matches one.

A verb is known by phrases that a message may contain and by patterns that it may match. A pattern
says more than a phrase, and a longer phrase more than a shorter one.
-/

namespace Utterance

/-- A verb with all that it is known by. -/
structure Verb where
  name : String
  category : Category
  priority : Int
  shard : String
  /-- Phrases in lower case, each one once. -/
  synonyms : List String := []
  patterns : List Pattern.Compiled := []

inductive Matched where
  | pattern
  /-- Through a synonym of this many characters. -/
  | synonym (length : Nat)

namespace Verb

def named (name : String) (category : Category) (priority : Int) (shard : String) : Verb :=
  { name := normalizeVerb name, category, priority, shard }

/-- The verb with one more phrase, unless that is blank or there already. -/
def addSynonym (v : Verb) (phrase : String) : Verb :=
  let phrase := Text.lowered (Text.trimmed phrase)
  if phrase.isEmpty || v.synonyms.contains phrase then v
  else { v with synonyms := v.synonyms ++ [phrase] }

/-- The most octets that the pattern of a verb may take. -/
def patternLimit : Nat := 2 ^ 20

def badPattern : String := "<regex error>"

/-- The verb with one more pattern, in which case does not matter. -/
def addPattern (v : Verb) (source : String) : Outcome Verb :=
  match Pattern.compile? { caseless := true } patternLimit source with
  | some p => .ok { v with patterns := v.patterns ++ [p] }
  | none => .error (.validation "verb_pattern" badPattern)

def matched? (v : Verb) (message : String) : Option Matched :=
  if v.patterns.any (·.program.matches message) then some .pattern
  else
    (((v.synonyms.filter (Text.contains message)).map String.length).max?).map .synonym

end Verb

structure Candidate where
  verb : String
  category : Category
  priority : Int
  shard : String
  matched : Matched

namespace Candidate

/-- How well a candidate matches, between three tenths and one. -/
def score (c : Candidate) : Float :=
  let p := Decimal.ofInt c.priority
  let base :=
    match c.matched with
    | .pattern => 50 + p / 10
    | .synonym length => 20 + Decimal.ofInt length / 2 + p / 20
  let x := (base + p / 50) / 100
  if x < 0.3 then 0.3 else if 1 < x then 1 else x

/-- The better of a best candidate so far and the next one; the earlier wins a tie. -/
def better (best : Option (Candidate × Float)) (c : Candidate) : Option (Candidate × Float) :=
  match best with
  | none => some (c, c.score)
  | some (b, s) => if s < c.score then some (c, c.score) else some (b, s)

def best? (cs : List Candidate) : Option (Candidate × Float) :=
  cs.foldl better none

end Candidate

end Utterance
