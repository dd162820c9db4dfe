import Utterance.Decimal.Double
import Utterance.Intent
import Utterance.Ranking

/-!
Matches of a message with known phrases, and the facts that tell the kernel about them.
-/

namespace Utterance.Semantic

inductive Origin where
  | embedded
  | learned
  deriving DecidableEq

structure Match where
  text : String
  verb : String
  target : String
  constraint : String
  /-- Kept as a word, which has a place in the order even if it is no number. -/
  similarity : Decimal.Double
  rank : Nat
  origin : Origin

namespace Match

/-- A match made better by `boost`, though not better than one. -/
def boosted (boost : Float) (m : Match) : Match :=
  let x := m.similarity.toFloat + boost
  { m with similarity := .ofFloat (if x < 1 then x else 1) }

/-- Whether two matches speak of the same phrase for the same verb. -/
def same (a b : Match) : Bool :=
  a.verb == b.verb && a.text == b.text

def key (m : Match) : Int :=
  m.similarity.key

/-- The matches ranked from one on, in the order they have. -/
def ranked (ms : List Match) : List Match :=
  ms.mapIdx fun i m => { m with rank := i + 1 }

/-- The first match of each phrase, until there are `cap` of them; `kept` holds those found so far,
latest first. -/
def firsts (cap : Nat) (kept : List Match) : List Match → List Match
  | [] => kept.reverse
  | m :: rest =>
    if kept.any (same m) then firsts cap kept rest
    else if kept.length + 1 = cap then (m :: kept).reverse
    else firsts cap (m :: kept) rest

/-- The best matches of two lists, the learned ones boosted: each phrase once, at most twice `k`, the
most similar first. For twice `k` to be a word of the machine, `k` has to be less than `2 ^ 63`. -/
def merge (embedded learned : List Match) (boost : Float) (k : Nat) : List Match :=
  ranked (firsts (2 * k) [] (Ranking.descending key (embedded ++ learned.map (boosted boost))))

/-- The matches that are at least so similar. -/
def atLeast (least : Float) (ms : List Match) : List Match :=
  ranked (ms.filter (least ≤ ·.similarity.toFloat))

def percent (m : Match) : Int :=
  Decimal.nearestInt64 (clampConfidence m.similarity.toFloat * 100)

def predicate : String := "semantic_match"

def fact (message : String) (m : Match) : Rule.Fact :=
  ⟨predicate, [.str (sanitize message), .str (sanitize m.text), .named (normalizeVerb m.verb),
    .str (sanitize m.target), .int m.rank, .int m.percent]⟩

end Match

end Utterance.Semantic
