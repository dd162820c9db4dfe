import Utterance.Pattern.Edition

/-!
Patterns over text: literal text, sets of characters, places, sequences, choices, repetitions and groups.

Patterns are put together by functions that keep them simple: `seqOf` joins neighbouring literals, `choiceOf`
joins single characters and sets to one set and takes out what all choices begin with, and `repeatOf`
repeats nothing that takes no room more than once.
-/

namespace Utterance

namespace Pattern

inductive WordPlace where
  | boundary
  | inside
  | start
  | finish
  | startHalf
  | finishHalf
  deriving DecidableEq

inductive Place where
  | start
  | finish
  | lineStart
  | lineEnd
  /-- The start of a line where a carriage return may end the line before it, with or without a feed. -/
  | returnLineStart
  | returnLineEnd
  /-- A place at a word, whose characters may be held to those below 128. -/
  | word (p : WordPlace) (isAscii : Bool)
  deriving DecidableEq

/-- Whether a place with a word on its left or right satisfies the condition. -/
def WordPlace.holds (left right : Bool) : WordPlace → Bool
  | boundary => left != right
  | inside => left == right
  | start => !left && right
  | finish => left && !right
  | startHalf => !left
  | finishHalf => !right

def Place.holds (p : Place) (before after : Option Char) : Bool :=
  match p with
  | start => before.isNone
  | finish => after.isNone
  | lineStart => before.isNone || before == some '\n'
  | lineEnd => after.isNone || after == some '\n'
  | returnLineStart =>
    before.isNone || before == some '\n' || (before == some '\r' && after != some '\n')
  | returnLineEnd =>
    after.isNone || after == some '\r' || (after == some '\n' && before != some '\r')
  | word p isAscii =>
    let inWord := (if isAscii then asciiWord else Pattern.word).contains
    p.holds (before.any inWord) (after.any inWord)

/-- How many octets the character with a code takes. -/
def octetCount (n : Nat) : Nat :=
  if n < 0x80 then 1 else if n < 0x800 then 2 else if n < 0x10000 then 3 else 4

end Pattern

inductive Pattern where
  | empty
  | literal (cs : List Char)
  /-- One character of a set, which may have none. -/
  | set (s : CharSet)
  | place (p : Pattern.Place)
  /-- At least `least` and at most `most` times, as often as possible unless lazy. -/
  | repeated (least : Nat) (most : Option Nat) (isLazy : Bool) (p : Pattern)
  /-- A part whose place is remembered under a number. -/
  | group (n : Nat) (p : Pattern)
  | seq (ps : List Pattern)
  /-- Of the choices that match, the first one is preferred. -/
  | choice (ps : List Pattern)

namespace Pattern

mutual

def alike : Pattern → Pattern → Bool
  | empty, empty => true
  | literal cs, literal ds => cs == ds
  | set s, set t => s == t
  | place p, place q => p == q
  | repeated m n z p, repeated m' n' z' q => m == m' && n == n' && z == z' && alike p q
  | group n p, group m q => n == m && alike p q
  | seq ps, seq qs => allAlike ps qs
  | choice ps, choice qs => allAlike ps qs
  | _, _ => false

def allAlike : List Pattern → List Pattern → Bool
  | [], [] => true
  | p :: ps, q :: qs => alike p q && allAlike ps qs
  | _, _ => false

end

mutual

/-- The least number of octets that a match takes; none where it is not known that there are matches. -/
def leastLength : Pattern → Option Nat
  | empty | place _ => some 0
  | literal cs => some (cs.map fun c => octetCount c.toNat).sum
  | set s => s.ranges.head?.map fun r => octetCount r.1
  | repeated least _ _ p => (leastLength p).map (· * least)
  | group _ p => leastLength p
  | seq ps => leastSum ps
  | choice ps => leastAmong ps

def leastSum : List Pattern → Option Nat
  | [] => some 0
  | p :: ps => do return (← leastLength p) + (← leastSum ps)

def leastAmong : List Pattern → Option Nat
  | [] => none
  | [p] => leastLength p
  | p :: ps => do return min (← leastLength p) (← leastAmong ps)

end

mutual

/-- The greatest number of octets that a match takes; none where no bound is known. -/
def mostLength : Pattern → Option Nat
  | empty | place _ => some 0
  | literal cs => some (cs.map fun c => octetCount c.toNat).sum
  | set s => s.ranges.getLast?.map fun r => octetCount r.2
  | repeated _ most _ p => do return (← mostLength p) * (← most)
  | group _ p => mostLength p
  | seq ps => mostSum ps
  | choice ps => mostAmong ps

def mostSum : List Pattern → Option Nat
  | [] => some 0
  | p :: ps => do return (← mostLength p) + (← mostSum ps)

def mostAmong : List Pattern → Option Nat
  | [] => none
  | [p] => mostLength p
  | p :: ps => do return max (← mostLength p) (← mostAmong ps)

end

/-- Whether all matches are known to take no room. -/
def isPlace (p : Pattern) : Bool :=
  mostLength p == some 0

mutual

/-- Whether matches are known to begin at the start of the text. -/
def isStarting : Pattern → Bool
  | place .start => true
  | repeated least _ _ p => 0 < least && isStarting p
  | group _ p => isStarting p
  | seq ps => firstStarting ps
  | choice ps => !ps.isEmpty && allStarting ps
  | _ => false

def firstStarting : List Pattern → Bool
  | [] => false
  | p :: ps => isStarting p || (isPlace p && firstStarting ps)

def allStarting : List Pattern → Bool
  | [] => true
  | p :: ps => isStarting p && allStarting ps

end

mutual

/-- Whether matches are known to end at the end of the text. -/
def isFinishing : Pattern → Bool
  | place .finish => true
  | repeated least _ _ p => 0 < least && isFinishing p
  | group _ p => isFinishing p
  | seq ps => lastFinishing ps
  | choice ps => !ps.isEmpty && allFinishing ps
  | _ => false

def lastFinishing : List Pattern → Bool
  | [] => false
  | p :: ps => lastFinishing ps || (isFinishing p && ps.all isPlace)

def allFinishing : List Pattern → Bool
  | [] => true
  | p :: ps => isFinishing p && allFinishing ps

end

/-- The pattern of a set; the only character of a set is a literal. -/
def ofSet (s : CharSet) : Pattern :=
  match s.single? with
  | some c => literal [c]
  | none => set s

def repeatOf (least : Nat) (most : Option Nat) (isLazy : Bool) (p : Pattern) : Pattern :=
  let (least, most) := if isPlace p then (min least 1, some (min (most.getD 1) 1)) else (least, most)
  if most == some 0 then empty
  else if least == 1 && most == some 1 then p
  else repeated least most isLazy p

def parts : Pattern → List Pattern
  | seq ps => ps
  | empty => []
  | p => [p]

/-- A part in front of a sequence, where literals are joined. -/
def joined : Pattern → List Pattern → List Pattern
  | literal cs, literal ds :: ps => literal (cs ++ ds) :: ps
  | p, ps => p :: ps

def seqOf (ps : List Pattern) : Pattern :=
  match (ps.flatMap parts).foldr joined [] with
  | [] => empty
  | [p] => p
  | ps => seq ps

def choices : Pattern → List Pattern
  | choice ps => ps
  | p => [p]

def code? : Pattern → Option Nat
  | literal [c] => some c.toNat
  | _ => none

def set? : Pattern → Option CharSet
  | set s => some s
  | _ => none

def seq? : Pattern → Option (List Pattern)
  | seq ps => some ps
  | _ => none

/-- How many patterns two lists begin with alike. -/
def commonCount : List Pattern → List Pattern → Nat
  | p :: ps, q :: qs => if alike p q then commonCount ps qs + 1 else 0
  | _, _ => 0

/-- What all sequences begin with alike, and the rest of each; none where they have no such beginning. -/
def commonFront? (seqs : List (List Pattern)) : Option (List Pattern × List (List Pattern)) :=
  match seqs with
  | [] => none
  | first :: others =>
    match others.foldl (fun n ps => min n (commonCount first ps)) first.length with
    | 0 => none
    | n => some (first.take n, seqs.map (·.drop n))

/-- Choices, from which fewer than `fuel` common beginnings are taken out. -/
def choiceFrom : Nat → List Pattern → Pattern
  | 0, ps => choice ps
  | fuel + 1, ps =>
    match ps.flatMap choices with
    | [] => set .none
    | [p] => p
    | ps =>
      match ps.mapM code? with
      | some ns => ofSet (.ofCodes ns)
      | none =>
        match ps.mapM set? with
        | some ss => ofSet (.unions ss)
        | none =>
          match (ps.mapM seq?).bind commonFront? with
          | some (front, rests) => seqOf (front ++ [choiceFrom fuel (rests.map seqOf)])
          | none => choice ps

mutual

def size : Pattern → Nat
  | repeated _ _ _ p | group _ p => size p + 1
  | seq ps | choice ps => sizes ps + 1
  | _ => 1

def sizes : List Pattern → Nat
  | [] => 0
  | p :: ps => size p + sizes ps

end

def choiceOf (ps : List Pattern) : Pattern :=
  choiceFrom (sizes ps + 1) ps

end Pattern

end Utterance
