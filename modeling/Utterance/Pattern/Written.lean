import Utterance.Pattern.Basic

/-!
Patterns as they are written, before the flags in them are taken into account.
-/

namespace Utterance.Pattern

/-- The classes that have a letter of their own. -/
inductive Shorthand where
  | digit
  | blank
  | word
  deriving DecidableEq

inductive PropertyQuery where
  | named (name : List Char)
  /-- By a property and its value, or any other value. -/
  | valued (name value : List Char) (isNegated : Bool)

/-- A character as it is written: it may be given as the number of an octet. -/
structure Letter where
  char : Char
  isOctet : Bool := false

inductive SetOperation where
  | inter
  | diff
  | symDiff
  deriving DecidableEq

inductive Bracketed where
  | nothing
  | letter (c : Letter)
  | range (lo hi : Letter)
  /-- A class of characters with codes below 128 by its name. -/
  | named (name : List Char) (isNegated : Bool)
  | property (q : PropertyQuery) (isNegated : Bool)
  | shorthand (k : Shorthand) (isNegated : Bool)
  /-- Brackets inside the brackets. -/
  | bracket (isNegated : Bool) (b : Bracketed)
  | union (items : List Bracketed)
  | operation (o : SetOperation) (left right : Bracketed)

inductive Flag where
  | caseless
  | multiLine
  | dotAll
  | swapGreed
  | wide
  | returns
  | verbose
  deriving DecidableEq

abbrev FlagChange := List (Flag × Bool)

inductive WrittenPlace where
  | lineStart
  | lineEnd
  | start
  | finish
  | word (p : WordPlace)

inductive GroupKind where
  | numbered (n : Nat)
  | plain (change : FlagChange)

inductive Written where
  | empty
  | flags (change : FlagChange)
  | letter (c : Letter)
  | dot
  | place (p : WrittenPlace)
  | property (q : PropertyQuery) (isNegated : Bool)
  | shorthand (k : Shorthand) (isNegated : Bool)
  | bracket (isNegated : Bool) (b : Bracketed)
  | repeated (least : Nat) (most : Option Nat) (isLazy : Bool) (w : Written)
  | group (k : GroupKind) (w : Written)
  | seq (ws : List Written)
  | choice (ws : List Written)

namespace Bracketed

def ofItems : List Bracketed → Bracketed
  | [] => nothing
  | [b] => b
  | bs => union bs

mutual

/-- How deep brackets, unions and operations are nested. -/
def depth : Bracketed → Nat
  | bracket _ b => depth b + 1
  | union bs => depths bs + 1
  | operation _ a b => max (depth a) (depth b) + 1
  | _ => 0

def depths : List Bracketed → Nat
  | [] => 0
  | b :: bs => max (depth b) (depths bs)

end

end Bracketed

namespace Written

def ofParts : List Written → Written
  | [] => empty
  | [w] => w
  | ws => seq ws

def ofChoices : List Written → Written
  | [] => empty
  | [w] => w
  | ws => choice ws

mutual

def depth : Written → Nat
  | bracket _ b => b.depth + 1
  | repeated _ _ _ w | group _ w => depth w + 1
  | seq ws | choice ws => depths ws + 1
  | _ => 0

def depths : List Written → Nat
  | [] => 0
  | w :: ws => max (depth w) (depths ws)

end

def maxDepth : Nat := 250

end Written

end Utterance.Pattern
