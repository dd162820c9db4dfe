import Utterance.Text.CharSet

/-!
Divisions of the code points: from the first one to the last, each belongs to a class that has a name.

A division is written as its stretches in order, each by the name of its class and its length to the base
sixteen, with blanks between them.
-/

namespace Utterance

/-- A division of the code points: the names and lengths of its stretches in order. -/
abbrev Partition := List (String × Nat)

namespace Partition

/-- Words between blanks, the latest first; `word` holds the letters of the one that is being read, the
latest first. -/
def wordsFrom (word : List Char) (before : List (List Char)) : List Char → List (List Char)
  | [] => if word.isEmpty then before else word.reverse :: before
  | c :: rest =>
    if c == ' ' || c == '\n' then
      wordsFrom [] (if word.isEmpty then before else word.reverse :: before) rest
    else wordsFrom (c :: word) before rest

def stretch (width : Nat) (word : List Char) : String × Nat :=
  (String.ofList (word.take width),
    (word.drop width).foldl (fun n c => n * 16 + (Text.hexValue? c).getD 0) 0)

def read (width : Nat) (s : String) : Partition :=
  (wordsFrom [] [] s.toList).foldl (fun p word => stretch width word :: p) []

/-- The ranges of the stretches whose names satisfy `p`, from `n` on. -/
def rangesFrom (p : String → Bool) (n : Nat) : Partition → List (Nat × Nat)
  | [] => []
  | (name, length) :: rest =>
    if p name then (n, n + length - 1) :: rangesFrom p (n + length) rest
    else rangesFrom p (n + length) rest

def select (d : Partition) (p : String → Bool) : CharSet :=
  .ofAscending (rangesFrom p 0 d)

end Partition

end Utterance
