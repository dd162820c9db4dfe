import Utterance.Pattern.Basic

/-!
Ranges of characters as ranges of their octets.

A range of code points is cut into pieces whose characters take the same number of octets and are all
strings that take one octet from each of a row of octet ranges.
-/

namespace Utterance.Pattern

abbrev OctetRange := Nat × Nat

/-- The octets of the character with a code. -/
def octetsOf (n : Nat) : List Nat :=
  if n < 0x80 then [n]
  else if n < 0x800 then [0xc0 + n / 0x40, 0x80 + n % 0x40]
  else if n < 0x10000 then [0xe0 + n / 0x1000, 0x80 + n / 0x40 % 0x40, 0x80 + n % 0x40]
  else [0xf0 + n / 0x40000, 0x80 + n / 0x1000 % 0x40, 0x80 + n / 0x40 % 0x40, 0x80 + n % 0x40]

/-- The pieces of a range that the bounds, after each of which a new piece begins, cut it into. -/
def cutAfter (lo hi : Nat) : List Nat → List (Nat × Nat)
  | [] => if lo ≤ hi then [(lo, hi)] else []
  | bound :: rest =>
    if lo ≤ bound && bound < hi then (lo, bound) :: cutAfter (bound + 1) hi rest
    else cutAfter lo hi rest

/-- The pieces of a range that begin and end at blocks of the given sizes, or lie inside one. -/
def cutBlocks (lo hi : Nat) : List Nat → List (Nat × Nat)
  | [] => [(lo, hi)]
  | size :: rest =>
    if lo / size = hi / size then [(lo, hi)]
    else
      let start := (lo + size - 1) / size * size
      let front := if lo < start then [(lo, start - 1)] else []
      if start / size = hi / size then front ++ [(start, hi)]
      else if (hi + 1) % size = 0 then front ++ cutBlocks start hi rest
      else
        let back := hi / size * size
        front ++ cutBlocks start (back - 1) rest ++ [(back, hi)]

/-- The pieces of a range: without the codes of no character, by the number of octets, and by blocks. -/
def cut (lo hi : Nat) : List (Nat × Nat) :=
  let parts := if lo < 0xe000 && 0xd7ff < hi then [(lo, 0xd7ff), (0xe000, hi)] else [(lo, hi)]
  (parts.flatMap fun (a, b) => cutAfter a b [0x7f, 0x7ff, 0xffff]).flatMap fun (a, b) =>
    if b < 0x80 then [(a, b)] else cutBlocks a b [0x40, 0x1000, 0x40000]

/-- The rows of octet ranges that make up a set, in order. -/
def octetRows (s : CharSet) : List (List OctetRange) :=
  (s.ranges.flatMap fun (lo, hi) => cut lo hi).map fun (a, b) => (octetsOf a).zip (octetsOf b)

end Utterance.Pattern
