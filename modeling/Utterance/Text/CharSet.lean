import Utterance.Text.Hex

/-!
Sets of characters, kept as ranges of code points.

Large sets are written as tables: the lengths of the stretches outside and inside the set by turns, from
the first code point on, to the base sixteen.
-/

namespace Utterance

/-- A set of characters: the first and last code points of its ranges, in ascending order, with a gap
between each two. -/
structure CharSet where
  ranges : List (Nat × Nat)
  deriving DecidableEq

namespace CharSet

def last : Nat := 0x10ffff

def inRanges : List (Nat × Nat) → Nat → Bool
  | [], _ => false
  | (lo, hi) :: rest, n => if n < lo then false else n ≤ hi || inRanges rest n

def contains (s : CharSet) (c : Char) : Bool :=
  inRanges s.ranges c.toNat

def none : CharSet := ⟨[]⟩

def all : CharSet := ⟨[(0, last)]⟩

def range (lo hi : Nat) : CharSet := ⟨[(lo, hi)]⟩

def one (c : Char) : CharSet := range c.toNat c.toNat

/-- Ranges that are ascending by their first code points, joined where they touch or overlap; `lo` and `hi`
are the ends of the one before them. -/
def joinFrom (lo hi : Nat) : List (Nat × Nat) → List (Nat × Nat)
  | [] => [(lo, hi)]
  | (a, b) :: rest =>
    if a ≤ hi + 1 then joinFrom lo (max hi b) rest else (lo, hi) :: joinFrom a b rest

def ofAscending : List (Nat × Nat) → CharSet
  | [] => none
  | (a, b) :: rest => ⟨joinFrom a b rest⟩

def ofRanges (rs : List (Nat × Nat)) : CharSet :=
  ofAscending (rs.mergeSort fun a b => a.1 ≤ b.1)

def ofCodes (ns : List Nat) : CharSet :=
  ofRanges (ns.map fun n => (n, n))

def union (s t : CharSet) : CharSet :=
  ofAscending (s.ranges.merge t.ranges fun a b => a.1 ≤ b.1)

def unions (ss : List CharSet) : CharSet :=
  ofRanges (ss.flatMap ranges)

def common : List (Nat × Nat) → List (Nat × Nat) → List (Nat × Nat)
  | [], _ | _ :: _, [] => []
  | (a, b) :: xs, (c, d) :: ys =>
    let rest := if b < d then common xs ((c, d) :: ys) else common ((a, b) :: xs) ys
    if max a c ≤ min b d then (max a c, min b d) :: rest else rest
  termination_by xs ys => xs.length + ys.length

def inter (s t : CharSet) : CharSet :=
  ⟨common s.ranges t.ranges⟩

/-- The ranges between those of a list, from `n` on. -/
def gaps (n : Nat) : List (Nat × Nat) → List (Nat × Nat)
  | [] => if n ≤ last then [(n, last)] else []
  | (a, b) :: rest => if n < a then (n, a - 1) :: gaps (b + 1) rest else gaps (b + 1) rest

def compl (s : CharSet) : CharSet :=
  ⟨gaps 0 s.ranges⟩

def diff (s t : CharSet) : CharSet :=
  s.inter t.compl

def symDiff (s t : CharSet) : CharSet :=
  (s.union t).diff (s.inter t)

def isAscii (s : CharSet) : Bool :=
  s.ranges.getLast?.all (·.2 < 128)

def single? (s : CharSet) : Option Char :=
  match s.ranges with
  | [(a, b)] => if a = b then some (Char.ofNat a) else .none
  | _ => .none

/-- Numbers to the base sixteen between other characters; `n` is the one that is being read, and `before`
holds those in front of it, the latest first. -/
def numbersFrom (n : Option Nat) (before : List Nat) : List Char → List Nat
  | [] => (n.toList ++ before).reverse
  | c :: rest =>
    match Text.hexValue? c with
    | some d => numbersFrom (some (n.getD 0 * 16 + d)) before rest
    | .none => numbersFrom .none (n.toList ++ before) rest

def rangesFrom (n : Nat) : List Nat → List (Nat × Nat)
  | gap :: length :: rest => (n + gap, n + gap + length - 1) :: rangesFrom (n + gap + length) rest
  | _ => []

def ofTable (s : String) : CharSet :=
  ⟨rangesFrom 0 (numbersFrom .none [] s.toList)⟩

end CharSet

end Utterance
