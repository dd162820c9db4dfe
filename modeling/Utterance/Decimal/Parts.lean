import Utterance.Power

/-!
A double taken apart: its sign, and its magnitude as a whole number times a power of two.

All decimal text of this library is computed from these parts in whole numbers.
-/

namespace Utterance.Decimal

/-- What a double stands for: a finite one is `mantissa · 2 ^ exponent` with its sign. -/
inductive Parts where
  | nan
  | infinite (negative : Bool)
  | finite (negative : Bool) (mantissa : Nat) (exponent : Int)
  deriving DecidableEq

def parts (x : Float) : Parts :=
  let bits := x.toBits.toNat
  let negative := decide (2 ^ 63 ≤ bits)
  let exponent : Nat := bits / 2 ^ 52 % 2048
  let fraction := bits % 2 ^ 52
  if exponent = 2047 then
    if fraction = 0 then .infinite negative else .nan
  else if exponent = 0 then .finite negative fraction (-1074)
  else .finite negative (fraction + 2 ^ 52) ((exponent : Int) - 1075)

/-- `m · 2 ^ q` as a fraction of whole numbers. -/
def ratio (m : Nat) (q : Int) : Nat × Nat :=
  match q with
  | .ofNat n => (m * Nat.pow 2 n, 1)
  | .negSucc n => (m, Nat.pow 2 (n + 1))

/-- The quotient `num / den` rounded to a whole number; a half goes to the even neighbour. -/
def roundHalfEven (num den : Nat) : Nat :=
  let floor := num / den
  let twice := 2 * (num % den)
  if den < twice || (twice == den && floor % 2 == 1) then floor + 1 else floor

/-- The quotient `num / den` rounded to a whole number; a half goes away from zero. -/
def roundHalfUp (num den : Nat) : Nat :=
  (2 * num + den) / (2 * den)

def isWhole (x : Float) : Bool :=
  match parts x with
  | .finite _ m q => let (num, den) := ratio m q; num % den == 0
  | _ => false

/-- The whole part of a double, held inside `low` and `high`; zero where there is no number. -/
def clampToInt (low high : Int) (x : Float) : Int :=
  match parts x with
  | .nan => 0
  | .infinite negative => if negative then low else high
  | .finite negative m q =>
    let (num, den) := ratio m q
    let whole : Int := (num / den : Nat)
    max low (min high (if negative then -whole else whole))

/-- The whole part of a double as a signed word of 64 bits, held at its ends. -/
def toInt64 (x : Float) : Int :=
  clampToInt (-(2 ^ 63)) (2 ^ 63 - 1) x

/-- The whole number nearest to a double as a signed word of 64 bits; a half goes away from zero. -/
def nearestInt64 (x : Float) : Int :=
  match parts x with
  | .nan => 0
  | .infinite negative => if negative then -(2 ^ 63) else 2 ^ 63 - 1
  | .finite negative m q =>
    let (num, den) := ratio m q
    let n : Int := roundHalfUp num den
    max (-(2 ^ 63)) (min (2 ^ 63 - 1) (if negative then -n else n))

/-- A whole number as the nearest double. -/
def ofInt (n : Int) : Float :=
  match n with
  | .ofNat m => Float.ofScientific m false 0
  | .negSucc m => -(Float.ofScientific (m + 1) false 0)

end Utterance.Decimal
