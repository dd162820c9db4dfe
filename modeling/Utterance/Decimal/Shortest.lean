import Utterance.Decimal.Parts

/-!
The shortest decimal that reads back as a given double, and of those the nearest.

The doubles that round to `m · 2 ^ q` fill an interval whose ends belong to it when `m` is even. For
one digit, two digits and so on, the two neighbours of the value on that decimal grid are tried, so
the first grid with a hit has the fewest digits.
-/

namespace Utterance.Decimal

/-- Some digits as one number and the place of the decimal point: `0.digits · 10 ^ point`. -/
structure Digits where
  digits : List Char
  point : Int
  deriving DecidableEq

/-- Digits without the zeros at their end. -/
def Digits.ofNat (n : Nat) (point : Int) : Digits :=
  ⟨((Nat.toDigits 10 n).reverse.dropWhile (· == '0')).reverse, point⟩

/-- How often `num / den` can be multiplied by ten before it reaches one. -/
def leadingZeros (fuel num den : Nat) : Nat :=
  match fuel with
  | 0 => 0
  | fuel + 1 => if den ≤ num then 0 else leadingZeros fuel (num * 10) den + 1

/-- The least `k` with `num / den < 10 ^ k`. -/
def magnitude (num den : Nat) : Int :=
  if den ≤ num then ((Nat.toDigits 10 (num / den)).length : Int)
  else 1 - (leadingZeros 400 num den : Int)

/-- The interval of values that round to a double, as numerators over one denominator. -/
structure Interval where
  low : Nat
  value : Nat
  high : Nat
  den : Nat
  closed : Bool

/-- The interval around `m · 2 ^ q`. Below a power of two the neighbours are twice as dense. -/
def interval (m : Nat) (q : Int) : Interval :=
  let (unit, den) := ratio 1 q
  let down := if m = 2 ^ 52 ∧ q > -1074 then 1 else 2
  ⟨(4 * m - down) * unit, 4 * m * unit, (4 * m + 2) * unit, 4 * den, m % 2 == 0⟩

def Interval.contains (i : Interval) (num den : Nat) : Bool :=
  let v := num * i.den
  if i.closed then i.low * den ≤ v && v ≤ i.high * den
  else i.low * den < v && v < i.high * den

/-- Where a half goes that lies between two neighbours on a grid. -/
inductive Tie where
  | toEven
  | up

def Tie.rises : Tie → (floor : Nat) → Bool
  | toEven, floor => floor % 2 == 1
  | up, _ => true

/-- The hit on the grid of multiples of `10 ^ place`: the neighbour below or above the value, and of the
two the nearer one. -/
def Interval.hit? (i : Interval) (tie : Tie) (place : Int) : Option Nat :=
  let (up, down) : Nat × Nat :=
    match place with
    | .ofNat n => (Nat.pow 10 n, 1)
    | .negSucc n => (1, Nat.pow 10 (n + 1))
  let floor := i.value * down / (i.den * up)
  let rest := i.value * down % (i.den * up)
  let below := i.contains (floor * up) down
  let above := i.contains ((floor + 1) * up) down
  match below, above with
  | true, true =>
    let twice := 2 * rest
    if i.den * up < twice || (twice == i.den * up && tie.rises floor) then some (floor + 1)
    else some floor
  | true, false => some floor
  | false, true => some (floor + 1)
  | false, false => none

/-- The first grid with a hit, from `n` digits on. -/
def Interval.search (i : Interval) (tie : Tie) (k : Int) : Nat → Nat → Digits
  | 0, n => Digits.ofNat ((i.hit? tie (k - n)).getD 0) k
  | fuel + 1, n =>
    match i.hit? tie (k - n) with
    | none => i.search tie k fuel (n + 1)
    | some d => Digits.ofNat d (if 10 ^ n ≤ d then k + 1 else k)

/-- The shortest digits that read back as `m · 2 ^ q`. -/
def shortest (tie : Tie) (m : Nat) (q : Int) : Digits :=
  if m = 0 then ⟨[], 0⟩
  else
    let (num, den) := ratio m q
    (interval m q).search tie (magnitude num den) 17 1

end Utterance.Decimal
