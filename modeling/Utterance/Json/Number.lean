import Utterance.Decimal.Read
import Utterance.Json.Basic

/-!
Numbers of a JSON document.

A number without fraction and exponent is whole as long as it fits 64 bits, signed or unsigned. Every
other number is a double, found in two roundings: as many leading digits as fit 64 bits become a
double, which is then multiplied or divided by a power of ten. A number above all doubles is refused.
-/

namespace Utterance.Json

/-- The written parts of a number. -/
structure NumberText where
  negative : Bool := false
  whole : List Char := []
  fraction : List Char := []
  powerNegative : Bool := false
  power : List Char := []

def maxWord : Nat := 2 ^ 64 - 1

def digitValue (c : Char) : Nat :=
  c.toNat - '0'.toNat

/-- Appends the digits that fit a word to `n`; also says how many were left over. -/
def takeDigits (n : Nat) : List Char → Nat × Nat
  | [] => (n, 0)
  | c :: rest =>
    let next := n * 10 + digitValue c
    if maxWord < next then (n, rest.length + 1) else takeDigits next rest

def tenPower (n : Nat) : Float :=
  Float.ofScientific 1 false n

/-- `x · 10 ^ e` by one multiplication or division, after as many divisions by `1e308` as the
exponent asks for. -/
def scale : Nat → Float → Int → Option Float
  | fuel, x, e =>
    if e.natAbs ≤ 308 then
      if 0 ≤ e then
        let y := x * tenPower e.natAbs
        if y.isInf then none else some y
      else some (x / tenPower e.natAbs)
    else if x == 0 then some x
    else if 0 ≤ e then none
    else
      match fuel with
      | 0 => some 0
      | fuel + 1 => scale fuel (x / tenPower 308) (e + 308)

/-- The largest exponent that is read digit by digit. -/
def maxPower : Nat := 2 ^ 31 - 1

def NumberText.float? (t : NumberText) : Option Float :=
  let (n, dropped) := takeDigits 0 t.whole
  let (n, unread) := takeDigits n t.fraction
  let start : Int := (dropped : Int) - ((t.fraction.length - unread : Nat) : Int)
  let power := Decimal.natOfDigits t.power
  let signed (x : Float) := if t.negative then -x else x
  if maxPower < power then
    if n ≠ 0 && !t.powerNegative then none else some (signed 0)
  else
    let e := max (-(2 ^ 31)) (min (2 ^ 31 - 1) (if t.powerNegative then start - power else start + power))
    (scale 8 n.toUInt64.toFloat e).map signed

def NumberText.value? (t : NumberText) : Option Json :=
  if t.fraction.isEmpty && t.power.isEmpty then
    let n := Decimal.natOfDigits t.whole
    if maxWord < n then t.float?.map .float
    else if !t.negative then some (.int n)
    else if n = 0 || 2 ^ 63 < n then some (.float (-(n.toUInt64.toFloat)))
    else some (.int (-(n : Int)))
  else t.float?.map .float

end Utterance.Json
