import Utterance.Decimal.Shortest

/-!
How the digits of a number are laid out as text.
-/

namespace Utterance.Decimal

/-- The choices of one way of writing doubles. -/
structure Layout where
  /-- Places of the decimal point that are written without an exponent. -/
  lowPoint : Option Int
  highPoint : Option Int
  /-- Whether a number without a fraction is written with one. -/
  keepsFraction : Bool
  /-- Whether an exponent above zero has a sign. -/
  signsExponent : Bool
  tie : Tie

/-- Positional for every number; a whole number has no fraction. -/
def plain : Layout := ⟨none, none, false, false, .up⟩

/-- Positional from `0.0001` to below `1e16`, and always with a fraction. -/
def shown : Layout := ⟨some (-3), some 16, true, false, .up⟩

/-- Positional from `0.00001` to below `1e16`, and always with a fraction. -/
def json : Layout := ⟨some (-4), some 16, true, true, .toEven⟩

def zeros (n : Nat) : List Char :=
  List.replicate n '0'

/-- Digits with the decimal point at its place. -/
def positional (keepsFraction : Bool) (d : Digits) : List Char :=
  let n := d.digits.length
  match d.point with
  | .ofNat p =>
    if n ≤ p then
      let whole := d.digits ++ zeros (p - n)
      (if whole.isEmpty then ['0'] else whole) ++ (if keepsFraction then ['.', '0'] else [])
    else
      let whole := d.digits.take p
      (if whole.isEmpty then ['0'] else whole) ++ '.' :: d.digits.drop p
  | .negSucc p => ['0', '.'] ++ zeros (p + 1) ++ d.digits

/-- Digits with one of them before the point, and an exponent. -/
def scientific (signsExponent : Bool) (d : Digits) : List Char :=
  let tail := d.digits.drop 1
  d.digits.take 1 ++ (if tail.isEmpty then [] else '.' :: tail) ++
    ['e'] ++ (if signsExponent && 1 < d.point then ['+'] else []) ++
    (toString (d.point - 1)).toList

def Layout.magnitude (l : Layout) (d : Digits) : List Char :=
  let inside := l.lowPoint.all (· ≤ d.point) && l.highPoint.all (d.point ≤ ·)
  if inside || d.digits.isEmpty then positional l.keepsFraction d else scientific l.signsExponent d

def Layout.render (l : Layout) (x : Float) : String :=
  match parts x with
  | .nan => "NaN"
  | .infinite negative => if negative then "-inf" else "inf"
  | .finite negative m q =>
    String.ofList ((if negative then ['-'] else []) ++ l.magnitude (shortest l.tie m q))

/-- A double with exactly `places` digits after the point; a half goes to the even neighbour. -/
def fixed (places : Nat) (x : Float) : String :=
  match parts x with
  | .nan => "NaN"
  | .infinite negative => if negative then "-inf" else "inf"
  | .finite negative m q =>
    let (num, den) := ratio m q
    let n := roundHalfEven (num * Nat.pow 10 places) den
    let digits := Nat.toDigits 10 n
    let padded := zeros (places + 1 - digits.length) ++ digits
    let split := padded.length - places
    String.ofList ((if negative then ['-'] else []) ++ padded.take split ++
      (if places = 0 then [] else '.' :: padded.drop split))

end Utterance.Decimal
