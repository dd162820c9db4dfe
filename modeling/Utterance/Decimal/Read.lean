import Utterance.Decimal.Double

/-!
Reading numbers from decimal text.

A decimal becomes the double nearest to it; beyond the largest double it is infinite.
-/

namespace Utterance.Decimal

def natOfDigits (cs : List Char) : Nat :=
  cs.foldl (fun n c => n * 10 + (c.toNat - '0'.toNat)) 0

/-- The double nearest to `n · 10 ^ e`. -/
def nearest (n : Nat) (e : Int) : Float :=
  let size := (Nat.toDigits 10 n).length
  if n = 0 then 0
  else if (size : Int) + e > 330 then Float.ofBits 0x7ff0000000000000
  else if (size : Int) + e < -400 then 0
  else
    match e with
    | .ofNat k => Float.ofScientific n false k
    | .negSucc k => Float.ofScientific n true (k + 1)

/-- An exponent: an optional sign and at least one digit up to the end of the text. -/
def exponent? (cs : List Char) : Option Int :=
  let (negative, digits) :=
    match cs with
    | '-' :: rest => (true, rest)
    | '+' :: rest => (false, rest)
    | rest => (false, rest)
  if digits.isEmpty || !digits.all Char.isDigit then none
  else
    let n : Int := natOfDigits digits
    some (if negative then -n else n)

/-- An unsigned decimal: digits, a point among or beside them, and an exponent. -/
def magnitude? (cs : List Char) : Option Float :=
  let whole := cs.takeWhile Char.isDigit
  let rest := cs.dropWhile Char.isDigit
  let (part, rest) :=
    match rest with
    | '.' :: tail => (tail.takeWhile Char.isDigit, tail.dropWhile Char.isDigit)
    | _ => ([], rest)
  if whole.isEmpty && part.isEmpty then none
  else
    let scaled (e : Int) := nearest (natOfDigits (whole ++ part)) (e - part.length)
    match rest with
    | [] => some (scaled 0)
    | c :: tail => if c == 'e' || c == 'E' then (exponent? tail).map scaled else none

/-- A double: a sign, then a decimal, `inf`, `infinity` or `nan` in any case. -/
def double? (s : String) : Option Double :=
  let (negative, body) :=
    match s.toList with
    | '-' :: rest => (true, rest)
    | '+' :: rest => (false, rest)
    | rest => (false, rest)
  let small := body.map Char.toLower
  let value :=
    if small == "inf".toList || small == "infinity".toList then some ⟨0x7ff0000000000000⟩
    else if small == "nan".toList then some (Double.nan false)
    else (magnitude? body).map .ofFloat
  value.map fun w => if negative then w.neg else w

def float? (s : String) : Option Float :=
  (double? s).map Double.toFloat

/-- Why a text is no whole number of a given width. -/
inductive IntError where
  | empty
  | invalidDigit
  | tooLarge
  | tooSmall
  deriving DecidableEq

def IntError.message : IntError → String
  | empty => "cannot parse integer from empty string"
  | invalidDigit => "invalid digit found in string"
  | tooLarge => "number too large to fit in target type"
  | tooSmall => "number too small to fit in target type"

/-- A whole number from `low` to `high`: a sign, where the range allows it, and digits. -/
def int? (low high : Int) (s : String) : Except IntError Int :=
  let (negative, digits) :=
    match s.toList with
    | '-' :: rest => if low < 0 then (true, rest) else (false, '-' :: rest)
    | '+' :: rest => (false, rest)
    | rest => (false, rest)
  if digits.isEmpty then .error (if s.isEmpty then .empty else .invalidDigit)
  else if !digits.all Char.isDigit then .error .invalidDigit
  else
    let n : Int := natOfDigits digits
    let value := if negative then -n else n
    if high < value then .error .tooLarge
    else if value < low then .error .tooSmall
    else .ok value

def int64? (s : String) : Except IntError Int :=
  int? (-(2 ^ 63)) (2 ^ 63 - 1) s

end Utterance.Decimal
