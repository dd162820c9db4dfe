import Utterance.Decimal.Parts

/-!
Doubles and singles as words of 64 and 32 bits.

A word tells apart what arithmetic does not: the two zeros, and the sign of a value that is no number.
Such a value keeps its sign through arithmetic, and it has a place in the order of all words.
-/

namespace Utterance.Decimal

/-- A double as its word. -/
structure Double where
  bits : UInt64
  deriving DecidableEq

structure Single where
  bits : UInt32
  deriving DecidableEq

namespace Double

def ofFloat (x : Float) : Double := ⟨x.toBits⟩

def toFloat (w : Double) : Float := Float.ofBits w.bits

def isNegative (w : Double) : Bool :=
  2 ^ 63 ≤ w.bits.toNat

/-- Whether the word stands for no number, be it finite or infinite. -/
def isNaN (w : Double) : Bool :=
  0x7ff0000000000000 < w.bits.toNat % 2 ^ 63

def isZero (w : Double) : Bool :=
  w.bits.toNat % 2 ^ 63 = 0

/-- No number, with a sign. -/
def nan (negative : Bool) : Double :=
  ⟨if negative then 0xfff8000000000000 else 0x7ff8000000000000⟩

def neg (w : Double) : Double := ⟨w.bits ^^^ 0x8000000000000000⟩

/-- The word of a result; an operation on numbers that has none gives a negative value. -/
def ofResult (x : Float) : Double :=
  if x.isNaN then nan true else ofFloat x

/-- An operation on two words. What is no number already stays as it is, the left one first. -/
def lift (f : Float → Float → Float) (a b : Double) : Double :=
  if a.isNaN then a else if b.isNaN then b else ofResult (f a.toFloat b.toFloat)

def add : Double → Double → Double := lift (· + ·)

def mul : Double → Double → Double := lift (· * ·)

def div : Double → Double → Double := lift (· / ·)

def sqrt (a : Double) : Double :=
  if a.isNaN then a else ofResult a.toFloat.sqrt

/-- The key by which words are put in a total order: negative ones below positive ones, the two zeros
apart, and values that are no number at the ends. -/
def key (w : Double) : Int :=
  let bits := w.bits.toNat
  if bits < 2 ^ 63 then (bits : Int) else (2 ^ 63 - 1 : Int) - bits

/-- The single that is nearest to a double. -/
def toSingle (w : Double) : Single :=
  if w.isNaN then ⟨if w.isNegative then 0xffc00000 else 0x7fc00000⟩
  else ⟨w.toFloat.toFloat32.toBits⟩

end Double

namespace Single

def toDouble (s : Single) : Double :=
  if 0x7f800000 < s.bits.toNat % 2 ^ 31 then .nan (decide (2 ^ 31 ≤ s.bits.toNat))
  else .ofFloat (Float32.ofBits s.bits).toFloat

def ofNat (n : Nat) : Single :=
  (Double.ofFloat (ofInt n)).toSingle

end Single

end Utterance.Decimal
