import Utterance.Decimal.Read
import Utterance.Json.Basic

/-!
Members of objects, read with what stands for those that are missing or of another kind.
-/

namespace Utterance.Json

/-- A member, or `null`. -/
def member (j : Json) (key : String) : Json :=
  (j.get? key).getD .null

def textAt (j : Json) (key : String) (default : String := "") : String :=
  (j.getText? key).getD default

def natAt? (j : Json) (key : String) : Option Nat :=
  match j.get? key with
  | some (.int n) => some n.toNat
  | some (.float x) => some (Decimal.toInt64 x).toNat
  | _ => none

def natAt (j : Json) (key : String) (default : Nat := 0) : Nat :=
  (j.natAt? key).getD default

def intAt (j : Json) (key : String) (default : Int := 0) : Int :=
  match j.get? key with
  | some (.int n) => n
  | _ => default

/-- A number as a double with its word; a text is the number that it spells. -/
def toDouble : Json → Decimal.Double
  | int n => .ofFloat (Decimal.ofInt n)
  | float x => .ofFloat x
  | str s => (Decimal.double? s).getD (.ofFloat 0)
  | _ => .ofFloat 0

def toFloat (j : Json) : Float :=
  j.toDouble.toFloat

def floatAt (j : Json) (key : String) (default : Float := 0) : Float :=
  match j.get? key with
  | none | some .null => default
  | some v => v.toFloat

def boolAt (j : Json) (key : String) (default : Bool := false) : Bool :=
  ((j.get? key).bind bool?).getD default

def itemsAt (j : Json) (key : String) : List Json :=
  ((j.get? key).bind items?).getD []

def textsAt (j : Json) (key : String) : List String :=
  (j.itemsAt key).filterMap text?

end Utterance.Json
