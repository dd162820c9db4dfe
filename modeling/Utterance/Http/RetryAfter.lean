import Utterance.Decimal.Parts
import Utterance.Fault
import Utterance.Http.Date

/-!
How long a server asks to wait: a number of seconds, or the date at which to come back.
-/

namespace Utterance

/-- A number of seconds to the nearest nanosecond, unless it is negative or more than a span can hold. -/
def Span.ofSeconds? (x : Float) : Option Span :=
  match Decimal.parts x with
  | .finite negative m q =>
    let (num, den) := Decimal.ratio m q
    if (negative && m != 0) || Span.maxSeconds < num / den then none
    else some ⟨Decimal.roundHalfEven (num * 1000000000) den⟩
  | _ => none

namespace Http

inductive Wait where
  /-- Nothing that makes sense. -/
  | unstated
  | span (s : Span)
  /-- More seconds than a span can hold. -/
  | beyond
  deriving DecidableEq

def Wait.span? : Wait → Option Span
  | span s => some s
  | _ => none

namespace RetryAfter

def isShown (c : Char) : Bool :=
  c == '\t' || (32 ≤ c.toNat && c.toNat < 127)

def whole? (s : String) : Option Nat :=
  match Decimal.int? 0 Span.maxSeconds s with
  | .ok n => some n.toNat
  | .error _ => none

/-- What the text of a header says at the time `now`, in seconds since 1970. A date that has passed asks
for no wait. -/
def read (now : Int) (header : String) : Wait :=
  if !header.toList.all isShown then .unstated
  else
    let text := Text.trimmed header
    match whole? text, (Decimal.float? text).filter fun x => x.isFinite && 0 ≤ x with
    | some n, _ => .span (Span.ofSeconds n)
    | none, some x => ((Span.ofSeconds? x).map .span).getD .beyond
    | none, none =>
      match Date.read? text with
      | some d => .span (Span.ofSeconds (d.seconds - now).toNat)
      | none => .unstated

end RetryAfter

end Http

end Utterance
