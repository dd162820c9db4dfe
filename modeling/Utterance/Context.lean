import Utterance.Act

/-!
Contexts of work that can be called off.

Every context has a token, and to call off a token calls off those that come from it, never the one that
it comes from. A context may also have a deadline, which is never later than that of the context it comes
from. Times are in nanoseconds.
-/

namespace Utterance

/-- A token: the one that it comes from, and whether it was itself called off. -/
structure Token where
  parent : Option Nat
  isOff : Bool := false

/-- A context: the number of its token, and its deadline. -/
structure Context where
  token : Nat
  deadline : Option Nat

/-- The time, and all tokens, the latest first; a token is numbered by how many are older. -/
structure Contexts where
  now : Nat := 0
  tokens : List Token := []

namespace Contexts

/-- Whether a token, or one that it comes from, was called off. -/
def isOff : List Token → Nat → Bool
  | [], _ => false
  | t :: older, n =>
    if n = older.length then t.isOff || t.parent.any (fun p => isOff older p) else isOff older n

/-- The tokens after one of them was called off. -/
def callOff (n : Nat) : List Token → List Token
  | [] => []
  | t :: older =>
    if n = older.length then { t with isOff := true } :: older else t :: callOff n older

def add (s : Contexts) (parent : Option Nat) : Contexts :=
  { s with tokens := { parent } :: s.tokens }

def clock : Part Contexts Nat := ⟨Contexts.now, fun t s => { s with now := t }⟩

end Contexts

namespace Context

/-- A context that comes from no other. -/
def root (s : Contexts) : Context × Contexts :=
  (⟨s.tokens.length, none⟩, s.add none)

/-- A context of the same token, without a deadline. -/
def ofToken (c : Context) : Context := ⟨c.token, none⟩

/-- A context that ends no later than `c`. -/
def child (c : Context) (s : Contexts) : Context × Contexts :=
  (⟨s.tokens.length, c.deadline⟩, s.add c.token)

def cancel (c : Context) (s : Contexts) : Contexts :=
  { s with tokens := Contexts.callOff c.token s.tokens }

/-- How patience with a context ends. -/
def watch (c : Context) : Watch Contexts where
  clock := Contexts.clock
  calledOff s := Contexts.isOff s.tokens c.token
  deadline := c.deadline

/-- A context that ends no later than `c`, and a span of time from now at the latest. -/
def limited (c : Context) (span : Span) (s : Contexts) : Context × Contexts :=
  (⟨s.tokens.length, (c.watch.limited span s).deadline⟩, s.add c.token)

/-- How much time is left; nothing without a deadline. -/
def remaining (c : Context) (s : Contexts) : Option Span :=
  c.deadline.map fun d => ⟨d - s.now⟩

end Context

end Utterance
