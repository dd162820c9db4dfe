import Utterance.Fault

/-!
How often a request is sent again, and how long to wait before.
-/

namespace Utterance.Http

/-- The most retries of a request, and the wait before the first one. -/
structure Backoff where
  retries : Nat := 3
  base : Span := .ofMillis 1000

namespace Backoff

/-- The wait no longer doubles behind this many retries. -/
def doublings : Nat := 16

/-- The wait before a retry, counted from one: it doubles from one to the next. There is none where it
would be more than a span can hold. -/
def delay (b : Backoff) (retry : Nat) : Option Span :=
  Span.ofNanos? (b.base.nanos * Nat.pow 2 (min (retry - 1) doublings))

/-- All waits together, when every retry is used, as far as a span can hold them. -/
def total (b : Backoff) : Option Span := do
  let delays ← (List.range b.retries).mapM fun n => b.delay (n + 1)
  Span.ofNanos? (delays.foldl (fun n delay => n + delay.nanos) 0)

end Backoff

end Utterance.Http
