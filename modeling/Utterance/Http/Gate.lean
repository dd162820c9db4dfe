import Utterance.Act

/-!
The gate before a provider: it lets only so many requests be under way at once, and keeps them apart in
time.
-/

namespace Utterance.Http

structure Gate where
  /-- How many requests may be under way; none where others see to that. -/
  permits : Option Nat
  held : Nat := 0
  /-- The least time between two requests. -/
  interval : Span
  /-- When the latest request was let through. -/
  latest : Option Nat := none

namespace Gate

/-- A gate; no permits at all means that it does not count requests. -/
def ofPermits (permits : Nat) (interval : Span) : Gate :=
  { permits := if permits = 0 then none else some permits, interval }

def uncounted (g : Gate) : Gate :=
  { g with permits := none }

def available (g : Gate) : Option Nat :=
  g.permits.map (· - g.held)

/-- Takes a permit, and tells whether there was one to take: with none free the request waits, and a
gate that does not count has none. -/
def acquire {W : Type} (gate : Part W Gate) (watch : Watch W) : Act W Bool := do
  match (← gate.value).available with
  | none => pure false
  | some 0 => watch.exhaust
  | some _ => do
    watch.check
    gate.change fun g => { g with held := g.held + 1 }
    pure true

def release (g : Gate) : Gate :=
  { g with held := g.held - 1 }

/-- Waits until the interval since the latest request is over. -/
def pace {W : Type} (gate : Part W Gate) (watch : Watch W) : Act W Unit := do
  watch.check
  let g ← gate.value
  let now ← watch.clock.value
  match g.latest.filter (now < · + g.interval.nanos) with
  | some before => watch.sleep ⟨before + g.interval.nanos - now⟩
  | none => pure ()
  let now ← watch.clock.value
  gate.change fun g => { g with latest := some now }

end Gate

end Utterance.Http
