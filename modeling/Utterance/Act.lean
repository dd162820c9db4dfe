import Utterance.Fault

/-!
Acts: what can be done to a world, and may fail.

An act that fails leaves the world as far as it had come. Whoever calls may lose patience at any time;
this alone is never made up for by other means.
-/

namespace Utterance

/-- An act on a world `W`. -/
abbrev Act (W α : Type) := ExceptT Fault (StateM W) α

namespace Act

/-- Carries an act out on a world. -/
def on {W α : Type} (a : Act W α) (w : W) : Outcome α × W :=
  a.run.run w

def ofOutcome {W α : Type} : Outcome α → Act W α
  | .ok x => pure x
  | .error e => throw e

/-- Carries an act out and reports how it ended. -/
def attempt {W α : Type} (a : Act W α) : Act W (Outcome α) :=
  ExceptT.mk do return .ok (← a.run)

/-- Carries an act out; `f` makes up for every fault but the loss of patience. -/
def recover {W α : Type} (a : Act W α) (f : Fault → Act W α) : Act W α := do
  match ← a.attempt with
  | .ok x => pure x
  | .error e => if e.isCancelled then throw e else f e

end Act

/-- A part of a world: how to read it, and how to put another in its place. -/
structure Part (W V : Type) where
  read : W → V
  write : V → W → W

namespace Part

def whole (W : Type) : Part W W := ⟨id, fun v _ => v⟩

def comp {W V U : Type} (outer : Part W V) (inner : Part V U) : Part W U :=
  ⟨fun w => inner.read (outer.read w), fun u w => outer.write (inner.write u (outer.read w)) w⟩

/-- Carries an act out on a part of a world. -/
def act {W V α : Type} (part : Part W V) (a : Act V α) : Act W α :=
  ExceptT.mk fun w =>
    let (outcome, v) := a.on (part.read w)
    (outcome, part.write v w)

def value {W V : Type} (part : Part W V) : Act W V := do
  return part.read (← get)

def change {W V : Type} (part : Part W V) (f : V → V) : Act W Unit :=
  modify fun w => part.write (f (part.read w)) w

end Part

/-- What tells whether the caller has lost patience: the work was called off, or its time is over. The
world keeps the time, in nanoseconds. -/
structure Watch (W : Type) where
  clock : Part W Nat
  calledOff : W → Bool
  deadline : Option Nat := none

namespace Watch

def offFault : Fault := .cancelled "context canceled"

def lateFault : Fault := .cancelled "deadline exceeded"

/-- Why the caller has lost patience, if that is so. -/
def fault? {W : Type} (watch : Watch W) (w : W) : Option Fault :=
  if watch.calledOff w then some offFault
  else if watch.deadline.any (· ≤ watch.clock.read w) then some lateFault
  else none

/-- Fails if the caller has lost patience. -/
def check {W : Type} (watch : Watch W) : Act W Unit := do
  match watch.fault? (← get) with
  | some e => throw e
  | none => pure ()

def run {W α : Type} (watch : Watch W) (a : Act W α) : Act W α := do
  watch.check
  a

/-- A watch with less patience: it ends after a span of time at the latest. -/
def limited {W : Type} (watch : Watch W) (span : Span) (w : W) : Watch W :=
  let latest := watch.clock.read w + span.nanos
  { watch with deadline := some (watch.deadline.elim latest (min latest)) }

def sleep {W : Type} (watch : Watch W) (span : Span) : Act W Unit := do
  watch.check
  let wake := (← watch.clock.value) + span.nanos
  match watch.deadline.filter (· ≤ wake) with
  | some d => do
    watch.clock.change fun _ => d
    throw lateFault
  | none => watch.clock.change fun _ => wake

/-- Waits for what never comes, until patience is lost; without a deadline only being called off ends
such a wait. -/
def exhaust {W α : Type} (watch : Watch W) : Act W α := do
  watch.check
  match watch.deadline with
  | some d => do
    watch.clock.change fun _ => d
    throw lateFault
  | none => throw offFault

end Watch

end Utterance
