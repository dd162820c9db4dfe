import Utterance.Pattern.Basic

/-!
Finding a pattern in a text.

A pattern becomes a program of small instructions. A search keeps the threads of the program that
are alive at a place, best first, and moves all of them over one character at a time, so it takes
time in proportion to the text. The match that starts first wins, and among those the one that the
pattern prefers.
-/

namespace Utterance.Pattern

/-- An instruction. All but jumps and splits go on to the next one. -/
inductive Instr where
  | set (s : CharSet)
  | place (p : Place)
  | mark (slot : Nat)
  | split (a b : Nat)
  | jump (a : Nat)
  | accept

def copies (code : Nat → List Instr) : Nat → Nat → List Instr
  | 0, _ => []
  | n + 1, pc => let c := code pc; c ++ copies code n (pc + c.length)

/-- A fork to `inside` and `out`; the way inside is the better one unless lazy. -/
def fork (isLazy : Bool) (inside out : Nat) : Instr :=
  if isLazy then .split out inside else .split inside out

/-- Up to `n` copies, each of which may be the last. -/
def optional (isLazy : Bool) (code : Nat → List Instr) : Nat → Nat → List Instr
  | 0, _ => []
  | n + 1, pc =>
    let c := code (pc + 1)
    let tail := optional isLazy code n (pc + 1 + c.length)
    fork isLazy (pc + 1) (pc + 1 + c.length + tail.length) :: (c ++ tail)

def star (isLazy : Bool) (code : Nat → List Instr) (pc : Nat) : List Instr :=
  let c := code (pc + 1)
  let fork := fork isLazy (pc + 1) (pc + c.length + 2)
  fork :: (c ++ [fork])

mutual

/-- The program of a pattern, laid out from address `pc` on. -/
def code (p : Pattern) (pc : Nat) : List Instr :=
  match p with
  | empty => []
  | literal cs => cs.map fun c => .set (.one c)
  | set s => [.set s]
  | place p => [.place p]
  | repeated least most isLazy p =>
    let c := copies (code p) least pc
    c ++ (match most with
      | none => star isLazy (code p) (pc + c.length)
      | some m => optional isLazy (code p) (m - least) (pc + c.length))
  | group n p => .mark (2 * n) :: (code p (pc + 1) ++ [.mark (2 * n + 1)])
  | seq ps => codeSeq ps pc
  | choice ps => codeChoice ps pc

def codeSeq (ps : List Pattern) (pc : Nat) : List Instr :=
  match ps with
  | [] => []
  | p :: rest => let c := code p pc; c ++ codeSeq rest (pc + c.length)

def codeChoice (ps : List Pattern) (pc : Nat) : List Instr :=
  match ps with
  | [] => [.set .none]
  | [p] => code p pc
  | p :: q :: rest =>
    let c := code p (pc + 1)
    let other := pc + c.length + 2
    let d := codeChoice (q :: rest) other
    .split (pc + 1) other :: (c ++ .jump (other + d.length) :: d)

end

structure Program where
  instrs : Array Instr
  slots : Nat

def Program.of (p : Pattern) (groups : Nat) : Program :=
  ⟨(code (.group 0 p) 0 ++ [Instr.accept]).toArray, 2 * (groups + 1)⟩

abbrev Slots := Array (Option Nat)

/-- A thread: the address of its next instruction and the marks it has passed. -/
structure Thread where
  pc : Nat
  slots : Slots

structure Spot where
  before : Option Char
  after : Option Char
  pos : Nat

/-- Follows one thread to the instructions that take a character or accept. Addresses that a better
thread has reached are left out; threads are collected latest first. -/
def follow (prog : Program) (spot : Spot) (fuel : Nat) (acc : Array Bool × List Thread) (t : Thread) :
    Array Bool × List Thread :=
  match fuel with
  | 0 => acc
  | fuel + 1 =>
    if acc.1.getD t.pc true then acc
    else
      let seen := acc.1.setIfInBounds t.pc true
      match prog.instrs[t.pc]? with
      | none => (seen, acc.2)
      | some (.set _) | some .accept => (seen, t :: acc.2)
      | some (.place p) =>
        if p.holds spot.before spot.after then
          follow prog spot fuel (seen, acc.2) { t with pc := t.pc + 1 }
        else (seen, acc.2)
      | some (.mark n) =>
        follow prog spot fuel (seen, acc.2) ⟨t.pc + 1, t.slots.setIfInBounds n (some spot.pos)⟩
      | some (.jump a) => follow prog spot fuel (seen, acc.2) { t with pc := a }
      | some (.split a b) =>
        let acc := follow prog spot fuel (seen, acc.2) { t with pc := a }
        follow prog spot fuel acc { t with pc := b }

def settle (prog : Program) (spot : Spot) (ts : List Thread) : List Thread :=
  let start := (Array.replicate prog.instrs.size false, [])
  (ts.foldl (follow prog spot (prog.instrs.size + 1)) start).2.reverse

/-- Moves settled threads over the next character. A thread that accepts ends all worse ones. -/
def advance (prog : Program) (next : Option Char) : List Thread → List Thread × Option Slots
  | [] => ([], none)
  | t :: rest =>
    match prog.instrs[t.pc]? with
    | some .accept => ([], some t.slots)
    | some (.set s) =>
      let (ts, found) := advance prog next rest
      if next.any s.contains then ({ t with pc := t.pc + 1 } :: ts, found) else (ts, found)
    | _ => advance prog next rest

/-- The search from a place on, with the threads that are alive there and the best match so far. -/
def searchFrom (prog : Program) (before : Option Char) (pos : Nat) (ts : List Thread)
    (best : Option Slots) (cs : List Char) : Option Slots :=
  let fresh : List Thread := if best.isNone then [⟨0, Array.replicate prog.slots none⟩] else []
  let threads := ts ++ fresh
  if threads.isEmpty then best
  else
    match cs with
    | [] => ((advance prog none (settle prog ⟨before, none, pos⟩ threads)).2).or best
    | c :: rest =>
      let (ts, found) := advance prog (some c) (settle prog ⟨before, some c, pos⟩ threads)
      searchFrom prog (some c) (pos + 1) ts (found.or best) rest

def Program.search? (prog : Program) (cs : List Char) : Option Slots :=
  searchFrom prog none 0 [] none cs

def Program.matches (prog : Program) (s : String) : Bool :=
  (prog.search? s.toList).isSome

def Program.group? (prog : Program) (n : Nat) (s : String) : Option String :=
  (prog.search? s.toList).bind fun slots =>
    match slots[2 * n]?, slots[2 * n + 1]? with
    | some (some a), some (some b) => some (String.ofList ((s.toList.drop a).take (b - a)))
    | _, _ => none

end Utterance.Pattern
