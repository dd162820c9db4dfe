import Utterance.Text.Case
import Utterance.Text.Hex

/-!
The gate in front of the reader: it lets the response through, and only once the control packet is
complete.

The gate watches an envelope character by character while it arrives, and needs no more of it than
how deep it is, which string it is in, and which member it has reached. A response that comes before
the control packet is held until the end.
-/

namespace Utterance.Stream

inductive StringRole where
  /-- A key of the envelope. -/
  | key
  /-- The response. -/
  | surface
  /-- Anything else. -/
  | other
  deriving DecidableEq

inductive Escape where
  | none
  | backslash
  /-- The digits of a character number so far. -/
  | number (digits : List Char)

/-- The state of the gate. Texts are kept latest character first. -/
structure Gate where
  depth : Nat := 0
  /-- Whether the envelope is over. -/
  ended : Bool := false
  /-- The string that is open. -/
  string : Option (StringRole × Escape) := none
  /-- The first half of a character number that has two. -/
  highHalf : Option Nat := none
  expectsKey : Bool := false
  key : List Char := []
  /-- The key of the member that is open, in lower case. -/
  member : Option (List Char) := none
  controlOpen : Bool := false
  controlDone : Bool := false
  /-- Whether a response has ended. -/
  surfaceDone : Bool := false
  /-- Whether the response began before the control packet was complete. -/
  held : Bool := false
  surface : List Char := []
  /-- How many characters of the response were let through. -/
  released : Nat := 0

namespace Gate

def surfaceKey : List Char := "surface_response".toList

def controlKey : List Char := "control_packet".toList

def take (g : Gate) (role : StringRole) (c : Char) : Gate :=
  match role with
  | .key => { g with key := c :: g.key }
  | .surface => { g with surface := c :: g.surface }
  | .other => g

/-- The number that digits of base sixteen write; a plus sign may stand in front. -/
def number? (cs : List Char) : Option Nat :=
  let digits := if cs.head? == some '+' then cs.drop 1 else cs
  digits.foldlM (fun n c => (Text.hexValue? c).map (16 * n + ·)) 0

/-- The number of a character, where `half` may be the first half of a pair and `n` the second. -/
def scalar (half : Option Nat) (n : Nat) : Nat :=
  match half with
  | some high =>
    if 0xDC00 ≤ n && n < 0xE000 then 0x10000 + (high - 0xD800) * 1024 + (n - 0xDC00) else n
  | none => n

/-- Takes the character of a number. The first half of a pair waits for the second; a half without
its other half is passed over. -/
def takeNumber (g : Gate) (role : StringRole) (n : Nat) : Gate :=
  if 0xD800 ≤ n && n < 0xDC00 then { g with highHalf := some n }
  else
    let k := scalar g.highHalf n
    let g := { g with highHalf := none }
    if 0xD800 ≤ k && k < 0xE000 then g else g.take role (Char.ofNat k)

def escaped (c : Char) : Char :=
  match c with
  | 'n' => '\n'
  | 't' => '\t'
  | 'r' => '\r'
  | 'b' => '\x08'
  | 'f' => '\x0c'
  | c => c

def stepString (g : Gate) (role : StringRole) (e : Escape) (c : Char) : Gate :=
  match e with
  | .number digits =>
    let digits := digits ++ [c]
    if (String.ofList digits).utf8ByteSize = 4 then
      let g := { g with string := some (role, .none) }
      match number? digits with
      | some n => g.takeNumber role n
      | none => g
    else { g with string := some (role, .number digits) }
  | .backslash =>
    if c == 'u' then { g with string := some (role, .number []) }
    else { g with string := some (role, .none) }.take role (escaped c)
  | .none =>
    if c == '\\' then { g with string := some (role, .backslash) }
    else if c == '"' then
      match role with
      | .surface => { g with string := none, surfaceDone := true, member := none }
      | _ => { g with string := none }
    else g.take role c

def openString (g : Gate) : Gate :=
  if g.depth = 1 && g.expectsKey then { g with string := some (.key, .none), key := [] }
  else if g.depth = 1 && g.member == some surfaceKey then
    { g with string := some (.surface, .none), held := !g.controlDone }
  else { g with string := some (.other, .none) }

/-- The opening of an object or an array. The object of the control packet stands right inside the
envelope. -/
def openContainer (g : Gate) (isObject : Bool) : Gate :=
  { g with
    depth := g.depth + 1
    expectsKey := g.expectsKey || g.depth = 0
    controlOpen := g.controlOpen || (g.depth = 1 && isObject && g.member == some controlKey) }

/-- The end of an object or an array; a bracket that closes nothing is passed over. -/
def closeContainer (g : Gate) : Gate :=
  if g.depth = 0 then g
  else
    { g with
      depth := g.depth - 1
      ended := g.ended || g.depth = 1
      controlOpen := g.controlOpen && g.depth ≠ 2
      controlDone := g.controlDone || (g.controlOpen && g.depth = 2) }

def stepOutside (g : Gate) (c : Char) : Gate :=
  if c == '"' then g.openString
  else if c == '{' || c == '[' then g.openContainer (c == '{')
  else if c == '}' || c == ']' then g.closeContainer
  else if c == ':' && g.depth = 1 then
    { g with member := some (Text.lower g.key.reverse), expectsKey := false }
  else if c == ',' && g.depth = 1 then { g with expectsKey := true, member := none }
  else g

/-- One character. What follows the envelope does not matter. -/
def step (g : Gate) (c : Char) : Gate :=
  if g.ended then g
  else
    match g.string with
    | some (role, e) => g.stepString role e c
    | none => g.stepOutside c

def release (g : Gate) : Gate × Option String :=
  if g.surface.length ≤ g.released then (g, none)
  else
    ({ g with released := g.surface.length },
      some (String.ofList (g.surface.reverse.drop g.released)))

def surfaceBegun (g : Gate) : Bool :=
  g.surfaceDone || (g.string.any fun s => s.1 = .surface)

/-- Reads a piece of the envelope, and lets through what may be. -/
def push (g : Gate) (text : String) : Gate × Option String :=
  let g := text.toList.foldl step g
  if g.controlDone && !g.held && g.surfaceBegun then g.release else (g, none)

/-- Ends the envelope: what was held is let through if the control packet is complete. -/
def finish (g : Gate) : Gate × Option String :=
  if g.controlDone then g.release else (g, none)

def surfaceText (g : Gate) : String :=
  String.ofList g.surface.reverse

end Gate

end Utterance.Stream
