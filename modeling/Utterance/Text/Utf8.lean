/-!
Text as octets, and octets as text.

Octets that are no text are read all the same: each longest piece that could have begun a character
counts as one mark.
-/

namespace Utterance.Text.Utf8

def encode (s : String) : List UInt8 :=
  s.toList.flatMap String.utf8EncodeChar

/-- The mark that stands for octets that are no text. -/
def mark : Char := Char.ofNat 0xFFFD

/-- A character that has begun: how many octets are missing, the range of the next one, and the
number read so far. -/
structure Pending where
  missing : Nat
  lo : Nat
  hi : Nat
  value : Nat

/-- What the first octet of a character tells: the character itself, what has to follow, or nothing. -/
inductive Lead where
  | whole (c : Char)
  | begun (p : Pending)
  | bad

def lead (b : UInt8) : Lead :=
  let n := b.toNat
  if n < 0x80 then .whole (Char.ofNat n)
  else if n < 0xC2 then .bad
  else if n < 0xE0 then .begun ⟨1, 0x80, 0xBF, n % 32⟩
  else if n < 0xF0 then
    .begun ⟨2, if n = 0xE0 then 0xA0 else 0x80, if n = 0xED then 0x9F else 0xBF, n % 16⟩
  else if n < 0xF5 then
    .begun ⟨3, if n = 0xF0 then 0x90 else 0x80, if n = 0xF4 then 0x8F else 0xBF, n % 8⟩
  else .bad

/-- Reads on with one octet from between two characters. -/
def begin (b : UInt8) : List Char × Option Pending :=
  match lead b with
  | .whole c => ([c], none)
  | .begun p => ([], some p)
  | .bad => ([mark], none)

/-- Reads on with one octet: the characters that are complete now, and what has begun. -/
def step (p : Option Pending) (b : UInt8) : List Char × Option Pending :=
  match p with
  | none => begin b
  | some p =>
    if p.lo ≤ b.toNat && b.toNat ≤ p.hi then
      let value := p.value * 64 + b.toNat % 64
      if p.missing ≤ 1 then ([Char.ofNat value], none)
      else ([], some ⟨p.missing - 1, 0x80, 0xBF, value⟩)
    else
      let (cs, next) := begin b
      (mark :: cs, next)

/-- The characters of octets, where `p` has begun before them. -/
def read (p : Option Pending) : List UInt8 → List Char
  | [] => if p.isSome then [mark] else []
  | b :: bs =>
    let (cs, next) := step p b
    cs ++ read next bs

def decode (octets : List UInt8) : List Char :=
  read none octets

/-- The text that octets are the octets of, if there is one. -/
def text? (octets : List UInt8) : Option String :=
  let s := String.ofList (decode octets)
  if encode s = octets then some s else none

end Utterance.Text.Utf8
