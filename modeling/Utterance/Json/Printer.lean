import Utterance.Decimal.Layout
import Utterance.Json.Basic
import Utterance.Text.Hex

/-!
Writing JSON text, compact or spread over lines with two blanks for each level.
-/

namespace Utterance.Json

def writeChar (c : Char) : List Char :=
  match c with
  | '"' => ['\\', '"']
  | '\\' => ['\\', '\\']
  | '\x08' => ['\\', 'b']
  | '\x0c' => ['\\', 'f']
  | '\n' => ['\\', 'n']
  | '\r' => ['\\', 'r']
  | '\t' => ['\\', 't']
  | c =>
    if c.toNat < 32 then ['\\', 'u'] ++ Text.hexPadded 4 c.toNat else [c]

def writeText (s : String) : List Char :=
  '"' :: s.toList.flatMap writeChar ++ ['"']

/-- A double; what is no number is written as `null`. -/
def writeFloat (x : Float) : List Char :=
  match Decimal.parts x with
  | .finite .. => (Decimal.json.render x).toList
  | _ => ['n', 'u', 'l', 'l']

def writeLeaf : Json → List Char
  | .null => ['n', 'u', 'l', 'l']
  | .bool true => ['t', 'r', 'u', 'e']
  | .bool false => ['f', 'a', 'l', 's', 'e']
  | .int n => (toString n).toList
  | .float x => writeFloat x
  | .str s => writeText s
  | .arr _ | .obj _ => []

mutual

/-- A value without blanks. -/
def write : Json → List Char
  | .arr [] => ['[', ']']
  | .arr (x :: xs) => '[' :: write x ++ writeItems xs
  | .obj [] => ['{', '}']
  | .obj ((k, v) :: ms) => '{' :: writeText k ++ ':' :: write v ++ writeMembers ms
  | j => writeLeaf j

/-- The items of an array from the second on, and its end. -/
def writeItems : List Json → List Char
  | [] => [']']
  | x :: xs => ',' :: write x ++ writeItems xs

def writeMembers : List (String × Json) → List Char
  | [] => ['}']
  | (k, v) :: ms => ',' :: writeText k ++ ':' :: write v ++ writeMembers ms

end

def compact (j : Json) : String :=
  String.ofList (write j)

/-- A new line with the blanks of `depth` levels. -/
def newLine (depth : Nat) : List Char :=
  '\n' :: List.replicate (2 * depth) ' '

mutual

/-- A value spread over lines, inside `depth` levels. -/
def spread (depth : Nat) : Json → List Char
  | .arr [] => ['[', ']']
  | .arr (x :: xs) =>
    '[' :: newLine (depth + 1) ++ spread (depth + 1) x ++ spreadItems depth xs
  | .obj [] => ['{', '}']
  | .obj ((k, v) :: ms) =>
    '{' :: newLine (depth + 1) ++ writeText k ++ [':', ' '] ++ spread (depth + 1) v ++
      spreadMembers depth ms
  | j => writeLeaf j

def spreadItems (depth : Nat) : List Json → List Char
  | [] => newLine depth ++ [']']
  | x :: xs => ',' :: newLine (depth + 1) ++ spread (depth + 1) x ++ spreadItems depth xs

def spreadMembers (depth : Nat) : List (String × Json) → List Char
  | [] => newLine depth ++ ['}']
  | (k, v) :: ms =>
    ',' :: newLine (depth + 1) ++ writeText k ++ [':', ' '] ++ spread (depth + 1) v ++
      spreadMembers depth ms

end

def pretty (j : Json) : String :=
  String.ofList (spread 0 j)

end Utterance.Json
