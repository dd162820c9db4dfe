import Utterance.Power

/-!
JSON values.

The members of an object keep the order in which their keys first appeared, and a number is either a
whole one or a double. A key that is written twice counts once: in its first place, with its last
value.
-/

namespace Utterance

inductive Json where
  | null
  | bool (b : Bool)
  | int (n : Int)
  | float (x : Float)
  | str (s : String)
  | arr (items : List Json)
  | obj (members : List (String × Json))

namespace Json

/-- Members with `key` set to `value`: in its place if it is there, else at the end. -/
def setMember (key : String) (value : Json) : List (String × Json) → List (String × Json)
  | [] => [(key, value)]
  | (k, v) :: rest => if k = key then (k, value) :: rest else (k, v) :: setMember key value rest

/-- Members in which each key keeps its first place and its last value. -/
def mergeMembers (ms : List (String × Json)) : List (String × Json) :=
  ms.foldl (fun acc (k, v) => setMember k v acc) []

mutual

/-- A value whose objects, inside it as well, have each key once. -/
def merged : Json → Json
  | .arr xs => .arr (mergedItems xs)
  | .obj ms => .obj (mergeMembers (mergedMembers ms))
  | j => j

def mergedItems : List Json → List Json
  | [] => []
  | x :: xs => merged x :: mergedItems xs

def mergedMembers : List (String × Json) → List (String × Json)
  | [] => []
  | (k, v) :: ms => (k, merged v) :: mergedMembers ms

end

def members? : Json → Option (List (String × Json))
  | .obj ms => some ms
  | _ => none

def items? : Json → Option (List Json)
  | .arr xs => some xs
  | _ => none

def text? : Json → Option String
  | .str s => some s
  | _ => none

def bool? : Json → Option Bool
  | .bool b => some b
  | _ => none

/-- A whole number that fits a signed word of 64 bits. -/
def int64? : Json → Option Int
  | .int n => if -(2 ^ 63) ≤ n ∧ n < 2 ^ 63 then some n else none
  | _ => none

def get? (j : Json) (key : String) : Option Json :=
  j.members?.bind (·.lookup key)

def getText? (j : Json) (key : String) : Option String :=
  (j.get? key).bind text?

def isObject (j : Json) : Bool :=
  j.members?.isSome

def isNull : Json → Bool
  | .null => true
  | _ => false

/-- What a path of keys leads to; among items, a key is the number of a
position. -/
def path? (j : Json) : List String → Option Json
  | [] => some j
  | key :: rest =>
    let next : Option Json :=
      match j with
      | .obj ms => ms.lookup key
      | .arr xs => (xs.mapIdx fun i x => (toString i, x)).lookup key
      | _ => none
    next.bind (path? · rest)

def pathText? (j : Json) (path : List String) : Option String :=
  (j.path? path).bind text?

/-- The object with `key` set to `value`; any other value is kept as it is. -/
def set (key : String) (value : Json) : Json → Json
  | .obj ms => .obj (setMember key value ms)
  | j => j

def ofTexts (ss : List String) : Json :=
  .arr (ss.map .str)

def ofNat (n : Nat) : Json :=
  .int n

def ofList {α : Type} (f : α → Json) (xs : List α) : Json :=
  .arr (xs.map f)

def ofOption {α : Type} (f : α → Json) (x : Option α) : Json :=
  x.elim .null f

end Json

end Utterance
