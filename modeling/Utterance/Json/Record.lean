import Utterance.Json.Basic

/-!
Records in JSON.

A record is an object, whose other members do not matter, or an array with its fields in order; fields
that have a default may be missing at the end of the array. An object that writes a field twice is no
record. A name is a string, or an object that gives it the value `null`.
-/

namespace Utterance.Json

def named? {α : Type} (names : List (String × α)) : Json → Option α
  | .str s => names.lookup s
  | .obj [(s, .null)] => names.lookup s
  | _ => none

def texts? (j : Json) : Option (List String) :=
  j.items?.bind (·.mapM text?)

def word? : Json → Option Nat
  | .int n => if 0 ≤ n ∧ n < 2 ^ 64 then some n.toNat else none
  | _ => none

/-- The fields of a record, read in order: the value of each if there is one. None where the value is
no record with these fields. -/
def fields? (names : List String) : Json → Option (List (Option Json))
  | .obj ms =>
    if names.all fun name => (ms.filter (·.1 == name)).length ≤ 1 then
      some (names.map fun name => ms.lookup name)
    else none
  | .arr xs =>
    if names.length < xs.length then none
    else some ((xs.map some) ++ List.replicate (names.length - xs.length) none)
  | _ => none

def needed {α : Type} (read : Json → Option α) (j : Option Json) : Option α :=
  j.bind read

def orElse {α : Type} (default : α) (read : Json → Option α) : Option Json → Option α
  | none => some default
  | some j => read j

end Utterance.Json
