import Utterance.Pattern.Edition
import Utterance.Text.Case

/-!
Characters that differ by case alone.

Each character has a representative, most often its small form, and those with the same one are
variants of each other.
-/

namespace Utterance.Pattern

/-- Characters whose representative is not their small form. -/
def otherRuns : List Text.CaseRun := [
  ⟨181, 181, 1, 775⟩, ⟨383, 383, 1, -268⟩, ⟨837, 837, 1, 116⟩, ⟨962, 962, 1, 1⟩,
  ⟨976, 976, 1, -30⟩, ⟨977, 977, 1, -25⟩, ⟨981, 981, 1, -15⟩, ⟨982, 982, 1, -22⟩,
  ⟨1008, 1008, 1, -54⟩, ⟨1009, 1009, 1, -48⟩, ⟨1013, 1013, 1, -64⟩, ⟨7296, 7296, 1, -6222⟩,
  ⟨7297, 7297, 1, -6221⟩, ⟨7298, 7298, 1, -6212⟩, ⟨7299, 7300, 1, -6210⟩, ⟨7301, 7301, 1, -6211⟩,
  ⟨7302, 7302, 1, -6204⟩, ⟨7303, 7303, 1, -6180⟩, ⟨7304, 7304, 1, 35267⟩, ⟨7835, 7835, 1, -58⟩,
  ⟨8126, 8126, 1, -7173⟩, ⟨8147, 8147, 1, -7235⟩, ⟨8163, 8163, 1, -7219⟩, ⟨64261, 64261, 1, 1⟩]

def representatives : List (Nat × Nat) :=
  (Text.lowerRuns ++ otherRuns).flatMap fun r =>
    (r.sources.filter fun n => !CharSet.inRanges newest.ranges n).map fun n => (n, r.image n)

/-- Code points grouped under their representatives, which stand in ascending order; `sofar` holds the
group of the representative `r`. -/
def groupFrom (r : Nat) (sofar : List Nat) : List (Nat × Nat) → List (List Nat)
  | [] => [r :: sofar]
  | (n, s) :: rest => if s = r then groupFrom r (n :: sofar) rest else (r :: sofar) :: groupFrom s [n] rest

def variantGroups : List (List Nat) :=
  match representatives.mergeSort fun a b => a.2 ≤ b.2 with
  | [] => []
  | (n, r) :: rest => groupFrom r [n] rest

/-- Code points that have variants, in ascending order, each with its group. -/
def variants : List (Nat × List Nat) :=
  (variantGroups.flatMap fun g => g.map (·, g)).mergeSort fun a b => a.1 ≤ b.1

/-- The groups that ranges reach into, where the code points of both ascend. -/
def reached : List (Nat × Nat) → List (Nat × List Nat) → List Nat
  | [], _ | _ :: _, [] => []
  | (a, b) :: rs, (n, g) :: vs =>
    if n < a then reached ((a, b) :: rs) vs
    else if b < n then reached rs ((n, g) :: vs)
    else g ++ reached ((a, b) :: rs) vs
  termination_by rs vs => rs.length + vs.length

def caseless (s : CharSet) : CharSet :=
  s.union (.ofCodes (reached s.ranges variants))

/-- The ranges of a set between `lo` and `hi`, moved by `shift`. -/
def movedRanges (s : CharSet) (lo hi : Nat) (shift : Int) : List (Nat × Nat) :=
  (s.inter (.range lo hi)).ranges.map fun (a, b) => (((a : Int) + shift).toNat, ((b : Int) + shift).toNat)

/-- A set with all variants of its characters among those below 128. -/
def asciiCaseless (s : CharSet) : CharSet :=
  s.union (.ofRanges (movedRanges s 65 90 32 ++ movedRanges s 97 122 (-32)))

end Utterance.Pattern
