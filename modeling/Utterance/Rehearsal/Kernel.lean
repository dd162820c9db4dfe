import Utterance.Kernel.FactBase
import Utterance.Semantic.Store

/-!
Kernels and stores for rehearsals: ones that do only what they have to, and ones that fail on purpose.
-/

namespace Utterance

inductive Kernel.Ability where
  | tell
  | tellAll
  | query (predicate : String)
  | retract
  | verdict
  | validate
  | load

namespace Rehearsal

variable {W α : Type}

def guarded (fault : Option Fault) (a : Act W α) : Act W α :=
  fault.elim a throw

/-- A kernel some of whose abilities have a fault. -/
def hindered (fault? : Kernel.Ability → Option Fault) (k : Kernel W) : Kernel W where
  tell f := guarded (fault? .tell) (k.tell f)
  tellAll fs := guarded (fault? .tellAll) (k.tellAll fs)
  query p := guarded (fault? (.query p)) (k.query p)
  retract p := guarded (fault? .retract) (k.retract p)
  verdict? message candidates := guarded (fault? .verdict) (k.verdict? message candidates)
  validate rule := guarded (fault? .validate) (k.validate rule)
  load source := guarded (fault? .load) (k.load source)

/-- A kernel that does not take some facts, nor others together with them. -/
def choosy (refuses : Rule.Fact → Bool) (fault : Fault) (k : Kernel W) : Kernel W :=
  { k with
    tell := fun f => if refuses f then throw fault else k.tell f
    tellAll := fun fs => if fs.any refuses then throw fault else k.tellAll fs }

def settled (v : Verdict) (k : Kernel W) : Kernel W :=
  { k with verdict? := fun _ _ => pure (some v) }

/-- A kernel over a plain list of facts, which does only what it has to. -/
def plainKernel (facts : Part W (List Rule.Fact)) : Kernel W :=
  Kernel.usual (fun f => facts.change (· ++ [f]))
    fun p => return (← facts.value).filter (·.predicate == p)

def closedStore (fault : Fault) (s : Store W) : Store W :=
  { s with
    addEntry := fun _ => throw fault
    addFact := fun _ => throw fault }

end Rehearsal

end Utterance
