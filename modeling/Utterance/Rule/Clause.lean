import Utterance.Rule.Term
import Utterance.Rule.Token

/-!
Clauses: a head, and for a rule the literals and comparisons on which it rests.
-/

namespace Utterance.Rule

inductive Arg where
  | term (t : Term)
  | var (name : String)
  deriving BEq

structure Literal where
  predicate : String
  args : List Arg
  deriving BEq

inductive BodyItem where
  | holds (l : Literal)
  | fails (l : Literal)
  | compare (left : Arg) (op : Comparison) (right : Arg)
  deriving BEq

/-- A fact, when the body is empty, or a rule. -/
structure Clause where
  head : Literal
  body : List BodyItem
  deriving BEq

/-- The name of a variable that stands for one value: every name but the blank one. -/
def Arg.varName? : Arg → Option String
  | .var name => if name == "_" then none else some name
  | .term _ => none

def Literal.variables (l : Literal) : List String :=
  l.args.filterMap Arg.varName?

def groundArgs? : List Arg → Option (List Term)
  | [] => some []
  | .term t :: rest => (groundArgs? rest).map (t :: ·)
  | .var _ :: _ => none

def Clause.fact? (c : Clause) : Option Fact :=
  if c.body.isEmpty then (groundArgs? c.head.args).map (⟨c.head.predicate, ·⟩) else none

def Arg.write : Arg → String
  | .term t => t.write
  | .var name => name

def Literal.write (l : Literal) : String :=
  l.predicate ++ "(" ++ Text.join ", " (l.args.map Arg.write) ++ ")"

def BodyItem.write : BodyItem → String
  | .holds l => l.write
  | .fails l => "!" ++ l.write
  | .compare left op right => left.write ++ " " ++ op.write ++ " " ++ right.write

/-- A clause as it is written, without the period at its end. -/
def Clause.write (c : Clause) : String :=
  if c.body.isEmpty then c.head.write
  else c.head.write ++ " :- " ++ Text.join ", " (c.body.map BodyItem.write)

end Utterance.Rule
