import Utterance.Rule.Parser

/-!
Which single clauses a model may propose.

A fact must be ground. In a rule every variable of the head, of a negated condition and of a
comparison must occur in a condition that holds, so that it is bound to a value.
-/

namespace Utterance.Rule

inductive RuleError where
  | empty
  | noPeriod (text : String)
  | malformed (cause : Fault)
  | notSingle (count : Nat)
  | openFact (predicate : String)
  | unboundHead (name : String)
  | unboundBody (name : String)


def RuleError.message : RuleError → String
  | empty => "empty rule"
  | noPeriod text => "rule must end with '.': " ++ text
  | malformed cause => cause.message
  | notSingle count => "expected exactly one clause, found " ++ toString count
  | openFact predicate => "fact '" ++ predicate ++ "' contains variables"
  | unboundHead name => "head variable " ++ name ++ " is not bound in the body"
  | unboundBody name => "variable " ++ name ++ " is only used in a negation or comparison"

def BodyItem.binds : BodyItem → List String
  | .holds l => l.variables
  | _ => []

def BodyItem.needs : BodyItem → List String
  | .holds _ => []
  | .fails l => l.variables
  | .compare left _ right => [left, right].filterMap Arg.varName?

/-- The first reason to refuse a clause. -/
def Clause.fault? (c : Clause) : Option RuleError :=
  if c.body.isEmpty then
    if (groundArgs? c.head.args).isSome then none else some (.openFact c.head.predicate)
  else
    let bound := c.body.flatMap BodyItem.binds
    match c.head.variables.find? (!bound.contains ·) with
    | some name => some (.unboundHead name)
    | none => ((c.body.flatMap BodyItem.needs).find? (!bound.contains ·)).map .unboundBody

/-- The clause that a proposed rule consists of, or why it is refused. -/
def checkRule (rule : String) : Except RuleError Clause :=
  let rule := Text.trimmed rule
  if rule.isEmpty then .error .empty
  else if rule.toList.getLast? != some '.' then .error (.noPeriod rule)
  else
    match parseProgram rule with
    | .error e => .error (.malformed e)
    | .ok [c] =>
      match c.fault? with
      | none => .ok c
      | some e => .error e
    | .ok cs => .error (.notSingle cs.length)

def ruleField : String := "mangle_updates"

def validateRule (rule : String) : Outcome Unit :=
  match checkRule rule with
  | .ok _ => .ok ()
  | .error e => .error (.validation ruleField e.message)

end Utterance.Rule
