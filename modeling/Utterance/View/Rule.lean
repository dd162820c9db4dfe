import Utterance.Json.Member
import Utterance.Rule.Clause

/-!
Clauses of the rule language as JSON.
-/

namespace Utterance.Rule

def Term.toJson : Term → Json
  | atom s => .obj [("atom", .str s)]
  | str s => .obj [("str", .str s)]
  | int n => .obj [("int", .int n)]
  | float x => .obj [("float", .float x)]

def Term.ofJson (j : Json) : Term :=
  match j.members? with
  | some [("atom", .str s)] => named s
  | some [("str", .str s)] => str s
  | some [("int", .int n)] => int n
  | some [("float", x)] => float x.toFloat
  | _ => str ""

def Arg.toJson : Arg → Json
  | term t => t.toJson
  | var v => .obj [("var", .str v)]

def Literal.toJson (l : Literal) : Json :=
  .obj [("predicate", .str l.predicate), ("args", .ofList Arg.toJson l.args)]

def BodyItem.toJson : BodyItem → Json
  | holds l => .obj [("pos", l.toJson)]
  | fails l => .obj [("neg", l.toJson)]
  | compare a op b => .obj [("cmp", .arr [a.toJson, .str op.write, b.toJson])]

def Clause.toJson (c : Clause) : Json :=
  .obj [("head", c.head.toJson), ("body", .ofList BodyItem.toJson c.body),
    ("is_fact", .bool c.fact?.isSome)]

def Fact.toJson (f : Fact) : Json :=
  .obj [("predicate", .str f.predicate), ("args", .ofList Term.toJson f.args),
    ("source", .str f.source)]

def Fact.ofJson (j : Json) : Fact :=
  ⟨j.textAt "predicate", (j.itemsAt "args").map Term.ofJson⟩

end Utterance.Rule
