import Utterance.Fault
import Utterance.Rule.Clause
import Utterance.Rule.Lexer

/-!
From tokens to clauses.

No part of a clause nests, so a program is read by a machine that takes one token at a time. Its
state holds the parts of the clause that were read so far and says what may come next.
-/

namespace Utterance.Rule

/-- The clause around the part that is being read: its head is still being read, or its head and the
first conditions are known. -/
inductive Site where
  | head
  | body (head : Literal) (items : List BodyItem) (negated : Bool)

inductive State where
  /-- A clause, or the end. -/
  | clause
  /-- A condition. -/
  | item (head : Literal) (items : List BodyItem)
  /-- The predicate behind a negation. -/
  | predicate (site : Site)
  /-- An opening parenthesis, or whatever may follow a literal. -/
  | arguments (site : Site) (name : String)
  /-- An argument, or for the first one a closing parenthesis. -/
  | argument (site : Site) (name : String) (args : List Arg) (mayClose : Bool)
  /-- A comma or a closing parenthesis. -/
  | afterArgument (site : Site) (name : String) (args : List Arg)
  /-- An arrow or a period. -/
  | afterHead (head : Literal)
  /-- A comparison. -/
  | operator (head : Literal) (items : List BodyItem) (left : Arg)
  /-- The right side of a comparison. -/
  | operand (head : Literal) (items : List BodyItem) (left : Arg) (op : Comparison)
  /-- A comma or a period. -/
  | afterItem (head : Literal) (items : List BodyItem)

def Token.arg? : Token → Option Arg
  | .atom name => some (.term (.atom name))
  | .str s => some (.term (.str s))
  | .int n => some (.term (.int n))
  | .float x => some (.term (.float x))
  | .var name => some (.var name)
  | _ => none

def closeLiteral (site : Site) (l : Literal) : State :=
  match site with
  | .head => .afterHead l
  | .body head items negated => .afterItem head (items ++ [if negated then .fails l else .holds l])

/-- A token behind a complete part of a clause: the next state, and the clause that ends here. -/
def stepAfter (t : Token) : State → Except SyntaxCause (State × Option Clause)
  | .afterHead head =>
    match t with
    | .implies => .ok (.item head [], none)
    | .period => .ok (.clause, some ⟨head, []⟩)
    | t => .error (.noPeriod (some t))
  | .afterItem head items =>
    match t with
    | .comma => .ok (.item head items, none)
    | .period => .ok (.clause, some ⟨head, items⟩)
    | t => .error (.noPeriod (some t))
  | s => .ok (s, none)

/-- One token: the next state, and the clause that ends with it. -/
def step (s : State) (t : Token) : Except SyntaxCause (State × Option Clause) :=
  match s with
  | .clause =>
    match t with
    | .ident name => .ok (.arguments .head name, none)
    | t => .error (.noPredicate (some t))
  | .item head items =>
    match t with
    | .bang => .ok (.predicate (.body head items true), none)
    | .ident name => .ok (.arguments (.body head items false) name, none)
    | t =>
      match t.arg? with
      | some left => .ok (.operator head items left, none)
      | none => .error (.noArgument (some t))
  | .predicate site =>
    match t with
    | .ident name => .ok (.arguments site name, none)
    | t => .error (.noPredicate (some t))
  | .arguments site name =>
    match t with
    | .openParen => .ok (.argument site name [] true, none)
    | t => stepAfter t (closeLiteral site ⟨name, []⟩)
  | .argument site name args mayClose =>
    match t, mayClose with
    | .closeParen, true => .ok (closeLiteral site ⟨name, args⟩, none)
    | t, _ =>
      match t.arg? with
      | some a => .ok (.afterArgument site name (args ++ [a]), none)
      | none => .error (.noArgument (some t))
  | .afterArgument site name args =>
    match t with
    | .comma => .ok (.argument site name args false, none)
    | .closeParen => .ok (closeLiteral site ⟨name, args⟩, none)
    | t => .error (.noCloseParen (some t))
  | .operator head items left =>
    match t with
    | .compare op => .ok (.operand head items left op, none)
    | t => .error (.noComparison (some t))
  | .operand head items left op =>
    match t.arg? with
    | some right => .ok (.afterItem head (items ++ [.compare left op right]), none)
    | none => .error (.noArgument (some t))
  | .afterHead .. | .afterItem .. => stepAfter t s

/-- What is missed when the tokens end in this state; none between clauses. -/
def State.missing? : State → Option SyntaxCause
  | .clause => none
  | .item .. | .argument .. | .operand .. => some (.noArgument none)
  | .predicate _ => some (.noPredicate none)
  | .arguments .. | .afterHead _ | .afterItem .. => some (.noPeriod none)
  | .afterArgument .. => some (.noCloseParen none)
  | .operator .. => some (.noComparison none)

/-- The clauses of a token list, read from a state; `line` is that of the token before. -/
def parseFrom (s : State) (line : Nat) : List Lexeme → Except SyntaxError (List Clause)
  | [] =>
    match s.missing? with
    | none => .ok []
    | some cause => .error ⟨line, cause⟩
  | t :: rest =>
    match step s t.token with
    | .error cause => .error ⟨t.line, cause⟩
    | .ok (s, none) => parseFrom s t.line rest
    | .ok (s, some c) => (parseFrom s t.line rest).map (c :: ·)

def parse (ts : List Lexeme) : Except SyntaxError (List Clause) :=
  parseFrom .clause 1 ts

def parseProgram (source : String) : Outcome (List Clause) :=
  match (lex source).bind parse with
  | .ok cs => .ok cs
  | .error e => .error (.kernel e.message)

/-- The one ground fact that a text states; the period at its end may be missing. -/
def parseFact (text : String) : Outcome Fact := do
  let text := Text.trimmed text
  let source := if text.toList.getLast? == some '.' then text else text ++ "."
  match ← parseProgram source with
  | [c] =>
    match c.fact? with
    | some f => pure f
    | none => throw (.kernel ("not a ground fact: " ++ text))
  | cs => throw (.kernel ("expected one fact, found " ++ toString cs.length ++ " clauses"))

end Utterance.Rule
