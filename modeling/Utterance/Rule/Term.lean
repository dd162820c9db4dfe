import Utterance.Decimal.Layout
import Utterance.Text.Split

/-!
Terms and facts of the rule language, and how they are written.
-/

namespace Utterance.Rule

inductive Term where
  /-- A name such as `/fix`. -/
  | atom (name : String)
  | str (text : String)
  | int (n : Int)
  | float (x : Float)
  deriving BEq

namespace Term

/-- A name; a missing slash is put in front. -/
def named (name : String) : Term :=
  .atom (if Text.startsWith name "/" then name else "/" ++ name)

def text? : Term → Option String
  | atom s | str s => some s
  | _ => none

/-- The number, without its fraction. -/
def int? : Term → Option Int
  | int n => some n
  | float x => some (Decimal.toInt64 x)
  | _ => none

def float? : Term → Option Float
  | int n => some (Decimal.ofInt n)
  | float x => some x
  | _ => none

end Term

def quoteChar (c : Char) : List Char :=
  match c with
  | '"' => ['\\', '"']
  | '\\' => ['\\', '\\']
  | '\n' => ['\\', 'n']
  | '\r' => ['\\', 'r']
  | '\t' => ['\\', 't']
  | c => [c]

def quote (s : String) : String :=
  String.ofList ('"' :: s.toList.flatMap quoteChar ++ ['"'])

/-- A double in a rule: positional, with one place after the point when it is whole. -/
def writeFloat (x : Float) : String :=
  if Decimal.isWhole x then Decimal.fixed 1 x else Decimal.plain.render x

def Term.write : Term → String
  | atom name => name
  | str s => quote s
  | int n => toString n
  | float x => writeFloat x

structure Fact where
  predicate : String
  args : List Term
  deriving BEq

namespace Fact

/-- A fact without the period at its end. -/
def write (f : Fact) : String :=
  f.predicate ++ "(" ++ Text.join ", " (f.args.map Term.write) ++ ")"

def source (f : Fact) : String :=
  f.write ++ "."

def arg? (f : Fact) (n : Nat) : Option Term :=
  f.args[n]?

def text? (f : Fact) (n : Nat) : Option String :=
  (f.arg? n).bind Term.text?

end Fact

end Utterance.Rule
