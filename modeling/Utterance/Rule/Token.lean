import Utterance.Decimal.Layout
import Utterance.Decimal.Read
import Utterance.Text.Shown

/-!
Tokens of the rule language, and what is said about a text that breaks its grammar.
-/

namespace Utterance.Rule

inductive Comparison where
  | eq
  | ne
  | lt
  | le
  | gt
  | ge
  deriving DecidableEq

def Comparison.write : Comparison → String
  | eq => "="
  | ne => "!="
  | lt => "<"
  | le => "<="
  | gt => ">"
  | ge => ">="

inductive Token where
  | ident (name : String)
  | var (name : String)
  | atom (name : String)
  | str (text : String)
  | int (n : Int)
  | float (x : Float)
  | openParen
  | closeParen
  | comma
  | period
  | implies
  | bang
  | compare (op : Comparison)
  deriving BEq

/-- How a message names a token. -/
def Token.describe : Token → String
  | ident name => "Ident(" ++ Text.shown name ++ ")"
  | var name => "Var(" ++ Text.shown name ++ ")"
  | atom name => "Atom(" ++ Text.shown name ++ ")"
  | str text => "Str(" ++ Text.shown text ++ ")"
  | int n => "Int(" ++ toString n ++ ")"
  | float x => "Float(" ++ Decimal.shown.render x ++ ")"
  | openParen => "LParen"
  | closeParen => "RParen"
  | comma => "Comma"
  | period => "Dot"
  | implies => "Implies"
  | bang => "Bang"
  | compare op => "Cmp(" ++ Text.shown op.write ++ ")"

structure Lexeme where
  token : Token
  line : Nat
  deriving BEq

/-- What breaks the grammar. Where a token was missed, `found` is the one that stands there. -/
inductive SyntaxCause where
  | unexpected (c : Char)
  | openString
  | openEscape
  | number (e : Decimal.IntError)
  | noPredicate (found : Option Token)
  | noArgument (found : Option Token)
  | noComparison (found : Option Token)
  | noCloseParen (found : Option Token)
  | noPeriod (found : Option Token)
  deriving BEq

def foundInstead (atEnd : String) : Option Token → String
  | none => atEnd
  | some t => ", found " ++ t.describe

def SyntaxCause.message : SyntaxCause → String
  | unexpected c => "unexpected character '" ++ String.singleton c ++ "'"
  | openString => "unterminated string"
  | openEscape => "unterminated escape"
  | number e => e.message
  | noPredicate t => "expected predicate name" ++ foundInstead "" t
  | noArgument t => "expected argument" ++ foundInstead "" t
  | noComparison none => "expected comparison, found None"
  | noComparison (some t) => "expected comparison, found Some(" ++ t.describe ++ ")"
  | noCloseParen t => "expected ')'" ++ foundInstead ", found end of input" t
  | noPeriod t => "expected '.'" ++ foundInstead ", found end of input" t

structure SyntaxError where
  line : Nat
  cause : SyntaxCause
  deriving BEq

def SyntaxError.message (e : SyntaxError) : String :=
  "syntax error at line " ++ toString e.line ++ ": " ++ e.cause.message

end Utterance.Rule
