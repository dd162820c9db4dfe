import Utterance.Rule.Token
import Utterance.Text.Blank

/-!
From the text of a program to its tokens.

At each place `lexemeAt` says which token stands there and how many characters it takes; `lexFrom`
walks over the text, passing the characters of a token once it has been read.
-/

namespace Utterance.Rule

def isNameChar (c : Char) : Bool :=
  c.isAlphanum || c == '_'

/-- The front of an identifier: name characters, and colons before a letter. -/
def identChars : List Char → List Char
  | [] => []
  | c :: rest =>
    let inside := isNameChar c || (c == ':' && (rest.head?.map Char.isAlpha).getD false)
    if inside then c :: identChars rest else []

/-- The characters of a string behind its opening quote, and how many were read to the closing one. -/
def stringChars : List Char → Except SyntaxCause (List Char × Nat)
  | [] => .error .openString
  | '"' :: _ => .ok ([], 1)
  | ['\\'] => .error .openEscape
  | '\\' :: c :: rest =>
    let meant := match c with
      | 'n' => '\n'
      | 't' => '\t'
      | 'r' => '\r'
      | c => c
    (stringChars rest).map fun (cs, n) => (meant :: cs, n + 2)
  | c :: rest => (stringChars rest).map fun (cs, n) => (c :: cs, n + 1)

/-- A number: digits behind an optional minus, and a fraction where a digit follows the point. -/
def numberAt (cs : List Char) : Except SyntaxCause (Token × Nat) :=
  let sign := if cs.head? == some '-' then ['-'] else []
  let whole := (cs.drop sign.length).takeWhile Char.isDigit
  let rest := cs.drop (sign.length + whole.length)
  let part :=
    match rest with
    | '.' :: tail => tail.takeWhile Char.isDigit
    | _ => []
  if part.isEmpty then
    let text := sign ++ whole
    match Decimal.int64? (String.ofList text) with
    | .ok n => .ok (.int n, text.length)
    | .error e => .error (.number e)
  else
    let text := sign ++ whole ++ '.' :: part
    .ok (.float ((Decimal.float? (String.ofList text)).getD 0), text.length)

def headIs (p : Char → Bool) (cs : List Char) : Bool :=
  (cs.head?.map p).getD false

/-- What stands at the front of a text: a token, or none for a blank or a comment, and the number of
its characters. -/
def lexemeAt (c : Char) (rest : List Char) : Except SyntaxCause (Option Token × Nat) :=
  let mark (t : Token) (n : Nat) : Except SyntaxCause (Option Token × Nat) := .ok (some t, n)
  let equalsNext := rest.head? == some '='
  if Text.isBlank c then .ok (none, 1)
  else if c == '#' then .ok (none, 1 + (rest.takeWhile (· != '\n')).length)
  else if c == '(' then mark .openParen 1
  else if c == ')' then mark .closeParen 1
  else if c == ',' then mark .comma 1
  else if c == '.' then mark .period 1
  else if c == ':' && rest.head? == some '-' then mark .implies 2
  else if c == '!' then if equalsNext then mark (.compare .ne) 2 else mark .bang 1
  else if c == '=' then mark (.compare .eq) (if equalsNext then 2 else 1)
  else if c == '<' then if equalsNext then mark (.compare .le) 2 else mark (.compare .lt) 1
  else if c == '>' then if equalsNext then mark (.compare .ge) 2 else mark (.compare .gt) 1
  else if c == '"' then (stringChars rest).map fun (cs, n) => (some (.str (String.ofList cs)), n + 1)
  else if c == '/' && headIs isNameChar rest then
    let name := rest.takeWhile fun d => isNameChar d || d == '/' || d == '-'
    mark (.atom (String.ofList ('/' :: name))) (name.length + 1)
  else if c.isDigit || (c == '-' && headIs Char.isDigit rest) then
    (numberAt (c :: rest)).map fun (t, n) => (some t, n)
  else if c.isLower then
    let name := identChars (c :: rest)
    mark (.ident (String.ofList name)) name.length
  else if c.isUpper || c == '_' then
    let name := (c :: rest).takeWhile isNameChar
    mark (.var (String.ofList name)) name.length
  else .error (.unexpected c)

/-- The tokens of a text that starts on `line`, whose first `skip` characters were read already. -/
def lexFrom (line skip : Nat) : List Char → Except SyntaxError (List Lexeme)
  | [] => .ok []
  | c :: rest =>
    let next := if c == '\n' then line + 1 else line
    match skip with
    | skip + 1 => lexFrom next skip rest
    | 0 =>
      match lexemeAt c rest with
      | .error cause => .error ⟨line, cause⟩
      | .ok (none, n) => lexFrom next (n - 1) rest
      | .ok (some t, n) => (lexFrom next (n - 1) rest).map (⟨t, line⟩ :: ·)

def lex (s : String) : Except SyntaxError (List Lexeme) :=
  lexFrom 1 0 s.toList

end Utterance.Rule
