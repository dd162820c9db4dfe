import Utterance.Text.Category
import Utterance.Text.Hex

/-!
Text as it is quoted inside a message: between double quotes, with an escape for every character
that a reader would not see or would take for the end of the quotation. A reader does not see controls,
marks of format, blanks beyond the plain one, code points without a character, and signs that attach to the
one before them.
-/

namespace Utterance.Text

/-- Characters that show nothing of their own. -/
def hidden : CharSet :=
  ofCategories ["Cc", "Cf", "Cs", "Co", "Cn", "Zl", "Zp", "Zs"]

/-- Signs that attach to the one before them, and are no narrow marks. -/
def otherExtending : CharSet := .ofTable "
  9be 1 18 1 166 1 18 1 66 1 18 1 e8 1 1 1 4 2 1 2 9 2 67 1 18 1 77 1 f 1 935 1 1e 1 400 1 5 1 1 1
  5 2 65 1 47 2 418 1 1021 2 7923 1 6c 1 55dd 2 1220 1 74 1 108 1 e 1 9 1 60 1 9 1 2 1 1 3 5 1 e0
  1 c 1 f1 1 106 1 279 1 c 1 603 1 50ae 2 6173 2 6 6 c2ead 60"

def extending : CharSet :=
  (ofCategories narrowMarks).union otherExtending

def isVisible (c : Char) : Bool :=
  if c.toNat < 128 then 32 ≤ c.toNat && c.toNat < 127
  else !hidden.contains c && !extending.contains c

def shownChar (c : Char) : List Char :=
  if c == '"' then ['\\', '"']
  else if c == '\\' then ['\\', '\\']
  else if c == '\n' then ['\\', 'n']
  else if c == '\r' then ['\\', 'r']
  else if c == '\t' then ['\\', 't']
  else if c.toNat = 0 then ['\\', '0']
  else if isVisible c then [c]
  else ['\\', 'u', '\x7b'] ++ hexDigits c.toNat ++ ['\x7d']

def shown (s : String) : String :=
  String.ofList ('"' :: s.toList.flatMap shownChar ++ ['"'])

end Utterance.Text
