import Utterance.Text.CharSet

/-!
Blank characters, and texts without them at their ends.
-/

namespace Utterance.Text

/-- White space of any script: the tab to the carriage return, the blank, the next-line mark, and
the spaces and separators beyond. -/
def blank : CharSet :=
  ⟨[(9, 13), (32, 32), (133, 133), (160, 160), (5760, 5760), (8192, 8202), (8232, 8233), (8239, 8239),
    (8287, 8287), (12288, 12288)]⟩

def isBlank (c : Char) : Bool :=
  blank.contains c

def trimStart (p : Char → Bool) (cs : List Char) : List Char :=
  cs.dropWhile p

def trimEnd (p : Char → Bool) (cs : List Char) : List Char :=
  (cs.reverse.dropWhile p).reverse

def trim (cs : List Char) : List Char :=
  trimEnd isBlank (trimStart isBlank cs)

def trimmed (s : String) : String :=
  String.ofList (trim s.toList)

end Utterance.Text
