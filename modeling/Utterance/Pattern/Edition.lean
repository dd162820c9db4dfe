import Utterance.Text.Letter

/-!
The characters that patterns know: those of the edition of the character tables before the newest one.
-/

namespace Utterance.Pattern

def newest : CharSet := .ofTable "
  88f 1 3cc 1 7f 1 df2 f 2 c 5d5 1 ad4 1 7c37 2 2 1 1 1 1c 1 53d1 10 1bd 2 36 7 b71 1a 56b 3 8 9
  21 2 c64 8 248 2c 4 a 50b6 19 2 19 11e 5 1801 8 509 16 61 73 3f07 3 1bd 17 f 11 17cf 1f 1 16 8 2
  fd8 1 9e 4 155 9 17b 4 32 1 3 1 39 1 4 1 1c 1 4 1 10a 1 bb3f 6 1762 c 5502 10ca"

/-- A small letter that the newest edition counts among the letters without case. -/
def formerSmall : CharSet := .range 0x295 0x295

def known (s : CharSet) : CharSet :=
  s.diff newest

def ofCategories (names : List String) : CharSet :=
  let s := (Text.ofCategories names).diff (newest.union formerSmall)
  let s := if names.contains "Cn" then s.union newest else s
  if names.contains "Ll" then s.union formerSmall else s

def digits : CharSet := ofCategories ["Nd"]

def joiners : CharSet := .range 0x200c 0x200d

/-- Characters of words: letters, marks, decimal digits, connectors and joiners. -/
def word : CharSet :=
  .unions [known Text.alphabetic, ofCategories ["Mc", "Me", "Mn", "Nd", "Pc"], joiners]

def asciiWord : CharSet := ⟨[(48, 57), (65, 90), (95, 95), (97, 122)]⟩

end Utterance.Pattern
