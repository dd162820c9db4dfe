import Utterance.Fault
import Utterance.Text.Utf8

/-!
Files, as far as they matter here: octets that should be a text.
-/

namespace Utterance

inductive File where
  | missing
  | octets (content : List UInt8)
  /-- A directory, which can be neither read nor written as a file. -/
  | directory

namespace File

def ofText (s : String) : File :=
  octets (Text.Utf8.encode s)

/-- The fault of a directory in the place of a file. -/
def taken : Fault := .io "the place of the file is taken by a directory"

/-- The fault of a file that holds no text. -/
def noText : Fault := .io "the file does not hold a text"

/-- The text of a file; nothing if there is none. -/
def read : File → Outcome (Option String)
  | missing => .ok none
  | octets content =>
    match Text.Utf8.text? content with
    | some s => .ok (some s)
    | none => .error noText
  | directory => .error taken

def append (more : String) : File → Outcome File
  | missing => .ok (ofText more)
  | octets content => .ok (octets (content ++ Text.Utf8.encode more))
  | directory => .error taken

end File

end Utterance
