import Utterance.Http.Address
import Utterance.Json.Basic
import Utterance.Text.Utf8
import Utterance.Text.Case

/-!
Requests to servers, and their answers.
-/

namespace Utterance.Http

structure Request where
  url : String
  headers : List (String × String)
  body : Json

def isHeaderChar (c : Char) : Bool :=
  (32 ≤ c.toNat && c.toNat != 127) || c == '\t'

/-- Whether a request can be sent: it names a server, and its headers can be written. -/
def Request.isValid (r : Request) : Bool :=
  Address.isValid r.url && r.headers.all fun h => h.2.toList.all isHeaderChar

inductive Ending where
  | complete
  /-- The connection breaks off. -/
  | broken
  /-- It never does. -/
  | never
  deriving DecidableEq

/-- An answer; its body arrives in pieces. -/
structure Answer where
  status : Nat
  headers : List (String × String) := []
  pieces : List (List UInt8) := []
  ending : Ending := .complete

namespace Answer

def isSuccess (a : Answer) : Bool :=
  200 ≤ a.status && a.status < 300

def isServerError (a : Answer) : Bool :=
  500 ≤ a.status && a.status < 600

/-- The first header of a name, the case of which does not matter. -/
def header? (a : Answer) (name : String) : Option String :=
  (a.headers.find? fun h => Text.lowered h.1 == name).map Prod.snd

/-- What has arrived, read as UTF-8: the text of a body that has no mark at its front, where the headers
name no other character set. -/
def plainText (a : Answer) : String :=
  String.ofList (Text.Utf8.decode a.pieces.flatten)

end Answer

end Utterance.Http
