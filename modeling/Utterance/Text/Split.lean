import Utterance.Text.Blank

/-!
Cutting a text at separators and looking for one text inside another.
-/

namespace Utterance.Text

/-- The pieces between the characters that satisfy `p`, empty pieces included: always one more than
there are such characters. -/
def splitWhere (p : Char → Bool) : List Char → List (List Char)
  | [] => [[]]
  | c :: rest =>
    if p c then [] :: splitWhere p rest
    else
      match splitWhere p rest with
      | [] => [[c]]
      | piece :: pieces => (c :: piece) :: pieces

/-- The lines of a text. A line ends at a line feed, and a carriage return before the feed belongs to
the end; what follows the last feed is a line of its own unless it is empty. -/
def lines (cs : List Char) : List (List Char) :=
  match (splitWhere (· == '\n') cs).reverse with
  | [] => []
  | last :: before =>
    let ended := before.reverse.map fun l =>
      if l.getLast? == some '\r' then l.dropLast else l
    if last.isEmpty then ended else ended ++ [last]

def after? (lead cs : List Char) : Option (List Char) :=
  if lead.isPrefixOf cs then some (cs.drop lead.length) else none

/-- The texts in front of and behind the first place where `mark` stands in `cs`. -/
def cut? (mark : List Char) : List Char → Option (List Char × List Char)
  | [] => if mark.isEmpty then some ([], []) else none
  | c :: rest =>
    match after? mark (c :: rest) with
    | some tail => some ([], tail)
    | none => (cut? mark rest).map fun (front, tail) => (c :: front, tail)

def occursIn (part cs : List Char) : Bool :=
  (cut? part cs).isSome

def contains (s part : String) : Bool :=
  occursIn part.toList s.toList

/-- `cs` without the places where `mark` stands, the first `skip` characters left out as well. -/
def withoutFrom (mark : List Char) (skip : Nat) : List Char → List Char
  | [] => []
  | c :: rest =>
    match skip with
    | skip + 1 => withoutFrom mark skip rest
    | 0 =>
      if mark.isPrefixOf (c :: rest) then withoutFrom mark (mark.length - 1) rest
      else c :: withoutFrom mark 0 rest

/-- `cs` without the places where `mark` stands, found from the front. -/
def without (mark cs : List Char) : List Char :=
  withoutFrom mark 0 cs

def startsWith (s lead : String) : Bool :=
  lead.toList.isPrefixOf s.toList

def endsWith (s tail : String) : Bool :=
  tail.toList.reverse.isPrefixOf s.toList.reverse

def join (mark : String) : List String → String
  | [] => ""
  | [s] => s
  | s :: rest => s ++ mark ++ join mark rest

end Utterance.Text
