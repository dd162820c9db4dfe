import Utterance.Pattern.Edition

/-!
Properties of characters by their names.

Names are compared loosely: case does not count, nor do blanks, dashes and underscores, nor an `is` in
front. A property is made up of whole categories, with single characters put in and taken out by tables;
a property is decoded only when it is asked for.
-/

namespace Utterance.Pattern

/-- A property: its names, and its characters, which are those of some categories, more ones by a table, and
less ones by another. -/
structure Property where
  names : List String
  categories : List String := []
  more : String := ""
  less : String := ""

namespace Property

def isNameChar (c : Char) : Bool :=
  c.toNat < 128 && c != ' ' && c != '_' && c != '-'

/-- Text behind an `is` in any case. -/
def behindIs? : List Char → Option (List Char)
  | i :: s :: rest => if i.toLower == 'i' && s.toLower == 's' then some rest else none
  | _ => none

/-- A name as it is compared. An `is` in front does not count, unless it stands before the letter that is
the name of a category. -/
def looseName (name : List Char) : String :=
  let reduce (cs : List Char) := (cs.filter isNameChar).map Char.toLower
  match (behindIs? name).map reduce with
  | some ['c'] => "isc"
  | some rest => String.ofList rest
  | none => String.ofList (reduce name)

def isNamed (p : Property) (name : String) : Bool :=
  p.names.any fun n => looseName n.toList == name

def added (p : Property) : CharSet := .ofTable p.more

def removed (p : Property) : CharSet := .ofTable p.less

def set (p : Property) : CharSet :=
  ((ofCategories p.categories).union p.added).diff p.removed

def named? (ps : List Property) (name : String) : Option Property :=
  ps.find? (·.isNamed name)

def find? (ps : List Property) (name : String) : Option CharSet :=
  (named? ps name).map set

end Property

end Utterance.Pattern
