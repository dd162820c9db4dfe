import Utterance.Pattern.Property.Age
import Utterance.Pattern.Property.Break
import Utterance.Pattern.Property.Kind
import Utterance.Pattern.Property.Script
import Utterance.Pattern.Property.Trait
import Utterance.Pattern.Written

/-!
The characters that a pattern asks for by a property.
-/

namespace Utterance.Pattern.PropertyQuery

open Property

/-- Whether all characters with another value are asked for. -/
def isNegated : PropertyQuery → Bool
  | named _ => false
  | valued _ _ isNegated => isNegated

/-- The characters that have a property, or are of a kind or script. -/
def byName? (name : String) : Option CharSet :=
  (find? traits name).orElse fun _ => (find? kinds name).orElse fun _ => script? name

def byValue? (name value : String) : Option CharSet :=
  match name with
  | "gc" | "generalcategory" => find? kinds value
  | "sc" | "script" => script? value
  | "scx" | "scriptextensions" => usedIn? value
  | "age" => knownTo? value
  | "gcb" | "graphemeclusterbreak" => find? signBreaks value
  | "wb" | "wordbreak" => find? wordBreaks value
  | "sb" | "sentencebreak" => find? sentenceBreaks value
  | _ => none

/-- The characters with the property that a query names, whether it is negated or not. -/
def set? : PropertyQuery → Option CharSet
  | named name => byName? (looseName name)
  | valued name value _ => byValue? (looseName name) (looseName value)

end Utterance.Pattern.PropertyQuery
