import Utterance.Intent
import Utterance.Pattern

/-!
What the phrasing of a message tells without any model: its target, its constraint and its category.
-/

namespace Utterance

/-- The most characters of a message that are looked at. -/
def maxMessage : Nat := 2000

def shortened (message : String) : String :=
  String.ofList (message.toList.take maxMessage)

namespace Phrasing

def fileEnding : String :=
  "(?:go|rs|py|js|jsx|ts|tsx|java|kt|c|cc|cpp|h|hpp|rb|php|cs|swift|scala|md|json|ya?ml|toml|sql|sh|mg|proto|html|css)"

/-- Targets in the order in which they are looked for: a quoted path, a path, a named definition, a
call, anything quoted, and the code as a whole. -/
def targetPatterns : List Pattern.Program := [
  Pattern.fixed ("[\"'`]((?:[\\w.\\-]+/)*[\\w.\\-]+\\." ++ fileEnding ++ ")[\"'`]"),
  Pattern.fixed
    ("(?:^|[\\s(])((?:[\\w.\\-]+/)*[\\w\\-]+(?:\\.[\\w\\-]+)*\\." ++ fileEnding ++ ")\\b"),
  Pattern.fixed
    "(?i)\\b(?:function|func|method|fn|class|struct|type|interface|trait|enum)\\s+`?([A-Za-z_][\\w:.]*)",
  Pattern.fixed "\\b([A-Za-z_][\\w:.]*)\\(\\)",
  Pattern.fixed "`([^`]+)`",
  Pattern.fixed "\"([^\"]+)\"",
  Pattern.fixed
    "(?i)\\b(?:my|the|this|our|entire|whole)\\s+(code(?:base)?|project|repo(?:sitory)?)\\b"]

/-- Constraints in the order in which they are looked for: a language, what to do without, what to
do only, and what to care for. -/
def constraintPatterns : List Pattern.Program := [
  Pattern.fixed
    "(?i)\\b(?:in|using|with)\\s+(go|golang|rust|python|typescript|javascript|java|kotlin|swift|ruby|c\\+\\+|c#)\\b",
  Pattern.fixed "(?i)\\b(without\\s+[\\w\\s\\-]+?)(?:[.,;!?]|$)",
  Pattern.fixed "(?i)\\b(only\\s+[\\w\\s\\-]+?)(?:[.,;!?]|$)",
  Pattern.fixed
    "(?i)\\b(?:for|focus(?:ing)?\\s+on)\\s+(performance|readability|security|memory(?:\\s+usage)?|correctness|maintainability|thread[\\s\\-]safety)\\b"]

def ruleOpening : Pattern.Program :=
  Pattern.fixed
    "(?i)^\\s*(always|never|from now on|remember to|remember that|prefer|don't ever|by default)\\b"

def question : Pattern.Program :=
  Pattern.fixed
    "(?i)^\\s*(what|why|how|where|when|who|which|is|are|can you explain|could you explain|does|do|should|would)\\b|\\?\\s*$"

def changeOpening : Pattern.Program :=
  Pattern.fixed
    "(?i)^\\s*(please\\s+)?(fix|add|create|delete|remove|refactor|rename|update|change|implement|write|move|replace|make)\\b"

/-- The first text that one of the patterns picks out, without outer blanks. -/
def pick? (patterns : List Pattern.Program) (message : String) : Option String :=
  (patterns.findSome? (·.group? 1 (shortened message))).map Text.trimmed

def target (message : String) : String :=
  ((pick? targetPatterns message).filter (!·.isEmpty)).getD noTarget

def constraint (message : String) : String :=
  (pick? constraintPatterns message).getD ""

/-- The category that the phrasing makes plain, or else the one given. -/
def category (message : String) (default : Category) : Category :=
  let text := shortened message
  if ruleOpening.matches text then .instruction
  else if question.matches text then .query
  else if changeOpening.matches text then .mutation
  else default

end Phrasing

end Utterance
